import LiveKitRust.DataStream.Completeness
import LiveKitRust.DataStream.Sending
import Mathlib.Data.Set.List

/-!
# The round trip of a data stream

The packets of a payload reach the manager of another participant in order, among packets of other
streams and anything the application does (`Delivers`). The reader of the stream was then sent
exactly the chunks (`Receives`), whatever polls come between.

The length that a byte stream is opened with is up to the application; `round_trip_wrong_length` is
a stream that was announced too long.
-/

open Machine List

namespace LiveKit.DataStream

/-! ### Receiving -/

/-- The reader was sent these chunks and nothing else, and its stream is still open, or
was closed without an error. -/
structure Receives (info : AnyStreamInfo) (identity : String) (n : ℕ) (isOpen : Bool)
    (sent : List Bytes) (log : List Received) (system : Stream) : Prop where
  alive : system.alive = true
  descriptor : isOpen = true → ∃ isInternal, system.descriptor =
    some ⟨⟨sent.length, sent.flatten.length, info.totalLength⟩, n, info.encryptionType, isInternal⟩
  reader : ∃ queue, system.readers[n]? = some ⟨info, identity, queue, isOpen, .listening⟩ ∧
    itemsOf (pollsOf n log) ++ queue = sent.map .ok

variable {s : Descriptor} {header : Header} {data : Payload}

lemma Descriptor.accept_of {c} (hindex : c.chunkIndex = s.progress.chunkIndex)
    (hlen : ∀ total ∈ s.progress.bytesTotal, s.progress.bytesProcessed + c.content.length ≤ total) :
    s.accept c s.encryptionType = .ok (s.progress.advance c.content.length) := by
  have hfits : (s.progress.advance c.content.length).bytesTotal.any
      (· < (s.progress.advance c.content.length).bytesProcessed) = false := by
    rw [Option.any_eq_false]
    intro total htotal
    exact decide_eq_false (Nat.not_lt.mpr (hlen total htotal))
  simp [accept, hindex, hfits]

lemma Descriptor.finish_of {trailer} (hreason : trailer.reason = "")
    (hlen : ∀ total ∈ s.progress.bytesTotal, total ≤ s.progress.bytesProcessed) :
    s.finish trailer = .ok () := by
  have hall : s.progress.bytesTotal.all (· ≤ s.progress.bytesProcessed) = true := by
    rw [Option.all_eq_true]
    intro total htotal
    simpa using hlen total htotal
  simp [finish, hall, hreason]

/-- The chunks of a text are texts. -/
def Decodes (info : AnyStreamInfo) (contents : List Bytes) : Prop :=
  info.content = .textHeader → ∀ content ∈ contents, ∃ text, Utf8.decode content = some text

section Receives

variable {info : AnyStreamInfo} {ident : String} {n : ℕ} {isOpen : Bool} {sent : List Bytes}
  {log : List Received} {s : Stream}

lemma receives_opened (ident : String) {header} (halive : s.alive = true)
    (hcl : s.descriptor = none) (hsi : pollsOf s.readers.length log = [])
    (hinfo : AnyStreamInfo.tryFromWithEncryption header info.encryptionType = .ok info) :
    Receives info ident s.readers.length true [] log
      (s.step (.packet ident info.encryptionType (.streamHeader header))).1 := by
  have hstep : (s.step (.packet ident info.encryptionType (.streamHeader header))).1 =
      s.openWith info ident := by
    simp [Stream.step, halive, Stream.handlePacket, Stream.handleHeader, hinfo, hcl]
  rw [hstep]
  refine ⟨halive, fun _ => ⟨_, rfl⟩, [], ?_, by rw [hsi]; rfl⟩
  simp [Stream.openWith]

lemma Receives.chunk (h : Receives info ident n true sent log s) (identity' id content)
    (hlen : ∀ total ∈ info.totalLength, (sent ++ [content]).flatten.length ≤ total) :
    Receives info ident n true (sent ++ [content]) log (s.step
      (.packet identity' info.encryptionType
        (RawStream.createChunkPacket id sent.length content))).1 := by
  obtain ⟨isInternal, hd⟩ := h.descriptor rfl
  obtain ⟨queue, hr, hitems⟩ := h.reader
  let d : Descriptor :=
    ⟨⟨sent.length, sent.flatten.length, info.totalLength⟩, n, info.encryptionType, isInternal⟩
  -- the index is the number of chunks so far, and the length is not exceeded
  have haccept : d.accept ⟨id, sent.length, content⟩ info.encryptionType =
      .ok (d.progress.advance content.length) := by
    apply Descriptor.accept_of rfl
    intro total htotal
    have hle := hlen total htotal
    rwa [flatten_append, length_append, flatten_singleton] at hle
  have hstep : (s.step (.packet identity' info.encryptionType
      (RawStream.createChunkPacket id sent.length content))).1 =
      { s with
        descriptor := some { d with progress := d.progress.advance content.length }
        readers := s.readers.modify n fun _ =>
          ⟨info, ident, queue ++ [.ok content], true, .listening⟩ } := by
    simp only [Stream.step, h.alive, if_true, RawStream.createChunkPacket, Stream.handlePacket,
      Stream.handleChunk, hd, haccept, d, Stream.yieldChunk, hr,
      Option.bind_some, Reader.send, Reader.push, Stream.modifyReader]
  rw [hstep]
  refine ⟨h.alive, fun _ => ⟨isInternal, ?_⟩, queue ++ [.ok content], ?_, ?_⟩
  · simp [d, StreamProgress.advance]
  · dsimp only
    rw [getElem?_modify_eq, hr]
    rfl
  · rw [← append_assoc, hitems, map_append]
    rfl

lemma Receives.trailer (h : Receives info ident n true sent log s) (identity')
    (hlen : ∀ total ∈ info.totalLength, total ≤ sent.flatten.length) (id) :
    Receives info ident n false sent log (s.step
      (.packet identity' info.encryptionType (RawStream.createTrailerPacket id none))).1 := by
  obtain ⟨isInternal, hd⟩ := h.descriptor rfl
  obtain ⟨queue, hr, hitems⟩ := h.reader
  have hfinish : Descriptor.finish ⟨⟨sent.length, sent.flatten.length, info.totalLength⟩, n,
      info.encryptionType, isInternal⟩ ⟨id, ""⟩ = .ok () := Descriptor.finish_of rfl hlen
  have hstep : (s.step (.packet identity' info.encryptionType
      (RawStream.createTrailerPacket id none))).1 =
      { s with
        descriptor := none
        readers := s.readers.modify n Reader.hangUp } := by
    simp only [Stream.step, h.alive, if_true, RawStream.createTrailerPacket, Option.getD_none,
      Stream.handlePacket, Stream.handleTrailer, hd, hfinish, Stream.closeStream,
      Stream.modifyReader]
  rw [hstep]
  refine ⟨h.alive, by simp, queue, ?_, hitems⟩
  rw [getElem?_modify_eq, hr]
  rfl

lemma Receives.pollNext (ident) {queue} (hitems : itemsOf (pollsOf n log) ++ queue = sent.map .ok)
    (htext : Decodes info sent) (id isOpen) :
    ∃ items queue', Reader.pollNext ⟨info, ident, queue, isOpen, .listening⟩ =
        (items, ⟨info, ident, queue', isOpen, .listening⟩) ∧
      itemsOf (pollsOf n (log ++ items.toList.map (Received.mk id n))) ++ queue' =
        sent.map .ok := by
  cases queue with
  | nil =>
    refine ⟨if isOpen then none else some none, [], ?_, ?_⟩
    · cases isOpen <;> simp [Reader.pollNext, Reader.pollRecv, Reader.rejects]
    · rw [pollsOf_append, pollsOf_map_mk, if_pos rfl, itemsOf_append, ← hitems]
      cases isOpen <;> simp [itemsOf]
  | cons item queue =>
    -- the item is one of the chunks
    have hm : item ∈ sent.map .ok := by
      rw [← hitems]
      exact mem_append_right _ (.head _)
    obtain ⟨content, hcontent, rfl⟩ := mem_map.mp hm
    have hrejects : Reader.rejects ⟨info, ident, .ok content :: queue, isOpen, .listening⟩
        (some (some (.ok content))) = false := by
      refine decide_eq_false ?_
      rintro ⟨hkind, hdecode⟩
      obtain ⟨_, hs⟩ := htext hkind content hcontent
      cases hdecode.symm.trans hs
    refine ⟨some (some (.ok content)), queue, ?_, ?_⟩
    · simp [Reader.pollNext, Reader.pollRecv, hrejects]
    · rw [pollsOf_append, pollsOf_map_mk, if_pos rfl, itemsOf_append, ← hitems]
      simp [itemsOf]

/-- Neither a packet, nor the end of the manager or of the reader. -/
def Action.isQuiet (n : ℕ) : Action → Bool
  | .next _ _ => true
  | .close _ m => m ≠ n
  | _ => false

/-- The stream stays as it is, except for other readers, and the reader is not polled. -/
structure Spares (n : ℕ) (before after : Stream) (items : List Received) : Prop where
  alive : after.alive = before.alive
  descriptor : after.descriptor = before.descriptor
  reader : after.readers[n]? = before.readers[n]?
  length : after.readers.length = before.readers.length
  silent : pollsOf n items = []

lemma Spares.refl (n : ℕ) (s : Stream) : Spares n s s [] := ⟨rfl, rfl, rfl, rfl, rfl⟩

lemma spares_modifyReader {m} (hne : m ≠ n) (f : Reader → Reader) (id : StreamId)
    (items : List (Option (StreamResult Bytes))) :
    Spares n s (s.modifyReader m f) (items.map (Received.mk id m)) := by
  refine ⟨rfl, rfl, getElem?_modify_ne _ _ hne, length_modify _ _ _, ?_⟩
  rw [pollsOf_map_mk, if_neg hne]

variable {a : Action}

lemma spares_of_quiet (hquiet : a.isQuiet n = true)
    (hot : ∀ id, a ≠ .next id n) : Spares n s (s.step a).1 (s.step a).2 := by
  cases a with
  | packet | drop => cases hquiet
  | close id => exact spares_modifyReader (of_decide_eq_true hquiet) _ id []
  | next id m =>
    have hne : m ≠ n := by
      rintro rfl
      exact hot id rfl
    cases hr : s.readers[m]? with
    | none =>
      simp only [Stream.step, Stream.next, hr]
      exact Spares.refl n s
    | some r =>
      by_cases hth : r.receiver = .dropped
      · simp only [Stream.step, Stream.next, hr, hth, if_true]
        exact Spares.refl n s
      · rw [Stream.step_next s id hr hth]
        exact spares_modifyReader hne _ id _

lemma Receives.spared {after items} (h : Receives info ident n isOpen sent log s)
    (hspares : Spares n s after items) :
    Receives info ident n isOpen sent (log ++ items) after := by
  obtain ⟨queue, hr, hitems⟩ := h.reader
  refine ⟨hspares.alive.trans h.alive, fun ho => ?_, queue, hspares.reader.trans hr, ?_⟩
  · rw [hspares.descriptor]
    exact h.descriptor ho
  · rw [pollsOf_append, hspares.silent, append_nil]
    exact hitems

lemma Receives.quiet (h : Receives info ident n isOpen sent log s) (hquiet : a.isQuiet n = true)
    (htext : Decodes info sent) :
    Receives info ident n isOpen sent (log ++ (s.step a).2) (s.step a).1 := by
  by_cases hpoll : ∃ id, a = .next id n
  · -- what the poll takes from the queue goes into the log
    obtain ⟨id, rfl⟩ := hpoll
    obtain ⟨_, hr, hitems⟩ := h.reader
    obtain ⟨_, queue', hn, hitems'⟩ := Receives.pollNext ident hitems htext id isOpen
    rw [Stream.step_next s id hr (by simp), hn]
    refine ⟨h.alive, h.descriptor, queue', ?_, hitems'⟩
    simp only [Stream.modifyReader]
    rw [getElem?_modify_eq, hr]
    rfl
  · exact h.spared (spares_of_quiet hquiet fun id heq => hpoll ⟨id, heq⟩)

end Receives

/-! ### Delivery -/

def Action.isPacketOf (id : StreamId) : Action → Bool
  | .packet _ _ dataPacket => dataPacket.streamId = id
  | _ => false

/-- The manager is handed these packets in order, and no other packets of the stream,
and neither the manager nor the reader is dropped. -/
structure Delivers (identity : String) (encryptionType : EncryptionType) (id : StreamId) (n : ℕ)
    (packets : List DataPacket) (actions : List Action) : Prop where
  packets_eq : actions.filter (Action.isPacketOf id) = packets.map (.packet identity encryptionType)
  kept : .drop ∉ actions
  reading : .close id n ∉ actions

namespace Delivers

variable {ident : String} {enc : EncryptionType} {id : StreamId} {n : ℕ}
  {packet : DataPacket} {acts : List Action}

variable {after : List DataPacket}

lemma split {pre} (h : Delivers ident enc id n (pre ++ packet :: after) acts) :
    ∃ first rest, acts = first ++ .packet ident enc packet :: rest ∧
      Delivers ident enc id n pre first ∧ packet.streamId = id ∧
      Delivers ident enc id n after rest := by
  have hpackets := h.packets_eq
  rw [map_append, map_cons] at hpackets
  obtain ⟨first, rest, rfl, hf, hr, hpacket⟩ := Incoming.exists_of_filter_eq hpackets
  have hsub : ∀ a, a ∈ first ∨ a ∈ rest → a ∈ first ++ .packet ident enc packet :: rest := by
    rintro _ (hm | hm)
    · exact mem_append_left _ hm
    · exact mem_append_right _ (mem_cons_of_mem _ hm)
  refine ⟨first, rest, rfl, ⟨hf, ?_, ?_⟩, of_decide_eq_true hpacket, hr, ?_, ?_⟩
  · exact fun hm => h.kept (hsub _ (.inl hm))
  · exact fun hm => h.reading (hsub _ (.inl hm))
  · exact fun hm => h.kept (hsub _ (.inr hm))
  · exact fun hm => h.reading (hsub _ (.inr hm))

lemma uncons (h : Delivers ident enc id n (packet :: after) acts) :
    ∃ first rest, acts = first ++ .packet ident enc packet :: rest ∧
      Delivers ident enc id n [] first ∧ packet.streamId = id ∧
      Delivers ident enc id n after rest :=
  h.split

lemma isQuiet (h : Delivers ident enc id n [] acts) :
    ∀ a ∈ acts.filter (Action.concerns id), a.isQuiet n = true := by
  intro a hac
  obtain ⟨hm, hcon⟩ := mem_filter.mp hac
  have hn := filter_eq_nil_iff.mp h.packets_eq a hm
  cases a with
  | packet => exact absurd hcon hn
  | next => rfl
  | close id' =>
    obtain rfl : id' = id := of_decide_eq_true hcon
    refine decide_eq_true ?_
    rintro rfl
    exact h.reading hm
  | drop => exact absurd hm h.kept

end Delivers

/-- The reader is the next one that a header would open. -/
structure Awaits (n : ℕ) (log : List Received) (system : Stream) : Prop where
  alive : system.alive = true
  descriptor : system.descriptor = none
  readers : system.readers.length = n
  silent : pollsOf n log = []

lemma Awaits.quiet {n log s} (h : Awaits n log s) {a} (hquiet : a.isQuiet n = true) :
    Awaits n (log ++ (s.step a).2) (s.step a).1 := by
  have hspares : Spares n s (s.step a).1 (s.step a).2 := by
    by_cases hpoll : ∃ id, a = .next id n
    · -- there is no such reader yet
      obtain ⟨_, rfl⟩ := hpoll
      have hr : s.readers[n]? = none := getElem?_eq_none h.readers.le
      simp only [Stream.step, Stream.next, hr]
      exact Spares.refl n s
    · exact spares_of_quiet hquiet fun id heq => hpoll ⟨id, heq⟩
  refine ⟨hspares.alive.trans h.alive, hspares.descriptor.trans h.descriptor,
    hspares.length.trans h.readers, ?_⟩
  rw [pollsOf_append, hspares.silent, h.silent]
  rfl

section Runs

variable {info : AnyStreamInfo} {ident : String} {n : ℕ} {isOpen : Bool} {sent : List Bytes}
  {log : List Received} {s : Incoming} {acts : List Action} {id : StreamId}

lemma Delivers.quiet_run {P : List Received → Stream → Prop}
    (hdelivers : Delivers ident info.encryptionType id n [] acts) (hinit : P log (s.stream id))
    (hstep : ∀ log s a, Action.isQuiet n a = true → P log s →
      P (log ++ (Stream.step s a).2) (Stream.step s a).1) :
    P (log ++ (outputs Incoming.step s acts).filter (·.id = id))
      ((state Incoming.step s acts).stream id) := by
  obtain ⟨hst, hout⟩ := Incoming.stream_run s id acts
  rw [hst, hout]
  exact run_invariant hinit _ fun log s a hm =>
    hstep log s a (hdelivers.isQuiet a hm)

lemma stream_packet (s : Incoming) {packet} (hid : packet.streamId = id) :
    (s.step (.packet ident info.encryptionType packet)).1.stream id =
        ((s.stream id).step (.packet ident info.encryptionType packet)).1 := by
  have hcon : (Action.packet ident info.encryptionType packet).concerns id = true :=
    decide_eq_true hid
  exact (Incoming.stream_step s hcon).1

variable {cs : List Bytes}

lemma Receives.chunks_run (h : Receives info ident n true sent log (s.stream id))
    (hdelivers : Delivers ident info.encryptionType id n (chunkPacketsFrom id sent.length cs) acts)
    (hlen : ∀ total ∈ info.totalLength, (sent ++ cs).flatten.length ≤ total)
    (htext : Decodes info (sent ++ cs)) : Receives info ident n true (sent ++ cs)
      (log ++ (outputs Incoming.step s acts).filter (·.id = id))
      ((state Incoming.step s acts).stream id) := by
  induction cs generalizing sent log s acts with
  | nil =>
    rw [append_nil] at htext ⊢
    exact hdelivers.quiet_run h fun log s a hquiet h => h.quiet hquiet htext
  | cons content _ ih =>
    obtain ⟨_, _, rfl, hf, hid, hr⟩ := hdelivers.uncons
    have hsent := hf.quiet_run h fun log s a hquiet h =>
      h.quiet hquiet fun hkind content hm =>
        htext hkind content (mem_append_left _ hm)
    have hn := hsent.chunk ident id content fun total htotal => by
      have hle := hlen total htotal
      rw [append_cons, flatten_append, length_append] at hle
      omega
    rw [← stream_packet _ hid] at hn
    rw [append_cons] at hlen htext ⊢
    rw [state_append, state_cons, outputs_append, outputs_cons, filter_append, ← append_assoc]
    refine ih hn ?_ hlen htext
    rw [length_append]
    exact hr

lemma Awaits.opened_run {header} (h : Awaits n log (s.stream id))
    (hinfo : AnyStreamInfo.tryFromWithEncryption header info.encryptionType = .ok info)
    (hdelivers : Delivers ident info.encryptionType id n
      (RawStream.createHeaderPacket header :: chunkPackets id cs) acts)
    (hlen : ∀ total ∈ info.totalLength, cs.flatten.length ≤ total) (htext : Decodes info cs) :
    Receives info ident n true cs (log ++ (outputs Incoming.step s acts).filter (·.id = id))
      ((state Incoming.step s acts).stream id) := by
  obtain ⟨_, _, rfl, hf, hid, hr⟩ := hdelivers.uncons
  have hawaits := hf.quiet_run h fun log s a hquiet h => h.quiet hquiet
  have hopened := receives_opened ident hawaits.alive hawaits.descriptor
    (by rw [hawaits.readers, hawaits.silent]) hinfo
  rw [hawaits.readers] at hopened
  change Receives info ident n true [] _ (Stream.step _ (.packet ident info.encryptionType
    (RawStream.createHeaderPacket header))).1 at hopened
  rw [← stream_packet _ hid] at hopened
  rw [chunkPackets_eq] at hr
  rw [state_append, state_cons, outputs_append, outputs_cons, filter_append, ← append_assoc]
  exact hopened.chunks_run hr hlen htext

end Runs

/-! ### The round trip -/

/-- The ways to open a stream for a payload. The length that `stream_bytes` announces is
the caller's. -/
inductive Opens : Header → Payload → Prop
  | streamText (options : StreamTextOptions) (uuid : StreamId) (writes : List String) :
      Opens (streamText options uuid) (.text writes)
  | streamBytes (options : StreamByteOptions) (uuid : StreamId) (writes : List Bytes)
      (h_total : ∀ total ∈ options.totalLength, total = writes.flatten.length) :
      Opens (streamBytes options uuid) (.bytes writes)
  | sendText (text : String) (options : StreamTextOptions) (uuid : StreamId) :
      Opens (sendText text options uuid) (.text [text])
  | sendBytes (bytes : Bytes) (options : StreamByteOptions) (uuid : StreamId) :
      Opens (sendBytes bytes options uuid) (.bytes [bytes])

lemma Opens.contentHeader (h : Opens header data) : header.contentHeader = some data.content := by
  cases h <;> rfl

lemma Opens.totalLength (h : Opens header data) :
    ∀ total ∈ header.totalLength, total = data.asBytes.length := by
  intro total htotal
  cases h with
  | streamText => cases htotal
  | streamBytes _ _ _ hann =>
    rw [hann total htotal, Payload.asBytes_bytes]
  | sendText =>
    cases htotal
    rw [Payload.asBytes, Payload.inputs, map_map, map_singleton, flatten_singleton]
    rfl
  | sendBytes =>
    cases htotal
    rw [Payload.asBytes_bytes, flatten_singleton]

def Payload.ReadBy (polls : List (Option (StreamResult Bytes))) : Payload → Prop
  | .bytes writes => ByteStreamReader.readAll polls = some (.ok writes.flatten)
  | .text writes => TextStreamReader.readAll polls = some (.ok (String.join writes))

lemma readAll_map_ok {α : Type} (extend : α → α → α) (buffer : α) (cs : List α) (ends : ℕ) :
    readAll extend buffer (cs.map (fun content => some (.ok content)) ++
      replicate (ends + 1) none) = some (.ok (cs.foldl extend buffer)) := by
  induction cs generalizing buffer with
  | nil => rfl
  | cons content _ ih => exact ih (extend buffer content)

lemma Payload.readBy_chunks (s : Payload) (ends : ℕ) :
    s.ReadBy ((s.chunks.map .ok).map some ++ replicate (ends + 1) none) := by
  cases s with
  | bytes writes =>
    have hread := readAll_map_ok (· ++ ·) [] (bytes writes).chunks ends
    rw [foldl_append, nil_append, flatten_chunks, asBytes_bytes] at hread
    rw [ReadBy, ByteStreamReader.readAll, map_map]
    exact hread
  | text writes =>
    -- the chunks are texts, which make up the text
    have htexts : (text writes).chunks ∈ Set.range (map Utf8.asBytes) := by
      rw [Set.range_list_map]
      intro _ hchunk
      obtain ⟨piece, hpiece⟩ := exists_text rfl hchunk
      exact ⟨piece, (Utf8.decode_eq_some_iff.mp hpiece).symm⟩
    obtain ⟨texts, htexts⟩ := htexts
    -- the chunks are cut elsewhere than the writes, but decoding is injective
    have hjoined : texts.foldl (· ++ ·) "" = String.join writes := by
      have hbytes : Utf8.asBytes (texts.foldl (· ++ ·) "") = Utf8.asBytes (String.join writes) := by
        rw [Utf8.asBytes_foldl, Utf8.asBytes_empty, nil_append, htexts, flatten_chunks,
          asBytes_text]
      have hdecoded := congrArg Utf8.decode hbytes
      rw [Utf8.decode_asBytes, Utf8.decode_asBytes] at hdecoded
      exact Option.some.inj hdecoded
    have hread := readAll_map_ok (· ++ ·) "" texts ends
    rw [hjoined] at hread
    rw [ReadBy, TextStreamReader.readAll, ← htexts, ← hread]
    congr 1
    simp [decodeItem, Utf8.decode_asBytes]

namespace Incoming

variable {reserved : List String} {pre : List Action}

lemma awaits {id} (halive : (state step (new reserved) pre).alive = true)
    (hnew : (state step (new reserved) pre).openStreams.lookup id = none) :
    Awaits ((state step (new reserved) pre).readersOf id).length
      ((outputs step (new reserved) pre).filter (·.id = id))
      ((state step (new reserved) pre).stream id) where
  alive := halive
  descriptor := hnew
  readers := rfl
  silent := by
    exact (tracks_any reserved pre id).silent _ (getElem?_eq_none (Nat.le_refl _))

lemma receives_delivered {delivery ident info header cs n}
    (hinfo : AnyStreamInfo.tryFromWithEncryption header info.encryptionType = .ok info)
    (htotal : ∀ total ∈ info.totalLength, total = cs.flatten.length) (htext : Decodes info cs)
    (hawaits : Awaits n ((outputs step (new reserved) pre).filter (·.id = header.streamId))
      ((state step (new reserved) pre).stream header.streamId))
    (hdelivery : Delivers ident info.encryptionType header.streamId n
      (RawStream.createHeaderPacket header :: (chunkPackets header.streamId cs ++
        [RawStream.createTrailerPacket header.streamId none])) delivery) :
    (∃ first rest, delivery = first ++ .packet ident info.encryptionType
        (RawStream.createTrailerPacket header.streamId none) :: rest ∧ Receives info ident n true cs
        ((outputs step (new reserved) (pre ++ first)).filter (·.id = header.streamId))
        ((state step (new reserved) (pre ++ first)).stream header.streamId)) ∧
    Receives info ident n false cs
      ((outputs step (new reserved) (pre ++ delivery)).filter (·.id = header.streamId))
      ((state step (new reserved) (pre ++ delivery)).stream header.streamId) := by
  rw [← cons_append] at hdelivery
  -- up to the trailer, the trailer, and what comes after it
  obtain ⟨first, rest, rfl, hf, hid, hr⟩ := hdelivery.split
  have hchunks := hawaits.opened_run hinfo hf (fun total hm => (htotal total hm).ge) htext
  rw [← filter_append, ← outputs_append, ← state_append] at hchunks
  have hcl := hchunks.trailer ident (fun total hm => (htotal total hm).le) header.streamId
  rw [← stream_packet _ hid] at hcl
  have hend := hr.quiet_run hcl fun log s a hquiet h => h.quiet hquiet htext
  refine ⟨⟨first, rest, rfl, hchunks⟩, ?_⟩
  rw [← append_assoc, state_append, outputs_append, filter_append]
  exact hend

/-- **Round trip.** A payload is written, write by write, to a stream that was opened
for it, and the stream closed. The packets are the header, the chunks numbered 0, 1, 2
and so on, and the trailer; the chunks make up the payload, and each chunk of a text is
a text. A manager that does not have the stream open is handed these packets in order.
When the trailer comes, both sides have counted the same progress, that of the whole
payload. The reader is given the chunks and then the end, and `read_all` returns the
payload. -/
theorem round_trip (reservedTopics : List String) (before delivery : List Action)
    (identity : String) (encryptionType : EncryptionType) (header : Header) (payload : Payload)
    (n : ℕ) (h_opens : Opens header payload)
    (h_alive : (state step (new reservedTopics) before).alive = true)
    (h_new : (state step (new reservedTopics) before).openStreams.lookup header.streamId = none)
    (h_n : n = ((state step (new reservedTopics) before).readersOf header.streamId).length)
    (h_delivery : Delivers identity encryptionType header.streamId n
      (Writers.packets header (Writers.writeAll 0 payload.inputs)) delivery) :
    (Writers.packets header (Writers.writeAll 0 payload.inputs) =
        RawStream.createHeaderPacket header :: (chunkPackets header.streamId payload.chunks ++
          [RawStream.createTrailerPacket header.streamId none]) ∧
      payload.chunks.flatten = payload.asBytes ∧
      (payload.content = .textHeader → ∀ chunk ∈ payload.chunks, ∃ text,
        Utf8.decode chunk = some text)) ∧
    ((state Writers.step (.opened header) (Writers.writeAll 0 payload.inputs)).stream.progress =
        ⟨payload.chunks.length, payload.asBytes.length, header.totalLength⟩ ∧
      ∃ first rest, delivery = first ++ .packet identity encryptionType
          (RawStream.createTrailerPacket header.streamId none) :: rest ∧
        ((state step (new reservedTopics) (before ++ first)).openStreams.lookup
          header.streamId).map (·.progress) =
            some ⟨payload.chunks.length, payload.asBytes.length, header.totalLength⟩) ∧
    ∃ reader, ((state step (new reservedTopics) (before ++ delivery)).readersOf
        header.streamId)[n]? = some reader ∧ reader.identity = identity ∧
      ∃ ends, polls header.streamId n (outputs step (new reservedTopics) (before ++ delivery ++
            List.replicate (reader.queue.length + 1) (.next header.streamId n))) =
          (payload.chunks.map .ok).map some ++ List.replicate (ends + 1) none ∧
        payload.ReadBy ((payload.chunks.map .ok).map some ++ List.replicate (ends + 1) none) := by
  subst h_n
  obtain ⟨hpackets, hprogress⟩ := Writers.packets_writeAll header payload
  have htext : payload.content = .textHeader → ∀ chunk ∈ payload.chunks, ∃ text,
      Utf8.decode chunk = some text := fun hkind chunk hchunk => Payload.exists_text hkind hchunk
  let info : AnyStreamInfo :=
    ⟨payload.content, header.streamId, header.topic, header.totalLength, encryptionType⟩
  have hinfo : AnyStreamInfo.tryFromWithEncryption header info.encryptionType = .ok info := by
    rw [AnyStreamInfo.tryFromWithEncryption, h_opens.contentHeader]
  have htotal : ∀ total ∈ header.totalLength, total = payload.chunks.flatten.length := by
    rw [payload.flatten_chunks]
    exact h_opens.totalLength
  rw [hpackets] at h_delivery
  obtain ⟨⟨first, rest, hsplit, hopen⟩, hend⟩ :=
    receives_delivered hinfo htotal htext (awaits h_alive h_new) h_delivery
  refine ⟨⟨hpackets, payload.flatten_chunks, htext⟩, ⟨hprogress, first, rest, hsplit, ?_⟩, ?_⟩
  · -- what the descriptor has counted when the trailer comes
    obtain ⟨_, hd⟩ := hopen.descriptor rfl
    rw [← payload.flatten_chunks]
    exact congrArg (Option.map fun d => d.progress) hd
  · -- what was not polled during the delivery is polled after it
    obtain ⟨_, hr, hitems⟩ := hend.reader
    refine ⟨_, hr, rfl, ?_⟩
    have htracks := tracks_any reservedTopics (before ++ delivery) header.streamId
    obtain ⟨ends, hdrained⟩ := (htracks.heard _ _ hr).polls_drained
    refine ⟨ends, ?_, payload.readBy_chunks ends⟩
    rw [polls_drain _ hr rfl (by simp), ← hitems]
    exact hdrained

def twoWrites : Payload := .bytes [[1, 2], [3]]

def twoWritesDelivered : List Action :=
  [.packet "alice" .none (.streamHeader ⟨"s", "t", some 3, some .byteHeader⟩), .next "s" 0,
    .packet "alice" .none (.streamChunk ⟨"s", 0, [1, 2]⟩), .next "s" 0,
    .packet "bob" .none (.streamHeader ⟨"b", "t", none, some .textHeader⟩),
    .packet "alice" .none (.streamChunk ⟨"s", 1, [3]⟩),
    .packet "alice" .none (.streamTrailer ⟨"s", ""⟩)]

theorem round_trip_twoWrites :
    ∃ reader, ((state step (new []) ([] ++ twoWritesDelivered)).readersOf "s")[0]? = some reader ∧
      reader.identity = "alice" ∧
      ∃ ends, polls "s" 0 (outputs step (new []) ([] ++ twoWritesDelivered ++
            List.replicate (reader.queue.length + 1) (.next "s" 0))) =
          (twoWrites.chunks.map .ok).map some ++ List.replicate (ends + 1) none ∧
        twoWrites.ReadBy ((twoWrites.chunks.map .ok).map some ++ List.replicate (ends + 1) none) :=
  (round_trip [] [] twoWritesDelivered "alice" .none (streamBytes ⟨"t", some "s", some 3⟩ "")
    twoWrites
    0 (.streamBytes _ _ _ (by simp)) rfl rfl rfl
    ⟨by decide +kernel, by decide +kernel, by decide +kernel⟩).2.2

/-- **A wrong length.** A byte stream that was announced with three bytes, and has two,
ends with an error. -/
theorem round_trip_wrong_length : ByteStreamReader.readAll (polls "s" 0 (outputs step (new [])
      ((Writers.packets (streamBytes ⟨"t", some "s", some 3⟩ "")
        (Writers.writeAll 0 [.bytes [1, 2]])).map
        (.packet "alice" .none) ++ [.next "s" 0, .next "s" 0]))) = some (.error .incomplete) := by
  decide +kernel

end Incoming

end LiveKit.DataStream
