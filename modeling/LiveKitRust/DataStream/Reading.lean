import LiveKitRust.Base.Tables
import LiveKitRust.DataStream.Stream

/-!
# What a reader lives through

`Stream.Move` says what one action can do to a stream: open it, pass a chunk on, close it in one of
four ways, or something at a reader's end of the channel.

`Life info history sent phase` is the life of a reader seen from outside the manager. Chunks are
sent in order and within the announced length, and nothing is sent to a reader whose stream is
closed. In every run of a stream every reader has such a life, and what it was sent is what it has
received and what waits in its channel (`tracks_run`).
-/

open Machine List

namespace LiveKit.DataStream

/-! ### The checks -/

namespace Descriptor

variable {s : Descriptor}

lemma accept_eq_ok {c enc progress} (h : s.accept c enc = .ok progress) :
    s.encryptionType = enc ∧ c.chunkIndex = s.progress.chunkIndex ∧
      progress = s.progress.advance c.content.length ∧ ∀ total ∈ s.progress.bytesTotal,
        s.progress.bytesProcessed + c.content.length ≤ total := by
  unfold accept at h
  split at h
  next => cases h
  next htype =>
  split at h
  next => cases h
  next hindex =>
  dsimp only at h
  split at h
  next => cases h
  next hlen =>
    refine ⟨not_not.mp htype, (not_not.mp hindex).symm, (Except.ok.inj h).symm, ?_⟩
    intro total htotal
    have htotal : (s.progress.advance c.content.length).bytesTotal = some total := htotal
    rw [htotal, Option.any_some] at hlen
    exact Nat.le_of_not_lt fun hlt => hlen (decide_eq_true hlt)

lemma finish_eq_ok {trailer} (h : s.finish trailer = .ok ()) :
    trailer.reason = "" ∧ ∀ total ∈ s.progress.bytesTotal, total ≤ s.progress.bytesProcessed := by
  unfold finish at h
  split at h
  next => cases h
  next hlen =>
  split at h
  next => cases h
  next hreason =>
    refine ⟨not_not.mp hreason, fun total htotal => ?_⟩
    have htotal : s.progress.bytesTotal = some total := htotal
    rw [htotal] at hlen
    simpa using hlen

end Descriptor

lemma Reader.pollNext_frame (rd : Reader) :
    rd.pollNext.2.info = rd.info ∧ rd.pollNext.2.identity = rd.identity ∧
      rd.pollNext.2.senderOpen = rd.senderOpen ∧
      (rd.pollNext.2.receiver = .listening → rd.receiver = .listening) := by
  have hrecv : rd.pollRecv.2 = { rd with queue := rd.pollRecv.2.queue } := by
    unfold pollRecv
    split <;> rfl
  unfold pollNext
  dsimp only
  rw [hrecv]
  split <;> simp

/-! ### What an action can do -/

namespace Stream

inductive Move (self : Stream) : Action → Stream → List Received → Prop
  | idle (action : Action) (alive : Bool) (h : alive = self.alive ∨ self.descriptor = none) :
      Move self action { self with alive := alive } []
  | opened {header identity encryptionType info} (h_alive : self.alive = true)
      (h_closed : self.descriptor = none)
      (h_info : AnyStreamInfo.tryFromWithEncryption header encryptionType = .ok info) :
      Move self (.packet identity encryptionType (.streamHeader header))
        (self.openWith info identity) []
  | yielded {descriptor chunk identity encryptionType progress}
      (h_open : self.descriptor = some descriptor)
      (h_accept : descriptor.accept chunk encryptionType = .ok progress)
      (h_there : ∀ reader ∈ self.readers[descriptor.chunkTx]?, reader.receiver = .listening) :
      Move self (.packet identity encryptionType (.streamChunk chunk))
        ({ self with descriptor := some { descriptor with progress := progress } }.modifyReader
          descriptor.chunkTx fun reader => reader.push (.ok chunk.content)) []
  | failed {descriptor} (action : Action) (error : StreamError)
      (h_open : self.descriptor = some descriptor)
      (h_there : ∀ reader ∈ self.readers[descriptor.chunkTx]?, reader.receiver = .listening) :
      Move self action ({ self with descriptor := none }.modifyReader descriptor.chunkTx
        fun reader => (reader.push (.error error)).hangUp) []
  /-- The receiving end of the channel is gone. -/
  | abandoned {descriptor} (action : Action) (h_open : self.descriptor = some descriptor)
      (h_gone : ∀ reader ∈ self.readers[descriptor.chunkTx]?, reader.receiver ≠ .listening) :
      Move self action
        ({ self with descriptor := none }.modifyReader descriptor.chunkTx Reader.hangUp) []
  | completed {descriptor trailer identity encryptionType}
      (h_open : self.descriptor = some descriptor) (h_finish : descriptor.finish trailer = .ok ()) :
      Move self (.packet identity encryptionType (.streamTrailer trailer))
        ({ self with descriptor := none }.modifyReader descriptor.chunkTx Reader.hangUp) []
  | orphaned {descriptor} (h_open : self.descriptor = some descriptor) :
      Move self .drop ({ self with descriptor := none, alive := false }.modifyReader
        descriptor.chunkTx Reader.hangUp) []
  | polled {id n reader} (h_reader : self.readers[n]? = some reader)
      (h_there : reader.receiver ≠ .dropped) :
      Move self (.next id n) (self.modifyReader n fun _ => reader.pollNext.2)
        (reader.pollNext.1.toList.map (Received.mk id n))
  | left (id : StreamId) (n : ℕ) :
      Move self (.close id n)
        (self.modifyReader n fun reader => { reader with receiver := .dropped }) []

section Moves

variable (s : Stream)

lemma modifyReader_congr {n f g} (h : ∀ rd ∈ s.readers[n]?, f rd = g rd) :
    s.modifyReader n f = s.modifyReader n g := by
  unfold modifyReader
  congr 1
  apply ext_getElem?
  intro m
  rw [getElem?_modify, getElem?_modify]
  by_cases heq : n = m
  · subst heq
    cases hr : s.readers[n]? with
    | none => rfl
    | some rd => simp [h rd hr]
  · simp [heq]

variable (a : Action)

lemma move_closeStreamWithError (error) : s.Move a (s.closeStreamWithError error) [] := by
  unfold closeStreamWithError
  split
  next => exact .idle a s.alive (.inl rfl)
  next d ho =>
    by_cases hth : ∀ rd ∈ s.readers[d.chunkTx]?, rd.receiver = .listening
    · have hmv := Move.failed a error ho hth
      rwa [modifyReader_congr _ fun rd hr => ?_] at hmv
      have hlis := hth rd hr
      simp [Reader.fail, Reader.send, hlis]
    · -- the error cannot be sent
      have hgone : ∀ rd ∈ s.readers[d.chunkTx]?, rd.receiver ≠ .listening := by
        intro _ hr hlis
        refine hth fun r' hr' => ?_
        obtain rfl := Option.mem_unique hr hr'
        exact hlis
      have hmv := Move.abandoned a ho hgone
      rwa [modifyReader_congr _ fun rd hr => ?_] at hmv
      have hgone' := hgone rd hr
      unfold Reader.fail Reader.send
      split
      next hlis => exact absurd hlis hgone'
      next => rfl

lemma move_handleHeader (halive : s.alive = true) (header ident enc) :
    s.Move (.packet ident enc (.streamHeader header)) (s.handleHeader header ident enc) [] := by
  unfold handleHeader
  split
  next => exact .idle _ s.alive (.inl rfl)
  next _ hinfo =>
    split
    next => exact .idle _ s.alive (.inl rfl)
    next hcl => exact .opened halive (Option.not_isSome_iff_eq_none.mp hcl) hinfo

lemma move_handleChunk (c ident enc) :
    s.Move (.packet ident enc (.streamChunk c)) (s.handleChunk c enc) [] := by
  unfold handleChunk
  split
  next => exact .idle _ s.alive (.inl rfl)
  next d ho =>
    split
    next => exact move_closeStreamWithError s _ _
    next _ haccept =>
      unfold yieldChunk closeStream
      dsimp only
      cases hsend : s.readers[d.chunkTx]?.bind (·.send (.ok c.content)) with
      | some after =>
        -- the reader is there
        obtain ⟨_, hr, hsend⟩ := Option.bind_eq_some_iff.mp hsend
        have hsent : ∀ r' ∈ s.readers[d.chunkTx]?,
            r'.receiver = .listening ∧ r'.push (.ok c.content) = after := by
          intro _ hr'
          obtain rfl := Option.mem_unique hr hr'
          unfold Reader.send at hsend
          split at hsend
          next hlis => exact ⟨hlis, Option.some.inj hsend⟩
          next => cases hsend
        have hmv : s.Move (.packet ident enc (.streamChunk c)) _ [] :=
          .yielded ho haccept fun r' hr' => (hsent r' hr').1
        rwa [modifyReader_congr _ fun r' hr' => ?_] at hmv
        exact (hsent r' hr').2
      | none =>
        refine .abandoned _ ho fun rd hr hlis => ?_
        rw [hr] at hsend
        simp [Reader.send, hlis] at hsend

lemma move_handleTrailer (trailer ident enc) :
    s.Move (.packet ident enc (.streamTrailer trailer)) (s.handleTrailer trailer) [] := by
  unfold handleTrailer
  split
  next => exact .idle _ s.alive (.inl rfl)
  next _ ho =>
    split
    next => exact move_closeStreamWithError s _ _
    next hfinish =>
      unfold closeStream
      rw [ho]
      exact .completed ho hfinish

lemma step_move : s.Move a (s.step a).1 (s.step a).2 := by
  cases a with
  | packet ident enc packet =>
    simp only [step]
    split
    next halive =>
      cases packet with
      | streamHeader header => exact move_handleHeader s halive header ident enc
      | streamChunk c => exact move_handleChunk s c ident enc
      | streamTrailer trailer => exact move_handleTrailer s trailer ident enc
    next => exact .idle _ s.alive (.inl rfl)
  | next _ n =>
    simp only [step, next]
    cases hr : s.readers[n]? with
    | none => exact .idle _ s.alive (.inl rfl)
    | some =>
      dsimp only
      split
      next => exact .idle _ s.alive (.inl rfl)
      next hth => exact .polled hr hth
  | close id n => exact .left id n
  | drop =>
    simp only [step, drop, closeStream]
    split
    next hcl => exact .idle _ false (.inr hcl)
    next ho => exact .orphaned ho

end Moves

end Stream

/-! ### The life of a reader -/

inductive Phase where
  | streaming (progress : StreamProgress)
  /-- It was closed by a trailer. -/
  | completed
  /-- It was closed with an error. -/
  | failed
  /-- It was closed because the receiving end was gone. -/
  | abandoned
  /-- It was closed with the manager. -/
  | orphaned

/-- The life of a reader: the actions since its header, what was sent to it, and where
its stream is. -/
inductive Life (info : AnyStreamInfo) : List Action → List (StreamResult Bytes) → Phase → Prop
  | opened : Life info [] [] (.streaming ⟨0, 0, info.totalLength⟩)
  | idle {history sent phase} (life : Life info history sent phase) (action : Action) :
      Life info (history ++ [action]) sent phase
  | chunk {history sent progress} (life : Life info history sent (.streaming progress))
      (identity : String) (chunk : Chunk) (h_index : chunk.chunkIndex = progress.chunkIndex)
      (h_length : ∀ total ∈ progress.bytesTotal,
        progress.bytesProcessed + chunk.content.length ≤ total) :
      Life info (history ++ [.packet identity info.encryptionType (.streamChunk chunk)])
        (sent ++ [.ok chunk.content]) (.streaming (progress.advance chunk.content.length))
  | completed {history sent progress} (life : Life info history sent (.streaming progress))
      (identity : String) (encryptionType : EncryptionType) (streamId : StreamId)
      (h_length : ∀ total ∈ progress.bytesTotal, total ≤ progress.bytesProcessed) :
      Life info (history ++ [.packet identity encryptionType (.streamTrailer ⟨streamId, ""⟩)]) sent
        .completed
  | failed {history sent progress} (life : Life info history sent (.streaming progress))
      (action : Action) (error : StreamError) :
      Life info (history ++ [action]) (sent ++ [.error error]) .failed
  | abandoned {history sent progress} (life : Life info history sent (.streaming progress))
      (action : Action) : Life info (history ++ [action]) sent .abandoned
  | orphaned {history sent progress} (life : Life info history sent (.streaming progress)) :
      Life info (history ++ [.drop]) sent .orphaned

/-! ### What a reader has received -/

def pollsOf (n : ℕ) (log : List Received) : List (Option (StreamResult Bytes)) :=
  (log.filter (·.n = n)).map (·.item)

def itemsOf (polls : List (Option (StreamResult Bytes))) : List (StreamResult Bytes) :=
  polls.filterMap id

lemma pollsOf_append (n log log') : pollsOf n (log ++ log') = pollsOf n log ++ pollsOf n log' := by
  simp [pollsOf]

lemma itemsOf_append (polls polls') :
    itemsOf (polls ++ polls') = itemsOf polls ++ itemsOf polls' := by
  simp [itemsOf]

lemma pollsOf_map_mk (n m id items) :
    pollsOf n (items.map (Received.mk id m)) = if m = n then items else [] := by
  unfold pollsOf
  by_cases h : m = n
  · rw [if_pos h, filter_eq_self.mpr (by simp [h]), map_map]
    exact map_id items
  · rw [if_neg h, filter_eq_nil_iff.mpr (by simp [h])]
    rfl

/-- The reader came upon a chunk that it could not decode. -/
def Undecodable (info : AnyStreamInfo) (polls : List (Option (StreamResult Bytes))) : Prop :=
  info.content = .textHeader ∧ ∃ chunk, some (.ok chunk) ∈ polls ∧ Utf8.decode chunk = none

lemma Undecodable.append {info polls} (h : Undecodable info polls) (polls') :
    Undecodable info (polls ++ polls') := by
  obtain ⟨htext, c, hm, hdecode⟩ := h
  exact ⟨htext, c, mem_append_left _ hm, hdecode⟩

structure Heard (reader : Reader) (polls : List (Option (StreamResult Bytes))) : Prop where
  /-- After the end nothing comes. -/
  shape : ∃ ends, polls = (itemsOf polls).map some ++ List.replicate ends none
  /-- At the end the channel is empty and closed from one side. -/
  ended : none ∈ polls → reader.queue = [] ∧
    (reader.senderOpen = false ∨ Undecodable reader.info polls)
  closed : reader.receiver = .closed → Undecodable reader.info polls
  undecodable : Undecodable reader.info polls → reader.receiver ≠ .listening

section Heard

variable {rd : Reader} {polls : List (Option (StreamResult Bytes))}

lemma heard_nil (h : rd.receiver = .listening) : Heard rd [] where
  shape := ⟨0, rfl⟩
  ended hm := absurd hm (not_mem_nil)
  closed hcl := nomatch h.symm.trans hcl
  undecodable := by
    rintro ⟨-, _, hm, -⟩
    exact absurd hm (not_mem_nil)

lemma Receiver.eq_closed {receiver : Receiver} (hlis : receiver ≠ .listening)
    (hth : receiver ≠ .dropped) : receiver = .closed := by
  cases receiver with
  | listening => exact absurd rfl hlis
  | closed => rfl
  | dropped => exact absurd rfl hth

section

variable (h : Heard rd polls)
include h

lemma Heard.not_ended (ho : rd.senderOpen = true)
    (hth : rd.receiver = .listening) : none ∉ polls := by
  intro hm
  rcases (h.ended hm).2 with hhung | hbad
  · cases ho.symm.trans hhung
  · exact h.undecodable hbad hth

lemma Heard.push (ho : rd.senderOpen = true)
    (hth : rd.receiver = .listening) (item : StreamResult Bytes) :
    Heard (rd.push item) polls where
  shape := h.shape
  ended hm := absurd hm (h.not_ended ho hth)
  closed := h.closed
  undecodable := h.undecodable

lemma Heard.hangUp : Heard rd.hangUp polls where
  shape := h.shape
  ended hm := ⟨(h.ended hm).1, .inl rfl⟩
  closed := h.closed
  undecodable := h.undecodable

lemma Heard.dropped : Heard { rd with receiver := .dropped } polls where
  shape := h.shape
  ended := h.ended
  closed hcl := nomatch hcl
  undecodable _ hth := nomatch hth

lemma Heard.eq_map_of_queue (hq : rd.queue ≠ []) : polls = (itemsOf polls).map some := by
  obtain ⟨ends, hshape⟩ := h.shape
  cases ends with
  | zero => rwa [replicate_zero, append_nil] at hshape
  | succ =>
    have hm : none ∈ polls := by
      rw [hshape, replicate_succ]
      exact mem_append_right _ (.head _)
    exact absurd (h.ended hm).1 hq

lemma Heard.atEnd (hq : rd.queue = []) (hover : rd.senderOpen = false ∨ rd.receiver = .closed) :
    Heard rd (polls ++ [none]) where
  shape := by
    obtain ⟨ends, hshape⟩ := h.shape
    have hend : itemsOf [none] = [] := rfl
    refine ⟨ends + 1, ?_⟩
    rw [itemsOf_append, hend, append_nil, replicate_succ', ← append_assoc, ← hshape]
  ended _ := ⟨hq, hover.imp_right fun hcl => (h.closed hcl).append _⟩
  closed hcl := (h.closed hcl).append _
  undecodable := by
    rintro ⟨htext, c, hm, hdecode⟩
    refine h.undecodable ⟨htext, c, ?_, hdecode⟩
    simpa using hm

lemma Heard.take {item queue} (hq : rd.queue = item :: queue) :
    Heard { rd with
        queue := queue
        receiver := if rd.rejects (some (some item)) then .closed else rd.receiver }
      (polls ++ [some item]) where
  shape := by
    refine ⟨0, ?_⟩
    rw [itemsOf_append, map_append, ← h.eq_map_of_queue (by simp [hq])]
    simp [itemsOf]
  ended hm := by
    have hn : none ∉ polls := by
      rw [h.eq_map_of_queue (by simp [hq])]
      simp
    exact absurd hm (by simp [hn])
  closed := by
    split
    next hrejects =>
      intro _
      cases item with
      | ok c =>
        obtain ⟨htext, hdecode⟩ := of_decide_eq_true hrejects
        exact ⟨htext, c, by simp, hdecode⟩
      | error => cases hrejects
    next => exact fun hcl => (h.closed hcl).append _
  undecodable := by
    rintro ⟨htext, c, hm, hdecode⟩
    split
    next => simp
    next hkp =>
      rcases mem_append.mp hm with hm | hm
      · exact h.undecodable ⟨htext, c, hm, hdecode⟩
      · obtain rfl := Option.some.inj (mem_singleton.mp hm)
        exact absurd (decide_eq_true ⟨htext, hdecode⟩) hkp

lemma Heard.pollNext (hth : rd.receiver ≠ .dropped) :
    Heard rd.pollNext.2 (polls ++ rd.pollNext.1.toList) ∧
      itemsOf (polls ++ rd.pollNext.1.toList) ++ rd.pollNext.2.queue =
        itemsOf polls ++ rd.queue := by
  cases hq : rd.queue with
  | nil =>
    by_cases ho : rd.senderOpen = true ∧ rd.receiver = .listening
    · -- pending
      have hpoll : rd.pollNext = (none, rd) := by
        simp [Reader.pollNext, Reader.pollRecv, hq, ho, Reader.rejects]
      rw [hpoll, Option.toList_none, append_nil, hq]
      exact ⟨h, rfl⟩
    · -- the end: of what the manager sends, or of what the reader takes
      have hpoll : rd.pollNext = (some none, rd) := by
        simp only [Reader.pollNext, Reader.pollRecv, hq, if_neg ho]
        simp [Reader.rejects]
      rw [hpoll, Option.toList_some, itemsOf_append, hq]
      refine ⟨h.atEnd hq ?_, by simp [itemsOf]⟩
      by_cases hsn : rd.senderOpen = true
      · exact .inr (Receiver.eq_closed (fun hlis => ho ⟨hsn, hlis⟩) hth)
      · exact .inl (Bool.eq_false_of_not_eq_true hsn)
  | cons item queue =>
    have hf : rd.pollNext.1 = some (some item) := by
      simp [Reader.pollNext, Reader.pollRecv, hq]
    have ha : rd.pollNext.2 = { rd with
        queue := queue
        receiver := if rd.rejects (some (some item)) then .closed else rd.receiver } := by
      simp only [Reader.pollNext, Reader.pollRecv, hq]
      split <;> rfl
    rw [hf, ha, Option.toList_some, itemsOf_append]
    exact ⟨h.take hq, by simp [itemsOf]⟩

end

end Heard

/-! ### The lives of all readers -/

/-- The phase of a reader's life is what the stream and the channel look like. It is
completed only if a trailer was handled for the reader, `T`, and orphaned only if the
manager was dropped while the stream was open, `D`. -/
def Phase.Fits (D : Prop) (T : ℕ → Prop) (system : Stream) (n : ℕ) (reader : Reader)
    (polls : List (Option (StreamResult Bytes))) : Phase → Prop
  | .streaming progress => reader.senderOpen = true ∧ ∃ descriptor,
      system.descriptor = some descriptor ∧ descriptor.chunkTx = n ∧
        descriptor.encryptionType = reader.info.encryptionType ∧ descriptor.progress = progress
  | .completed => reader.senderOpen = false ∧ T n
  | .failed => reader.senderOpen = false
  | .abandoned => reader.senderOpen = false ∧ reader.receiver ≠ .listening ∧
      (none ∈ polls → Undecodable reader.info polls)
  | .orphaned => reader.senderOpen = false ∧ D

def Lives (D : Prop) (T : ℕ → Prop) (history : List Action) (system : Stream) (n : ℕ)
    (reader : Reader)
    (polls : List (Option (StreamResult Bytes))) : Prop :=
  ∃ before header after phase, history = before ++
      .packet reader.identity reader.info.encryptionType (.streamHeader header) :: after ∧
    AnyStreamInfo.tryFromWithEncryption header reader.info.encryptionType = .ok reader.info ∧
    Life reader.info after (itemsOf polls ++ reader.queue) phase ∧
    phase.Fits D T system n reader polls

structure Tracks (D : Prop) (T : ℕ → Prop) (history : List Action) (log : List Received)
    (system : Stream) : Prop where
  /-- The descriptor's reader is there, and its channel is open. -/
  current : ∀ descriptor, system.descriptor = some descriptor →
    ∃ reader, system.readers[descriptor.chunkTx]? = some reader ∧ reader.senderOpen = true
  heard : ∀ n reader, system.readers[n]? = some reader → Heard reader (pollsOf n log)
  /-- Nothing was received by readers that are not there yet. -/
  silent : ∀ n, system.readers[n]? = none → pollsOf n log = []
  lives : ∀ n reader, system.readers[n]? = some reader →
    Lives D T history system n reader (pollsOf n log)

section Lives

variable {D : Prop} {T : ℕ → Prop} {hist : List Action} {sys system' : Stream} {n : ℕ} {rd : Reader}
  {polls : List (Option (StreamResult Bytes))}

variable {phase : Phase}

lemma Phase.Fits.frame (h : phase.Fits D T sys n rd polls)
    (hkeep : ∀ d, sys.descriptor = some d → d.chunkTx = n → system'.descriptor = some d) :
    phase.Fits D T system' n rd polls := by
  cases phase with
  | streaming =>
    obtain ⟨ho, d, hd, htx, hr⟩ := h
    exact ⟨ho, d, hkeep _ hd htx, htx, hr⟩
  | _ => exact h

lemma Phase.Fits.streaming (h : phase.Fits D T sys n rd polls) (ho : rd.senderOpen = true) :
    ∃ d, sys.descriptor = some d ∧ d.encryptionType = rd.info.encryptionType ∧
      phase = .streaming d.progress := by
  cases phase with
  | streaming =>
    obtain ⟨-, d, hd, -, htype, rfl⟩ := h
    exact ⟨d, hd, htype, rfl⟩
  | completed | abandoned | orphaned => cases ho.symm.trans h.1
  | failed => cases ho.symm.trans h

lemma Lives.extend (h : Lives D T hist sys n rd polls) (a : Action) {r' polls'}
    (hinfo : r'.info = rd.info) (hid : r'.identity = rd.identity)
    (hlife : ∀ since phase, Life rd.info since (itemsOf polls ++ rd.queue) phase →
      phase.Fits D T sys n rd polls → ∃ phase',
        Life rd.info (since ++ [a]) (itemsOf polls' ++ r'.queue) phase' ∧
          phase'.Fits D T system' n r' polls') : Lives D T (hist ++ [a]) system' n r' polls' := by
  obtain ⟨pre, header, since, phase, hhistory, hheader, life, hfits⟩ := h
  obtain ⟨phase', life', hfits'⟩ := hlife since phase life hfits
  refine ⟨pre, header, since ++ [a], phase', ?_, ?_, ?_, hfits'⟩
  · rw [hhistory, hinfo, hid, append_assoc]
    rfl
  · rw [hinfo]
    exact hheader
  · rw [hinfo]
    exact life'

lemma Lives.frame (h : Lives D T hist sys n rd polls) (a : Action)
    (hkeep : ∀ d, sys.descriptor = some d → d.chunkTx = n → system'.descriptor = some d) :
    Lives D T (hist ++ [a]) system' n rd polls :=
  h.extend a rfl rfl fun _ phase life hfits => ⟨phase, life.idle a, hfits.frame hkeep⟩

end Lives

section Tracks

variable {D : Prop} {T : ℕ → Prop} {hist : List Action} {log new : List Received}
  {sys system' : Stream}

variable {k : ℕ} {f : Reader → Reader} {enc : EncryptionType} {d : Descriptor}

section

variable (h : Tracks D T hist log sys)
include h

variable (a : Action) (id : StreamId)

lemma Tracks.modify (hreaders : system'.readers = sys.readers.modify k f)
    (hkeep : ∀ d, sys.descriptor = some d → d.chunkTx ≠ k → system'.descriptor = some d)
    (hcur : ∀ d, system'.descriptor = some d →
      ∃ rd, system'.readers[d.chunkTx]? = some rd ∧ rd.senderOpen = true)
    (hnew : ∀ n, n ≠ k ∨ sys.readers[k]? = none → pollsOf n new = [])
    (hself : ∀ rd, sys.readers[k]? = some rd → Heard (f rd) (pollsOf k (log ++ new)) ∧
        Lives D T (hist ++ [a]) system' k (f rd) (pollsOf k (log ++ new))) :
    Tracks D T (hist ++ [a]) (log ++ new) system' := by
  have hpolls : ∀ n, n ≠ k ∨ sys.readers[k]? = none → pollsOf n (log ++ new) = pollsOf n log :=
    fun n hn => by rw [pollsOf_append, hnew n hn, append_nil]
  have hcases : ∀ n r', system'.readers[n]? = some r' → n ≠ k ∧ sys.readers[n]? = some r' ∨
        n = k ∧ ∃ rd, sys.readers[k]? = some rd ∧ r' = f rd := by
    intro n _ hr'
    rw [hreaders] at hr'
    by_cases hn : k = n
    · subst hn
      rw [getElem?_modify_eq] at hr'
      obtain ⟨rd, hr, heq⟩ := Option.map_eq_some_iff.mp hr'
      exact .inr ⟨rfl, rd, hr, heq.symm⟩
    · rw [getElem?_modify_ne _ _ hn] at hr'
      exact .inl ⟨fun heq => hn heq.symm, hr'⟩
  constructor
  case current => exact hcur
  case heard =>
    intro n r' hr'
    rcases hcases n r' hr' with ⟨hn, hr⟩ | ⟨rfl, rd, hr, rfl⟩
    · rw [hpolls n (.inl hn)]
      exact h.heard n r' hr
    · exact (hself rd hr).1
  case silent =>
    intro n hnone
    rw [hreaders, getElem?_eq_none_iff, length_modify, ← getElem?_eq_none_iff] at hnone
    rw [hpolls n ?_]
    · exact h.silent n hnone
    · by_cases hn : n = k
      · exact .inr (hn ▸ hnone)
      · exact .inl hn
  case lives =>
    intro n r' hr'
    rcases hcases n r' hr' with ⟨hn, hr⟩ | ⟨rfl, rd, hr, rfl⟩
    · rw [hpolls n (.inl hn)]
      exact (h.lives n r' hr).frame a fun d hd htx =>
        hkeep d hd (htx ▸ hn)
    · exact (hself rd hr).2

lemma Tracks.current_modify
    (hsn : ∀ rd, sys.readers[k]? = some rd → (f rd).senderOpen = rd.senderOpen) (d)
    (hd : sys.descriptor = some d) :
    ∃ rd, (sys.modifyReader k f).readers[d.chunkTx]? = some rd ∧ rd.senderOpen = true := by
  obtain ⟨current, hcur, ho⟩ := h.current d hd
  simp only [Stream.modifyReader]
  by_cases hk : k = d.chunkTx
  · subst hk
    refine ⟨f current, ?_, (hsn current hcur).trans ho⟩
    rw [getElem?_modify_eq, hcur]
    rfl
  · refine ⟨current, ?_, ho⟩
    rw [getElem?_modify_ne _ _ hk]
    exact hcur

lemma tracks_idle (alive : Bool) :
    Tracks D T (hist ++ [a]) (log ++ []) { sys with alive := alive } := by
  rw [append_nil]
  exact ⟨h.current, h.heard, h.silent, fun n rd hr =>
    (h.lives n rd hr).frame a fun _ hd _ => hd⟩

lemma tracks_opened (hcl : sys.descriptor = none) {header ident info}
    (hinfo : AnyStreamInfo.tryFromWithEncryption header enc = .ok info) :
    Tracks D T (hist ++ [.packet ident enc (.streamHeader header)]) (log ++ [])
      (sys.openWith info ident) := by
  rw [append_nil]
  have htype : info.encryptionType = enc := by
    unfold AnyStreamInfo.tryFromWithEncryption at hinfo
    split at hinfo
    · cases hinfo
    · rw [← Except.ok.inj hinfo]
  have hcases : ∀ n rd, (sys.openWith info ident).readers[n]? = some rd →
      sys.readers[n]? = some rd ∨ n = sys.readers.length ∧
        rd = ⟨info, ident, [], true, .listening⟩ := fun _ _ => Tables.getElem?_concat_cases
  have hnone : sys.readers[sys.readers.length]? = none := List.getElem?_eq_none (Nat.le_refl _)
  constructor
  case current =>
    intro _ hd
    cases hd
    exact ⟨⟨info, ident, [], true, .listening⟩, by simp [Stream.openWith], rfl⟩
  case heard =>
    intro n rd hr
    rcases hcases n rd hr with hr | ⟨rfl, rfl⟩
    · exact h.heard n rd hr
    · rw [h.silent _ hnone]
      exact heard_nil rfl
  case silent =>
    intro n hn
    refine h.silent n ?_
    rw [List.getElem?_eq_none_iff] at hn ⊢
    simp only [Stream.openWith, List.length_append] at hn
    omega
  case lives =>
    intro n rd hr
    rcases hcases n rd hr with hr | ⟨rfl, rfl⟩
    · exact (h.lives n rd hr).frame _ fun d hd _ =>
        by cases hcl.symm.trans hd
    · rw [h.silent _ hnone]
      refine ⟨hist, header, [], .streaming ⟨0, 0, info.totalLength⟩, ?_, ?_, .opened,
        rfl, _, rfl, rfl, rfl, rfl⟩
      · rw [htype]
      · rw [htype]
        exact hinfo

lemma tracks_yielded {c progress} (ident : String) (ho : sys.descriptor = some d)
    (haccept : d.accept c enc = .ok progress)
    (hth : ∀ rd ∈ sys.readers[d.chunkTx]?, rd.receiver = .listening) :
    Tracks D T (hist ++ [.packet ident enc (.streamChunk c)]) (log ++ [])
      ({ sys with descriptor := some { d with progress := progress } }.modifyReader
        d.chunkTx fun rd => rd.push (.ok c.content)) := by
  obtain ⟨current, hr, hsn⟩ := h.current d ho
  obtain ⟨rfl, hindex, rfl, hlen⟩ := Descriptor.accept_eq_ok haccept
  refine h.modify _ rfl ?_ ?_ (fun _ _ => rfl) ?_
  · intro _ hdescriptor' hne
    obtain rfl := Option.mem_unique ho hdescriptor'
    exact absurd rfl hne
  · intro _ hdescriptor'
    cases hdescriptor'
    refine ⟨current.push (.ok c.content), ?_, hsn⟩
    simp only [Stream.modifyReader]
    rw [getElem?_modify_eq, hr]
    rfl
  · intro _ hr'
    obtain rfl := Option.mem_unique hr hr'
    rw [append_nil]
    refine ⟨(h.heard _ _ hr).push hsn (hth current hr) _, ?_⟩
    refine (h.lives _ _ hr).extend _ rfl rfl fun since phase life hfits => ?_
    obtain ⟨_, hd, htype, rfl⟩ := hfits.streaming hsn
    obtain rfl := Option.mem_unique ho hd
    refine ⟨.streaming (d.progress.advance c.content.length), ?_, hsn, _, rfl, rfl, htype, rfl⟩
    rw [Reader.push, ← append_assoc, htype]
    exact life.chunk ident c hindex hlen

lemma tracks_closed (ho : sys.descriptor = some d) (alive : Bool)
    (hinfo : ∀ rd, (f rd).info = rd.info ∧ (f rd).identity = rd.identity)
    (hself : ∀ rd, sys.readers[d.chunkTx]? = some rd →
      rd.senderOpen = true → Heard rd (pollsOf d.chunkTx log) →
      Heard (f rd) (pollsOf d.chunkTx log) ∧ ∀ since,
      Life rd.info since (itemsOf (pollsOf d.chunkTx log) ++ rd.queue) (.streaming d.progress) →
      ∃ phase, Life rd.info (since ++ [a]) (itemsOf (pollsOf d.chunkTx log) ++ (f rd).queue) phase ∧
        phase.Fits D T ({ sys with descriptor := none, alive := alive }.modifyReader
          d.chunkTx f) d.chunkTx (f rd) (pollsOf d.chunkTx log)) :
    Tracks D T (hist ++ [a]) (log ++ [])
      ({ sys with descriptor := none, alive := alive }.modifyReader d.chunkTx f) := by
  obtain ⟨current, hr, hsn⟩ := h.current d ho
  refine h.modify _ rfl ?_ nofun (fun _ _ => rfl) ?_
  · intro _ hdescriptor' hne
    obtain rfl := Option.mem_unique ho hdescriptor'
    exact absurd rfl hne
  · intro _ hr'
    obtain rfl := Option.mem_unique hr hr'
    rw [append_nil]
    obtain ⟨hinfo, hid⟩ := hinfo current
    obtain ⟨hheard, hlife⟩ := hself current hr hsn (h.heard _ _ hr)
    refine ⟨hheard, (h.lives _ _ hr).extend _ hinfo hid fun since phase life hfits => ?_⟩
    obtain ⟨_, hd, -, rfl⟩ := hfits.streaming hsn
    obtain rfl := Option.mem_unique ho hd
    exact hlife since life

lemma tracks_polled {n : ℕ} {rd : Reader}
    (hr : sys.readers[n]? = some rd) (hth : rd.receiver ≠ .dropped) :
    Tracks D T (hist ++ [.next id n]) (log ++ rd.pollNext.1.toList.map (Received.mk id n))
      (sys.modifyReader n fun _ => rd.pollNext.2) := by
  obtain ⟨hinfo, hid, hsn, hreceiver⟩ := rd.pollNext_frame
  refine h.modify _ rfl (fun _ hd _ => hd) ?_ ?_ ?_
  · refine h.current_modify fun r' hr' => ?_
    obtain rfl := Option.mem_unique hr hr'
    exact hsn
  · rintro m (hm | hn)
    · rw [pollsOf_map_mk, if_neg fun heq => hm heq.symm]
    · cases hn.symm.trans hr
  · intro _ hr'
    obtain rfl := Option.mem_unique hr hr'
    rw [pollsOf_append, pollsOf_map_mk, if_pos rfl]
    obtain ⟨hheard, hitems⟩ := (h.heard _ _ hr).pollNext hth
    refine ⟨hheard, (h.lives _ _ hr).extend _ hinfo hid fun since phase life hfits => ?_⟩
    refine ⟨phase, hitems ▸ life.idle _, ?_⟩
    cases phase with
    | streaming =>
      obtain ⟨ho, d, hd, htx, htype, hprogress⟩ := hfits
      refine ⟨hsn.trans ho, d, hd, htx, ?_, hprogress⟩
      rw [hinfo]
      exact htype
    | completed | orphaned => exact ⟨hsn.trans hfits.1, hfits.2⟩
    | failed => exact hsn.trans hfits
    | abandoned =>
      obtain ⟨hhung, hgone, _⟩ := hfits
      refine ⟨hsn.trans hhung, fun hlis => hgone (hreceiver hlis), fun _ => ?_⟩
      -- its receiver was closed, over a chunk that could not be decoded
      rw [hinfo]
      exact ((h.heard _ _ hr).closed (Receiver.eq_closed hgone hth)).append _

lemma tracks_left (n : ℕ) : Tracks D T (hist ++ [.close id n]) (log ++ [])
      (sys.modifyReader n fun rd => { rd with receiver := .dropped }) := by
  refine h.modify _ rfl (fun _ hd _ => hd) (h.current_modify fun _ _ => rfl) (fun _ _ => rfl) ?_
  intro _ hr
  rw [append_nil]
  refine ⟨(h.heard _ _ hr).dropped, ?_⟩
  refine (h.lives _ _ hr).extend _ rfl rfl fun since phase life hfits => ?_
  refine ⟨phase, life.idle _, ?_⟩
  cases phase with
  | abandoned =>
    obtain ⟨hhung, -, hbad⟩ := hfits
    exact ⟨hhung, by simp, hbad⟩
  | _ => exact hfits

end

/-- What `D` and `T` stand for is said of a step. -/
structure Causes (D : Prop) (T : ℕ → Prop) (system : Stream) (action : Action) : Prop where
  drop : action = .drop → system.descriptor ≠ none → D
  trailer : ∀ identity encryptionType streamId descriptor,
    action = .packet identity encryptionType (.streamTrailer ⟨streamId, ""⟩) →
      system.descriptor = some descriptor → T descriptor.chunkTx

lemma tracks_step (h : Tracks D T hist log sys) {a} (hcauses : Causes D T sys a) :
    Tracks D T (hist ++ [a]) (log ++ (sys.step a).2) (sys.step a).1 := by
  have hmv := sys.step_move a
  generalize (sys.step a).1 = after, (sys.step a).2 = new at hmv ⊢
  cases hmv with
  | idle a alive => exact tracks_idle h a alive
  | opened _ hcl hinfo => exact tracks_opened h hcl hinfo
  | yielded ho haccept hth => exact tracks_yielded h _ ho haccept hth
  | failed a error ho hth =>
    refine tracks_closed h a ho sys.alive (fun _ => ⟨rfl, rfl⟩) ?_
    intro rd hr hsn hheard
    refine ⟨(hheard.push hsn (hth rd hr) _).hangUp, fun _ life => ⟨.failed, ?_, rfl⟩⟩
    rw [Reader.hangUp, Reader.push, ← append_assoc]
    exact life.failed a error
  | abandoned a ho hgone =>
    refine tracks_closed h a ho sys.alive (fun _ => ⟨rfl, rfl⟩) ?_
    intro rd hr hsn hheard
    refine ⟨hheard.hangUp, fun _ life => ⟨.abandoned, life.abandoned a, rfl, hgone rd hr, ?_⟩⟩
    intro he
    rcases (hheard.ended he).2 with hhung | hbad
    · cases hsn.symm.trans hhung
    · exact hbad
  | @completed _ trailer ident enc ho hfinish =>
    refine tracks_closed h _ ho sys.alive (fun _ => ⟨rfl, rfl⟩) ?_
    intro _ _ _ hheard
    obtain ⟨hreason, hlen⟩ := Descriptor.finish_eq_ok hfinish
    obtain ⟨streamId, reason⟩ := trailer
    obtain rfl : reason = "" := hreason
    exact ⟨hheard.hangUp, fun _ life => ⟨.completed, life.completed ident enc streamId hlen,
      rfl, hcauses.trailer _ _ _ _ rfl ho⟩⟩
  | orphaned ho =>
    refine tracks_closed h _ ho false (fun _ => ⟨rfl, rfl⟩) ?_
    intro _ _ _ hheard
    exact ⟨hheard.hangUp, fun _ life =>
      ⟨.orphaned, life.orphaned, rfl, hcauses.drop rfl (by simp [ho])⟩⟩
  | polled hr hth => exact tracks_polled h _ hr hth
  | left id n => exact tracks_left h id n

lemma tracks_new (hcl : sys.descriptor = none) (hreaders : sys.readers = []) :
    Tracks D T [] [] sys where
  current d hdescriptor := nomatch hcl.symm.trans hdescriptor
  heard n rd hreader := absurd hreader (by simp [hreaders])
  silent _ _ := rfl
  lives n rd hreader := absurd hreader (by simp [hreaders])

end Tracks

/-- **Lives in a run.** In every run of a stream every reader lives. -/
theorem tracks_run {D : Prop} {T : ℕ → Prop} {start : Stream} (hcl : start.descriptor = none)
    (hreaders : start.readers = []) (acts : List Action)
    (hcauses : Along Stream.step (Causes D T) start acts) :
    Tracks D T acts (outputs Stream.step start acts) (state Stream.step start acts) := by
  induction acts using reverseRecOn with
  | nil => exact tracks_new hcl hreaders
  | append_singleton _ _ ih =>
    rw [state_concat, outputs_append, outputs_cons, outputs_nil, append_nil]
    exact tracks_step (ih hcauses.append_left) hcauses.append_right.1

end LiveKit.DataStream
