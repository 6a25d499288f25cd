import LiveKitRust.DataStream.Reading
import Mathlib.Algebra.GroupWithZero.Nat

/-!
# What readers are given

What a life comes to (`Life.accepted`): the chunks a reader was sent are chunks that were received
since its header, with the indices 0, 1, 2 and so on, of the header's encryption type, and together
no longer than announced; after them at most one error. `reader_integrity` says so of every reader
in every run, whatever packets are handled.
-/

open Machine List

namespace LiveKit.DataStream

def chunkPacket (encryptionType : EncryptionType) (chunk : String × Chunk) : Action :=
  .packet chunk.1 encryptionType (.streamChunk chunk.2)

def totalSize (chunks : List (String × Chunk)) : ℕ :=
  (chunks.map fun chunk => chunk.2.content.length).sum

/-- The reader was sent these chunks, of those received since its header, and these
errors. -/
structure Accepted (info : AnyStreamInfo) (history : List Action)
    (sent : List (StreamResult Bytes)) (chunks : List (String × Chunk))
    (errors : List StreamError) : Prop where
  sublist : (chunks.map (chunkPacket info.encryptionType)).Sublist history
  indices : chunks.map (fun chunk => chunk.2.chunkIndex) = List.range chunks.length
  length_le : ∀ total ∈ info.totalLength, totalSize chunks ≤ total
  sent : sent = chunks.map (fun chunk => .ok chunk.2.content) ++ errors.map .error

/-- What the phase says about what was accepted. -/
def Phase.Counts (info : AnyStreamInfo) (chunks : List (String × Chunk))
    (errors : List StreamError) : Phase → Prop
  | .streaming progress => errors = [] ∧
    progress = ⟨chunks.length, totalSize chunks, info.totalLength⟩
  | .completed => errors = [] ∧ ∀ total ∈ info.totalLength, totalSize chunks = total
  | .failed => errors.length = 1
  | .abandoned => errors = []
  | .orphaned => errors = []

variable {info : AnyStreamInfo} {hist : List Action} {sent : List (StreamResult Bytes)}
  {cs : List (String × Chunk)} {errors : List StreamError} {phase : Phase}

lemma Accepted.idle (h : Accepted info hist sent cs errors) (a : Action) :
    Accepted info (hist ++ [a]) sent cs errors :=
  ⟨h.sublist.trans (sublist_append_left _ _), h.indices, h.length_le, h.sent⟩

lemma Life.accepted (life : Life info hist sent phase) :
    ∃ cs errors, Accepted info hist sent cs errors ∧ phase.Counts info cs errors := by
  induction life with
  | opened => exact ⟨[], [], ⟨.slnil, rfl, fun _ _ => Nat.zero_le _, rfl⟩, rfl, rfl⟩
  | idle _ a ih =>
    obtain ⟨cs, errors, h, hcounts⟩ := ih
    exact ⟨cs, errors, h.idle a, hcounts⟩
  | chunk _ ident chunk hindex hlen ih =>
    obtain ⟨cs, _, h, rfl, rfl⟩ := ih
    have hsize : totalSize (cs ++ [(ident, chunk)]) =
        totalSize cs + chunk.content.length := by simp [totalSize]
    refine ⟨cs ++ [(ident, chunk)], [], ⟨?_, ?_, ?_, ?_⟩, rfl, ?_⟩
    · rw [map_append]
      exact h.sublist.append (List.Sublist.refl _)
    · rw [map_append, h.indices, length_append, length_singleton, range_succ]
      simp [hindex]
    · rw [hsize]
      exact hlen
    · rw [h.sent]
      simp
    · rw [hsize]
      simp [StreamProgress.advance]
  | completed _ _ _ _ hlen ih =>
    obtain ⟨cs, _, h, rfl, rfl⟩ := ih
    refine ⟨cs, [], h.idle _, rfl, fun total htotal => ?_⟩
    exact Nat.le_antisymm (h.length_le total htotal) (hlen total htotal)
  | failed _ a error ih =>
    obtain ⟨cs, _, h, rfl, -⟩ := ih
    refine ⟨cs, [error], ⟨(h.idle a).sublist, h.indices, h.length_le, ?_⟩, rfl⟩
    rw [h.sent]
    simp
  | abandoned _ _ ih | orphaned _ ih =>
    obtain ⟨cs, errors, h, herrors, -⟩ := ih
    exact ⟨cs, errors, h.idle _, herrors⟩

lemma Phase.Counts.length_le (h : phase.Counts info cs errors) : errors.length ≤ 1 := by
  cases phase with
  | streaming | completed => simp [h.1]
  | failed => exact Nat.le_of_eq h
  | abandoned | orphaned => simp [show errors = [] from h]

/-! ### Readers of the manager -/

def polls (id : StreamId) (n : ℕ) (log : List Received) : List (Option (StreamResult Bytes)) :=
  pollsOf n (log.filter (·.id = id))

def received (id : StreamId) (n : ℕ) (log : List Received) : List (StreamResult Bytes) :=
  itemsOf (polls id n log)

namespace Incoming

lemma exists_of_filter_eq {p : Action → Bool} {acts pre after : List Action}
    {a : Action} (h : acts.filter p = pre ++ a :: after) :
    ∃ before' after', acts = before' ++ a :: after' ∧
      before'.filter p = pre ∧ after'.filter p = after ∧ p a = true := by
  obtain ⟨start, _, rfl, rfl, hr⟩ := filter_eq_append_iff.mp h
  obtain ⟨skipped, after', rfl, hskipped, hac, rfl⟩ := filter_eq_cons_iff.mp hr
  refine ⟨start ++ skipped, after', by simp, ?_, rfl, hac⟩
  rw [filter_append, filter_eq_nil_iff.mpr hskipped, append_nil]

lemma stream_along {C : Stream → Action → Prop} (s id acts)
    (h : ∀ pre a after, acts = pre ++ a :: after → a.concerns id = true →
      C ((state step s pre).stream id) a) :
    Along Stream.step C (s.stream id) (acts.filter (Action.concerns id)) := by
  rw [along_iff_forall]
  intro _ a _ hfilter
  obtain ⟨before', after', hactions, rfl, -, hcon⟩ := exists_of_filter_eq hfilter
  rw [← (stream_run s id before').1]
  exact h before' a after' hactions hcon

variable (reserved : List String)

lemma tracks {D : Prop} {T : ℕ → Prop} (acts id)
    (hcauses : ∀ pre a after, acts = pre ++ a :: after → a.concerns id = true →
        Causes D T ((state step (new reserved) pre).stream id) a) :
    Tracks D T (acts.filter (Action.concerns id))
      ((outputs step (new reserved) acts).filter (·.id = id))
      ((state step (new reserved) acts).stream id) := by
  obtain ⟨hst, hout⟩ := stream_run (new reserved) id acts
  rw [hst, hout]
  exact tracks_run rfl rfl _ (stream_along _ id acts hcauses)

lemma tracks_any (acts id) :
    Tracks True (fun _ => True) (acts.filter (Action.concerns id))
      ((outputs step (new reserved) acts).filter (·.id = id))
      ((state step (new reserved) acts).stream id) :=
  tracks reserved acts id fun _ _ _ _ _ =>
    ⟨fun _ _ => trivial, fun _ _ _ _ _ _ => trivial⟩

/-- The packet ends the stream with the id: a trailer, or a chunk that is refused or
cannot be passed on. -/
def Terminal (self : Incoming) (id : StreamId) : Action → Prop
  | .packet _ _ (.streamTrailer trailer) => trailer.streamId = id
  | .packet _ encryptionType (.streamChunk chunk) => chunk.streamId = id ∧
      ∃ descriptor, self.openStreams.lookup id = some descriptor ∧
        ((∃ e, descriptor.accept chunk encryptionType = .error e) ∨
          ∀ reader ∈ (self.readersOf id)[descriptor.chunkTx]?, reader.receiver ≠ .listening)
  | .drop => True
  | _ => False

def IsHeader (id : StreamId) : Action → Prop
  | .packet _ _ (.streamHeader header) => header.streamId = id
  | _ => False

end Incoming

/-! ### After the end -/

namespace Stream

variable (s : Stream)

lemma descriptor_closeStream : s.closeStream.descriptor = none := by
  unfold closeStream
  split
  next h => exact h
  next => rfl

lemma descriptor_closeStreamWithError (error) :
    (s.closeStreamWithError error).descriptor = none := by
  unfold closeStreamWithError
  split
  next h => exact h
  next => rfl

lemma descriptor_handleTrailer (trailer) : (s.handleTrailer trailer).descriptor = none := by
  unfold handleTrailer
  split
  next h => exact h
  next =>
    split
    next => exact descriptor_closeStreamWithError s _
    next => exact descriptor_closeStream s

lemma descriptor_handleChunk {c enc d} (ho : s.descriptor = some d)
    (h : (∃ e, d.accept c enc = .error e) ∨
      ∀ r ∈ s.readers[d.chunkTx]?, r.receiver ≠ .listening) :
    (s.handleChunk c enc).descriptor = none := by
  unfold handleChunk
  rw [ho]
  dsimp only
  split
  next => exact descriptor_closeStreamWithError s _
  next _ haccept =>
    -- accepted, and not to be passed on
    rcases h with ⟨e, herror⟩ | hgone
    · cases haccept.symm.trans herror
    · unfold yieldChunk
      dsimp only
      split
      next _ hsend =>
        obtain ⟨r', hr, hsend⟩ := Option.bind_eq_some_iff.mp hsend
        unfold Reader.send at hsend
        split at hsend
        next hlis => exact absurd hlis (hgone r' hr)
        next => cases hsend
      next => exact descriptor_closeStream _

variable {a : Action}

lemma descriptor_step (hcl : s.descriptor = none) (hheader : ∀ ident enc header,
      a ≠ .packet ident enc (.streamHeader header)) : (s.step a).1.descriptor = none := by
  have hmv := s.step_move a
  generalize (s.step a).1 = after, (s.step a).2 = new at hmv ⊢
  cases hmv with
  | idle | polled | left => exact hcl
  | opened => exact absurd rfl (hheader _ _ _)
  | yielded ho => cases hcl.symm.trans ho
  | _ => rfl

lemma closed_of_not_alive_step (h : s.alive = false → s.descriptor = none) :
    (s.step a).1.alive = false → (s.step a).1.descriptor = none := by
  have hmv := s.step_move a
  generalize (s.step a).1 = after, (s.step a).2 = new at hmv ⊢
  cases hmv with
  | idle _ _ halive =>
    rcases halive with rfl | hcl
    · exact h
    · exact fun _ => hcl
  | opened halive => exact fun hdead => nomatch halive.symm.trans hdead
  | yielded ho => exact fun hdead => absurd ((h hdead).symm.trans ho) (by simp)
  | failed | abandoned | completed | orphaned => exact fun _ => rfl
  | polled | left => exact h

end Stream

namespace Incoming

variable (reserved : List String) {id : StreamId}

lemma closed_of_not_alive (acts id) :
    ((state step (new reserved) acts).stream id).alive = false →
      ((state step (new reserved) acts).stream id).descriptor = none := by
  let P (self : Stream) : Prop := self.alive = false → self.descriptor = none
  rw [(stream_run (new reserved) id acts).1]
  exact state_invariant (P := P) (fun _ => rfl) _ fun self _ _ hself =>
    Stream.closed_of_not_alive_step self hself

lemma closed_of_terminal (acts) {a} (h : (state step (new reserved) acts).Terminal id a) :
    (((state step (new reserved) acts).step a).1.stream id).descriptor = none := by
  have hdead := closed_of_not_alive reserved acts id
  generalize state step (new reserved) acts = self at h hdead
  have hcon : a.concerns id = true := by
    unfold Terminal at h
    split at h
    · exact decide_eq_true h
    · exact decide_eq_true h.1
    · rfl
    · exact h.elim
  rw [(stream_step self hcon).1]
  unfold Terminal at h
  split at h
  next ident enc trailer =>
    simp only [Stream.step]
    split
    next => exact Stream.descriptor_handleTrailer _ trailer
    next halive => exact hdead (Bool.eq_false_of_not_eq_true halive)
  next _ _ _ =>
    obtain ⟨-, _, ho, hend⟩ := h
    simp only [Stream.step]
    split
    next => exact Stream.descriptor_handleChunk _ ho hend
    next halive => exact hdead (Bool.eq_false_of_not_eq_true halive)
  next => exact Stream.descriptor_closeStream _
  next => exact h.elim

lemma closed_of_no_header {s} (hcl : (s.stream id).descriptor = none) (acts)
    (h : ∀ a ∈ acts, ¬ IsHeader id a) : ((state step s acts).stream id).descriptor = none := by
  let P (s : Incoming) : Prop := (s.stream id).descriptor = none
  refine state_invariant (P := P) hcl acts ?_
  intro s a hm hcl
  change ((s.step a).1.stream id).descriptor = none
  cases hcon : a.concerns id with
  | false =>
    rw [(stream_step_of_not s hcon).1]
    exact hcl
  | true =>
    rw [(stream_step s hcon).1]
    refine Stream.descriptor_step _ hcl ?_
    rintro _ _ header rfl
    have hid : header.streamId = id := of_decide_eq_true hcon
    exact h _ hm hid

/-- **Integrity.** Whatever is received: every reader was opened by a header; what it
has received, together with what waits for it, are the contents of chunks that came
after the header, with the indices 0, 1, 2 and so on, of the header's stream and
encryption type and within the announced length, and after them at most one error.
After a packet that ends a stream the manager has no descriptor of it until a header
with its id. -/
theorem reader_integrity (reservedTopics : List String) (actions : List Action) (id : StreamId) :
    (∀ n reader, ((state step (new reservedTopics) actions).readersOf id)[n]? = some reader →
      ∃ before header after chunks errors, actions = before ++
          .packet reader.identity reader.info.encryptionType (.streamHeader header) :: after ∧
        AnyStreamInfo.tryFromWithEncryption header reader.info.encryptionType = .ok reader.info ∧
        header.streamId = id ∧ (∀ chunk ∈ chunks, chunk.2.streamId = id) ∧
        Accepted reader.info after
          (received id n (outputs step (new reservedTopics) actions) ++ reader.queue)
            chunks errors ∧
        errors.length ≤ 1) ∧ ∀ before action after, before ++ action :: after <+: actions →
      (state step (new reservedTopics) before).Terminal id action →
      (∀ action' ∈ after, ¬ IsHeader id action') →
        (state step (new reservedTopics) (before ++ action :: after)).openStreams.lookup id =
          none := by
  constructor
  · intro n reader hr
    obtain ⟨_, header, _, _, hhistory, hheader, life, -⟩ :=
      (tracks_any reservedTopics actions id).lives n reader hr
    obtain ⟨chunks, errors, haccepted, hcounts⟩ := life.accepted
    -- the header among all actions
    obtain ⟨before', after', hactions, -, rfl, hid⟩ := exists_of_filter_eq hhistory
    refine ⟨before', header, after', chunks, errors, hactions, hheader, of_decide_eq_true hid,
      ?_, ⟨haccepted.sublist.trans filter_sublist, haccepted.indices, haccepted.length_le,
        haccepted.sent⟩, hcounts.length_le⟩
    intro _ hchunk
    have hm := haccepted.sublist.subset (mem_map_of_mem hchunk)
    exact of_decide_eq_true (mem_filter.mp hm).2
  · intro before _ after _ hterminal hn
    rw [state_append, state_cons]
    exact closed_of_no_header (closed_of_terminal reservedTopics before hterminal) after hn

end Incoming

end LiveKit.DataStream
