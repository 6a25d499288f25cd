import LiveKitRust.DataStream.Integrity

/-!
# Streams of different senders

The room hands a reader out under the name of the participant whose header opened the stream; chunks
and trailers are matched to it by the stream's id alone. `Stream.Heeds` are the packets with an
effect: a header that opens the stream, a chunk or a trailer for an open stream. Exactly these can
be noticed at a reader (`sender_isolation`).
-/

open Machine

namespace LiveKit.DataStream

def Action.isFrom (participantIdentity : String) : Action → Bool
  | .packet identity _ _ => identity = participantIdentity
  | _ => false

def without (participantIdentity : String) (actions : List Action) : List Action :=
  actions.filter fun action => !action.isFrom participantIdentity

/-! ### Packets that are heeded -/

lemma Reader.push_ne (s : Reader) (item) : s.push item ≠ s := by
  intro heq
  have hlen := congrArg (fun r => r.queue.length) heq
  simp [push] at hlen

lemma Reader.hangUp_ne {s} (ho : s.senderOpen = true) (other : Reader) : other.hangUp ≠ s := by
  intro heq
  have hhung : false = s.senderOpen := congrArg Reader.senderOpen heq
  rw [ho] at hhung
  exact Bool.noConfusion hhung

lemma modify_ne {readers : List Reader} {k : ℕ} {r : Reader} {f : Reader → Reader}
    (hr : readers[k]? = some r) (hne : f r ≠ r) : readers.modify k f ≠ readers := by
  intro heq
  have hsm := congrArg (·[k]?) heq
  rw [List.getElem?_modify_eq, hr] at hsm
  exact hne (Option.some.inj hsm)

namespace Stream

/-- The packet opens the stream, or comes while it is open. -/
def Heeds (self : Stream) (packet : DataPacket) : Prop :=
  self.alive = true ∧ match packet with
    | .streamHeader header => header.contentHeader ≠ none ∧ self.descriptor = none
    | _ => self.descriptor ≠ none

variable {s : Stream} {ident : String} {enc : EncryptionType} {packet : DataPacket}

lemma step_of_not_heeds (h : ¬ s.Heeds packet) : s.step (.packet ident enc packet) = (s, []) := by
  simp only [step]
  split
  next halive =>
    refine congrArg (·, []) ?_
    cases packet with
    | streamHeader header =>
      simp only [handlePacket, handleHeader, AnyStreamInfo.tryFromWithEncryption]
      cases hcontent : header.contentHeader with
      | none => rfl
      | some =>
        dsimp only
        split
        next => rfl
        next hcl =>
          have hn : s.descriptor = none := Option.not_isSome_iff_eq_none.mp hcl
          exact absurd ⟨halive, by simp [hcontent], hn⟩ h
    | streamChunk =>
      have hcl : s.descriptor = none := not_not.mp fun ho => h ⟨halive, ho⟩
      simp only [handlePacket, handleChunk, hcl]
    | streamTrailer =>
      have hcl : s.descriptor = none := not_not.mp fun ho => h ⟨halive, ho⟩
      simp only [handlePacket, handleTrailer, hcl]
  next => rfl

variable {d : Descriptor} {r : Reader}

section

variable (ho : s.descriptor = some d) (hr : s.readers[d.chunkTx]? = some r)
  (hsn : r.senderOpen = true)
include ho hr hsn

lemma readers_closeStreamWithError (error) :
    (s.closeStreamWithError error).readers ≠ s.readers := by
  simp only [closeStreamWithError, ho]
  exact modify_ne hr (Reader.hangUp_ne hsn _)

lemma readers_closeStream : s.closeStream.readers ≠ s.readers := by
  simp only [closeStream, ho]
  exact modify_ne hr (Reader.hangUp_ne hsn _)

lemma readers_yieldChunk (c : Bytes) : (s.yieldChunk c).readers ≠ s.readers := by
  simp only [yieldChunk, ho, hr, Option.bind_some]
  cases hreceiver : r.receiver with
  | listening =>
    simp only [Reader.send, hreceiver]
    exact modify_ne hr (r.push_ne _)
  | closed | dropped =>
    simp only [Reader.send, hreceiver]
    exact readers_closeStream ho hr hsn

end

lemma readers_of_heeds (hheeds : s.Heeds packet) (hcur : ∀ d, s.descriptor = some d →
      ∃ r, s.readers[d.chunkTx]? = some r ∧ r.senderOpen = true) :
    (s.step (.packet ident enc packet)).1.readers ≠ s.readers := by
  obtain ⟨halive, hheeds⟩ := hheeds
  simp only [step, halive, if_true]
  cases packet with
  | streamHeader =>
    obtain ⟨hcontent, hcl⟩ := hheeds
    obtain ⟨_, hcontent⟩ := Option.ne_none_iff_exists'.mp hcontent
    simp [handlePacket, handleHeader, AnyStreamInfo.tryFromWithEncryption, hcontent, hcl, openWith]
  | streamChunk =>
    obtain ⟨d, ho⟩ := Option.ne_none_iff_exists'.mp hheeds
    obtain ⟨_, hr, hsn⟩ := hcur d ho
    simp only [handlePacket, handleChunk, ho]
    split
    next => exact readers_closeStreamWithError ho hr hsn _
    next progress _ =>
      have hopen' : Stream.descriptor { s with
          descriptor := some { d with progress := progress } } =
            some { d with progress := progress } := rfl
      exact readers_yieldChunk hopen' hr hsn _
  | streamTrailer =>
    obtain ⟨d, ho⟩ := Option.ne_none_iff_exists'.mp hheeds
    obtain ⟨_, hr, hsn⟩ := hcur d ho
    simp only [handlePacket, handleTrailer, ho]
    split
    next => exact readers_closeStreamWithError ho hr hsn _
    next => exact readers_closeStream ho hr hsn

def Ignores (participantIdentity : String) (self : Stream) : Action → Prop
  | .packet identity _ packet => identity = participantIdentity → ¬ self.Heeds packet
  | _ => True

lemma run_without {ident actions} (h : Along step (Ignores ident) s actions) :
    run step s (without ident actions) = run step s actions := by
  induction actions generalizing s with
  | nil => rfl
  | cons a actions ih =>
    obtain ⟨hac, hactions⟩ := h
    cases hfrom : a.isFrom ident with
    | false =>
      have hkept : without ident (a :: actions) = a :: without ident actions := by
        simp [without, hfrom]
      rw [hkept, run, run, ih hactions]
    | true =>
      have hleft : without ident (a :: actions) = without ident actions := by
        simp [without, hfrom]
      have hstep : s.step a = (s, []) := by
        cases a with
        | packet _ _ packet =>
          exact step_of_not_heeds (hac (of_decide_eq_true hfrom))
        | _ => cases hfrom
      rw [hstep] at hactions
      rw [hleft, ih hactions, run, hstep]
      rfl

end Stream

/-! ### With and without a participant -/

lemma filter_without (ident id actions) :
    (without ident actions).filter (Action.concerns id) =
      without ident (actions.filter (Action.concerns id)) := by
  rw [without, without, List.filter_filter, List.filter_filter]
  apply List.filter_congr
  intro _ _
  exact Bool.and_comm _ _

namespace Incoming

variable {reserved : List String} {actions : List Action} {other : String} {id : StreamId}

def Ignores (participantIdentity : String) (id : StreamId) (self : Incoming) : Action → Prop
  | .packet identity _ packet => identity = participantIdentity → packet.streamId = id →
      ¬ (self.stream id).Heeds packet
  | _ => True

/-- The participant's packets make no difference to the readers under the id. -/
def SameWithout (reservedTopics : List String) (participantIdentity : String) (id : StreamId)
    (actions : List Action) : Prop :=
  (state step (new reservedTopics) actions).readersOf id =
      (state step (new reservedTopics) (without participantIdentity actions)).readersOf id ∧
    (outputs step (new reservedTopics) actions).filter (·.id = id) =
      (outputs step (new reservedTopics) (without participantIdentity actions)).filter (·.id = id)

lemma sameWithout_of_ignores (h : Along step (Ignores other id) (new reserved) actions) :
    SameWithout reserved other id actions := by
  have hs : Along Stream.step (Stream.Ignores other) ((new reserved).stream id)
      (actions.filter (Action.concerns id)) := by
    apply stream_along
    intro pre a after hactions hcon
    have hignores := along_iff_forall.mp h pre a after hactions
    cases a with
    | packet _ _ packet =>
      intro hfrom
      exact hignores hfrom (of_decide_eq_true hcon)
    | _ => trivial
  obtain ⟨hst, hout⟩ := stream_run (new reserved) id actions
  obtain ⟨hstate', houtputs'⟩ := stream_run (new reserved) id (without other actions)
  have hrun := Stream.run_without hs
  rw [← filter_without] at hrun
  constructor
  · exact congrArg Stream.readers (hst.trans ((congrArg Prod.fst hrun.symm).trans hstate'.symm))
  · exact hout.trans ((congrArg Prod.snd hrun.symm).trans houtputs'.symm)

lemma not_heeds_of_sameWithout {pre enc packet}
    (hbef : SameWithout reserved other packet.streamId pre)
    (ha : SameWithout reserved other packet.streamId (pre ++ [.packet other enc packet])) :
    ¬ ((state step (new reserved) pre).stream packet.streamId).Heeds packet := by
  intro hheeds
  have htrs := tracks_any reserved pre packet.streamId
  have hne : (((state step (new reserved) pre).stream packet.streamId).step
      (.packet other enc packet)).1.readers ≠ _ :=
    Stream.readers_of_heeds hheeds htrs.current
  refine hne ?_
  have hcon : (Action.packet other enc packet).concerns packet.streamId = true :=
    decide_eq_true rfl
  have hwithout : without other (pre ++ [.packet other enc packet]) = without other pre := by
    simp [without, Action.isFrom]
  rw [← (stream_step _ hcon).1, ← state_concat]
  calc (state step (new reserved)
        (pre ++ [.packet other enc packet])).readersOf packet.streamId
      = (state step (new reserved) (without other pre)).readersOf packet.streamId := by
        rw [ha.1, hwithout]
    _ = (state step (new reserved) pre).readersOf packet.streamId := hbef.1.symm

lemma ignores_iff : Along step (Ignores other id) (new reserved) actions ↔
    ∀ pre, pre <+: actions → SameWithout reserved other id pre := by
  constructor
  · rintro h _ ⟨_, rfl⟩
    exact sameWithout_of_ignores h.append_left
  · intro h
    rw [along_iff_forall]
    rintro pre a after rfl
    cases a with
    | packet ident enc packet =>
      rintro rfl rfl
      have hprefix : pre ++ [.packet ident enc packet] <+:
          pre ++ .packet ident enc packet :: after :=
        ⟨after, List.append_cons .. |>.symm⟩
      exact not_heeds_of_sameWithout (h pre (List.prefix_append _ _)) (h _ hprefix)
    | _ => trivial

/-- **Isolation of senders.** At every point of a run the readers under the ids of the
streams that `sender` opens, and everything they have received, are the same as without
the packets of `other`, if and only if none of these packets is heeded under these ids. -/
theorem sender_isolation (reservedTopics : List String) (actions : List Action)
    (sender other : String) :
    (∀ encryptionType header, .packet sender encryptionType (.streamHeader header) ∈ actions →
      ∀ before, before <+: actions → SameWithout reservedTopics other header.streamId before) ↔
    ∀ encryptionType header, .packet sender encryptionType (.streamHeader header) ∈ actions →
      Along step (Ignores other header.streamId) (new reservedTopics) actions := by
  constructor
  · intro h encryptionType header hheader
    exact ignores_iff.mpr (h encryptionType header hheader)
  · intro h encryptionType header hheader
    exact ignores_iff.mp (h encryptionType header hheader)

def injected : List Action :=
  [.packet "alice" .none (.streamHeader ⟨"s", "t", none, some .byteHeader⟩),
    .packet "bob" .none (.streamChunk ⟨"s", 0, [9]⟩),
    .packet "alice" .none (.streamChunk ⟨"s", 0, [1]⟩),
    .packet "alice" .none (.streamTrailer ⟨"s", ""⟩), .next "s" 0, .next "s" 0]

/-- **A foreign chunk.** The reader of the stream opened by one participant receives
the chunk of the other, and then fails; without it, it receives the one byte sent, and
then the end. -/
theorem chunk_injected : polls "s" 0 (outputs step (new []) injected) =
        [some (.ok [9]), some (.error .missedChunk)] ∧
      polls "s" 0 (outputs step (new []) (without "bob" injected)) = [some (.ok [1]), none] := by
  decide +kernel

end Incoming

end LiveKit.DataStream
