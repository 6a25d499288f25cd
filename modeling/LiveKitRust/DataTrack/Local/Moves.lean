import LiveKitRust.DataTrack.Local.Manager

/-!
# What the manager can do

An event leads to one of a few moves (`Manager.step_move`), and what holds of every step is proved
move by move.
-/

open Machine List

namespace LiveKit.DataTrack.Local

variable {π : Type}

/-- The effect sends no publish state but the given one, and makes no track. -/
def Effect.IsSignal (state : PublishState) : Effect π → Prop
  | .spawned .. => False
  | .result _ (.ok _) => False
  | .stateSent _ state' => state' = state
  | _ => True

/-- The effect goes to no track. -/
def Effect.IsAnswer : Effect π → Prop
  | .output _ | .queried .. | .result _ (.error _) => True
  | _ => False

lemma Effect.IsAnswer.isSignal {eff : Effect π} (h : eff.IsAnswer) (state) :
    eff.IsSignal state := by
  cases eff with
  | spawned | stateSent => exact h.elim
  | result _ result =>
    cases result with
    | ok => exact h.elim
    | error => trivial
  | _ => trivial

namespace Manager

inductive Move (self : Manager π) (view : View) :
    InputEvent → Manager π × List (Effect π) → Prop
  /-- Somebody gets an answer at once. -/
  | answer {event effect} (handleAllocator : HandleAllocator) (h_answer : effect.IsAnswer)
      (h_event : ∀ handle, event ≠ .unpublishRequest handle) :
      Move self view event ({ self with handleAllocator := handleAllocator }, [effect])
  /-- A request is entered, and the SFU asked. -/
  | request {options resultTx handle} (handleAllocator : HandleAllocator)
      (h_vacant : self.descriptors.lookup handle = none) :
      Move self view (.publishRequest options resultTx) ({ self with
            handleAllocator := handleAllocator
            descriptors := self.descriptors.insert handle (.pending resultTx) },
          [.output (.sfuPublishRequest handle options.name self.encryptionProvider.isSome)])
  | cancel {handle} : Move self view (.publishCancelled handle) (self.eraseDescriptor handle, [])
  /-- A request ends without a track. -/
  | refuse {handle result resultTx effects}
      (h_pending : self.descriptors.lookup handle = some (.pending resultTx))
      (h_answers : ∀ effect ∈ effects, effect.IsAnswer) :
      Move self view (.sfuPublishResponse handle result) (self.eraseDescriptor handle, effects)
  /-- A response for an active track has no use, and its descriptor is gone. -/
  | lapse {handle result info track}
      (h_active : self.descriptors.lookup handle = some (.active info track))
      (h_idle : view.state track ≠ .republishing ∨ result.toOption = none) :
      Move self view (.sfuPublishResponse handle result) (self.eraseDescriptor handle, [])
  | create {handle info resultTx}
      (h_pending : self.descriptors.lookup handle = some (.pending resultTx))
      (h_open : ¬ view.isClosed resultTx) :
      Move self view (.sfuPublishResponse handle (.ok info))
        ({ (self.eraseDescriptor handle).setDescriptor info.pubHandle
              (.active info self.nextTrack) with nextTrack := self.nextTrack + 1 },
          [.spawned self.nextTrack ⟨info, if info.usesE2ee then self.encryptionProvider else none⟩,
            .result resultTx (.ok ⟨self.nextTrack, info⟩)])
  | restore {handle info updatedInfo track}
      (h_active : self.descriptors.lookup handle = some (.active info track))
      (h_state : view.state track = .republishing) :
      Move self view (.sfuPublishResponse handle (.ok updatedInfo))
        ((self.eraseDescriptor handle).setDescriptor handle
            (.active { info with sid := updatedInfo.sid } track),
          [.sidWritten track updatedInfo.sid, .stateSent track .published])
  | remove {event handle} (outputs : List OutputEvent)
      (h_event : event = .unpublishRequest handle ∨ event = .sfuUnpublishResponse handle) :
      Move self view event ((self.removeDescriptor view handle).1,
          (self.removeDescriptor view handle).2 ++ outputs.map .output)
  | republish (order : HashOrder Handle) :
      Move self view (.republishTracks order) (self.onRepublishTracks order)
  | shutdown (order : HashOrder Handle) :
      Move self view (.shutdown order) (self.onShutdown order)

variable (s : Manager π) (view : View)

variable (handle : Handle) (order : HashOrder Handle)

lemma removeDescriptor_fst : (s.removeDescriptor view handle).1 = s.eraseDescriptor handle := by
  unfold removeDescriptor
  split <;> rfl

lemma onSfuPublishResponse_move (res) :
    Move s view (.sfuPublishResponse handle res) (s.onSfuPublishResponse view handle res) := by
  unfold onSfuPublishResponse
  split
  next => exact .answer s.handleAllocator trivial nofun
  next d hl =>
    cases d with
    | pending =>
      dsimp only
      split
      next => exact .refuse hl nofun
      next ho =>
        cases res with
        | error error => exact .refuse hl (by simp [Effect.IsAnswer])
        | ok => exact .create hl ho
    | active =>
      dsimp only
      split
      next hst => exact .lapse hl (.inl hst)
      next hst =>
        cases res with
        | error error => exact .lapse hl (.inr rfl)
        | ok => exact .restore hl (not_not.mp hst)

lemma step_move (hrun : s.running = true) (ev) : Move s view ev (s.step (view, ev)) := by
  rw [step, if_pos hrun]
  cases ev with
  | publishRequest =>
    simp only [onPublishRequest]
    split
    next allocator _ => exact .answer allocator trivial nofun
    next _ allocator _ =>
      split
      next => exact .answer allocator trivial nofun
      next hvacant => exact .request allocator (Option.not_isSome_iff_eq_none.mp hvacant)
  | publishCancelled => exact .cancel
  | queryPublished => exact .answer s.handleAllocator trivial nofun
  | unpublishRequest handle => exact .remove [.sfuUnpublishRequest handle] (.inl rfl)
  | sfuPublishResponse handle res => exact s.onSfuPublishResponse_move view handle res
  | sfuUnpublishResponse handle =>
    have hremove : Move s view (.sfuUnpublishResponse handle) (_, _ ++ map .output []) :=
      .remove [] (.inr rfl)
    rwa [map_nil, append_nil] at hremove
  | republishTracks order => exact .republish order
  | shutdown order => exact .shutdown order

lemma step_of_not_running (hrun : s.running = false) (ev) : s.step (view, ev) = (s, []) := by
  rw [step, hrun, if_neg Bool.false_ne_true]

/-! ### The effects of the moves -/

lemma removeDescriptor_signals :
    ∀ eff ∈ (s.removeDescriptor view handle).2, eff.IsSignal .unpublished := by
  intro _ hm
  unfold removeDescriptor at hm
  split at hm
  next _ _ _ =>
    split at hm
    · obtain rfl := mem_singleton.mp hm
      rfl
    · cases hm
  next => cases hm

lemma remove_signals (outputs : List OutputEvent) :
    ∀ eff ∈ (s.removeDescriptor view handle).2 ++ outputs.map .output,
      eff.IsSignal .unpublished := by
  exact forall_mem_append.mpr
    ⟨s.removeDescriptor_signals view handle, forall_mem_map.mpr fun _ _ => trivial⟩

lemma onRepublishTracks_frame :
    ∃ ds, (s.onRepublishTracks order).1 = { s with descriptors := ds } := by
  let P (after : Manager π) : Prop := ∃ ds, after = { s with descriptors := ds }
  have hinit : P { s with descriptors := ∅ } := ⟨_, rfl⟩
  refine state_invariant hinit (order.entries s.descriptors) ?_
  rintro _ ⟨_, d⟩ - ⟨ds, rfl⟩
  cases d with
  | pending => exact ⟨ds, rfl⟩
  | active => exact ⟨_, rfl⟩

lemma onRepublishTracks_signals :
    ∀ eff ∈ (s.onRepublishTracks order).2, eff.IsSignal .republishing := by
  intro _ hm
  obtain ⟨_, ⟨_, d⟩, _, -, hm⟩ := mem_outputs.mp hm
  cases d with
  | pending =>
    obtain rfl := mem_singleton.mp hm
    trivial
  | active =>
    rcases mem_cons.mp hm with rfl | hm
    · rfl
    · obtain rfl := mem_singleton.mp hm
      trivial

lemma onShutdown_signals : ∀ eff ∈ (s.onShutdown order).2, eff.IsSignal .unpublished := by
  intro _ hm
  obtain ⟨⟨_, d⟩, -, rfl⟩ := mem_map.mp hm
  cases d with
  | pending => trivial
  | active => rfl

end Manager

end LiveKit.DataTrack.Local
