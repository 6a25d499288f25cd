import LiveKitRust.DataTrack.Local.Processes

/-!
# Unpublication is final

A track that is unpublished should stay so, and the SFU should be told. Both rest on the channel of
the track keeping the value: its task reads it some time later, and ends only then.

`Apart` is the condition on a move, `Sound` the invariant, and `Told` the way of a request to
unpublish from the input channel to the output channel; `unpublish_final` is the result.
`on_republish_tracks` sends `Republishing` without looking at what it overwrites.
-/

open Machine List Option

namespace LiveKit.DataTrack.Local

variable {π : Type}

/-! ### Moves of one track -/

variable {cell : TrackCell}

lemma TrackCell.send_published {state} (h : cell.state ≠ .unpublished)
    (hst : state ≠ .unpublished) : (cell.send state).state ≠ .unpublished := by
  by_cases hn : cell.receivers = 0
  · rwa [TrackCell.send_of_no_receivers hn]
  · rwa [TrackCell.send_of_receivers hn]

namespace CellMove

variable {released finished : Prop} {cell cell' : TrackCell}

section

variable (h : CellMove released finished cell cell')
include h

lemma handle_eq : cell'.handle = cell.handle := by
  cases h with
  | release => exact cell.send_handle .unpublished
  | _ => rfl

lemma unpublished (hst : cell.state = .unpublished) : cell'.state = .unpublished := by
  cases h with
  | release =>
    by_cases hn : cell.receivers = 0
    · rw [TrackCell.send_of_no_receivers hn, hst]
    · exact TrackCell.send_of_receivers hn _
  | _ => exact hst

lemma state_eq (hkept : ¬ released) : cell'.state = cell.state := by
  cases h with
  | release h => exact absurd h hkept
  | _ => rfl

lemma stopped (hstopped : cell.task ≠ .running → cell.state = .unpublished)
    (ht : cell'.task ≠ .running) : cell'.state = .unpublished := by
  cases h with
  | same | watch => exact hstopped ht
  | release h =>
    rw [TrackCell.send_task] at ht
    have hmv : CellMove released finished cell _ := .release h
    exact hmv.unpublished (hstopped ht)
  | stop _ hst => exact hst
  | finish _ hstopping => exact hstopped (by rw [hstopping]; decide)

lemma ended (he : cell'.task = .ended) : cell.task = .ended ∨ finished := by
  cases h with
  | same | watch => exact .inl he
  | release =>
    rw [TrackCell.send_task] at he
    exact .inl he
  | stop => cases he
  | finish h => exact .inr h

end

end CellMove

variable {released finished : TrackId → Prop} {cells cells' : Cells} {tr : TrackId}

lemma CellsMove.lookup_of_after (h : CellsMove released finished cells cells') {cell'}
    (hc : cells'.lookup tr = some cell') :
    ∃ cell, cells.lookup tr = some cell ∧ CellMove (released tr) (finished tr) cell cell' := by
  have hrel := h tr
  rw [hc] at hrel
  generalize hbef : cells.lookup tr = pre at hrel
  cases hrel with
  | some hmv => exact ⟨_, rfl, hmv⟩

lemma CellsMove.lookup_of_before (h : CellsMove released finished cells cells')
    (hc : cells.lookup tr = some cell) : ∃ cell', cells'.lookup tr = some cell' ∧
      CellMove (released tr) (finished tr) cell cell' := by
  have hrel := h tr
  rw [hc] at hrel
  generalize ha : cells'.lookup tr = after at hrel
  cases hrel with
  | some hmv => exact ⟨_, rfl, hmv⟩

/-! ### The condition -/

def Effect.Revives (track : TrackId) : Effect π → Prop
  | .stateSent track' state => track' = track ∧ state ≠ .unpublished
  | _ => False

instance (track : TrackId) (effect : Effect π) : Decidable (effect.Revives track) := by
  unfold Effect.Revives
  split <;> infer_instance

def Descriptor.Published (state : TrackId → PublishState) : Descriptor → Prop
  | .active _ track => state track ≠ .unpublished
  | .pending _ => True

instance (state : TrackId → PublishState) (descriptor : Descriptor) :
    Decidable (descriptor.Published state) := by
  unfold Descriptor.Published
  split <;> infer_instance

namespace Processes

/-- Unpublication and republication keep apart.

* A republication that the manager takes up finds the tracks of all active descriptors published.
* A track that a user lets go of is not about to be sent another publish state. -/
def Apart (self : Processes π) (action : Action) : Prop :=
  (∀ event ∈ self.takenUp action, event.isRepublish →
    ∀ e ∈ self.manager.descriptors.entries, Descriptor.Published self.stateOf e.2) ∧
  ∀ track ∈ self.releases action, ∀ effect ∈ self.pending, ¬ effect.Revives track
  deriving Decidable

/-! ### The invariant -/

end Processes

inductive Effect.Shape : List (Effect π) → Prop
  | signals {rest} (state : PublishState) (h : ∀ effect ∈ rest, effect.IsSignal state) : Shape rest
  | creates (track : TrackId) (options : PipelineOptions π) (resultTx : ResultTx) :
      Shape [.spawned track options, .result resultTx (.ok ⟨track, options.info⟩)]
  | hands (resultTx : ResultTx) (localTrack : LocalDataTrack) :
      Shape [.result resultTx (.ok localTrack)]

lemma Effect.Shape.tail {eff : Effect π} {rest : List (Effect π)}
    (h : Effect.Shape (eff :: rest)) : Effect.Shape rest := by
  cases h with
  | signals state h => exact .signals state fun e he => h e (mem_cons_of_mem eff he)
  | creates _ _ tx => exact .hands tx _
  | hands => exact .signals .unpublished nofun

namespace Processes

structure Sound (system : Processes π) : Prop where
  ended : system.phase.isEnded → system.manager.running = false
  shape : Effect.Shape system.pending
  targets : ∀ track state, .stateSent track state ∈ system.pending → state ≠ .unpublished →
    system.stateOf track ≠ .unpublished
  made : ∀ track cell, system.cells.lookup track = some cell → track < system.manager.nextTrack
  fresh : ∀ track options, .spawned track options ∈ system.pending →
    system.cells.lookup track = none ∧ track < system.manager.nextTrack
  /-- A task that has left its loop has read that its track is unpublished. -/
  stopped : ∀ track cell, system.cells.lookup track = some cell → cell.task ≠ .running →
    cell.state = .unpublished

variable {s after : Processes π}

lemma stateOf_of_lookup {cell} (h : s.cells.lookup tr = some cell) : s.stateOf tr = cell.state := by
  unfold stateOf
  rw [h]

lemma lookup_of_stateOf (h : s.stateOf tr ≠ .unpublished) :
    ∃ cell, s.cells.lookup tr = some cell ∧ cell.state ≠ .unpublished := by
  unfold stateOf at h
  cases hc : s.cells.lookup tr with
  | none =>
    rw [hc] at h
    exact absurd rfl h
  | some cell =>
    rw [hc] at h
    exact ⟨cell, rfl, h⟩

/-- Tracks keep their handle. What is unpublished stays so, and a task ends only where `finished`.
-/
def KeepsTracks (finished : TrackId → Prop) (before after : Processes π) : Prop :=
  ∀ track cell, before.cells.lookup track = some cell →
    ∃ cell', after.cells.lookup track = some cell' ∧ cell'.handle = cell.handle ∧
      (cell.state = .unpublished → cell'.state = .unpublished) ∧
      (cell'.task = .ended → cell.task = .ended ∨ finished track)

lemma keepsTracks_of_cells (h : after.cells = s.cells) : KeepsTracks finished s after :=
  fun _ cell hc => ⟨cell, h ▸ hc, rfl, id, .inl⟩

lemma keepsTracks_of_move (h : CellsMove released finished s.cells after.cells) :
    KeepsTracks finished s after := by
  intro _ _ hc
  obtain ⟨cell', hc', hmv⟩ := h.lookup_of_before hc
  exact ⟨cell', hc', hmv.handle_eq, hmv.unpublished, hmv.ended⟩

lemma Sound.of_move (h : Sound s) (hm : after.manager = s.manager)
    (hover : after.phase.isEnded → after.manager.running = false)
    (hmv : CellsMove released finished s.cells after.cells)
    (hshape : Effect.Shape after.pending) (hp : after.pending ⊆ s.pending)
    (hreleased : ∀ tr, released tr →
      ∀ state, .stateSent tr state ∈ after.pending → state = .unpublished) : Sound after := by
  refine ⟨hover, hshape, fun tr state hmem hst => ?_, fun tr cell' hc' => ?_,
    fun tr opts hmem => ?_, fun tr cell' hc' ht => ?_⟩
  · obtain ⟨_, hc, hpub⟩ :=
      lookup_of_stateOf (h.targets tr state (hp hmem) hst)
    obtain ⟨_, hc', hcellMove⟩ := hmv.lookup_of_before hc
    have hkept : ¬ released tr := fun hrel => hst (hreleased tr hrel state hmem)
    rw [stateOf_of_lookup hc', hcellMove.state_eq hkept]
    exact hpub
  · obtain ⟨cell, hc, -⟩ := hmv.lookup_of_after hc'
    rw [hm]
    exact h.made tr cell hc
  · obtain ⟨hn, hlt⟩ := h.fresh tr opts (hp hmem)
    refine ⟨?_, hm ▸ hlt⟩
    cases hc' : after.cells.lookup tr with
    | none => rfl
    | some =>
      obtain ⟨_, hc, -⟩ := hmv.lookup_of_after hc'
      cases hn.symm.trans hc
  · obtain ⟨cell, hc, hcellMove⟩ := hmv.lookup_of_after hc'
    exact hcellMove.stopped (h.stopped tr cell hc) ht

lemma sound_outside (h : Sound s) {a} (houtside : a ≠ .manage) (hap : s.Apart a) :
    Sound (s.step a).1 ∧ KeepsTracks (fun tr => a = .finish tr) s (s.step a).1 := by
  obtain ⟨hm, hp, hmv, -, -⟩ := s.step_outside houtside
  have hpend : (s.step a).1.pending = s.pending := by
    unfold pending
    rw [hp]
  have hreleased : ∀ tr, s.releases a = some tr →
      ∀ state, .stateSent tr state ∈ s.pending → state = .unpublished := by
    intro tr htr _ hmem
    exact not_not.mp fun hst => hap.2 tr htr _ hmem ⟨rfl, hst⟩
  refine ⟨h.of_move hm ?_ hmv ?_ ?_ ?_, keepsTracks_of_move hmv⟩
  · rw [hp, hm]
    exact h.ended
  · rw [hpend]
    exact h.shape
  · rw [hpend]
    exact fun _ hmem => hmem
  · rw [hpend]
    exact hreleased

/-! ### An effect -/

section

variable (s : Processes π) (eff : Effect π) (rest : List (Effect π))

lemma cellsMove_answer (finished : TrackId → Prop) (tx res) :
    CellsMove (fun tr => res.toOption.map LocalDataTrack.track = some tr) finished
      s.cells (s.answer tx res).cells := by
  unfold answer
  split
  next => exact .refl _ _ _
  next => exact .refl _ _ _
  next => exact s.cellsMove_discard finished res

lemma answer_manager (tx res) : (s.answer tx res).manager = s.manager := by
  unfold answer
  split <;> simp [setRequest]

lemma perform_manager : (s.perform eff).manager = s.manager := by
  cases eff with
  | result tx result => exact s.answer_manager tx result
  | _ => rfl

def performed (self : Processes π) (effect : Effect π) (rest : List (Effect π)) : Processes π :=
  { self.perform effect with phase := self.phaseAfter effect rest }

@[simp] lemma pending_performed : (s.performed eff rest).pending = rest := by
  simp only [performed, pending, phaseAfter]
  cases eff with
  | stateSent =>
    cases s.manager.running <;> rfl
  | _ => rfl

lemma performed_phase : (s.performed eff rest).phase.isEnded = false := by
  simp only [performed, phaseAfter]
  cases eff with
  | stateSent =>
    cases s.manager.running <;> rfl
  | _ => rfl

lemma performed_manager : (s.performed eff rest).manager = s.manager := s.perform_manager eff

lemma performed_queue : (s.performed eff rest).queue = s.queue := by
  cases eff with
  | result tx result =>
    change (s.answer tx result).queue = s.queue
    unfold answer
    split <;> simp [setRequest]
  | _ => rfl

inductive Manages (self : Processes π) : Processes π × List (Occurrence π) → Prop
  | waits : Manages self (self, [])
  | takes {event queue} (hphase : self.phase = .receiving) (hqueue : self.queue = event :: queue) :
      Manages self (self.take event queue, [])
  | returns (hphase : self.phase = .handling []) : Manages self
      ({ self with phase := if self.manager.running then .receiving else .ended }, [])
  | performs {effect rest} (hphase : self.phase = .handling (effect :: rest)) :
      Manages self (self.performed effect rest, [.performed effect])
  | joins {track rest} (hphase : self.phase = .joining track rest) (hended : self.taskEnded track) :
      Manages self ({ self with phase := .handling rest }, [])

lemma manages : s.Manages s.manage := by
  unfold manage
  split
  next hp =>
    split
    next => exact .waits
    next hq => exact .takes hp hq
  next hp => exact .returns hp
  next hp =>
    split
    · exact .waits
    · exact .performs hp
  next hp =>
    split
    next he => exact .joins hp he
    next => exact .waits
  next => exact .waits

end

section Performed

variable {s : Processes π} {eff : Effect π} {rest : List (Effect π)}

section

variable (h : Sound s)
include h

lemma Sound.resend {state : PublishState}
    (hp : s.pending = .stateSent tr state :: rest) (hst : state ≠ .unpublished) :
    Sound (s.performed (.stateSent tr state) rest) ∧
      KeepsTracks finished s (s.performed (.stateSent tr state) rest) := by
  obtain ⟨_, hcell₀, hpub⟩ := lookup_of_stateOf (h.targets tr state (by rw [hp]; exact .head _) hst)
  have hl : ∀ track', (s.performed (.stateSent tr state) rest).cells.lookup track' =
      (s.cells.lookup track').map fun cell =>
        if track' = tr then cell.send state else cell :=
    fun track' => Cells.lookup_update s.cells tr track' _
  refine ⟨⟨by simp [performed_phase], ?_, fun track' state' hm hstate' => ?_,
    fun track' cell' hc' => ?_,
    fun track' opts hm => ?_, fun track' cell' hc' ht => ?_⟩, ?_⟩
  · rw [pending_performed]
    exact (hp ▸ h.shape).tail
  · rw [pending_performed] at hm
    obtain ⟨_, hc, hbef⟩ := lookup_of_stateOf
      (h.targets track' state' (by rw [hp]; exact mem_cons_of_mem _ hm) hstate')
    rw [stateOf_of_lookup (show _ = some _ by rw [hl, hc]; rfl)]
    split
    · exact TrackCell.send_published hbef hst
    · exact hbef
  · obtain ⟨cell, hc, -⟩ := map_eq_some_iff.mp ((hl track').symm.trans hc')
    exact h.made track' cell hc
  · rw [pending_performed] at hm
    obtain ⟨hn, hlt⟩ := h.fresh track' opts (by rw [hp]; exact mem_cons_of_mem _ hm)
    rw [hl, hn, performed_manager]
    exact ⟨rfl, hlt⟩
  · obtain ⟨cell, hc, rfl⟩ := map_eq_some_iff.mp ((hl track').symm.trans hc')
    by_cases heq : track' = tr
    · -- the track is published, so its task is in its loop
      subst heq
      rw [if_pos rfl, TrackCell.send_task] at ht
      obtain rfl := mem_unique hcell₀ hc
      exact absurd (h.stopped track' _ hc ht) hpub
    · rw [if_neg heq] at ht ⊢
      exact h.stopped track' cell hc ht
  · intro track' _ hc
    refine ⟨_, show _ = some _ by rw [hl, hc, map_some], ?_⟩
    by_cases heq : track' = tr
    · -- the track that is told was published
      subst heq
      obtain rfl := mem_unique hcell₀ hc
      rw [if_pos rfl, TrackCell.send_handle, TrackCell.send_task]
      exact ⟨rfl, fun hunpublished => absurd hunpublished hpub, .inl⟩
    · rw [if_neg heq]
      exact ⟨rfl, id, .inl⟩

lemma Sound.spawn {opts} (hp : s.pending = .spawned tr opts :: rest) :
    Sound (s.performed (.spawned tr opts) rest) ∧
      KeepsTracks finished s (s.performed (.spawned tr opts) rest) := by
  obtain ⟨hn, hlt⟩ := h.fresh tr opts (by rw [hp]; exact .head _)
  have hl : ∀ track', (s.performed (.spawned tr opts) rest).cells.lookup track' =
      if track' = tr then some ⟨opts.info.pubHandle, .published, .running, 0⟩
      else s.cells.lookup track' :=
    fun track' => AList.lookup_insert_ite _ _ _ _
  -- the rest of the handler hands the track over
  have hr : ∃ tx loc, rest = [.result tx (.ok loc)] := by
    have hshape := h.shape
    rw [hp] at hshape
    cases hshape with
    | signals _ hsig => exact absurd (hsig _ (.head _)) id
    | creates _ _ tx => exact ⟨tx, _, rfl⟩
  obtain ⟨tx, loc, rfl⟩ := hr
  refine ⟨⟨by simp [performed_phase], ?_, fun track' state' hm _ => ?_, fun track' cell' hc' => ?_,
    fun track' options' hm => ?_, fun track' cell' hc' ht => ?_⟩, ?_⟩
  · rw [pending_performed]
    exact .hands tx loc
  · rw [pending_performed] at hm
    exact nomatch hm
  · rw [performed_manager]
    rw [hl] at hc'
    split at hc'
    next heq =>
      rw [heq]
      exact hlt
    next => exact h.made track' cell' hc'
  · rw [pending_performed] at hm
    exact nomatch hm
  · rw [hl] at hc'
    split at hc'
    next =>
      cases hc'
      exact absurd rfl ht
    next => exact h.stopped track' cell' hc' ht
  · intro _ cell hc
    refine ⟨cell, ?_, rfl, id, .inl⟩
    rw [hl, if_neg, hc]
    rintro rfl
    exact nomatch hn.symm.trans hc

lemma Sound.performed_of_move (hp : s.pending = eff :: rest)
    (hmv : CellsMove released finished s.cells (s.performed eff rest).cells)
    (hreleased : ∀ tr, released tr → ∀ state, .stateSent tr state ∈ rest → state = .unpublished) :
    Sound (s.performed eff rest) ∧ KeepsTracks finished s (s.performed eff rest) := by
  refine ⟨h.of_move (s.performed_manager eff rest) (by simp [performed_phase]) hmv ?_ ?_ ?_,
    keepsTracks_of_move hmv⟩
  · rw [pending_performed]
    exact (hp ▸ h.shape).tail
  · rw [pending_performed, hp]
    exact subset_cons_self eff rest
  · rw [pending_performed]
    exact hreleased

lemma sound_performed (hp : s.pending = eff :: rest) : Sound (s.performed eff rest) ∧
      KeepsTracks finished s (s.performed eff rest) := by
  have hshape := h.shape
  rw [hp] at hshape
  cases eff with
  | spawned => exact h.spawn hp
  | stateSent tr state =>
    by_cases hst : state = .unpublished
    · -- the other tracks of this handler are unpublished too
      subst hst
      refine h.performed_of_move hp (s.cellsMove_unpublish finished tr) fun _ _ state' hm => ?_
      cases hshape with
      | signals state hsig =>
        obtain rfl : PublishState.unpublished = state := hsig _ (.head _)
        exact hsig _ (mem_cons_of_mem _ hm)
    · exact h.resend hp hst
  | result tx result =>
    refine h.performed_of_move hp (s.cellsMove_answer finished tx result) fun tr htr state' hm => ?_
    -- a track is handed over in the last effect of its handler
    cases result with
    | error error => cases htr
    | ok =>
      cases hshape with
      | signals _ hsig => exact absurd (hsig _ (.head _)) id
      | hands => cases hm
  | _ =>
    exact h.performed_of_move hp (.refl (fun _ => False) finished _) fun _ => False.elim

end

end Performed

/-! ### The manager -/

variable {ev : InputEvent} {queue : List InputEvent} {a : Action}
  {log : List (Occurrence π)} {handle : Handle} {cell : TrackCell}

lemma Sound.take (h : Sound s) (hp : s.phase = .receiving)
    (hq : s.queue = ev :: queue) (hap : s.Apart .manage) : Sound (s.take ev queue) := by
  have hhandled := s.manager.handled_step s.view ev
  have hmade : ∀ nextTrack, s.manager.nextTrack ≤ nextTrack →
      ∀ tr cell, s.cells.lookup tr = some cell → tr < nextTrack :=
    fun nextTrack hle tr cell hc => lt_of_lt_of_le (h.made tr cell hc) hle
  -- where no track is made, the clauses about new tracks say nothing
  have hsig : ∀ state, (∀ eff ∈ (s.manager.step (s.view, ev)).2, eff.IsSignal state) →
      (s.manager.step (s.view, ev)).1.nextTrack = s.manager.nextTrack →
      (state ≠ .unpublished → ∀ tr, signalled (s.manager.step (s.view, ev)).2 tr →
          s.stateOf tr ≠ .unpublished) → Sound (s.take ev queue) := by
    intro state hsig hn htargets
    refine ⟨by simp [Processes.take, ManagerPhase.isEnded], .signals state hsig,
      fun tr state' hm hstate' => ?_,
      hmade _ (le_of_eq hn.symm), fun tr options hm => absurd (hsig _ hm) id, h.stopped⟩
    obtain rfl : state' = state := hsig _ hm
    exact htargets hstate' tr (signalled_iff.mpr ⟨state', hm⟩)
  cases hhandled with
  | unpublishes hall hn => exact hsig _ hall hn fun hne => absurd rfl hne
  | republishes _ hev hall hn hac =>
    refine hsig _ hall hn fun _ tr htold => ?_
    obtain ⟨_, _, hl⟩ := hac tr htold
    have htk : ev ∈ s.takenUp .manage := by
      rw [takenUp, hp, hq]
      rfl
    have he := AList.mem_lookup_iff.mp (show _ ∈ _ from hl)
    exact hap.1 ev htk (by rw [hev]; rfl) _ he
  | restores hall hn hseen =>
    refine hsig _ hall hn fun _ tr htold => ?_
    have hst : s.stateOf tr = .republishing := hseen tr htold
    rw [hst]
    decide
  | creates options tx heffects hn =>
    have hpend : (s.take ev queue).pending = [.spawned s.manager.nextTrack options,
        .result tx (.ok ⟨s.manager.nextTrack, options.info⟩)] := heffects
    have hnext' : (s.take ev queue).manager.nextTrack = s.manager.nextTrack + 1 := hn
    refine ⟨by simp [Processes.take, ManagerPhase.isEnded], ?_, fun tr state hm _ => ?_,
      hmade _ (by rw [hnext']; exact Nat.le_succ _),
      fun tr options' hm => ?_, h.stopped⟩
    · rw [hpend]
      exact .creates _ options tx
    · rw [hpend] at hm
      exact nomatch hm
    · rw [hpend] at hm
      have htr : tr = s.manager.nextTrack ∧ options' = options := by simpa using hm
      rw [htr.1]
      refine ⟨?_, lt_of_lt_of_eq (Nat.lt_succ_self _) hn.symm⟩
      -- every track there is has a smaller number
      cases hc : s.cells.lookup s.manager.nextTrack with
      | none => exact hc
      | some cell => exact absurd (h.made _ cell hc) (lt_irrefl _)

lemma sound_manage (h : Sound s) (hap : s.Apart .manage) :
    Sound s.manage.1 ∧ KeepsTracks finished s s.manage.1 := by
  have hmanages := s.manages
  generalize s.manage = res at hmanages ⊢
  cases hmanages with
  | waits => exact ⟨h, keepsTracks_of_cells rfl⟩
  | takes hp hq => exact ⟨h.take hp hq hap, keepsTracks_of_cells rfl⟩
  | returns =>
    have hn : ∀ eff, eff ∉ ({ s with phase :=
        if s.manager.running then .receiving else .ended } : Processes π).pending := by
      intro _
      cases s.manager.running <;> exact not_mem_nil
    refine ⟨⟨?_, .signals .unpublished fun e he => absurd he (hn e),
      fun _ _ hm => absurd hm (hn _), h.made, fun _ _ hm => absurd hm (hn _),
      h.stopped⟩, keepsTracks_of_cells rfl⟩
    cases s.manager.running with
    | true => simp [ManagerPhase.isEnded]
    | false => exact fun _ => rfl
  | performs hp => exact sound_performed h (by rw [pending, hp])
  | @joins _ rest hp =>
    have hpend : s.pending = rest := by
      rw [pending, hp]
    -- the effects still to come are the same
    refine ⟨⟨by simp [ManagerPhase.isEnded], ?_, ?_, h.made, ?_, h.stopped⟩,
      keepsTracks_of_cells rfl⟩
    · exact hpend ▸ h.shape
    · exact hpend ▸ h.targets
    · exact hpend ▸ h.fresh

/-- **A move.** Where unpublication and republication keep apart, what is
unpublished stays so. -/
theorem sound_step (h : Sound s) (hap : s.Apart a) : Sound (s.step a).1 ∧
      KeepsTracks (fun tr => a = .finish tr) s (s.step a).1 := by
  by_cases hac : a = .manage
  · subst hac
    exact sound_manage h hap
  · exact sound_outside h hac hap

lemma sound_new (prov : Option π) : Sound (new prov) := by
  refine ⟨by simp [new, ManagerPhase.isEnded], .signals .unpublished fun e he => ?_, ?_, ?_, ?_, ?_⟩
  · cases he
  all_goals rintro _ _ ⟨⟩

/-! ### Telling the SFU -/

/-- A request to unpublish the handle is in the manager's channel, or the manager handles it, or it
has gone out. A manager that has been shut down makes no more requests. -/
def Told (log : List (Occurrence π)) (self : Processes π) (handle : Handle) : Prop :=
  self.manager.running = false ∨ .unpublishRequest handle ∈ self.queue ∨
    .output (.sfuUnpublishRequest handle) ∈ self.pending ∨
    .performed (.output (.sfuUnpublishRequest handle)) ∈ log

lemma queue_prefix (s : Processes π) (h : a ≠ .manage) : s.queue <+: (s.step a).1.queue := by
  rcases (s.step_outside h).queue with hq | ⟨ev, -, hq⟩
  · exact ⟨[], (append_nil _).trans hq.symm⟩
  · exact ⟨[ev], hq.symm⟩

lemma take_or_keep (s : Processes π) (a : Action) :
    (∃ ev queue, s.phase = .receiving ∧ s.queue = ev :: queue ∧
      s.takenUp a = some ev ∧ s.step a = (s.take ev queue, [])) ∨
    (s.step a).1.manager = s.manager ∧ s.queue ⊆ (s.step a).1.queue ∧
      ∀ eff ∈ s.pending, eff ∈ (s.step a).1.pending ∨
        ∃ rest, s.step a = (s.performed eff rest, [.performed eff]) := by
  by_cases hac : a = .manage
  · subst hac
    have hmanages : s.Manages (s.step .manage) := s.manages
    generalize s.step .manage = res at hmanages ⊢
    cases hmanages with
    | waits => exact .inr ⟨rfl, List.Subset.refl _, fun _ h => .inl h⟩
    | @takes ev queue hp hq =>
      refine .inl ⟨ev, queue, hp, hq, ?_, rfl⟩
      rw [takenUp, hp, hq]
      rfl
    | returns hp =>
      refine .inr ⟨rfl, List.Subset.refl _, fun eff hmem => ?_⟩
      rw [pending, hp] at hmem
      cases hmem
    | @performs eff rest hp =>
      refine .inr ⟨s.performed_manager eff rest, ?_, fun effect' hmem => ?_⟩
      · exact fun _ h => (s.performed_queue eff rest).symm ▸ h
      · rw [pending, hp] at hmem
        rcases mem_cons.mp hmem with rfl | hmem
        · exact .inr ⟨rest, rfl⟩
        · exact .inl ((s.pending_performed eff rest).symm ▸ hmem)
    | joins hp =>
      refine .inr ⟨rfl, List.Subset.refl _, fun eff hmem => .inl ?_⟩
      rwa [pending, hp] at hmem
  · obtain ⟨hm, hp, -, -, -⟩ := s.step_outside hac
    refine .inr ⟨hm, (s.queue_prefix hac).subset, fun eff hmem => .inl ?_⟩
    rwa [pending, hp]

section

variable (h : Told log s handle)
include h

lemma Told.mono {log'} (hrun : after.manager.running = s.manager.running)
    (hq : s.queue ⊆ after.queue)
    (hp : ∀ eff ∈ s.pending, eff ∈ after.pending ∨ .performed eff ∈ log') (hlog : log ⊆ log') :
    Told log' after handle := by
  rcases h with h | h | h | h
  · exact .inl (hrun.trans h)
  · exact .inr (.inl (hq h))
  · rcases hp _ h with h | h
    · exact .inr (.inr (.inl h))
    · exact .inr (.inr (.inr h))
  · exact .inr (.inr (.inr (hlog h)))

lemma Told.take (hp : s.phase = .receiving) (hq : s.queue = ev :: queue) :
    Told log (s.take ev queue) handle := by
  by_cases hrun : s.manager.running = true
  · rcases h with h | h | h | h
    · cases hrun.symm.trans h
    · rw [hq] at h
      rcases mem_cons.mp h with rfl | h
      · refine .inr (.inr (.inl ?_))
        change _ ∈ (s.manager.step (s.view, .unpublishRequest handle)).2
        rw [Manager.step, if_pos hrun]
        exact mem_append_right _ (mem_singleton.mpr rfl)
      · exact .inr (.inl h)
    · -- a manager that waits for an event has nothing left to do
      rw [pending, hp] at h
      cases h
    · exact .inr (.inr (.inr h))
  · left
    change (s.manager.step (s.view, ev)).1.running = false
    rw [Manager.step, if_neg hrun]
    exact Bool.eq_false_iff.mpr hrun

lemma told_step (a : Action) : Told (log ++ (s.step a).2) (s.step a).1 handle := by
  rcases s.take_or_keep a with
    ⟨ev, queue, hp, hq, -, hstep⟩ | ⟨hm, hq, hpend⟩
  · rw [hstep, append_nil]
    exact h.take hp hq
  · refine h.mono (by rw [hm]) hq (fun eff hmem => ?_) (subset_append_left ..)
    refine (hpend eff hmem).imp_right ?_
    rintro ⟨_, hstep⟩
    rw [hstep]
    exact mem_append_right _ (mem_singleton.mpr rfl)

end

lemma sent_of_finish (h : Sound s) {cell'} (hc : s.cells.lookup tr = some cell)
    (hc' : (s.finish tr).cells.lookup tr = some cell') (hrun : cell.task ≠ .ended)
    (he : cell'.task = .ended) : (s.finish tr).manager.running = false ∨
      .unpublishRequest cell.handle ∈ (s.finish tr).queue := by
  unfold finish at hc' ⊢
  simp only [hc] at hc' ⊢
  split
  next hgo =>
    by_cases hover : s.phase.isEnded
    · left
      rw [push_manager]
      exact h.ended hover
    · right
      have hroom : s.HasRoom := hgo.2.resolve_right hover
      rw [push, if_pos ⟨hover, hroom⟩]
      exact mem_append_right _ (mem_singleton.mpr rfl)
  next hstay =>
    rw [if_neg hstay] at hc'
    obtain rfl := mem_unique hc hc'
    exact absurd he hrun

/-! ### Runs -/

/-- The track is under the handle, and its task has told the manager if it has
ended. -/
def Tracked (log : List (Occurrence π)) (self : Processes π) (track : TrackId) (handle : Handle) :
    Prop :=
  ∃ cell, self.cells.lookup track = some cell ∧ cell.handle = handle ∧
    (cell.task = .ended → Told log self handle)

lemma tracked_step (hs : Sound s) (h : Tracked log s tr handle) (hap : s.Apart a) :
    Tracked (log ++ (s.step a).2) (s.step a).1 tr handle := by
  obtain ⟨cell, hc, rfl, htold⟩ := h
  obtain ⟨cell', hc', hhandle', -, he⟩ := (sound_step hs hap).2 tr cell hc
  refine ⟨cell', hc', hhandle', fun ht' => ?_⟩
  by_cases ht : cell.task = .ended
  · exact told_step (htold ht) a
  · -- the task ends in this move
    obtain rfl := (he ht').resolve_left ht
    exact (sent_of_finish hs hc hc' ht ht').imp_right .inl

lemma cells_of_releases (h : s.releases a = some tr) :
    (s.step a).1.cells = s.cells.update tr fun cell => cell.send .unpublished := by
  cases a with
  | unpublish =>
    cases h
    rfl
  | cancel =>
    simp only [releases] at h
    split at h
    next _ _ hl =>
      cases h
      simp only [step, cancel, hl]
      rfl
    next => cases h
  | forward =>
    simp only [releases] at h
    split at h
    next => cases h
    next _ _ caller hwaiting hl =>
      cases h
      cases caller with
      | waiting => exact absurd rfl hwaiting
      | _ =>
        simp only [step, forward, hl]
        rfl
    next => cases h
  | _ => cases h

section

variable (hs : Sound s)
include hs

lemma tracked_of_releases (h : s.releases a = some tr)
    (hc : s.cells.lookup tr = some cell) (hst : cell.state ≠ .unpublished) :
    Tracked (s.step a).2 (s.step a).1 tr cell.handle ∧ (s.step a).1.stateOf tr = .unpublished := by
  have ht : cell.task = .running :=
    not_not.mp fun ht => hst (hs.stopped tr cell hc ht)
  have hreceivers : cell.receivers ≠ 0 := TrackCell.receivers_ne_zero (by rw [ht]; decide)
  have hl : (s.step a).1.cells.lookup tr = some (cell.send .unpublished) := by
    rw [cells_of_releases h, Cells.lookup_update, hc, map_some, if_pos rfl]
  refine ⟨⟨cell.send .unpublished, hl, cell.send_handle _, fun he => ?_⟩, ?_⟩
  · rw [TrackCell.send_task, ht] at he
    cases he
  · rw [stateOf_of_lookup hl]
    exact TrackCell.send_of_receivers hreceivers _

lemma idle_of_settled (h : s.Settled) (hrun : s.manager.running)
    : s.queue = [] ∧ s.pending = [] := by
  have hm := h.manager
  have hover := hs.ended
  cases hp : s.phase with
  | receiving =>
    rw [hp] at hm
    refine ⟨isEmpty_iff.mp hm, ?_⟩
    rw [pending, hp]
  | ended =>
    rw [hp] at hover
    cases hrun.symm.trans (hover rfl)
  | handling | joining =>
    rw [hp] at hm
    cases hm

lemma mem_log_of_told (h : Told log s handle) (hset : s.Settled) (hrun : s.manager.running) :
    .performed (.output (.sfuUnpublishRequest handle)) ∈ log := by
  obtain ⟨hq, hp⟩ := idle_of_settled hs hset hrun
  rcases h with h | h | h | h
  · cases hrun.symm.trans h
  · rw [hq] at h
    cases h
  · rw [hp] at h
    cases h
  · exact h

lemma mem_log_of_tracked (h : Tracked log s tr handle)
    (hst : s.stateOf tr = .unpublished) (hset : s.Settled) (hrun : s.manager.running) :
    .performed (.output (.sfuUnpublishRequest handle)) ∈ log := by
  obtain ⟨cell, hc, -, htold⟩ := h
  rw [stateOf_of_lookup hc] at hst
  -- a task at rest has ended, or its track is published
  have ht : cell.task = .ended :=
    (hset.tasks tr cell hc).resolve_left fun hr => hr.2 hst
  exact mem_log_of_told hs (htold ht) hset hrun

end

section Runs

variable {start : Processes π} {acts : List Action}

lemma sound_run (hst : Sound start) (h : Along step Apart start acts) :
    Sound (state step start acts) :=
  h.state_of_step hst fun _ _ hs hap => (sound_step hs hap).1

lemma unpublished_run (hstart : Sound start) (h : Along step Apart start acts)
    (hc : start.cells.lookup tr = some cell) (hst : cell.state = .unpublished) :
    ∃ cell', (state step start acts).cells.lookup tr = some cell' ∧ cell'.state = .unpublished := by
  let P (s : Processes π) : Prop := Sound s ∧
    ∃ cell', s.cells.lookup tr = some cell' ∧ cell'.state = .unpublished
  have hstep : ∀ s a, P s → s.Apart a → P (s.step a).1 := by
    rintro _ _ ⟨hs, cell', hc', hstate'⟩ hap
    obtain ⟨hsound', hkp⟩ := sound_step hs hap
    obtain ⟨cell'', hcell'', -, hstate'', -⟩ := hkp tr cell' hc'
    exact ⟨hsound', cell'', hcell'', hstate'' hstate'⟩
  have hend : P (state step start acts) := h.state_of_step ⟨hstart, cell, hc, hst⟩ hstep
  exact hend.2

lemma tracked_run (hst : Sound start) (h : Along step Apart start acts)
    (htr : Tracked log start tr handle) :
    Tracked (log ++ outputs step start acts) (state step start acts) tr handle := by
  let P (log : List (Occurrence π)) (s : Processes π) : Prop := Sound s ∧ Tracked log s tr handle
  have hstep : ∀ log s a, P log s → s.Apart a → P (log ++ (s.step a).2) (s.step a).1 := by
    rintro _ _ _ ⟨hs, htr⟩ hap
    exact ⟨(sound_step hs hap).1, tracked_step hs htr hap⟩
  have hend : P (log ++ outputs step start acts) (state step start acts) :=
    h.run_of_step ⟨hst, htr⟩ hstep
  exact hend.2

end Runs

/-- **Unpublication is final.** Along a run in which unpublication and republication keep apart, a
track that is unpublished stays so; and when a published track is let go of, the SFU has been told
after it once the processes are at rest, unless the manager was shut down. -/
theorem unpublish_final (encryptionProvider : Option π) (actions : List Action)
    (h : Along step Apart (new encryptionProvider) actions) :
    (∀ pre post, pre ++ post <+: actions → ∀ track cell,
      (state step (new encryptionProvider) pre).cells.lookup track = some cell →
        cell.state = .unpublished →
          ∃ cell', (state step (new encryptionProvider) (pre ++ post)).cells.lookup track =
              some cell' ∧ cell'.state = .unpublished) ∧
    ∀ pre action post, pre ++ action :: post <+: actions → ∀ track cell,
      (state step (new encryptionProvider) pre).releases action = some track →
        (state step (new encryptionProvider) pre).cells.lookup track = some cell →
          cell.state ≠ .unpublished →
      (state step (new encryptionProvider) (pre ++ action :: post)).Settled →
        (state step (new encryptionProvider) (pre ++ action :: post)).manager.running →
          .performed (.output (.sfuUnpublishRequest cell.handle)) ∈
            outputs step (state step (new encryptionProvider) pre) (action :: post) := by
  have hsplit : ∀ pre post, pre ++ post <+: actions →
      Sound (state step (new encryptionProvider) pre) ∧
        Along step Apart (state step (new encryptionProvider) pre) post := by
    rintro _ _ ⟨_, rfl⟩
    have hpart := h.append_left
    exact ⟨sound_run (sound_new encryptionProvider) hpart.append_left, hpart.append_right⟩
  constructor
  · intro pre post hpre _ _ hc hst
    obtain ⟨hsound, hpost⟩ := hsplit pre post hpre
    rw [state_append]
    exact unpublished_run hsound hpost hc hst
  · intro pre action post hpre _ _ hreleases hc hst hset hrun
    obtain ⟨hsound, hapart, hpost⟩ := hsplit pre (action :: post) hpre
    rw [state_append] at hset hrun
    have hsound' := (sound_step hsound hapart).1
    obtain ⟨htracked, hgone⟩ := tracked_of_releases hsound hreleases hc hst
    have ha := tracked_run hsound' hpost htracked
    -- the track is unpublished by the call, so it still is
    obtain ⟨_, hc', -⟩ := htracked
    rw [stateOf_of_lookup hc'] at hgone
    obtain ⟨_, hcell'', hgone'⟩ := unpublished_run hsound' hpost hc' hgone
    exact mem_log_of_tracked (sound_run hsound' hpost) ha
      ((stateOf_of_lookup hcell'').trans hgone') hset hrun

def grantedInfo : DataTrackInfo := firstTrack "DTR_p"

def renewedInfo : DataTrackInfo := firstTrack "DTR_q"

def published : List Action :=
  [.publish ⟨"a"⟩, .manage, .manage, .manage,
    .send (.sfuPublishResponse .one (.ok grantedInfo)), .manage, .manage, .manage, .manage,
    .forward 0, .receive 0]

def withdrawn : List Action :=
  [.unpublish 0, .notice 0, .finish 0, .manage, .manage, .manage]

/-- The track is republished, and then withdrawn. -/
theorem unpublish_final_withdrawn :
    let connect : List Action := published ++ [.send (.republishTracks .asListed), .manage, .manage,
      .manage, .manage]
    .performed (.output (.sfuUnpublishRequest .one)) ∈
      outputs step (state step (new (none : Option Unit)) connect) withdrawn := by
  intro connect
  have hapart : Along step Apart (new (none : Option Unit)) (connect ++ withdrawn) := by
    decide +kernel
  have hc : (state step (new (none : Option Unit)) connect).cells.lookup 0 =
      some ⟨.one, .republishing, .running, 0⟩ := by decide +kernel
  exact (unpublish_final none _ hapart).2 connect (.unpublish 0) withdrawn.tail
    prefix_rfl 0 _ rfl hc (by decide) (by decide +kernel) (by decide +kernel)

/-- Between the user's call and the task's reading, the tracks are republished. -/
def overwritten : List Action :=
  [.unpublish 0, .send (.republishTracks .asListed), .manage, .manage, .manage, .manage, .notice 0,
    .send (.sfuPublishResponse .one (.ok renewedInfo)), .manage, .manage, .manage, .manage]

/-- **An unpublication undone.** With everything at rest, the track is published again, and the SFU
has been told nothing but to publish it. -/
theorem unpublish_overwritten :
    let before := state step (new (none : Option Unit)) (published ++ [.unpublish 0])
    let after := state step (new (none : Option Unit)) (published ++ overwritten)
    before.stateOf 0 = .unpublished ∧ after.stateOf 0 = .published ∧ after.Settled ∧
      after.manager.running ∧
      .performed (.output (.sfuUnpublishRequest .one)) ∉
        outputs step (new (none : Option Unit)) (published ++ overwritten) := by
  decide +kernel

end Processes

end LiveKit.DataTrack.Local
