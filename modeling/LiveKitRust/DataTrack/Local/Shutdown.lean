import LiveKitRust.DataTrack.Local.Delivery

/-!
# Shutting down

`shutdown` tells each track that it is unpublished and awaits the track's task, which sends one last
request on the manager's own channel, and ends; the manager does not take from the channel any more.
Where the channel has no room, the task waits for the manager, and the manager for the task.

`owed` counts the tracks still to be awaited whose task has not ended: each will put one event into
the channel, which has room for them along `Roomy` moves (`shutdown_terminates`).
-/

open Machine List

namespace LiveKit.DataTrack.Local

variable {π : Type}

def InputEvent.isShutdown : InputEvent → Bool
  | .shutdown _ => true
  | _ => false

def Effect.told : Effect π → Option TrackId
  | .stateSent track _ => some track
  | _ => none

def Descriptor.activeTrack : Descriptor → Option TrackId
  | .active _ track => some track
  | .pending _ => none

def Effect.IsFarewell : Effect π → Prop
  | .result _ (.error _) => True
  | .stateSent _ state => state = .unpublished
  | _ => False

namespace Manager

/-- Only a shutdown ends the loop of `run`. -/
lemma shutdown_of_running {m : Manager π} {view : View} {ev : InputEvent} (hrun : m.running = true)
    (hover : (m.step (view, ev)).1.running = false) : ∃ order, ev = .shutdown order := by
  have hmv := m.step_move view hrun ev
  generalize m.step (view, ev) = res at hmv hover
  cases hmv with
  | shutdown order => exact ⟨order, rfl⟩
  | remove =>
    rw [removeDescriptor_fst] at hover
    cases hrun.symm.trans hover
  | republish order =>
    obtain ⟨_, hf⟩ := m.onRepublishTracks_frame order
    rw [hf] at hover
    cases hrun.symm.trans hover
  | _ => cases hrun.symm.trans hover

end Manager

namespace Processes

variable (self : Processes π)

def Closing : Prop :=
  self.manager.running = false ∧ self.phase.isEnded = false
  deriving Decidable

def awaited : List TrackId :=
  match self.phase with
  | .joining track rest => track :: rest.filterMap Effect.told
  | .handling rest => rest.filterMap Effect.told
  | _ => []

def unfinished (tracks : List TrackId) : ℕ :=
  tracks.countP fun track => !self.taskEnded track

/-- How many events the tasks that are still to be awaited will send. -/
def owed : ℕ := self.unfinished self.awaited

/-- The manager waits for a task, and the task for room in the manager's channel. -/
def Stuck : Prop :=
  ∃ track rest cell, self.phase = .joining track rest ∧ self.cells.lookup track = some cell ∧
    cell.task = .stopping ∧ ¬ self.HasRoom

/-- The move puts an event into the manager's channel, other than the request of a
task that is still to be awaited. -/
def enters : Action → Bool
  | .publish _ => true
  | .send event => event.External
  | .forward resultTx =>
    match self.requests.lookup resultTx with
    | some ⟨.cancelling _, _⟩ => true
    | _ => false
  | .finish track => track ∉ self.awaited
  | _ => false

/-- There is room for what is to come.

* When the manager takes up a shutdown, the events behind it and the requests of
  the active tracks whose task has not ended fit into the channel together.
* Another event that is sent during the shutdown leaves room for the requests that
  are still owed. -/
def Roomy (action : Action) : Prop :=
  (∀ event ∈ self.takenUp action, event.isShutdown →
    self.queue.tail.length + self.unfinished (self.manager.descriptors.entries.filterMap fun e =>
      Descriptor.activeTrack e.2) ≤ EVENT_BUFFER_COUNT) ∧
  (self.Closing → self.enters action → self.queue.length + self.owed < EVENT_BUFFER_COUNT)

instance (self : Processes π) (action : Action) : Decidable (self.Roomy action) :=
  inferInstanceAs (Decidable (_ ∧ _))

/-! ### Tasks -/

section Tasks

variable {s after : Processes π}

variable {tr : TrackId}

lemma taskEnded_of_move {released finished : TrackId → Prop}
    (h : CellsMove released finished s.cells after.cells)
    (he : s.taskEnded tr) : after.taskEnded tr := by
  unfold taskEnded at he ⊢
  cases hc' : after.cells.lookup tr with
  | none => rfl
  | some =>
    obtain ⟨cell, hc, hmv⟩ := h.lookup_of_after hc'
    rw [hc] at he
    have ht : cell.task = .ended := of_decide_eq_true he
    refine decide_eq_true ?_
    cases hmv with
    | same | watch => exact ht
    | release => rw [TrackCell.send_task, ht]
    | stop hrun => cases hrun.symm.trans ht
    | finish => rfl

lemma unfinished_le (tracks) (h : ∀ tr ∈ tracks, s.taskEnded tr → after.taskEnded tr) :
    after.unfinished tracks ≤ s.unfinished tracks := by
  refine countP_mono_left fun tr hm ha => ?_
  cases he : s.taskEnded tr with
  | false => rfl
  | true => exact absurd ha (by simp [h tr hm he])

lemma unfinished_lt {tracks} (hm : tr ∈ tracks)
    (h : ∀ tr ∈ tracks, s.taskEnded tr → after.taskEnded tr) (hbef : s.taskEnded tr = false)
    (ha : after.taskEnded tr = true) : after.unfinished tracks < s.unfinished tracks := by
  induction tracks with
  | nil => cases hm
  | cons track' tracks ih =>
    have hr : ∀ tr ∈ tracks, s.taskEnded tr → after.taskEnded tr :=
      fun tr hm => h tr (mem_cons_of_mem _ hm)
    have hle := unfinished_le tracks hr
    unfold unfinished at ih hle ⊢
    rw [countP_cons, countP_cons]
    by_cases heq : track' = tr
    · subst heq
      simp only [hbef, ha]
      exact Nat.lt_succ_of_le hle
    · have hlt := ih ((mem_cons.mp hm).resolve_left (Ne.symm heq)) hr
      refine Nat.add_lt_add_of_lt_of_le hlt ?_
      have hhere := h track' (.head _)
      cases he : s.taskEnded track' with
      | false => exact Nat.le_trans (by split <;> omega) (Nat.le_of_eq (if_pos rfl).symm)
      | true => simp [hhere he]

end Tasks

/-! ### The channel -/

section Channel

variable (s : Processes π)

lemma queue_growth {action} (h : action ≠ .manage) : (s.step action).1.queue = s.queue ∨
      (s.step action).1.queue.length = s.queue.length + 1 ∧
        (s.enters action = true ∨ ∃ tr ∈ s.awaited, s.taskEnded tr = false ∧
          (s.step action).1.taskEnded tr = true) := by
  rcases (s.step_outside h).queue with hsm | ⟨_, hemits, hq⟩
  · exact .inl hsm
  · rw [hq]
    refine .inr ⟨length_append, ?_⟩
    cases hemits with
    | publish => exact .inl rfl
    | forward hl =>
      left
      rw [enters, hl]
    | send hexternal => exact .inl (decide_eq_true hexternal)
    | @finish tr _ hc ht hcells =>
      by_cases hm : tr ∈ s.awaited
      · refine .inr ⟨tr, hm, ?_, ?_⟩
        · rw [taskEnded, hc]
          exact decide_eq_false (by rw [ht]; decide)
        · rw [step, taskEnded, hcells, Cells.lookup_update, hc]
          simp
      · exact .inl (decide_eq_true hm)

end Channel

/-! ### The invariant -/

structure Spacious (system : Processes π) : Prop where
  receives : system.phase = .receiving → system.manager.running = true
  /-- A manager that awaits a task has been shut down, and has told its track. -/
  joins : ∀ track rest, system.phase = .joining track rest → system.manager.running = false ∧
    ∀ cell, system.cells.lookup track = some cell → cell.task ≠ .ended → cell.state = .unpublished
  /-- What is still to come after a shutdown belongs to it. -/
  farewell : system.manager.running = false → ∀ effect ∈ system.pending, effect.IsFarewell
  room : system.Closing → system.queue.length + system.owed ≤ EVENT_BUFFER_COUNT

section Spacious

variable {s : Processes π}

variable {action : Action} {eff : Effect π} {rest : List (Effect π)} {after : Processes π}
  {tr : TrackId}

lemma spacious_outside (h : Spacious s) (houtside : action ≠ .manage)
    (hroomy : s.Roomy action) : Spacious (s.step action).1 := by
  obtain ⟨hm, hp, hmv, -, -⟩ := s.step_outside houtside
  have hawaited : (s.step action).1.awaited = s.awaited := by
    unfold awaited
    rw [hp]
  refine ⟨fun hrecv => ?_, fun tr rest hjoining => ?_, fun hover eff hmem => ?_, fun hcl => ?_⟩
  · rw [hm]
    exact h.receives (hp.symm.trans hrecv)
  · obtain ⟨hover, htold⟩ := h.joins tr rest (hp.symm.trans hjoining)
    refine ⟨hm ▸ hover, fun cell' hc' ht' => ?_⟩
    obtain ⟨cell, hc, hcellMove⟩ := hmv.lookup_of_after hc'
    refine hcellMove.unpublished (htold cell hc fun ht => ht' ?_)
    -- an ended task stays ended
    have he : (s.step action).1.taskEnded tr :=
      taskEnded_of_move hmv (by rw [taskEnded, hc]; exact decide_eq_true ht)
    rw [taskEnded, hc'] at he
    exact of_decide_eq_true he
  · refine h.farewell (hm ▸ hover) eff ?_
    rwa [pending, hp] at hmem
  · have hclosing' : s.Closing := by
      unfold Closing at hcl ⊢
      rwa [hm, hp] at hcl
    have hroom := h.room hclosing'
    have hkept : ∀ tr ∈ s.awaited, s.taskEnded tr → (s.step action).1.taskEnded tr :=
      fun tr _ he => taskEnded_of_move hmv he
    have hle := unfinished_le s.awaited hkept
    unfold owed at hroom ⊢
    rw [hawaited]
    rcases s.queue_growth houtside with hq | ⟨_, henters | ⟨_, hmem, hbef, ha⟩⟩
    · rw [hq]
      omega
    · have hless := hroomy.2 hclosing' henters
      unfold owed at hless
      omega
    · have hlt := unfinished_lt hmem hkept hbef ha
      omega

lemma taskEnded_performed (hfarewell : eff.IsFarewell) (tr) :
    s.taskEnded tr → (s.performed eff rest).taskEnded tr := by
  cases eff with
  | result tx result =>
    exact fun h => taskEnded_of_move (s.cellsMove_answer (fun _ => False) tx result) h
  | stateSent track' state =>
    obtain rfl : state = .unpublished := hfarewell
    exact fun h => taskEnded_of_move (s.cellsMove_unpublish (fun _ => False) track') h
  | _ => exact hfarewell.elim

section

variable (h : Spacious s)
include h

lemma spacious_performed (hp : s.phase = .handling (eff :: rest)) :
    Spacious (s.performed eff rest) := by
  have hpend : s.pending = eff :: rest := by
    rw [pending, hp]
  have heffect : s.manager.running = false → eff.IsFarewell := fun hover =>
    h.farewell hover eff (by rw [hpend]; exact .head _)
  have hrun := congrArg Manager.running (s.performed_manager eff rest)
  refine ⟨fun hrecv => ?_, fun tr rest' hjoining => ?_, fun hover effect' hm => ?_, fun hcl => ?_⟩
  · -- the manager is not receiving yet
    simp only [performed, phaseAfter] at hrecv
    cases eff with
    | stateSent =>
      dsimp only at hrecv
      split at hrecv <;> cases hrecv
    | _ => cases hrecv
  · cases eff with
    | stateSent track' state =>
      simp only [performed, phaseAfter] at hjoining
      split at hjoining
      next => cases hjoining
      next hover =>
        -- the track has just been told
        obtain ⟨rfl, rfl⟩ := ManagerPhase.joining.inj hjoining
        have hover : s.manager.running = false := Bool.eq_false_iff.mpr hover
        obtain rfl : state = .unpublished := heffect hover
        refine ⟨hrun.trans hover, fun cell' hc' ht' => ?_⟩
        have hl : (s.cells.update track' fun cell => cell.send .unpublished).lookup track' =
            some cell' := hc'
        rw [Cells.lookup_update] at hl
        obtain ⟨_, _, rfl⟩ := Option.map_eq_some_iff.mp hl
        rw [if_pos rfl, TrackCell.send_task] at ht'
        rw [if_pos rfl]
        exact TrackCell.send_of_receivers (TrackCell.receivers_ne_zero ht') _
    | _ => cases hjoining
  · rw [pending_performed] at hm
    exact h.farewell (hrun ▸ hover) effect' (by rw [hpend]; exact mem_cons_of_mem _ hm)
  · have hover : s.manager.running = false := hrun ▸ hcl.1
    have hroom := h.room ⟨hover, by rw [hp]; rfl⟩
    -- the track that has been told is awaited now
    have hawaited : (s.performed eff rest).awaited = s.awaited := by
      have hfarewell := heffect hover
      unfold awaited
      rw [hp]
      cases eff with
      | stateSent =>
        simp only [performed, phaseAfter, hover]
        rfl
      | result _ result => rfl
      | _ => exact hfarewell.elim
    have hle := unfinished_le s.awaited fun tr _ =>
      @taskEnded_performed π s eff rest (heffect hover) tr
    unfold owed at hroom ⊢
    rw [hawaited, performed_queue]
    omega

lemma spacious_take {ev : InputEvent} {queue : List InputEvent}
    (hp : s.phase = .receiving) (hq : s.queue = ev :: queue)
    (hroomy : s.Roomy .manage) : Spacious (s.take ev queue) := by
  have hrun := h.receives hp
  refine ⟨nofun, nofun, fun hover eff hm => ?_, fun hcl => ?_⟩
  · obtain ⟨_, rfl⟩ := Manager.shutdown_of_running hrun hover
    rw [take_pending, Manager.step, if_pos hrun] at hm
    obtain ⟨⟨_, d⟩, -, rfl⟩ := mem_map.mp hm
    cases d with
    | pending => trivial
    | active => rfl
  · obtain ⟨order, rfl⟩ := Manager.shutdown_of_running hrun hcl.1
    have htk : .shutdown order ∈ s.takenUp .manage := by
      rw [takenUp, hp, hq]
      rfl
    have hroom := hroomy.1 _ htk rfl
    rw [hq] at hroom
    -- the tracks that are told are those of the active descriptors
    have hawaited : (s.take (.shutdown order) queue).awaited.Perm
        (s.manager.descriptors.entries.filterMap fun e => Descriptor.activeTrack e.2) := by
      change List.Perm ((s.manager.step (s.view, .shutdown order)).2.filterMap Effect.told) _
      rw [Manager.step, if_pos hrun]
      change List.Perm (((order.entries s.manager.descriptors).map fun e =>
        Manager.shutdownEffect e.2).filterMap Effect.told) _
      rw [filterMap_map]
      refine ((order.entries_perm s.manager.descriptors).filterMap _).trans ?_
      rw [filterMap_map]
      refine List.Perm.of_eq (filterMap_congr fun e _ => ?_)
      obtain ⟨_, d⟩ := e
      cases d <;> rfl
    have hcount := hawaited.countP_eq fun tr => !s.taskEnded tr
    calc queue.length + (s.take (.shutdown order) queue).owed = queue.length + s.unfinished
            (s.manager.descriptors.entries.filterMap fun e => Descriptor.activeTrack e.2) :=
          congrArg (queue.length + ·) hcount
      _ ≤ EVENT_BUFFER_COUNT := hroom

lemma spacious_manage (hroomy : s.Roomy .manage) : Spacious s.manage.1 := by
  have hmanages := s.manages
  generalize s.manage = res at hmanages ⊢
  cases hmanages with
  | waits => exact h
  | takes hp hq => exact spacious_take h hp hq hroomy
  | returns =>
    cases hrun : s.manager.running with
    | true =>
      refine ⟨fun _ => hrun, nofun, fun hover => (nomatch hrun.symm.trans hover), fun hcl => ?_⟩
      cases hrun.symm.trans hcl.1
    | false =>
      exact ⟨nofun, nofun, nofun, fun hcl => nomatch hcl.2⟩
  | performs hp => exact spacious_performed h hp
  | @joins tr rest hp he =>
    have hover := (h.joins tr rest hp).1
    refine ⟨nofun, nofun, fun _ eff hm => ?_, fun _ => ?_⟩
    · exact h.farewell hover eff (by rw [pending, hp]; exact hm)
    · -- the task that was awaited owes nothing
      have hroom := h.room ⟨hover, by rw [hp]; rfl⟩
      have howed : s.owed = s.unfinished (rest.filterMap Effect.told) := by
        unfold owed awaited unfinished
        rw [hp]
        exact countP_cons_of_neg (by simp [he])
      rw [howed] at hroom
      exact hroom

lemma spacious_step (hroomy : s.Roomy action) : Spacious (s.step action).1 := by
  by_cases hac : action = .manage
  · subst hac
    exact spacious_manage h hroomy
  · exact spacious_outside h hac hroomy

end

lemma spacious_new (prov : Option π) : Spacious (new prov) :=
  ⟨fun _ => rfl, nofun, nofun, fun h => nomatch h.1⟩

lemma not_stuck (h : Spacious s) : ¬ s.Stuck := by
  rintro ⟨tr, rest, _, hp, hc, ht, hfull⟩
  have hover := (h.joins tr rest hp).1
  have hroom := h.room ⟨hover, by rw [hp]; rfl⟩
  -- the task itself is owed
  have howed : 0 < s.owed := by
    refine countP_pos_iff.mpr ⟨tr, ?_, ?_⟩
    · rw [awaited, hp]
      exact .head _
    · simp [taskEnded, hc, ht]
  unfold HasRoom at hfull
  omega

/-! ### The end of it -/

/-- A move of the manager or of a track task. -/
def Action.Own : Action → Prop
  | .manage | .notice _ | .finish _ => True
  | _ => False

/-- The manager and the tasks can get from one state to the other by themselves. -/
def Leads (self after : Processes π) : Prop :=
  ∃ moves, (∀ action ∈ moves, Action.Own action) ∧ state step self moves = after

lemma Leads.refl (s : Processes π) : Leads s s := ⟨[], by simp, rfl⟩

lemma Leads.head (action : Action) (hown : action.Own) (h : Leads (s.step action).1 after) :
    Leads s after := by
  obtain ⟨moves, hmoves, hst⟩ := h
  exact ⟨action :: moves, forall_mem_cons.mpr ⟨hown, hmoves⟩, hst⟩

/-- In `shutdown`, the manager, the tasks' reading and the requests of awaited tasks
are roomy moves. -/
lemma roomy_of_closing (hp : s.phase ≠ .receiving) (henters : s.enters action = false) :
    s.Roomy action := by
  refine ⟨fun ev htk => ?_, fun _ h => nomatch henters.symm.trans h⟩
  cases action with
  | manage =>
    rw [takenUp] at htk
    split at htk
    next hrecv => exact absurd hrecv hp
    next => cases htk
  | _ => cases htk

/-- The manager goes on with its shutdown. -/
def GoesOn (self : Processes π) (rest : List (Effect π)) : Prop :=
  ∃ after, Leads self after ∧ Spacious after ∧ after.phase = .handling rest ∧
    after.manager.running = false

section

variable (h : Spacious s) (hp : s.phase = .joining tr rest)
include h hp

lemma leads_of_ended (he : s.taskEnded tr) : s.GoesOn rest := by
  have hmanage : (s.step .manage).1 = { s with phase := .handling rest } := by
    simp only [step, manage, hp]
    rw [if_pos he]
  refine ⟨(s.step .manage).1, .head .manage trivial (.refl _), ?_, ?_, ?_⟩
  · exact spacious_step h (roomy_of_closing (by rw [hp]; simp) rfl)
  · rw [hmanage]
  · rw [hmanage]
    exact (h.joins tr rest hp).1

lemma leads_of_stopping {cell} (hc : s.cells.lookup tr = some cell) (ht : cell.task = .stopping) :
    s.GoesOn rest := by
  -- there is room for the request
  have hroom : s.HasRoom :=
    not_not.mp fun hfull => not_stuck h ⟨tr, rest, cell, hp, hc, ht, hfull⟩
  have hawaited : tr ∈ s.awaited := by
    rw [awaited, hp]
    exact .head _
  have hroomy : s.Roomy (.finish tr) :=
    roomy_of_closing (by rw [hp]; simp) (decide_eq_false (not_not.mpr hawaited))
  have he : (s.step (.finish tr)).1.taskEnded tr := by
    simp only [step, finish, hc]
    rw [if_pos ⟨ht, .inl hroom⟩]
    simp only [taskEnded, Cells.lookup_update, hc]
    rfl
  have hphase' := (s.step_outside (show Action.finish tr ≠ .manage by simp)).phase
  obtain ⟨after, hleads, ha⟩ :=
    leads_of_ended (spacious_step h hroomy) (hphase'.trans hp) he
  exact ⟨after, .head (.finish tr) trivial hleads, ha⟩

lemma leads_of_joining : s.GoesOn rest := by
  cases hc : s.cells.lookup tr with
  | none => exact leads_of_ended h hp (by rw [taskEnded, hc])
  | some cell =>
    cases ht : cell.task with
    | ended =>
      refine leads_of_ended h hp ?_
      rw [taskEnded, hc]
      exact decide_eq_true ht
    | stopping => exact leads_of_stopping h hp hc ht
    | running =>
      -- the track has been told, so the task reads it
      have hst := (h.joins tr rest hp).2 cell hc (by rw [ht]; decide)
      have hroomy : s.Roomy (.notice tr) := roomy_of_closing (by rw [hp]; simp) rfl
      have hc' : (s.step (.notice tr)).1.cells.lookup tr =
          some { cell with task := .stopping } := by
        simp only [step, notice, Cells.lookup_update, hc, Option.map_some]
        rw [if_pos trivial, if_pos ⟨ht, hst⟩]
      obtain ⟨after, hleads, ha⟩ := leads_of_stopping (spacious_step h hroomy) hp hc' rfl
      exact ⟨after, .head (.notice tr) trivial hleads, ha⟩

end

lemma Leads.trans {mid} (h : Leads s mid) (h' : Leads mid after) : Leads s after := by
  obtain ⟨moves, hmoves, rfl⟩ := h
  obtain ⟨moves', hmoves', rfl⟩ := h'
  exact ⟨moves ++ moves', forall_mem_append.mpr ⟨hmoves, hmoves'⟩, state_append step s moves moves'⟩

lemma leads_to_end (rest : List (Effect π)) (s : Processes π) (h : Spacious s)
    (hp : s.phase = .handling rest) (hover : s.manager.running = false) :
    ∃ after, Leads s after ∧ after.phase.isEnded := by
  induction rest generalizing s with
  | nil =>
    refine ⟨(s.step .manage).1, .head .manage trivial (.refl _), ?_⟩
    simp only [step, manage, hp]
    rw [hover]
    rfl
  | cons eff rest ih =>
    have hfarewell : eff.IsFarewell :=
      h.farewell hover eff (by rw [pending, hp]; exact .head _)
    have hfree : s.blocked eff = false := by
      cases eff with
      | output => exact hfarewell.elim
      | _ => rfl
    have hstep : (s.step .manage).1 = s.performed eff rest := by
      simp only [step, manage, hp]
      rw [hfree]
      rfl
    have hspacious : Spacious (s.performed eff rest) := spacious_performed h hp
    have hover' : (s.performed eff rest).manager.running = false := by
      rw [performed_manager]
      exact hover
    have hf : Leads s (s.performed eff rest) := by
      refine .head .manage trivial ?_
      rw [hstep]
      exact .refl _
    cases eff with
    | result _ result =>
      obtain ⟨after, hleads, hend⟩ := ih (s.performed _ rest) hspacious rfl hover'
      exact ⟨after, hf.trans hleads, hend⟩
    | stateSent tr state =>
      -- the manager awaits the task, and goes on from there
      have hjoining : (s.performed (.stateSent tr state) rest).phase = .joining tr rest := by
        simp only [performed, phaseAfter, hover]
        rfl
      obtain ⟨mid, hmid, hspacious', hphase', hover''⟩ := leads_of_joining hspacious hjoining
      obtain ⟨after, hleads, hend⟩ := ih mid hspacious' hphase' hover''
      exact ⟨after, (hf.trans hmid).trans hleads, hend⟩
    | _ => exact hfarewell.elim

lemma leads_of_closing (h : Spacious s) (hcl : s.Closing) :
    ∃ after, Leads s after ∧ after.phase.isEnded := by
  cases hp : s.phase with
  | receiving => cases (h.receives hp).symm.trans hcl.1
  | handling rest => exact leads_to_end rest s h hp hcl.1
  | joining _ rest =>
    obtain ⟨mid, hmid, hspacious, hphase', hover⟩ := leads_of_joining h hp
    obtain ⟨after, hleads, hend⟩ := leads_to_end rest mid hspacious hphase' hover
    exact ⟨after, hmid.trans hleads, hend⟩
  | ended => exact absurd hcl.2 (by simp [hp, ManagerPhase.isEnded])

end Spacious

/-- **Shutdown.** Along every run of roomy moves no state is stuck, and whenever the
manager is in `shutdown` it comes to the end of it with the tasks' help alone. -/
theorem shutdown_terminates (encryptionProvider : Option π) (actions : List Action)
    (h_roomy : Along step Roomy (new encryptionProvider) actions) (before : List Action)
    (h_before : before <+: actions) : ¬ (state step (new encryptionProvider) before).Stuck ∧
      ((state step (new encryptionProvider) before).Closing →
        ∃ after, Leads (state step (new encryptionProvider) before) after ∧
          after.phase.isEnded) := by
  obtain ⟨_, rfl⟩ := h_before
  have hspacious : Spacious (state step (new encryptionProvider) before) :=
    h_roomy.append_left.state_of_step (spacious_new encryptionProvider)
      fun _ _ hspacious h => spacious_step hspacious h
  exact ⟨not_stuck hspacious, leads_of_closing hspacious⟩

def publishes (handle : Handle) : List Action :=
  let resultTx := handle.value.toNat - 1
  [.publish ⟨String.ofList (List.replicate resultTx 'a')⟩, .manage, .manage, .manage, .consume,
    .send (.sfuPublishResponse handle (.ok { grantedInfo with pubHandle := handle })), .manage,
    .manage, .manage, .manage, .forward resultTx, .receive resultTx]

def publishesAll (count : ℕ) : List Action :=
  (List.range' 1 count).flatMap fun value =>
    match Handle.tryFromU16 value.toUInt16 with
    | .ok handle => publishes handle
    | _ => []

def farewell (track : TrackId) : List Action :=
  [.manage, .notice track, .finish track, .manage]

def shutsDown (tracks : List TrackId) : List Action :=
  [.send (.shutdown .asListed), .manage] ++ tracks.flatMap farewell

/-- Two tracks are published; when the task of one of them has been awaited, the
shutdown can still be completed. -/
theorem shutdown_terminates_two :
    ∃ after, Leads (state step (new (none : Option Unit)) (publishesAll 2 ++ shutsDown [1])) after ∧
      after.phase.isEnded := by
  have hprefix : publishesAll 2 ++ shutsDown [1] <+: publishesAll 2 ++ shutsDown [1, 0] :=
    ⟨farewell 0, by simp [shutsDown]⟩
  exact (shutdown_terminates none (publishesAll 2 ++ shutsDown [1, 0]) (by decide +kernel) _
    hprefix).2 (by decide +kernel)

def isStuck (self : Processes π) : Bool :=
  match self.phase with
  | .joining track _ =>
    match self.cells.lookup track with
    | some cell => cell.task = .stopping ∧ ¬ self.HasRoom
    | none => false
  | _ => false

lemma stuck_of_isStuck {s : Processes π} (h : s.isStuck) : s.Stuck := by
  rw [isStuck] at h
  split at h
  next tr rest hp =>
    split at h
    next cell hc => exact ⟨tr, rest, cell, hp, hc, of_decide_eq_true h⟩
    next => cases h
  next => cases h

/-- **A shutdown that is stuck.** With one track more than the channel has room for,
the last task waits for the manager and the manager for the task. -/
theorem shutdown_stuck :
    (state step (new (none : Option Unit)) (publishesAll (EVENT_BUFFER_COUNT + 1) ++
      shutsDown (List.range (EVENT_BUFFER_COUNT + 1)).reverse)).Stuck := by
  apply stuck_of_isStuck
  decide +kernel

end Processes

end LiveKit.DataTrack.Local
