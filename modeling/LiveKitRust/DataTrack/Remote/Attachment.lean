import LiveKitRust.DataTrack.Remote.System

/-!
# Subscribers stay attached

A receiver handed to a subscriber is `Attached` when packets that arrive on the current handle of
its track go to the task whose frame channel it is on, and that task is running.

This does not hold along every interleaving. A request to subscribe that the manager handles after
the task of the active descriptor has found its last receiver gone, and before the manager gets the
task's request to unsubscribe, is answered with a receiver on the frame channel of a task that is
about to end (`subscriber_lost`). `Calm` names the three situations to avoid: that one, a SID that
comes back while a request to unsubscribe from it is outstanding, and an assignment of handles that
upsets the index (`attached_of_calm`).

`Sound` relates the manager to the tasks: what runs for a published track is what its descriptor
feeds. `Requests` is about the outstanding requests to unsubscribe: each is alone for its SID, and
what it will end has stopped already.
-/

open Option AList

namespace LiveKit.DataTrack.Remote

open Manager

variable {π : Type}

def Descriptor.activeTask (self : Descriptor) : Option (TrackId × TaskId) :=
  match self.subscription with
  | .active _ task => some (self.track, task)
  | _ => none

lemma Descriptor.track_of_activeTask {s : Descriptor} {tr : TrackId} {task : TaskId}
    (h : s.activeTask = some (tr, task)) : s.track = tr := by
  unfold activeTask at h
  split at h
  · exact (Prod.mk.inj (some.inj h)).1
  · cases h

namespace Manager

def activeTask (self : Manager π) (sid : DataTrackSid) : Option (TrackId × TaskId) :=
  (self.descriptors.lookup sid).bind Descriptor.activeTask

lemma activeTask_setDescriptor (s : Manager π) (sid sid') (desc : Descriptor) :
    (s.setDescriptor sid desc).activeTask sid' =
      if sid' = sid then desc.activeTask else s.activeTask sid' := by
  unfold activeTask
  rw [lookup_setDescriptor]
  split <;> rfl

variable {s : Manager π} {sid : DataTrackSid} {desc : Descriptor}

lemma activeTask_of_lookup (h : s.descriptors.lookup sid = some desc) :
    s.activeTask sid = desc.activeTask := by
  rw [activeTask, h, bind_some]

lemma activeTask_of_lookup_none (h : s.descriptors.lookup sid = none) :
    s.activeTask sid = none := by
  rw [activeTask, h, bind_none]

lemma activeTask_setDescriptor_of_eq (h : s.activeTask sid = desc.activeTask) (sid') :
    (s.setDescriptor sid desc).activeTask sid' = s.activeTask sid' := by
  rw [activeTask_setDescriptor]
  split
  next heq => rw [heq, h]
  next => rfl

lemma Routed.route_eq (h : s.Routed) {subHandle task} (hl : s.descriptors.lookup sid = some desc)
    (hsub : desc.subscription = .active subHandle task) : s.route subHandle = some task := by
  have hh : s.activeHandle sid = some subHandle := by
    rw [activeHandle_of_lookup hl, Descriptor.activeHandle, hsub]
  have hindex : s.subHandles.lookup subHandle = some sid := (h subHandle sid).mpr hh
  simp only [route, hindex, hl, hsub, bind_eq_bind, bind_some]

end Manager

/-! ### The property and its invariants -/

/-- **Attachment.** While the manager runs, every receiver belongs to a task, and as long as the
track of the task is published, the task runs, the descriptor of the track is active with it, and
packets on its handle are routed there. -/
def Attached (self : System π) : Prop :=
  self.manager.running → ∀ receiver ∈ self.outside.receivers, ∃ track phase,
    self.outside.taskState receiver.2 = some (track, phase) ∧
    (self.outside.published.lookup track = some true → phase = .running ∧
      ∃ sid descriptor subHandle, self.manager.descriptors.lookup sid = some descriptor ∧
        descriptor.track = track ∧
        descriptor.subscription = .active subHandle receiver.2 ∧
        self.manager.route subHandle = some receiver.2)

structure Sound (manager : Manager π) (outside : Outside) : Prop where
  routed : manager.Routed
  track_lt : ∀ sid descriptor, manager.descriptors.lookup sid = some descriptor →
    descriptor.track < manager.nextTrack
  /-- The shared SID of a track is the one its descriptor is under. -/
  sid_eq : ∀ sid descriptor, manager.descriptors.lookup sid = some descriptor →
    outside.sids.lookup descriptor.track = some sid
  active_task : ∀ sid track task, manager.activeTask sid = some (track, task) →
    ∃ phase, outside.taskState task = some (track, phase)
  task_lt : ∀ task track phase, outside.taskState task = some (track, phase) →
    task < manager.nextTask ∧ track < manager.nextTrack
  /-- What runs for a published track is what its descriptor feeds. -/
  running_active : manager.running → ∀ task track, outside.taskState task = some (track, .running) →
    outside.published.lookup track = some true → ∃ sid, manager.activeTask sid = some (track, task)
  /-- Receivers of a published track are on the channel of a task that runs. -/
  receiver_running : ∀ receiver ∈ outside.receivers, ∃ track phase,
    outside.taskState receiver.2 = some (track, phase) ∧
    (outside.published.lookup track = some true → manager.running → phase = .running)

def requestedSids (queue : List InputEvent) : List DataTrackSid :=
  queue.filterMap fun
    | .unsubscribeRequest sid => some sid
    | _ => none

/-- A request to unsubscribe from the SID is in the queue, or about to be. -/
def Outstanding (requested : List DataTrackSid) (outside : Outside) (sid : DataTrackSid) : Prop :=
  sid ∈ requested ∨ ∃ task track, outside.taskState task = some (track, .stopping sid)

structure Requests (manager : Manager π) (requested : List DataTrackSid) (outside : Outside) :
    Prop where
  nodup : requested.Nodup
  /-- A request about to be sent is the only one for its SID. -/
  stopping : ∀ task track sid, outside.taskState task = some (track, .stopping sid) →
    sid ∉ requested ∧
      ∀ task' track', outside.taskState task' = some (track', .stopping sid) → task' = task
  /-- What a request will end is active, and its task does not run. -/
  outstanding : ∀ sid descriptor, Outstanding requested outside sid →
    manager.descriptors.lookup sid = some descriptor →
      ∃ track task, descriptor.activeTask = some (track, task) ∧
        outside.taskState task ≠ some (track, .running)

lemma Sound.attached {s : System π} (h : Sound s.manager s.outside) : Attached s := by
  intro hrun receiver hm
  obtain ⟨tr, phase, ht, hlive⟩ := h.receiver_running receiver hm
  refine ⟨tr, phase, ht, fun hpub => ?_⟩
  -- while its track is published, the task of a receiver runs and is fed by a descriptor
  obtain rfl := hlive hpub hrun
  obtain ⟨sid, hac⟩ := h.running_active hrun receiver.2 tr ht hpub
  obtain ⟨desc, hl, hac⟩ := bind_eq_some_iff.mp hac
  unfold Descriptor.activeTask at hac
  split at hac
  next subHandle _ hsub =>
    cases hac
    exact ⟨rfl, sid, desc, subHandle, hl, rfl, hsub, h.routed.route_eq hl hsub⟩
  next => cases hac

variable {m : Manager π} {outside : Outside} {sid : DataTrackSid} {desc : Descriptor}
  {tr : TrackId} {task : TaskId}

variable {m' : Manager π} {outside' : Outside} {d' : Descriptor} {effs : List (Effect π)}

/-! ### Transitions of the manager -/

/-- A transition that adds no receiver and starts no task, and after which the
descriptor that feeds a running task of a published track is still there. -/
structure Quiet (manager manager' : Manager π) (outside outside' : Outside) : Prop where
  routed : manager'.Routed
  nextTrack : manager.nextTrack ≤ manager'.nextTrack
  nextTask : manager'.nextTask = manager.nextTask
  running : manager'.running → manager.running
  track_lt : ∀ sid descriptor, manager'.descriptors.lookup sid = some descriptor →
    descriptor.track < manager'.nextTrack
  sid_eq : ∀ sid descriptor, manager'.descriptors.lookup sid = some descriptor →
    outside'.sids.lookup descriptor.track = some sid
  active : ∀ sid track task, manager'.activeTask sid = some (track, task) →
    ∃ sid', manager.activeTask sid' = some (track, task)
  tasks : ∀ task, outside'.taskState task = outside.taskState task
  receivers : outside'.receivers = outside.receivers
  published : ∀ track < manager.nextTrack, outside'.published.lookup track = some true →
    outside.published.lookup track = some true
  kept : manager'.running → ∀ sid track task, manager.activeTask sid = some (track, task) →
    outside.taskState task = some (track, .running) →
    outside'.published.lookup track = some true →
      ∃ sid', manager'.activeTask sid' = some (track, task)

section

variable (h : Sound m outside)
include h

lemma Sound.sid_unique {sid'} (hl : m.descriptors.lookup sid = some desc)
    (hl' : m.descriptors.lookup sid' = some d') (htr : d'.track = desc.track) : sid' = sid := by
  have hsid := h.sid_eq sid desc hl
  have hsid' := h.sid_eq sid' d' hl'
  rw [htr, hsid] at hsid'
  exact (some.inj hsid').symm

lemma Sound.quiet (hq : Quiet m m' outside outside') : Sound m' outside' := by
  refine ⟨hq.routed, hq.track_lt, hq.sid_eq, ?_, ?_, ?_, ?_⟩
  · intro sid tr task hac
    obtain ⟨sid', hac⟩ := hq.active sid tr task hac
    rw [hq.tasks]
    exact h.active_task sid' tr task hac
  · intro task tr phase ht
    rw [hq.tasks] at ht
    obtain ⟨hlt, htr⟩ := h.task_lt task tr phase ht
    exact ⟨hq.nextTask ▸ hlt, Nat.lt_of_lt_of_le htr hq.nextTrack⟩
  · -- a task that runs now ran before, and what fed it is still there
    intro hrun task tr ht hpub
    rw [hq.tasks] at ht
    have hbef := hq.published tr (h.task_lt _ _ _ ht).2 hpub
    obtain ⟨sid, hac⟩ := h.running_active (hq.running hrun) task tr ht hbef
    exact hq.kept hrun sid tr task hac ht hpub
  · intro receiver hm
    rw [hq.receivers] at hm
    obtain ⟨tr, phase, ht, hlive⟩ := h.receiver_running receiver hm
    refine ⟨tr, phase, (hq.tasks _).trans ht, fun hpub hrun => ?_⟩
    exact hlive (hq.published tr (h.task_lt _ _ _ ht).2 hpub) (hq.running hrun)

lemma Sound.addReceiver (hp : outside.taskState task = some (tr, .running)) (tx) :
    Sound m { outside with receivers := (tx, task) :: outside.receivers } := by
  exact ⟨h.routed, h.track_lt, h.sid_eq, h.active_task, h.task_lt, h.running_active,
    List.forall_mem_cons.mpr ⟨⟨tr, .running, hp, fun _ _ => rfl⟩, h.receiver_running⟩⟩

lemma Sound.addReceivers (hp : outside.taskState task = some (tr, .running)) (txs : List ResultTx) :
    Sound m ((txs.map fun tx => (.result tx (.ok task) : Effect π)).foldl
      Outside.perform outside) := by
  induction txs generalizing outside with
  | nil => exact h
  | cons tx _ ih => exact ih (h.addReceiver hp tx) hp

lemma Sound.of_setDescriptor {sid' d} (hl : m.descriptors.lookup sid = some desc)
    (heq : m'.descriptors = (m.setDescriptor sid d').descriptors) (htr : d'.track = desc.track)
    (hd : m'.descriptors.lookup sid' = some d) :
    d.track < m.nextTrack ∧ outside.sids.lookup d.track = some sid' := by
  rcases of_lookup_insert (heq ▸ hd) with ⟨rfl, rfl⟩ | ⟨-, hd⟩
  · rw [htr]
    exact ⟨h.track_lt _ desc hl, h.sid_eq _ desc hl⟩
  · exact ⟨h.track_lt sid' d hd, h.sid_eq sid' d hd⟩

variable (hro : m'.Routed)
include hro

lemma Sound.activate {txs : List ResultTx}
    {bufferSize : ℕ} {assignedHandle : Handle} {opts : PipelineOptions π}
    (hl : m.descriptors.lookup sid = some desc)
    (hsub : desc.subscription = .pending txs bufferSize)
    (heq : m'.descriptors = (m.setDescriptor sid
      { desc with subscription := .active assignedHandle m.nextTask }).descriptors)
    (hcounts : m'.nextTrack = m.nextTrack ∧ m'.nextTask = m.nextTask + 1 ∧ m'.running = m.running) :
    Sound m' ((Effect.spawned m.nextTask desc.track opts ::
      txs.map fun tx => .result tx (.ok m.nextTask)).foldl Outside.perform outside) := by
  obtain ⟨hnextTrack, hnextTask, hrun⟩ := hcounts
  let spawned : Outside := { outside with
    tasks := outside.tasks.insert m.nextTask ⟨desc.track, .running, []⟩ }
  have hp : m.activeTask sid = none := by
    rw [activeTask_of_lookup hl, Descriptor.activeTask, hsub]
  have hac : ∀ sid', m'.activeTask sid' =
      if sid' = sid then some (desc.track, m.nextTask) else m.activeTask sid' := by
    intro sid'
    rw [activeTask, heq]
    exact activeTask_setDescriptor ..
  -- the task table has the new task, running, and the others
  have hst : ∀ task, spawned.taskState task = if task = m.nextTask then some (desc.track, .running)
      else outside.taskState task := by
    intro task
    exact Outside.taskState_spawned outside m.nextTask task desc.track opts []
  -- tasks known before keep their state: the new one has a new number
  have h_old : ∀ {task tr phase}, outside.taskState task = some (tr, phase) →
      spawned.taskState task = some (tr, phase) := by
    intro task tr phase ht
    rw [hst, if_neg (Nat.ne_of_lt (h.task_lt task tr phase ht).1), ht]
  have hs : Sound m' spawned := by
    refine ⟨hro, fun _ _ hd => hnextTrack ▸ (h.of_setDescriptor hl heq rfl hd).1,
      fun _ _ hd => (h.of_setDescriptor hl heq rfl hd).2, ?_, ?_, ?_, ?_⟩
    · intro sid' tr task hd
      rw [hac] at hd
      split at hd
      · cases hd
        exact ⟨.running, (hst _).trans (if_pos rfl)⟩
      · obtain ⟨phase, ht⟩ := h.active_task sid' tr task hd
        exact ⟨phase, h_old ht⟩
    · intro task tr phase ht
      rw [hst] at ht
      rw [hnextTask, hnextTrack]
      split at ht
      next heq =>
        cases ht
        exact ⟨heq ▸ Nat.lt_succ_self _, h.track_lt sid desc hl⟩
      next =>
        obtain ⟨hlt, htr⟩ := h.task_lt task tr phase ht
        exact ⟨Nat.lt_succ_of_lt hlt, htr⟩
    · intro hruns task tr ht hpub
      rw [hst] at ht
      split at ht
      next heq =>
        cases ht
        exact ⟨sid, by rw [hac, if_pos rfl, heq]⟩
      next =>
        obtain ⟨sid', hd⟩ := h.running_active (hrun ▸ hruns) task tr ht hpub
        refine ⟨sid', ?_⟩
        rw [hac, if_neg, hd]
        rintro rfl
        cases hp.symm.trans hd
    · intro receiver hm
      obtain ⟨tr, phase, ht, hlive⟩ := h.receiver_running receiver hm
      exact ⟨tr, phase, h_old ht, hrun ▸ hlive⟩
  -- those who waited for the subscription listen to the new task
  exact hs.addReceivers ((hst _).trans (if_pos rfl)) txs

variable (hcounts : m'.nextTrack = m.nextTrack ∧ m'.nextTask = m.nextTask ∧ m'.running = m.running)
include hcounts

lemma Sound.reassign {oldSid newSid} (hl : m.descriptors.lookup oldSid = some desc)
    (hnew : m.descriptors.lookup newSid = none)
    (heq : m'.descriptors = (m.descriptors.erase oldSid).insert newSid
      { desc with info := { desc.info with sid := newSid } }) :
    Sound m' ((Effect.sidWritten desc.track newSid ::
      resubscribe newSid desc.subscription : List (Effect π)).foldl Outside.perform outside) := by
  obtain ⟨hnextTrack, hnextTask, hrun⟩ := hcounts
  -- the task of the moved descriptor is where the descriptor is
  have hmoved : m'.activeTask newSid = m.activeTask oldSid := by
    rw [activeTask, heq, lookup_insert, activeTask_of_lookup hl]
    rfl
  have hot : ∀ sid, sid ≠ oldSid → sid ≠ newSid → m'.activeTask sid = m.activeTask sid := by
    intro _ h_old hnew'
    rw [activeTask, heq, lookup_insert_ne hnew', lookup_erase_ne h_old]
    rfl
  rw [List.foldl_cons, Outside.perform_resubscribe]
  refine h.quiet ⟨hro, hnextTrack.ge, hnextTask, by rw [hrun]; exact id, ?_, ?_, ?_,
    fun _ => rfl, rfl, fun _ _ => id, ?_⟩
  · intro sid d hd
    rw [hnextTrack]
    rcases of_lookup_insert (heq ▸ hd) with ⟨-, rfl⟩ | ⟨-, hd⟩
    · exact h.track_lt oldSid desc hl
    · exact h.track_lt sid d (of_lookup_erase hd).2
  · intro sid d hd
    rcases of_lookup_insert (heq ▸ hd) with ⟨rfl, rfl⟩ | ⟨-, hd⟩
    · exact lookup_insert _
    · -- another descriptor is of another track
      obtain ⟨hsid, hd⟩ := of_lookup_erase hd
      refine (lookup_insert_ne fun htr => hsid ?_).trans (h.sid_eq sid d hd)
      exact h.sid_unique hl hd htr
  · intro sid _ _ hd
    by_cases hsid : sid = newSid
    · exact ⟨oldSid, by rw [← hmoved, ← hsid, hd]⟩
    by_cases hsid' : sid = oldSid
    · subst hsid'
      have hn : m'.activeTask sid = none := by
        rw [activeTask, heq, lookup_insert_ne hsid, lookup_erase, bind_none]
      cases hn.symm.trans hd
    · exact ⟨sid, (hot sid hsid' hsid).symm.trans hd⟩
  · intro _ sid _ _ hd _ _
    by_cases hsid : sid = oldSid
    · exact ⟨newSid, by rw [hmoved, ← hsid, hd]⟩
    · refine ⟨sid, (hot sid hsid ?_).trans hd⟩
      rintro rfl
      rw [activeTask_of_lookup_none hnew] at hd
      cases hd

variable (hl : m.descriptors.lookup sid = some desc)
include hl

lemma Sound.setDescriptor (heq : m'.descriptors = (m.setDescriptor sid d').descriptors)
    (htr : d'.track = desc.track) (hac : d'.activeTask = desc.activeTask ∨ d'.activeTask = none ∧
      ∀ tr task, desc.activeTask = some (tr, task) → outside.taskState task ≠ some (tr, .running)) :
    Sound m' outside := by
  obtain ⟨hnextTrack, hnextTask, hrun⟩ := hcounts
  -- which task is fed changes under the one SID only
  have htasks : ∀ sid', m'.activeTask sid' =
      if sid' = sid then d'.activeTask else m.activeTask sid' := by
    intro _
    rw [← activeTask_setDescriptor, activeTask, heq]
    rfl
  have h_old := activeTask_of_lookup hl
  refine h.quiet ⟨hro, hnextTrack.ge, hnextTask, by rw [hrun]; exact id,
    fun _ _ hd => hnextTrack ▸ (h.of_setDescriptor hl heq htr hd).1,
    fun _ _ hd => (h.of_setDescriptor hl heq htr hd).2, ?_, fun _ => rfl, rfl, fun _ _ => id, ?_⟩
  · intro sid' _ _ hd
    rw [htasks] at hd
    split at hd
    · rcases hac with hsm | ⟨hn, -⟩
      · exact ⟨sid, by rw [h_old, ← hsm, hd]⟩
      · cases hn.symm.trans hd
    · exact ⟨sid', hd⟩
  · -- a running task is not the one that was dropped
    intro _ sid' tr task hd ht _
    refine ⟨sid', ?_⟩
    rw [htasks]
    split
    next hsid =>
      rw [hsid, h_old] at hd
      rcases hac with hsm | ⟨-, hstopped⟩
      · rw [hsm, hd]
      · exact absurd ht (hstopped tr task hd)
    next => exact hd

lemma Sound.unpublish (heq : m'.descriptors = m.descriptors.erase sid) :
    Sound m' ([.published desc.track false, .output (.trackUnpublished sid)].foldl
      (Outside.perform (π := π)) outside) := by
  obtain ⟨hnextTrack, hnextTask, hrun⟩ := hcounts
  -- only the descriptor under the SID goes
  have hot : ∀ sid', sid' ≠ sid → m'.activeTask sid' = m.activeTask sid' := by
    intro _ hne
    rw [activeTask, heq, lookup_erase_ne hne]
    rfl
  have hgone : m'.activeTask sid = none := by rw [activeTask, heq, lookup_erase, bind_none]
  refine h.quiet ⟨hro, hnextTrack.ge, hnextTask, by rw [hrun]; exact id,
    fun sid' d hd => hnextTrack ▸ h.track_lt sid' d (of_lookup_erase (heq ▸ hd)).2,
    fun sid' d hd => h.sid_eq sid' d (of_lookup_erase (heq ▸ hd)).2, ?_, fun _ => rfl, rfl, ?_, ?_⟩
  · intro sid' _ _ hd
    refine ⟨sid', (hot sid' ?_).symm.trans hd⟩
    rintro rfl
    cases hgone.symm.trans hd
  · intro tr _ htr
    change (outside.published.insert desc.track false).lookup tr = some true at htr
    rcases of_lookup_insert htr with ⟨-, ⟨⟩⟩ | ⟨-, htr⟩
    exact htr
  · -- the descriptor that goes is of the track that is no longer published
    intro _ sid' tr _ hd _ htr
    refine ⟨sid', (hot sid' ?_).trans hd⟩
    rintro rfl
    rw [activeTask_of_lookup hl] at hd
    change (outside.published.insert desc.track false).lookup tr = some true at htr
    rw [Descriptor.track_of_activeTask hd, lookup_insert] at htr
    cases htr

end

/-- **Moves** keep the invariant. -/
theorem Sound.move (h : Sound m outside) (hmv : Move m effs m') :
    Sound m' (effs.foldl Outside.perform outside) := by
  -- moves start no task; the index is kept by what is known of the routes
  have hro := h.routed.move hmv
  have htasks := Outside.taskState_foldl_perform (fun _ => hmv.not_spawned) outside
  cases hmv with
  | resend => exact h
  | configure hl =>
    exact h.setDescriptor hro ⟨rfl, rfl, rfl⟩ hl rfl rfl (.inl rfl)
  | deliver =>
    -- a packet only changes what the task has received
    refine h.quiet ⟨hro, Nat.le_refl _, rfl, id, h.track_lt, fun sid d hd => ?_,
      fun sid _ _ hd => ⟨sid, hd⟩, htasks, Outside.updateTask_receivers ..,
      fun tr _ => ?_, fun _ sid _ _ hd _ _ => ⟨sid, hd⟩⟩
    · change (outside.updateTask _ _).sids.lookup d.track = some sid
      rw [Outside.updateTask_sids]
      exact h.sid_eq sid d hd
    · change (outside.updateTask _ _).published.lookup tr = some true → _
      rw [Outside.updateTask_published]
      exact id
  | publish hl =>
    rename_i ident info maxPartialFrames
    have hac := @activeTask_setDescriptor_of_eq π m info.sid
      ⟨m.nextTrack, info, ident, .none, maxPartialFrames⟩
      (activeTask_of_lookup_none hl)
    refine h.quiet ⟨hro, Nat.le_succ _, rfl, id, ?_, ?_, ?_, htasks, rfl, ?_, ?_⟩
    · intro sid d hd
      rcases of_lookup_insert hd with ⟨-, rfl⟩ | ⟨-, hd⟩
      · exact Nat.lt_succ_self _
      · exact Nat.lt_succ_of_lt (h.track_lt sid d hd)
    · intro sid d hd
      change (outside.sids.insert m.nextTrack info.sid).lookup d.track = some sid
      rcases of_lookup_insert hd with ⟨rfl, rfl⟩ | ⟨-, hd⟩
      · exact lookup_insert _
      · rw [lookup_insert_ne (Nat.ne_of_lt (h.track_lt sid d hd))]
        exact h.sid_eq sid d hd
    · intro sid _ _ hd
      exact ⟨sid, (hac sid).symm.trans hd⟩
    · -- the track that is published now is a new one
      intro tr hlt htr
      change (outside.published.insert m.nextTrack true).lookup tr = some true at htr
      rwa [lookup_insert_ne (Nat.ne_of_lt hlt)] at htr
    · intro _ sid _ _ hd _ _
      exact ⟨sid, (hac sid).trans hd⟩
  | reassign hl hnew => exact h.reassign hro ⟨rfl, rfl, rfl⟩ hl hnew rfl
  | unpublish hl => exact h.unpublish hro ⟨rfl, rfl, rfl⟩ hl rfl
  | shutdown =>
    rename_i order
    -- nothing is published any more, and the manager has stopped
    obtain ⟨hreceivers, hpub⟩ :=
      @Outside.perform_closing π ((order.entries m.descriptors).flatMap fun e =>
        shutdownEffects e.2) (fun eff hm => by
          obtain ⟨e, -, hm⟩ := List.mem_flatMap.mp hm
          exact closing_of_mem_shutdownEffects hm) outside
    refine h.quiet ⟨hro, Nat.le_refl _, rfl, nofun,
      by simp, by simp, by simp [activeTask], htasks, hreceivers,
      fun tr _ => hpub tr, nofun⟩

/-- **Assignments** keep the invariant, if they keep the index. -/
theorem Sound.assign (h : Sound m outside) (hassign : Assignment m effs m') (hro : m'.Routed) :
    Sound m' (effs.foldl Outside.perform outside) := by
  cases hassign with
  | rehandle hl hsub =>
    refine h.setDescriptor hro ⟨rfl, rfl, rfl⟩ hl rfl rfl (.inl ?_)
    simp [Descriptor.activeTask, hsub]
  | activate hl hsub => exact h.activate hro hl hsub rfl ⟨rfl, rfl, rfl⟩

end LiveKit.DataTrack.Remote
