import LiveKitRust.DataTrack.Remote.Attachment

/-!
# Runs that lose no subscriber

What the invariants of `Attachment` need of a run, and the run that breaks the property without it.
`Calm` restricts only the manager's steps for requests to subscribe, publication updates and
assignments of handles. Calm steps keep the invariants (`fit_step`).
-/

open Machine List Option

namespace LiveKit.DataTrack.Remote

open Descriptor

variable {π : Type} {m m' : Manager π} {outside outside' : Outside}
  {requested requested' : List DataTrackSid} {effs : List (Effect π)}

/-! ### The condition -/

/-- The SID has a descriptor, and no other SID is listed for the slot of that descriptor. -/
def Manager.Settled (self : Manager π) (tracks : List (String × DataTrackInfo))
    (sid : DataTrackSid) : Prop :=
  ∃ descriptor, self.descriptors.lookup sid = some descriptor ∧
    ∀ listed ∈ tracks, listed.1 = descriptor.publisherIdentity →
      listed.2.pubHandle = descriptor.info.pubHandle → listed.2.sid = sid

/-- The manager may handle the event now.

* A request for an active track finds the track's task running.
* A SID that an update lists and an outstanding request to unsubscribe names is
  settled.
* Handles are assigned cleanly. -/
def CalmEvent (self : System π) (event : InputEvent) : Prop :=
  match event with
  | .subscribeRequest sid _ _ => ∀ track task, self.manager.activeTask sid = some (track, task) →
      self.outside.taskState task = some (track, .running)
  | .sfuPublicationUpdates updates .. => ∀ listed ∈ Manager.tracksOf updates,
      Outstanding (requestedSids self.queue) self.outside listed.2.sid →
      self.manager.Settled (Manager.tracksOf updates) listed.2.sid
  | .sfuSubscriberHandles mapping => self.manager.AssignsCleanly (Manager.assignments mapping)
  | _ => True

def Calm (self : System π) (action : Action) : Prop :=
  match action with
  | .manage => ∀ event queue, self.queue = event :: queue → self.manager.running →
      CalmEvent self event
  | _ => True

/-! ### What an update puts into use -/

namespace Manager

variable {self : Manager π} {order : HashOrder DataTrackSid}

variable {sid : DataTrackSid} {eff : Effect π} {listed : String × DataTrackInfo}

lemma not_keys_of_mem_resubscribe {sid' sub} (h : eff ∈ resubscribe sid' sub) : ¬ eff.keys sid := by
  cases sub with
  | none => cases h
  | pending | active =>
    obtain rfl := mem_singleton.mp h
    exact not_false

lemma sid_of_keys_detectPublished (hm : eff ∈ (detectPublished order self listed).2)
    (hkeys : eff.keys sid) : listed.2.sid = sid := by
  unfold detectPublished at hm
  split at hm
  next => cases hm
  next _ =>
    split at hm
    next _ hres =>
      -- a descriptor goes on under the SID listed
      obtain ⟨_, _, -, -, -, -, -, rfl⟩ := handleSidReassigned_eq_some hres
      rcases mem_cons.mp hm with rfl | hm
      · exact hkeys
      · exact absurd hkeys (not_keys_of_mem_resubscribe hm)
    next =>
      -- or a new one is filed under it
      unfold handleTrackPublished at hm
      split at hm
      · cases hm
      · obtain rfl := mem_singleton.mp hm
        exact hkeys

variable {tracks : List (String × DataTrackInfo)}

lemma Settled.detectPublished (h : self.Settled tracks sid) (hlisted : listed ∈ tracks) :
    (detectPublished order self listed).1.Settled tracks sid := by
  obtain ⟨desc, hl, hslot⟩ := h
  refine ⟨desc, ?_, hslot⟩
  unfold Manager.detectPublished
  split
  next => exact hl
  next hnew =>
    have hne : sid ≠ listed.2.sid := by
      rintro rfl
      exact hnew (by rw [hl]; rfl)
    split
    next _ hres =>
      obtain ⟨oldSid, _, hold, hpub, hh, -, -, rfl⟩ :=
        handleSidReassigned_eq_some hres
      -- the descriptor that is moved is in the slot of the listed track
      have hot : sid ≠ oldSid := by
        rintro rfl
        obtain rfl := mem_unique hl hold
        exact hne (hslot listed hlisted hpub.symm hh.symm).symm
      rw [AList.lookup_insert_ite, if_neg hne, AList.lookup_erase_ite, if_neg hot]
      exact hl
    next =>
      unfold handleTrackPublished
      split
      · exact hl
      · rw [show AList.lookup sid _ = _ from self.lookup_setDescriptor .., if_neg hne]
        exact hl

lemma Settled.not_keys (h : self.Settled tracks sid)
    (hm : eff ∈ (Manager.detectPublished order self listed).2) : ¬ eff.keys sid := by
  intro hkeys
  obtain rfl := sid_of_keys_detectPublished hm hkeys
  obtain ⟨_, hl, -⟩ := h
  unfold Manager.detectPublished at hm
  rw [hl, isSome_some, if_pos rfl] at hm
  cases hm

lemma not_keys_of_mem_detectUnpublished {pub} (hm : eff ∈ (detectUnpublished order self pub).2) :
    ¬ eff.keys sid := by
  obtain ⟨_, _, _, -, hm⟩ := mem_outputs.mp hm
  unfold handleTrackUnpublished at hm
  split at hm
  · cases hm
  · rcases mem_cons.mp hm with rfl | hm
    · exact not_false
    · obtain rfl := mem_singleton.mp hm
      exact not_false

/-- **Updates.** A SID that an update puts into use is listed and not settled. -/
theorem of_keys_onSfuPublicationUpdates {upds : Map String (List DataTrackInfo)}
    {pubs : HashOrder String} (hm : eff ∈ (self.onSfuPublicationUpdates upds pubs order).2)
    (hkeys : eff.keys sid) :
    (∃ listed ∈ tracksOf upds, listed.2.sid = sid) ∧ ¬ self.Settled (tracksOf upds) sid := by
  rcases mem_append.mp hm with hm | hm
  · obtain ⟨pre, listed, _, htrs, hm⟩ := mem_outputs.mp hm
    have hlisted : listed ∈ tracksOf upds := by
      rw [htrs]
      exact mem_append_right pre (.head _)
    refine ⟨⟨listed, hlisted, sid_of_keys_detectPublished hm hkeys⟩, fun hset => ?_⟩
    -- no track listed before this one has taken the SID away
    have hbef : (state (detectPublished order) self pre).Settled (tracksOf upds) sid := by
      refine state_invariant (P := fun s : Manager π => s.Settled (tracksOf upds) sid)
        hset pre fun s first hf hs => hs.detectPublished ?_
      rw [htrs]
      exact mem_append_left _ hf
    exact hbef.not_keys hm hkeys
  · obtain ⟨_, _, _, -, hm⟩ := mem_outputs.mp hm
    -- the second pass only withdraws
    exact absurd hkeys (not_keys_of_mem_detectUnpublished hm)

end Manager

/-! ### Requests along the manager's transitions -/

variable {sid : DataTrackSid} {ev : InputEvent} {s : System π}

lemma Outstanding.mono (h : Outstanding requested' outside' sid) (hsub : requested' ⊆ requested)
    (hstopping : ∀ task tr, outside'.taskState task = some (tr, .stopping sid) →
      outside.taskState task = some (tr, .stopping sid)) : Outstanding requested outside sid := by
  rcases h with hin | ⟨task, tr, ht⟩
  · exact .inl (hsub hin)
  · exact .inr ⟨task, tr, hstopping task tr ht⟩

variable {desc : Descriptor} {task : TaskId} {tr : TrackId} {phase : TaskPhase}

section

variable (h : Requests m requested outside)
include h

variable {sid : DataTrackSid}

lemma Requests.not_outstanding (hl : m.descriptors.lookup sid = some desc)
    (hac : desc.activeTask = none) : ¬ Outstanding requested outside sid := by
  intro hout
  obtain ⟨_, _, hs, -⟩ := h.outstanding sid desc hout hl
  cases hac.symm.trans hs

lemma Requests.mono (hsub : requested'.Sublist requested)
    (hstopping : ∀ task tr sid, outside'.taskState task = some (tr, .stopping sid) →
      outside.taskState task = some (tr, .stopping sid))
    (hrunning : ∀ sid tr task, m.activeTask sid = some (tr, task) →
      outside'.taskState task = some (tr, .running) → outside.taskState task = some (tr, .running))
    (hl : ∀ sid d', Outstanding requested' outside' sid → m'.descriptors.lookup sid = some d' →
        ∃ desc, m.descriptors.lookup sid = some desc ∧ d'.activeTask = desc.activeTask) :
    Requests m' requested' outside' := by
  refine ⟨h.nodup.sublist hsub, ?_, ?_⟩
  · intro task tr sid ht
    obtain ⟨hm, halone⟩ := h.stopping task tr sid (hstopping task tr sid ht)
    exact ⟨fun hin => hm (hsub.subset hin), fun task' track' ht' =>
      halone task' track' (hstopping task' track' sid ht')⟩
  · -- an outstanding request was outstanding before, for a descriptor with the same task
    intro sid d' hout hl'
    obtain ⟨desc, hbef, hsm⟩ := hl sid d' hout hl'
    have hout_before : Outstanding requested outside sid :=
      hout.mono hsub.subset fun task tr => hstopping task tr sid
    obtain ⟨tr, task, hac, hnot⟩ := h.outstanding sid desc hout_before hbef
    refine ⟨tr, task, hsm.trans hac, fun hrun => hnot ?_⟩
    exact hrunning sid tr task ((Manager.activeTask_of_lookup hbef).trans hac) hrun

lemma Requests.setDescriptor (hsub : requested'.Sublist requested) {d'}
    (hl : m.descriptors.lookup sid = some desc)
    (heq : m'.descriptors = (m.setDescriptor sid d').descriptors)
    (hac : d'.activeTask = desc.activeTask ∨ ¬ Outstanding requested' outside sid) :
    Requests m' requested' outside := by
  refine h.mono hsub (fun _ _ _ => id) (fun _ _ _ _ => id) fun sid' d hout hd => ?_
  rcases AList.of_lookup_insert (heq ▸ hd) with ⟨rfl, rfl⟩ | ⟨-, hd⟩
  · -- either the task is the same, or nobody asks to end this subscription
    rcases hac with hsm | hnot
    · exact ⟨desc, hl, hsm⟩
    · exact absurd hout hnot
  · exact ⟨d, hd, rfl⟩

/-- **Moves** keep the invariant if they put no SID into use that is named by an
outstanding request. -/
theorem Requests.move (hmv : Move m effs m')
    (hfresh : ∀ eff ∈ effs, ∀ sid, eff.keys sid → ¬ Outstanding requested outside sid) :
    Requests m' requested (effs.foldl Outside.perform outside) := by
  have htasks := Outside.taskState_foldl_perform (fun _ => hmv.not_spawned) outside
  have hsm : ∀ sid, Outstanding requested (effs.foldl Outside.perform outside) sid →
      Outstanding requested outside sid := by
    intro _ hout
    simpa only [Outstanding, htasks] using hout
  refine h.mono (List.Sublist.refl _) (by simp only [htasks]; exact fun _ _ _ => id)
    (by simp only [htasks]; exact fun _ _ _ _ => id) fun sid d' hout hl => ?_
  -- a descriptor in use now was in use before, or a move has put its SID into use
  rcases hmv.lookup_cases hl with ⟨eff, hm, hkeys⟩ | ⟨desc, hbef, heq⟩
  · exact absurd (hsm sid hout) (hfresh eff hm sid hkeys)
  · refine ⟨desc, hbef, ?_⟩
    rw [activeTask, activeTask, heq.1, heq.2]

/-- **Assignments** keep the invariant: what is pending is not waiting to be
ended, and the task that starts is a new one. -/
theorem Requests.assign (hs : Sound m outside) (hassign : Assignment m effs m') :
    Requests m' requested (effs.foldl Outside.perform outside) := by
  cases hassign with
  | rehandle hl hsub =>
    refine h.setDescriptor (List.Sublist.refl _) hl rfl (Or.inl ?_)
    simp [activeTask, hsub]
  | activate hl hsub =>
    rename_i desc txs bufferSize assignedHandle
    have hst := fun task => outside.taskState_spawned m.nextTask task desc.track
      ⟨desc.info, desc.publisherIdentity,
        if desc.info.usesE2ee then m.decryptionProvider else none⟩ txs
    generalize foldl Outside.perform outside _ = after at hst ⊢
    -- the new task runs, so a task that stops is an old one
    have hstopping : ∀ {task tr sid'}, after.taskState task = some (tr, .stopping sid') →
        outside.taskState task = some (tr, .stopping sid') := by
      intro _ _ _ ht
      rw [hst] at ht
      split at ht
      · cases ht
      · exact ht
    refine h.mono (List.Sublist.refl _) (fun _ _ _ => hstopping) ?_ ?_
    · intro sid' tr task hac ht
      obtain ⟨phase, hkn⟩ := hs.active_task sid' tr task hac
      rwa [hst, if_neg (Nat.ne_of_lt (hs.task_lt task tr phase hkn).1)] at ht
    · intro sid' d hout hd
      have hbef : Outstanding requested outside sid' :=
        hout.mono (List.Subset.refl _) fun _ _ => hstopping
      rcases AList.of_lookup_insert hd with ⟨rfl, -⟩ | ⟨-, hd⟩
      · -- the subscription was pending: there was no task to end
        have hp : desc.activeTask = none := by rw [activeTask, hsub]
        exact absurd hbef (h.not_outstanding hl hp)
      · exact ⟨d, hd, rfl⟩

end

/-! ### Events -/

structure Consistent (manager : Manager π) (requested : List DataTrackSid) (outside : Outside) :
    Prop where
  sound : Sound manager outside
  requests : Requests manager requested outside

section

variable (h : Consistent m requested outside)
include h

lemma Consistent.sublist (hsub : requested'.Sublist requested) : Consistent m requested' outside :=
  ⟨h.sound, h.requests.mono hsub (fun _ _ _ => id) (fun _ _ _ _ => id) fun _ d _ hd => ⟨d, hd, rfl⟩⟩

lemma Consistent.moves (hmoves : Star Move m effs m')
    (hfresh : ∀ eff ∈ effs, ∀ sid, eff.keys sid → ¬ Outstanding requested outside sid) :
    Consistent m' requested (effs.foldl Outside.perform outside) := by
  induction hmoves generalizing outside with
  | refl => exact h
  | head move rest ih =>
    rename_i manager₂ manager₃ first later
    have hf : ∀ eff ∈ first, ∀ sid, eff.keys sid → ¬ Outstanding requested outside sid :=
      fun eff hm => hfresh eff (mem_append_left later hm)
    rw [foldl_append]
    refine ih ⟨h.sound.move move, h.requests.move move hf⟩ fun eff hm sid hkeys => ?_
    -- moves leave the tasks, so what is outstanding stays the same along the chain
    have htasks := Outside.taskState_foldl_perform (fun _ => move.not_spawned) outside
    have hnot := hfresh eff (mem_append_right first hm) sid hkeys
    simpa only [Outstanding, htasks] using hnot

lemma Consistent.registerAll {asg} (hnodup : (asg.map Prod.fst).Nodup)
    (hclean : m.AssignsCleanly asg) :
    Consistent (run Manager.registerSubscriberHandle m asg).1 requested
      ((run Manager.registerSubscriberHandle m asg).2.foldl Outside.perform outside) := by
  induction asg generalizing m outside with
  | nil => exact h
  | cons a asg ih =>
    rw [map_cons, nodup_cons] at hnodup
    -- nobody else holds the first handle assigned
    have hro : (m.registerSubscriberHandle a).1.Routed := by
      refine h.sound.routed.register fun htr sid hne hheld => ?_
      have hm := hclean.2 [] a.1 a.2 asg rfl htr sid hne hheld
      cases hm
    have hf : Consistent (m.registerSubscriberHandle a).1 requested
        ((m.registerSubscriberHandle a).2.foldl Outside.perform outside) := by
      rcases m.registerSubscriberHandle_cases a with hsm | hassign
      · rw [hsm]
        exact h
      · exact ⟨h.sound.assign hassign hro, h.requests.assign h.sound hassign⟩
    have hr := ih hf hnodup.2 (hclean.tail hnodup.1)
    rwa [← foldl_append] at hr

lemma Consistent.subscribe {sid} (hcalm : ∀ tr task, m.activeTask sid = some (tr, task) →
      outside.taskState task = some (tr, .running)) (opts tx) :
    Consistent (m.onSubscribeRequest sid opts tx).1 requested
      ((m.onSubscribeRequest sid opts tx).2.foldl Outside.perform outside) := by
  unfold Manager.onSubscribeRequest
  split
  next => exact h
  next desc hl =>
    -- the descriptor is not active before and pending after, and nothing else changes
    have hp : desc.activeTask = none → ∀ txs bufferSize, Consistent
        (m.setDescriptor sid
          { desc with subscription := .pending txs bufferSize }) requested outside := by
      intro hn txs bufferSize
      have hh : m.activeHandle sid = none := by
        rw [Manager.activeHandle_of_lookup hl]
        unfold activeTask at hn
        unfold activeHandle
        split <;> simp_all
      have hro : (m.setDescriptor sid
          { desc with subscription := .pending txs bufferSize }).Routed :=
        IsIndexOf.congr h.sound.routed (Manager.activeHandle_setDescriptor_of_eq hh)
      exact ⟨h.sound.setDescriptor hro ⟨rfl, rfl, rfl⟩ hl rfl rfl (.inl hn.symm),
        h.requests.setDescriptor (List.Sublist.refl _) hl rfl (.inl hn.symm)⟩
    split
    next hsub => exact hp (by rw [activeTask, hsub]) ..
    next _ _ hsub => exact hp (by rw [activeTask, hsub]) ..
    next _ task hsub =>
      have hac : m.activeTask sid = some (desc.track, task) := by
        rw [Manager.activeTask_of_lookup hl, activeTask, hsub]
      have hrun := hcalm desc.track task hac
      exact ⟨h.sound.addReceiver hrun tx, h.requests.nodup, h.requests.stopping,
        h.requests.outstanding⟩

end

lemma Consistent.unsubscribe (h : Consistent m (sid :: requested) outside) :
    Consistent (m.onUnsubscribeRequest sid).1 requested
      ((m.onUnsubscribeRequest sid).2.foldl Outside.perform outside) := by
  -- the event is taken from the queue
  have htail := h.sublist (sublist_cons_self sid requested)
  -- requests name different SIDs
  have halone : ¬ Outstanding requested outside sid := by
    rintro (hin | ⟨task, tr, ht⟩)
    · exact (nodup_cons.mp h.requests.nodup).1 hin
    · exact (h.requests.stopping task tr sid ht).1 (.head _)
  unfold Manager.onUnsubscribeRequest
  split
  next => exact htail
  next desc hl =>
    split
    next _ task hsub =>
      obtain ⟨_, _, hac, hnot⟩ := h.requests.outstanding sid desc (.inl (.head _)) hl
      have hro := h.sound.routed.request (.unsubscribe hl hsub)
      refine ⟨h.sound.setDescriptor hro ⟨rfl, rfl, rfl⟩ hl rfl rfl
        (.inr ⟨rfl, fun tr task heq => ?_⟩),
        htail.requests.setDescriptor (List.Sublist.refl _) hl rfl (.inr halone)⟩
      rw [hac] at heq
      cases heq
      exact hnot
    next => exact htail

/-- **Events.** The manager keeps both invariants when it handles an event it may
handle. -/
theorem Consistent.event {queue : List InputEvent}
    (h : Consistent m (requestedSids (ev :: queue)) outside)
    (hcalm : m.running → CalmEvent ⟨m, ev :: queue, outside⟩ ev) :
    Consistent (m.step ev).1 (requestedSids queue)
      ((m.step ev).2.foldl Outside.perform outside) := by
  -- all events but one say nothing about requests
  have htail : Consistent m (requestedSids queue) outside :=
    h.sublist ((sublist_cons_self ev queue).filterMap _)
  by_cases hrun : m.running
  · have hchain := m.step_chain ev
    have hnow := hcalm hrun
    unfold Manager.step at hchain ⊢
    rw [if_pos hrun] at hchain ⊢
    cases ev with
    | subscribeRequest _ opts tx => exact htail.subscribe hnow opts tx
    | unsubscribeRequest => exact h.unsubscribe
    | sfuSubscriberHandles mapping =>
      exact htail.registerAll (Manager.nodup_assignments mapping) hnow
    | sfuPublicationUpdates =>
      refine htail.moves hchain fun eff hm sid hkeys hout => ?_
      obtain ⟨⟨listed, hlisted, rfl⟩, hnot⟩ := Manager.of_keys_onSfuPublicationUpdates hm hkeys
      exact hnot (hnow listed hlisted hout)
    | setPipelineOptions =>
      -- the remaining events put no SID into use
      refine htail.moves hchain ?_
      dsimp only [Manager.onSetPipelineOptions]
      split <;> simp
    | packetReceived =>
      refine htail.moves hchain ?_
      dsimp only [Manager.onPacketReceived]
      split
      · split <;> simp [Effect.keys]
      · simp
    | resendSubscriptionUpdates =>
      refine htail.moves hchain fun eff hm sid hkeys => ?_
      obtain ⟨e, -, hm⟩ := mem_flatMap.mp hm
      unfold Manager.resubscribe at hm
      split at hm <;> simp_all [Effect.keys]
    | shutdown =>
      refine htail.moves hchain fun eff hm sid hkeys => ?_
      obtain ⟨e, -, hm⟩ := mem_flatMap.mp hm
      have hcl := closing_of_mem_shutdownEffects hm
      unfold Effect.keys at hkeys
      split at hkeys
      next => exact absurd hcl not_false
      next => exact absurd hcl not_false
      next => exact absurd hkeys not_false
  · unfold Manager.step
    rw [if_neg hrun]
    exact htail

/-! ### Steps of the other processes -/

lemma Outside.taskState_setPhase (s : Outside)
    (ht : s.taskState task = some (tr, phase)) (phase' : TaskPhase) (task' : TaskId) :
    (s.updateTask task fun t => { t with phase := phase' }).taskState task' =
      if task' = task then some (tr, phase') else s.taskState task' := by
  rw [taskState_updateTask s task task' (fun t => { t with phase := phase' }) fun _ => rfl]
  split
  · obtain ⟨t, hl, heq⟩ := map_eq_some_iff.mp ht
    rw [hl, ← (Prod.mk.inj heq).1]
    rfl
  · rfl

lemma of_setPhase {s : Outside} {phase' ph : TaskPhase} {task' : TaskId}
    {tr' : TrackId} (ht : s.taskState task = some (tr, phase))
    (h : (s.updateTask task fun t => { t with phase := phase' }).taskState task' = some (tr', ph)) :
    (task' = task ∧ tr' = tr ∧ ph = phase') ∨
      (task' ≠ task ∧ s.taskState task' = some (tr', ph)) := by
  rw [s.taskState_setPhase ht] at h
  split at h
  next heq =>
    cases h
    exact .inl ⟨heq, rfl, rfl⟩
  next hne => exact .inr ⟨hne, h⟩

lemma Sound.halt (h : Sound m outside)
    {phase' : TaskPhase} (ht : outside.taskState task = some (tr, phase)) (hp : phase' ≠ .running)
    (hidle : phase = .running → outside.published.lookup tr = some true →
      ¬ outside.HasReceiver task) :
    Sound m (outside.updateTask task fun t => { t with phase := phase' }) := by
  have hst := outside.taskState_setPhase ht phase'
  refine ⟨h.routed, h.track_lt, ?_, ?_, ?_, ?_, ?_⟩
  · rw [Outside.updateTask_sids]
    exact h.sid_eq
  · intro sid track' task' hac
    obtain ⟨phase'', hkn⟩ := h.active_task sid track' task' hac
    rw [hst]
    split
    next heq =>
      rw [heq, ht] at hkn
      rw [(Prod.mk.inj (some.inj hkn)).1]
      exact ⟨phase', rfl⟩
    next => exact ⟨phase'', hkn⟩
  · intro task' track' phase'' hkn
    rcases of_setPhase ht hkn with ⟨rfl, rfl, -⟩ | ⟨-, hkn⟩
    · exact h.task_lt _ _ phase ht
    · exact h.task_lt task' track' phase'' hkn
  · intro hrun task' track' hkn
    rw [Outside.updateTask_published]
    rcases of_setPhase ht hkn with ⟨-, -, heq⟩ | ⟨-, hkn⟩
    · exact absurd heq.symm hp
    · exact h.running_active hrun task' track' hkn
  · intro receiver hm
    rw [Outside.updateTask_receivers] at hm
    obtain ⟨track', phase'', hkn, hlive⟩ := h.receiver_running receiver hm
    rw [hst, Outside.updateTask_published]
    split
    next heq =>
      -- its receivers are of a track that is no longer published
      rw [heq, ht] at hkn
      cases hkn
      refine ⟨tr, phase', rfl, fun hpub hrun => ?_⟩
      exact absurd ⟨receiver, hm, heq⟩ (hidle (hlive hpub hrun) hpub)
    next => exact ⟨track', phase'', hkn, hlive⟩

section

variable (h : Consistent m requested outside)
include h

variable {sid : DataTrackSid}

lemma Consistent.notice (hrun : m.running) (ht : outside.taskState task = some (tr, .running))
    (hsid : outside.sids.lookup tr = some sid) (hpub : outside.published.lookup tr = some true)
    (hn : ¬ outside.HasReceiver task) : Consistent m requested
      (outside.updateTask task fun t => { t with phase := .stopping sid }) := by
  have hst := outside.taskState_setPhase ht (.stopping sid)
  obtain ⟨sid', hac⟩ := h.sound.running_active hrun task tr ht hpub
  obtain ⟨desc, hl, hdescriptor⟩ := bind_eq_some_iff.mp hac
  have htr : desc.track = tr := track_of_activeTask hdescriptor
  obtain rfl : sid' = sid := by
    have heq := h.sound.sid_eq sid' desc hl
    rw [htr, hsid] at heq
    exact (some.inj heq).symm
  -- nothing outstanding names the SID: its task runs
  have hfree : ¬ Outstanding requested outside sid' := by
    intro hout
    obtain ⟨_, _, hot, hnot⟩ := h.requests.outstanding sid' desc hout hl
    rw [hdescriptor] at hot
    cases hot
    exact hnot ht
  refine ⟨h.sound.halt ht (by simp) fun _ _ => hn, h.requests.nodup, ?_, ?_⟩
  · intro task₁ track₁ sid₁ htask₁
    rcases of_setPhase ht htask₁ with ⟨rfl, -, ⟨⟩⟩ | ⟨-, htask₁⟩
    · -- the task that has just noticed
      refine ⟨fun hin => hfree (.inl hin), fun task₂ track₂ htask₂ => ?_⟩
      rcases of_setPhase ht htask₂ with ⟨heq, -⟩ | ⟨-, htask₂⟩
      · exact heq
      · exact absurd (.inr ⟨task₂, track₂, htask₂⟩) hfree
    · obtain ⟨hin, halone⟩ := h.requests.stopping task₁ track₁ sid₁ htask₁
      refine ⟨hin, fun task₂ track₂ htask₂ => ?_⟩
      rcases of_setPhase ht htask₂ with ⟨-, -, ⟨⟩⟩ | ⟨-, htask₂⟩
      · exact absurd (.inr ⟨task₁, track₁, htask₁⟩) hfree
      · exact halone task₂ track₂ htask₂
  · intro sid₁ d hout hd
    by_cases hsm : sid₁ = sid'
    · subst hsm
      rw [hl] at hd
      refine ⟨tr, task, by rw [← some.inj hd, hdescriptor], ?_⟩
      rw [hst, if_pos rfl]
      simp
    · have hbef : Outstanding requested outside sid₁ := by
        rcases hout with hin | ⟨task₁, track₁, htask₁⟩
        · exact .inl hin
        · rcases of_setPhase ht htask₁ with ⟨-, -, ⟨⟩⟩ | ⟨-, htask₁⟩
          · exact absurd rfl hsm
          · exact .inr ⟨task₁, track₁, htask₁⟩
      obtain ⟨track₁, task₁, hd_active, hnot⟩ := h.requests.outstanding sid₁ d hbef hd
      refine ⟨track₁, task₁, hd_active, ?_⟩
      rw [hst]
      split
      · simp
      · exact hnot

lemma Consistent.send (ht : outside.taskState task = some (tr, .stopping sid)) :
    Consistent m (requested ++ [sid])
      (outside.updateTask task fun t => { t with phase := .ended }) := by
  have hst := outside.taskState_setPhase ht .ended
  obtain ⟨hin, halone⟩ := h.requests.stopping task tr sid ht
  have hot : ∀ {task₁ track₁ sid₁},
      (outside.updateTask task fun t => { t with phase := .ended }).taskState task₁ =
        some (track₁, .stopping sid₁) →
      task₁ ≠ task ∧ outside.taskState task₁ = some (track₁, .stopping sid₁) := by
    intro _ _ _ htask₁
    rcases of_setPhase ht htask₁ with ⟨-, -, ⟨⟩⟩ | hbef
    exact hbef
  refine ⟨h.sound.halt ht (by simp) nofun, ?_, ?_, ?_⟩
  · rw [← concat_eq_append]
    exact h.requests.nodup.concat hin
  · intro task₁ track₁ sid₁ htask₁
    obtain ⟨hne, htask₁⟩ := hot htask₁
    obtain ⟨hin₁, halone₁⟩ := h.requests.stopping task₁ track₁ sid₁ htask₁
    refine ⟨fun hm => ?_, fun task₂ track₂ htask₂ =>
      halone₁ task₂ track₂ (hot htask₂).2⟩
    rcases mem_append.mp hm with hm | hm
    · exact hin₁ hm
    · obtain rfl := mem_singleton.mp hm
      exact hne (halone task₁ track₁ htask₁)
  · intro sid₁ d hout hd
    -- what is outstanding now was so before
    have hbef : Outstanding requested outside sid₁ := by
      rcases hout with hm | ⟨task₁, track₁, htask₁⟩
      · rcases mem_append.mp hm with hm | hm
        · exact .inl hm
        · exact .inr ⟨task, tr, mem_singleton.mp hm ▸ ht⟩
      · exact .inr ⟨task₁, track₁, (hot htask₁).2⟩
    obtain ⟨track₁, task₁, hac, hnot⟩ := h.requests.outstanding sid₁ d hbef hd
    refine ⟨track₁, task₁, hac, ?_⟩
    rw [hst]
    split
    · simp
    · exact hnot

lemma Consistent.finish (ht : outside.taskState task = some (tr, .running))
    (hpub : outside.published.lookup tr ≠ some true) :
    Consistent m requested (outside.updateTask task fun t => { t with phase := .ended }) := by
  -- the only task that changes has ended, and it asks for nothing
  refine ⟨h.sound.halt ht (by simp) fun _ htrue => absurd htrue hpub,
    h.requests.mono (List.Sublist.refl _) ?_ ?_ fun sid d _ hd => ⟨d, hd, rfl⟩⟩
  · intro _ _ _ ht'
    rcases of_setPhase ht ht' with ⟨-, -, ⟨⟩⟩ | ⟨-, ht'⟩
    exact ht'
  · intro _ _ _ _ ht'
    rcases of_setPhase ht ht' with ⟨-, -, ⟨⟩⟩ | ⟨-, ht'⟩
    exact ht'

lemma Consistent.congr (htasks : ∀ task, outside'.taskState task = outside.taskState task)
    (hsids : outside'.sids = outside.sids) (hpub : outside'.published = outside.published)
    (hreceivers : outside'.receivers ⊆ outside.receivers) : Consistent m requested outside' := by
  obtain ⟨hs, hrequests⟩ := h
  refine ⟨⟨hs.routed, hs.track_lt, ?_, ?_, ?_, ?_, ?_⟩, hrequests.nodup, ?_, ?_⟩
  · rw [hsids]
    exact hs.sid_eq
  · simp only [htasks]
    exact hs.active_task
  · simp only [htasks]
    exact hs.task_lt
  · simp only [htasks, hpub]
    exact hs.running_active
  · simp only [htasks, hpub]
    exact fun receiver hm => hs.receiver_running receiver (hreceivers hm)
  · simp only [htasks]
    exact hrequests.stopping
  · simp only [Outstanding, htasks]
    exact hrequests.outstanding

end

/-! ### Steps and runs of the system -/

def Fit (self : System π) : Prop :=
  self.manager.running → Consistent self.manager (requestedSids self.queue) self.outside

lemma Fit.attached (h : Fit s) : Attached s :=
  fun hrun => (h hrun).sound.attached hrun

lemma running_of_step (h : (m.step ev).1.running) : m.running := by
  unfold Manager.step at h
  by_contra hnot
  rw [if_neg hnot] at h
  exact hnot h

lemma Fit.push (h : Fit s) (hev : ∀ sid, ev ≠ .unsubscribeRequest sid) : Fit (s.push ev) := by
  unfold System.push
  split
  next =>
    intro hrun
    -- only requests to unsubscribe count
    have hq : requestedSids (s.queue ++ [ev]) = requestedSids s.queue := by
      unfold requestedSids
      rw [filterMap_append]
      cases ev with
      | unsubscribeRequest sid => exact absurd rfl (hev sid)
      | _ => exact append_nil _
    rw [hq]
    exact h hrun
  next => exact h

lemma Fit.manage (h : Fit s) (hcalm : Calm s .manage) : Fit s.manage.1 := by
  unfold System.manage
  split
  next => exact h
  next ev queue hq =>
    intro hrun
    have hbef := running_of_step hrun
    have hconsistent := h hbef
    rw [hq] at hconsistent
    refine hconsistent.event fun _ => ?_
    have hev := hcalm ev queue hq hbef
    -- the event is read in a state that is the same, its queue spelled out
    rwa [show s = ⟨s.manager, ev :: queue, s.outside⟩ by rw [← hq]] at hev

lemma Fit.notice (h : Fit s) (task : TaskId) : Fit (s.notice task) := by
  unfold System.notice
  split
  next => exact h
  next t hl =>
    split
    next => exact h
    next _ hsid =>
      split
      next hcond =>
        obtain ⟨hp, hpub, hn⟩ := hcond
        intro hrun
        -- the loop reads its channel without receivers while the track is published
        have ht : s.outside.taskState task = some (t.track, .running) := by
          rw [Outside.taskState, hl, ← hp]
          rfl
        exact (h hrun).notice hrun ht hsid hpub hn
      next => exact h

lemma Fit.unsubscribe (h : Fit s) (task : TaskId) : Fit (s.unsubscribe task) := by
  unfold System.unsubscribe
  split
  next _ sid ht =>
    split
    next hroom =>
      intro hrun
      rw [System.push, if_pos hroom] at hrun ⊢
      -- the request takes the place of the task that was about to send it
      have hq : requestedSids (s.queue ++ [.unsubscribeRequest sid]) =
          requestedSids s.queue ++ [sid] := by
        unfold requestedSids
        rw [filterMap_append]
        rfl
      rw [hq]
      exact (h hrun).send ht
    next => exact h
  next => exact h

lemma Fit.unpublished (h : Fit s) (task : TaskId) : Fit (s.unpublished task) := by
  unfold System.unpublished
  split
  next _ ht =>
    split
    next => exact h
    next hpub => exact fun hrun => (h hrun).finish ht hpub
  next => exact h

lemma Fit.receive (h : Fit s) (task : TaskId) : Fit (s.receive task) := by
  unfold System.receive
  split
  next _ _ =>
    intro hrun
    refine (h hrun).congr (fun task' => ?_) (Outside.updateTask_sids ..)
      (Outside.updateTask_published ..) ?_
    · exact Outside.taskState_updateTask_of_phase _ task task' _ (fun _ => rfl) fun _ => rfl
    · rw [Outside.updateTask_receivers]
      exact List.Subset.refl _
  next => exact h

/-- **Steps.** A calm step of any process keeps the invariant. -/
theorem fit_step {a : Action} (h : Fit s) (hcalm : Calm s a) : Fit (s.step a).1 := by
  cases a with
  | send ev =>
    -- only a task sends a request to unsubscribe
    cases ev with
    | unsubscribeRequest => exact h
    | _ => exact h.push (by simp)
  | manage => exact h.manage hcalm
  | notice task => exact h.notice task
  | unsubscribe task => exact h.unsubscribe task
  | unpublished task => exact h.unpublished task
  | receive task => exact h.receive task
  | dropReceiver =>
    exact fun hrun => (h hrun).congr (fun _ => rfl) rfl rfl (erase_subset ..)

lemma fit_new (prov : Option π) : Fit (System.new prov) := by
  intro _
  refine ⟨⟨Manager.routed_new prov, ?_, ?_, ?_, ?_, ?_, ?_⟩, ?_, ?_, ?_⟩ <;>
    simp [System.new, Manager.new, Manager.activeTask, Outside.taskState, requestedSids]

/-- **Attachment.** Along a run whose steps are all calm, every receiver is attached in every state.
-/
theorem attached_of_calm (decryptionProvider : Option π) (actions : List Action)
    (h_calm : Along System.step Calm (System.new decryptionProvider) actions) (pre : List Action)
    (h_pre : pre <+: actions) :
    Attached (state System.step (System.new decryptionProvider) pre) := by
  obtain ⟨_, rfl⟩ := h_pre
  have hfit : Fit (state System.step (System.new decryptionProvider) pre) :=
    h_calm.append_left.state_of_step (fit_new decryptionProvider) fun _ _ => fit_step
  exact hfit.attached

def oneReceiver : List Action :=
  [.send (.sfuPublicationUpdates (.ofList [("alice", [Manager.infoA])]) .asListed .asListed),
    .manage, .send (.subscribeRequest Manager.infoA.sid default 0), .manage,
    .send (.sfuSubscriberHandles (.ofList [(.one, Manager.infoA.sid)])), .manage]

def receiverReplaced : List Action :=
  oneReceiver ++ [.send (.subscribeRequest Manager.infoA.sid default 1), .manage,
    .dropReceiver (0, 0)]

/-- The second receiver is the one that is left, and it is attached. -/
theorem attached_receiverReplaced :
    let after := state System.step (System.new (none : Option Unit)) receiverReplaced
    after.outside.receivers = [(1, 0)] ∧ Attached after := by
  let before (n : ℕ) := state System.step (System.new (none : Option Unit))
    (receiverReplaced.take n)
  have hcalm : Along System.step Calm (System.new (none : Option Unit)) receiverReplaced := by
    refine ⟨trivial, ?_, trivial, ?_, trivial, ?_, trivial, ?_, trivial, trivial⟩
    · -- nothing has been requested when the track is published
      rintro _ _ hq -
      cases hq
      rintro _ - (hin | ⟨task, _, ht⟩)
      · cases hin
      · have hn : (before 1).outside.taskState task = none := rfl
        cases hn.symm.trans ht
    · -- the track is not active when the first request comes
      rintro _ _ hq -
      cases hq
      intro _ _ hactive
      have hn : (before 3).manager.activeTask Manager.infoA.sid = none := by decide +kernel
      cases hn.symm.trans hactive
    · -- no track has a handle when the first is assigned
      rintro _ _ hq -
      cases hq
      refine ⟨by decide +kernel, ?_⟩
      rintro _ _ _ _ - - sid' - hheld
      have hkeys : (before 5).manager.descriptors.keys = [Manager.infoA.sid] := by decide +kernel
      have hh : (before 5).manager.activeHandle sid' = none := by
        by_cases hsid : sid' = Manager.infoA.sid
        · rw [hsid]
          decide +kernel
        · refine Manager.activeHandle_of_lookup_none (AList.lookup_eq_none.mpr fun hm => ?_)
          exact hsid (mem_singleton.mp hm)
      cases hh.symm.trans hheld
    · -- the task runs when the second request comes
      rintro _ _ hq -
      cases hq
      intro _ _ hactive
      have hsome : (before 7).manager.activeTask Manager.infoA.sid = some (0, 0) := by
        decide +kernel
      have hrun : (before 7).outside.taskState 0 = some (0, .running) := by decide +kernel
      obtain ⟨rfl, rfl⟩ := Prod.mk.inj (mem_unique hsome hactive)
      exact hrun
  exact ⟨by decide +kernel, attached_of_calm none receiverReplaced hcalm _ (prefix_refl _)⟩

/-- The task finds its receiver gone; before its request reaches the manager, the
manager answers another subscriber. -/
def lateSubscriber : List Action :=
  oneReceiver ++
    [.dropReceiver (0, 0), .notice 0, .send (.subscribeRequest Manager.infoA.sid default 1),
      .manage,
      .unsubscribe 0, .manage]

/-- **A lost subscriber.** The track is published and the manager runs, but the late receiver is on
the channel of a task that has ended. -/
theorem subscriber_lost :
    let after := state System.step (System.new (none : Option Unit)) lateSubscriber
    after.manager.running ∧ after.outside.receivers = [(1, 0)] ∧
      after.outside.published.lookup 0 = some true ∧
      after.outside.taskState 0 = some (0, .ended) ∧
      (after.manager.descriptors.lookup Manager.infoA.sid).map subscription = some .none ∧
      ¬ Attached after := by
  intro after
  have hrun : after.manager.running := by decide +kernel
  have hreceivers : after.outside.receivers = [(1, 0)] := by decide +kernel
  have hpub : after.outside.published.lookup 0 = some true := by decide +kernel
  have ht : after.outside.taskState 0 = some (0, .ended) := by decide +kernel
  refine ⟨hrun, hreceivers, hpub, ht, by decide +kernel, fun hattached => ?_⟩
  -- an attached receiver would be on the channel of a task that runs
  obtain ⟨_, _, hst, hlive⟩ := hattached hrun (1, 0) (by rw [hreceivers]; simp)
  cases hst
  exact absurd (hlive hpub).1 (by simp)

end LiveKit.DataTrack.Remote
