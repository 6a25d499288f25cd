import LiveKitRust.DataTrack.Remote.Moves

/-!
# Routing of incoming packets

The index from subscriber handles to SIDs is meant to lead from the handle of every active
descriptor to its SID, and nowhere else: `Routed`. All moves but the assignment of handles keep it
so (`Routed.move`).

The handles of one event are assigned one after the other, and a track that still holds the handle
given to another one takes the new owner's entry out of the index when its own turn comes.
`AssignsCleanly` says, of the state before the event, when this does not happen, and `routing_iff`
that it is exactly the condition under which the index stays right and every tracked entry of the
mapping is routed. A full reconnect after which the SFU swaps two handles violates it
(`routing_lost_by_swap`).
-/

open Machine List AList

namespace LiveKit.DataTrack.Remote

variable {π : Type}

namespace Manager

def activeHandle (self : Manager π) (sid : DataTrackSid) : Option Handle :=
  (self.descriptors.lookup sid).bind Descriptor.activeHandle

def Tracked (self : Manager π) (sid : DataTrackSid) : Prop :=
  ∃ descriptor ∈ self.descriptors.lookup sid, descriptor.Tracked
  deriving Decidable

def Routed (self : Manager π) : Prop := IsIndexOf self.subHandles self.activeHandle

lemma activeHandle_setDescriptor (s : Manager π) (sid sid') (d : Descriptor) :
    (s.setDescriptor sid d).activeHandle sid' =
      if sid' = sid then d.activeHandle else s.activeHandle sid' := by
  unfold activeHandle setDescriptor
  rw [lookup_insert_ite]
  split <;> rfl

variable {self : Manager π} {sid : DataTrackSid} {d : Descriptor} {self' : Manager π}
  {asg : Handle × DataTrackSid}

lemma activeHandle_of_lookup (h : self.descriptors.lookup sid = some d) :
    self.activeHandle sid = d.activeHandle := by
  rw [activeHandle, h, Option.bind_some]

lemma activeHandle_of_lookup_none (h : self.descriptors.lookup sid = none) :
    self.activeHandle sid = none := by
  rw [activeHandle, h, Option.bind_none]

lemma activeHandle_setDescriptor_of_eq (h : self.activeHandle sid = d.activeHandle) (sid') :
    (self.setDescriptor sid d).activeHandle sid' = self.activeHandle sid' := by
  rw [activeHandle_setDescriptor]
  split
  next heq => rw [heq, h]
  next => rfl

/-! ### Moves keep the index -/

lemma Routed.dropRoute (h : self.Routed) (sid)
    (hsub : self'.subHandles = dropRoute (self.activeHandle sid) self.subHandles)
    (hsid : self'.activeHandle sid = none)
    (hot : ∀ sid', sid' ≠ sid → self'.activeHandle sid' = self.activeHandle sid') :
    self'.Routed := by
  unfold Routed
  rw [hsub]
  cases hh : self.activeHandle sid with
  | some => exact IsIndexOf.erase h hh hsid hot
  | none =>
    -- there was no handle to take out
    refine IsIndexOf.congr h fun sid' => ?_
    by_cases heq : sid' = sid
    · rw [heq, hsid, hh]
    · exact hot sid' heq

lemma Routed.moveRoute (h : self.Routed) (oldSid newSid)
    (hsub : self'.subHandles = moveRoute (self.activeHandle oldSid) newSid self.subHandles)
    (hnew : self.activeHandle newSid = none)
    (hsid : self'.activeHandle newSid = self.activeHandle oldSid)
    (hold : self'.activeHandle oldSid = none) (hot : ∀ sid, sid ≠ oldSid → sid ≠ newSid →
      self'.activeHandle sid = self.activeHandle sid) : self'.Routed := by
  unfold Routed
  rw [hsub]
  cases hh : self.activeHandle oldSid with
  | some =>
    exact IsIndexOf.move h hh hnew hold (hsid.trans hh) hot
  | none =>
    -- there was no handle to lead to the new SID
    refine IsIndexOf.congr h fun sid => ?_
    by_cases heq : sid = oldSid
    · rw [heq, hold, hh]
    by_cases heq' : sid = newSid
    · rw [heq', hsid, hnew, hh]
    · exact hot sid heq heq'

variable {effs : List (Effect π)}

/-- **Requests** keep the index. -/
theorem Routed.request (h : self.Routed) (hreq : Request self effs self') : self'.Routed := by
  cases hreq with
  | refuse | attach => exact h
  | request hl hsub | join hl hsub =>
    refine IsIndexOf.congr h (activeHandle_setDescriptor_of_eq ?_)
    rw [activeHandle_of_lookup hl, Descriptor.activeHandle, hsub]
    rfl
  | unsubscribe hl hsub =>
    -- the only request that ends an active subscription
    rename_i sid d subHandle task
    have hh : self.activeHandle sid = some subHandle := by
      rw [activeHandle_of_lookup hl, Descriptor.activeHandle, hsub]
    refine h.dropRoute sid (by rw [hh]; rfl) ?_ fun sid' hne => ?_
    · exact (activeHandle_setDescriptor ..).trans (if_pos rfl)
    · exact (activeHandle_setDescriptor ..).trans (if_neg hne)

/-- **Moves** keep the index. -/
theorem Routed.move {s self' : Manager π} (h : s.Routed)
    (hmv : Move s effs self') : self'.Routed := by
  cases hmv with
  | deliver | resend => exact h
  | configure hl =>
    refine IsIndexOf.congr h (activeHandle_setDescriptor_of_eq ?_)
    rw [activeHandle_of_lookup hl]
    rfl
  | publish hl =>
    exact IsIndexOf.congr h (activeHandle_setDescriptor_of_eq (activeHandle_of_lookup_none hl))
  | unpublish hl =>
    rename_i sid d
    refine h.dropRoute sid (by rw [activeHandle_of_lookup hl]) ?_ fun sid' hne => ?_
    · exact activeHandle_of_lookup_none (lookup_erase ..)
    · change Option.bind (AList.lookup sid' _) _ = _
      rw [lookup_erase_ne hne]
      rfl
  | reassign hl hnew =>
    rename_i oldSid newSid d
    -- the new SID is free, so it is not the old one
    have hne : oldSid ≠ newSid := by
      rintro rfl
      cases hl.symm.trans hnew
    refine h.moveRoute oldSid newSid
      (by rw [activeHandle_of_lookup hl]) (activeHandle_of_lookup_none hnew) ?_ ?_
      fun sid hold hnew' => ?_
    · change Option.bind (AList.lookup newSid _) _ = _
      rw [AList.lookup_insert, activeHandle_of_lookup hl]
      rfl
    · refine activeHandle_of_lookup_none ?_
      exact (AList.lookup_insert_ne hne).trans (AList.lookup_erase ..)
    · change Option.bind (AList.lookup sid _) _ = _
      rw [AList.lookup_insert_ne hnew', AList.lookup_erase_ne hold]
      rfl
  | shutdown =>
    -- after a shutdown both the index and the descriptors are empty
    intro _ _
    exact iff_of_false (by simp) (by simp [activeHandle])

/-! ### One assignment -/

lemma tracked_of_lookup (h : self.descriptors.lookup sid = some d) :
    self.Tracked sid ↔ d.Tracked := by
  unfold Tracked
  rw [h]
  simp

lemma tracked_of_activeHandle {handle} (h : self.activeHandle sid = some handle) :
    self.Tracked sid := by
  obtain ⟨_, hl, hh⟩ := Option.bind_eq_some_iff.mp h
  refine (tracked_of_lookup hl).mpr fun hsub => ?_
  rw [Descriptor.activeHandle, hsub] at hh
  cases hh

lemma tracked_setDescriptor (s : Manager π) (sid sid') (d : Descriptor) :
    (s.setDescriptor sid d).Tracked sid' ↔ if sid' = sid then d.Tracked else s.Tracked sid' := by
  by_cases h : sid' = sid
  · rw [if_pos h]
    exact tracked_of_lookup (by rw [h]; exact lookup_insert ..)
  · rw [if_neg h]
    unfold Tracked setDescriptor
    rw [lookup_insert_ne h]

lemma register_of_not_tracked (h : ¬ self.Tracked asg.2) :
    self.registerSubscriberHandle asg = (self, []) := by
  refine register_ignored fun d hl => ?_
  by_contra hsub
  exact h ((tracked_of_lookup hl).mpr hsub)

/-- **One assignment.** The track has the handle, the handle leads to the track,
and what the track held before leads nowhere. -/
theorem register_of_tracked (h : self.Tracked asg.2) :
    (∀ sid, (self.registerSubscriberHandle asg).1.activeHandle sid =
        if sid = asg.2 then some asg.1 else self.activeHandle sid) ∧
      (∀ handle, (self.registerSubscriberHandle asg).1.subHandles.lookup handle =
        if handle = asg.1 then some asg.2
        else if self.activeHandle asg.2 = some handle then none
        else self.subHandles.lookup handle) ∧
      ∀ sid, (self.registerSubscriberHandle asg).1.Tracked sid ↔ self.Tracked sid := by
  obtain ⟨d, hl, hsub⟩ := h
  have hac := activeHandle_of_lookup hl
  -- whatever the descriptor becomes, it is active and all others stay
  have htr : ∀ task sid, (self.setDescriptor asg.2
      { d with subscription := .active asg.1 task }).Tracked sid ↔ self.Tracked sid := by
    intro _ _
    rw [tracked_setDescriptor]
    split
    next heq =>
      rw [heq, tracked_of_lookup hl]
      exact iff_of_true (by simp [Descriptor.Tracked]) hsub
    next => rfl
  cases hst : d.subscription with
  | none => exact absurd hst hsub
  | active _ task =>
    rw [Descriptor.activeHandle, hst] at hac
    rw [register_active hl hst]
    refine ⟨fun sid => activeHandle_setDescriptor .., fun handle => ?_, htr task⟩
    rw [lookup_insert_ite, lookup_erase_ite, hac]
    simp only [Option.some.injEq, eq_comm]
  | pending =>
    rw [Descriptor.activeHandle, hst] at hac
    rw [register_pending hl hst]
    refine ⟨fun sid => activeHandle_setDescriptor .., fun handle => ?_, htr self.nextTask⟩
    rw [lookup_insert_ite, hac]
    simp

lemma Routed.register (h : self.Routed) (hfree : self.Tracked asg.2 → ∀ sid, sid ≠ asg.2 →
      self.activeHandle sid ≠ some asg.1) : (self.registerSubscriberHandle asg).1.Routed := by
  by_cases htr : self.Tracked asg.2
  · obtain ⟨hac, hindex, -⟩ := register_of_tracked htr
    intro handle sid
    rw [hac, hindex]
    by_cases hsid : sid = asg.2
    · subst hsid
      rw [if_pos rfl]
      by_cases hh : handle = asg.1
      · simp [hh]
      · rw [if_neg hh]
        have hne : some asg.1 ≠ some handle := fun heq => hh (Option.some.inj heq).symm
        refine iff_of_false ?_ hne
        -- what the track held before has been taken out
        split
        next => simp
        next _ => rwa [h]
    · rw [if_neg hsid]
      by_cases hh : handle = asg.1
      · rw [if_pos hh, hh]
        exact iff_of_false (fun heq => hsid (Option.some.inj heq).symm) (hfree htr sid hsid)
      · rw [if_neg hh]
        split
        next hheld =>
          -- the handle given up was that of one track only
          exact iff_of_false (by simp) fun heq => hsid (IsIndexOf.inj h heq hheld)
        next => exact h handle sid
  · rw [register_of_not_tracked htr]
    exact h

/-! ### The assignments of one event -/

section Register

variable {s : Manager π} {asg : List (Handle × DataTrackSid)}

lemma tracked_registerAll (s : Manager π) (asg sid) :
    (state registerSubscriberHandle s asg).Tracked sid ↔ s.Tracked sid := by
  induction asg generalizing s with
  | nil => rfl
  | cons a _ ih =>
    rw [state_cons, ih]
    by_cases h : s.Tracked a.2
    · exact (register_of_tracked h).2.2 sid
    · rw [register_of_not_tracked h]

lemma activeHandle_registerAll (h : sid ∉ asg.map Prod.snd) :
    (state registerSubscriberHandle s asg).activeHandle sid = s.activeHandle sid := by
  induction asg generalizing s with
  | nil => rfl
  | cons a _ ih =>
    rw [map_cons, mem_cons, not_or] at h
    rw [state_cons, ih h.2]
    by_cases htr : s.Tracked a.2
    · rw [(register_of_tracked htr).1, if_neg h.1]
    · rw [register_of_not_tracked htr]

variable {handle : Handle}

lemma lookup_registerAll_eq_none (h : handle ∉ asg.map Prod.fst)
    (hn : s.subHandles.lookup handle = none) :
    (state registerSubscriberHandle s asg).subHandles.lookup handle = none := by
  induction asg generalizing s with
  | nil => exact hn
  | cons a _ ih =>
    rw [map_cons, mem_cons, not_or] at h
    refine ih h.2 ?_
    by_cases htr : s.Tracked a.2
    · rw [(register_of_tracked htr).2.1, if_neg h.1, hn, ite_self]
    · rw [register_of_not_tracked htr]
      exact hn

lemma lookup_registerAll_of_held (hheld : s.activeHandle sid = some handle)
    (hturn : sid ∈ asg.map Prod.snd)
    (hnot : handle ∉ asg.map Prod.fst) :
    (state registerSubscriberHandle s asg).subHandles.lookup handle = none := by
  induction asg generalizing s with
  | nil => cases hturn
  | cons a _ ih =>
    rw [map_cons, mem_cons, not_or] at hnot
    rw [state_cons]
    -- at its turn the track gives up the handle it held
    by_cases heq : sid = a.2
    · subst heq
      obtain ⟨-, hindex, -⟩ := register_of_tracked (tracked_of_activeHandle hheld)
      refine lookup_registerAll_eq_none hnot.2 ?_
      rw [hindex, if_neg hnot.1, if_pos hheld]
    · refine ih ?_ ?_ hnot.2
      · have hkeep := @activeHandle_registerAll π sid s [a] (by simp [heq])
        exact hkeep.trans hheld
      · rw [map_cons, mem_cons] at hturn
        exact hturn.resolve_left heq

end Register

/-- The assignments give each subscribed track one handle, and none that another
track holds, unless that track has got a new one earlier in the list. -/
def AssignsCleanly (self : Manager π) (assigned : List (Handle × DataTrackSid)) : Prop :=
  ((assigned.filter fun a => self.Tracked a.2).map Prod.snd).Nodup ∧
    ∀ pre handle sid post, assigned = pre ++ (handle, sid) :: post → self.Tracked sid →
      ∀ sid', sid' ≠ sid → self.activeHandle sid' = some handle → sid' ∈ pre.map Prod.snd

variable {a : Handle × DataTrackSid} {asg : List (Handle × DataTrackSid)}

lemma AssignsCleanly.tail (h : self.AssignsCleanly (a :: asg)) (hh : a.1 ∉ asg.map Prod.fst) :
    (self.registerSubscriberHandle a).1.AssignsCleanly asg := by
  obtain ⟨honce, hfree⟩ := h
  have hsm : ∀ sid, (self.registerSubscriberHandle a).1.Tracked sid ↔ self.Tracked sid :=
    tracked_registerAll self [a]
  -- an assignment does not change which tracks are subscribed to
  refine ⟨?_, ?_⟩
  · simp only [hsm]
    refine honce.sublist (List.Sublist.map _ ?_)
    exact (sublist_cons_self a asg).filter _
  · intro pre handle sid post heq htr sid' hne hheld
    rw [hsm] at htr
    by_cases ha : self.Tracked a.2
    · rw [(register_of_tracked ha).1] at hheld
      by_cases hsid' : sid' = a.2
      · -- the track just handled holds `a.1`, which is not assigned again
        rw [if_pos hsid'] at hheld
        have hm : a.1 ∈ asg.map Prod.fst := by
          rw [heq, Option.some.inj hheld]
          simp
        exact absurd hm hh
      · rw [if_neg hsid'] at hheld
        have hpre := hfree (a :: pre) handle sid post (by rw [heq]; rfl) htr sid' hne hheld
        rcases mem_cons.mp hpre with hf | hpre
        · exact absurd hf hsid'
        · exact hpre
    · rw [register_of_not_tracked ha] at hheld
      have hpre := hfree (a :: pre) handle sid post (by rw [heq]; rfl) htr sid' hne hheld
      rcases mem_cons.mp hpre with hf | hpre
      · -- `a.2` is not subscribed to, so it holds no handle
        subst hf
        exact absurd (tracked_of_activeHandle hheld) ha
      · exact hpre

lemma Routed.registerAll (h : self.Routed)
    (hnodup : (asg.map Prod.fst).Nodup) (hclean : self.AssignsCleanly asg) :
    (state registerSubscriberHandle self asg).Routed := by
  induction asg generalizing self with
  | nil => exact h
  | cons a asg ih =>
    rw [map_cons, nodup_cons] at hnodup
    refine ih (h.register fun htr sid hne hheld => ?_) hnodup.2 (hclean.tail hnodup.1)
    have hm := hclean.2 [] a.1 a.2 asg rfl htr sid hne hheld
    cases hm

lemma activeHandle_of_mem_assigned (hm : a ∈ asg) (htr : self.Tracked a.2)
    (honce : ((asg.filter fun a => self.Tracked a.2).map Prod.snd).Nodup) :
    (state registerSubscriberHandle self asg).activeHandle a.2 = some a.1 := by
  obtain ⟨pre, post, rfl⟩ := append_of_mem hm
  have hpre := tracked_registerAll self pre
  -- the track is assigned no second handle afterwards
  have hpost : a.2 ∉ post.map Prod.snd := by
    intro hagain
    obtain ⟨b, hb, heq⟩ := mem_map.mp hagain
    rw [filter_append, filter_cons_of_pos (by simpa using htr), map_append,
      map_cons, nodup_append, nodup_cons] at honce
    refine honce.2.1.1 (mem_map.mpr ⟨b, mem_filter.mpr ⟨hb, ?_⟩, heq⟩)
    rw [heq]
    simpa using htr
  rw [state_append, state_cons, activeHandle_registerAll hpost,
    (register_of_tracked ((hpre a.2).mpr htr)).1, if_pos rfl]

/-- **Assignments of one event.** From a right index, the assignments leave a
right index in which every subscribed track is found under the handle it was
assigned, if and only if they are clean. -/
theorem registerAll_routed_iff (h : self.Routed)
    (hnodup : (asg.map Prod.fst).Nodup) :
    ((state registerSubscriberHandle self asg).Routed ∧ ∀ a ∈ asg, self.Tracked a.2 →
          (state registerSubscriberHandle self asg).subHandles.lookup a.1 = some a.2) ↔
      self.AssignsCleanly asg := by
  constructor
  · rintro ⟨hro, hall⟩
    -- a right index says which handle each track ends up with
    have hhas : ∀ a ∈ asg, self.Tracked a.2 →
        (state registerSubscriberHandle self asg).activeHandle a.2 = some a.1 :=
      fun a hm htr => (hro a.1 a.2).mp (hall a hm htr)
    refine ⟨?_, ?_⟩
    · -- two handles of one track would both be its handle at the end
      refine List.Nodup.map_on ?_ (hnodup.of_map.filter _)
      intro a ha b hb heq
      obtain ⟨ha, hta⟩ := mem_filter.mp ha
      obtain ⟨hb, htb⟩ := mem_filter.mp hb
      have hfst := (hhas a ha (by simpa using hta)).symm.trans
        ((congrArg _ heq).trans (hhas b hb (by simpa using htb)))
      exact Prod.ext (Option.some.inj hfst) heq
    · intro pre handle sid post heq htr sid' hne hheld
      by_contra hpre
      subst heq
      have hm : (handle, sid) ∈ pre ++ (handle, sid) :: post := by simp
      have hrouted_to := hall (handle, sid) hm htr
      -- when `sid` gets the handle, `sid'` still holds it
      have hstill : (state registerSubscriberHandle self
          (pre ++ [(handle, sid)])).activeHandle sid' = some handle := by
        rw [activeHandle_registerAll (by simp [hpre, hne]), hheld]
      have hsplit : pre ++ (handle, sid) :: post = (pre ++ [(handle, sid)]) ++ post := by simp
      rw [hsplit, state_append] at hrouted_to hro
      generalize state registerSubscriberHandle self (pre ++ [(handle, sid)]) = mid at *
      by_cases hpost : sid' ∈ post.map Prod.snd
      · -- its own turn comes later and takes the handle out of the index
        have hnot : handle ∉ post.map Prod.fst := by
          rw [map_append, map_cons, nodup_append, nodup_cons] at hnodup
          exact hnodup.2.1.1
        rw [lookup_registerAll_of_held hstill hpost hnot] at hrouted_to
        cases hrouted_to
      · -- it never gets another one
        rw [← activeHandle_registerAll hpost, ← hro, hrouted_to] at hstill
        exact hne (Option.some.inj hstill).symm
  · intro hclean
    have hro := h.registerAll hnodup hclean
    refine ⟨hro, fun a hm htr => ?_⟩
    rw [hro]
    exact activeHandle_of_mem_assigned hm htr hclean.1

/-! ### Whole runs -/

lemma nodup_assignments (mapping) : ((assignments mapping).map Prod.fst).Nodup := by
  unfold assignments
  rw [map_map]
  exact mapping.keys_nodup

def HandlesFree (self : Manager π) (event : InputEvent) : Prop :=
  ∀ mapping, event = .sfuSubscriberHandles mapping → self.running →
    self.AssignsCleanly (assignments mapping)

/-- After an event that assigns handles, every assignment to a track that was
pending or active is routed. -/
def AssignmentsRouted (self : Manager π) (event : InputEvent) : Prop :=
  ∀ mapping, event = .sfuSubscriberHandles mapping → self.running →
    ∀ a ∈ assignments mapping, self.Tracked a.2 →
      (self.step event).1.subHandles.lookup a.1 = some a.2

/-- **One event** keeps the index and routes its assignments exactly under the
condition on its handles. -/
theorem step_routed_iff (h : self.Routed) (event : InputEvent) :
    ((self.step event).1.Routed ∧ self.AssignmentsRouted event) ↔ self.HandlesFree event := by
  by_cases hev : ∃ mapping, event = .sfuSubscriberHandles mapping
  · obtain ⟨mapping, rfl⟩ := hev
    by_cases hrun : self.running
    · have hstep : (self.step (.sfuSubscriberHandles mapping)).1 =
          state registerSubscriberHandle self (assignments mapping) := by
        rw [step, if_pos hrun]
        rfl
      have hiff := registerAll_routed_iff h (nodup_assignments mapping)
      rw [← hstep] at hiff
      constructor
      · rintro ⟨hro, hall⟩ _ heq -
        cases heq
        exact hiff.mp ⟨hro, hall mapping rfl hrun⟩
      · intro hfree
        obtain ⟨hro, hall⟩ := hiff.mpr (hfree mapping rfl hrun)
        refine ⟨hro, ?_⟩
        intro _ heq _
        cases heq
        exact hall
    · have hstep : self.step (.sfuSubscriberHandles mapping) = (self, []) := by
        rw [step, if_neg hrun]
      rw [hstep]
      exact iff_of_true ⟨h, fun _ _ hrun' => absurd hrun' hrun⟩ fun _ _ hrun' =>
        absurd hrun' hrun
  · -- the other events are chains of requests or moves
    have hne : ∀ mapping, event ≠ .sfuSubscriberHandles mapping :=
      fun mapping heq => hev ⟨mapping, heq⟩
    have hro : (self.step event).1.Routed := by
      refine (self.step_chain event).invariant h fun s os s' hs htr => ?_
      cases event with
      | sfuSubscriberHandles mapping => exact absurd rfl (hne mapping)
      | subscribeRequest | unsubscribeRequest => exact hs.request htr
      | sfuPublicationUpdates | setPipelineOptions | packetReceived | resendSubscriptionUpdates
      | shutdown => exact hs.move htr
    exact iff_of_true ⟨hro, fun mapping heq => absurd heq (hne mapping)⟩
      fun mapping heq => absurd heq (hne mapping)

lemma routed_new (prov : Option π) : (new prov).Routed := by
  intro _ _
  exact iff_of_false (by simp [new]) (by simp [new, activeHandle])

/-- **Routing.** In every state of a run the index routes exactly the handles of the active
descriptors, and every event that assigns handles routes those of its tracks that were pending or
active, if and only if every such event assigns them cleanly. -/
theorem routing_iff (decryptionProvider : Option π) (events : List InputEvent) :
    ((∀ pre, pre <+: events → (state step (new decryptionProvider) pre).Routed) ∧
        ∀ pre event post, events = pre ++ event :: post →
          (state step (new decryptionProvider) pre).AssignmentsRouted event) ↔
      ∀ pre event post, events = pre ++ event :: post →
        (state step (new decryptionProvider) pre).HandlesFree event := by
  refine reachable_iff (P := Routed) ?_ (routed_new decryptionProvider) events
  intro _ event h
  exact step_routed_iff h event

/-! ### Swapped handles -/

def sampleInfo (rawSid : String) (h_sid : SID_PREFIX.toList <+: rawSid.toList) (pubHandle : Handle)
    (usesE2ee : Bool) : DataTrackInfo :=
  ⟨⟨rawSid, h_sid⟩, pubHandle, rawSid, usesE2ee⟩

def infoA : DataTrackInfo := sampleInfo "DTR_A" (by decide) .one false

def infoB : DataTrackInfo := sampleInfo "DTR_B" (by decide) .two false

def twoSubscriptions : List InputEvent :=
  [.sfuPublicationUpdates (.ofList [("alice", [infoA, infoB])]) .asListed .asListed,
    .subscribeRequest infoA.sid default 0, .subscribeRequest infoB.sid default 1,
    .sfuSubscriberHandles (.ofList [(.one, infoA.sid), (.two, infoB.sid)])]

def swappedHandles : InputEvent :=
  .sfuSubscriberHandles (.ofList [(.two, infoA.sid), (.one, infoB.sid)])

/-- **Swapped handles.** The first track gets handle 2 and an entry for it; the second one, whose
handle 2 was until now, takes that entry out on its turn. -/
theorem routing_lost_by_swap : let before := state step (new (none : Option Unit)) twoSubscriptions
    let after := state step (new (none : Option Unit)) (twoSubscriptions ++ [swappedHandles])
    before.Tracked infoA.sid ∧ after.activeHandle infoA.sid = some ⟨2, by decide⟩ ∧
      after.subHandles.lookup ⟨2, by decide⟩ = none ∧
      ¬ after.Routed ∧ ¬ before.AssignmentsRouted swappedHandles := by
  intro before after
  have htracked : before.Tracked infoA.sid := by decide +kernel
  have hactive : after.activeHandle infoA.sid = some ⟨2, by decide⟩ := by decide +kernel
  have hindex : after.subHandles.lookup ⟨2, by decide⟩ = none := by decide +kernel
  refine ⟨htracked, hactive, hindex, ?_, ?_⟩
  · -- a right index would lead handle 2 to the track that holds it
    intro hrouted
    rw [← hrouted, hindex] at hactive
    cases hactive
  · intro hall
    have he := hall _ rfl (by decide +kernel) (⟨2, by decide⟩, infoA.sid) (by decide +kernel)
      htracked
    cases he.symm.trans hindex

end Manager

end LiveKit.DataTrack.Remote
