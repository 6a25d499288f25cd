import LiveKitRust.DataTrack.Remote.Manager

/-!
# What the manager can do

Every handler is a chain of a few kinds of transitions, each touching one descriptor: `Request`
lists those a subscriber or a track task asks for, `Assignment` those a subscriber handle from the
SFU leads to, and `Move` those of the other events. `step_chain` carries what each keeps to whole
events.
-/

open Machine

namespace LiveKit.DataTrack.Remote

variable {π : Type}

def Descriptor.Tracked (self : Descriptor) : Prop := self.subscription ≠ .none
  deriving Decidable

def Descriptor.activeHandle (self : Descriptor) : Option Handle :=
  match self.subscription with
  | .active subHandle _ => some subHandle
  | _ => none

/-- The index after the subscription with the given handle has ended. -/
def dropRoute (handle : Option Handle) (subHandles : Map Handle DataTrackSid) :
    Map Handle DataTrackSid :=
  match handle with
  | some subHandle => subHandles.erase subHandle
  | none => subHandles

/-- The index after the descriptor with the given handle has moved to another
SID. -/
def moveRoute (handle : Option Handle) (sid : DataTrackSid)
    (subHandles : Map Handle DataTrackSid) : Map Handle DataTrackSid :=
  match handle with
  | some subHandle => subHandles.insert subHandle sid
  | none => subHandles

inductive Request : Manager π → List (Effect π) → Manager π → Prop
  | refuse {self resultTx error} : Request self [.result resultTx (.error error)] self
  | request {self sid descriptor resultTx bufferSize}
      (h_look : self.descriptors.lookup sid = some descriptor)
      (h_sub : descriptor.subscription = .none) :
      Request self [.output (.sfuUpdateSubscription sid true)] (self.setDescriptor sid
          { descriptor with subscription := .pending [resultTx] bufferSize })
  | join {self sid descriptor resultTxs resultTx bufferSize}
      (h_look : self.descriptors.lookup sid = some descriptor)
      (h_sub : descriptor.subscription = .pending resultTxs bufferSize) :
      Request self [] (self.setDescriptor sid
        { descriptor with subscription := .pending (resultTxs ++ [resultTx]) bufferSize })
  /-- A request for an active track is answered at once. -/
  | attach {self sid descriptor resultTx subHandle task}
      (h_look : self.descriptors.lookup sid = some descriptor)
      (h_sub : descriptor.subscription = .active subHandle task) :
      Request self [.result resultTx (.ok task)] self
  | unsubscribe {self sid descriptor subHandle task}
      (h_look : self.descriptors.lookup sid = some descriptor)
      (h_sub : descriptor.subscription = .active subHandle task) :
      Request self [.output (.sfuUpdateSubscription sid false)]
        { self.setDescriptor sid { descriptor with subscription := .none } with
          subHandles := self.subHandles.erase subHandle }

/-- What the other events lead to, those that assign handles apart. -/
inductive Move : Manager π → List (Effect π) → Manager π → Prop
  | publish {self publisherIdentity info maxPartialFrames}
      (h_look : self.descriptors.lookup info.sid = none) :
      Move self [.output (.trackPublished ⟨self.nextTrack, info, publisherIdentity⟩)]
        { self.setDescriptor info.sid
            ⟨self.nextTrack, info, publisherIdentity, .none, maxPartialFrames⟩ with
          nextTrack := self.nextTrack + 1 }
  | reassign {self oldSid newSid descriptor}
      (h_look : self.descriptors.lookup oldSid = some descriptor)
      (h_new : self.descriptors.lookup newSid = none) :
      Move self (.sidWritten descriptor.track newSid ::
          Manager.resubscribe newSid descriptor.subscription)
        { self with
          descriptors := (self.descriptors.erase oldSid).insert newSid
            { descriptor with info := { descriptor.info with sid := newSid } }
          subHandles := moveRoute descriptor.activeHandle newSid self.subHandles }
  | unpublish {self sid descriptor} (h_look : self.descriptors.lookup sid = some descriptor) :
      Move self [.published descriptor.track false, .output (.trackUnpublished sid)] { self with
          descriptors := self.descriptors.erase sid
          subHandles := dropRoute descriptor.activeHandle self.subHandles }
  | configure {self sid descriptor maxPartialFrames}
      (h_look : self.descriptors.lookup sid = some descriptor) :
      Move self [] (self.setDescriptor sid { descriptor with maxPartialFrames := maxPartialFrames })
  | deliver {self packet task} (h_route : self.route packet.header.trackHandle = some task) :
      Move self [.packet task packet] self
  /-- The SFU is told again that a track is subscribed to. -/
  | resend {self sid descriptor} (h_look : self.descriptors.lookup sid = some descriptor)
      (h_sub : descriptor.Tracked) : Move self [.output (.sfuUpdateSubscription sid true)] self
  | shutdown {self} {order : HashOrder DataTrackSid} :
      Move self ((order.entries self.descriptors).flatMap fun e => Manager.shutdownEffects e.2)
        { self with descriptors := ∅, subHandles := ∅, running := false }

inductive Assignment : Manager π → List (Effect π) → Manager π → Prop
  /-- An active subscription gets another handle. -/
  | rehandle {self sid descriptor subHandle assignedHandle task}
      (h_look : self.descriptors.lookup sid = some descriptor)
      (h_sub : descriptor.subscription = .active subHandle task) :
      Assignment self [] { self.setDescriptor sid
            { descriptor with subscription := .active assignedHandle task } with
          subHandles := (self.subHandles.erase subHandle).insert assignedHandle sid }
  /-- A pending subscription becomes active, with a new task. -/
  | activate {self sid descriptor resultTxs bufferSize assignedHandle}
      (h_look : self.descriptors.lookup sid = some descriptor)
      (h_sub : descriptor.subscription = .pending resultTxs bufferSize) :
      Assignment self
        (.spawned self.nextTask descriptor.track ⟨descriptor.info, descriptor.publisherIdentity,
            if descriptor.info.usesE2ee then self.decryptionProvider else none⟩ ::
          resultTxs.map fun resultTx => .result resultTx (.ok self.nextTask))
        { self.setDescriptor sid
            { descriptor with subscription := .active assignedHandle self.nextTask } with
          subHandles := self.subHandles.insert assignedHandle sid
          nextTask := self.nextTask + 1 }

def InputEvent.transition : InputEvent → Manager π → List (Effect π) → Manager π → Prop
  | .subscribeRequest .. | .unsubscribeRequest _ => Request
  | .sfuSubscriberHandles _ => Assignment
  | .sfuPublicationUpdates .. | .setPipelineOptions .. | .packetReceived _ |
    .resendSubscriptionUpdates _ | .shutdown _ => Move

lemma InputEvent.transition_of_kinds {P : Manager π → List (Effect π) → Manager π → Prop}
    (hreq : ∀ {s os s'}, Request s os s' → P s os s') (hmv : ∀ {s os s'}, Move s os s' → P s os s')
    (hassign : ∀ {s os s'}, Assignment s os s' → P s os s') (ev : InputEvent) {s s' os}
    (h : ev.transition s os s') : P s os s' := by
  cases ev with
  | subscribeRequest | unsubscribeRequest => exact hreq h
  | sfuSubscriberHandles => exact hassign h
  | _ => exact hmv h

namespace Manager

lemma lookup_setDescriptor (s : Manager π) (sid sid') (d : Descriptor) :
    (s.setDescriptor sid d).descriptors.lookup sid' =
      if sid' = sid then some d else s.descriptors.lookup sid' :=
  AList.lookup_insert_ite ..

variable {d : Descriptor} {s : Manager π} {asg : Handle × DataTrackSid}

lemma mem_shutdownEffects {eff : Effect π} (h : eff ∈ shutdownEffects d) :
    eff = .published d.track false ∨ ∃ tx, eff = .result tx (.error .disconnected) := by
  rcases List.mem_cons.mp h with rfl | h
  · exact .inl rfl
  · split at h
    · obtain ⟨tx, -, rfl⟩ := List.mem_map.mp h
      exact .inr ⟨tx, rfl⟩
    · cases h

/-! ### The handlers as chains of moves -/

lemma handleSidReassigned_eq_some {order ident info res}
    (h : s.handleSidReassigned order ident info = some res) :
    ∃ oldSid d, s.descriptors.lookup oldSid = some d ∧ d.publisherIdentity = ident ∧
      d.info.pubHandle = info.pubHandle ∧ d.info.name = info.name ∧
      d.info.usesE2ee = info.usesE2ee ∧
      res = ({ s with
          descriptors := (s.descriptors.erase oldSid).insert info.sid
            { d with info := { d.info with sid := info.sid } }
          subHandles := moveRoute d.activeHandle info.sid s.subHandles },
        .sidWritten d.track info.sid :: resubscribe info.sid d.subscription) := by
  unfold handleSidReassigned at h
  split at h
  next => cases h
  next oldSid d hfind =>
    -- the search goes through the descriptors in some order; all that counts is what it found
    have hl := HashOrder.mem_entries.mp (List.mem_of_find?_eq_some hfind)
    have hmatch := List.find?_some hfind
    rw [decide_eq_true_eq] at hmatch
    obtain ⟨hpub, hh⟩ := hmatch
    split at h
    next => cases h
    next hinfo =>
      -- name and encryption must be unchanged, or the track is taken for another
      rw [not_or, not_not, not_not] at hinfo
      refine ⟨oldSid, d, hl, hpub, hh, hinfo.1, hinfo.2, ?_⟩
      rw [← Option.some.inj h, Descriptor.activeHandle]
      cases d.subscription <;> rfl

lemma register_active {subHandle task} (hl : s.descriptors.lookup asg.2 = some d)
    (hsub : d.subscription = .active subHandle task) :
    s.registerSubscriberHandle asg = ({ s.setDescriptor asg.2
          { d with subscription := .active asg.1 task } with
          subHandles := (s.subHandles.erase subHandle).insert asg.1 asg.2 }, []) := by
  simp only [registerSubscriberHandle, hl, hsub]

lemma register_pending {txs bufferSize} (hl : s.descriptors.lookup asg.2 = some d)
    (hsub : d.subscription = .pending txs bufferSize) :
    s.registerSubscriberHandle asg = ({ s.setDescriptor asg.2
          { d with subscription := .active asg.1 s.nextTask } with
          subHandles := s.subHandles.insert asg.1 asg.2
          nextTask := s.nextTask + 1 }, .spawned s.nextTask d.track ⟨d.info, d.publisherIdentity,
            if d.info.usesE2ee then s.decryptionProvider else none⟩ ::
          txs.map fun tx => .result tx (.ok s.nextTask)) := by
  simp only [registerSubscriberHandle, hl, hsub]

lemma register_ignored (h : ∀ d, s.descriptors.lookup asg.2 = some d → d.subscription = .none) :
    s.registerSubscriberHandle asg = (s, []) := by
  cases hl : s.descriptors.lookup asg.2 with
  | none => simp only [registerSubscriberHandle, hl]
  | some d => simp only [registerSubscriberHandle, hl, h d hl]

variable (s)

lemma onSubscribeRequest_requests (sid opts tx) :
    Star Request s (s.onSubscribeRequest sid opts tx).2 (s.onSubscribeRequest sid opts tx).1 := by
  unfold onSubscribeRequest
  split
  next => exact .single .refuse
  next _ hl =>
    split
    next hsub => exact .single (.request hl hsub)
    next _ _ hsub => exact .single (.join hl hsub)
    next _ _ hsub => exact .single (.attach hl hsub)

lemma onUnsubscribeRequest_requests (sid) :
    Star Request s (s.onUnsubscribeRequest sid).2 (s.onUnsubscribeRequest sid).1 := by
  unfold onUnsubscribeRequest
  split
  next => exact .refl s
  next _ hl =>
    split
    next _ _ hsub => exact .single (.unsubscribe hl hsub)
    next => exact .refl s

lemma handleTrackPublished_moves (ident info) :
    Star Move s (s.handleTrackPublished ident info).2 (s.handleTrackPublished ident info).1 := by
  unfold handleTrackPublished
  cases hl : s.descriptors.lookup info.sid with
  | none => exact .single (.publish hl)
  | some => exact .refl s

lemma detectPublished_moves (order) (s : Manager π) (tr) :
    Star Move s (detectPublished order s tr).2 (detectPublished order s tr).1 := by
  unfold detectPublished
  split
  · exact .refl s
  next hn =>
    have hnew : s.descriptors.lookup tr.2.sid = none := by simpa using hn
    split
    next _ hres =>
      obtain ⟨_, _, hl, -, -, -, -, rfl⟩ := handleSidReassigned_eq_some hres
      exact .single (.reassign hl hnew)
    next => exact s.handleTrackPublished_moves tr.1 tr.2

lemma handleTrackUnpublished_moves (sid) :
    Star Move s (s.handleTrackUnpublished sid).2 (s.handleTrackUnpublished sid).1 := by
  unfold handleTrackUnpublished
  split
  next => exact .refl s
  next d hl =>
    have hmv := Move.unpublish hl
    rw [Descriptor.activeHandle] at hmv
    cases hsub : d.subscription <;> rw [hsub] at hmv <;> exact .single hmv

lemma onSfuPublicationUpdates_moves (us pubs order) :
    Star Move s (s.onSfuPublicationUpdates us pubs order).2
      (s.onSfuPublicationUpdates us pubs order).1 := by
  refine Star.trans (Star.run (detectPublished_moves order) s (tracksOf us)) ?_
  refine Star.run (fun s pub => ?_) _ (participantToSids us pubs)
  exact Star.run handleTrackUnpublished_moves s _

lemma onPacketReceived_moves (bytes : Bytes) :
    Star Move s (s.onPacketReceived bytes).2 (s.onPacketReceived bytes).1 := by
  unfold onPacketReceived
  split
  next _ _ =>
    split
    next _ hroute => exact .single (.deliver hroute)
    next => exact .refl s
  next => exact .refl s

lemma onSetPipelineOptions_moves (sid opts) :
    Star Move s (s.onSetPipelineOptions sid opts).2 (s.onSetPipelineOptions sid opts).1 := by
  unfold onSetPipelineOptions
  cases hl : s.descriptors.lookup sid with
  | none => exact .refl s
  | some => exact .single (.configure hl)

lemma onResendSubscriptionUpdates_moves (order) :
    Star Move s (s.onResendSubscriptionUpdates order).2
      (s.onResendSubscriptionUpdates order).1 := by
  refine Star.flatMap fun e hm => ?_
  have hl := HashOrder.mem_entries.mp hm
  cases hsub : e.2.subscription with
  | none => exact .refl s
  | pending | active =>
    exact .single (.resend hl (by simp [Descriptor.Tracked, hsub]))

lemma registerSubscriberHandle_cases (asg) :
    s.registerSubscriberHandle asg = (s, []) ∨ Assignment s (s.registerSubscriberHandle asg).2
        (s.registerSubscriberHandle asg).1 := by
  cases hl : s.descriptors.lookup asg.2 with
  | none => exact .inl (register_ignored (by simp [hl]))
  | some d =>
    cases hsub : d.subscription with
    | none => exact .inl (register_ignored (by simp [hl, hsub]))
    | active =>
      -- an active subscription changes its handle, a pending one gets its first
      rw [register_active hl hsub]
      exact .inr (.rehandle hl hsub)
    | pending =>
      rw [register_pending hl hsub]
      exact .inr (.activate hl hsub)

lemma registerSubscriberHandle_assignments (asg) :
    Star Assignment s (s.registerSubscriberHandle asg).2 (s.registerSubscriberHandle asg).1 := by
  rcases s.registerSubscriberHandle_cases asg with hsm | hassign
  · rw [hsm]
    exact .refl s
  · exact .single hassign

/-! ### Events as chains of moves -/

/-- **Events** are chains of transitions of their kind. -/
theorem step_chain (ev : InputEvent) :
    Star ev.transition s (s.step ev).2 (s.step ev).1 := by
  unfold step
  split
  next =>
    cases ev with
    | subscribeRequest sid opts tx =>
      exact s.onSubscribeRequest_requests sid opts tx
    | unsubscribeRequest sid => exact s.onUnsubscribeRequest_requests sid
    | sfuPublicationUpdates us pubs order =>
      exact s.onSfuPublicationUpdates_moves us pubs order
    | sfuSubscriberHandles mapping =>
      -- one transition for each pair of the mapping
      exact Star.run registerSubscriberHandle_assignments s (assignments mapping)
    | setPipelineOptions sid opts => exact s.onSetPipelineOptions_moves sid opts
    | packetReceived bytes => exact s.onPacketReceived_moves bytes
    | resendSubscriptionUpdates order => exact s.onResendSubscriptionUpdates_moves order
    | shutdown => exact .single .shutdown
  -- after a shutdown events are dropped
  next => exact .refl s

/-- **Runs.** What transitions of every kind carry over holds at the end of every run. -/
theorem run_of_kinds {P : List (Effect π) → Manager π → Prop} {prov : Option π}
    (hinit : P [] (new prov))
    (hreq : ∀ {log s os s'}, Request s os s' → P log s → P (log ++ os) s')
    (hmv : ∀ {log s os s'}, Move s os s' → P log s → P (log ++ os) s')
    (hassign : ∀ {log s os s'}, Assignment s os s' → P log s → P (log ++ os) s')
    (evs : List InputEvent) : P (outputs step (new prov) evs) (state step (new prov) evs) := by
  refine run_induction hinit (fun log self ev h => ?_) evs
  -- an event is a chain of transitions, each of which extends the log
  refine (self.step_chain ev).log_induction h fun log s os s' hs htr => ?_
  exact ev.transition_of_kinds (P := fun s os s' => P log s → P (log ++ os) s') hreq hmv hassign
    htr hs

end Manager

end LiveKit.DataTrack.Remote
