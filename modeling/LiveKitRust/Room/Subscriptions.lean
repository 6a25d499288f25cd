import LiveKitRust.Room.Updates

/-!
# Subscriptions across a reconnection

When the signalling is back the client sends the server a list of exceptions: the tracks for which
the user's wish is not the default, with one flag for all of them. The server starts from the
default again and applies the exceptions (`UpdateSubscription.serverSide`).

* On a resume the flag is the opposite of the default, so a track is subscribed exactly if it is
  desired.
* On a restart the flag is always `true`. Where the default is to subscribe, a track that the user
  does not want is subscribed by being an exception.
* Before a restart has got that far the publications have been created again, each with the default
  (`restarted_untouched`): what the user had wished for is forgotten.
-/

open Machine List

namespace LiveKit.Room

/-- What the server sends to the client, after the exceptions have been applied to the default. -/
def UpdateSubscription.serverSide (self : UpdateSubscription) (autoSubscribe : Bool)
    (track : String) : Bool :=
  if track ∈ self.trackSids then self.subscribe else autoSubscribe

namespace RoomSession

variable {s : RoomSession} {ord : Orders}

def Known (self : RoomSession) (track : String) (publication : RemoteTrackPublication) : Prop :=
  ∃ identity participant, self.remoteParticipants.lookup identity = some participant ∧
    participant.publications.lookup track = some publication

variable {tr : String} {pub : RemoteTrackPublication}

lemma mem_exceptions : tr ∈ s.exceptions ord ↔
      ∃ pub, s.Known tr pub ∧ pub.isDesired ≠ s.autoSubscribe := by
  unfold exceptions
  simp only [mem_flatMap, mem_filterMap]
  constructor
  · rintro ⟨⟨ident, p⟩, hp, ⟨_, pub⟩, hpublication, hs⟩
    rw [HashOrder.mem_entries] at hp hpublication
    split at hs
    · cases hs
    · next hne =>
      cases hs
      exact ⟨pub, ⟨ident, p, hp, hpublication⟩, hne⟩
  · rintro ⟨pub, ⟨ident, p, hp, hpublication⟩, hne⟩
    exact ⟨(ident, p), HashOrder.mem_entries.mpr hp, (tr, pub),
      HashOrder.mem_entries.mpr hpublication, if_neg hne⟩

def Agreeing (self : RoomSession) : Prop :=
  ∀ track publication publication', self.Known track publication →
    self.Known track publication' → publication.isDesired = publication'.isDesired

lemma Agreeing.mem_exceptions_iff (h : s.Agreeing) (hkn : s.Known tr pub) :
    tr ∈ s.exceptions ord ↔ pub.isDesired ≠ s.autoSubscribe := by
  rw [mem_exceptions]
  constructor
  · rintro ⟨other, hot, _⟩
    rwa [h tr pub other hkn hot]
  · intro hne
    exact ⟨pub, hkn, hne⟩

lemma Agreeing.serverSide_eq (h : s.Agreeing) (hkn : s.Known tr pub)
    (ord : Orders) (restarting : Bool) :
    (s.syncSubscription ord restarting).serverSide s.autoSubscribe tr =
      if pub.isDesired = s.autoSubscribe then s.autoSubscribe
      else if restarting then true else !s.autoSubscribe := by
  unfold UpdateSubscription.serverSide syncSubscription
  by_cases heq : pub.isDesired = s.autoSubscribe
  · rw [if_neg fun hm => (h.mem_exceptions_iff hkn).mp hm heq, if_pos heq]
  · rw [if_pos ((h.mem_exceptions_iff hkn).mpr heq), if_neg heq]

lemma syncSubscription_right_iff (s : RoomSession) (ord : Orders) (restarting : Bool) :
    (∀ tr pub, s.Known tr pub → (s.syncSubscription ord restarting).serverSide s.autoSubscribe tr =
          pub.isDesired) ↔ s.Agreeing ∧ (restarting = true → s.autoSubscribe = true →
        ∀ tr pub, s.Known tr pub → pub.isDesired = true) := by
  constructor
  · intro hright
    have hagreeing : s.Agreeing := fun tr pub publication' h h' =>
      (hright tr pub h).symm.trans (hright tr publication' h')
    refine ⟨hagreeing, ?_⟩
    intro hrestarting hauto tr pub hkn
    have heq := hagreeing.serverSide_eq hkn ord restarting
    rw [hright tr pub hkn, hrestarting, hauto] at heq
    simpa using heq
  · rintro ⟨hagreeing, hdesired⟩ tr pub hkn
    rw [hagreeing.serverSide_eq hkn]
    have hwanted : restarting = true → s.autoSubscribe = true → pub.isDesired = true :=
      fun h h' => hdesired h h' tr pub hkn
    revert hwanted
    cases restarting <;> cases s.autoSubscribe <;> cases pub.isDesired <;> decide

/-! ### Restarts -/

/-- The participant goes by the default, and the user has not asked for anything else. -/
def Untouched (autoSubscribe : Bool) : RemoteParticipant → Prop :=
  Publishes autoSubscribe fun publication => publication.isDesired = autoSubscribe

variable (auto : Bool)

lemma kept_untouched : Kept auto (Untouched auto) :=
  kept_publishes (fun _ => rfl) fun _ _ h => h

/-- Every participant goes by the default of the room. -/
def Uniform (self : RoomSession) : Prop :=
  Everyone (fun participant => participant.autoSubscribe = self.autoSubscribe) self

lemma everyone_of_disconnected (entries)
    (hentries : ∀ entry ∈ entries, entry.2.autoSubscribe = auto)
    (hothers : ∀ ident p, s.remoteParticipants.lookup ident = some p →
        ident ∈ entries.map Prod.fst ∨ Untouched auto p) : Everyone (Untouched auto)
      (Machine.state (fun s entry => s.handleParticipantDisconnect ord entry.1 entry.2)
        s entries) := by
  induction entries generalizing s with
  | nil =>
    intro ident p hl
    exact (hothers ident p hl).resolve_left (not_mem_nil)
  | cons entry _ ih =>
    refine ih (fun other hm => hentries other (mem_cons_of_mem _ hm)) ?_
    intro ident p hl
    rw [lookup_handleParticipantDisconnect] at hl
    split at hl
    · cases hl
    · split at hl
      · -- the participant itself, without its tracks
        cases hl
        refine .inr (publishes_of_unpublished ?_ (entry.2.lookup_unpublishAll _))
        exact (entry.2.keeps_unpublishAll _).autoSubscribe.trans (hentries entry (.head _))
      · next hnot =>
        refine (hothers ident p hl).imp_left fun hm => ?_
        rcases mem_cons.mp hm with rfl | hm
        · have hkey : entry.1 ∈ s.remoteParticipants :=
            AList.lookup_isSome.mp (by rw [hl]; rfl)
          exact absurd ⟨rfl, hkey⟩ hnot
        · exact hm

lemma Uniform.disconnectAll (h : s.Uniform) (ord : Orders) :
    Everyone (Untouched s.autoSubscribe) (s.disconnectAll ord).1 := by
  refine everyone_of_disconnected s.autoSubscribe _ ?_ ?_
  · rintro ⟨ident, p⟩ hm
    exact h ident p (HashOrder.mem_entries.mp hm)
  · intro ident p hl
    refine .inl (mem_map.mpr ⟨(ident, p), ?_, rfl⟩)
    exact HashOrder.mem_entries.mpr hl

lemma step_restarting (ht : s.roomTask = true) : (s.step (.restarting ord)).1 =
      { (s.disconnectAll ord).1 with state := .reconnecting } := by
  have hstep : s.step (.restarting ord) = s.onEngineEvent (.restarting ord) := if_pos ht
  rw [hstep]
  exact updateConnectionState_fst ..

lemma step_signalRestarted (ht : s.roomTask = true) (ord p others) :
    ∃ renewed : RoomSession, renewed.remoteParticipants = s.remoteParticipants ∧
      renewed.autoSubscribe = s.autoSubscribe ∧ (s.step (.signalRestarted ord p others)).1 =
        { (renewed.handleParticipantUpdate ord others).1 with
          syncTasks := (renewed.handleParticipantUpdate ord others).1.syncTasks ++ [true] } := by
  have hstep : s.step (.signalRestarted ord p others) =
      s.onEngineEvent (.signalRestarted ord p others) := if_pos ht
  rw [hstep]
  cases p with
  | none => exact ⟨s, rfl, rfl, rfl⟩
  | some info => exact ⟨(s.updateLocal info).1, rfl, rfl, rfl⟩

/-- **A restart forgets the user's wishes.** Once the signalling is back, no publication is
there for which the user has asked for anything, and the sync state is to be sent. -/
theorem restarted_untouched (h : s.Uniform) (ht : s.roomTask = true)
    (ord orders' : Orders) (p : Option ParticipantInfo) (others : List ParticipantUpdate) :
    let after := Machine.state step s [.restarting ord, .signalRestarted orders' p others]
    after.autoSubscribe = s.autoSubscribe ∧ true ∈ after.syncTasks ∧
      Everyone (Untouched s.autoSubscribe) after := by
  have hremoved := h.disconnectAll ord
  let removed := (s.step (.restarting ord)).1
  have heq : removed = { (s.disconnectAll ord).1 with state := .reconnecting } :=
    step_restarting ht
  have hauto : removed.autoSubscribe = s.autoSubscribe := by
    rw [heq]
    exact (Frame.disconnectAll s ord).autoSubscribe
  have heveryone : Everyone (Untouched s.autoSubscribe) removed := by
    rw [heq]
    exact hremoved
  have hrun : removed.roomTask = true := by
    rw [heq]
    exact (Frame.disconnectAll s ord).roomTask.trans ht
  obtain ⟨renewed, hparticipants, hsm, hst⟩ :=
    step_signalRestarted hrun orders' p others
  have hrenewed : Everyone (Untouched s.autoSubscribe) renewed := by
    unfold Everyone
    rw [hparticipants]
    exact heveryone
  have kept : Kept renewed.autoSubscribe (Untouched s.autoSubscribe) := by
    rw [hsm, hauto]
    exact kept_untouched _
  intro after
  have ha : after = _ := hst
  rw [ha]
  refine ⟨?_, mem_append_right _ (mem_singleton_self _),
    hrenewed.handleParticipantUpdate kept others⟩
  exact (Frame.handleParticipantUpdate renewed orders' others).autoSubscribe.trans (hsm.trans hauto)

/-! ### The default is the same for everyone, in every run -/

lemma kept_autoSubscribe : Kept auto (fun p => p.autoSubscribe = auto) where
  new _ := rfl
  updateInfo p order u h := (p.keeps_updateInfo u order).autoSubscribe.trans h
  unpublishAll p order h := (p.keeps_unpublishAll order).autoSubscribe.trans h

namespace Uniform

section

variable (h : s.Uniform)
include h

lemma handleParticipantUpdate (ord us) : (s.handleParticipantUpdate ord us).1.Uniform := by
  unfold Uniform
  rw [(Frame.handleParticipantUpdate s ord us).autoSubscribe]
  exact Everyone.handleParticipantUpdate (kept_autoSubscribe _) h us

lemma updateConnectionState (state) : (s.updateConnectionState state).1.Uniform := by
  rw [updateConnectionState_fst]
  exact h

lemma updateLocal (info) : (s.updateLocal info).1.Uniform := h

lemma setParticipant {key p} (hauto : p.autoSubscribe = s.autoSubscribe) :
    (s.setParticipant key p).Uniform :=
  Everyone.setParticipant h hauto

lemma removed : (s.disconnectAll ord).1.Uniform := by
  unfold Uniform
  rw [(Frame.disconnectAll s ord).autoSubscribe]
  intro ident p hl
  exact (h.disconnectAll ord ident p hl).1

variable (i : Input)

lemma onEngineEvent : (s.onEngineEvent i).1.Uniform := by
  cases i with
  | participantUpdate ord us => exact h.handleParticipantUpdate ord us
  | roomMoved ord p others | signalRestarted ord p others =>
    cases p with
    | none => exact h.handleParticipantUpdate ord others
    | some info => exact (h.updateLocal info).handleParticipantUpdate ord others
  | restarting => exact h.removed.updateConnectionState _
  | resuming | resumed | disconnected => exact h.updateConnectionState _
  | mediaTrack ord sid =>
    cases he : s.getParticipantBySid ord sid with
    | some =>
      simp only [RoomSession.onEngineEvent, he]
      exact h.setParticipant
        ((RemoteParticipant.keeps_addSubscribedMediaTrack ..).autoSubscribe.trans
        (h _ _ (getParticipantBySid_eq_some he).1))
    | none =>
      simp only [RoomSession.onEngineEvent, he]
      exact h
  | _ => exact h

lemma setSubscribed (ident tr : String) (subd : Bool) :
    (s.setSubscribed ident tr subd).1.Uniform := by
  unfold RoomSession.setSubscribed
  split
  · next _ hl =>
    exact h.setParticipant ((RemoteParticipant.keeps_setSubscribed ..).autoSubscribe.trans
      (h _ _ hl))
  · exact h

lemma step : (s.step i).1.Uniform := by
  have hmv := s.step_move i
  generalize s.step i = res at hmv
  cases hmv with
  | engine => exact h.onEngineEvent i
  | restartTask =>
    have he : Uniform { s with restartTasks := s.restartTasks - 1 } := h
    exact he.updateConnectionState _
  | setSubscribed ident tr subd => exact h.setSubscribed ident tr subd
  | _ => exact h

end

end Uniform

lemma uniform_connect (ord auto lp others) : (connect ord auto lp others).1.Uniform := by
  refine foldlRecOn
    (motive := fun room : RoomSession => room.autoSubscribe = auto ∧ room.Uniform)
    others _ ⟨rfl, fun _ _ hl => absurd hl (by simp)⟩ ?_ |>.2
  rintro _ ⟨hauto, huniform⟩ u -
  exact ⟨hauto, Everyone.joinParticipant u (kept_autoSubscribe _) huniform⟩

lemma uniform_state (h : s.Uniform) (is) : (Machine.state RoomSession.step s is).Uniform :=
  state_invariant h is fun _ i _ h => h.step i

/-! ### What is preserved -/

lemma restarted_serverSide (h : s.Uniform) (ht : s.roomTask = true)
    (ord orders' orders'' p others) :
    ∃ u, .syncState u ∈ outputs step s [.restarting ord, .signalRestarted orders' p others,
          .syncTask orders'' true true] ∧
      ∀ tr, u.serverSide s.autoSubscribe tr = s.autoSubscribe := by
  obtain ⟨hauto, hspawned, huntouched⟩ :=
    restarted_untouched h ht ord orders' p others
  let after := Machine.state step s [.restarting ord, .signalRestarted orders' p others]
  refine ⟨after.syncSubscription orders'' true, ?_, ?_⟩
  · refine mem_outputs.mpr ⟨[_, _], _, [], rfl, ?_⟩
    have hstep : after.step (.syncTask orders'' true true) =
        ({ after with syncTasks := after.syncTasks.erase true },
          [.syncState (after.syncSubscription orders'' true)]) := if_pos hspawned
    exact hstep ▸ mem_singleton_self _
  · intro tr
    refine if_neg fun hm => ?_
    obtain ⟨pub, ⟨ident, p, hp, hpublication⟩, hne⟩ :=
      mem_exceptions.mp hm
    refine hne ?_
    rw [hauto]
    exact (huntouched ident p hp).2 tr pub hpublication

/-- **Subscriptions across reconnections.** The server applies the sync state to the default.
What it comes to is, for every publication of the room, what the user has wished for, if and
only if publications of one track have one wish and, in a restart with the default to
subscribe, every publication is wished for. And after a restart it is what the user had
wished for before, if and only if that was the default, for every publication. -/
theorem subscriptions_preserved_iff (room : RoomSession) (orders : Orders) (restarting : Bool)
    (h_uniform : room.Uniform) (h_task : room.roomTask = true) (orders' orders'' : Orders)
    (participant : Option ParticipantInfo) (others : List ParticipantUpdate) :
    ((∀ track publication, room.Known track publication →
        (room.syncSubscription orders restarting).serverSide room.autoSubscribe track =
          publication.isDesired) ↔ room.Agreeing ∧ (restarting = true → room.autoSubscribe = true →
        ∀ track publication, room.Known track publication → publication.isDesired = true)) ∧
    ∃ update, .syncState update ∈ outputs step room
        [.restarting orders', .signalRestarted orders'' participant others,
          .syncTask orders true true] ∧ ((∀ track publication, room.Known track publication →
          update.serverSide room.autoSubscribe track = publication.isDesired) ↔
        ∀ track publication, room.Known track publication →
          publication.isDesired = room.autoSubscribe) := by
  refine ⟨room.syncSubscription_right_iff orders restarting, ?_⟩
  obtain ⟨update, hsent, hdefault⟩ :=
    restarted_serverSide h_uniform h_task orders' orders'' orders participant others
  refine ⟨update, hsent, ?_⟩
  simp only [hdefault]
  exact forall₃_congr fun _ _ _ => eq_comm

def publisher : ParticipantUpdate :=
  ⟨⟨"PA_1", "alice", "", .active, "", ∅, .unknownReason, none⟩, [⟨"TR_1", "camera", false⟩]⟩

def localInfo : ParticipantInfo := ⟨"PA_local", "local", "", .active, "", ∅, .unknownReason, none⟩

def unsubscribed : RoomSession :=
  Machine.state step (connect .asListed true localInfo [publisher]).1
    [.setSubscribed "alice" "TR_1" false]

theorem subscriptions_preserved_iff_unsubscribed : unsubscribed.roomTask = true ∧
      ((∀ track publication, unsubscribed.Known track publication →
          (unsubscribed.syncSubscription .asListed false).serverSide unsubscribed.autoSubscribe
            track = publication.isDesired) ↔
        unsubscribed.Agreeing ∧ (false = true → unsubscribed.autoSubscribe = true →
          ∀ track publication, unsubscribed.Known track publication →
            publication.isDesired = true)) :=
  ⟨rfl, (subscriptions_preserved_iff unsubscribed .asListed false
    (uniform_state (uniform_connect _ _ _ _) _) rfl .asListed .asListed none []).1⟩

/-- After a restart the user gets the track again. They get it too if they say, once the
participants are back, that they do not want it. -/
theorem unsubscribed_restored :
    ((unsubscribed.remoteParticipants.lookup "alice").bind fun participant =>
        (participant.publications.lookup "TR_1").map fun publication => publication.isDesired) =
      some false ∧
    (outputs step unsubscribed [.restarting .asListed, .signalRestarted .asListed none [publisher],
          .syncTask .asListed true true]).getLast? = some (.syncState ⟨[], true, []⟩) ∧
    UpdateSubscription.serverSide ⟨[], true, []⟩ true "TR_1" = true ∧
    (outputs step unsubscribed [.restarting .asListed, .signalRestarted .asListed none [publisher],
          .setSubscribed "alice" "TR_1" false, .syncTask .asListed true true]).getLast? =
      some (.syncState ⟨["TR_1"], true, []⟩) ∧
    UpdateSubscription.serverSide ⟨["TR_1"], true, []⟩ true "TR_1" = true := by
  decide +kernel

end RoomSession

end LiveKit.Room
