import LiveKitRust.Room.Session
import LiveKitRust.Room.Tracks

/-!
# Updates of the room

What a step of the room can be (`RoomSession.Move`), and what the handlers do to the map of
the participants. A property of participants
that a new one has, and that an update and the loss of all tracks keep (`Kept`), holds of
everyone in the room after an update if it did before (`Everyone.handleParticipantUpdate`).
-/

open Machine List

namespace LiveKit.Room

def Input.isEngine : Input → Bool
  | .syncTask _ _ _ => false
  | .restartTask => false
  | .setSubscribed _ _ _ => false
  | .close => false
  | .closed => false
  | _ => true

namespace RoomSession

variable {s : RoomSession} {ord : Orders} {key : String} {part : RemoteParticipant}

lemma lookup_setParticipant (key part ident) :
    (s.setParticipant key part).remoteParticipants.lookup ident =
      if ident = key then some part else s.remoteParticipants.lookup ident :=
  AList.lookup_insert_ite ..

lemma lookup_joinParticipant (ord u ident) :
    (s.joinParticipant ord u).1.remoteParticipants.lookup ident =
      if ident = u.info.identity then
        some ((RemoteParticipant.new u.info s.autoSubscribe).updateInfo
          (ord.tracks u.info.identity) u).1
      else s.remoteParticipants.lookup ident := by
  unfold joinParticipant createParticipant
  rw [lookup_setParticipant, lookup_setParticipant]
  split <;> rfl

lemma lookup_handleParticipantDisconnect (ord key part ident) :
    (s.handleParticipantDisconnect ord key part).1.remoteParticipants.lookup ident =
      if ident = part.info.identity then none
      else if ident = key ∧ key ∈ s.remoteParticipants then
        some (part.unpublishAll (ord.tracks key)).1
      else s.remoteParticipants.lookup ident := by
  refine (AList.lookup_erase_ite ..).trans ?_
  rw [AList.lookup_replace_ite]

variable {sid : String} {entry : String × RemoteParticipant} {u : ParticipantUpdate}
  {autoSubscribe : Bool} {Q : RemoteTrackPublication → Prop}

lemma getParticipantBySid_eq_some (h : s.getParticipantBySid ord sid = some entry) :
    s.remoteParticipants.lookup entry.1 = some entry.2 ∧ entry.2.info.sid = sid :=
  ⟨HashOrder.mem_entries.mp (mem_of_find?_eq_some h), by simpa using find?_some h⟩

lemma getParticipantBySid_eq_none (h : s.getParticipantBySid ord sid = none) {ident}
    (hl : s.remoteParticipants.lookup ident = some part) : part.info.sid ≠ sid := by
  have he := find?_eq_none.mp h (ident, part) (HashOrder.mem_entries.mpr hl)
  simpa using he

lemma updateRemote_of_some (h : (s.disconnectOld ord u.info).1.getParticipantBySid ord u.info.sid =
      some entry) : s.updateRemote ord u =
      (((s.disconnectOld ord u.info).1.updateKnown ord u entry.1 entry.2).1,
        (s.disconnectOld ord u.info).2 ++
          ((s.disconnectOld ord u.info).1.updateKnown ord u entry.1 entry.2).2) := by
  simp only [updateRemote, h]

lemma updateRemote_of_none
    (h : (s.disconnectOld ord u.info).1.getParticipantBySid ord u.info.sid = none) :
    s.updateRemote ord u = (((s.disconnectOld ord u.info).1.updateUnknown ord u).1,
        (s.disconnectOld ord u.info).2 ++
          ((s.disconnectOld ord u.info).1.updateUnknown ord u).2) := by
  simp only [updateRemote, h]

lemma updateConnectionState_fst (s : RoomSession) (state : ConnectionState) :
    (s.updateConnectionState state).1 = { s with state := state } := by
  unfold updateConnectionState
  split
  · next heq => rw [← heq]
  · rfl

/-! ### Steps -/

/-- What a step does, and what it takes to be done. -/
inductive Move (self : RoomSession) : Input → RoomSession × List Output → Prop
  | idle (input : Input) (h_idle : self.roomTask = false ∨ input.isEngine = false) :
      Move self input (self, [])
  | engine (input : Input) (h_task : self.roomTask = true) :
      Move self input (self.onEngineEvent input)
  | syncTask (orders : Orders) (restarting descriptions : Bool)
      (h_spawned : restarting ∈ self.syncTasks) :
      Move self (.syncTask orders restarting descriptions)
        ({ self with syncTasks := self.syncTasks.erase restarting },
          if descriptions then [.syncState (self.syncSubscription orders restarting)] else [])
  | restartTask (h_spawned : self.restartTasks ≠ 0) :
      Move self .restartTask (dispatch self.finishRestart)
  | setSubscribed (identity track : String) (subscribed : Bool) :
      Move self (.setSubscribed identity track subscribed)
        (self.setSubscribed identity track subscribed)
  | close : Move self .close ({ self with handle := false }, [])
  | closed : Move self .closed ({ self with roomTask := false }, [])

lemma step_move (s i) : Move s i (s.step i) := by
  have hengine : ∀ i, Move s i (if s.roomTask then s.onEngineEvent i else (s, [])) := by
    intro i
    split
    · next ht => exact .engine i ht
    · next ht => exact .idle i (.inl (by simpa using ht))
  cases i with
  | syncTask ord restarting descriptions =>
    show Move s _ (if restarting ∈ s.syncTasks then _ else _)
    split
    · next hspawned => exact .syncTask ord restarting descriptions hspawned
    · exact .idle _ (.inr rfl)
  | restartTask =>
    show Move s _ (if s.restartTasks = 0 then _ else _)
    split
    · exact .idle _ (.inr rfl)
    · next hspawned => exact .restartTask hspawned
  | setSubscribed ident tr subd => exact .setSubscribed ident tr subd
  | close => exact .close
  | closed =>
    show Move s _ (if s.handle then _ else _)
    split
    · exact .idle _ (.inr rfl)
    · exact .closed
  | _ => exact hengine _

/-! ### A property of everyone in the room -/

def Everyone (P : RemoteParticipant → Prop) (room : RoomSession) : Prop :=
  ∀ identity participant, room.remoteParticipants.lookup identity = some participant → P participant

/-- A new participant has the property, and it survives what the server says. -/
structure Kept (autoSubscribe : Bool) (P : RemoteParticipant → Prop) : Prop where
  new : ∀ info, P (.new info autoSubscribe)
  updateInfo : ∀ participant order update, P participant → P (participant.updateInfo order update).1
  unpublishAll : ∀ participant order, P participant → P (participant.unpublishAll order).1

/-- The participant goes by the default, and its publications have the property. -/
def Publishes (autoSubscribe : Bool) (Q : RemoteTrackPublication → Prop)
    (participant : RemoteParticipant) : Prop :=
  participant.autoSubscribe = autoSubscribe ∧
    ∀ track publication, participant.publications.lookup track = some publication → Q publication

lemma publishes_of_unpublished (hauto : part.autoSubscribe = autoSubscribe)
    (hn : ∀ tr, part.publications.lookup tr = none) : Publishes autoSubscribe Q part := by
  refine ⟨hauto, fun tr pub hl => ?_⟩
  rw [hn] at hl
  cases hl

lemma kept_publishes (hnew : ∀ tr, Q (.new tr autoSubscribe))
    (hinfo : ∀ pub tr, Q pub → Q { pub with info := tr }) :
    Kept autoSubscribe (Publishes autoSubscribe Q) where
  new info := publishes_of_unpublished rfl fun _ => rfl
  updateInfo part order u h := by
    refine ⟨(part.keeps_updateInfo u order).autoSubscribe.trans h.1, ?_⟩
    intro tr _ hl
    rw [part.lookup_updateInfo, h.1] at hl
    obtain ⟨listed, -, rfl⟩ := Option.map_eq_some_iff.mp hl
    cases hold : part.publications.lookup tr with
    | none => exact hnew listed
    | some old => exact hinfo old listed (h.2 tr old hold)
  unpublishAll part order h :=
    publishes_of_unpublished ((part.keeps_unpublishAll order).autoSubscribe.trans h.1)
      (part.lookup_unpublishAll order)

namespace Everyone

variable {P : RemoteParticipant → Prop}

lemma setParticipant (h : Everyone P s) (hnew : P part) :
    Everyone P (s.setParticipant key part) := by
  intro ident other hl
  rw [lookup_setParticipant] at hl
  split at hl
  · cases hl
    exact hnew
  · exact h ident other hl

lemma handleParticipantDisconnect (h : Everyone P s)
    (hunpublished : P (part.unpublishAll (ord.tracks key)).1) :
    Everyone P (s.handleParticipantDisconnect ord key part).1 := by
  intro ident other hl
  rw [lookup_handleParticipantDisconnect] at hl
  split at hl
  · cases hl
  · split at hl
    · cases hl
      exact hunpublished
    · exact h ident other hl

variable (u) (kept : Kept s.autoSubscribe P) (h : Everyone P s)
include kept h

lemma disconnectOld (info) : Everyone P (s.disconnectOld ord info).1 := by
  unfold RoomSession.disconnectOld getParticipantByIdentity
  split
  · next _ hl =>
    split
    · exact h.handleParticipantDisconnect (kept.unpublishAll _ _ (h _ _ hl))
    · exact h
  · exact h

lemma updateKnown (hp : P part) : Everyone P (s.updateKnown ord u key part).1 := by
  have hupdated := kept.updateInfo part (ord.tracks key) u hp
  unfold RoomSession.updateKnown
  split
  · exact (h.setParticipant hupdated).handleParticipantDisconnect (kept.unpublishAll _ _ hupdated)
  · exact h.setParticipant hupdated

lemma joinParticipant : Everyone P (s.joinParticipant ord u).1 :=
  (h.setParticipant (kept.new u.info)).setParticipant (kept.updateInfo _ _ u (kept.new u.info))

lemma updateUnknown : Everyone P (s.updateUnknown ord u).1 := by
  unfold RoomSession.updateUnknown
  split
  · exact h
  · exact h.joinParticipant u kept

end Everyone

/-! ### What updates leave alone -/

/-- The rooms differ in their participants only. -/
structure Frame (before after : RoomSession) : Prop where
  autoSubscribe : after.autoSubscribe = before.autoSubscribe
  state : after.state = before.state
  restartTasks : after.restartTasks = before.restartTasks
  syncTasks : after.syncTasks = before.syncTasks
  handle : after.handle = before.handle
  roomTask : after.roomTask = before.roomTask

namespace Frame

protected lemma refl (s : RoomSession) : Frame s s := ⟨rfl, rfl, rfl, rfl, rfl, rfl⟩

protected lemma trans {room room' : RoomSession} (h : Frame s room) (h' : Frame room room') :
    Frame s room' where
  autoSubscribe := h'.autoSubscribe.trans h.autoSubscribe
  state := h'.state.trans h.state
  restartTasks := h'.restartTasks.trans h.restartTasks
  syncTasks := h'.syncTasks.trans h.syncTasks
  handle := h'.handle.trans h.handle
  roomTask := h'.roomTask.trans h.roomTask

lemma setParticipant : Frame s (s.setParticipant key part) := ⟨rfl, rfl, rfl, rfl, rfl, rfl⟩

lemma handleParticipantDisconnect : Frame s (s.handleParticipantDisconnect ord key part).1 :=
  ⟨rfl, rfl, rfl, rfl, rfl, rfl⟩

lemma updateLocal (s info) : Frame s (s.updateLocal info).1 :=
  ⟨rfl, rfl, rfl, rfl, rfl, rfl⟩

lemma disconnectOld (info) : Frame s (s.disconnectOld ord info).1 := by
  unfold RoomSession.disconnectOld
  split
  · split
    · exact handleParticipantDisconnect
    · exact .refl s
  · exact .refl s

variable (u)

lemma updateKnown : Frame s (s.updateKnown ord u key part).1 := by
  unfold RoomSession.updateKnown
  split
  · exact setParticipant.trans handleParticipantDisconnect
  · exact setParticipant

lemma updateUnknown : Frame s (s.updateUnknown ord u).1 := by
  unfold RoomSession.updateUnknown
  split
  · exact .refl s
  · exact setParticipant.trans setParticipant

lemma updateParticipant : Frame s (updateParticipant ord s u).1 := by
  unfold RoomSession.updateParticipant
  split
  · exact updateLocal s u.info
  · cases h : (s.disconnectOld ord u.info).1.getParticipantBySid ord u.info.sid with
    | some =>
      rw [updateRemote_of_some h]
      exact (disconnectOld u.info).trans (updateKnown u)
    | none =>
      rw [updateRemote_of_none h]
      exact (disconnectOld u.info).trans (updateUnknown u)

lemma handleParticipantUpdate (s ord us) : Frame s (s.handleParticipantUpdate ord us).1 :=
  state_invariant (.refl s) us fun _ u _ h => h.trans (updateParticipant u)

lemma disconnectAll (s ord) : Frame s (s.disconnectAll ord).1 :=
  state_invariant (.refl s) _ fun _ _ _ h => h.trans handleParticipantDisconnect

end Frame

namespace Everyone

variable {P : RemoteParticipant → Prop} (kept : Kept s.autoSubscribe P) (h : Everyone P s)
include kept h

lemma updateParticipant (u) : Everyone P (updateParticipant ord s u).1 := by
  unfold RoomSession.updateParticipant
  split
  · exact h
  · have hold : Everyone P (s.disconnectOld ord u.info).1 :=
      h.disconnectOld kept u.info
    have kept' : Kept (s.disconnectOld ord u.info).1.autoSubscribe P := by
      rwa [(Frame.disconnectOld u.info).autoSubscribe]
    cases he : (s.disconnectOld ord u.info).1.getParticipantBySid ord u.info.sid with
    | some =>
      rw [updateRemote_of_some he]
      exact hold.updateKnown u kept' (hold _ _ (getParticipantBySid_eq_some he).1)
    | none =>
      rw [updateRemote_of_none he]
      exact hold.updateUnknown u kept'

lemma handleParticipantUpdate (us) : Everyone P (s.handleParticipantUpdate ord us).1 := by
  refine (state_invariant
    (P := fun room : RoomSession => room.autoSubscribe = s.autoSubscribe ∧ Everyone P room)
    ⟨rfl, h⟩ us ?_).2
  rintro _ u - ⟨hauto, hroom⟩
  exact ⟨(Frame.updateParticipant u).autoSubscribe.trans hauto,
    hroom.updateParticipant (hauto ▸ kept) u⟩

end Everyone

/-! ### What the events are about -/

lemma tells_handleParticipantDisconnect : ∀ ev ∈ (s.handleParticipantDisconnect ord key part).2,
      ev.Tells part.info.ref [] := by
  exact forall_mem_append.mpr ⟨part.tells_unpublishTracks _, forall_mem_singleton.mpr ⟨rfl, nofun⟩⟩

lemma about_disconnectOld {info} : ∀ ev ∈ (s.disconnectOld ord info).2, ∃ old,
      s.remoteParticipants.lookup info.identity = some old ∧ old.info.sid ≠ info.sid ∧
        ev.about = some old.info.ref := by
  unfold disconnectOld getParticipantByIdentity
  intro ev hm
  split at hm
  · next old hl =>
    split at hm
    · next hne => exact ⟨old, hl, hne, (tells_handleParticipantDisconnect ev hm).1⟩
    · cases hm
  · cases hm

lemma about_updateKnown : ∀ ev ∈ (s.updateKnown ord u key part).2, ev.about = some u.info.ref := by
  unfold updateKnown
  intro ev hm
  split at hm
  all_goals rcases mem_append.mp hm with hm | hm
  · exact (part.tells_updateInfo _ u ev hm).1
  · rw [(tells_handleParticipantDisconnect ev hm).1, (part.keeps_updateInfo ..).info]
  · exact (part.tells_updateInfo _ u ev hm).1
  · rw [mem_singleton.mp (mem_ite_nil_right.mp hm).2]
    rfl

lemma tells_updateUnknown : ∀ ev ∈ (s.updateUnknown ord u).2,
      ev.Tells u.info.ref (u.tracks.map TrackInfo.sid) := by
  unfold updateUnknown
  split
  · nofun
  · simp only [forall_mem_append, forall_mem_singleton]
    refine ⟨⟨⟨rfl, nofun⟩, ?_⟩, RemoteParticipant.tells_updateInfo _ _ u⟩
    split
    · exact forall_mem_singleton.mpr ⟨rfl, nofun⟩
    · nofun

lemma about_updateParticipant :
    ∀ ev ∈ (updateParticipant ord s u).2, ∃ ref, ev.about = some ref := by
  unfold updateParticipant
  split
  · exact fun ev hm => ⟨_, (s.localParticipant.tells_changes u.info ev hm).1⟩
  · have hold : ∀ ev ∈ (s.disconnectOld ord u.info).2, ∃ ref, ev.about = some ref :=
      fun ev hm => (about_disconnectOld ev hm).elim fun _ h => ⟨_, h.2.2⟩
    cases h : (s.disconnectOld ord u.info).1.getParticipantBySid ord u.info.sid with
    | some =>
      rw [updateRemote_of_some h]
      exact forall_mem_append.mpr ⟨hold, fun ev hm => ⟨_, about_updateKnown ev hm⟩⟩
    | none =>
      rw [updateRemote_of_none h]
      exact forall_mem_append.mpr ⟨hold, fun ev hm => ⟨_, (tells_updateUnknown ev hm).1⟩⟩

lemma about_handleParticipantUpdate {us} :
    ∀ ev ∈ (s.handleParticipantUpdate ord us).2,
      (∃ ref, ev.about = some ref) ∨ ∃ refs, ev = .participantsUpdated refs := by
  intro ev hm
  rcases mem_append.mp hm with hm | hm
  · obtain ⟨_, _, _, -, hemit⟩ := mem_outputs.mp hm
    exact .inl (about_updateParticipant ev hemit)
  · split at hm
    · cases hm
    · exact .inr ⟨_, mem_singleton.mp hm⟩

lemma about_disconnectAll : ∀ ev ∈ (s.disconnectAll ord).2, ∃ ref, ev.about = some ref := by
  intro ev hm
  obtain ⟨_, _, _, -, hemit⟩ := mem_outputs.mp hm
  exact ⟨_, (tells_handleParticipantDisconnect ev hemit).1⟩

end RoomSession

end LiveKit.Room
