import LiveKitRust.Room.Updates

/-!
# The roster

What the server has said of the participants so far: for each identity the last update, if it was
not that the participant has disconnected. `Roster.update` is the meaning of an update, without any
of the room's data; `Roster.follow` reads off a step of the room what the server says in it.

The server names things well (`Server.Serves`): a SID belongs to one identity, that of a track to
one participant, and what has gone does not come back. A restart of the client does not make
anything go, the server just says everything again.

The room has the roster's participants, each with the tracks of its last update
(`Faithful.mirrors`). There is one update after which it does not: a participant that has rejoined
is there under a new SID, and the server says, late, that it has disconnected under the old one
(`NotLate`). Otherwise an update is made of arrivals, updates and departures (`Turn`), and each of
them is the same thing done to the roster.
-/

open Machine List

namespace LiveKit.Room

open RoomSession

/-! ### The server's side -/

/-- To whom SIDs belong. -/
structure Server where
  identityOf : String → String
  owner : String → String

def ParticipantUpdate.trackSids (self : ParticipantUpdate) : List String :=
  self.tracks.map TrackInfo.sid

structure Roster where
  localParticipant : ParticipantRef
  /-- The last update of a participant that has not disconnected, by identity. -/
  current : String → Option ParticipantUpdate
  gone : List String
  goneTracks : List String

namespace Roster

variable (self : Roster)

def isLocal (info : ParticipantInfo) : Prop :=
  info.sid = self.localParticipant.sid ∨ info.identity = self.localParticipant.identity
  deriving Decidable

/-- The participant is as the update says; tracks that are not listed anymore have gone. -/
def set (update : ParticipantUpdate) : Roster :=
  { self with
    current := Function.update self.current update.info.identity (some update)
    goneTracks := (match self.current update.info.identity with
      | some old => old.trackSids.filter fun sid => sid ∉ update.trackSids
      | none => []) ++ self.goneTracks }

def leave (old : ParticipantUpdate) : Roster :=
  { self with
    current := Function.update self.current old.info.identity none
    gone := old.info.sid :: self.gone
    goneTracks := old.trackSids ++ self.goneTracks }

/-- An update of a remote participant. That one disconnects under a SID which is not its
current one is late, and says nothing of the current one. -/
def updateRemote (update : ParticipantUpdate) : Roster :=
  match self.current update.info.identity with
  | some old =>
    if old.info.sid = update.info.sid then
      if update.info.state = .disconnected then (self.set update).leave update
      else self.set update
    else if update.info.state = .disconnected then self
    else (self.leave old).set update
  | none =>
    if update.info.state = .disconnected then { self with gone := update.info.sid :: self.gone }
    else self.set update

def update (update : ParticipantUpdate) : Roster :=
  if self.isLocal update.info then { self with localParticipant := update.info.ref }
  else self.updateRemote update

/-- The updates of a message are taken one after the other. -/
def receive (update : ParticipantUpdate) : Roster × List Empty :=
  (self.update update, [])

def renew : Option ParticipantInfo → Roster
  | some info => { self with localParticipant := info.ref }
  | none => self

def follow : Input → Roster
  | .participantUpdate _ updates => state receive self updates
  | .roomMoved _ participant others => state receive (self.renew participant) others
  | .signalRestarted _ participant others => state receive (self.renew participant) others
  | .restarting _ => { self with current := fun _ => none }
  | _ => self

def start (localParticipant : ParticipantInfo) : Roster :=
  ⟨localParticipant.ref, fun _ => none, [], []⟩

end Roster

namespace Roster

def has (self : Roster) (info : ParticipantInfo) : Bool :=
  (self.current info.identity).any fun old => old.info.sid = info.sid

/-- Every update of a step meets the condition, read in the roster at its time. -/
def Each (C : Roster → ParticipantUpdate → Prop) (self : Roster) : Input → Prop
  | .participantUpdate _ updates => Along receive C self updates
  | .roomMoved _ participant others => Along receive C (self.renew participant) others
  | .signalRestarted _ participant others => Along receive C (self.renew participant) others
  | _ => True

instance (C : Roster → ParticipantUpdate → Prop) [∀ roster update, Decidable (C roster update)]
    (self : Roster) (input : Input) : Decidable (self.Each C input) := by
  unfold Each
  split <;> infer_instance

end Roster

/-- SIDs are not used again: that of a participant belongs to one identity, that of a track to
one participant, and what has gone does not come back. Of an update which says that someone has
disconnected who is not there, only the first is asked. -/
def Server.Names (server : Server) (roster : Roster) (update : ParticipantUpdate) : Prop :=
  server.identityOf update.info.sid = update.info.identity ∧
    (update.info.state ≠ .disconnected → update.info.sid ∉ roster.gone) ∧
    (update.info.state ≠ .disconnected ∨ roster.has update.info = true → ∀ track ∈ update.trackSids,
        server.owner track = update.info.sid ∧ track ∉ roster.goneTracks)
  deriving Decidable

def Server.Serves (server : Server) (roster : Roster) (update : ParticipantUpdate) : Prop :=
  roster.isLocal update.info ∨ server.Names roster update
  deriving Decidable

/-- No remote participant is said to have disconnected who is there under another SID. -/
def NotLate (roster : Roster) (update : ParticipantUpdate) : Prop :=
  roster.isLocal update.info ∨
    (update.info.state = .disconnected → ∀ old ∈ roster.current update.info.identity,
      old.info.sid = update.info.sid)
  deriving Decidable

/-- The participants of the answer to a join are remote ones, and there. -/
def Server.Lists (server : Server) (roster : Roster) (update : ParticipantUpdate) : Prop :=
  ¬ roster.isLocal update.info ∧ update.info.state ≠ .disconnected ∧ server.Names roster update
  deriving Decidable

/-- The room, with the roster of what it has been told. After its task has ended the room is not
told anything. -/
def following (pair : RoomSession × Roster) (input : Input) :
    (RoomSession × Roster) × List Output :=
  (((pair.1.step input).1, if pair.1.roomTask then pair.2.follow input else pair.2),
    (pair.1.step input).2)

/-! ### The room is faithful to the roster -/

def Matches (participant : RemoteParticipant) (update : ParticipantUpdate) : Prop :=
  participant.info = update.info ∧
    ∀ track, (participant.publications.lookup track).map RemoteTrackPublication.info =
      update.track? track

lemma Matches.mem_iff {p upd} (h : Matches p upd) {tr} :
    (p.publications.lookup tr).isSome ↔ tr ∈ upd.trackSids := by
  rw [ParticipantUpdate.trackSids, ← ParticipantUpdate.track?_isSome, ← h.2 tr, Option.isSome_map]

lemma matches_updateInfo (p : RemoteParticipant) (order : HashOrder String)
    (upd : ParticipantUpdate) : Matches (p.updateInfo order upd).1 upd := by
  refine ⟨(p.keeps_updateInfo upd order).info, fun tr => ?_⟩
  rw [p.lookup_updateInfo, Option.map_map]
  cases upd.track? tr with
  | none => rfl
  | some => exact congrArg some (renewed_info ..)

structure Faithful (server : Server) (room : RoomSession) (roster : Roster) : Prop where
  localParticipant : roster.localParticipant = room.localParticipant.ref
  mirrors : ∀ identity,
    Option.Rel Matches (room.remoteParticipants.lookup identity) (roster.current identity)
  named : ∀ identity update, roster.current identity = some update →
    update.info.identity = identity ∧ server.identityOf update.info.sid = identity
  owned : ∀ identity update, roster.current identity = some update →
    ∀ track ∈ update.trackSids, server.owner track = update.info.sid

namespace Faithful

variable {server : Server} {room : RoomSession} {ros : Roster} {ord : Orders}
  {ident : String} {p : RemoteParticipant} {upd : ParticipantUpdate}

section

variable (h : Faithful server room ros)
include h

lemma isLocal_iff (info) : ros.isLocal info ↔ room.isLocal info := by
  unfold Roster.isLocal isLocal
  rw [h.localParticipant]
  rfl

lemma lookup_eq_none_iff :
    room.remoteParticipants.lookup ident = none ↔ ros.current ident = none := by
  have hrel := h.mirrors ident
  generalize room.remoteParticipants.lookup ident = found, ros.current ident = current at hrel
  cases hrel <;> simp

section

variable (hl : room.remoteParticipants.lookup ident = some p)
include hl

lemma current_of_lookup : ∃ upd, ros.current ident = some upd ∧ Matches p upd := by
  have hrel := h.mirrors ident
  rw [hl] at hrel
  generalize ros.current ident = current at hrel
  cases hrel with
  | some hmt => exact ⟨_, rfl, hmt⟩

lemma identity_of_lookup : p.info.identity = ident ∧ server.identityOf p.info.sid = ident := by
  obtain ⟨upd, hcur, hmt⟩ := h.current_of_lookup hl
  rw [hmt.1]
  exact h.named ident upd hcur

lemma getParticipantBySid_eq : room.getParticipantBySid ord p.info.sid = some (ident, p) := by
  cases hfound : room.getParticipantBySid ord p.info.sid with
  | none => exact absurd rfl (getParticipantBySid_eq_none hfound hl)
  | some entry =>
    obtain ⟨he, hsid⟩ := getParticipantBySid_eq_some hfound
    -- both are of the identity that the SID belongs to
    have hkey : entry.1 = ident := by
      rw [← (h.identity_of_lookup he).2, ← (h.identity_of_lookup hl).2, hsid]
    rw [hkey, hl] at he
    obtain ⟨key, _⟩ := entry
    obtain rfl : key = ident := hkey
    rw [Option.some.inj he]

lemma setParticipant {p'} (hinfo : p'.info = p.info)
    (htrs : ∀ tr, (p'.publications.lookup tr).map RemoteTrackPublication.info =
        (p.publications.lookup tr).map RemoteTrackPublication.info) :
    Faithful server (room.setParticipant ident p') ros := by
  refine ⟨h.localParticipant, fun other => ?_, h.named, h.owned⟩
  rw [lookup_setParticipant]
  split
  · next heq =>
    obtain ⟨_, hcur, hmt⟩ := h.current_of_lookup hl
    rw [heq, hcur]
    exact .some ⟨hinfo.trans hmt.1, fun tr => (htrs tr).trans (hmt.2 tr)⟩
  · exact h.mirrors other

end

lemma has_of_lookup {info} (hl : room.remoteParticipants.lookup info.identity = some p)
    (hsid : p.info.sid = info.sid) : ros.has info = true := by
  obtain ⟨_, hcur, hmt⟩ := h.current_of_lookup hl
  rw [Roster.has, hcur]
  exact decide_eq_true (hmt.1 ▸ hsid)

lemma getParticipantBySid_eq_none {sid} (hsid : server.identityOf sid = ident)
    (hl : room.remoteParticipants.lookup ident = none) :
    room.getParticipantBySid ord sid = none := by
  refine Option.eq_none_iff_forall_not_mem.mpr fun entry hfound => ?_
  obtain ⟨he, rfl⟩ := getParticipantBySid_eq_some hfound
  rw [(h.identity_of_lookup he).2] at hsid
  rw [hsid, hl] at he
  cases he

/-! The roster and the room change together. -/

variable {room' : RoomSession}

lemma set (hlocal : room'.localParticipant = room.localParticipant)
    (hl : ∀ ident, room'.remoteParticipants.lookup ident =
      if ident = upd.info.identity then some p
      else room.remoteParticipants.lookup ident) (hmt : Matches p upd)
    (hnamed : server.identityOf upd.info.sid = upd.info.identity)
    (howned : ∀ tr ∈ upd.trackSids, server.owner tr = upd.info.sid) :
    Faithful server room' (ros.set upd) := by
  have hcur : ∀ ident, (ros.set upd).current ident =
      if ident = upd.info.identity then some upd else ros.current ident :=
    fun ident => Function.update_apply ..
  refine ⟨h.localParticipant.trans (by rw [hlocal]), ?_, ?_, ?_⟩
  · intro ident
    rw [hl, hcur]
    split
    · exact .some hmt
    · exact h.mirrors ident
  · intro ident other hot
    rw [hcur] at hot
    split at hot
    · next heq =>
      cases hot
      exact ⟨heq.symm, hnamed.trans heq.symm⟩
    · exact h.named ident other hot
  · intro ident other hot
    rw [hcur] at hot
    split at hot
    · cases hot
      exact howned
    · exact h.owned ident other hot

lemma leave {old} (hlocal : room'.localParticipant = room.localParticipant)
    (hl : ∀ ident, room'.remoteParticipants.lookup ident =
      if ident = old.info.identity then none else room.remoteParticipants.lookup ident) :
    Faithful server room' (ros.leave old) := by
  have hcur : ∀ ident, (ros.leave old).current ident =
      if ident = old.info.identity then none else ros.current ident :=
    fun ident => Function.update_apply ..
  have hbef : ∀ ident upd, (ros.leave old).current ident = some upd →
      ros.current ident = some upd := by
    intro _ _ hs
    rw [hcur] at hs
    split at hs
    · cases hs
    · exact hs
  refine ⟨h.localParticipant.trans (by rw [hlocal]), ?_, ?_, ?_⟩
  · intro ident
    rw [hl, hcur]
    split
    · exact .none
    · exact h.mirrors ident
  · exact fun ident upd hs => h.named ident upd (hbef ident upd hs)
  · exact fun ident upd hs => h.owned ident upd (hbef ident upd hs)

end

end Faithful

/-! ### Turns -/

def RoomEvent.isRoster : RoomEvent → Bool
  | .connected _ => true
  | .participantConnected _ => true
  | .participantDisconnected _ => true
  | .trackPublished _ _ => true
  | .trackUnpublished _ _ => true
  | .trackSubscribed _ _ => true
  | .trackUnsubscribed _ _ => true
  | _ => false

def Output.isRoster : Output → Bool
  | .event told => told.isRoster
  | .restarting => true
  | _ => false

/-- What a step of the room is made of, together with what it means for the roster. -/
inductive Turn (server : Server) : RoomSession × Roster → List Output → RoomSession × Roster → Prop
  /-- Nothing that concerns the remote participants. -/
  | tell {room room' roster outputs}
      (h_participants : room'.remoteParticipants = room.remoteParticipants)
      (h_local : room'.localParticipant = room.localParticipant)
      (h_quiet : ∀ output ∈ outputs, output.isRoster = false) :
      Turn server (room, roster) outputs (room', roster)
  | renew {room roster} (info : ParticipantInfo) :
      Turn server (room, roster) ((room.updateLocal info).2.map .event)
        ((room.updateLocal info).1, { roster with localParticipant := info.ref })
  /-- Someone has gone who was not there. -/
  | forget {room roster} (sid : String) :
      Turn server (room, roster) [] (room, { roster with gone := sid :: roster.gone })
  | arrive {room roster} (orders : Orders) {update}
      (h_none : room.remoteParticipants.lookup update.info.identity = none)
      (h_state : update.info.state ≠ .disconnected) (h_names : server.Names roster update) :
      Turn server (room, roster) ((room.updateUnknown orders update).2.map .event)
        ((room.updateUnknown orders update).1, roster.set update)
  | refresh {room roster} (orders : Orders) {update participant}
      (h_lookup : room.remoteParticipants.lookup update.info.identity = some participant)
      (h_sid : participant.info.sid = update.info.sid) (h_names : server.Names roster update) :
      Turn server (room, roster)
        ((participant.updateInfo (orders.tracks update.info.identity) update).2.map .event)
        (room.setParticipant update.info.identity
          (participant.updateInfo (orders.tracks update.info.identity) update).1, roster.set update)
  | depart {room roster} (orders : Orders) {identity participant old}
      (h_lookup : room.remoteParticipants.lookup identity = some participant)
      (h_current : roster.current identity = some old) :
      Turn server (room, roster)
        ((room.handleParticipantDisconnect orders identity participant).2.map .event)
        ((room.handleParticipantDisconnect orders identity participant).1, roster.leave old)
  | media {room roster identity participant} (track : String)
      (h_lookup : room.remoteParticipants.lookup identity = some participant) :
      Turn server (room, roster) ((participant.addSubscribedMediaTrack track).2.map .event)
        (room.setParticipant identity (participant.addSubscribedMediaTrack track).1, roster)
  | wish {room roster identity participant} (track : String) (subscribed : Bool)
      (h_lookup : room.remoteParticipants.lookup identity = some participant) :
      Turn server (room, roster) ((participant.setSubscribed track subscribed).2.map .event)
        (room.setParticipant identity (participant.setSubscribed track subscribed).1, roster)
  | restart {room roster} (orders : Orders) :
      Turn server (room, roster) (.restarting :: (room.disconnectAll orders).2.map .event)
        ((room.disconnectAll orders).1, { roster with current := fun _ => none })

lemma quiet_map {evs : List RoomEvent} (h : ∀ ev ∈ evs, ev.isRoster = false) :
    ∀ output ∈ evs.map Output.event, output.isRoster = false :=
  forall_mem_map.mpr h

namespace RoomSession

variable {s : RoomSession} {ord : Orders} {upd : ParticipantUpdate}

variable (state : ConnectionState)

lemma quiet_updateConnectionState :
    ∀ ev ∈ (s.updateConnectionState state).2, ev.isRoster = false := by
  unfold updateConnectionState
  split
  · nofun
  · exact forall_mem_singleton.mpr rfl

lemma quiet_transition {told} (h : told.isRoster = false) :
    ∀ ev ∈ (s.transition state told).2, ev.isRoster = false := by
  refine forall_mem_append.mpr ⟨quiet_updateConnectionState state, ?_⟩
  split
  · nofun
  · exact forall_mem_singleton.mpr h

lemma lookup_updateUnknown (hst : upd.info.state ≠ .disconnected) (ident : String) :
    (s.updateUnknown ord upd).1.remoteParticipants.lookup ident =
      if ident = upd.info.identity then
        some ((RemoteParticipant.new upd.info s.autoSubscribe).updateInfo
          (ord.tracks upd.info.identity) upd).1
      else s.remoteParticipants.lookup ident := by
  unfold updateUnknown
  rw [if_neg hst]
  exact lookup_joinParticipant ord upd ident

lemma updateUnknown_localParticipant :
    (s.updateUnknown ord upd).1.localParticipant = s.localParticipant := by
  unfold updateUnknown
  split <;> rfl

lemma lookup_handleParticipantDisconnect_of_identity {key p} (hkey : p.info.identity = key)
    (ident : String) :
    (s.handleParticipantDisconnect ord key p).1.remoteParticipants.lookup ident =
      if ident = key then none else s.remoteParticipants.lookup ident := by
  rw [lookup_handleParticipantDisconnect, hkey]
  by_cases heq : ident = key
  · rw [if_pos heq, if_pos heq]
  · rw [if_neg heq, if_neg heq, if_neg fun h => heq h.1]

lemma lookup_state_handleParticipantDisconnect (entries)
    (h : ∀ entry ∈ entries, entry.2.info.identity = entry.1) (ident) :
    (Machine.state (fun s entry => s.handleParticipantDisconnect ord entry.1 entry.2)
      s entries).remoteParticipants.lookup ident = if ident ∈ entries.map Prod.fst then none
        else s.remoteParticipants.lookup ident := by
  induction entries generalizing s with
  | nil => rfl
  | cons entry _ ih =>
    rw [state_cons, ih fun other hm => h other (mem_cons_of_mem _ hm),
      lookup_handleParticipantDisconnect_of_identity (h entry (.head _)), map_cons]
    by_cases heq : ident = entry.1
    · rw [if_pos heq, ite_self, heq, if_pos (.head _)]
    · rw [if_neg heq]
      exact if_congr (mem_cons.trans (or_iff_right heq)).symm rfl rfl

lemma lookup_disconnectAll (h : ∀ ident p, s.remoteParticipants.lookup ident = some p →
      p.info.identity = ident) (ident : String) :
    (s.disconnectAll ord).1.remoteParticipants.lookup ident = none := by
  refine (lookup_state_handleParticipantDisconnect _ ?_ ident).trans ?_
  · rintro ⟨other, p⟩ hm
    exact h other p (HashOrder.mem_entries.mp hm)
  · split
    · rfl
    · next hnot =>
      -- everyone who is there is listed
      refine Option.eq_none_iff_forall_not_mem.mpr fun p hl => hnot ?_
      exact mem_map.mpr ⟨(ident, p), HashOrder.mem_entries.mpr hl, rfl⟩

lemma disconnectAll_localParticipant :
    (s.disconnectAll ord).1.localParticipant = s.localParticipant :=
  state_invariant (P := fun room : RoomSession => room.localParticipant = s.localParticipant)
    rfl _ fun _ _ _ h => h

end RoomSession

/-- **A turn keeps the room faithful.** -/
theorem Turn.faithful {server : Server} {pre after : RoomSession × Roster}
    {outputs : List Output} (hturn : Turn server pre outputs after)
    (h : Faithful server pre.1 pre.2) : Faithful server after.1 after.2 := by
  cases hturn with
  | tell hparticipants hlocal =>
    refine ⟨h.localParticipant.trans (by rw [hlocal]), fun ident => ?_, h.named, h.owned⟩
    rw [hparticipants]
    exact h.mirrors ident
  | renew => exact ⟨rfl, h.mirrors, h.named, h.owned⟩
  | forget => exact ⟨h.localParticipant, h.mirrors, h.named, h.owned⟩
  | arrive _ _ hst hnames =>
    refine h.set updateUnknown_localParticipant
      (lookup_updateUnknown hst) (matches_updateInfo ..) hnames.1 ?_
    exact fun tr hm => (hnames.2.2 (.inl hst) tr hm).1
  | refresh _ hl hsid hnames =>
    refine h.set rfl (lookup_setParticipant _ _) (matches_updateInfo ..) hnames.1 ?_
    exact fun tr hm => (hnames.2.2 (.inr (h.has_of_lookup hl hsid)) tr hm).1
  | depart _ hl hcur =>
    obtain rfl := (h.named _ _ hcur).1
    refine h.leave rfl (lookup_handleParticipantDisconnect_of_identity ?_)
    exact (h.identity_of_lookup hl).1
  | media tr hl =>
    exact h.setParticipant hl (RemoteParticipant.keeps_addSubscribedMediaTrack ..).info
      (RemoteParticipant.lookup_addSubscribedMediaTrack_info _ tr)
  | wish tr subd hl =>
    exact h.setParticipant hl (RemoteParticipant.keeps_setSubscribed ..).info
      (RemoteParticipant.lookup_setSubscribed_info _ tr subd)
  | restart =>
    refine ⟨h.localParticipant.trans (by rw [disconnectAll_localParticipant]),
      fun ident => ?_, (fun _ _ hn => nomatch hn), fun _ _ hn => nomatch hn⟩
    rw [lookup_disconnectAll fun ident p hl =>
      (h.identity_of_lookup hl).1]
    exact .none

end LiveKit.Room
