import LiveKitRust.Room.Participant

/-!
# The room session (`room/mod.rs`)

The room keeps a map of the remote participants, by identity, and the state of the connection. Its
task handles the events of the engine one after the other: the server's updates of participants, and
what happens to the connection. Some handlers leave work to tasks of their own: after a restart one
publishes the local tracks again, and then says that the room is connected; and the state of the
subscriptions is sent to the server when the signalling is back.

`RoomSession.step` is what happens when the task of the room handles an event, when one of those
other tasks gets to its end, or when the user acts. The order in which hash maps are iterated is
part of the input (`Orders`).

The participants are shared objects; the key under which one stands in the map serves as its
address. The metadata of the room, active speakers, the local tracks and all data are left out; so
is that the dispatcher is cleared at the end of `close`.
-/

open Machine

namespace LiveKit.Room

open RtcEngine (DisconnectReason)

structure RoomSession where
  localParticipant : ParticipantInfo
  remoteParticipants : Map String RemoteParticipant
  autoSubscribe : Bool
  state : ConnectionState
  /-- The tasks spawned after a restart which have not come to their end. -/
  restartTasks : ℕ
  /-- The tasks which are about to send the sync state; `true` in a restart. -/
  syncTasks : List Bool
  /-- Nobody has called `close` so far. -/
  handle : Bool
  /-- The task that handles the events of the engine is running. -/
  roomTask : Bool

structure Orders where
  participants : HashOrder String
  /-- For the publications of a participant. -/
  tracks : String → HashOrder String

def Orders.asListed : Orders := ⟨.asListed, fun _ => .asListed⟩

structure UpdateSubscription where
  trackSids : List String
  subscribe : Bool
  participantTracks : List (String × List String)
  deriving DecidableEq

inductive Output where
  | event (event : RoomEvent)
  | subscription (update : UpdateSubscription)
  | syncState (update : UpdateSubscription)
  /-- All participants are about to be removed, for a restart. -/
  | restarting
  deriving DecidableEq

inductive Input where
  | participantUpdate (orders : Orders) (updates : List ParticipantUpdate)
  | roomMoved (orders : Orders) (participant : Option ParticipantInfo)
      (otherParticipants : List ParticipantUpdate)
  | resuming
  | signalResumed
  | resumed
  | restarting (orders : Orders)
  | signalRestarted (orders : Orders) (participant : Option ParticipantInfo)
      (otherParticipants : List ParticipantUpdate)
  | restarted
  | disconnected (reason : DisconnectReason)
  | mediaTrack (orders : Orders) (participantSid track : String)
  /-- A task sends the sync state, if the descriptions it needs are there. -/
  | syncTask (orders : Orders) (restarting descriptions : Bool)
  /-- A task comes to its end which was spawned after a restart. -/
  | restartTask
  | setSubscribed (identity track : String) (subscribed : Bool)
  | close
  /-- The room task ends, after `close`. -/
  | closed

namespace RoomSession

/-! ### Participants -/

variable (self : RoomSession)

def setParticipant (key : String) (participant : RemoteParticipant) :
    RoomSession :=
  { self with remoteParticipants := self.remoteParticipants.insert key participant }

def createParticipant (info : ParticipantInfo) : RoomSession :=
  self.setParticipant info.identity (.new info self.autoSubscribe)

def joinParticipant (orders : Orders) (update : ParticipantUpdate) : RoomSession × List RoomEvent :=
  let updated := (RemoteParticipant.new update.info self.autoSubscribe).updateInfo
    (orders.tracks update.info.identity) update
  ((self.createParticipant update.info).setParticipant update.info.identity updated.1, updated.2)

def handleParticipantDisconnect (orders : Orders) (key : String)
    (participant : RemoteParticipant) : RoomSession × List RoomEvent :=
  let unpublished := participant.unpublishAll (orders.tracks key)
  ({ self with
      remoteParticipants :=
        (self.remoteParticipants.replace key unpublished.1).erase participant.info.identity },
    unpublished.2 ++ [.participantDisconnected participant.info.ref])

def getParticipantBySid (orders : Orders) (sid : String) : Option (String × RemoteParticipant) :=
  (orders.participants.entries self.remoteParticipants).find? fun entry => entry.2.info.sid = sid

def getParticipantByIdentity (identity : String) : Option RemoteParticipant :=
  self.remoteParticipants.lookup identity

def isLocal (info : ParticipantInfo) : Prop :=
  info.sid = self.localParticipant.sid ∨ info.identity = self.localParticipant.identity
  deriving Decidable

/-- The remote participant's SID could have changed, due to a new initial connection. Same
identity but different SID: remove the old participant. -/
def disconnectOld (orders : Orders) (info : ParticipantInfo) : RoomSession × List RoomEvent :=
  match self.getParticipantByIdentity info.identity with
  | some participant =>
    if participant.info.sid ≠ info.sid then
      self.handleParticipantDisconnect orders info.identity participant
    else (self, [])
  | none => (self, [])

def updateKnown (orders : Orders) (update : ParticipantUpdate) (key : String)
    (participant : RemoteParticipant) : RoomSession × List RoomEvent :=
  let updated := participant.updateInfo (orders.tracks key) update
  let self := self.setParticipant key updated.1
  if update.info.state = .disconnected then
    -- updated before, to get the correct disconnect reason
    let disconnected := self.handleParticipantDisconnect orders key updated.1
    (disconnected.1, updated.2 ++ disconnected.2)
  else (self, updated.2 ++ if participant.info.state ≠ .active ∧ update.info.state = .active then
        [.participantActive update.info.ref]
      else [])

def updateUnknown (orders : Orders) (update : ParticipantUpdate) : RoomSession × List RoomEvent :=
  if update.info.state = .disconnected then (self, [])
  else ((self.joinParticipant orders update).1, [.participantConnected update.info.ref] ++
        (if update.info.state = .active then [.participantActive update.info.ref] else []) ++
          (self.joinParticipant orders update).2)

def updateRemote (orders : Orders) (update : ParticipantUpdate) : RoomSession × List RoomEvent :=
  let old := self.disconnectOld orders update.info
  let updated := match old.1.getParticipantBySid orders update.info.sid with
    | some entry => old.1.updateKnown orders update entry.1 entry.2
    | none => old.1.updateUnknown orders update
  (updated.1, old.2 ++ updated.2)

def updateLocal (info : ParticipantInfo) : RoomSession × List RoomEvent :=
  ({ self with localParticipant := info }, self.localParticipant.changes info)

def updateParticipant (orders : Orders) (self : RoomSession) (update : ParticipantUpdate) :
    RoomSession × List RoomEvent :=
  if self.isLocal update.info then self.updateLocal update.info
  else self.updateRemote orders update

/-- The participants whose info is refreshed by an update: not those that it creates. -/
def refreshed (orders : Orders) (self : RoomSession) (update : ParticipantUpdate) :
    List ParticipantRef :=
  if self.isLocal update.info then [update.info.ref]
  else if update.info.state = .disconnected then []
  else
    match (self.disconnectOld orders update.info).1.getParticipantBySid orders update.info.sid with
    | some _ => [update.info.ref]
    | none => []

def handleParticipantUpdate (orders : Orders)
    (updates : List ParticipantUpdate) : RoomSession × List RoomEvent :=
  let updated := run (updateParticipant orders) self updates
  let participants := outputs
    (fun self update => ((updateParticipant orders self update).1, refreshed orders self update))
    self updates
  (updated.1, updated.2 ++ if participants = [] then [] else [.participantsUpdated participants])

/-! ### The connection -/

def updateConnectionState (state : ConnectionState) : RoomSession × List RoomEvent :=
  if self.state = state then (self, [])
  else ({ self with state := state }, [.connectionStateChanged state])

/-- Change the connection state and, if it has changed, tell of an event more. -/
def transition (state : ConnectionState) (event : RoomEvent) : RoomSession × List RoomEvent :=
  ((self.updateConnectionState state).1,
    (self.updateConnectionState state).2 ++ if self.state = state then [] else [event])

def handleResuming : RoomSession × List RoomEvent :=
  self.transition .reconnecting .reconnecting

def handleResumed : RoomSession × List RoomEvent :=
  ((self.updateConnectionState .connected).1,
    (self.updateConnectionState .connected).2 ++ [.reconnected])

/-- Remove existing participants on full reconnect. -/
def disconnectAll (orders : Orders) : RoomSession × List RoomEvent :=
  run (fun self entry => self.handleParticipantDisconnect orders entry.1 entry.2) self
    (orders.participants.entries self.remoteParticipants)

/-- The task spawned by `handle_restarted` has republished the local tracks. -/
def finishRestart : RoomSession × List RoomEvent :=
  (({ self with restartTasks := self.restartTasks - 1 }.updateConnectionState .connected).1,
    (self.updateConnectionState .connected).2 ++ [.reconnected])

def handleDisconnected (reason : DisconnectReason) : RoomSession × List RoomEvent :=
  self.transition .disconnected (.disconnected reason)

/-! ### Subscriptions -/

/-- The tracks for which the user's wish is not the default. -/
def exceptions (orders : Orders) : List String :=
  (orders.participants.entries self.remoteParticipants).flatMap fun participant =>
    ((orders.tracks participant.1).entries participant.2.publications).filterMap fun publication =>
      if publication.2.isDesired = self.autoSubscribe then none else some publication.1

/-- The part of `send_sync_state` about subscriptions. -/
def syncSubscription (orders : Orders) (restarting : Bool) :
    UpdateSubscription :=
  ⟨self.exceptions orders, if restarting then true else !self.autoSubscribe, []⟩

/-- The server is told of the user's wish. -/
def setSubscribed (identity track : String) (subscribed : Bool) : RoomSession × List Output :=
  match self.remoteParticipants.lookup identity with
  | some participant =>
    (self.setParticipant identity (participant.setSubscribed track subscribed).1,
      (participant.setSubscribed track subscribed).2.map .event ++
        match participant.publications.lookup track with
        | some publication =>
          [.subscription ⟨[publication.info.sid], subscribed,
            [(participant.info.sid, [publication.info.sid])]⟩]
        | none => [])
  | none => (self, [])

/-! ### Steps -/

def dispatch (result : RoomSession × List RoomEvent) : RoomSession × List Output :=
  (result.1, result.2.map .event)

def onEngineEvent : Input → RoomSession × List Output
  | .participantUpdate orders updates => dispatch (self.handleParticipantUpdate orders updates)
  | .roomMoved orders participant others =>
    let moved : RoomSession × List RoomEvent := match participant with
      | some info => ((self.updateLocal info).1,
          (self.updateLocal info).2 ++ [.participantsUpdated [info.ref]])
      | none => (self, [])
    let updated := moved.1.handleParticipantUpdate orders others
    dispatch (updated.1, moved.2 ++ updated.2 ++ [.moved])
  | .resuming => dispatch self.handleResuming
  | .signalResumed => ({ self with syncTasks := self.syncTasks ++ [false] }, [])
  | .resumed => dispatch self.handleResumed
  | .restarting orders =>
    let removed := self.disconnectAll orders
    let updated := removed.1.transition .reconnecting .reconnecting
    (updated.1, .restarting :: (removed.2 ++ updated.2).map .event)
  | .signalRestarted orders participant others =>
    -- the SID may have changed
    let renewed := match participant with
      | some info => self.updateLocal info
      | none => (self, [])
    let updated := renewed.1.handleParticipantUpdate orders others
    dispatch ({ updated.1 with syncTasks := updated.1.syncTasks ++ [true] }, renewed.2 ++ updated.2)
  | .restarted => ({ self with restartTasks := self.restartTasks + 1 }, [])
  | .disconnected reason => dispatch (self.handleDisconnected reason)
  | .mediaTrack orders participantSid track =>
    match self.getParticipantBySid orders participantSid with
    | some entry =>
      dispatch (self.setParticipant entry.1 (entry.2.addSubscribedMediaTrack track).1,
        (entry.2.addSubscribedMediaTrack track).2)
    | none => (self, [])
  | _ => (self, [])

/-- Engine events are handled while the room task runs. -/
def step : Input → RoomSession × List Output
  | .syncTask orders restarting descriptions =>
    if restarting ∈ self.syncTasks then ({ self with syncTasks := self.syncTasks.erase restarting },
        if descriptions then [.syncState (self.syncSubscription orders restarting)] else [])
    else (self, [])
  | .restartTask => if self.restartTasks = 0 then (self, []) else dispatch self.finishRestart
  | .setSubscribed identity track subscribed => self.setSubscribed identity track subscribed
  | .close => ({ self with handle := false }, [])
  | .closed => if self.handle then (self, []) else ({ self with roomTask := false }, [])
  | input => if self.roomTask then self.onEngineEvent input else (self, [])

def participantsWithTracks (orders : Orders) : List (ParticipantRef × List String) :=
  (orders.participants.entries self.remoteParticipants).map fun entry =>
    (entry.2.info.ref, ((orders.tracks entry.1).entries entry.2.publications).map
      fun publication => publication.2.info.sid)

/-- `Room::connect`. Nobody listens yet when the first participants are created; they are
told of together. -/
def connect (orders : Orders) (autoSubscribe : Bool) (localParticipant : ParticipantInfo)
    (otherParticipants : List ParticipantUpdate) : RoomSession × List Output :=
  let self : RoomSession :=
    otherParticipants.foldl (fun self update => (self.joinParticipant orders update).1)
      ⟨localParticipant, ∅, autoSubscribe, .disconnected, 0, [], true, true⟩
  ({ self with state := .connected }, [.event (.connected (self.participantsWithTracks orders)),
      .event (.connectionStateChanged .connected)])

end RoomSession

end LiveKit.Room
