import LiveKitRust.Base.Maps
import LiveKitRust.RtcEngine.Engine

/-!
# Remote participants (`room/participant/`, `room/publication/`)

A remote participant has a record of what the server has last said about it, and a publication for
each of its tracks. The server describes a participant as a whole: an update (`update_info`)
replaces the record, creates publications for new tracks, and removes those of tracks that are not
listed anymore. What changes is told to the room as events.

A `RemoteTrackPublication` has a track while the client receives its media; `subscribed` is whether
the user wants that.

SIDs are strings here; that they are well formed has been checked when they were read. Some fields
that are only stored are left out, and so is whether a participant is encrypted.
-/

open Machine

namespace LiveKit.Room

open RtcEngine (DisconnectReason)

/-! ### Data -/

inductive ParticipantState where
  | joining
  | joined
  | active
  | disconnected
  deriving DecidableEq

structure ParticipantPermission where
  canSubscribe : Bool
  canPublish : Bool
  canPublishData : Bool
  canPublishSources : List ℤ
  hidden : Bool
  recorder : Bool
  canUpdateMetadata : Bool
  agent : Bool
  canSubscribeMetrics : Bool
  canManageAgentSession : Bool
  deriving DecidableEq

structure ParticipantInfo where
  sid : String
  identity : String
  name : String
  state : ParticipantState
  metadata : String
  attributes : Map String String
  disconnectReason : DisconnectReason
  permission : Option ParticipantPermission

structure TrackInfo where
  sid : String
  name : String
  muted : Bool
  deriving DecidableEq

structure ParticipantUpdate where
  info : ParticipantInfo
  tracks : List TrackInfo

structure ParticipantRef where
  sid : String
  identity : String
  deriving DecidableEq

inductive ConnectionState where
  | disconnected
  | connected
  | reconnecting
  deriving DecidableEq

inductive RoomEvent where
  | connected (participantsWithTracks : List (ParticipantRef × List String))
  | participantConnected (participant : ParticipantRef)
  | participantActive (participant : ParticipantRef)
  | participantDisconnected (participant : ParticipantRef)
  | participantsUpdated (participants : List ParticipantRef)
  | trackPublished (participant : ParticipantRef) (track : String)
  | trackUnpublished (participant : ParticipantRef) (track : String)
  | trackSubscribed (participant : ParticipantRef) (track : String)
  | trackUnsubscribed (participant : ParticipantRef) (track : String)
  | trackSubscriptionFailed (participant : ParticipantRef) (track : String)
  | trackMuted (participant : ParticipantRef) (track : String)
  | trackUnmuted (participant : ParticipantRef) (track : String)
  | participantNameChanged (participant : ParticipantRef) (oldName name : String)
  | participantMetadataChanged (participant : ParticipantRef) (oldMetadata metadata : String)
  | participantAttributesChanged (participant : ParticipantRef) (changed : Map String String)
  | participantPermissionChanged (participant : ParticipantRef)
      (permission : Option ParticipantPermission)
  | connectionStateChanged (state : ConnectionState)
  | reconnecting
  | reconnected
  | disconnected (reason : DisconnectReason)
  | moved
  deriving DecidableEq

/-! ### The record of a participant -/

/-- The attributes that are new, other or gone; the last with an empty value. -/
def calculateChangedAttributes (old new : Map String String) : Map String String :=
  (old.keys ++ new.keys).foldl (fun changed key =>
    if old.lookup key = new.lookup key then changed
    else changed.insert key ((new.lookup key).getD "")) ∅

namespace ParticipantInfo

def ref (self : ParticipantInfo) : ParticipantRef := ⟨self.sid, self.identity⟩

/-- What is told when a record is replaced by a new one. -/
def changes (old new : ParticipantInfo) : List RoomEvent :=
  (if old.name = new.name then []
    else [.participantNameChanged new.ref old.name new.name]) ++
  (if old.metadata = new.metadata then []
    else [.participantMetadataChanged new.ref old.metadata new.metadata]) ++
  (if (calculateChangedAttributes old.attributes new.attributes).len = 0 then []
    else [.participantAttributesChanged new.ref
      (calculateChangedAttributes old.attributes new.attributes)]) ++
  if old.permission = new.permission then []
  else [.participantPermissionChanged new.ref new.permission]

end ParticipantInfo

/-! ### Publications -/

structure RemoteTrackPublication where
  info : TrackInfo
  track : Bool
  subscribed : Bool
  allowed : Bool
  deriving DecidableEq

namespace RemoteTrackPublication

def new (info : TrackInfo) (autoSubscribe : Bool) : RemoteTrackPublication :=
  ⟨info, false, autoSubscribe, true⟩

variable (self : RemoteTrackPublication)

def isDesired : Bool := self.subscribed

/-- For remote tracks the publication itself tells of its being muted. -/
def updateInfo (participant : ParticipantRef) (info : TrackInfo) :
    RemoteTrackPublication × List RoomEvent :=
  ({ self with info := info }, if self.info.muted = info.muted then []
    else if info.muted then [.trackMuted participant info.sid]
    else [.trackUnmuted participant info.sid])

/-- The client gets a track for the publication, or loses it. -/
def setTrack (participant : ParticipantRef) (track : Bool) :
    RemoteTrackPublication × List RoomEvent :=
  ({ self with track := track },
    (if self.track then [.trackUnsubscribed participant self.info.sid] else []) ++
      if track then [.trackSubscribed participant self.info.sid] else [])

def setSubscribed (participant : ParticipantRef)
    (subscribed : Bool) : RemoteTrackPublication × List RoomEvent :=
  let self := { self with subscribed := subscribed, allowed := self.allowed || subscribed }
  if subscribed then (self, []) else self.setTrack participant false

end RemoteTrackPublication

/-! ### Participants -/

structure RemoteParticipant where
  info : ParticipantInfo
  publications : Map String RemoteTrackPublication
  autoSubscribe : Bool

namespace RemoteParticipant

def new (info : ParticipantInfo) (autoSubscribe : Bool) : RemoteParticipant :=
  ⟨info, ∅, autoSubscribe⟩

variable (self : RemoteParticipant)

def unpublishTrack (sid : String) : RemoteParticipant × List RoomEvent :=
  match self.publications.lookup sid with
  | some publication =>
    ({ self with publications := self.publications.erase sid },
      -- unsubscribe to the track if needed
      (if publication.track then (publication.setTrack self.info.ref false).2 else []) ++
        [.trackUnpublished self.info.ref publication.info.sid])
  | none => (self, [])

def updateTrack (track : TrackInfo) : RemoteParticipant × List RoomEvent :=
  match self.publications.lookup track.sid with
  | some publication =>
    ({ self with
        publications :=
          self.publications.insert track.sid (publication.updateInfo self.info.ref track).1 },
      (publication.updateInfo self.info.ref track).2)
  | none =>
    ({ self with
        publications := self.publications.insert track.sid (.new track self.autoSubscribe) },
      [.trackPublished self.info.ref track.sid])

def invalidTracks (order : HashOrder String) (tracks : List TrackInfo) : List String :=
  (order.iter self.publications.keys).filter fun sid => sid ∉ tracks.map TrackInfo.sid

def updateInfo (order : HashOrder String) (update : ParticipantUpdate) :
    RemoteParticipant × List RoomEvent :=
  let updated := run updateTrack { self with info := update.info } update.tracks
  let removed := run unpublishTrack updated.1 (updated.1.invalidTracks order update.tracks)
  (removed.1, self.info.changes update.info ++ updated.2 ++ removed.2)

def unpublishAll (order : HashOrder String) : RemoteParticipant × List RoomEvent :=
  run unpublishTrack self (order.iter self.publications.keys)

/-- Media of the track arrive. The client waits for the publication, for a time. -/
def addSubscribedMediaTrack (sid : String) : RemoteParticipant × List RoomEvent :=
  match self.publications.lookup sid with
  | some publication =>
    ({ self with
        publications := self.publications.insert sid (publication.setTrack self.info.ref true).1 },
      (publication.setTrack self.info.ref true).2)
  | none => (self, [.trackSubscriptionFailed self.info.ref sid])

def setSubscribed (sid : String) (subscribed : Bool) : RemoteParticipant × List RoomEvent :=
  match self.publications.lookup sid with
  | some publication =>
    ({ self with
        publications :=
          self.publications.insert sid (publication.setSubscribed self.info.ref subscribed).1 },
      (publication.setSubscribed self.info.ref subscribed).2)
  | none => (self, [])

end RemoteParticipant

end LiveKit.Room
