import LiveKitRust.RtcEngine.PeerTransport

/-!
# The peer connection (`ohos/peer_connection.rs`)

The wrapper mirrors what the driver does. It is told of that in two ways, by the replies to its
commands and by the events of the driver, which are taken by different tasks, in any order. The
opening of a channel that is not in the map yet is lost (`opened_iff`), and an event that was
queued before a call returned, or before `close`, overwrites what the call has set (`mirrors_iff`).
-/

open Machine LiveKit.RtcEngine

namespace LiveKit.Ohos

/-! ### Data channels -/

inductive DataChannelState where
  | connecting
  | open
  | closing
  | closed
  deriving DecidableEq

inductive ChannelEvent where
  | open
  | closing
  | closed

/-- A channel that `create_data_channel` has returned. `told` is what `on_state_change` was told
last; the callback is taken to be registered from the start. -/
structure DataChannel where
  state : DataChannelState := .connecting
  told : DataChannelState := .connecting
  inserted : Bool := false
  /-- Its open event has been handled, and it has not been closed since. -/
  opened : Bool := false

namespace DataChannel

def setState (state : DataChannelState) (self : DataChannel) : DataChannel :=
  if self.state = state then self else { self with state := state, told := state }

inductive Action where
  /-- The reply of the driver, with whether it has created the channel. -/
  | reply (created : Bool)
  | event (event : ChannelEvent)
  | close

def step (self : DataChannel) : Action → DataChannel × List Unit
  | .reply true => ({ self with inserted := true }, [])
  | .reply false => (self.setState .closed, [])
  | .event .open =>
    ({ (if self.inserted then self.setState .open else self) with opened := true }, [])
  | .event .closing =>
    ({ (if self.inserted then self.setState .closing else self) with opened := false }, [])
  | .event .closed =>
    ({ (if self.inserted then self.setState .closed else self) with
        inserted := false, opened := false }, [])
  | .close => ({ self.setState .closed with opened := false }, [])

/-- A channel whose open event has been handled is open, and the callback was told. -/
def Told (self : DataChannel) : Prop := self.told = self.state ∧ (self.opened → self.state = .open)

/-- The open event is handled when the channel is in the map, and the reply is not an error after
that. -/
def InTime (self : DataChannel) : Action → Prop
  | .event .open => self.inserted ∨ self.state = .open
  | .reply false => ¬ self.opened
  | _ => True

/-- **Channels open.** A channel whose open event has been handled is open in every state of a run
if and only if its events are handled in time. -/
theorem opened_iff (actions : List Action) :
    (∀ pre, pre <+: actions → (Machine.state step {} pre).Told) ↔ Along step InTime {} actions := by
  refine states_iff (fun self a h => ?_) ⟨rfl, nofun⟩ actions
  rcases a with (_ | _) | (_ | _ | _) | _ <;> grind [Told, InTime, step, setState]

/-- The event is handled before the reply. -/
theorem opening_lost :
    let channel := Machine.state step {} [.event .open, .reply true]
    channel = ⟨.connecting, .connecting, true, true⟩ ∧ ¬ channel.Told :=
  ⟨rfl, fun h => nomatch h.2 rfl⟩

end DataChannel

/-! ### The signalling state -/

inductive PeerConnectionState where
  | new
  | connecting
  | connected
  | disconnected
  | failed
  | closed
  deriving DecidableEq

inductive SdpType where
  | offer
  | prAnswer
  | answer
  | rollback

/-- A call of `set_local_description` or of `set_remote_description`. -/
inductive SetDescription where
  | local (sdpType : SdpType)
  | remote (sdpType : SdpType)

def SetDescription.signalingState : SetDescription → SignalingState
  | .local .offer => .haveLocalOffer
  | .local .prAnswer => .haveLocalPrAnswer
  | .remote .offer => .haveRemoteOffer
  | .remote .prAnswer => .haveRemotePrAnswer
  | _ => .stable

/-- `PeerConnectionInner`, with the calls that wait for the driver. `implied` is the state set by
the call that succeeded last, if no other waited then and none has started since. -/
structure ConnectionMirror where
  signalingState : SignalingState := .stable
  connectionState : PeerConnectionState := .new
  closed : Bool := false
  calls : List SetDescription := []
  implied : Option SignalingState := none

namespace ConnectionMirror

inductive Action where
  | setDescription (call : SetDescription)
  | reply (call : ℕ) (ok : Bool)
  | signalingStateChange (state : SignalingState)
  | connectionStateChange (state : PeerConnectionState)
  | close

def step (self : ConnectionMirror) : Action → ConnectionMirror × List Unit
  | .setDescription call =>
    (if self.closed then self else { self with calls := self.calls ++ [call], implied := none }, [])
  | .reply call ok =>
    match self.calls[call]? with
    | none => (self, [])
    | some desc =>
      let calls := self.calls.eraseIdx call
      if ok then
        ({ self with
            signalingState := desc.signalingState
            calls := calls
            implied := if calls = [] then some desc.signalingState else none }, [])
      else ({ self with calls := calls }, [])
  | .signalingStateChange state => ({ self with signalingState := state }, [])
  | .connectionStateChange state => ({ self with connectionState := state }, [])
  | .close =>
    (if self.closed then self
      else { self with closed := true, connectionState := .closed, signalingState := .closed }, [])

/-- The signalling state is the one that the calls imply, and everything is closed after
`close`. -/
def Mirrors (self : ConnectionMirror) : Prop :=
  if self.closed then self.signalingState = .closed ∧ self.connectionState = .closed
  else ∀ state, self.implied = some state → self.signalingState = state

/-- An event tells of the state that the calls imply. After `close`, no call returns, and events
tell that the connection is closed. -/
def InStep (self : ConnectionMirror) : Action → Prop
  | .reply call ok => self.closed → ok → self.calls[call]? = none
  | .signalingStateChange state =>
    if self.closed then state = .closed else ∀ state', self.implied = some state' → state = state'
  | .connectionStateChange state => self.closed → state = .closed
  | _ => True

lemma SetDescription.signalingState_ne_closed (call : SetDescription) :
    call.signalingState ≠ .closed := by
  rcases call with (_ | _ | _ | _) | (_ | _ | _ | _) <;> nofun

/-- **The mirror** shows the state implied by the calls, and stays closed, in every state of a run
if and only if every event and every reply comes in step. -/
theorem mirrors_iff (actions : List Action) :
    (∀ pre, pre <+: actions → (state step {} pre).Mirrors) ↔ Along step InStep {} actions := by
  refine states_iff (fun self a h => ?_) nofun actions
  cases a with
  | reply call ok => grind [Mirrors, InStep, step, SetDescription.signalingState_ne_closed]
  | _ => grind [Mirrors, InStep, step]

/-- The event of the offer is handled after the answer has been set. -/
theorem mirror_moved_back :
    let mirror := state step {} [.setDescription (.local .offer), .reply 0 true,
      .setDescription (.remote .answer), .reply 0 true, .signalingStateChange .haveLocalOffer]
    mirror.signalingState = .haveLocalOffer ∧ ¬ mirror.Mirrors :=
  ⟨rfl, fun h => nomatch h .stable rfl⟩

end ConnectionMirror

end LiveKit.Ohos
