import LiveKitRust.Base.Machine
import LiveKitRust.Rpc.Server

/-!
# The side that calls (`room/rpc/client.rs`)

A call of `perform_rpc` makes up an id, puts the sending halves of two channels under that id into
two maps, one for the acknowledgement and one for the response, and sends the request. Then it waits
for the two, each for a time. Whatever comes in for an id takes the sending half out of the map and
sends through it.

The calls run at the same time, and each may be dropped while it waits. A step is what happens
between two points where another thread may come in between: a poll of a call, a message coming in,
or a call taking the locks to clean up.
-/

open Rust

namespace LiveKit.Rpc

/-- Parameters for performing an RPC call. Times are in milliseconds. -/
structure PerformRpcData where
  destinationIdentity : String := ""
  method : String := ""
  payload : String := ""
  responseTimeout : ℕ := 15000
  maxRoundTripLatency : ℕ := 7000

/-- A version in the sense of the crate `semver`. -/
structure Version where
  major : ℕ
  minor : ℕ
  patch : ℕ
  /-- It is a pre-release of that version. -/
  pre : Bool

/-- `self < Version::parse("1.8.0")` -/
def Version.belowMinRequired (self : Version) : Bool :=
  self.major < 1 || self.major = 1 &&
    (self.minor < 8 || self.minor = 8 && self.patch = 0 && self.pre)

def CLIENT_PROTOCOL_DATA_STREAM_RPC : ℤ := 1

/-- A `oneshot` channel, as its receiver finds it. -/
inductive Oneshot (α : Type) where
  | empty
  | sent (value : α)
  | closed

inductive Stage where
  | sending
  | awaitingAck
  | ackElapsed
  | awaitingResponse
  | responseElapsed
  | returned (result : Outcome RpcError String)
  /-- The caller has dropped the future. -/
  | dropped

namespace Stage

/-- The call has registered its channels and has not come to its end. -/
def InFlight : Stage → Prop
  | sending | awaitingAck | ackElapsed | awaitingResponse | responseElapsed => True
  | returned _ | dropped => False

instance : DecidablePred InFlight := fun stage => by
  unfold InFlight
  split <;> infer_instance

end Stage

structure Call where
  id : String
  stage : Stage
  ack : Oneshot Unit
  response : Oneshot (Except RpcError String)

inductive Sent where
  | data (packet : DataPacket)
  | text (text : String) (options : TextOptions)

structure RpcClientManager where
  /-- Whose channel the sending half under an id is. -/
  pendingAcks : Map String ℕ
  pendingResponses : Map String ℕ
  calls : List Call

namespace RpcClientManager

def new : RpcClientManager := ⟨∅, ∅, []⟩

variable (self : RpcClientManager)

def setStage (n : ℕ) (stage : Stage) : RpcClientManager :=
  { self with calls := self.calls.modify n fun call => { call with stage := stage } }

def setAck (n : ℕ) (ack : Oneshot Unit) : RpcClientManager :=
  { self with calls := self.calls.modify n fun call => { call with ack := ack } }

def setResponse (n : ℕ) (response : Oneshot (Except RpcError String)) :
    RpcClientManager :=
  { self with calls := self.calls.modify n fun call => { call with response := response } }

/-- Take the sending half under an id out of the map and do something with it, if there is
one: send, or drop it. -/
def removeAck (id : String) (ack : Oneshot Unit) : RpcClientManager :=
  match self.pendingAcks.lookup id with
  | some n => { self with pendingAcks := self.pendingAcks.erase id }.setAck n ack
  | none => self

def removeResponse (id : String) (response : Oneshot (Except RpcError String)) : RpcClientManager :=
  match self.pendingResponses.lookup id with
  | some n =>
    { self with pendingResponses := self.pendingResponses.erase id }.setResponse n response
  | none => self

def cleanUp (id : String) : RpcClientManager :=
  (self.removeAck id .closed).removeResponse id .closed

/-! ### Calls -/

def sendV1Request (destinationIdentity id method payload : String) (responseTimeout : ℕ) : Sent :=
  .data ⟨.rpcRequest id method payload (responseTimeout % 2 ^ 32) RPC_VERSION_V1,
    [destinationIdentity]⟩

def sendV2Request (destinationIdentity id method payload : String) (responseTimeout : ℕ) : Sent :=
  .text payload
    { topic := RPC_REQUEST_TOPIC
      attributes := ((((∅ : Map String String).insert ATTR_REQUEST_ID id).insert ATTR_METHOD
        method).insert ATTR_RESPONSE_TIMEOUT_MS (toString responseTimeout)).insert ATTR_VERSION
        (toString RPC_VERSION_V2)
      destinationIdentities := [destinationIdentity] }

structure Surroundings where
  serverVersion : Option (Option Version)
  remoteClientProtocol : ℤ

def Surroundings.useV2 (self : Surroundings) : Bool :=
  CLIENT_PROTOCOL_DATA_STREAM_RPC ≤ self.remoteClientProtocol

/-- The call returns before anything is sent. -/
def refusal (data : PerformRpcData) (surroundings : Surroundings) :
    Option (Outcome RpcError String) :=
  match surroundings.serverVersion with
  | some none => some .panic
  | some (some version) =>
    if version.belowMinRequired then some (.err (.builtIn .unsupportedServer none))
    else payloadRefusal
  | none => payloadRefusal
where
  payloadRefusal : Option (Outcome RpcError String) :=
    if !surroundings.useV2 && MAX_V1_PAYLOAD_BYTES < byteLength data.payload then
      some (.err (.builtIn .requestPayloadTooLarge none))
    else none

def effectiveTimeout (data : PerformRpcData) : ℕ :=
  max (data.responseTimeout - data.maxRoundTripLatency) 1000

/-- The call registers its channels and begins to send the request. A sending half that is
under its id already is dropped. -/
def register (id : String) : RpcClientManager :=
  let self := self.cleanUp id
  { pendingAcks := self.pendingAcks.insert id self.calls.length
    pendingResponses := self.pendingResponses.insert id self.calls.length
    calls := self.calls ++ [⟨id, .sending, .empty, .empty⟩] }

def performRpc (id : String) (data : PerformRpcData)
    (surroundings : Surroundings) : RpcClientManager × List Sent :=
  match refusal data surroundings with
  | some result =>
    ({ self with calls := self.calls ++ [⟨id, .returned result, .empty, .empty⟩] }, [])
  | none =>
    (self.register id,
      [(if surroundings.useV2 then sendV2Request else sendV1Request) data.destinationIdentity id
        data.method data.payload (effectiveTimeout data)])

/-- The request was sent, or it could not be. -/
def finishSend (n : ℕ) (call : Call) (result : Except String Unit) :
    RpcClientManager :=
  match call.stage, result with
  | .sending, .ok _ => self.setStage n .awaitingAck
  | .sending, .error e =>
    (self.cleanUp call.id).setStage n (.returned (.err (.builtIn .sendFailed (some e))))
  | _, _ => self

/-- A call is polled while it waits. The channel is looked at before the time is. -/
def poll (n : ℕ) (call : Call) (elapsed : Bool) : RpcClientManager :=
  match call.stage with
  | .awaitingAck =>
    match call.ack with
    | .sent _ | .closed => self.setStage n .awaitingResponse
    | .empty => if elapsed then self.setStage n .ackElapsed else self
  | .awaitingResponse =>
    match call.response with
    | .sent (.ok payload) => self.setStage n (.returned (.ok payload))
    | .sent (.error e) => self.setStage n (.returned (.err e))
    | .closed => self.setStage n (.returned (.err (.builtIn .recipientDisconnected none)))
    | .empty => if elapsed then self.setStage n .responseElapsed else self
  | .sending | .ackElapsed | .responseElapsed | .returned _ | .dropped => self

/-- A call whose time is over takes the locks, cleans up and returns. -/
def timeOut (n : ℕ) (call : Call) : RpcClientManager :=
  match call.stage with
  | .ackElapsed =>
    (self.cleanUp call.id).setStage n (.returned (.err (.builtIn .connectionTimeout none)))
  | .responseElapsed =>
    (self.removeResponse call.id .closed).setStage n
      (.returned (.err (.builtIn .responseTimeout none)))
  | .sending | .awaitingAck | .awaitingResponse | .returned _ | .dropped => self

def dropFuture (n : ℕ) (call : Call) : RpcClientManager :=
  match call.stage with
  | .sending | .awaitingAck | .awaitingResponse => self.setStage n .dropped
  | .ackElapsed | .responseElapsed | .returned _ | .dropped => self

/-! ### Messages -/

def handleIncomingRpcAck (requestId : String) : RpcClientManager :=
  self.removeAck requestId (.sent ())

def handleV1ResponsePacket (requestId : String) (payload : Option String)
    (error : Option RpcErrorProto) : RpcClientManager :=
  self.removeResponse requestId <| .sent <| match error with
    | some e => .error (.fromProto e)
    | none => .ok (payload.getD "")

def handleV2ResponseStream (reader : TextStreamReader) :
    RpcClientManager :=
  if reader.requestId = "" then self
  else
    match reader.readAll with
    | .ok payload => self.removeResponse reader.requestId (.sent (.ok payload))
    | .error e =>
      self.removeResponse reader.requestId
        (.sent (.error (.builtIn .applicationError
          (some ("Failed to read response stream: " ++ e)))))

/-! ### Steps -/

inductive Input where
  /-- A call is made; `id` is the one it makes up if it comes to that. -/
  | performRpc (id : String) (data : PerformRpcData) (surroundings : Surroundings)
  | sendFinished (n : ℕ) (result : Except String Unit)
  | poll (n : ℕ) (elapsed : Bool)
  | timeOut (n : ℕ)
  | drop (n : ℕ)
  | rpcAck (requestId : String)
  | rpcResponse (requestId : String) (payload : Option String) (error : Option RpcErrorProto)
  | responseStream (reader : TextStreamReader)

def onCall (n : ℕ) (act : Call → RpcClientManager) : RpcClientManager :=
  match self.calls[n]? with
  | some call => act call
  | none => self

/-- A call that does not exist does not move. -/
def step : Input → RpcClientManager × List Sent
  | .performRpc id data surroundings => self.performRpc id data surroundings
  | .sendFinished n result => (self.onCall n fun call => self.finishSend n call result, [])
  | .poll n elapsed => (self.onCall n fun call => self.poll n call elapsed, [])
  | .timeOut n => (self.onCall n fun call => self.timeOut n call, [])
  | .drop n => (self.onCall n fun call => self.dropFuture n call, [])
  | .rpcAck requestId => (self.handleIncomingRpcAck requestId, [])
  | .rpcResponse requestId payload error =>
    (self.handleV1ResponsePacket requestId payload error, [])
  | .responseStream reader => (self.handleV2ResponseStream reader, [])

end RpcClientManager

/-! ### The version of the server -/

/-- What the server says of itself in its join response. -/
structure ServerInfo where
  version : String

/-- `SessionTransport::server_version`. What is let through is the empty version. -/
def serverVersion (serverInfo : Option ServerInfo) : Option String :=
  serverInfo.bind fun info => if info.version = "" then some info.version else none

/-- What a call over the session finds; `parse` is `Version::parse` of the crate `semver`. -/
def sessionTransport (parse : String → Option Version) (serverInfo : Option ServerInfo)
    (remoteClientProtocol : ℤ) : RpcClientManager.Surroundings :=
  ⟨(serverVersion serverInfo).map parse, remoteClientProtocol⟩

/-- The server has announced a version that is lower than 1.8.0. -/
def Outdated (parse : String → Option Version) (serverInfo : Option ServerInfo) : Prop :=
  ∃ info ∈ serverInfo, ∃ version ∈ parse info.version, version.belowMinRequired

namespace RpcClientManager

/-- A call over the session does not panic, and is turned away if and only if the server is
outdated; then nothing is sent and nothing is left in the maps. -/
def Gated (parse : String → Option Version) (serverInfo : Option ServerInfo)
    (remoteClientProtocol : ℤ) (self : RpcClientManager) (id : String) (data : PerformRpcData) :
    Prop :=
  let (after, sent) := self.performRpc id data
    (sessionTransport parse serverInfo remoteClientProtocol)
  let stage := after.calls.getLast?.map Call.stage
  stage ≠ some (.returned .panic) ∧
    (stage = some (.returned (.err (.builtIn .unsupportedServer none))) ↔
      Outdated parse serverInfo) ∧
    (Outdated parse serverInfo → sent = [] ∧ after.pendingAcks = self.pendingAcks ∧
      after.pendingResponses = self.pendingResponses)

lemma stage_performRpc (s : RpcClientManager) (id : String) (data : PerformRpcData)
    (sur : Surroundings) : (s.performRpc id data sur).1.calls.getLast?.map Call.stage =
      some ((refusal data sur).elim .sending .returned) := by
  unfold performRpc
  cases refusal data sur with
  | none => simp [register]
  | some => simp

section Gate

variable {parse : String → Option Version} {serverInfo : Option ServerInfo}
  {remoteClientProtocol : ℤ} {data : PerformRpcData}

lemma refusal_of_empty (hparse : parse "" = none) (h : some ⟨""⟩ = serverInfo) :
    refusal data (sessionTransport parse serverInfo remoteClientProtocol) = some .panic := by
  subst h
  simp [refusal, sessionTransport, serverVersion, hparse]

lemma refusal_of_ne_empty (h : ∀ info ∈ serverInfo, info.version ≠ "") :
    refusal data (sessionTransport parse serverInfo remoteClientProtocol) = none ∨
      refusal data (sessionTransport parse serverInfo remoteClientProtocol) =
        some (.err (.builtIn .requestPayloadTooLarge none)) := by
  have hn : serverVersion serverInfo = none := by
    refine Option.bind_eq_none_iff.mpr fun info hinfo => ?_
    rw [if_neg (h info hinfo)]
  simp only [refusal, sessionTransport, hn, Option.map_none, refusal.payloadRefusal]
  split
  · exact .inr rfl
  · exact .inl rfl

end Gate

/-- **The version gate.** It does what it is for if and only if the server announces nothing, or
something that is not empty and not a version lower than 1.8.0. -/
theorem gated_iff (parse : String → Option Version) (h_empty : parse "" = none)
    (serverInfo : Option ServerInfo) (remoteClientProtocol : ℤ) (self : RpcClientManager)
    (id : String) (data : PerformRpcData) :
    Gated parse serverInfo remoteClientProtocol self id data ↔
      ∀ info ∈ serverInfo, info.version ≠ "" ∧
        ∀ version ∈ parse info.version, version.belowMinRequired = false := by
  let transport := sessionTransport parse serverInfo remoteClientProtocol
  have hs := self.stage_performRpc id data transport
  -- a version that is not empty never makes the call return for the sake of the server
  have hpasses : (∀ info ∈ serverInfo, info.version ≠ "") → ∀ res,
      (self.performRpc id data transport).1.calls.getLast?.map Call.stage =
        some (.returned res) → res = .err (.builtIn .requestPayloadTooLarge none) := by
    intro hne _ hresult
    rw [hs] at hresult
    rcases refusal_of_ne_empty hne with hn | hlarge
    · rw [hn] at hresult
      cases hresult
    · rw [hlarge] at hresult
      cases hresult
      rfl
  constructor
  · rintro ⟨hpanic, hrefused, -⟩
    have hne : ∀ info ∈ serverInfo, info.version ≠ "" := by
      rintro ⟨_⟩ hinfo rfl
      have hrefusal : refusal data transport = some .panic := refusal_of_empty h_empty hinfo.symm
      rw [hrefusal] at hs
      exact hpanic hs
    refine fun info hinfo => ⟨hne info hinfo, fun version hversion => ?_⟩
    by_contra hlow
    have hsaid := hpasses hne _ (hrefused.mpr
      ⟨info, hinfo, version, hversion, eq_true_of_ne_false hlow⟩)
    cases hsaid
  · intro h
    have hcur : ¬ Outdated parse serverInfo := by
      rintro ⟨info, hinfo, version, hversion, hlow⟩
      cases ((h info hinfo).2 version hversion).symm.trans hlow
    have hpass := hpasses fun info hinfo => (h info hinfo).1
    refine ⟨fun hpanic => ?_, ⟨fun hrefused => ?_, fun hold => ?_⟩, fun hold => ?_⟩
    · cases hpass _ hpanic
    · cases hpass _ hrefused
    · exact absurd hold hcur
    · exact absurd hold hcur

/-- A server that is new enough. -/
theorem gated_newEnough :
    Gated (fun s => if s = "1.9.0" then some ⟨1, 9, 0, false⟩ else none) (some ⟨"1.9.0"⟩) 1
      .new "id"
      {} := by
  refine (gated_iff _ (by decide) _ _ _ _ _).mpr fun info hinfo => ?_
  cases hinfo
  decide

/-- A server that is too old is not noticed, and one that announces an empty version makes the
call panic. -/
theorem gate_open :
    let parse : String → Option Version := fun s =>
      if s = "1.7.0" then some ⟨1, 7, 0, false⟩ else none
    Outdated parse (some ⟨"1.7.0"⟩) ∧
      refusal {} (sessionTransport parse (some ⟨"1.7.0"⟩) 1) = none ∧
      refusal {} (sessionTransport parse (some ⟨""⟩) 1) = some .panic :=
  ⟨⟨_, rfl, _, rfl, rfl⟩, rfl, rfl⟩

end RpcClientManager

end LiveKit.Rpc
