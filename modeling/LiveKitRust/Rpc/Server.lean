import LiveKitRust.Base.Outcome
import LiveKitRust.Rpc.Basic

/-!
# The side that answers (`room/rpc/server.rs`)

Every request is handled by a task of its own: it sends the acknowledgement, calls the handler
of the method and sends what the handler returns. The tasks share the map of the handlers, and
each looks into it once.

What the task does is a list of `Effect`s. The transport is an argument: it says of each packet
and text whether it could be sent. `documented` says what a request is to be answered with, case
by case, and `server_answers` is the theorem: one acknowledgement, then one answer, the
documented one. The exception is a text stream that cannot be sent. Then the task falls back to
an error packet, so there is a second answer (`answered_twice`).
-/

open Rust

namespace LiveKit.Rpc

/-- Data passed to method handler for incoming RPC invocations. Times are in milliseconds. -/
structure RpcInvocationData where
  requestId : String
  callerIdentity : String
  payload : String
  responseTimeout : ℕ
  deriving DecidableEq

/-- What a handler comes to. It runs in a task of its own, so that a panic ends that task only. -/
abbrev RpcHandlerFn := RpcInvocationData → Outcome RpcError String

structure HandleRequestOptions where
  callerIdentity : String
  requestId : String
  method : String
  payload : String
  responseTimeout : ℕ
  version : ℕ

/-- Whether something can be sent, with the text of the error. -/
structure Transport where
  publishData : DataPacket → Except String Unit
  sendText : String → TextOptions → Except String Unit

inductive Effect where
  | published (packet : DataPacket)
  | sentText (text : String) (options : TextOptions)
  | invoked (data : RpcInvocationData)
  | panicked

/-- A request as a text stream: its attributes, and what reading it to the end gives. -/
structure TextStreamReader where
  attributes : Map String String
  readAll : Except String String

/-- `str::parse` for an unsigned type with the values below `limit`. -/
def parseUnsigned (limit : ℕ) (s : String) : Option ℕ :=
  let digits := match s.toList with
    | '+' :: rest => rest
    | chars => chars
  if digits ≠ [] ∧ digits.all Char.isDigit then
    let n := digits.foldl (fun n c => 10 * n + (c.toNat - '0'.toNat)) 0
    if n < limit then some n else none
  else none

namespace TextStreamReader

variable (self : TextStreamReader)

def requestId : String :=
  (self.attributes.lookup ATTR_REQUEST_ID).getD ""

def method : String := (self.attributes.lookup ATTR_METHOD).getD ""

def responseTimeoutMs : ℕ :=
  ((self.attributes.lookup ATTR_RESPONSE_TIMEOUT_MS).bind (parseUnsigned (2 ^ 64))).getD 15000

def version : ℕ :=
  ((self.attributes.lookup ATTR_VERSION).bind (parseUnsigned (2 ^ 32))).getD 0

end TextStreamReader

structure RpcServerManager where
  handlers : Map String RpcHandlerFn

namespace RpcServerManager

def new : RpcServerManager := ⟨∅⟩

variable (self : RpcServerManager)

def registerMethod (method : String) (handler : RpcHandlerFn) :
    RpcServerManager :=
  ⟨self.handlers.insert method handler⟩

def getHandler (method : String) : Option RpcHandlerFn :=
  self.handlers.lookup method

def ackPacket (destinationIdentity requestId : String) : DataPacket :=
  ⟨.rpcAck requestId, [destinationIdentity]⟩

def publishRpcAck (destinationIdentity requestId : String) : List Effect :=
  [.published (ackPacket destinationIdentity requestId)]

def responsePacket (destinationIdentity requestId : String) (value : Value) : DataPacket :=
  ⟨.rpcResponse requestId value, [destinationIdentity]⟩

def publishRpcResponsePacket (destinationIdentity requestId : String) (payload : Option String)
    (error : Option RpcErrorProto) : List Effect :=
  match error with
  | some error => [.published (responsePacket destinationIdentity requestId (.error error))]
  | none =>
    match payload with
    | some payload => [.published (responsePacket destinationIdentity requestId (.payload payload))]
    | none => [.panicked]

def invokeHandler (callerIdentity requestId method payload : String)
    (responseTimeout : ℕ) : List Effect × Except RpcError String :=
  match self.getHandler method with
  | some handler =>
    let data := ⟨requestId, callerIdentity, payload, responseTimeout⟩
    match handler data with
    | .ok result => ([.invoked data], .ok result)
    | .err error => ([.invoked data], .error error)
    | .panic => ([.invoked data], .error (.builtIn .applicationError none))
  | none => ([], .error (.builtIn .unsupportedMethod none))

/-- Handle an incoming v1 RPC request (received as a DataPacket). What the transport says is
logged and no more. -/
def handleV1Request (options : HandleRequestOptions) : List Effect :=
  let (invoked, response) := if options.version ≠ RPC_VERSION_V1 then
      ([], .error (.builtIn .unsupportedVersion none))
    else
      self.invokeHandler options.callerIdentity options.requestId options.method options.payload
        options.responseTimeout
  let (respPayload, error) : Option String × Option RpcErrorProto := match response with
    | .ok responsePayload =>
      if byteLength responsePayload ≤ MAX_V1_PAYLOAD_BYTES then (some responsePayload, none)
      else (none, some (RpcError.builtIn .responsePayloadTooLarge none).toProto)
    | .error e => (none, some e.toProto)
  publishRpcAck options.callerIdentity options.requestId ++ invoked ++
    publishRpcResponsePacket options.callerIdentity options.requestId respPayload error

def responseOptions (callerIdentity requestId : String) : TextOptions where
  topic := RPC_RESPONSE_TOPIC
  attributes := (∅ : Map String String).insert ATTR_REQUEST_ID requestId
  destinationIdentities := [callerIdentity]

def handleV2RequestStream (transport : Transport)
    (reader : TextStreamReader) (callerIdentity : String) : List Effect :=
  let requestId := reader.requestId
  let respond (error : RpcError) : List Effect :=
    publishRpcResponsePacket callerIdentity requestId none (some error.toProto)
  let ack := publishRpcAck callerIdentity requestId
  if reader.version ≠ RPC_VERSION_V2 then
    ack ++ respond (.builtIn .unsupportedVersion none)
  else
    match reader.readAll with
    | .error e =>
      ack ++ respond (.builtIn .applicationError (some ("Failed to read request stream: " ++ e)))
    | .ok payload =>
      match self.invokeHandler callerIdentity requestId reader.method payload
        reader.responseTimeoutMs with
      | (invoked, .ok responsePayload) =>
        let options := responseOptions callerIdentity requestId
        ack ++ invoked ++ .sentText responsePayload options ::
          match transport.sendText responsePayload options with
          | .ok _ => []
          -- fall back to error via v1 packet
          | .error e => respond (.builtIn .sendFailed (some e))
      | (invoked, .error e) => ack ++ invoked ++ respond e

/-! ### What a request is answered with -/

inductive Request where
  | v1 (options : HandleRequestOptions)
  | v2 (reader : TextStreamReader) (callerIdentity : String)

def handle (transport : Transport) : Request → List Effect
  | .v1 options => self.handleV1Request options
  | .v2 reader callerIdentity => self.handleV2RequestStream transport reader callerIdentity

namespace Request

def callerIdentity : Request → String
  | v1 options => options.callerIdentity
  | v2 _ callerIdentity => callerIdentity

def requestId : Request → String
  | v1 options => options.requestId
  | v2 reader _ => reader.requestId

def method : Request → String
  | v1 options => options.method
  | v2 reader _ => reader.method

def SupportedVersion : Request → Prop
  | v1 options => options.version = RPC_VERSION_V1
  | v2 reader _ => reader.version = RPC_VERSION_V2

def payload : Request → Except String String
  | v1 options => .ok options.payload
  | v2 reader _ => reader.readAll

def responseTimeout : Request → ℕ
  | v1 options => options.responseTimeout
  | v2 reader _ => reader.responseTimeoutMs

/-- The limit on the payload of the answer. -/
def Fits : Request → String → Prop
  | v1 _, payload => byteLength payload ≤ MAX_V1_PAYLOAD_BYTES
  | v2 .., _ => True

instance (request : Request) : Decidable request.SupportedVersion := by
  unfold Request.SupportedVersion
  split <;> infer_instance

instance (request : Request) (response : String) : Decidable (request.Fits response) := by
  unfold Request.Fits
  split <;> infer_instance

end Request

def documented (self : RpcServerManager) (request : Request) : Value :=
  if ¬ request.SupportedVersion then
    .error (RpcError.builtIn .unsupportedVersion none).toProto
  else
    match request.payload with
    | .error e =>
      .error (RpcError.builtIn .applicationError
        (some ("Failed to read request stream: " ++ e))).toProto
    | .ok payload =>
      match self.getHandler request.method with
      | none => .error (RpcError.builtIn .unsupportedMethod none).toProto
      | some handler =>
        match handler
          ⟨request.requestId, request.callerIdentity, payload, request.responseTimeout⟩ with
        | .panic => .error (RpcError.builtIn .applicationError none).toProto
        -- an error of the handler's own
        | .err e => .error e.toProto
        | .ok response =>
          if request.Fits response then .payload response
          else .error (RpcError.builtIn .responsePayloadTooLarge none).toProto

inductive Answered (transport : Transport) (request : Request) : Value → List Effect → Prop where
  | packet (value : Value) (h : (∃ options, request = .v1 options) ∨ ∃ e, value = .error e) :
    Answered transport request value
      [.published (ackPacket request.callerIdentity request.requestId),
        .published (responsePacket request.callerIdentity request.requestId value)]
  | stream (response : String) (h : ∃ reader callerIdentity, request = .v2 reader callerIdentity)
    (h_sent : transport.sendText response
      (responseOptions request.callerIdentity request.requestId) = .ok ()) :
    Answered transport request (.payload response)
      [.published (ackPacket request.callerIdentity request.requestId),
        .sentText response (responseOptions request.callerIdentity request.requestId)]
  /-- The stream could not be sent. -/
  | fellBack (response e : String)
    (h : ∃ reader callerIdentity, request = .v2 reader callerIdentity)
    (h_sent : transport.sendText response
      (responseOptions request.callerIdentity request.requestId) = .error e) :
    Answered transport request (.payload response)
      [.published (ackPacket request.callerIdentity request.requestId),
        .sentText response (responseOptions request.callerIdentity request.requestId),
        .published (responsePacket request.callerIdentity request.requestId
          (.error (RpcError.builtIn .sendFailed (some e)).toProto))]

/-- All but the calls of handlers. -/
def sends (effects : List Effect) : List Effect :=
  effects.filter fun
    | .invoked _ => false
    | .published _ | .sentText .. | .panicked => true

lemma sends_append (effs effects') :
    sends (effs ++ effects') = sends effs ++ sends effects' := List.filter_append ..

@[simp] lemma sends_invokeHandler (s : RpcServerManager)
    (caller requestId method data : String) (responseTimeout : ℕ) :
    sends (s.invokeHandler caller requestId method data responseTimeout).1 = [] := by
  unfold invokeHandler
  split
  · dsimp only
    split <;> rfl
  · rfl

variable (self : RpcServerManager) (transport : Transport)

lemma documented_of_supported (req) {data} (hversion : req.SupportedVersion)
    (hpay : req.payload = .ok data) : self.documented req =
      match (self.invokeHandler req.callerIdentity req.requestId req.method data
        req.responseTimeout).2 with
      | .error e => .error e.toProto
      | .ok resp =>
        if req.Fits resp then .payload resp
        else .error (RpcError.builtIn .responsePayloadTooLarge none).toProto := by
  unfold documented invokeHandler
  rw [if_neg (not_not.mpr hversion), hpay]
  cases self.getHandler req.method with
  | none => rfl
  | some handler =>
    dsimp only
    cases handler ⟨req.requestId, req.callerIdentity, data, req.responseTimeout⟩ with
    | ok | err | panic => rfl

lemma sends_handleV1Request (opts : HandleRequestOptions) : sends (self.handleV1Request opts) =
      [.published (ackPacket opts.callerIdentity opts.requestId),
        .published (responsePacket opts.callerIdentity opts.requestId
          (self.documented (.v1 opts)))] := by
  by_cases hversion : opts.version = RPC_VERSION_V1
  · rw [self.documented_of_supported (.v1 opts) hversion rfl]
    have hinvoked := self.sends_invokeHandler opts.callerIdentity opts.requestId
      opts.method opts.payload opts.responseTimeout
    unfold handleV1Request
    rw [if_neg (not_not.mpr hversion)]
    simp only [Request.callerIdentity, Request.requestId, Request.method, Request.responseTimeout]
    generalize self.invokeHandler opts.callerIdentity opts.requestId opts.method
      opts.payload opts.responseTimeout = res at hinvoked ⊢
    obtain ⟨_, resp⟩ := res
    rw [sends_append, sends_append, hinvoked]
    cases resp with
    | error => rfl
    | ok resp =>
      have hlimit : (Request.v1 opts).Fits resp ↔ byteLength resp ≤ MAX_V1_PAYLOAD_BYTES := Iff.rfl
      by_cases hfits : byteLength resp ≤ MAX_V1_PAYLOAD_BYTES
      · simp only [if_pos hfits, if_pos (hlimit.mpr hfits)]
        rfl
      · simp only [if_neg hfits, if_neg (mt hlimit.mp hfits)]
        rfl
  · unfold handleV1Request documented
    rw [if_pos hversion, if_pos (show ¬ (Request.v1 opts).SupportedVersion from hversion)]
    rfl

lemma answered_v2 (r : TextStreamReader) (caller : String) :
    Answered transport (.v2 r caller) (self.documented (.v2 r caller))
      (sends (self.handleV2RequestStream transport r caller)) := by
  by_cases hversion : r.version = RPC_VERSION_V2
  · cases hread : r.readAll with
    | error =>
      unfold handleV2RequestStream documented
      rw [if_neg (not_not.mpr hversion), hread,
        if_neg (not_not.mpr (show (Request.v2 r caller).SupportedVersion from hversion))]
      simp only [Request.payload, hread]
      exact .packet _ (.inr ⟨_, rfl⟩)
    | ok data =>
      rw [self.documented_of_supported (.v2 r caller) hversion hread]
      have hinvoked := self.sends_invokeHandler caller r.requestId r.method data r.responseTimeoutMs
      unfold handleV2RequestStream
      rw [if_neg (not_not.mpr hversion), hread]
      simp only [Request.callerIdentity, Request.requestId, Request.method, Request.responseTimeout]
      generalize self.invokeHandler caller r.requestId r.method data
        r.responseTimeoutMs = res at hinvoked ⊢
      obtain ⟨_, resp⟩ := res
      cases resp with
      | error =>
        rw [sends_append, sends_append, hinvoked]
        exact .packet _ (.inr ⟨_, rfl⟩)
      | ok resp =>
        rw [sends_append, sends_append, hinvoked]
        cases hsent : transport.sendText resp (responseOptions caller r.requestId) with
        | ok => exact .stream resp ⟨_, _, rfl⟩ hsent
        | error e => exact .fellBack resp e ⟨_, _, rfl⟩ hsent
  · unfold handleV2RequestStream documented
    rw [if_pos hversion, if_pos (show ¬ (Request.v2 r caller).SupportedVersion from hversion)]
    exact .packet _ (.inr ⟨_, rfl⟩)

/-- **A request is acknowledged once and answered once**, with the documented answer, whatever
the handler does and whatever can be sent. The exception is an answer as a stream that cannot be
sent: an error packet follows it. -/
theorem server_answers (request : Request) :
    Answered transport request (self.documented request)
      (sends (self.handle transport request)) := by
  cases request with
  | v1 opts =>
    show Answered _ _ _ (sends (self.handleV1Request opts))
    rw [sends_handleV1Request]
    exact .packet _ (.inl ⟨opts, rfl⟩)
  | v2 r caller => exact answered_v2 self transport r caller

/-- A method that echoes, and a transport that cannot send texts. -/
def sampleServer : RpcServerManager := new.registerMethod "echo" fun data => .ok data.payload

def sampleTransport : Transport := ⟨fun _ => .ok (), fun _ _ => .error "disconnected"⟩

def sampleStream : TextStreamReader where
  attributes := (((∅ : Map String String).insert ATTR_REQUEST_ID "1").insert ATTR_METHOD
    "echo").insert ATTR_VERSION "2"
  readAll := .ok "hello"

/-- The answer is attempted as a stream, and then there is an error packet for the request. -/
theorem answered_twice : sends (sampleServer.handle sampleTransport (.v2 sampleStream "alice")) =
      [.published (ackPacket "alice" "1"), .sentText "hello" (responseOptions "alice" "1"),
        .published (responsePacket "alice" "1" (.error
          (RpcError.builtIn .sendFailed (some "disconnected")).toProto))] := by
  rfl

end RpcServerManager

end LiveKit.Rpc
