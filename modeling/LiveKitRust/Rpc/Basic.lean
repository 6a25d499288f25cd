import LiveKitRust.Base.Maps
import Mathlib.Algebra.Group.Nat.Defs

/-!
# RPC (`room/rpc/mod.rs`)

A participant calls a method of another one. The request goes out, the other side acknowledges it
and answers with a payload or an error. Acknowledgements and errors are data packets. Requests and
payloads are data packets too in version 1, and text streams in version 2.

The texts of an error are cut at the limits that `RpcError.new` sets for them, also those of an
error that comes in. They are cut between characters, so that they stay well formed.
-/

namespace LiveKit.Rpc

def RPC_VERSION_V1 : ℕ := 1
def RPC_VERSION_V2 : ℕ := 2

def RPC_REQUEST_TOPIC : String := "lk.rpc_request"
def RPC_RESPONSE_TOPIC : String := "lk.rpc_response"

def ATTR_REQUEST_ID : String := "lk.rpc_request_id"
def ATTR_METHOD : String := "lk.rpc_request_method"
def ATTR_RESPONSE_TIMEOUT_MS : String := "lk.rpc_request_response_timeout_ms"
def ATTR_VERSION : String := "lk.rpc_request_version"

def MAX_V1_PAYLOAD_BYTES : ℕ := 15360

def byteLength (s : String) : ℕ := s.utf8ByteSize

def truncateChars (maxBytes : ℕ) (result : String) : List Char → String
  | [] => result
  | c :: rest =>
    if maxBytes < byteLength (result.push c) then result
    else truncateChars maxBytes (result.push c) rest

def truncateBytes (s : String) (maxBytes : ℕ) : String :=
  if byteLength s ≤ maxBytes then s else truncateChars maxBytes "" s.toList

/-! ### Errors -/

inductive RpcErrorCode where
  | applicationError
  | connectionTimeout
  | responseTimeout
  | recipientDisconnected
  | responsePayloadTooLarge
  | sendFailed
  | unsupportedMethod
  | recipientNotFound
  | requestPayloadTooLarge
  | unsupportedServer
  | unsupportedVersion
  deriving DecidableEq

namespace RpcErrorCode

def toNat : RpcErrorCode → ℕ
  | applicationError => 1500
  | connectionTimeout => 1501
  | responseTimeout => 1502
  | recipientDisconnected => 1503
  | responsePayloadTooLarge => 1504
  | sendFailed => 1505
  | unsupportedMethod => 1400
  | recipientNotFound => 1401
  | requestPayloadTooLarge => 1402
  | unsupportedServer => 1403
  | unsupportedVersion => 1404

def message : RpcErrorCode → String
  | applicationError => "Application error in method handler"
  | connectionTimeout => "Connection timeout"
  | responseTimeout => "Response timeout"
  | recipientDisconnected => "Recipient disconnected"
  | responsePayloadTooLarge => "Response payload too large"
  | sendFailed => "Failed to send"
  | unsupportedMethod => "Method not supported at destination"
  | recipientNotFound => "Recipient not found"
  | requestPayloadTooLarge => "Request payload too large"
  | unsupportedServer => "RPC not supported by server"
  | unsupportedVersion => "Unsupported RPC version"

end RpcErrorCode

structure RpcErrorProto where
  code : ℕ
  message : String
  data : String
  deriving DecidableEq

structure RpcError where
  code : ℕ
  message : String
  data : Option String
  deriving DecidableEq

namespace RpcError

def MAX_MESSAGE_BYTES : ℕ := 256
def MAX_DATA_BYTES : ℕ := MAX_V1_PAYLOAD_BYTES

def new (code : ℕ) (message : String) (data : Option String) : RpcError where
  code := code
  message := truncateBytes message MAX_MESSAGE_BYTES
  data := data.map fun d => truncateBytes d MAX_DATA_BYTES

def fromProto (proto : RpcErrorProto) : RpcError :=
  new proto.code proto.message (some proto.data)

def toProto (self : RpcError) : RpcErrorProto where
  code := self.code
  message := self.message
  data := self.data.getD ""

def builtIn (code : RpcErrorCode) (data : Option String) : RpcError :=
  new code.toNat code.message data

end RpcError

/-! ### Messages -/

inductive Value where
  | payload (payload : String)
  | error (error : RpcErrorProto)
  deriving DecidableEq

inductive Message where
  | rpcRequest (id method payload : String) (responseTimeoutMs version : ℕ)
  | rpcAck (requestId : String)
  | rpcResponse (requestId : String) (value : Value)
  deriving DecidableEq

structure DataPacket where
  value : Message
  destinationIdentities : List String
  deriving DecidableEq

/-- The options of a text stream that RPC sets; the others have their defaults. -/
structure TextOptions where
  topic : String
  attributes : Map String String
  destinationIdentities : List String

end LiveKit.Rpc
