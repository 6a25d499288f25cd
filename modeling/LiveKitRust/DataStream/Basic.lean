import LiveKitRust.DataStream.Utf8Chunk

/-!
# Data streams

A data stream is sent as a header, numbered chunks and a trailer, each a data packet
that names the stream by its id. Both sides keep a `StreamProgress`.

The counters are `u64` in the source and natural numbers here: a stream does not get
to `2 ^ 64` bytes.
-/

namespace LiveKit.DataStream

abbrev StreamId := String

inductive EncryptionType where
  | none
  | gcm
  | custom
  deriving DecidableEq

inductive StreamError where
  | alreadyClosed
  | abnormalEnd (reason : String)
  | utf8 (bytes : Bytes)
  | invalidHeader
  | missedChunk
  | lengthExceeded
  | incomplete
  | sendFailed
  | internal
  | encryptionTypeMismatch
  deriving DecidableEq

abbrev StreamResult (α : Type) := Except StreamError α

structure StreamProgress where
  chunkIndex : ℕ := 0
  bytesProcessed : ℕ := 0
  bytesTotal : Option ℕ := .none
  deriving DecidableEq

def StreamProgress.advance (self : StreamProgress) (length : ℕ) : StreamProgress :=
  { self with
    chunkIndex := self.chunkIndex + 1
    bytesProcessed := self.bytesProcessed + length }

/-! ### Packets -/

inductive ContentHeader where
  | byteHeader
  | textHeader
  deriving DecidableEq

structure Header where
  streamId : StreamId
  topic : String
  totalLength : Option ℕ
  contentHeader : Option ContentHeader
  deriving DecidableEq

structure Chunk where
  streamId : StreamId
  chunkIndex : ℕ
  content : Bytes
  deriving DecidableEq

structure Trailer where
  streamId : StreamId
  reason : String
  deriving DecidableEq

inductive DataPacket where
  | streamHeader (header : Header)
  | streamChunk (chunk : Chunk)
  | streamTrailer (trailer : Trailer)
  deriving DecidableEq

def DataPacket.streamId : DataPacket → StreamId
  | .streamHeader header => header.streamId
  | .streamChunk chunk => chunk.streamId
  | .streamTrailer trailer => trailer.streamId

/-! ### Stream information -/

/-- `ByteStreamInfo` and `TextStreamInfo`, told apart by the content header. -/
structure AnyStreamInfo where
  content : ContentHeader
  id : StreamId
  topic : String
  totalLength : Option ℕ
  encryptionType : EncryptionType
  deriving DecidableEq

def AnyStreamInfo.tryFromWithEncryption (header : Header) (encryptionType : EncryptionType) :
    StreamResult AnyStreamInfo :=
  match header.contentHeader with
  | .none => .error .invalidHeader
  | .some content =>
    .ok ⟨content, header.streamId, header.topic, header.totalLength, encryptionType⟩

end LiveKit.DataStream
