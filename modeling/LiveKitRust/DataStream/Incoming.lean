import LiveKitRust.Base.Machine
import LiveKitRust.Base.Maps
import LiveKitRust.DataStream.Basic

/-!
# Incoming data streams

`IncomingStreamManager` keeps a descriptor of every open stream, by the stream's id. A header opens
a stream and hands a reader out; chunks are passed to the reader through a channel; a trailer, or
something out of order, closes the stream, which the reader notices by the channel's end or by an
error in it.

`Reader` is the channel of a reader, with its two ends. Readers are named by the id of their stream
and their number among the readers that were opened under the id. A poll that is ready puts what
came out of the channel into the log (`Received`).
-/

namespace LiveKit.DataStream

/-! ### Readers -/

inductive Receiver where
  | listening
  /-- After `close()`: nothing more can be sent, what was sent can be received. -/
  | closed
  | dropped
  deriving DecidableEq

structure Reader where
  info : AnyStreamInfo
  identity : String
  queue : List (StreamResult Bytes) := []
  senderOpen : Bool := true
  receiver : Receiver := .listening
  deriving DecidableEq

namespace Reader

variable (self : Reader)

def push (item : StreamResult Bytes) : Reader :=
  { self with queue := self.queue ++ [item] }

/-- `chunk_tx.send(item)`; it fails when the receiving end is gone or closed. -/
def send (item : StreamResult Bytes) : Option Reader :=
  match self.receiver with
  | .listening => some (self.push item)
  | _ => none

def hangUp : Reader := { self with senderOpen := false }

/-- A last error is sent, if the receiving end is still there. -/
def fail (error : StreamError) : Reader :=
  ((self.send (.error error)).getD self).hangUp

/-- `chunk_rx.poll_recv`; pending is `none`, and the end of the channel `some none`. -/
def pollRecv : Option (Option (StreamResult Bytes)) × Reader :=
  match self.queue with
  | item :: queue => (some (some item), { self with queue := queue })
  | [] => (if self.senderOpen ∧ self.receiver = .listening then none else some none, self)

def rejects : Option (Option (StreamResult Bytes)) → Bool
  | some (some (.ok chunk)) => self.info.content = .textHeader ∧ Utf8.decode chunk = none
  | _ => false

/-- `poll_next` of the two kinds of readers. A text reader closes the channel at a
chunk that it cannot decode. What it makes of the items is `decodeItem`. -/
def pollNext : Option (Option (StreamResult Bytes)) × Reader :=
  let (item, after) := self.pollRecv
  (item, if self.rejects item then { after with receiver := .closed } else after)

end Reader

/-- An item of the channel, as a text reader yields it. -/
def decodeItem : StreamResult Bytes → StreamResult String
  | .ok chunk =>
    match Utf8.decode chunk with
    | some content => .ok content
    | none => .error (.utf8 chunk)
  | .error e => .error e

/-- The loop of `read_all` over the ready polls of the reader; `none` while it still
waits. -/
def readAll {α : Type} (extend : α → α → α) : α → List (Option (StreamResult α)) →
    Option (StreamResult α)
  | _, [] => none
  | buffer, some (.ok chunk) :: items => readAll extend (extend buffer chunk) items
  | _, some (.error e) :: _ => some (.error e)
  | buffer, none :: _ => some (.ok buffer)

def ByteStreamReader.readAll (items : List (Option (StreamResult Bytes))) :
    Option (StreamResult Bytes) :=
  DataStream.readAll (· ++ ·) [] items

def TextStreamReader.readAll (items : List (Option (StreamResult Bytes))) :
    Option (StreamResult String) :=
  DataStream.readAll (· ++ ·) "" (items.map (Option.map decodeItem))

/-! ### Descriptors -/

structure Descriptor where
  progress : StreamProgress
  /-- The number of the reader that the chunks go to. -/
  chunkTx : ℕ
  encryptionType : EncryptionType
  isInternal : Bool
  deriving DecidableEq

namespace Descriptor

/-- The checks of `handle_chunk`: the progress with the chunk, or why the stream is
closed. -/
def accept (self : Descriptor) (chunk : Chunk) (encryptionType : EncryptionType) :
    StreamResult StreamProgress :=
  if self.encryptionType ≠ encryptionType then .error .encryptionTypeMismatch
  else if self.progress.chunkIndex ≠ chunk.chunkIndex then .error .missedChunk
  else
    let progress := self.progress.advance chunk.content.length
    if progress.bytesTotal.any (· < progress.bytesProcessed) then .error .lengthExceeded
    else .ok progress

def finish (self : Descriptor) (trailer : Trailer) : StreamResult Unit :=
  if !self.progress.bytesTotal.all (· ≤ self.progress.bytesProcessed) then .error .incomplete
  else if trailer.reason ≠ "" then .error (.abnormalEnd trailer.reason)
  else .ok ()

end Descriptor

/-! ### The manager -/

structure Incoming where
  openStreams : Map StreamId Descriptor
  reservedTopics : List String
  readers : Map StreamId (List Reader)
  alive : Bool

namespace Incoming

def new (reservedTopics : List String) : Incoming where
  openStreams := ∅
  reservedTopics := reservedTopics
  readers := ∅
  alive := true

variable (self : Incoming)

def readersOf (id : StreamId) : List Reader := (self.readers.lookup id).getD []

/-- Something happens to a reader's channel. -/
def modifyReader (id : StreamId) (n : ℕ) (f : Reader → Reader) : Incoming :=
  { self with readers := self.readers.insert id ((self.readersOf id).modify n f) }

def closeStream (id : StreamId) : Incoming :=
  match self.openStreams.lookup id with
  | none => self
  | some descriptor =>
    -- dropping the sender closes the channel
    { self with openStreams := self.openStreams.erase id }.modifyReader id descriptor.chunkTx
      Reader.hangUp

def closeStreamWithError (id : StreamId) (error : StreamError) : Incoming :=
  match self.openStreams.lookup id with
  | none => self
  | some descriptor =>
    { self with openStreams := self.openStreams.erase id }.modifyReader id descriptor.chunkTx
      fun reader => reader.fail error

def yieldChunk (id : StreamId) (chunk : Bytes) : Incoming :=
  match self.openStreams.lookup id with
  | none => self
  | some descriptor =>
    match (self.readersOf id)[descriptor.chunkTx]?.bind (·.send (.ok chunk)) with
    | some reader => self.modifyReader id descriptor.chunkTx fun _ => reader
    | none => self.closeStream id

def handleHeader (header : Header) (identity : String)
    (encryptionType : EncryptionType) : Incoming :=
  let isInternal := self.reservedTopics.any (· = header.topic)
  match AnyStreamInfo.tryFromWithEncryption header encryptionType with
  | .error _ => self
  | .ok info =>
    if (self.openStreams.lookup info.id).isSome then self
    else { self with
        readers := self.readers.insert info.id
          (self.readersOf info.id ++ [⟨info, identity, [], true, .listening⟩])
        openStreams := self.openStreams.insert info.id
          ⟨⟨0, 0, info.totalLength⟩, (self.readersOf info.id).length, info.encryptionType,
            isInternal⟩ }

def handleChunk (chunk : Chunk) (encryptionType : EncryptionType) : Incoming :=
  match self.openStreams.lookup chunk.streamId with
  | none => self
  | some descriptor =>
    match descriptor.accept chunk encryptionType with
    | .error e => self.closeStreamWithError chunk.streamId e
    | .ok progress =>
      { self with
        openStreams := self.openStreams.insert chunk.streamId
          { descriptor with progress := progress } }.yieldChunk chunk.streamId chunk.content

def handleTrailer (trailer : Trailer) : Incoming :=
  match self.openStreams.lookup trailer.streamId with
  | none => self
  | some descriptor =>
    match descriptor.finish trailer with
    | .error e => self.closeStreamWithError trailer.streamId e
    | .ok () => self.closeStream trailer.streamId

/-- The packet is handed to the manager, as the room does with what it receives. The
participant that sent it is known for each kind of packet, and passed on for headers. -/
def handlePacket (participantIdentity : String) (encryptionType : EncryptionType) :
    DataPacket → Incoming
  | .streamHeader header => self.handleHeader header participantIdentity encryptionType
  | .streamChunk chunk => self.handleChunk chunk encryptionType
  | .streamTrailer trailer => self.handleTrailer trailer

def next (id : StreamId) (n : ℕ) : Incoming × List (Option (StreamResult Bytes)) :=
  match (self.readersOf id)[n]? with
  | none => (self, [])
  | some reader =>
    if reader.receiver = .dropped then (self, [])
    else (self.modifyReader id n fun _ => reader.pollNext.2, reader.pollNext.1.toList)

def drop : Incoming where
  openStreams := ∅
  reservedTopics := self.reservedTopics
  readers := self.readers.mapVals fun id readers =>
    match self.openStreams.lookup id with
    | some descriptor => readers.modify descriptor.chunkTx Reader.hangUp
    | none => readers
  alive := false

end Incoming

inductive Action where
  | packet (participantIdentity : String) (encryptionType : EncryptionType) (packet : DataPacket)
  | next (id : StreamId) (n : ℕ)
  | close (id : StreamId) (n : ℕ)
  | drop
  deriving DecidableEq

/-- What came out of a reader's channel, `none` being its end. -/
structure Received where
  id : StreamId
  n : ℕ
  item : Option (StreamResult Bytes)
  deriving DecidableEq

/-- A packet is handled while the manager is alive. -/
def Incoming.step (self : Incoming) : Action → Incoming × List Received
  | .packet participantIdentity encryptionType packet =>
    (if self.alive then self.handlePacket participantIdentity encryptionType packet else self, [])
  | .next id n => ((self.next id n).1, (self.next id n).2.map (Received.mk id n))
  | .close id n => (self.modifyReader id n fun reader => { reader with receiver := .dropped }, [])
  | .drop => (self.drop, [])

end LiveKit.DataStream
