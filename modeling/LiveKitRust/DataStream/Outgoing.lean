import LiveKitRust.Base.Machine
import LiveKitRust.DataStream.Basic

/-!
# Writing data streams

Opening a stream sends its header. The writer that is returned can be cloned, and the clones share
one `RawStream` behind a lock: a `write` or `close` waits for the lock and keeps it until it
returns, also while it waits for the transport to answer for a packet. Its future can be dropped at
either place. When the last writer is gone, the stream sends its trailer, if it was not closed.

The operations of `RawStream` are split where they await the transport: the packet they hand over,
and what they do with the answer. `Writers` is the stream with the calls made on it; the outputs are
the packets handed to the transport.

The header of a file stream and its chunks, which are read from the file 8 KB at a time, are not
modelled.
-/

namespace LiveKit.DataStream

def chunkSize : ℕ := 15000

inductive Response where
  | ok
  | failed
  | closed
  deriving DecidableEq

def sendPacket : Response → StreamResult Unit
  | .ok => .ok ()
  | .failed => .error .sendFailed
  | .closed => .error .internal

/-! ### The stream -/

structure RawStream where
  id : StreamId
  progress : StreamProgress
  isClosed : Bool
  deriving DecidableEq

namespace RawStream

def createHeaderPacket (header : Header) : DataPacket := .streamHeader header

def createChunkPacket (id : StreamId) (chunkIndex : ℕ) (content : Bytes) : DataPacket :=
  .streamChunk ⟨id, chunkIndex, content⟩

def createTrailerPacket (id : StreamId) (reason : Option String) : DataPacket :=
  .streamTrailer ⟨id, reason.getD ""⟩

def opened (header : Header) : RawStream where
  id := header.streamId
  progress := { bytesTotal := header.totalLength }
  isClosed := false

variable (self : RawStream)

def chunkPacket (bytes : Bytes) : DataPacket :=
  createChunkPacket self.id self.progress.chunkIndex bytes

def writeChunk (bytes : Bytes) (response : Response) : StreamResult Unit × RawStream :=
  match sendPacket response with
  | .error e => (.error e, self)
  | .ok () => (.ok (), { self with progress := self.progress.advance bytes.length })

/-- `close` up to where it awaits the transport: the packet it hands over. -/
def trailerPacket (reason : Option String) : StreamResult DataPacket :=
  if self.isClosed then .error .alreadyClosed
  else .ok (createTrailerPacket self.id reason)

def close (response : Response) : StreamResult Unit × RawStream :=
  match sendPacket response with
  | .error e => (.error e, self)
  | .ok () => (.ok (), { self with isClosed := true })

def drop : Option DataPacket :=
  if self.isClosed then none
  else some (createTrailerPacket self.id none)

end RawStream

/-! ### Writers -/

/-- What a call of `write` is given, by the kind of writer. -/
inductive Input where
  | bytes (bytes : Bytes)
  | text (text : String)
  deriving DecidableEq

def Input.chunks : Input → List Bytes
  | .bytes input => DataStream.chunks chunkSize input
  | .text input => utf8AwareChunks chunkSize (Utf8.asBytes input)

inductive Request where
  | write (input : Input)
  | close (reason : Option String)
  deriving DecidableEq

inductive Status where
  | waiting
  | running
  | returned (result : StreamResult Unit)
  /-- The future was dropped while it waited for the lock. -/
  | withdrawn
  /-- The future was dropped while it had the lock. -/
  | abandoned
  deriving DecidableEq

structure Call where
  request : Request
  status : Status
  deriving DecidableEq

/-- What the call that has the lock awaits the transport for. -/
inductive Pending where
  | chunk (chunk : Bytes) (rest : List Bytes)
  | trailer
  deriving DecidableEq

structure Writers where
  stream : RawStream
  calls : List Call := []
  lock : Option (ℕ × Pending) := none
  /-- The transport receives requests. -/
  connected : Bool := true
  dropped : Bool := false
  deriving DecidableEq

namespace Writers

def opened (header : Header) : Writers where
  stream := .opened header

variable (self : Writers)

def setStatus (n : ℕ) (status : Status) : Writers :=
  { self with calls := self.calls.modify n fun call => { call with status := status } }

/-- The call ends, which frees the lock. -/
def release (n : ℕ) (status : Status) : Writers :=
  { self.setStatus n status with lock := none }

/-- The call hands over a packet, and awaits the answer. A request on a closed channel
fails at once. -/
def send (n : ℕ) (pending : Pending) (packet : DataPacket) : Writers × List DataPacket :=
  if self.connected then ({ self with lock := some (n, pending) }, [packet])
  else (self.release n (.returned (sendPacket .closed)), [])

/-- The loop of `write`, with the lock. -/
def writeChunks (n : ℕ) : List Bytes → Writers × List DataPacket
  | [] => (self.release n (.returned (.ok ())), [])
  | chunk :: rest => self.send n (.chunk chunk rest) (self.stream.chunkPacket chunk)

def next (n : ℕ) : Option Request :=
  match self.lock, self.calls[n]? with
  | none, some ⟨request, .waiting⟩ => some request
  | _, _ => none

def run (n : ℕ) : Request → Writers × List DataPacket
  | .write input => (self.setStatus n .running).writeChunks n input.chunks
  | .close reason =>
    match self.stream.trailerPacket reason with
    | .error e => (self.release n (.returned (.error e)), [])
    | .ok packet => (self.setStatus n .running).send n .trailer packet

def respond (response : Response) : Writers × List DataPacket :=
  match self.lock with
  | none => (self, [])
  | some (n, .chunk chunk rest) =>
    let (result, stream) := self.stream.writeChunk chunk response
    match result with
    | .ok () => { self with stream := stream }.writeChunks n rest
    | .error e => ({ self with stream := stream }.release n (.returned (.error e)), [])
  | some (n, .trailer) =>
    let (result, stream) := self.stream.close response
    ({ self with stream := stream }.release n (.returned result), [])

def cancel (n : ℕ) : Writers :=
  match self.calls[n]? with
  | some ⟨_, .waiting⟩ => self.setStatus n .withdrawn
  | some ⟨_, .running⟩ => self.release n .abandoned
  | _ => self

/-- No future holds a writer any more. -/
def isIdle : Bool :=
  self.lock = none ∧ self.calls.all (·.status ≠ .waiting)

def drop (hasRuntime : Bool) : Writers × List DataPacket :=
  if self.isIdle ∧ !self.dropped then ({ self with dropped := true },
      if self.connected ∧ hasRuntime then self.stream.drop.toList else [])
  else (self, [])

inductive Action where
  | call (request : Request)
  | run (n : ℕ)
  | respond (response : Response)
  | cancel (n : ℕ)
  | disconnect
  | drop (hasRuntime : Bool)
  deriving DecidableEq

def step : Action → Writers × List DataPacket
  | .call request =>
    (if self.dropped then self else { self with calls := self.calls ++ [⟨request, .waiting⟩] }, [])
  | .run n =>
    match self.next n with
    | some request => self.run n request
    | none => (self, [])
  | .respond response => self.respond response
  | .cancel n => (self.cancel n, [])
  | .disconnect => ({ self with connected := false }, [])
  | .drop hasRuntime => self.drop hasRuntime

end Writers

/-! ### Opening streams -/

structure StreamByteOptions where
  topic : String
  id : Option StreamId
  totalLength : Option ℕ

structure StreamTextOptions where
  topic : String
  id : Option StreamId

def streamText (options : StreamTextOptions) (uuid : StreamId) : Header where
  streamId := options.id.getD uuid
  topic := options.topic
  totalLength := none
  contentHeader := some .textHeader

def streamBytes (options : StreamByteOptions) (uuid : StreamId) : Header where
  streamId := options.id.getD uuid
  topic := options.topic
  totalLength := options.totalLength
  contentHeader := some .byteHeader

def sendText (text : String) (options : StreamTextOptions) (uuid : StreamId) : Header where
  streamId := options.id.getD uuid
  topic := options.topic
  totalLength := some (Utf8.asBytes text).length
  contentHeader := some .textHeader

def sendBytes (bytes : Bytes) (options : StreamByteOptions) (uuid : StreamId) : Header where
  streamId := options.id.getD uuid
  topic := options.topic
  totalLength := some bytes.length
  contentHeader := some .byteHeader

end LiveKit.DataStream
