import LiveKitRust.DataStream.Incoming

/-!
# One stream of many

What happens under one stream id is a machine of its own, `Stream`: the descriptor, if the stream is
open, and the readers that were opened under the id. `Incoming.stream` is the part of the manager's
state that belongs to an id, and a run of the manager acts on it as the run of `Stream.step` on the
actions that concern the id (`stream_run`).
-/

open Machine

namespace LiveKit.DataStream

structure Stream where
  reservedTopics : List String
  descriptor : Option Descriptor
  readers : List Reader
  alive : Bool

namespace Stream

variable (self : Stream)

def modifyReader (n : ℕ) (f : Reader → Reader) : Stream :=
  { self with readers := self.readers.modify n f }

def closeStream : Stream :=
  match self.descriptor with
  | none => self
  | some descriptor =>
    { self with descriptor := none }.modifyReader descriptor.chunkTx Reader.hangUp

def closeStreamWithError (error : StreamError) : Stream :=
  match self.descriptor with
  | none => self
  | some descriptor =>
    { self with descriptor := none }.modifyReader descriptor.chunkTx fun reader => reader.fail error

def yieldChunk (chunk : Bytes) : Stream :=
  match self.descriptor with
  | none => self
  | some descriptor =>
    match self.readers[descriptor.chunkTx]?.bind (·.send (.ok chunk)) with
    | some reader => self.modifyReader descriptor.chunkTx fun _ => reader
    | none => self.closeStream

def openWith (info : AnyStreamInfo) (identity : String) : Stream :=
  { self with
    readers := self.readers ++ [⟨info, identity, [], true, .listening⟩]
    descriptor := some ⟨⟨0, 0, info.totalLength⟩, self.readers.length, info.encryptionType,
      self.reservedTopics.any (· = info.topic)⟩ }

def handleHeader (header : Header) (identity : String) (encryptionType : EncryptionType) : Stream :=
  match AnyStreamInfo.tryFromWithEncryption header encryptionType with
  | .error _ => self
  | .ok info => if self.descriptor.isSome then self else self.openWith info identity

def handleChunk (chunk : Chunk) (encryptionType : EncryptionType) : Stream :=
  match self.descriptor with
  | none => self
  | some descriptor =>
    match descriptor.accept chunk encryptionType with
    | .error e => self.closeStreamWithError e
    | .ok progress =>
      { self with descriptor := some { descriptor with progress := progress } }.yieldChunk
        chunk.content

def handleTrailer (trailer : Trailer) : Stream :=
  match self.descriptor with
  | none => self
  | some descriptor =>
    match descriptor.finish trailer with
    | .error e => self.closeStreamWithError e
    | .ok () => self.closeStream

def handlePacket (participantIdentity : String) (encryptionType : EncryptionType) :
    DataPacket → Stream
  | .streamHeader header => self.handleHeader header participantIdentity encryptionType
  | .streamChunk chunk => self.handleChunk chunk encryptionType
  | .streamTrailer trailer => self.handleTrailer trailer

def next (n : ℕ) : Stream × List (Option (StreamResult Bytes)) :=
  match self.readers[n]? with
  | none => (self, [])
  | some reader =>
    if reader.receiver = .dropped then (self, [])
    else (self.modifyReader n fun _ => reader.pollNext.2, reader.pollNext.1.toList)

def drop : Stream := { self.closeStream with alive := false }

def step : Action → Stream × List Received
  | .packet participantIdentity encryptionType packet =>
    (if self.alive then self.handlePacket participantIdentity encryptionType packet else self, [])
  | .next id n => ((self.next n).1, (self.next n).2.map (Received.mk id n))
  | .close _ n => (self.modifyReader n fun reader => { reader with receiver := .dropped }, [])
  | .drop => (self.drop, [])

end Stream

def Action.concerns (id : StreamId) : Action → Bool
  | .packet _ _ dataPacket => dataPacket.streamId = id
  | .next id' _ => id' = id
  | .close id' _ => id' = id
  | .drop => true

namespace Incoming

def stream (self : Incoming) (id : StreamId) : Stream :=
  ⟨self.reservedTopics, self.openStreams.lookup id, self.readersOf id, self.alive⟩

section Operations

variable (s : Incoming) {id id' : StreamId}

variable (n : ℕ) (header : Header) (chunk : Chunk) (trailer : Trailer) (ident : String)

@[simp] lemma stream_modifyReader (f : Reader → Reader) :
    (s.modifyReader id n f).stream id = (s.stream id).modifyReader n f := by
  simp [stream, modifyReader, readersOf, Stream.modifyReader]

lemma stream_modifyReader_of_ne (h : id' ≠ id) (n : ℕ) (f : Reader → Reader) :
    (s.modifyReader id n f).stream id' = s.stream id' := by
  simp [stream, modifyReader, readersOf, AList.lookup_insert_ne h]

@[simp] lemma stream_closeStream : (s.closeStream id).stream id = (s.stream id).closeStream := by
  unfold closeStream Stream.closeStream
  cases h : s.openStreams.lookup id with
  | none => simp [stream, h]
  | some =>
    simp only [stream_modifyReader]
    simp [stream, h, readersOf]

lemma stream_closeStream_of_ne (h : id' ≠ id) : (s.closeStream id).stream id' = s.stream id' := by
  unfold closeStream
  split
  next => rfl
  next =>
    rw [stream_modifyReader_of_ne _ h]
    simp [stream, readersOf, AList.lookup_erase_ne h]

@[simp] lemma stream_closeStreamWithError (error) :
    (s.closeStreamWithError id error).stream id = (s.stream id).closeStreamWithError error := by
  unfold closeStreamWithError Stream.closeStreamWithError
  cases h : s.openStreams.lookup id with
  | none => simp [stream, h]
  | some =>
    simp only [stream_modifyReader]
    simp [stream, h, readersOf]

lemma stream_closeStreamWithError_of_ne (h : id' ≠ id) (error) :
    (s.closeStreamWithError id error).stream id' = s.stream id' := by
  unfold closeStreamWithError
  split
  next => rfl
  next =>
    rw [stream_modifyReader_of_ne _ h]
    simp [stream, readersOf, AList.lookup_erase_ne h]

@[simp] lemma stream_yieldChunk (chunk : Bytes) :
    (s.yieldChunk id chunk).stream id = (s.stream id).yieldChunk chunk := by
  unfold yieldChunk Stream.yieldChunk
  cases h : s.openStreams.lookup id with
  | none => simp [stream, h]
  | some desc =>
    have hs : (s.stream id).descriptor = some desc := h
    have hreaders : (s.stream id).readers = s.readersOf id := rfl
    simp only [hs, hreaders]
    cases (s.readersOf id)[desc.chunkTx]?.bind (·.send (.ok chunk)) with
    | some => exact stream_modifyReader s _ _
    | none => exact stream_closeStream s

lemma stream_yieldChunk_of_ne (h : id' ≠ id) (chunk : Bytes) :
    (s.yieldChunk id chunk).stream id' = s.stream id' := by
  unfold yieldChunk
  split
  next => rfl
  next =>
    split
    next => exact stream_modifyReader_of_ne s h _ _
    next => exact stream_closeStream_of_ne s h

/-! ### Packets -/

lemma stream_handleHeader (ident enc) :
    (s.handleHeader header ident enc).stream header.streamId =
      (s.stream header.streamId).handleHeader header ident enc := by
  unfold handleHeader Stream.handleHeader AnyStreamInfo.tryFromWithEncryption
  cases header.contentHeader with
  | none => rfl
  | some =>
    have hs : (s.stream header.streamId).descriptor = s.openStreams.lookup header.streamId := rfl
    simp only [hs]
    split
    next => rfl
    next => simp [stream, readersOf, Stream.openWith]

lemma stream_handleHeader_of_ne (ident enc) (h : id ≠ header.streamId) :
    (s.handleHeader header ident enc).stream id = s.stream id := by
  unfold handleHeader AnyStreamInfo.tryFromWithEncryption
  cases header.contentHeader with
  | none => rfl
  | some =>
    dsimp only
    split
    next => rfl
    next => simp [stream, readersOf, AList.lookup_insert_ne h]

variable (enc : EncryptionType)

lemma stream_handleChunk : (s.handleChunk chunk enc).stream chunk.streamId =
      (s.stream chunk.streamId).handleChunk chunk enc := by
  unfold handleChunk Stream.handleChunk
  cases h : s.openStreams.lookup chunk.streamId with
  | none => simp [stream, h]
  | some desc =>
    have hs : (s.stream chunk.streamId).descriptor = some desc := h
    simp only [hs]
    cases desc.accept chunk enc with
    | error e => exact stream_closeStreamWithError s e
    | ok =>
      rw [stream_yieldChunk]
      simp [stream, readersOf]

lemma stream_handleChunk_of_ne (h : id ≠ chunk.streamId) :
    (s.handleChunk chunk enc).stream id = s.stream id := by
  unfold handleChunk
  split
  next => rfl
  next =>
    split
    next => exact stream_closeStreamWithError_of_ne s h _
    next =>
      rw [stream_yieldChunk_of_ne _ h]
      simp [stream, readersOf, AList.lookup_insert_ne h]

lemma stream_handleTrailer : (s.handleTrailer trailer).stream trailer.streamId =
      (s.stream trailer.streamId).handleTrailer trailer := by
  unfold handleTrailer Stream.handleTrailer
  cases h : s.openStreams.lookup trailer.streamId with
  | none => simp [stream, h]
  | some desc =>
    have hs : (s.stream trailer.streamId).descriptor = some desc := h
    simp only [hs]
    cases desc.finish trailer with
    | error e => exact stream_closeStreamWithError s e
    | ok => exact stream_closeStream s

lemma stream_handleTrailer_of_ne (h : id ≠ trailer.streamId) :
    (s.handleTrailer trailer).stream id = s.stream id := by
  unfold handleTrailer
  split
  next => rfl
  next =>
    split
    next => exact stream_closeStreamWithError_of_ne s h _
    next => exact stream_closeStream_of_ne s h

lemma stream_handlePacket (pkt) : (s.handlePacket ident enc pkt).stream pkt.streamId =
      (s.stream pkt.streamId).handlePacket ident enc pkt := by
  cases pkt with
  | streamHeader header => exact stream_handleHeader s header _ _
  | streamChunk chunk => exact stream_handleChunk s chunk _
  | streamTrailer trailer => exact stream_handleTrailer s trailer

lemma stream_handlePacket_of_ne (pkt) (h : id ≠ pkt.streamId) :
    (s.handlePacket ident enc pkt).stream id = s.stream id := by
  cases pkt with
  | streamHeader header => exact stream_handleHeader_of_ne s header _ _ h
  | streamChunk chunk => exact stream_handleChunk_of_ne s chunk _ h
  | streamTrailer trailer => exact stream_handleTrailer_of_ne s trailer h

/-! ### Readers and the manager's end -/

lemma stream_next : (s.next id n).1.stream id = ((s.stream id).next n).1 ∧
    (s.next id n).2 = ((s.stream id).next n).2 := by
  unfold next Stream.next
  have hreaders : (s.stream id).readers = s.readersOf id := rfl
  simp only [hreaders]
  cases (s.readersOf id)[n]? with
  | none => exact ⟨rfl, rfl⟩
  | some r =>
    by_cases h : r.receiver = .dropped
    · simp only [if_pos h, and_self]
    · simp only [if_neg h, and_true]
      exact stream_modifyReader s _ _

lemma stream_next_of_ne (h : id' ≠ id) (n : ℕ) : (s.next id n).1.stream id' = s.stream id' := by
  unfold next
  split
  next => rfl
  next =>
    split
    next => rfl
    next => exact stream_modifyReader_of_ne s h _ _

lemma stream_drop : s.drop.stream id = (s.stream id).drop := by
  unfold drop Stream.drop Stream.closeStream
  cases h : s.openStreams.lookup id with
  | none =>
    simp only [stream, readersOf, AList.lookup_mapVals, h]
    simp
  | some =>
    simp only [stream, readersOf, AList.lookup_mapVals, h, Stream.modifyReader]
    cases s.readers.lookup id <;> simp

end Operations

/-! ### Steps and runs -/

variable (s : Incoming) {id : StreamId} {a : Action}

lemma stream_step (h : a.concerns id = true) : (s.step a).1.stream id = ((s.stream id).step a).1 ∧
      (s.step a).2.filter (·.id = id) = ((s.stream id).step a).2 := by
  cases a with
  | packet _ _ packet =>
    obtain rfl : packet.streamId = id := of_decide_eq_true h
    have halive : (s.stream packet.streamId).alive = s.alive := rfl
    refine ⟨?_, rfl⟩
    simp only [step, Stream.step, halive]
    split
    next => exact stream_handlePacket s _ _ packet
    next => rfl
  | next id' n =>
    obtain rfl : id' = id := of_decide_eq_true h
    obtain ⟨hs, hitems⟩ := stream_next s n
    refine ⟨hs, ?_⟩
    simp only [step, Stream.step, hitems]
    simp
  | close id' =>
    obtain rfl : id' = id := of_decide_eq_true h
    exact ⟨stream_modifyReader s _ _, rfl⟩
  | drop => exact ⟨stream_drop s, rfl⟩

lemma stream_step_of_not (h : a.concerns id = false) :
    (s.step a).1.stream id = s.stream id ∧ (s.step a).2.filter (·.id = id) = [] := by
  cases a with
  | packet _ _ packet =>
    have hne : id ≠ packet.streamId := fun heq => of_decide_eq_false h heq.symm
    refine ⟨?_, rfl⟩
    simp only [step]
    split
    next => exact stream_handlePacket_of_ne s _ _ packet hne
    next => rfl
  | next id' n =>
    have hne : id ≠ id' := fun heq => of_decide_eq_false h heq.symm
    refine ⟨stream_next_of_ne s hne n, ?_⟩
    simp only [step]
    simp [hne.symm]
  | close id' =>
    have hne : id ≠ id' := fun heq => of_decide_eq_false h heq.symm
    exact ⟨stream_modifyReader_of_ne s hne _ _, rfl⟩
  | drop => cases h

/-- **The manager is a family of streams.** A run of the manager is, under each id,
the run of that stream on the actions that concern it. -/
theorem stream_run (id : StreamId) (acts : List Action) : (state step s acts).stream id =
        state Stream.step (s.stream id) (acts.filter (Action.concerns id)) ∧
      (outputs step s acts).filter (·.id = id) =
        outputs Stream.step (s.stream id) (acts.filter (Action.concerns id)) :=
  run_project (fun s => s.stream id) (Action.concerns id)
    (fun recv : Received => recv.id = id)
    (fun s _ h => stream_step s h) (fun s _ h => stream_step_of_not s h) s acts

/-- What happens under other ids makes no difference to a stream or to what its readers get. -/
theorem stream_isolated (id : StreamId) (acts : List Action) :
    let own := acts.filter (Action.concerns id)
    (state step s acts).stream id = (state step s own).stream id ∧
      (outputs step s acts).filter (·.id = id) = (outputs step s own).filter (·.id = id) := by
  simp only [stream_run, List.filter_filter, Bool.and_self, and_self]

end Incoming

end LiveKit.DataStream
