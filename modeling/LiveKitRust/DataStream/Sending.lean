import LiveKitRust.DataStream.Ordering

/-!
# Sending a payload

A payload is written to a stream by any number of writes, one after the other, and the stream
closed, with every packet sent (`Writers.writeAll`). This hands the header, the chunks of the
payload numbered from 0 on, and a trailer without a reason to the transport
(`Writers.packets_writeAll`).
-/

open Machine List

namespace LiveKit.DataStream

/-! ### Payloads -/

inductive Payload where
  | bytes (writes : List Bytes)
  | text (writes : List String)

def Input.asBytes : Input → Bytes
  | .bytes input => input
  | .text input => Utf8.asBytes input

lemma Input.flatten_chunks (i : Input) : i.chunks.flatten = i.asBytes := by
  cases i with
  | bytes i => exact (isChunking_chunks (by decide) i).flatten
  | text i => exact (isChunking_utf8AwareChunks (by decide) i).1.flatten

namespace Payload

def content : Payload → ContentHeader
  | .bytes _ => .byteHeader
  | .text _ => .textHeader

def inputs : Payload → List Input
  | .bytes writes => writes.map .bytes
  | .text writes => writes.map .text

def asBytes (self : Payload) : Bytes := (self.inputs.map Input.asBytes).flatten

lemma asBytes_bytes (writes) : (bytes writes).asBytes = writes.flatten := by
  simp [asBytes, inputs, Function.comp_def, Input.asBytes]

lemma asBytes_text (writes) : (text writes).asBytes = Utf8.asBytes (String.join writes) := by
  rw [String.join, Utf8.asBytes_foldl, Utf8.asBytes_empty, nil_append, asBytes, inputs, map_map]
  rfl

def chunks (self : Payload) : List Bytes := (self.inputs.map Input.chunks).flatten

lemma flatten_chunks (s : Payload) : s.chunks.flatten = s.asBytes := by
  rw [chunks, asBytes, flatten_flatten, map_map]
  exact congrArg flatten (map_congr_left fun i _ => i.flatten_chunks)

lemma exists_text {s : Payload} (htext : s.content = .textHeader) {c : Bytes}
    (hchunk : c ∈ s.chunks) : ∃ text, Utf8.decode c = some text := by
  cases s with
  | bytes => cases htext
  | text =>
    obtain ⟨_, hpieces, hchunk⟩ := mem_flatten.mp hchunk
    obtain ⟨_, hinput, rfl⟩ := mem_map.mp hpieces
    obtain ⟨text, -, rfl⟩ := mem_map.mp hinput
    obtain ⟨_, htexts⟩ := (isChunking_utf8AwareChunks (show 4 ≤ chunkSize by decide) text).2.2
    rw [Input.chunks, htexts] at hchunk
    obtain ⟨piece, -, rfl⟩ := mem_map.mp hchunk
    exact ⟨piece, Utf8.decode_asBytes piece⟩

end Payload

/-! ### Sending -/

def chunkPacketsFrom (id : StreamId) (start : ℕ) : List Bytes → List DataPacket
  | [] => []
  | content :: contents =>
    RawStream.createChunkPacket id start content :: chunkPacketsFrom id (start + 1) contents

variable (id : StreamId)

lemma chunkPacketsFrom_append (start cs contents') :
    chunkPacketsFrom id start (cs ++ contents') = chunkPacketsFrom id start cs ++
        chunkPacketsFrom id (start + cs.length) contents' := by
  induction cs generalizing start with
  | nil => rfl
  | cons _ _ ih =>
    rw [cons_append, chunkPacketsFrom, ih, chunkPacketsFrom, cons_append,
      length_cons, Nat.add_assoc, Nat.add_comm 1]

lemma chunkPackets_eq (contents) : chunkPackets id contents = chunkPacketsFrom id 0 contents := by
  induction contents using reverseRecOn with
  | nil => rfl
  | append_singleton _ _ ih =>
    rw [chunkPackets_concat, chunkPacketsFrom_append, ih, Nat.zero_add]
    rfl

namespace StreamProgress

def after (self : StreamProgress) (contents : List Bytes) : StreamProgress where
  chunkIndex := self.chunkIndex + contents.length
  bytesProcessed := self.bytesProcessed + contents.flatten.length
  bytesTotal := self.bytesTotal

variable (s : StreamProgress)

lemma after_cons (content contents) :
    s.after (content :: contents) = (s.advance content.length).after contents := by
  simp [after, advance, Nat.add_assoc, Nat.add_comm 1]

lemma after_append (cs contents') : s.after (cs ++ contents') = (s.after cs).after contents' := by
  simp [after, Nat.add_assoc]

end StreamProgress

namespace Writers

def writeAll (n : ℕ) : List Input → List Action
  | [] => [.call (.close none), .run n, .respond .ok]
  | input :: inputs => .call (.write input) :: .run n ::
      (List.replicate input.chunks.length (.respond .ok) ++ writeAll (n + 1) inputs)

lemma run_writeChunks (s : Writers) (hconn : s.connected = true) (n : ℕ) (contents : List Bytes) :
    state step (s.writeChunks n contents).1 (replicate contents.length (.respond .ok)) = { s with
          stream := { s.stream with progress := s.stream.progress.after contents } }.release n
            (.returned (.ok ())) ∧
      (s.writeChunks n contents).2 ++ outputs step (s.writeChunks n contents).1
          (replicate contents.length (.respond .ok)) =
        chunkPacketsFrom s.stream.id s.stream.progress.chunkIndex contents := by
  induction contents generalizing s with
  | nil => exact ⟨rfl, rfl⟩
  | cons content contents ih =>
    have hsend : s.writeChunks n (content :: contents) =
        ({ s with lock := some (n, .chunk content contents) }, [s.stream.chunkPacket content]) := by
      rw [writeChunks, send, if_pos hconn]
    have hrespond : step { s with lock := some (n, .chunk content contents) } (.respond .ok) =
        writeChunks { s with
          stream := (s.stream.writeChunk content .ok).2
          lock := some (n, .chunk content contents) } n contents := rfl
    -- the rest is written by a stream that has counted the first chunk
    obtain ⟨hst, hout⟩ := ih { s with
      stream := (s.stream.writeChunk content .ok).2
      lock := some (n, .chunk content contents) } hconn
    rw [hsend, length_cons, replicate_succ, state_cons, outputs_cons, hrespond, hst,
      hout, StreamProgress.after_cons]
    exact ⟨rfl, rfl⟩

/-- No call has the lock, and calls can be made. -/
structure Ready (system : Writers) : Prop where
  connected : system.connected = true
  free : system.lock = none
  kept : system.dropped = false

def called (self : Writers) (request : Request) : Writers :=
  { self with calls := self.calls ++ [⟨request, .waiting⟩] }

section Ready

variable {s : Writers} (req : Request) {status : Status}

section

variable (h : s.Ready)
include h

lemma Ready.step_call : s.step (.call req) = (s.called req, []) := by
  simp [step, h.kept, called]

lemma Ready.step_run : (s.called req).step (.run s.calls.length) =
      (s.called req).run s.calls.length req := by
  have hn : (s.called req).next s.calls.length = some req := by
    simp [next, called, h.free]
  rw [step, hn]

lemma Ready.release_called : (s.called req).release s.calls.length status =
      { s with calls := s.calls ++ [⟨req, status⟩] } := by
  simp [release, setStatus, called, h.free, modify_eq_take_drop]

lemma Ready.run_write (i : Input) : state step s (.call (.write i) :: .run s.calls.length ::
        replicate i.chunks.length (.respond .ok)) =
        { s with
          stream := { s.stream with progress := s.stream.progress.after i.chunks }
          calls := s.calls ++ [⟨.write i, .returned (.ok ())⟩] } ∧
      outputs step s (.call (.write i) :: .run s.calls.length ::
        replicate i.chunks.length (.respond .ok)) =
        chunkPacketsFrom s.stream.id s.stream.progress.chunkIndex i.chunks := by
  obtain ⟨hst, hout⟩ := run_writeChunks
    ((s.called (.write i)).setStatus s.calls.length .running) h.connected
    s.calls.length i.chunks
  rw [state_cons, outputs_cons, h.step_call, state_cons, outputs_cons, h.step_run, run, hst, hout]
  refine ⟨?_, rfl⟩
  -- the lock is free again, and the call has returned
  let sent : Writers := { s with
    stream := { s.stream with progress := s.stream.progress.after i.chunks } }
  have hsent : sent.Ready := ⟨h.connected, h.free, h.kept⟩
  change ((sent.called (.write i)).setStatus sent.calls.length .running).release
    sent.calls.length (.returned (.ok ())) = _
  rw [release_setStatus, hsent.release_called]

lemma Ready.run_close (hun : s.stream.isClosed = false) :
    state step s [.call (.close none), .run s.calls.length, .respond .ok] = { s with
          stream := { s.stream with isClosed := true }
          calls := s.calls ++ [⟨.close none, .returned (.ok ())⟩] } ∧
      outputs step s [.call (.close none), .run s.calls.length, .respond .ok] =
        [RawStream.createTrailerPacket s.stream.id none] := by
  have hrun : (s.called (.close none)).run s.calls.length (.close none) =
      ({ (s.called (.close none)).setStatus s.calls.length .running with
          lock := some (s.calls.length, .trailer) },
        [RawStream.createTrailerPacket s.stream.id none]) := by
    have hpacket : (s.called (.close none)).stream.trailerPacket none =
        .ok (RawStream.createTrailerPacket s.stream.id none) := by
      simp [RawStream.trailerPacket, called, hun]
    rw [run, hpacket]
    exact if_pos h.connected
  rw [state_cons, outputs_cons, h.step_call, state_cons, outputs_cons, h.step_run, hrun]
  refine ⟨?_, rfl⟩
  let closed : Writers := { s with stream := { s.stream with isClosed := true } }
  have hcl : closed.Ready := ⟨h.connected, h.free, h.kept⟩
  change ((closed.called (.close none)).setStatus closed.calls.length .running).release
    closed.calls.length (.returned (.ok ())) = _
  rw [release_setStatus, hcl.release_called]

lemma Ready.run_writeAll (hun : s.stream.isClosed = false) (is) :
    (state step s (writeAll s.calls.length is)).stream = { s.stream with
          progress := s.stream.progress.after (is.map Input.chunks).flatten
          isClosed := true } ∧
      outputs step s (writeAll s.calls.length is) =
        chunkPacketsFrom s.stream.id s.stream.progress.chunkIndex
            (is.map Input.chunks).flatten ++
          [RawStream.createTrailerPacket s.stream.id none] := by
  induction is generalizing s with
  | nil =>
    obtain ⟨hst, hout⟩ := h.run_close hun
    rw [writeAll, hst, hout]
    exact ⟨rfl, rfl⟩
  | cons i _ ih =>
    -- the first write leaves the writers ready for the next call
    obtain ⟨hst, hout⟩ := h.run_write i
    let written : Writers := { s with
      stream := { s.stream with progress := s.stream.progress.after i.chunks }
      calls := s.calls ++ [⟨.write i, .returned (.ok ())⟩] }
    have hlen : written.calls.length = s.calls.length + 1 := by simp [written]
    have hwritten : written.Ready := ⟨h.connected, h.free, h.kept⟩
    obtain ⟨hstate', houtputs'⟩ := ih hwritten hun
    rw [hlen] at hstate' houtputs'
    rw [writeAll, ← cons_append, ← cons_append, state_append, outputs_append, hst,
      hout, hstate', houtputs', map_cons, flatten_cons,
      StreamProgress.after_append, chunkPacketsFrom_append, append_assoc]
    exact ⟨rfl, rfl⟩

end

end Ready

/-- **What is sent.** The header, the chunks of the payload and the trailer. -/
theorem packets_writeAll (header : Header) (data : Payload) :
    packets header (writeAll 0 data.inputs) = RawStream.createHeaderPacket header ::
        (chunkPackets header.streamId data.chunks ++
          [RawStream.createTrailerPacket header.streamId none]) ∧
      (state step (opened header) (writeAll 0 data.inputs)).stream.progress =
        ⟨data.chunks.length, data.asBytes.length, header.totalLength⟩ := by
  have hready : (opened header).Ready := ⟨rfl, rfl, rfl⟩
  obtain ⟨hst, hout⟩ := hready.run_writeAll rfl data.inputs
  constructor
  · rw [packets, chunkPackets_eq]
    exact congrArg _ hout
  · have hprogress := congrArg RawStream.progress hst
    refine hprogress.trans ?_
    simp only [opened, RawStream.opened, StreamProgress.after, Nat.zero_add]
    rw [← data.flatten_chunks]
    rfl

end Writers

end LiveKit.DataStream
