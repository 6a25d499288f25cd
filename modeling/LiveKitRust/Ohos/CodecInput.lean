import LiveKitRust.Base.Monitor

/-!
# The input of the codecs (`ohos/video_codec/imp.rs`)

Frames that wait for a buffer and buffers that wait for a frame are in two queues with locks of
their own. A call looks at the buffers first and queues its frame later; a callback looks at the
frames first and stores its buffer later. If the one looks between the two steps of the other, a
frame and a buffer both wait in the end, and a later frame takes the buffer and is pushed first
(`frame_overtaken`). The same comes of a stored buffer that is unfit for a frame: the frame is
queued while other buffers are stored.

Without these three the order is kept (`in_order_of_exclusive`), whatever else comes between.

The encoder and the decoder differ in the number of frames that may wait: 30 and 120.
-/

open Machine Monitor

namespace LiveKit.Ohos

/-- Where a call of `encode_frame`, or of `submit`, stands. -/
inductive SubmitStage where
  | idle
  /-- It has taken a buffer, and fills it. -/
  | filling (frame : ℕ)
  /-- It has found no buffer, or an unfit one, and is about to queue the frame. -/
  | queueing (frame : ℕ)
  deriving DecidableEq

/-- Where the callback for an input buffer stands. -/
inductive CallbackStage where
  | idle
  /-- It has taken a frame, and fills its buffer. -/
  | filling (frame : ℕ)
  /-- It has found no frame, and is about to store the buffer. -/
  | storing
  deriving DecidableEq

@[grind =]
def SubmitStage.frames : SubmitStage → List ℕ
  | .idle => []
  | .filling frame | .queueing frame => [frame]

@[grind =]
def CallbackStage.frames : CallbackStage → List ℕ
  | .filling frame => [frame]
  | _ => []

/-- Frames are numbered as they are submitted. Of the stored buffers the number is kept. -/
structure CodecInput where
  inputQueue : ℕ := 0
  pending : List ℕ := []
  submitted : ℕ := 0
  call : SubmitStage := .idle
  callback : CallbackStage := .idle

/-- What `fill_and_push` comes to. -/
inductive Fill where
  | pushed
  /-- The codec refuses the buffer, and the call returns the error. -/
  | refused
  /-- The buffer is too small, say. It is given back empty. -/
  | unfit

namespace CodecInput

variable (capacity : ℕ) (self : CodecInput)

/-- What happens under one lock, in a call or in the callback. -/
inductive Action where
  /-- A call looks at the buffers. -/
  | submit
  | fill (res : Fill)
  | queue
  /-- The callback looks at the frames. -/
  | needInputBuffer
  | deliver (fits : Bool)
  | store

/-- One step, with the frames that are pushed to the codec in it. There is one call at a time,
and one callback; a step that the one at hand does not come to changes nothing. -/
def step : Action → CodecInput × List ℕ
  | .submit =>
    match self.call with
    | .idle =>
      let next := { self with submitted := self.submitted + 1 }
      (if 0 < self.inputQueue then
        { next with inputQueue := self.inputQueue - 1, call := .filling self.submitted }
      else { next with call := .queueing self.submitted }, [])
    | _ => (self, [])
  | .fill res =>
    match self.call, res with
    | .filling frame, .pushed => ({ self with call := .idle }, [frame])
    | .filling _, .refused => ({ self with call := .idle }, [])
    | .filling frame, .unfit => ({ self with call := .queueing frame }, [])
    | _, _ => (self, [])
  | .queue =>
    match self.call with
    | .queueing frame =>
      -- the oldest frame makes room
      let kept := if capacity ≤ self.pending.length then self.pending.tail else self.pending
      ({ self with pending := kept ++ [frame], call := .idle }, [])
    | _ => (self, [])
  | .needInputBuffer =>
    match self.callback, self.pending with
    | .idle, frame :: pending => ({ self with pending, callback := .filling frame }, [])
    | .idle, [] => ({ self with callback := .storing }, [])
    | _, _ => (self, [])
  | .deliver fits =>
    match self.callback with
    | .filling frame => ({ self with callback := .idle }, if fits then [frame] else [])
    | _ => (self, [])
  | .store =>
    match self.callback with
    | .storing => ({ self with inputQueue := min 16 (self.inputQueue + 1), callback := .idle }, [])
    | _ => (self, [])

/-- Neither side looks between the two steps of the other (when what it looks at is empty), and
no buffer is unfit while another one is stored, or about to be. -/
def Exclusive (self : CodecInput) : Action → Prop
  | .submit => self.callback = .storing → 0 < self.inputQueue
  | .fill .unfit => self.inputQueue = 0 ∧ self.callback ≠ .storing
  | .needInputBuffer => (∃ frame, self.call = .queueing frame) → self.pending ≠ []
  | _ => True

/-- Every frame that is pushed was submitted after those before it. -/
def observe (next frame : ℕ) : Option ℕ := if next ≤ frame then some (frame + 1) else none

/-- The frames on their way to the codec, the oldest first. -/
@[grind =]
def frames : List ℕ := self.callback.frames ++ self.pending ++ self.call.frames

/-- With `next` the least number that may be pushed: what is on its way is in order, and where one
side is between its two steps, the other side's queue is still empty. -/
structure Sound (input : CodecInput) (next : ℕ) : Prop where
  next_le : next ≤ input.submitted
  bounds : ∀ frame ∈ input.frames, next ≤ frame ∧ frame < input.submitted
  ordered : input.frames.Pairwise (· < ·)
  free : (0 < input.inputQueue ∨ ∃ frame, input.call = .filling frame) →
    input.callback.frames = [] ∧ input.pending = []
  queueing : (∃ frame, input.call = .queueing frame) →
    input.inputQueue = 0 ∧ input.callback ≠ .storing
  storing : input.callback = .storing → input.pending = []

variable {capacity self} {next : ℕ} {a : Action}

lemma Sound.passes (h : self.Sound next) (ha : self.Exclusive a) :
    Passes observe next (self.step capacity a).2 (self.step capacity a).1.Sound := by
  have hsame := h
  obtain ⟨hnext, hbounds, hordered, hfree, hqueueing, hstoring⟩ := h
  unfold frames at hbounds hordered
  cases a with
  | submit =>
    unfold step; dsimp only; split
    · refine .nil ?_
      split <;> constructor <;> grind [Exclusive]
    · exact .nil hsame
  | fill res =>
    unfold step; dsimp only; split
    next frame hcall =>
      -- nothing else is on its way while a call fills a buffer
      obtain ⟨hcallback, hpending⟩ := hfree (.inr ⟨frame, hcall⟩)
      have hframe := hbounds frame (by simp [hcall, SubmitStage.frames])
      refine .single (if_pos hframe.1) ?_
      constructor <;> grind
    · refine .nil ?_
      constructor <;> grind
    · refine .nil ?_
      constructor <;> grind [Exclusive]
    · exact .nil hsame
  | queue =>
    unfold step; dsimp only; split
    next frame hcall =>
      -- no buffer has been stored since the call has looked
      obtain ⟨hzero, hstored⟩ := hqueueing ⟨frame, hcall⟩
      refine .nil ?_
      constructor <;> grind [→ List.mem_of_mem_tail]
    · exact .nil hsame
  | needInputBuffer =>
    unfold step; dsimp only; split
    · refine .nil ?_
      constructor <;> grind
    · refine .nil ?_
      constructor <;> grind [Exclusive]
    · exact .nil hsame
  | deliver fits =>
    unfold step; dsimp only; split
    next frame hcallback =>
      have hframe := hbounds frame (by simp [hcallback, CallbackStage.frames])
      split
      · refine .single (if_pos hframe.1) ?_
        constructor <;> grind
      · refine .nil ?_
        constructor <;> grind
    · exact .nil hsame
  | store =>
    unfold step; dsimp only; split
    · refine .nil ?_
      constructor <;> grind
    · exact .nil hsame

end CodecInput

end LiveKit.Ohos
