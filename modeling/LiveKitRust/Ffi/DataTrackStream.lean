import LiveKitRust.Base.Monitor

/-!
# Streams of data track frames over FFI (`livekit-ffi/src/server/data_track.rs`)

A read notifies the task of the subscription, which then waits for one frame. `notify_one` wakes the
task if it is parked; if it is not, it leaves a permit, which the task takes instead of being
parked, and there is at most one of these. So the first read after the task was parked is handed to
it, the next one is kept, and every other is lost until the task takes the permit; while the task
subscribes or waits for a frame it is the second read that is lost (`read_lost`). And a task that
waits for a frame does not see that the handle was dropped, and sends the frame afterwards.

These are the only ways for the account of reads and frames to go wrong (`accounted_of_paced`).
-/

open Machine Monitor

namespace LiveKit.Ffi

/-- Where the `SubscriptionTask` stands. -/
inductive SubscriptionStage where
  | subscribing
  /-- It is about to look for a permit, in `next_frame`. -/
  | polling
  /-- It has found none, and is parked. -/
  | waiting
  /-- A notification was handed to it, and it has not run since. -/
  | woken
  /-- It waits for a frame. -/
  | reading
  | ended
  deriving DecidableEq

/-- A `read` is one that is not answered with the end of the stream. -/
inductive StreamEvent where
  | read
  | frame
  | eos
  | dropped
  deriving DecidableEq

/-- The stream and its task. -/
structure DataTrackStream where
  stage : SubscriptionStage := .subscribing
  /-- The permit of `Notify`. -/
  notifyRead : Bool := false
  eosEvent : Bool := false
  dropped : Bool := false

namespace DataTrackStream

variable (self : DataTrackStream)

/-- Calls of the application, and what the task comes to. -/
inductive Action where
  | read
  | dropHandle
  | subscribed (ok : Bool)
  /-- The task looks for a permit. -/
  | poll
  /-- The task goes on after it was woken. -/
  | notified
  /-- A frame comes, or the track ends. -/
  | next (frame : Bool)
  /-- The task sees that the handle was dropped. -/
  | seeDropped

def sendEos : DataTrackStream × List StreamEvent :=
  ({ self with stage := .ended, eosEvent := true }, [.eos])

/-- `notify_one`: a task that is parked is woken, and otherwise the permit is there. -/
def notifyOne : DataTrackStream :=
  if self.stage = .waiting then { self with stage := .woken } else { self with notifyRead := true }

/-- One step, with what the application sees of it. A read after the end is answered with it. -/
def step : Action → DataTrackStream × List StreamEvent
  | .read => if self.dropped ∨ self.eosEvent then (self, []) else (self.notifyOne, [.read])
  | .dropHandle => if self.dropped then (self, []) else ({ self with dropped := true }, [.dropped])
  | .subscribed ok =>
    if self.stage = .subscribing then
      if ok then ({ self with stage := .polling }, []) else self.sendEos
    else (self, [])
  | .poll =>
    (if self.stage = .polling then
      if self.notifyRead then { self with stage := .reading, notifyRead := false }
      else { self with stage := .waiting }
    else self, [])
  | .notified => (if self.stage = .woken then { self with stage := .reading } else self, [])
  | .next frame =>
    if self.stage = .reading then
      if frame then ({ self with stage := .polling }, [.frame]) else self.sendEos
    else (self, [])
  | .seeDropped =>
    match self.dropped, self.stage with
    | true, .subscribing => ({ self with stage := .ended }, [])
    | true, .polling | true, .waiting | true, .woken => self.sendEos
    -- while it waits for a frame it does not look
    | _, _ => (self, [])

/-- The reads that the task is still to answer. -/
def outstanding : ℕ :=
  match self.stage with
  | .woken | .reading => self.notifyRead.toNat + 1
  | .subscribing | .polling | .waiting => self.notifyRead.toNat
  | .ended => 0

/-- The reads since the end of the stream that have had no frame, whether there was an end, and
whether the handle was dropped. -/
structure Account where
  reads : ℕ := 0
  ended : Bool := false
  dropped : Bool := false

/-- A frame is for a read, before the handle is dropped, and the end of the stream is told once. -/
def observe (acc : Account) : StreamEvent → Option Account
  | .read => some { acc with reads := acc.reads + 1 }
  | .frame => if acc.reads = 0 ∨ acc.dropped then none else some { acc with reads := acc.reads - 1 }
  | .eos => if acc.ended then none else some { acc with reads := 0, ended := true }
  | .dropped => some { acc with dropped := true }

/-- A read is made while there is no permit, and the handle is dropped when no read is
outstanding. -/
def Paced (self : DataTrackStream) : Action → Prop
  | .read => self.notifyRead = false
  | .dropHandle => self.outstanding = 0
  | _ => True

/-- What the application can count is what the task has before it. -/
structure Sound (stream : DataTrackStream) (acc : Account) : Prop where
  reads : acc.reads = stream.outstanding
  ended : acc.ended = true → stream.stage = .ended
  gone : stream.stage = .ended → stream.eosEvent = true ∨ stream.dropped = true
  dropped : acc.dropped = stream.dropped
  silent : stream.dropped = true → stream.outstanding = 0

variable {self} {acc : Account} {a : Action}

lemma Sound.sendEos (h : Sound self acc) (hstage : self.stage ≠ .ended) :
    Passes observe acc self.sendEos.2 (Sound self.sendEos.1) := by
  obtain ⟨hreads, hended, hgone, hdropped, hsilent⟩ := h
  have hfirst : acc.ended = false := by grind
  refine .single (by simp only [observe, hfirst]; rfl) ?_
  constructor <;> grind [outstanding, DataTrackStream.sendEos]

lemma Sound.passes (h : Sound self acc) (hpaced : self.Paced a) :
    Passes observe acc (self.step a).2 (Sound (self.step a).1) := by
  obtain ⟨hreads, hended, hgone, hdropped, hsilent⟩ := id h
  unfold step
  cases a with
  | read =>
    dsimp only
    split
    · exact .nil h
    · refine .single rfl ?_
      constructor <;> grind [outstanding, Paced, notifyOne]
  | dropHandle =>
    dsimp only
    split
    · exact .nil h
    · refine .single rfl ?_
      constructor <;> grind [outstanding, Paced]
  | subscribed ok =>
    dsimp only
    split_ifs with hstage hok
    · refine .nil ?_
      constructor <;> grind [outstanding]
    · exact h.sendEos (by simp [hstage])
    · exact .nil h
  | poll =>
    refine .nil ?_
    dsimp only
    split_ifs with hstage hpermit
    · constructor <;> grind [outstanding]
    · constructor <;> grind [outstanding]
    · exact h
  | notified =>
    refine .nil ?_
    dsimp only
    split
    · constructor <;> grind [outstanding]
    · exact h
  | next frame =>
    dsimp only
    split_ifs with hstage hframe
    · -- the task reads, so a read is outstanding and the handle is not dropped
      have hread : ¬ (acc.reads = 0 ∨ acc.dropped = true) := by grind [outstanding]
      refine .single (by simp only [observe]; exact if_neg hread) ?_
      constructor <;> grind [outstanding]
    · exact h.sendEos (by simp [hstage])
    · exact .nil h
  | seeDropped =>
    dsimp only
    split
    next hgone' hstage =>
      refine .nil ?_
      constructor <;> grind [outstanding]
    next hstage => exact h.sendEos (by simp [hstage])
    next hstage => exact h.sendEos (by simp [hstage])
    next hstage => exact h.sendEos (by simp [hstage])
    · exact .nil h

end DataTrackStream

end LiveKit.Ffi
