import LiveKitRust.DataTrack.Local.Moves

/-!
# The manager among its track tasks and users

The manager, the track tasks and the users of the tracks share one channel per track, on which the
publish state travels (`TrackTask::run` in `local/manager.rs`, `LocalTrackInner` in `local/mod.rs`).
`System` is a state of all of them: the manager and its input channel, a queue of
`EVENT_BUFFER_COUNT` events; a cell for each track, with the value of its channel and who receives
on it; and the results whose receiver is gone.

The channel is a `tokio::sync::watch`: whoever holds a sender can send, and `send` without receivers
fails and leaves the value alone. The task is a receiver until it ends, and so is everyone who waits
for the track to be unpublished.

An `Action` is a step of one process. The manager handles an event in one step: what others do to
one track while it awaits can be put before or after the event.
-/

namespace LiveKit.DataTrack.Local

variable {π : Type}

def EVENT_BUFFER_COUNT : ℕ := 16

inductive TaskPhase where
  | running
  /-- Has read that the track is unpublished, and is about to tell the manager. -/
  | stopping
  | ended
  deriving DecidableEq

structure TrackCell where
  handle : Handle
  state : PublishState
  task : TaskPhase
  /-- Receivers of `wait_for_unpublish`. -/
  watchers : ℕ
  deriving DecidableEq

namespace TrackCell

variable (self : TrackCell)

def receivers : ℕ := (if self.task = .ended then 0 else 1) + self.watchers

def send (state : PublishState) : TrackCell :=
  if self.receivers = 0 then self else { self with state := state }

variable (state : PublishState)

@[simp] lemma send_handle : (self.send state).handle = self.handle := by
  unfold send
  split <;> rfl

@[simp] lemma send_task : (self.send state).task = self.task := by
  unfold send
  split <;> rfl

lemma send_of_receivers {s : TrackCell} (h : s.receivers ≠ 0) (state) :
    (s.send state).state = state := by
  rw [send, if_neg h]

lemma send_of_no_receivers {s : TrackCell} (h : s.receivers = 0) (state) : s.send state = s := by
  rw [send, if_pos h]

lemma receivers_ne_zero {s : TrackCell} (h : s.task ≠ .ended) : s.receivers ≠ 0 := by
  rw [receivers, if_neg h]
  omega

lemma send_send : (self.send state).send state = self.send state := by
  by_cases h : self.receivers = 0
  · rw [send_of_no_receivers h, send_of_no_receivers h]
  · have hsm : (self.send state).receivers = self.receivers := by
      rw [send, if_neg h]
      rfl
    rw [send, if_neg (hsm ▸ h), send, if_neg h]

lemma eq_of_send_unpublished {s : TrackCell}
    (h : (s.send .unpublished).state ≠ .unpublished) : s.send .unpublished = s := by
  by_cases hn : s.receivers = 0
  · exact send_of_no_receivers hn _
  · exact absurd (send_of_receivers hn _) h

end TrackCell

abbrev Cells := Map TrackId TrackCell

namespace Cells

def update (self : Cells) (track : TrackId) (f : TrackCell → TrackCell) : Cells :=
  match self.lookup track with
  | none => self
  | some cell => self.insert track (f cell)

def perform (self : Cells) : Effect π → Cells
  | .spawned track options => self.insert track ⟨options.info.pubHandle, .published, .running, 0⟩
  | .stateSent track state => self.update track fun cell => cell.send state
  | _ => self

lemma lookup_update (s : Cells) (tr track') (f : TrackCell → TrackCell) :
    (s.update tr f).lookup track' =
      (s.lookup track').map fun cell => if track' = tr then f cell else cell := by
  unfold update
  split
  next hn =>
    -- an update of a cell that is not there changes nothing
    by_cases h : track' = tr
    · rw [h, hn]
      rfl
    · simp [h]
  next _ hs =>
    rw [AList.lookup_insert_ite]
    by_cases h : track' = tr
    · rw [if_pos h, h, hs]
      simp
    · simp [h]

end Cells

structure System (π : Type) where
  manager : Manager π
  queue : List InputEvent
  cells : Cells
  closed : List ResultTx

inductive Action where
  | send (event : InputEvent)
  | manage
  /-- A user unpublishes a track, or drops the last reference to it. -/
  | unpublish (track : TrackId)
  /-- A track task reads that the track is unpublished. -/
  | notice (track : TrackId)
  /-- A task that has read so sends its request to unpublish, and ends. -/
  | finish (track : TrackId)
  /-- A user starts to wait for the track to be unpublished. -/
  | watch (track : TrackId)
  | unwatch (track : TrackId)
  | close (resultTx : ResultTx)

namespace System

def new (encryptionProvider : Option π) : System π :=
  ⟨Manager.new encryptionProvider, [], ∅, []⟩

variable (self : System π)

def stateOf (track : TrackId) : PublishState :=
  match self.cells.lookup track with
  | some cell => cell.state
  | none => .unpublished

def view : View := ⟨self.stateOf, fun resultTx => resultTx ∈ self.closed⟩

/-- An event is put into the manager's channel, if it has room. -/
def push (event : InputEvent) : System π :=
  if self.queue.length < EVENT_BUFFER_COUNT then { self with queue := self.queue ++ [event] }
  else self

def manage : System π × List (Effect π) :=
  match self.queue with
  | [] => (self, [])
  | event :: queue =>
    let (manager, effects) := self.manager.step (self.view, event)
    (⟨manager, queue, effects.foldl Cells.perform self.cells, self.closed⟩, effects)

def notice (track : TrackId) : System π :=
  { self with
    cells := self.cells.update track fun cell =>
      if cell.task = .running ∧ cell.state = .unpublished then { cell with task := .stopping }
      else cell }

/-- A stopping task sends its request, when there is room or nobody to receive
it, and ends. -/
def finish (track : TrackId) : System π :=
  match self.cells.lookup track with
  | none => self
  | some cell =>
    if cell.task = .stopping ∧
        (self.queue.length < EVENT_BUFFER_COUNT ∨ ¬ self.manager.running) then
      { self.push (.unpublishRequest cell.handle) with
        cells := self.cells.update track fun cell => { cell with task := .ended } }
    else self

def step (action : Action) : System π × List (Effect π) :=
  match action with
  | .send event => (self.push event, [])
  | .manage => self.manage
  | .unpublish track =>
    ({ self with cells := self.cells.update track fun cell => cell.send .unpublished }, [])
  | .notice track => (self.notice track, [])
  | .finish track => (self.finish track, [])
  | .watch track =>
    ({ self with
        cells := self.cells.update track fun cell =>
          { cell with watchers := cell.watchers + 1 } }, [])
  | .unwatch track =>
    ({ self with
        cells := self.cells.update track fun cell =>
          { cell with watchers := cell.watchers - 1 } }, [])
  | .close resultTx => ({ self with closed := resultTx :: self.closed }, [])

variable (ev : InputEvent)

lemma push_manager : (self.push ev).manager = self.manager := by
  unfold push
  split <;> rfl

lemma push_cells : (self.push ev).cells = self.cells := by
  unfold push
  split <;> rfl

lemma stateOf_of_lookup {s : System π} {tr : TrackId} {cell : TrackCell}
    (h : s.cells.lookup tr = some cell) : s.stateOf tr = cell.state := by
  unfold stateOf
  rw [h]

end System

end LiveKit.DataTrack.Local
