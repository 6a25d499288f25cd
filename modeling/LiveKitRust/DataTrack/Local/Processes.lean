import LiveKitRust.DataTrack.Local.Agreement

/-!
# The manager, move by move

`System` lets the manager handle an event in one step. Here it takes its time (`local/manager.rs`):

* a handler reads what it needs, then its effects happen one by one, and every other process may
  move in between;
* a send that awaits room in a channel is a move that does nothing until there is room;
* `shutdown` awaits the task of each track it has told, one after the other; the input channel stays
  open meanwhile, and nobody takes from it.

The other side of a publish request is here too: the future the caller holds (`publish_track`) and
the task that forwards the result to it (`forward_publish_result`), joined by two oneshot channels.
A caller may drop the future at any time. What reaches nobody is dropped, and a track that is
dropped unpublishes itself. Events from outside are those that the conversions of `local/proto.rs`
and the room make.
-/

namespace LiveKit.DataTrack.Local

variable {π : Type}

/-! ### States -/

abbrev PublishResult := Except PublishError LocalDataTrack

inductive ManagerPhase (π : Type) where
  | receiving
  /-- Handles an event; these effects are still to come. -/
  | handling (rest : List (Effect π))
  /-- In `shutdown`, waits for a track task to end. -/
  | joining (track : TrackId) (rest : List (Effect π))
  | ended

def ManagerPhase.isEnded : ManagerPhase π → Bool
  | .ended => true
  | _ => false

inductive Forwarder where
  /-- Not spawned, since the request has not been accepted. -/
  | absent
  /-- Waits, with what the manager has sent it. -/
  | waiting (handle : Handle) (result : Option PublishResult)
  /-- Has dropped its receiver, since the caller is gone, and is about to tell the
  manager. -/
  | cancelling (handle : Handle)
  | ended
  deriving DecidableEq

inductive Caller where
  | waiting
  | ready (result : PublishResult)
  | returned
  | dropped
  deriving DecidableEq

structure Request where
  forwarder : Forwarder
  caller : Caller
  deriving DecidableEq

structure Processes (π : Type) where
  manager : Manager π
  phase : ManagerPhase π
  queue : List InputEvent
  outgoing : List OutputEvent
  cells : Cells
  requests : Map ResultTx Request
  nextRequest : ResultTx

/-- What can be seen of a move from outside. -/
inductive Occurrence (π : Type) where
  | performed (effect : Effect π)
  | returned (resultTx : ResultTx) (result : PublishResult)
  deriving DecidableEq

/-- The event can be sent with `ManagerInput::send`, or is the one of
`query_tracks`. -/
def InputEvent.External : InputEvent → Prop
  | .sfuPublishResponse handle (.ok info) => handle = info.pubHandle
  | .sfuPublishResponse _ (.error _) => True
  | .sfuUnpublishResponse _ => True
  | .queryPublished _ _ => True
  | .republishTracks _ => True
  | .shutdown _ => True
  | _ => False

instance (event : InputEvent) : Decidable event.External := by
  unfold InputEvent.External
  split <;> infer_instance

def InputEvent.isRepublish : InputEvent → Bool
  | .republishTracks _ => true
  | _ => false

/-! ### Rest -/

/-- A track task has nothing to do: it runs and its track is published, or it has
ended. -/
def TrackCell.AtRest (cell : TrackCell) : Prop :=
  cell.task = .running ∧ cell.state ≠ .unpublished ∨ cell.task = .ended
  deriving Decidable

/-- Nothing is under way to the caller of a request, nor from it. -/
def Request.isAtRest : Request → Bool
  | ⟨_, .ready _⟩ => false
  | ⟨.waiting _ (some _), _⟩ => false
  | ⟨.waiting _ none, .dropped⟩ => false
  | ⟨.cancelling _, _⟩ => false
  | _ => true

def ManagerPhase.isAtRest (queue : List InputEvent) : ManagerPhase π → Bool
  | .receiving => queue.isEmpty
  | .ended => true
  | _ => false

def Request.Holds (request : Request) (localTrack : LocalDataTrack) : Prop :=
  (∃ handle, request.forwarder = .waiting handle (some (.ok localTrack))) ∨
    request.caller = .ready (.ok localTrack)

/-! ### Moves -/

namespace Processes

inductive Action where
  | publish (options : DataTrackOptions)
  | cancel (resultTx : ResultTx)
  /-- Its future returns, if the result is there. -/
  | receive (resultTx : ResultTx)
  | forward (resultTx : ResultTx)
  | send (event : InputEvent)
  | manage
  /-- The next event is taken from the output channel. -/
  | consume
  /-- A user unpublishes a track, or drops the last reference to it. -/
  | unpublish (track : TrackId)
  | transmit (track : TrackId) (packets : List Bytes)
  /-- A track task reads that the track is unpublished. -/
  | notice (track : TrackId)
  /-- A task that has read so sends its request to unpublish, and ends. -/
  | finish (track : TrackId)
  /-- A user starts to wait for the track to be unpublished. -/
  | watch (track : TrackId)
  | unwatch (track : TrackId)

def new (encryptionProvider : Option π) : Processes π :=
  ⟨Manager.new encryptionProvider, .receiving, [], [], ∅, ∅, 0⟩

variable (self : Processes π)

def pending : List (Effect π) :=
  match self.phase with
  | .handling rest => rest
  | .joining _ rest => rest
  | _ => []

def stateOf (track : TrackId) : PublishState :=
  match self.cells.lookup track with
  | some cell => cell.state
  | none => .unpublished

def isClosed (resultTx : ResultTx) : Bool :=
  match self.requests.lookup resultTx with
  | some ⟨.cancelling _, _⟩ => true
  | some ⟨.ended, _⟩ => true
  | _ => false

def view : View := ⟨self.stateOf, self.isClosed⟩

def HasRoom : Prop := self.queue.length < EVENT_BUFFER_COUNT
  deriving Decidable

/-! ### Moves of the users -/

/-- `try_send` on the input channel. -/
def push (event : InputEvent) : Processes π :=
  if ¬ self.phase.isEnded ∧ self.HasRoom then { self with queue := self.queue ++ [event] }
  else self

/-- `LocalTrackInner::local_unpublish`. -/
def unpublish (track : TrackId) : Processes π :=
  { self with cells := self.cells.update track fun cell => cell.send .unpublished }

def discard (result : PublishResult) : Processes π :=
  match result with
  | .ok localTrack => self.unpublish localTrack.track
  | .error _ => self

def setRequest (resultTx : ResultTx) (request : Request) : Processes π :=
  { self with requests := self.requests.insert resultTx request }

/-- `ManagerInput::publish_track`, up to its await; without room it returns an
error at once. -/
def publish (options : DataTrackOptions) : Processes π :=
  if ¬ self.phase.isEnded ∧ self.HasRoom then
    { self.setRequest self.nextRequest ⟨.absent, .waiting⟩ with
      queue := self.queue ++ [.publishRequest options self.nextRequest]
      nextRequest := self.nextRequest + 1 }
  else self

def cancel (resultTx : ResultTx) : Processes π :=
  match self.requests.lookup resultTx with
  | some ⟨forwarder, .waiting⟩ => self.setRequest resultTx ⟨forwarder, .dropped⟩
  | some ⟨forwarder, .ready result⟩ =>
    (self.setRequest resultTx ⟨forwarder, .dropped⟩).discard result
  | _ => self

def receive (resultTx : ResultTx) : Processes π × List (Occurrence π) :=
  match self.requests.lookup resultTx with
  | some ⟨forwarder, .ready result⟩ =>
    (self.setRequest resultTx ⟨forwarder, .returned⟩, [.returned resultTx result])
  | _ => (self, [])

/-- `forward_publish_result`. The result comes first; the receiver is dropped
before the manager is told that the caller is gone, and the manager may not have
room to be told. -/
def forward (resultTx : ResultTx) : Processes π :=
  match self.requests.lookup resultTx with
  | some ⟨.waiting _ (some result), .waiting⟩ =>
    self.setRequest resultTx ⟨.ended, .ready result⟩
  | some ⟨.waiting _ (some result), caller⟩ =>
    (self.setRequest resultTx ⟨.ended, caller⟩).discard result
  | some ⟨.waiting handle none, .dropped⟩ =>
    self.setRequest resultTx ⟨.cancelling handle, .dropped⟩
  | some ⟨.cancelling handle, caller⟩ =>
    (self.setRequest resultTx ⟨.ended, caller⟩).push (.publishCancelled handle)
  | _ => self

/-! ### Moves of the track tasks -/

/-- `TrackTask::process_and_send`: packets are lost where there is no room. -/
def transmit (track : TrackId) (packets : List Bytes) : Processes π :=
  match self.cells.lookup track with
  | some cell =>
    if cell.task = .running ∧ self.outgoing.length < EVENT_BUFFER_COUNT then
      { self with outgoing := self.outgoing ++ [.packetsAvailable packets] }
    else self
  | none => self

def notice (track : TrackId) : Processes π :=
  { self with
    cells := self.cells.update track fun cell =>
      if cell.task = .running ∧ cell.state = .unpublished then { cell with task := .stopping }
      else cell }

/-- A stopping task sends its request, when there is room or nobody to receive
it, and ends. -/
def finish (track : TrackId) : Processes π :=
  match self.cells.lookup track with
  | none => self
  | some cell =>
    if cell.task = .stopping ∧ (self.HasRoom ∨ self.phase.isEnded) then
      { self.push (.unpublishRequest cell.handle) with
        cells := self.cells.update track fun cell => { cell with task := .ended } }
    else self

/-! ### Moves of the manager -/

/-- A result is sent to the forwarding task of its request, or, before that is
spawned, to the caller. -/
def answer (resultTx : ResultTx) (result : PublishResult) : Processes π :=
  match self.requests.lookup resultTx with
  | some ⟨.waiting handle none, caller⟩ =>
    self.setRequest resultTx ⟨.waiting handle (some result), caller⟩
  | some ⟨.absent, .waiting⟩ => self.setRequest resultTx ⟨.absent, .ready result⟩
  | _ => self.discard result

def perform (effect : Effect π) : Processes π :=
  match effect with
  | .output event => { self with outgoing := self.outgoing ++ [event] }
  | .result resultTx result => self.answer resultTx result
  | effect => { self with cells := self.cells.perform effect }

/-- The effect has to wait for room in the output channel. -/
def blocked : Effect π → Bool
  | .output _ => EVENT_BUFFER_COUNT ≤ self.outgoing.length
  | _ => false

def spawnForwarder (requests : Map ResultTx Request) (event : InputEvent)
    (effects : List (Effect π)) : Map ResultTx Request :=
  match event, effects with
  | .publishRequest _ resultTx, [.output (.sfuPublishRequest handle _ _)] =>
    match requests.lookup resultTx with
    | some ⟨.absent, caller⟩ => requests.insert resultTx ⟨.waiting handle none, caller⟩
    | _ => requests
  | _, _ => requests

def taskEnded (track : TrackId) : Bool :=
  match self.cells.lookup track with
  | some cell => cell.task = .ended
  | none => true

/-- Where the manager is once an effect has happened: in `shutdown`, at the await
on the task of the track it has told. -/
def phaseAfter (effect : Effect π) (rest : List (Effect π)) : ManagerPhase π :=
  match effect with
  | .stateSent track _ => if self.manager.running then .handling rest else .joining track rest
  | _ => .handling rest

def take (event : InputEvent) (queue : List InputEvent) : Processes π :=
  let (manager, effects) := self.manager.step (self.view, event)
  { self with
    manager := manager
    phase := .handling effects
    queue := queue
    requests := spawnForwarder self.requests event effects }

variable (ev : InputEvent)

@[simp] lemma take_manager (queue) :
    (self.take ev queue).manager = (self.manager.step (self.view, ev)).1 := rfl

@[simp] lemma take_pending (queue) :
    (self.take ev queue).pending = (self.manager.step (self.view, ev)).2 := rfl

def manage : Processes π × List (Occurrence π) :=
  match self.phase with
  | .receiving =>
    match self.queue with
    | [] => (self, [])
    | event :: queue => (self.take event queue, [])
  | .handling [] =>
    ({ self with phase := if self.manager.running then .receiving else .ended }, [])
  | .handling (effect :: rest) =>
    if self.blocked effect then (self, [])
    else ({ self.perform effect with phase := self.phaseAfter effect rest }, [.performed effect])
  | .joining track rest =>
    if self.taskEnded track then ({ self with phase := .handling rest }, []) else (self, [])
  | .ended => (self, [])

def takenUp : Action → Option InputEvent
  | .manage =>
    match self.phase with
    | .receiving => self.queue.head?
    | _ => none
  | _ => none

/-- One move of a caller, a forwarder, the manager or a track task. -/
def step (action : Action) : Processes π × List (Occurrence π) :=
  match action with
  | .publish options => (self.publish options, [])
  | .cancel resultTx => (self.cancel resultTx, [])
  | .receive resultTx => self.receive resultTx
  | .forward resultTx => (self.forward resultTx, [])
  | .send event => (if event.External then self.push event else self, [])
  | .manage => self.manage
  | .consume => ({ self with outgoing := self.outgoing.tail }, [])
  | .unpublish track => (self.unpublish track, [])
  | .transmit track packets => (self.transmit track packets, [])
  | .notice track => (self.notice track, [])
  | .finish track => (self.finish track, [])
  | .watch track =>
    ({ self with
        cells := self.cells.update track fun cell =>
          { cell with watchers := cell.watchers + 1 } }, [])
  | .unwatch track =>
    ({ self with
        cells := self.cells.update track fun cell =>
          { cell with watchers := cell.watchers - 1 } }, [])

end Processes

/-! ### What a handler does -/

inductive Manager.Handled (manager : Manager π) (view : View) (event : InputEvent)
    (result : Manager π × List (Effect π)) : Prop
  /-- Some tracks are told that they are unpublished. -/
  | unpublishes (h_signals : ∀ effect ∈ result.2, effect.IsSignal .unpublished)
      (h_next : result.1.nextTrack = manager.nextTrack)
  /-- The tracks of active descriptors are told that they are being republished. -/
  | republishes (order : HashOrder Handle) (h_event : event = .republishTracks order)
      (h_signals : ∀ effect ∈ result.2, effect.IsSignal .republishing)
      (h_next : result.1.nextTrack = manager.nextTrack)
      (h_active : ∀ track, signalled result.2 track →
        ∃ handle info, manager.descriptors.lookup handle = some (.active info track))
  /-- A track that was seen waiting for it is told that it is published again. -/
  | restores (h_signals : ∀ effect ∈ result.2, effect.IsSignal .published)
      (h_next : result.1.nextTrack = manager.nextTrack)
      (h_seen : ∀ track, signalled result.2 track → view.state track = .republishing)
  /-- A track is made and handed over. -/
  | creates (options : PipelineOptions π) (resultTx : ResultTx)
      (h_effects : result.2 = [.spawned manager.nextTrack options,
        .result resultTx (.ok ⟨manager.nextTrack, options.info⟩)])
      (h_next : result.1.nextTrack = manager.nextTrack + 1)

namespace Manager

variable (manager : Manager π) (view : View)

lemma handled_step (ev) : manager.Handled view ev (manager.step (view, ev)) := by
  cases hrun : manager.running with
  | false =>
    rw [manager.step_of_not_running view hrun]
    exact .unpublishes nofun rfl
  | true =>
    have hmv := manager.step_move view hrun ev
    generalize manager.step (view, ev) = res at hmv ⊢
    cases hmv with
    | answer _ han =>
      exact .unpublishes (by simpa using han.isSignal .unpublished) rfl
    | request | cancel | lapse => exact .unpublishes (by simp [Effect.IsSignal]) rfl
    | refuse _ hanswers =>
      exact .unpublishes (fun eff hm => (hanswers eff hm).isSignal _) rfl
    | create => exact .creates _ _ rfl rfl
    | @restore _ _ _ tr _ hst =>
      -- the track was seen republishing, and is the only one that is told
      refine .restores (by simp [Effect.IsSignal]) rfl fun track' htold => ?_
      obtain ⟨state, hm⟩ := signalled_iff.mp htold
      have heq : track' = tr ∧ state = .published := by simpa using hm
      rw [heq.1]
      exact hst
    | remove outputs =>
      exact .unpublishes (manager.remove_signals view _ outputs) (by rw [removeDescriptor_fst]; rfl)
    | republish order =>
      exact .republishes order rfl (manager.onRepublishTracks_signals order)
        (manager.onRepublishTracks_nextTrack order)
        fun tr h => (manager.signalled_onRepublishTracks order tr).mp h
    | shutdown order => exact .unpublishes (manager.onShutdown_signals order) rfl

end Manager

namespace Processes

/-! ### What a move leaves alone -/

section

variable (s : Processes π)
include s

variable (ev : InputEvent) (res : PublishResult)

@[simp] lemma push_manager : (s.push ev).manager = s.manager := by
  unfold push
  split <;> rfl

@[simp] lemma push_phase : (s.push ev).phase = s.phase := by
  unfold push
  split <;> rfl

@[simp] lemma push_cells : (s.push ev).cells = s.cells := by
  unfold push
  split <;> rfl

@[simp] lemma push_requests : (s.push ev).requests = s.requests := by
  unfold push
  split <;> rfl

@[simp] lemma push_nextRequest : (s.push ev).nextRequest = s.nextRequest := by
  unfold push
  split <;> rfl

@[simp] lemma discard_manager : (s.discard res).manager = s.manager := by
  cases res <;> rfl

@[simp] lemma discard_phase : (s.discard res).phase = s.phase := by
  cases res <;> rfl

@[simp] lemma discard_queue : (s.discard res).queue = s.queue := by
  cases res <;> rfl

@[simp] lemma discard_requests : (s.discard res).requests = s.requests := by
  cases res <;> rfl

@[simp] lemma discard_nextRequest : (s.discard res).nextRequest = s.nextRequest := by
  cases res <;> rfl

end

/-! ### What a move does to the tracks -/

end Processes

/-- What a move can do to the channel and the task of a track. It is unpublished
only where it is `released`, and its task ends only where it is `finished`. -/
inductive CellMove (released finished : Prop) (cell : TrackCell) : TrackCell → Prop
  | same : CellMove released finished cell cell
  | release (h : released) : CellMove released finished cell (cell.send .unpublished)
  | stop (h_task : cell.task = .running) (h_state : cell.state = .unpublished) :
      CellMove released finished cell { cell with task := .stopping }
  | finish (h : finished) (h_task : cell.task = .stopping) :
      CellMove released finished cell { cell with task := .ended }
  | watch (watchers : ℕ) : CellMove released finished cell { cell with watchers := watchers }

def CellsMove (released finished : TrackId → Prop) (cells cells' : Cells) : Prop :=
  ∀ track, Option.Rel (CellMove (released track) (finished track)) (cells.lookup track)
    (cells'.lookup track)

lemma CellsMove.refl (released finished : TrackId → Prop) (cells : Cells) :
    CellsMove released finished cells cells := by
  intro tr
  cases cells.lookup tr with
  | none => exact .none
  | some => exact .some .same

lemma CellsMove.update {released finished : TrackId → Prop} {cells tr f}
    (h : ∀ cell, cells.lookup tr = some cell →
      CellMove (released tr) (finished tr) cell (f cell)) :
    CellsMove released finished cells (cells.update tr f) := by
  intro track'
  rw [Cells.lookup_update]
  cases hc : cells.lookup track' with
  | none => exact .none
  | some cell =>
    refine .some ?_
    split
    next heq =>
      subst heq
      exact h cell hc
    next => exact .same

namespace Processes

variable (self : Processes π)

/-- The track that a move outside the manager lets go of. -/
def releases : Action → Option TrackId
  | .unpublish track => some track
  | .cancel resultTx =>
    match self.requests.lookup resultTx with
    | some ⟨_, .ready (.ok localTrack)⟩ => some localTrack.track
    | _ => none
  | .forward resultTx =>
    match self.requests.lookup resultTx with
    | some ⟨.waiting _ (some _), .waiting⟩ => none
    | some ⟨.waiting _ (some (.ok localTrack)), _⟩ => some localTrack.track
    | _ => none
  | _ => none

variable (finished : TrackId → Prop)

lemma cellsMove_unpublish (tr) :
    CellsMove (fun track' => some tr = some track') finished self.cells (self.unpublish tr).cells :=
  .update fun _ _ => .release rfl

lemma cellsMove_discard (res) :
    CellsMove (fun tr => res.toOption.map LocalDataTrack.track = some tr) finished
      self.cells (self.discard res).cells := by
  cases res with
  | error error => exact .refl _ _ _
  | ok loc => exact self.cellsMove_unpublish finished loc.track

/-- The event that a move outside the manager puts into the channel. -/
inductive Emits (self : Processes π) : Action → InputEvent → Prop
  | publish (options : DataTrackOptions) :
      Emits self (.publish options) (.publishRequest options self.nextRequest)
  | forward {resultTx handle caller}
      (h_look : self.requests.lookup resultTx = some ⟨.cancelling handle, caller⟩) :
      Emits self (.forward resultTx) (.publishCancelled handle)
  | send {event} (h_external : event.External) : Emits self (.send event) event
  | finish {track cell} (h_cell : self.cells.lookup track = some cell)
      (h_task : cell.task = .stopping)
      (h_cells : (self.finish track).cells =
        self.cells.update track fun cell => { cell with task := .ended }) :
      Emits self (.finish track) (.unpublishRequest cell.handle)

lemma push_queue (ev) :
    (self.push ev).queue = self.queue ∨ (self.push ev).queue = self.queue ++ [ev] := by
  unfold push
  split
  · exact .inr rfl
  · exact .inl rfl

/-- The requests are as before, or one that was there has changed. A track which that one had it
still has, or the track is let go of, or it is returned. -/
def RequestsMove (self : Processes π) (released : Option TrackId) (log : List (Occurrence π))
    (after : Processes π) : Prop :=
  after.nextRequest = self.nextRequest ∧ (after.requests = self.requests ∨
    ∃ resultTx before request, self.requests.lookup resultTx = some before ∧
      after.requests = self.requests.insert resultTx request ∧
      ∀ localTrack, before.Holds localTrack → request.Holds localTrack ∨
        released = some localTrack.track ∨ .returned resultTx (.ok localTrack) ∈ log)

structure Outside (system : Processes π) (action : Action) (log : List (Occurrence π))
    (after : Processes π) : Prop where
  manager : after.manager = system.manager
  phase : after.phase = system.phase
  cells : CellsMove (fun track => system.releases action = some track)
    (fun track => action = .finish track) system.cells after.cells
  /-- At most one event comes into the channel. -/
  queue : after.queue = system.queue ∨
    ∃ event, system.Emits action event ∧ after.queue = system.queue ++ [event]
  requests : (∀ options, action ≠ .publish options) →
    RequestsMove system (system.releases action) log after

section Outside

variable {self} {a : Action} {log : List (Occurrence π)} {after : Processes π}

lemma Outside.of_cells {cells outgoing} (h : CellsMove (fun tr => self.releases a = some tr)
      (fun tr => a = .finish tr) self.cells cells) :
    self.Outside a [] { self with cells := cells, outgoing := outgoing } :=
  ⟨rfl, rfl, h, .inl rfl, fun _ => ⟨rfl, .inl rfl⟩⟩

lemma Outside.stays : self.Outside a [] self := .of_cells (.refl _ _ _)

section

variable {tx : ResultTx} {pre request : Request} (hl : self.requests.lookup tx = some pre)
include hl

lemma Outside.setRequest (hholds : ∀ loc, pre.Holds loc →
      request.Holds loc ∨ self.releases a = some loc.track ∨ .returned tx (.ok loc) ∈ log) :
    self.Outside a log (self.setRequest tx request) :=
  ⟨rfl, rfl, .refl _ _ _, .inl rfl, fun _ => ⟨rfl, .inr ⟨tx, pre, request, hl, rfl, hholds⟩⟩⟩

lemma Outside.discard {res} (hreleases : self.releases a = res.toOption.map LocalDataTrack.track)
    (hholds : ∀ loc, pre.Holds loc → request.Holds loc ∨ res = .ok loc) :
    self.Outside a [] ((self.setRequest tx request).discard res) := by
  refine ⟨discard_manager _ _, discard_phase _ _, ?_, .inl (discard_queue _ _), fun _ =>
    ⟨discard_nextRequest _ _, .inr ⟨tx, pre, request, hl, discard_requests _ _, ?_⟩⟩⟩
  · rw [hreleases]
    exact (self.setRequest tx request).cellsMove_discard _ res
  · intro loc h
    refine (hholds loc h).imp_right fun heq => .inl ?_
    rw [hreleases, heq]
    rfl

end

lemma Outside.push (h : self.Outside a log after) (hsm : after.queue = self.queue) {ev}
    (hemits : self.Emits a ev) : self.Outside a log (after.push ev) := by
  refine ⟨(push_manager _ _).trans h.manager, (push_phase _ _).trans h.phase, ?_, ?_,
    fun hpublish => ?_⟩
  · rw [push_cells]
    exact h.cells
  · rw [← hsm]
    exact (push_queue _ _).imp_right fun hq => ⟨ev, hemits, hq⟩
  · rw [RequestsMove, push_requests, push_nextRequest]
    exact h.requests hpublish

end Outside

lemma step_outside {a} (h : a ≠ .manage) : self.Outside a (self.step a).2 (self.step a).1 := by
  cases a with
  | manage => exact absurd rfl h
  | publish opts =>
    simp only [step, publish]
    split
    · exact ⟨rfl, rfl, .refl _ _ _, .inr ⟨_, .publish opts, rfl⟩, fun h => absurd rfl (h opts)⟩
    · exact .stays
  | cancel =>
    simp only [step, cancel]
    split
    next hl => exact .setRequest hl fun _ h => .inl (h.imp id (by simp))
    next _ res hl =>
      -- the result is dropped with the future
      refine .discard hl ?_ fun _ h => h.imp .inl Caller.ready.inj
      cases res <;> simp only [releases, hl] <;> rfl
    next => exact .stays
  | receive =>
    simp only [step, receive]
    split
    next _ res hl =>
      refine .setRequest hl fun loc h => h.imp .inl fun hready => .inr ?_
      obtain rfl : res = .ok loc := Caller.ready.inj hready
      exact .head _
    next => exact .stays
  | forward tx =>
    simp only [step, forward]
    split
    next handle res hl =>
      -- what the forwarding task had, the future has now
      refine .setRequest hl fun loc h => .inl (.inr ?_)
      rcases h with ⟨_, hforwarder⟩ | hready
      · exact congrArg Caller.ready (Option.some.inj (Forwarder.waiting.inj hforwarder).2)
      · cases hready
    next handle res caller hwaiting hl =>
      -- nobody waits for the result
      refine .discard hl ?_ fun loc h => ?_
      · cases caller with
        | waiting => exact absurd rfl hwaiting
        | _ => cases res <;> simp only [releases, hl] <;> rfl
      · rcases h with ⟨_, hforwarder⟩ | hready
        · exact .inr (Option.some.inj (Forwarder.waiting.inj hforwarder).2)
        · exact .inl (.inr hready)
    next hl => exact .setRequest hl fun _ h => .inl (h.imp (by simp) id)
    next _ caller hl =>
      have he : self.Outside (.forward tx) [] (self.setRequest tx ⟨.ended, caller⟩) :=
        .setRequest hl fun _ h => .inl (h.imp (by simp) id)
      exact he.push rfl (.forward hl)
    next => exact .stays
  | send =>
    simp only [step]
    split
    next hexternal => exact Outside.stays.push rfl (.send hexternal)
    next => exact .stays
  | consume => exact .of_cells (.refl _ _ _)
  | unpublish tr => exact .of_cells (self.cellsMove_unpublish _ tr)
  | transmit =>
    simp only [step, transmit]
    split
    · split
      · exact .of_cells (.refl _ _ _)
      · exact .stays
    · exact .stays
  | notice =>
    refine .of_cells (.update fun cell _ => ?_)
    split
    next hstop => exact .stop hstop.1 hstop.2
    next => exact .same
  | finish tr =>
    cases hc : self.cells.lookup tr with
    | none =>
      simp only [step, finish, hc]
      exact .stays
    | some cell =>
      by_cases hgo : cell.task = .stopping ∧ (self.HasRoom ∨ self.phase.isEnded)
      · let ended : Processes π :=
          { self with cells := self.cells.update tr fun cell => { cell with task := .ended } }
        have he : self.Outside (.finish tr) [] ended := by
          refine .of_cells (.update fun cell' hc' => ?_)
          obtain rfl := Option.mem_unique hc hc'
          exact .finish rfl hgo.1
        have hfinish : self.finish tr = ended.push (.unpublishRequest cell.handle) := by
          simp only [finish, hc, if_pos hgo, push]
          by_cases hroom : ¬ self.phase.isEnded ∧ self.HasRoom
          · rw [if_pos hroom]
            exact (if_pos hroom).symm
          · rw [if_neg hroom]
            exact (if_neg hroom).symm
        rw [step, hfinish]
        exact he.push rfl (.finish hc hgo.1 (by rw [hfinish, push_cells]))
      · simp only [step, finish, hc, if_neg hgo]
        exact .stays
  | watch | unwatch => exact .of_cells (.update fun cell _ => .watch _)

/-- No process has anything to do on its own: what comes next comes from a user or
from outside. -/
structure Settled (system : Processes π) : Prop where
  manager : system.phase.isAtRest system.queue
  tasks : ∀ track cell, system.cells.lookup track = some cell → cell.AtRest
  requests : ∀ resultTx request, system.requests.lookup resultTx = some request → request.isAtRest

lemma settled_iff {s : Processes π} : s.Settled ↔ s.phase.isAtRest s.queue ∧
    (∀ e ∈ s.cells.entries, TrackCell.AtRest e.2) ∧
      ∀ e ∈ s.requests.entries, Request.isAtRest e.2 := by
  constructor
  · intro h
    exact ⟨h.manager, fun e he => h.tasks e.1 e.2 (AList.mem_lookup_iff.mpr he),
      fun e he => h.requests e.1 e.2 (AList.mem_lookup_iff.mpr he)⟩
  · rintro ⟨hm, htasks, hrequests⟩
    exact ⟨hm, fun tr cell h => htasks _ (AList.mem_lookup_iff.mp h),
      fun tx request h => hrequests _ (AList.mem_lookup_iff.mp h)⟩

instance (self : Processes π) : Decidable self.Settled := decidable_of_iff' _ settled_iff

end Processes

end LiveKit.DataTrack.Local
