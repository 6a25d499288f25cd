import LiveKitRust.Base.Machine

/-!
# The engine (`rtc_engine/mod.rs`)

The engine keeps a session connected to the server. A session reports what happens to it as events,
and the engine task of the session handles these: a failure starts the reconnect task, or asks one
that is running for a full reconnect; a request to disconnect closes the engine. The reconnect task
makes up to ten attempts, each of which resumes the session, by a new signalling stream, or restarts
the connection, with a new session and a new engine task. Anybody may close the engine at any time,
and so does the reconnect task when it gives up.

All of these run concurrently. `EngineInner` is the state they share and where each of them is,
`Action` says which of them goes on and what its environment answers, and `EngineInner.step` is what
happens then. A task stands at the points where it awaits something or takes a lock.

Besides the events sent to the room, an `Observation` marks where an attempt begins, a failure is
handled, sessions are created and installed, and the engine is flagged as closed.

The time is left out, so a wait may end at any time; with it goes `retry_now`, which ends one. The
url, the token and the options are those of the first connection.
-/

namespace LiveKit.RtcEngine

/-! ### Events and errors -/

inductive DisconnectReason where
  | unknownReason
  | clientInitiated
  | duplicateIdentity
  | serverShutdown
  | participantRemoved
  | roomDeleted
  | stateMismatch
  | joinFailure
  | migration
  | signalClose
  | roomClosed
  | userUnavailable
  | userRejected
  | sipTrunkFailure
  | connectionTimeout
  | mediaFailure
  | agentError
  deriving DecidableEq

inductive LeaveAction where
  | disconnect
  | resume
  | reconnect
  deriving DecidableEq

inductive SignalError where
  | leaveRequest (reason : DisconnectReason) (action : LeaveAction)
  | client (status : ℕ)
  | other
  deriving DecidableEq

inductive EngineError where
  | signal (error : SignalError)
  | rtc
  | connection
  | internal
  deriving DecidableEq

/-- The reason the server gave, iff it asked to disconnect. -/
def leaveDisconnectReason : EngineError → Option DisconnectReason
  | .signal (.leaveRequest reason .disconnect) => some reason
  | _ => none

def authFailureReason : EngineError → Option DisconnectReason
  | .signal (.client 401) => some .joinFailure
  | .signal (.client 403) => some .joinFailure
  | _ => none

/-- What a `SignalClient` tells its session. -/
inductive SignalEvent where
  | close
  | leave (reason : DisconnectReason) (action : LeaveAction)
  deriving DecidableEq

structure SessionClose where
  reason : DisconnectReason
  action : LeaveAction
  deriving DecidableEq

inductive EngineEvent where
  | resuming
  | signalResumed
  | resumed
  | restarting
  | signalRestarted
  | restarted
  | disconnected (reason : DisconnectReason)
  deriving DecidableEq

/-! ### State -/

structure RtcSession where
  /-- The `SignalClient` has a stream, which a task of it reads. -/
  stream : Bool
  /-- What that task has sent and the session has not handled. -/
  signalEvents : List SignalEvent
  /-- What the session has sent and the engine task has not handled. -/
  sessionEvents : List SessionClose
  closed : Bool
  engineTask : Bool
  deriving DecidableEq

def RtcSession.connect : RtcSession := ⟨true, [], [], false, false⟩

/-- `RtcSession::close`: its tasks have ended, and its connections are closed. -/
def RtcSession.close (self : RtcSession) : RtcSession :=
  { self with stream := false, closed := true }

/-- `SignalClient::close`. The task that reads the stream sees it end, and says so. -/
def RtcSession.closeStream (self : RtcSession) : RtcSession :=
  if self.stream then { self with stream := false, signalEvents := self.signalEvents ++ [.close] }
  else self

/-- Sessions are numbered in the order of their creation. -/
structure EngineHandle where
  session : ℕ
  closed : Bool
  reconnecting : Bool
  canReconnect : Bool
  fullReconnect : Bool
  reconnectReason : DisconnectReason
  /-- The session whose events the engine task reads. -/
  engineTask : Option ℕ
  deriving DecidableEq

inductive CloseStage where
  | lock
  /-- The engine task has been taken, and the session is being closed. -/
  | session (session engineTask : ℕ)
  | join (engineTask : ℕ)
  | emit
  | notify
  deriving DecidableEq

/-- A call of `EngineInner::close`. -/
structure Closing where
  reason : DisconnectReason
  stage : CloseStage
  deriving DecidableEq

inductive ResumeStage where
  /-- `SignalClient::restart` closes the stream. -/
  | tearDown
  /-- It opens another one. -/
  | reopen
  /-- The rest of `RtcSession::restart`. -/
  | configure
  | syncState
  | restartPublisher
  | waitPcReconnected
  | finalize
  | succeeded
  deriving DecidableEq

inductive RestartStage where
  | take
  | closeSession (session engineTask : ℕ)
  | join (engineTask : ℕ)
  | connect
  /-- The room is told of the new session. -/
  | signalRestarted (session : ℕ)
  | waitPcConnection (session : ℕ)
  | install (session : ℕ)
  | succeeded
  deriving DecidableEq

inductive Stage where
  /-- It waits for `reconnecting_lock`. -/
  | lock
  /-- It begins an iteration of its loop. -/
  | head (i : ℕ)
  /-- The room has been told of the mode. -/
  | resuming (i : ℕ)
  | resume (i : ℕ) (stage : ResumeStage)
  /-- The room has been told of the success. -/
  | resumed
  | restarting (i : ℕ)
  | restart (i : ℕ) (stage : RestartStage)
  | restarted
  /-- The server does not want the client back. -/
  | bail (closing : Closing)
  | backoff (i : ℕ)
  | failed
  | giveUp (closing : Closing)
  | done
  deriving DecidableEq

structure ReconnectTask where
  stage : Stage
  resumingEmitted : Bool
  restartingEmitted : Bool
  /-- `close_notifier` has woken the task. -/
  notified : Bool
  deriving DecidableEq

structure EngineInner where
  runningHandle : EngineHandle
  sessions : ℕ → RtcSession
  created : ℕ
  task : Option ReconnectTask
  /-- The calls of `close` from outside the reconnect task. -/
  closers : List Closing

namespace EngineInner

inductive Mode where
  | resume
  | restart
  deriving DecidableEq

inductive Sender where
  | task
  | closer
  deriving DecidableEq

inductive Observation where
  | event (sender : Sender) (event : EngineEvent)
  | started
  | attempt (mode : Mode)
  | failure (session : ℕ)
  | created (session : ℕ)
  | installed (session : ℕ)
  | closed
  deriving DecidableEq

inductive Action where
  | pcFailed (session : ℕ)
  /-- The signalling stream breaks, or no pong comes. -/
  | signalLost (session : ℕ)
  | leave (session : ℕ) (reason : DisconnectReason) (action : LeaveAction)
  /-- The session handles an event of its `SignalClient`. -/
  | signalTask (session : ℕ)
  | engineTask (session : ℕ)
  /-- The reconnect task goes on, after what it awaited has failed or not. -/
  | task (outcome : Option EngineError)
  /-- `close_notifier` ends the reconnect task. -/
  | cancel
  | close (reason : DisconnectReason)
  | closer (k : ℕ)
  deriving DecidableEq

/-! ### Steps -/

def reconnectAttempts : ℕ := 10

def connect : EngineInner where
  runningHandle := ⟨0, false, false, true, false, .unknownReason, some 0⟩
  sessions session := { RtcSession.connect with engineTask := decide (session = 0) }
  created := 1
  task := none
  closers := []

variable (self : EngineInner)

def modifyHandle (f : EngineHandle → EngineHandle) : EngineInner :=
  { self with runningHandle := f self.runningHandle }

def modifySession (session : ℕ) (f : RtcSession → RtcSession) : EngineInner :=
  { self with sessions := Function.update self.sessions session (f (self.sessions session)) }

def stopEngineTask (session : ℕ) : EngineInner :=
  self.modifySession session fun session => { session with engineTask := false }

def goto (task : ReconnectTask) (stage : Stage) : EngineInner :=
  { self with task := some { task with stage := stage } }

def reconnectionNeeded (fullReconnect : Bool) (reason : DisconnectReason) :
    EngineInner × List Observation :=
  if self.runningHandle.canReconnect = false then (self, [])
  else if self.runningHandle.reconnecting then
    -- the resume that is in progress is not holding
    (self.modifyHandle fun handle => { handle with fullReconnect := true }, [])
  else ({ self.modifyHandle fun handle =>
          { handle with
            reconnecting := true
            fullReconnect := handle.fullReconnect || fullReconnect
            reconnectReason := reason } with
        task := some ⟨.lock, false, false, false⟩ }, [.started])

def onSessionEvent (session : ℕ) (event : SessionClose) : EngineInner × List Observation :=
  match event.action with
  | .disconnect =>
    ({ self.modifyHandle fun handle => { handle with canReconnect := false } with
        closers := self.closers ++ [⟨event.reason, .lock⟩] }, [])
  | .resume =>
    ((self.reconnectionNeeded false event.reason).1,
      .failure session :: (self.reconnectionNeeded false event.reason).2)
  | .reconnect =>
    ((self.reconnectionNeeded true event.reason).1,
      .failure session :: (self.reconnectionNeeded true event.reason).2)

/-- `notify_waiters` of `close_notifier`: the reconnect task listens from when it has
its lock. -/
def notifyWaiters : EngineInner :=
  { self with
    task := self.task.map fun task =>
      match task.stage with
      | .lock => task
      | _ => { task with notified := true } }

def closeStep (sender : Sender) (closing : Closing) :
    EngineInner × Option CloseStage × List Observation :=
  match closing.stage with
  | .lock =>
    (self.modifyHandle fun handle => { handle with closed := true, engineTask := none },
      some (match self.runningHandle.engineTask with
        | some engineTask => .session self.runningHandle.session engineTask
        | none => .emit), [.closed])
  | .session session engineTask =>
    (self.modifySession session .close, some (.join engineTask), [])
  | .join engineTask => (self.stopEngineTask engineTask, some .emit, [])
  -- always, also when a failed restart has taken the engine task
  | .emit => (self, some .notify, [.event sender (.disconnected closing.reason)])
  | .notify => (self.notifyWaiters, none, [])

/-- An attempt has failed: the task closes the engine, or tries again. -/
def attemptFailed (task : ReconnectTask) (i : ℕ) (mode : Mode)
    (error : EngineError) : EngineInner :=
  match (leaveDisconnectReason error).orElse fun _ => authFailureReason error with
  | some reason =>
    (self.modifyHandle fun handle => { handle with canReconnect := false }).goto task
      (.bail ⟨reason, .lock⟩)
  | none =>
    match mode with
    | .resume =>
      (self.modifyHandle fun handle => { handle with fullReconnect := true }).goto task (.backoff i)
    | .restart => self.goto task (.backoff i)

/-- An iteration of the loop begins. The room is told of a mode once. -/
def beginAttempt (task : ReconnectTask) (i : ℕ) : EngineInner × List Observation :=
  if self.runningHandle.closed then (self.goto task .failed, [])
  else if self.runningHandle.fullReconnect then
    (self.goto { task with restartingEmitted := true } (.restarting i),
      .attempt .restart :: if task.restartingEmitted then [] else [.event .task .restarting])
  else (self.goto { task with resumingEmitted := true } (.resuming i),
      .attempt .resume :: if task.resumingEmitted then [] else [.event .task .resuming])

/-- `try_resume_connection`, of the current session. -/
def resumeStep (task : ReconnectTask) (i : ℕ) (outcome : Option EngineError) :
    ResumeStage → EngineInner × List Observation
  | .tearDown =>
    ((self.modifySession self.runningHandle.session .closeStream).goto task (.resume i .reopen), [])
  | .reopen =>
    match outcome with
    | none =>
      ((self.modifySession self.runningHandle.session
        fun session => { session with stream := true }).goto task (.resume i .configure), [])
    | some error => (self.attemptFailed task i .resume error, [])
  | .configure =>
    match outcome with
    | none => (self.goto task (.resume i .syncState), [.event .task .signalResumed])
    | some error => (self.attemptFailed task i .resume error, [])
  | .syncState => (self.goto task (.resume i .restartPublisher), [])
  | .restartPublisher =>
    match outcome with
    | none => (self.goto task (.resume i .waitPcReconnected), [])
    | some error => (self.attemptFailed task i .resume error, [])
  | .waitPcReconnected =>
    match outcome with
    | none => (self.goto task (.resume i .finalize), [])
    | some error => (self.attemptFailed task i .resume error, [])
  | .finalize =>
    -- if the stream has gone meanwhile, the queue must not be drained
    if (self.sessions self.runningHandle.session).stream then
      (self.goto task (.resume i .succeeded), [])
    else (self.attemptFailed task i .resume .connection, [])
  | .succeeded => (self.goto task .resumed, [.event .task .resumed])

/-- `try_restart_connection`. A session that fails to connect is dropped. -/
def restartStep (task : ReconnectTask) (i : ℕ) (outcome : Option EngineError) :
    RestartStage → EngineInner × List Observation
  | .take =>
    ((self.modifyHandle fun handle => { handle with engineTask := none }).goto task
      (.restart i (match self.runningHandle.engineTask with
        | some engineTask => .closeSession self.runningHandle.session engineTask
        | none => .connect)), [])
  | .closeSession session engineTask =>
    ((self.modifySession session .close).goto task (.restart i (.join engineTask)), [])
  | .join engineTask => ((self.stopEngineTask engineTask).goto task (.restart i .connect), [])
  | .connect =>
    match outcome with
    | none =>
      ({ (self.modifySession self.created fun _ => .connect).goto task
          (.restart i (.signalRestarted self.created)) with created := self.created + 1 },
        [.created self.created, .event .task .signalRestarted])
    | some error => (self.attemptFailed task i .restart error, [])
  | .signalRestarted session => (self.goto task (.restart i (.waitPcConnection session)), [])
  | .waitPcConnection session =>
    match outcome with
    | none => (self.goto task (.restart i (.install session)), [])
    | some error => (self.attemptFailed task i .restart error, [])
  | .install session =>
    (((self.modifyHandle fun handle =>
        { handle with session := session, fullReconnect := false, engineTask := some session })
      |>.modifySession session fun session => { session with engineTask := true }).goto task
        (.restart i .succeeded), [.installed session])
  | .succeeded => (self.goto task .restarted, [.event .task .restarted])

def taskStep (task : ReconnectTask) (outcome : Option EngineError) :
    EngineInner × List Observation :=
  match task.stage with
  | .lock => (self.goto task (.head 1), [])
  | .head i => self.beginAttempt task i
  | .resuming i => (self.goto task (.resume i .tearDown), [])
  | .resume i stage => self.resumeStep task i outcome stage
  | .resumed => (self.goto task .done, [])
  | .restarting i => (self.goto task (.restart i .take), [])
  | .restart i stage => self.restartStep task i outcome stage
  | .restarted => (self.goto task .done, [])
  | .bail closing =>
    match self.closeStep .task closing with
    | (self, some stage, observations) =>
      (self.goto task (.bail ⟨closing.reason, stage⟩), observations)
    | (self, none, observations) => (self.goto task .failed, observations)
  | .backoff i =>
    (self.goto task (if i < reconnectAttempts then .head (i + 1) else .failed), [])
  | .failed =>
    -- the loop may have closed the engine, with an accurate reason
    (self.goto task (if self.runningHandle.closed then .done
      else .giveUp ⟨self.runningHandle.reconnectReason, .lock⟩), [])
  | .giveUp closing =>
    match self.closeStep .task closing with
    | (self, some stage, observations) =>
      (self.goto task (.giveUp ⟨closing.reason, stage⟩), observations)
    | (self, none, observations) => (self.goto task .done, observations)
  | .done =>
    ({ self.modifyHandle fun handle => { handle with reconnecting := false } with
        task := none }, [])

/-- The points at which the reconnect task can be ended: where `reconnect_task` awaits
something, and before it has begun. -/
def cancellable : Stage → Bool
  | .head i => i = 1
  | .resuming _ | .resume _ _ | .resumed | .restarting _ | .restarted | .backoff _ => true
  | .restart _ .take | .restart _ (.install _) | .restart _ .succeeded => false
  | .restart _ _ => true
  | .bail closing =>
    match closing.stage with
    | .session _ _ | .join _ => true
    | _ => false
  | .lock | .failed | .giveUp _ | .done => false

/-- The engine task whose handle is held at the given point; it ends when the handle is
dropped. -/
def heldEngineTask : Stage → Option ℕ
  | .restart _ (.closeSession _ engineTask) | .restart _ (.join engineTask) => some engineTask
  | .bail ⟨_, .session _ engineTask⟩ | .bail ⟨_, .join engineTask⟩ => some engineTask
  | _ => none

def cancelTask (task : ReconnectTask) : EngineInner :=
  let self := match heldEngineTask task.stage with
    | some engineTask => self.stopEngineTask engineTask
    | none => self
  { self.modifyHandle fun handle => { handle with reconnecting := false } with task := none }

def receiveLeave (reason : DisconnectReason) (action : LeaveAction) (session : RtcSession) :
    RtcSession :=
  { session with signalEvents := session.signalEvents ++ [.leave reason action] }

def reportClose (event : SessionClose) (session : RtcSession) : RtcSession :=
  { session with sessionEvents := session.sessionEvents ++ [event] }

def onSignalEvent (event : SignalEvent) (session : RtcSession) : RtcSession :=
  match event with
  | .close => reportClose ⟨.unknownReason, .resume⟩ session
  | .leave reason action => reportClose ⟨reason, action⟩ session

def running (session : ℕ) : Prop :=
  session < self.created ∧ (self.sessions session).closed = false
  deriving Decidable

/-- One of the tasks goes on, or something happens to a session. Where that is not
possible, nothing happens. -/
def step : Action → EngineInner × List Observation
  | .pcFailed session =>
    if self.running session then
      (self.modifySession session (reportClose ⟨.unknownReason, .resume⟩), [])
    else (self, [])
  | .signalLost session =>
    if self.running session then (self.modifySession session .closeStream, []) else (self, [])
  | .leave session reason action =>
    if self.running session ∧ (self.sessions session).stream then
      (self.modifySession session (receiveLeave reason action), [])
    else (self, [])
  | .signalTask session =>
    match (self.sessions session).signalEvents with
    | event :: rest =>
      if self.running session then (self.modifySession session fun session =>
          onSignalEvent event { session with signalEvents := rest }, [])
      else (self, [])
    | [] => (self, [])
  | .engineTask session =>
    match (self.sessions session).sessionEvents with
    | event :: rest =>
      if (self.sessions session).engineTask then
        (self.modifySession session fun session => { session with sessionEvents := rest })
          |>.onSessionEvent session event
      else (self, [])
    | [] => (self, [])
  | .task outcome =>
    match self.task with
    | some task => self.taskStep task outcome
    | none => (self, [])
  | .cancel =>
    match self.task with
    | some task =>
      if task.notified && cancellable task.stage then (self.cancelTask task, []) else (self, [])
    | none => (self, [])
  | .close reason => ({ self with closers := self.closers ++ [⟨reason, .lock⟩] }, [])
  | .closer k =>
    match self.closers[k]? with
    | some closing =>
      match self.closeStep .closer closing with
      | (self, some stage, observations) =>
        ({ self with closers := self.closers.set k ⟨closing.reason, stage⟩ }, observations)
      | (self, none, observations) =>
        ({ self with closers := self.closers.eraseIdx k }, observations)
    | none => (self, [])

/-- Nothing is under way: there is neither a reconnect task nor a call of `close`, and no
event of a session waits for a task that would handle it. -/
def Quiescent : Prop :=
  self.task = none ∧ self.closers = [] ∧ ∀ session < self.created,
      ((self.sessions session).closed = false → (self.sessions session).signalEvents = []) ∧
        ((self.sessions session).engineTask = true → (self.sessions session).sessionEvents = [])

instance (self : EngineInner) : Decidable self.Quiescent := inferInstanceAs (Decidable (_ ∧ _))

end EngineInner

end LiveKit.RtcEngine
