import LiveKitRust.RtcEngine.Engine

/-!
# What a step of the engine can do

Something happens to a session, an engine task handles an event, the engine is being closed, or the
reconnect task goes on or is ended (`step_move`). What the reconnect task does is one of its own
moves (`taskStep_move`). Most of these only bring it to another point (`Pass`) or send an event on
the way (`Say`).
-/

namespace LiveKit.RtcEngine.EngineInner

variable {s : EngineInner} {task : ReconnectTask}

/-! ### Parts of the state -/

section

variable (s) (f : EngineHandle → EngineHandle) (g : RtcSession → RtcSession) (id : ℕ)

@[simp] lemma runningHandle_modifyHandle :
    (s.modifyHandle f).runningHandle = f s.runningHandle := rfl

@[simp] lemma runningHandle_modifySession :
    (s.modifySession id g).runningHandle = s.runningHandle := rfl

@[simp] lemma sessions_modifyHandle : (s.modifyHandle f).sessions = s.sessions := rfl

@[simp] lemma sessions_goto (task stage) : (s.goto task stage).sessions = s.sessions := rfl

@[simp] lemma sessions_modifySession :
    (s.modifySession id g).sessions = Function.update s.sessions id (g (s.sessions id)) :=
  rfl

@[simp] lemma task_notifyWaiters_eq_none : s.notifyWaiters.task = none ↔ s.task = none :=
  Option.map_eq_none_iff

end

lemma of_task_notifyWaiters (h : s.notifyWaiters.task = some task) :
    ∃ pre, s.task = some pre ∧ pre.stage = task.stage := by
  obtain ⟨pre, hbef, rfl⟩ := Option.map_eq_some_iff.mp h
  refine ⟨pre, hbef, ?_⟩
  split <;> rfl

lemma task_notifyWaiters (h : s.task = some task) :
    ∃ woken, s.notifyWaiters.task = some woken ∧ woken.stage = task.stage := by
  refine ⟨_, congrArg (Option.map _) h, ?_⟩
  beta_reduce
  split <;> rfl

/-! ### Moves of a call of `close` -/

/-- The moves of a call of `close` that lead to another stage of it. -/
inductive CloseMove (self : EngineInner) (sender : Sender) (closing : Closing) :
    EngineInner → CloseStage → List Observation → Prop
  | lockNone (h : closing.stage = .lock) (h_none : self.runningHandle.engineTask = none) :
      CloseMove self sender closing
        (self.modifyHandle fun handle => { handle with closed := true, engineTask := none })
        .emit [.closed]
  | lockSome {engineTask} (h : closing.stage = .lock)
      (h_some : self.runningHandle.engineTask = some engineTask) :
      CloseMove self sender closing
        (self.modifyHandle fun handle => { handle with closed := true, engineTask := none })
        (.session self.runningHandle.session engineTask) [.closed]
  | session {session engineTask} (h : closing.stage = .session session engineTask) :
      CloseMove self sender closing (self.modifySession session .close) (.join engineTask) []
  | join {engineTask} (h : closing.stage = .join engineTask) :
      CloseMove self sender closing (self.stopEngineTask engineTask) .emit []
  | emit (h : closing.stage = .emit) :
      CloseMove self sender closing self .notify [.event sender (.disconnected closing.reason)]

variable {sender : Sender} {cl : Closing} {after : EngineInner} {obs : List Observation}

variable (s sender cl) in
lemma closeStep_cases : cl.stage = .notify ∧ s.closeStep sender cl = (s.notifyWaiters, none, []) ∨
      ∃ after stage obs, s.closeStep sender cl = (after, some stage, obs) ∧
        CloseMove s sender cl after stage obs := by
  obtain ⟨_, closeStage⟩ := cl
  cases closeStage with
  | lock =>
    refine .inr ⟨_, _, _, rfl, ?_⟩
    cases ht : s.runningHandle.engineTask with
    | none => exact .lockNone rfl ht
    | some => exact .lockSome rfl ht
  | session => exact .inr ⟨_, _, _, rfl, .session rfl⟩
  | join => exact .inr ⟨_, _, _, rfl, .join rfl⟩
  | emit => exact .inr ⟨_, _, _, rfl, .emit rfl⟩
  | notify => exact .inl ⟨rfl, rfl⟩

/-! ### Moves of the reconnect task -/

/-- The moves of the reconnect task that nothing is seen of. -/
inductive Pass (self : EngineInner) : Stage → Stage → Prop
  | lock : Pass self .lock (.head 1)
  | abandon {i} (h : self.runningHandle.closed = true) : Pass self (.head i) .failed
  | resuming {i} : Pass self (.resuming i) (.resume i .tearDown)
  | syncState {i} : Pass self (.resume i .syncState) (.resume i .restartPublisher)
  | restartPublisher {i} : Pass self (.resume i .restartPublisher) (.resume i .waitPcReconnected)
  | waitPcReconnected {i} : Pass self (.resume i .waitPcReconnected) (.resume i .finalize)
  | finalize {i} (h : (self.sessions self.runningHandle.session).stream = true) :
      Pass self (.resume i .finalize) (.resume i .succeeded)
  | resumed : Pass self .resumed .done
  | restarting {i} : Pass self (.restarting i) (.restart i .take)
  | signalRestarted {i session} :
      Pass self (.restart i (.signalRestarted session)) (.restart i (.waitPcConnection session))
  | waitPcConnection {i session} :
      Pass self (.restart i (.waitPcConnection session)) (.restart i (.install session))
  | restarted : Pass self .restarted .done
  | again {i} (h : i < reconnectAttempts) : Pass self (.backoff i) (.head (i + 1))
  | exhausted {i} (h : ¬ i < reconnectAttempts) : Pass self (.backoff i) .failed
  | closed (h : self.runningHandle.closed = true) : Pass self .failed .done
  | giveUp (h : self.runningHandle.closed = false) :
      Pass self .failed (.giveUp ⟨self.runningHandle.reconnectReason, .lock⟩)

inductive Say : Stage → EngineEvent → Stage → Prop
  | signalResumed {i} : Say (.resume i .configure) .signalResumed (.resume i .syncState)
  | resumed {i} : Say (.resume i .succeeded) .resumed .resumed
  | restarted {i} : Say (.restart i .succeeded) .restarted .restarted

/-- The points at which an attempt can fail. -/
inductive Fails (outcome : Option EngineError) : Mode → ℕ → Stage → Prop
  | reopen {i} : Fails outcome .resume i (.resume i .reopen)
  | configure {i} : Fails outcome .resume i (.resume i .configure)
  | restartPublisher {i} : Fails outcome .resume i (.resume i .restartPublisher)
  | waitPcReconnected {i} : Fails outcome .resume i (.resume i .waitPcReconnected)
  | finalize {i} : Fails outcome .resume i (.resume i .finalize)
  | connect {i} : Fails outcome .restart i (.restart i .connect)
  | waitPcConnection {i session} (h : outcome ≠ none) :
      Fails outcome .restart i (.restart i (.waitPcConnection session))

inductive TaskMove (self : EngineInner) (task : ReconnectTask) (outcome : Option EngineError) :
    List Observation → EngineInner → Prop
  | pass {stage} (h : Pass self task.stage stage) :
      TaskMove self task outcome [] (self.goto task stage)
  | say {event stage} (h : Say task.stage event stage) :
      TaskMove self task outcome [.event .task event] (self.goto task stage)
  | beginRestart {i} (h : task.stage = .head i) (h_closed : self.runningHandle.closed = false)
      (h_full : self.runningHandle.fullReconnect = true) :
      TaskMove self task outcome
        (.attempt .restart :: if task.restartingEmitted then [] else [.event .task .restarting])
        (self.goto { task with restartingEmitted := true } (.restarting i))
  | beginResume {i} (h : task.stage = .head i) (h_closed : self.runningHandle.closed = false)
      (h_full : self.runningHandle.fullReconnect = false) :
      TaskMove self task outcome
        (.attempt .resume :: if task.resumingEmitted then [] else [.event .task .resuming])
        (self.goto { task with resumingEmitted := true } (.resuming i))
  | bail {i mode} (reason : DisconnectReason) (h : Fails outcome mode i task.stage) :
      TaskMove self task outcome []
        ((self.modifyHandle fun handle => { handle with canReconnect := false }).goto task
          (.bail ⟨reason, .lock⟩))
  | escalate {i} (h : Fails outcome .resume i task.stage) :
      TaskMove self task outcome []
        ((self.modifyHandle fun handle => { handle with fullReconnect := true }).goto task
          (.backoff i))
  | retry {i} (h : Fails outcome .restart i task.stage) :
      TaskMove self task outcome [] (self.goto task (.backoff i))
  | tearDown {i} (h : task.stage = .resume i .tearDown) :
      TaskMove self task outcome []
        ((self.modifySession self.runningHandle.session .closeStream).goto task (.resume i .reopen))
  | reopen {i} (h : task.stage = .resume i .reopen) :
      TaskMove self task outcome [] ((self.modifySession self.runningHandle.session
          fun session => { session with stream := true }).goto task (.resume i .configure))
  | takeNone {i} (h : task.stage = .restart i .take)
      (h_none : self.runningHandle.engineTask = none) :
      TaskMove self task outcome [] (self.goto task (.restart i .connect))
  | takeSome {i engineTask} (h : task.stage = .restart i .take)
      (h_some : self.runningHandle.engineTask = some engineTask) :
      TaskMove self task outcome []
        ((self.modifyHandle fun handle => { handle with engineTask := none }).goto task
          (.restart i (.closeSession self.runningHandle.session engineTask)))
  | closeSession {i session engineTask}
      (h : task.stage = .restart i (.closeSession session engineTask)) :
      TaskMove self task outcome []
        ((self.modifySession session .close).goto task (.restart i (.join engineTask)))
  | join {i engineTask} (h : task.stage = .restart i (.join engineTask)) :
      TaskMove self task outcome []
        ((self.stopEngineTask engineTask).goto task (.restart i .connect))
  | connect {i} (h : task.stage = .restart i .connect) :
      TaskMove self task outcome [.created self.created, .event .task .signalRestarted]
        { (self.modifySession self.created fun _ => .connect).goto task
            (.restart i (.signalRestarted self.created)) with created := self.created + 1 }
  | install {i session} (h : task.stage = .restart i (.install session)) :
      TaskMove self task outcome [.installed session] (((self.modifyHandle fun handle =>
            { handle with session := session, fullReconnect := false, engineTask := some session })
          |>.modifySession session fun session => { session with engineTask := true }).goto task
            (.restart i .succeeded))
  | close {closing wrap after stage observations} (h : task.stage = wrap closing)
      (h_wrap : wrap = Stage.bail ∨ wrap = Stage.giveUp)
      (h_close : CloseMove self .task closing after stage observations) :
      TaskMove self task outcome observations (after.goto task (wrap ⟨closing.reason, stage⟩))
  | bailed {closing} (h : task.stage = .bail closing) (h_stage : closing.stage = .notify) :
      TaskMove self task outcome [] (self.notifyWaiters.goto task .failed)
  | gaveUp {closing} (h : task.stage = .giveUp closing) (h_stage : closing.stage = .notify) :
      TaskMove self task outcome [] (self.notifyWaiters.goto task .done)
  | done (h : task.stage = .done) :
      TaskMove self task outcome []
        { self.modifyHandle fun handle => { handle with reconnecting := false } with task := none }

variable {outcome : Option EngineError}

variable {i : ℕ}

lemma attemptFailed_move {mode stage} (hs : task.stage = stage) (h : Fails outcome mode i stage)
    (error) : TaskMove s task outcome [] (s.attemptFailed task i mode error) := by
  unfold attemptFailed
  subst hs
  split
  · exact .bail _ h
  · cases mode with
    | resume => exact .escalate h
    | restart => exact .retry h

lemma beginAttempt_move (h : task.stage = .head i) :
    TaskMove s task outcome (s.beginAttempt task i).2 (s.beginAttempt task i).1 := by
  unfold beginAttempt
  split
  next hcl =>
    refine .pass ?_
    rw [h]
    exact .abandon hcl
  next hcl =>
    split
    next hfull => exact .beginRestart h (by simpa using hcl) hfull
    next hfull => exact .beginResume h (by simpa using hcl) (by simpa using hfull)

lemma resumeStep_move {stage} (h : task.stage = .resume i stage) :
    TaskMove s task outcome (s.resumeStep task i outcome stage).2
      (s.resumeStep task i outcome stage).1 := by
  cases stage with
  | tearDown => exact .tearDown h
  | reopen =>
    cases outcome with
    | none => exact .reopen h
    | some error => exact attemptFailed_move h .reopen error
  | configure =>
    cases outcome with
    | none => exact .say (h ▸ .signalResumed)
    | some error => exact attemptFailed_move h .configure error
  | syncState => exact .pass (h ▸ .syncState)
  | restartPublisher =>
    cases outcome with
    | none => exact .pass (h ▸ .restartPublisher)
    | some error => exact attemptFailed_move h .restartPublisher error
  | waitPcReconnected =>
    cases outcome with
    | none => exact .pass (h ▸ .waitPcReconnected)
    | some error => exact attemptFailed_move h .waitPcReconnected error
  | finalize =>
    simp only [resumeStep]
    split
    next hs => exact .pass (h ▸ .finalize hs)
    next => exact attemptFailed_move h .finalize .connection
  | succeeded => exact .say (h ▸ .resumed)

lemma restartStep_move {stage} (h : task.stage = .restart i stage) :
    TaskMove s task outcome (s.restartStep task i outcome stage).2
      (s.restartStep task i outcome stage).1 := by
  cases stage with
  | take =>
    cases ht : s.runningHandle.engineTask with
    | none =>
      -- there is nothing to take
      have hsm : s.modifyHandle (fun handle => { handle with engineTask := none }) = s := by
        unfold modifyHandle
        rw [← ht]
      simp only [restartStep, ht, hsm]
      exact .takeNone h ht
    | some =>
      simp only [restartStep, ht]
      exact .takeSome h ht
  | closeSession => exact .closeSession h
  | join => exact .join h
  | connect =>
    cases outcome with
    | none => exact .connect h
    | some error => exact attemptFailed_move h .connect error
  | signalRestarted => exact .pass (h ▸ .signalRestarted)
  | waitPcConnection =>
    cases outcome with
    | none => exact .pass (h ▸ .waitPcConnection)
    | some error => exact attemptFailed_move h (.waitPcConnection (by simp)) error
  | install => exact .install h
  | succeeded => exact .say (h ▸ .restarted)

lemma taskStep_move :
    TaskMove s task outcome (s.taskStep task outcome).2 (s.taskStep task outcome).1 := by
  unfold taskStep
  split
  next h => exact .pass (h ▸ .lock)
  next i h => exact beginAttempt_move h
  next i h => exact .pass (h ▸ .resuming)
  next i stage h => exact resumeStep_move h
  next h => exact .pass (h ▸ .resumed)
  next i h => exact .pass (h ▸ .restarting)
  next i stage h => exact restartStep_move h
  next h => exact .pass (h ▸ .restarted)
  next cl h =>
    rcases closeStep_cases s .task cl with ⟨hs, heq⟩ | ⟨_, _, _, heq, hclose⟩
    · rw [heq]
      exact .bailed h hs
    · rw [heq]
      exact .close h (.inl rfl) hclose
  next i h =>
    split
    next hlt => exact .pass (h ▸ .again hlt)
    next hlt => exact .pass (h ▸ .exhausted hlt)
  next h =>
    cases hcl : s.runningHandle.closed with
    | true => exact .pass (h ▸ .closed hcl)
    | false => exact .pass (h ▸ .giveUp hcl)
  next cl h =>
    rcases closeStep_cases s .task cl with ⟨hs, heq⟩ | ⟨_, _, _, heq, hclose⟩
    · rw [heq]
      exact .gaveUp h hs
    · rw [heq]
      exact .close h (.inr rfl) hclose
  next h => exact .done h

/-! ### Moves of the engine -/

inductive Report (self : EngineInner) : Action → ℕ → (RtcSession → RtcSession) → Prop
  | pcFailed {session} (h : self.running session) :
      Report self (.pcFailed session) session (reportClose ⟨.unknownReason, .resume⟩)
  | signalLost {session} (h : self.running session) :
      Report self (.signalLost session) session .closeStream
  | leave {session reason action} (h : self.running session) :
      Report self (.leave session reason action) session (receiveLeave reason action)
  | signalTask {session event rest} (h : self.running session)
      (h_events : (self.sessions session).signalEvents = event :: rest) :
      Report self (.signalTask session) session
        fun session => onSignalEvent event { session with signalEvents := rest }

lemma closeStream_eq (session : RtcSession) : session.closeStream.engineTask = session.engineTask ∧
      session.closeStream.closed = session.closed := by
  unfold RtcSession.closeStream
  split <;> exact ⟨rfl, rfl⟩

variable {a : Action} {id : ℕ} {f : RtcSession → RtcSession}

lemma Report.session_eq (h : Report s a id f) (session : RtcSession) :
    (f session).engineTask = session.engineTask ∧ (f session).closed = session.closed := by
  cases h with
  | pcFailed | leave => exact ⟨rfl, rfl⟩
  | signalLost => exact closeStream_eq session
  | @signalTask _ ev => cases ev <;> exact ⟨rfl, rfl⟩

inductive Move (self : EngineInner) : Action → List Observation → EngineInner → Prop
  | idle {action} : Move self action [] self
  | report {action session f} (h : Report self action session f) :
      Move self action [] (self.modifySession session f)
  /-- A failure is handled although the engine may not reconnect. -/
  | ignore {session event rest} (h : (self.sessions session).engineTask = true)
      (h_can : self.runningHandle.canReconnect = false)
      (h_events : (self.sessions session).sessionEvents = event :: rest)
      (h_action : event.action ≠ .disconnect) :
      Move self (.engineTask session) [.failure session]
        (self.modifySession session fun session => { session with sessionEvents := rest })
  /-- A failure is handled while the reconnect task is there. -/
  | escalate {session event rest} (h : (self.sessions session).engineTask = true)
      (h_can : self.runningHandle.canReconnect = true)
      (h_reconnecting : self.runningHandle.reconnecting = true)
      (h_events : (self.sessions session).sessionEvents = event :: rest)
      (h_action : event.action ≠ .disconnect) :
      Move self (.engineTask session) [.failure session]
        ((self.modifySession session fun session => { session with sessionEvents := rest })
          |>.modifyHandle fun handle => { handle with fullReconnect := true })
  | start {session event rest} (fullReconnect : Bool) (reason : DisconnectReason)
      (h : (self.sessions session).engineTask = true)
      (h_can : self.runningHandle.canReconnect = true)
      (h_reconnecting : self.runningHandle.reconnecting = false)
      (h_events : (self.sessions session).sessionEvents = event :: rest)
      (h_action : event.action ≠ .disconnect) :
      Move self (.engineTask session) [.failure session, .started]
        { (self.modifySession session fun session => { session with sessionEvents := rest })
            |>.modifyHandle fun handle =>
              { handle with
                reconnecting := true
                fullReconnect := handle.fullReconnect || fullReconnect
                reconnectReason := reason } with
          task := some ⟨.lock, false, false, false⟩ }
  | disconnect {session event rest} (h : (self.sessions session).engineTask = true)
      (h_events : (self.sessions session).sessionEvents = event :: rest) :
      Move self (.engineTask session) []
        { (self.modifySession session fun session => { session with sessionEvents := rest })
            |>.modifyHandle fun handle => { handle with canReconnect := false } with
          closers := self.closers ++ [⟨event.reason, .lock⟩] }
  | close (reason : DisconnectReason) :
      Move self (.close reason) [] { self with closers := self.closers ++ [⟨reason, .lock⟩] }
  | closer {k closing after stage observations} (h : self.closers[k]? = some closing)
      (h_close : CloseMove self .closer closing after stage observations) :
      Move self (.closer k) observations
        { after with closers := after.closers.set k ⟨closing.reason, stage⟩ }
  | closerDone {k closing} (h : self.closers[k]? = some closing)
      (h_stage : closing.stage = .notify) :
      Move self (.closer k) [] { self.notifyWaiters with closers := self.closers.eraseIdx k }
  | task {task outcome observations after} (h : self.task = some task)
      (h_move : TaskMove self task outcome observations after) :
      Move self (.task outcome) observations after
  | cancel {task : ReconnectTask} (h : self.task = some task) (h_notified : task.notified = true)
      (h_cancellable : cancellable task.stage = true) : Move self .cancel [] (self.cancelTask task)

variable {session : ℕ} {ev : SessionClose} {rest : List SessionClose}

lemma failure_move (fullReconnect reason) (h : (s.sessions session).engineTask = true)
    (hevs : (s.sessions session).sessionEvents = ev :: rest) (hac : ev.action ≠ .disconnect) {pre}
    (hbef : pre =
      s.modifySession session fun session => { session with sessionEvents := rest }) :
    Move s (.engineTask session)
      (.failure session :: (pre.reconnectionNeeded fullReconnect reason).2)
      (pre.reconnectionNeeded fullReconnect reason).1 := by
  subst hbef
  unfold reconnectionNeeded
  split
  next hcan => exact .ignore h hcan hevs hac
  next hcan =>
    split
    next hrec => exact .escalate h (by simpa using hcan) hrec hevs hac
    next hrec =>
      exact .start fullReconnect reason h (by simpa using hcan) (by simpa using hrec) hevs hac

lemma engineTask_move (h : (s.sessions session).engineTask = true)
    (hevs : (s.sessions session).sessionEvents = ev :: rest) : Move s (.engineTask session)
      ((s.modifySession session fun session => { session with sessionEvents := rest })
        |>.onSessionEvent session ev).2
      ((s.modifySession session fun session => { session with sessionEvents := rest })
        |>.onSessionEvent session ev).1 := by
  obtain ⟨reason, a⟩ := ev
  cases a with
  | disconnect => exact .disconnect h hevs
  | resume => exact failure_move false reason h hevs nofun rfl
  | reconnect => exact failure_move true reason h hevs nofun rfl

lemma step_move (s a) : Move s a (s.step a).2 (s.step a).1 := by
  cases a with
  | pcFailed =>
    simp only [step]
    split
    next h => exact .report (.pcFailed h)
    next => exact .idle
  | signalLost =>
    simp only [step]
    split
    next h => exact .report (.signalLost h)
    next => exact .idle
  | leave =>
    simp only [step]
    split
    next h => exact .report (.leave h.1)
    next => exact .idle
  | signalTask =>
    simp only [step]
    split
    next _ _ hevs =>
      split
      next h => exact .report (.signalTask h hevs)
      next => exact .idle
    next => exact .idle
  | engineTask =>
    simp only [step]
    split
    next _ _ hevs =>
      split
      next h => exact engineTask_move h hevs
      next => exact .idle
    next => exact .idle
  | task =>
    simp only [step]
    split
    next _ h => exact .task h taskStep_move
    next => exact .idle
  | cancel =>
    simp only [step]
    split
    next _ h =>
      split
      next hand =>
        rw [Bool.and_eq_true] at hand
        exact .cancel h hand.1 hand.2
      next => exact .idle
    next => exact .idle
  | close reason => exact .close reason
  | closer =>
    simp only [step]
    split
    next cl h =>
      rcases closeStep_cases s .closer cl with ⟨hs, heq⟩ | ⟨_, _, _, heq, hclose⟩
      · rw [heq]
        exact .closerDone h hs
      · rw [heq]
        exact .closer h hclose
    next => exact .idle

@[elab_as_elim]
lemma step_cases {motive : List Observation → EngineInner → Prop} (s a)
    (h : ∀ obs after, Move s a obs after → motive obs after) : motive (s.step a).2 (s.step a).1 :=
  h _ _ (step_move s a)

end LiveKit.RtcEngine.EngineInner
