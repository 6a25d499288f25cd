import LiveKitRust.RtcEngine.Coherent

/-!
# Failures and attempts

A failure that is handled is to be followed by an attempt to connect again. It starts the reconnect
task; if this is there already, it sets `full_reconnect` instead, which the task reads at the head
of its loop. A failure is `unanswered` as long as no attempt has begun since.

The task does not come back to the head of its loop when an attempt succeeds. A resume may outlive a
failure that is handled while it is made, and then the flag is there for the next episode
(`failure_outlived`). And from the success on until `reconnecting` is reset, a failure is recorded
in the flag and that is all. In a run in which none comes there (`Timely`) the failures are answered
but for those which a resume has outlived (`failures_answered`).

A session that a restart is about to install has no engine task so far, and so none of its failures
has been handled (`Numbered`). And an engine that may not reconnect, where failures are ignored, is
closed or being closed (`Disconnecting`).
-/

open Machine List

namespace LiveKit.RtcEngine

def Stage.newSession : Stage → Option ℕ
  | .restart _ (.signalRestarted session) => some session
  | .restart _ (.waitPcConnection session) => some session
  | .restart _ (.install session) => some session
  | _ => none

/-- The attempt has succeeded, or the task is over. -/
def Stage.succeeded : Stage → Bool
  | .resume _ .succeeded | .resumed | .restart _ .succeeded | .restarted | .done => true
  | _ => false

def Stage.resumes : Stage → Bool
  | .resuming _ | .resume _ _ => true
  | _ => false

def Stage.settles : Stage → Bool
  | .resumed | .restart _ .succeeded | .restarted | .done => true
  | _ => false

namespace EngineInner

def note (session : ℕ) (unanswered : Bool) : Observation → Bool
  | .failure failed => unanswered || failed = session
  | .attempt _ => false
  | _ => unanswered

/-- A failure of the session has been handled since the last attempt began. -/
def unanswered (session : ℕ) (log : List Observation) : Bool := log.foldl (note session) false

def failureNext (self : EngineInner) (session : ℕ) : Bool :=
  match (self.sessions session).sessionEvents with
  | event :: _ => event.action ≠ .disconnect
  | [] => false

/-- Since the room was told that the connection has been resumed, no failure of the session
has been handled. -/
def Outlived (session : ℕ) (log : List Observation) : Prop :=
  ∃ before after, log = before ++ .event .task .resumed :: after ∧ .failure session ∉ after

def Timely (self : EngineInner) : Action → Prop
  | .engineTask session =>
    (self.sessions session).engineTask = true → self.failureNext session = true →
      self.runningHandle.closed = false → self.stands Stage.succeeded = false
  | _ => True

instance (self : EngineInner) (action : Action) : Decidable (self.Timely action) := by
  unfold Timely
  split <;> infer_instance

section

variable {s after : EngineInner} {task : ReconnectTask} {session : ℕ}
  {log obs : List Observation} {outcome : Option EngineError}

lemma failureNext_of_events {ev rest} (h : (s.sessions session).sessionEvents = ev :: rest)
    (hac : ev.action ≠ .disconnect) : s.failureNext session = true := by
  unfold failureNext
  rw [h]
  exact decide_eq_true hac

/-! ### The log -/

lemma unanswered_append : unanswered session (log ++ obs) =
      obs.foldl (note session) (unanswered session log) := foldl_append

lemma foldl_note_of_forall {waiting}
    (h : ∀ observation ∈ obs, note session waiting observation = waiting) :
    obs.foldl (note session) waiting = waiting := by
  induction obs with
  | nil => rfl
  | cons _ _ ih =>
    rw [foldl_cons, h _ (.head _)]
    exact ih fun other hot => h other (mem_cons_of_mem _ hot)

lemma unanswered_of_not_mem (h : .failure session ∉ log) : unanswered session log = false := by
  refine foldl_note_of_forall fun observation hm => ?_
  cases observation with
  | failure failed =>
    have hne : failed ≠ session := by
      rintro rfl
      exact h hm
    simp [note, hne]
  | _ => rfl

lemma Outlived.append (h : Outlived session log) (hnot : .failure session ∉ obs) :
    Outlived session (log ++ obs) := by
  obtain ⟨pre, after, rfl, ha⟩ := h
  refine ⟨pre, after ++ obs, append_assoc .., fun hm => ?_⟩
  exact (mem_append.mp hm).elim ha hnot

/-! ### Sessions and their engine tasks -/

lemma engineTask_of_update {sessions : ℕ → RtcSession} {id : ℕ} {changed : RtcSession}
    (h : changed.engineTask = true → (sessions id).engineTask = true) (session : ℕ)
    (ha : (Function.update sessions id changed session).engineTask = true) :
    (sessions session).engineTask = true := by
  by_cases heq : session = id
  · subst heq
    rw [Function.update_self] at ha
    exact h ha
  · rwa [Function.update_of_ne heq] at ha

variable {sender : Sender} {cl : Closing} {stage : CloseStage} {pre next : Stage}

section

variable (h : CloseMove s sender cl after stage obs)
include h

lemma CloseMove.engineTask_of (ha : (after.sessions session).engineTask = true) :
    (s.sessions session).engineTask = true := by
  cases h with
  | lockNone | lockSome | emit => exact ha
  | session => exact engineTask_of_update (by exact id) _ ha
  | join => exact engineTask_of_update (by nofun) _ ha

lemma CloseMove.created_eq : after.created = s.created := by
  cases h <;> rfl

lemma CloseMove.failure_not_mem : .failure session ∉ obs := by
  cases h <;> simp

end

lemma Pass.newSession_eq (h : Pass s pre next) : next.newSession = pre.newSession := by
  cases h <;> rfl

lemma Say.newSession_eq {ev} (h : Say pre ev next) : next.newSession = pre.newSession := by
  cases h <;> rfl

/-- Engine tasks and failures are of sessions that have been created, and not of the one that a
restart has yet to install. -/
structure Numbered (log : List Observation) (engine : EngineInner) : Prop where
  engineTask : ∀ session, (engine.sessions session).engineTask = true → session < engine.created
  failure : ∀ session, .failure session ∈ log → session < engine.created
  fresh : ∀ task, engine.task = some task → ∀ session, task.stage.newSession = some session →
    session < engine.created ∧ (engine.sessions session).engineTask = false ∧ .failure session ∉ log

namespace Numbered

lemma connect : Numbered [] connect where
  engineTask session h := by
    obtain rfl : session = 0 := of_decide_eq_true h
    exact Nat.zero_lt_one
  failure := nofun
  fresh _ hs := nomatch hs

section

variable (h : Numbered log s)
include h

lemma keep (hcreated : after.created = s.created)
    (heng : ∀ session, (after.sessions session).engineTask = true →
      (s.sessions session).engineTask = true)
    (hfailure : ∀ session, .failure session ∈ obs → (s.sessions session).engineTask = true)
    (ht : ∀ session, (after.task.bind fun task => task.stage.newSession) = some session →
      (s.task.bind fun task => task.stage.newSession) = some session) :
    Numbered (log ++ obs) after where
  engineTask session ha := by
    rw [hcreated]
    exact h.engineTask session (heng session ha)
  failure session hm := by
    rw [hcreated]
    rcases mem_append.mp hm with hlog | hnew
    · exact h.failure session hlog
    · exact h.engineTask session (hfailure session hnew)
  fresh task hs session hsession := by
    obtain ⟨pre, hbef, hnew⟩ := Option.bind_eq_some_iff.mp
      (ht session (Option.bind_eq_some_iff.mpr ⟨task, hs, hsession⟩))
    obtain ⟨hlt, hn, hnot⟩ := h.fresh pre hbef session hnew
    refine ⟨hcreated ▸ hlt, ?_, ?_⟩
    · cases ha : (after.sessions session).engineTask with
      | false => rfl
      | true =>
        rw [heng session ha] at hn
        cases hn
    · rw [mem_append, not_or]
      refine ⟨hnot, fun hm => ?_⟩
      rw [hfailure session hm] at hn
      cases hn

lemma create {i : ℕ} : Numbered (log ++ [.created s.created, .event .task .signalRestarted])
      { (s.modifySession s.created fun _ => .connect).goto task
          (.restart i (.signalRestarted s.created)) with created := s.created + 1 } where
  engineTask session ha := by
    have hlt := h.engineTask session (engineTask_of_update (by nofun) _ ha)
    exact Nat.lt_succ_of_lt hlt
  failure session hm := by
    have hlog : .failure session ∈ log := by simpa using hm
    exact Nat.lt_succ_of_lt (h.failure session hlog)
  fresh := by
    rintro _ ⟨⟩ _ ⟨⟩
    refine ⟨Nat.lt_succ_self _, ?_, ?_⟩
    · show (Function.update s.sessions s.created _ s.created).engineTask = false
      rw [Function.update_self]
      rfl
    · intro hm
      have hlog : .failure s.created ∈ log := by simpa using hm
      exact absurd (h.failure _ hlog) (Nat.lt_irrefl _)

lemma install (ht : s.task = some task) (hnew : task.stage.newSession = some session) {i f} :
    Numbered (log ++ [.installed session]) (((s.modifyHandle f).modifySession session
        fun session => { session with engineTask := true }).goto task (.restart i .succeeded)) where
  engineTask id ha := by
    by_cases heq : id = session
    · subst heq
      exact (h.fresh task ht id hnew).1
    · refine h.engineTask id ?_
      simpa [Function.update_of_ne heq] using ha
  failure id hm := by
    have hlog : .failure id ∈ log := by simpa using hm
    exact h.failure id hlog
  fresh := by
    rintro _ ⟨⟩
    nofun

lemma taskMove (ht : s.task = some task) (hmv : TaskMove s task outcome obs after) :
    Numbered (log ++ obs) after := by
  cases hmv with
  | pass hgoes | say hgoes =>
    refine h.keep rfl (fun _ => id) (by simp) fun _ hsess => ?_
    rw [ht]
    exact hgoes.newSession_eq.symm.trans hsess
  | beginRestart | beginResume =>
    refine h.keep rfl (fun _ => id) (fun _ hm => ?_) nofun
    split at hm <;> simp at hm
  | bail | escalate | retry | takeNone | takeSome | bailed | gaveUp | done =>
    exact h.keep rfl (fun _ => id) nofun nofun
  | tearDown =>
    refine h.keep rfl (engineTask_of_update ?_) nofun nofun
    rw [(closeStream_eq _).1]
    exact id
  | reopen | closeSession => exact h.keep rfl (engineTask_of_update id) nofun nofun
  | join => exact h.keep rfl (engineTask_of_update nofun) nofun nofun
  | connect => exact h.create
  | install hs => exact h.install ht (congrArg Stage.newSession hs)
  | close _ hwrap hcl =>
    refine h.keep hcl.created_eq (fun _ => hcl.engineTask_of) ?_ ?_
    · exact fun _ hm => absurd hm hcl.failure_not_mem
    · rcases hwrap with rfl | rfl <;> nofun

lemma step (a : Action) : Numbered (log ++ (s.step a).2) (s.step a).1 := by
  refine step_cases s a fun obs after hmv => ?_
  cases hmv with
  | idle | close => exact h.keep rfl (fun _ => id) nofun fun _ => id
  | report hreport =>
    refine h.keep rfl (engineTask_of_update ?_) nofun fun _ => id
    rw [(hreport.session_eq _).1]
    exact id
  | ignore heng | escalate heng =>
    refine h.keep rfl (engineTask_of_update id) (fun session hm => ?_) fun _ => id
    obtain rfl : session = _ := by simpa using hm
    exact heng
  | start _ _ heng =>
    refine h.keep rfl (engineTask_of_update id) (fun session hm => ?_) nofun
    obtain rfl : session = _ := by simpa using hm
    exact heng
  | disconnect => exact h.keep rfl (engineTask_of_update id) nofun fun _ => id
  | closer _ hcl =>
    exact h.keep hcl.created_eq (fun _ => hcl.engineTask_of)
      (fun _ hm => absurd hm hcl.failure_not_mem) fun _ => hcl.task_eq ▸ id
  | closerDone =>
    refine h.keep rfl (fun _ => id) nofun fun session hsess => ?_
    obtain ⟨_, hsome, hnew⟩ := Option.bind_eq_some_iff.mp hsess
    obtain ⟨pre, hbef, hs⟩ := of_task_notifyWaiters hsome
    exact Option.bind_eq_some_iff.mpr ⟨pre, hbef, hs ▸ hnew⟩
  | task ht htm => exact h.taskMove ht htm
  | cancel =>
    unfold cancelTask
    split
    · exact h.keep rfl (engineTask_of_update nofun) nofun nofun
    · exact h.keep rfl (fun _ => id) nofun nofun

lemma forget : Numbered [] s where
  engineTask := h.engineTask
  failure := nofun
  fresh task ht session hnew :=
    ⟨(h.fresh task ht session hnew).1, (h.fresh task ht session hnew).2.1, not_mem_nil⟩

end

end Numbered

lemma numbered_run (acts) :
    Numbered (outputs EngineInner.step EngineInner.connect acts)
      (state EngineInner.step EngineInner.connect acts) :=
  run_induction Numbered.connect (fun _ _ a h => Numbered.step h a) acts

/-! ### Engines that may not reconnect -/

def Disconnecting (engine : EngineInner) : Prop :=
  engine.runningHandle.canReconnect = false →
    engine.runningHandle.closed = true ∨ engine.closers ≠ [] ∨
      ∃ task closing, engine.task = some task ∧ task.stage = .bail closing

lemma CloseMove.canReconnect_eq (h : CloseMove s sender cl after stage obs) :
    after.runningHandle.canReconnect = s.runningHandle.canReconnect := by
  cases h <;> rfl

section

variable (h : TaskMove s task outcome obs after)
include h

lemma TaskMove.closed_of_bail (hcoh : Coherent s) (ht : s.task = some task)
    (hbail : task.stage = .bail cl) : after.runningHandle.closed = true := by
  have hcl := hcoh.closing task ht cl (congrArg Stage.closing hbail)
  obtain ⟨_, _, _, _⟩ := task
  obtain rfl : _ = Stage.bail cl := hbail
  cases h with
  | close hs hwrap hclose =>
    rcases hwrap with rfl | rfl
    · cases hs
      exact hclose.closed hcl
    · cases hs
  | bailed hs hnotify =>
    cases hs
    exact hcl.resolve_left (by simp [hnotify])
  | pass hpass => cases hpass
  | say hsay => cases hsay
  | bail _ hfails | escalate hfails | retry hfails => cases hfails
  | _ hs => cases hs

lemma TaskMove.closers_eq : after.closers = s.closers := by
  cases h with
  | close _ _ hcl => exact hcl.closers_eq
  | _ => rfl

lemma TaskMove.closed_of_closed
    (hcl : s.runningHandle.closed = true) : after.runningHandle.closed = true := by
  cases h with
  | close _ _ hclose => exact hclose.closed_of_closed hcl
  | _ => exact hcl

lemma TaskMove.canReconnect_or : after.runningHandle.canReconnect = s.runningHandle.canReconnect ∨
      ∃ task cl, after.task = some task ∧ task.stage = .bail cl := by
  cases h with
  | bail => exact .inr ⟨_, _, rfl, rfl⟩
  | close _ _ hcl => exact .inl hcl.canReconnect_eq
  | _ => exact .inl rfl

end

namespace Disconnecting

lemma connect : Disconnecting connect := nofun

section

variable (h : Disconnecting s)
include h

lemma keep (ht : after.task = s.task)
    (hcan : after.runningHandle.canReconnect = false → s.runningHandle.canReconnect = false)
    (hcl : s.runningHandle.closed = true → after.runningHandle.closed = true)
    (hclosers : s.closers ≠ [] → after.closers ≠ []) : Disconnecting after := by
  intro ha
  rcases h (hcan ha) with hself | hself | ⟨task, cl, hsome, hs⟩
  · exact .inl (hcl hself)
  · exact .inr (.inl (hclosers hself))
  · exact .inr (.inr ⟨task, cl, ht.trans hsome, hs⟩)

lemma taskMove (hcoh : Coherent s)
    (ht : s.task = some task) (hmv : TaskMove s task outcome obs after) : Disconnecting after := by
  intro ha
  rcases hmv.canReconnect_or with hsm | hbail
  · rcases h (hsm ▸ ha) with hcl | hclosers | ⟨_, _, hsome, hs⟩
    · exact .inl (hmv.closed_of_closed hcl)
    · exact .inr (.inl (hmv.closers_eq ▸ hclosers))
    · obtain rfl := Option.mem_unique ht hsome
      exact .inl (hmv.closed_of_bail hcoh ht hs)
  · exact .inr (.inr hbail)

lemma step (hcoh : Coherent s) (a : Action) : Disconnecting (s.step a).1 := by
  refine step_cases s a fun obs after hmv => ?_
  cases hmv with
  | idle | report | ignore | escalate => exact h.keep rfl id id id
  | start _ _ _ hcan =>
    intro ha
    have hnot : s.runningHandle.canReconnect = false := ha
    cases hcan.symm.trans hnot
  | disconnect | close => exact fun _ => .inr (.inl (by simp))
  | closer _ hclose =>
    refine h.keep hclose.task_eq (hclose.canReconnect_eq ▸ id) hclose.closed_of_closed ?_
    intro hclosers
    simpa [hclose.closers_eq] using hclosers
  | closerDone hget hs =>
    exact fun _ => .inl (hcoh.closed_of_closer hget hs)
  | task ht htm => exact h.taskMove hcoh ht htm
  | cancel ht hnotified =>
    have hcl := hcoh.woken _ ht hnotified
    unfold cancelTask
    split <;> exact fun _ => .inl hcl

end

end Disconnecting

/-! ### Failures are answered -/

/-- The failures of the current session are answered, or a resume has outlived them; or there is
nothing left to do. -/
def Settled (log : List Observation) (engine : EngineInner) : Prop :=
  engine.runningHandle.closed = true ∨ engine.runningHandle.canReconnect = false ∨
    unanswered engine.runningHandle.session log = false ∨
      (engine.runningHandle.fullReconnect = true ∧ Outlived engine.runningHandle.session log)

/-- Where the reconnect task does not begin another attempt everything is settled; in a resume
the flag may have been set instead. -/
structure Answered (log : List Observation) (engine : EngineInner) : Prop where
  idle : engine.task = none → Settled log engine
  settles : ∀ task, engine.task = some task → task.stage.settles = true → Settled log engine
  resumes : ∀ task, engine.task = some task → task.stage.resumes = true →
    Settled log engine ∨ engine.runningHandle.fullReconnect = true

lemma Settled.mono (h : Settled log s) (hh : after.runningHandle = s.runningHandle)
    (hnote : ∀ observation ∈ obs, ∀ session waiting, note session waiting observation = waiting) :
    Settled (log ++ obs) after := by
  rw [Settled, hh, unanswered_append, foldl_note_of_forall fun o hm => hnote o hm ..]
  refine h.imp_right (.imp_right (.imp_right (.imp_right fun houtlived => ?_)))
  refine houtlived.append fun hm => ?_
  have hfailure := hnote _ hm s.runningHandle.session false
  simp [note] at hfailure

variable {ev : EngineEvent}

lemma CloseMove.settled (h : CloseMove s sender cl after stage obs) (hset : Settled log s) :
    Settled (log ++ obs) after := by
  cases h with
  | lockNone | lockSome => exact .inl rfl
  | _ => exact hset.mono rfl (by simp [note])

lemma Pass.settles_of (h : Pass s pre next) (hn : next.settles = true) :
    pre.settles = true ∨ s.runningHandle.closed = true := by
  cases h with
  | closed hcl => exact .inr hcl
  | resumed | restarted => exact .inl rfl
  | _ => cases hn

lemma Pass.resumes_of (h : Pass s pre next) (hn : next.resumes = true) : pre.resumes = true := by
  cases h <;> first | rfl | cases hn

lemma Stage.succeeded_of_settles {stage : Stage} (h : stage.settles = true) :
    stage.succeeded = true := by
  unfold Stage.settles at h
  split at h <;> first | rfl | cases h

lemma Say.settles_of (h : Say pre ev next) (hn : next.settles = true) :
    pre.settles = true ∨ (pre.resumes = true ∧ ev = .resumed) := by
  cases h with
  | signalResumed => cases hn
  | resumed => exact .inr ⟨rfl, rfl⟩
  | restarted => exact .inl rfl

lemma Say.resumes_of (h : Say pre ev next) (hn : next.resumes = true) : pre.resumes = true := by
  cases h <;> first | rfl | cases hn

namespace Answered

lemma connect : Answered [] connect where
  idle _ := .inr (.inr (.inl rfl))
  settles _ hs := nomatch hs
  resumes _ hs := nomatch hs

lemma of_settled (h : Settled log s) : Answered log s :=
  ⟨fun _ => h, fun _ _ _ => h, fun _ _ _ => .inl h⟩

lemma keep (h : Answered log s) (ht : after.task = s.task)
    (hset : Settled log s → Settled (log ++ obs) after)
    (hfull : s.runningHandle.fullReconnect = true → after.runningHandle.fullReconnect = true) :
    Answered (log ++ obs) after where
  idle hn := hset (h.idle (ht ▸ hn))
  settles task hs htrue := hset (h.settles task (ht ▸ hs) htrue)
  resumes task hs htrue := (h.resumes task (ht ▸ hs) htrue).imp hset hfull

lemma move {task' : ReconnectTask} (ha : after.task = some task')
    (hsettles : task'.stage.settles = true → Settled (log ++ obs) after)
    (hresumes : task'.stage.resumes = true →
      Settled (log ++ obs) after ∨ after.runningHandle.fullReconnect = true) :
    Answered (log ++ obs) after where
  idle hn := by
    cases ha.symm.trans hn
  settles t ht := by
    obtain rfl := Option.mem_unique ha ht
    exact hsettles
  resumes t ht := by
    obtain rfl := Option.mem_unique ha ht
    exact hresumes

lemma taskMove (h : Answered log s) (hcoh : Coherent s) (hnumbered : Numbered log s)
    (ht : s.task = some task) (hmv : TaskMove s task outcome obs after) :
    Answered (log ++ obs) after := by
  cases hmv with
  | pass hpass =>
    refine move rfl (fun hn => ?_) fun hn => ?_
    · rcases hpass.settles_of hn with hbef | hcl
      · exact (h.settles task ht hbef).mono rfl nofun
      · exact .inl hcl
    · exact (h.resumes task ht (hpass.resumes_of hn)).imp_left (·.mono rfl nofun)
  | say hsay =>
    have hkeep {ev : EngineEvent} {stage : Stage} (hset : Settled log s) :
        Settled (log ++ [.event .task ev]) (s.goto task stage) :=
      hset.mono rfl (by simp [note])
    refine move rfl (fun hn => ?_) fun hn => ?_
    · rcases hsay.settles_of hn with hbef | ⟨hresumes, rfl⟩
      · exact hkeep (h.settles task ht hbef)
      · -- the resume has outlived what has set the flag
        rcases h.resumes task ht hresumes with hset | hfull
        · exact hkeep hset
        · exact .inr (.inr (.inr ⟨hfull, log, [], rfl, not_mem_nil⟩))
    · exact (h.resumes task ht (hsay.resumes_of hn)).imp_left hkeep
  | beginRestart => exact move rfl nofun nofun
  | beginResume =>
    -- the failures so far are answered by this attempt
    refine of_settled (.inr (.inr (.inl ?_)))
    rw [unanswered_append]
    split <;> rfl
  | bail => exact of_settled (.inr (.inl rfl))
  | escalate | retry | takeNone | takeSome | closeSession | join | connect =>
    exact move rfl nofun nofun
  | tearDown hs | reopen hs =>
    have hresumes : task.stage.resumes = true := by rw [hs]; rfl
    exact move rfl nofun fun _ => (h.resumes task ht hresumes).imp_left (·.mono rfl nofun)
  | install hs =>
    -- none of the failures is of the new session
    obtain ⟨-, -, hnot⟩ := hnumbered.fresh task ht _ (congrArg Stage.newSession hs)
    refine of_settled (.inr (.inr (.inl ?_)))
    rw [unanswered_append]
    exact unanswered_of_not_mem hnot
  | close hs hwrap hclose =>
    have hcl := hcoh.closed_of_close ht hs hwrap hclose
    exact of_settled (.inl hcl)
  | bailed => exact move rfl nofun nofun
  | gaveUp hs hnotify =>
    have hclosing := congrArg Stage.closing hs
    exact of_settled (.inl (hcoh.closed_of_notify ht hclosing hnotify))
  | done hs =>
    have hsettles : task.stage.settles = true := by rw [hs]; rfl
    rw [append_nil]
    exact of_settled (h.settles task ht hsettles)

lemma step (h : Answered log s) (hcoh : Coherent s) (hnumbered : Numbered log s)
    {a : Action} (htimely : s.Timely a) : Answered (log ++ (s.step a).2) (s.step a).1 := by
  refine step_cases s a fun obs after hmv => ?_
  cases hmv with
  | idle | report | close =>
    exact h.keep rfl (·.mono rfl nofun) id
  | ignore _ hcan => exact of_settled (.inr (.inl hcan))
  | escalate heng _ hrec hevs hac =>
    -- the task is there, and has not succeeded: it comes to the head of its loop, or resumes
    obtain ⟨_, ht⟩ := Option.isSome_iff_exists.mp (hcoh.reconnecting ▸ hrec)
    refine move ht (fun hsettles => ?_) fun _ => .inr rfl
    cases hcl : s.runningHandle.closed with
    | true => exact .inl hcl
    | false =>
      have hn := failureNext_of_events hevs hac
      have hnot := htimely heng hn hcl
      rw [stands_eq ht, Stage.succeeded_of_settles hsettles] at hnot
      cases hnot
  | start => exact move rfl nofun nofun
  | disconnect => exact of_settled (.inr (.inl rfl))
  | closer _ hclose =>
    refine h.keep hclose.task_eq hclose.settled ?_
    cases hclose <;> exact id
  | closerDone hget hs => exact of_settled (.inl (hcoh.closed_of_closer hget hs))
  | task ht htm => exact h.taskMove hcoh hnumbered ht htm
  | cancel ht hnotified =>
    have hcl := hcoh.woken _ ht hnotified
    unfold cancelTask
    split <;> exact of_settled (.inl hcl)

end Answered

end

/-- **Failures are answered.** In a run in which no failure is handled between the success of
an attempt and the end of the reconnect task, a failure of the current session is answered by
an attempt by the time nothing is under way, or the engine is closed; or else a resume was
being made and has outlived it, and `full_reconnect` is set. -/
theorem failures_answered (actions : List Action) (h_timely : Along step Timely connect actions)
    (h_quiescent : (state step connect actions).Quiescent)
    (h_open : (state step connect actions).runningHandle.closed = false) :
    let engine := state step connect actions
    let log := outputs step connect actions
    unanswered engine.runningHandle.session log = false ∨
      (engine.runningHandle.fullReconnect = true ∧ Outlived engine.runningHandle.session log) := by
  intro _ log
  have hinit :
      Answered [] connect ∧ Coherent connect ∧ Numbered [] connect ∧ Disconnecting connect :=
    ⟨.connect, .connect, .connect, .connect⟩
  obtain ⟨hanswered, -, -, hdisconnecting⟩ := h_timely.run_of_step
    (P := fun log self => Answered log self ∧ Coherent self ∧ Numbered log self ∧
      Disconnecting self)
    hinit fun log self a h h_timely =>
      ⟨h.1.step h.2.1 h.2.2.1 h_timely, h.2.1.step a, h.2.2.1.step a, h.2.2.2.step h.2.1 a⟩
  rcases hanswered.idle h_quiescent.1 with hcl | hcan | hset
  · cases h_open.symm.trans hcl
  · -- somebody would be closing the engine
    rcases hdisconnecting hcan with hcl | hclosers | ⟨_, _, hsome, _⟩
    · cases h_open.symm.trans hcl
    · exact absurd h_quiescent.2.1 hclosers
    · rw [h_quiescent.1] at hsome
      cases hsome
  · exact hset

def resumedRun : List Action :=
  [.signalLost 0, .signalTask 0, .engineTask 0] ++ List.replicate 13 (.task none)

theorem failures_answered_resumed : let engine := state step connect resumedRun
    let log := outputs step connect resumedRun
    engine.runningHandle.fullReconnect = false ∧
      (unanswered engine.runningHandle.session log = false ∨
        (engine.runningHandle.fullReconnect = true ∧
          Outlived engine.runningHandle.session log)) := by
  intro _ _
  exact ⟨by decide +kernel,
    failures_answered resumedRun (by decide +kernel) (by decide +kernel) (by decide +kernel)⟩

/-- A peer connection fails while the session is being resumed, and the resume succeeds. -/
def failedWhileResuming : List Action :=
  [.signalLost 0, .signalTask 0, .engineTask 0, .task none, .task none, .pcFailed 0,
    .engineTask 0] ++ List.replicate 11 (.task none)

/-- No attempt is made after the failure, and nothing is under way: it is left to the next
episode, which will not begin with a resume. -/
theorem failure_outlived : (state step connect failedWhileResuming).Quiescent ∧
      (state step connect failedWhileResuming).runningHandle.closed = false ∧
      (state step connect failedWhileResuming).runningHandle.reconnecting = false ∧
      (state step connect failedWhileResuming).runningHandle.fullReconnect = true ∧
      unanswered (state step connect failedWhileResuming).runningHandle.session
        (outputs step connect failedWhileResuming) = true := by
  decide +kernel

end EngineInner
end LiveKit.RtcEngine
