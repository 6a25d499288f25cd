import LiveKitRust.RtcEngine.Reconnection

/-!
# A resume that escalates itself

To resume a session, `SignalClient::restart` first closes the signalling stream. When a peer
connection has failed the stream is still up, so the task that reads it sees it end, and this is
passed on like any loss of the stream. By then the reconnect task is running, and the engine sets
`full_reconnect`. The resume succeeds all the same, with the flag set, and the next failure is
answered by a restart (`resume_escalates`).

Nothing of that happens if the stream is gone before it is closed (`StreamGone`), as it is when the
episode has begun with its loss: when the room is told that the connection has been resumed, the
flag is not set (`resume_keeps_fullReconnect`).

The proof counts the events yet to be handled (`pending`): one at most, and none once the reconnect
task has been started.
-/

open Machine List

namespace LiveKit.RtcEngine

open RtcSession

/-- The resume is about to close the stream. -/
def Stage.tearsDown : Stage → Bool
  | .resume _ .tearDown => true
  | _ => false

def RtcSession.pending (self : RtcSession) : ℕ :=
  (if self.closed then 0 else self.signalEvents.length) +
    if self.engineTask then self.sessionEvents.length else 0

namespace EngineInner

/-- The network or the server reports a failure. -/
def fromOutside : Action → Bool
  | .pcFailed _ | .signalLost _ | .leave _ _ _ => true
  | _ => false

/-- A stream that is closed in order to resume the session is gone already. -/
def StreamGone (self : EngineInner) : Action → Prop
  | .task _ =>
    self.stands Stage.tearsDown = true → (self.sessions self.runningHandle.session).stream = false
  | _ => True

instance (self : EngineInner) (action : Action) : Decidable (self.StreamGone action) := by
  unfold StreamGone
  split <;> infer_instance

def Still (engine : EngineInner) : Prop :=
  ∀ session < engine.created, (engine.sessions session).pending = 0

/-- Every event has been handled but for one, perhaps. -/
def OnePending (engine : EngineInner) : Prop :=
  ∃ only, ∀ session < engine.created,
    (engine.sessions session).pending ≤ if session = only then 1 else 0

/-- There is one event at most, and it has been handled if the reconnect task has been started
since. Then `full_reconnect` is set by a failed attempt only. -/
structure Calm (log : List Observation) (engine : EngineInner) : Prop where
  one : OnePending engine
  still : engine.task ≠ none ∨ .event .task .resumed ∈ log → Still engine
  fresh : ∀ task, engine.task = some task → ∀ session, task.stage.newSession = some session →
    (engine.sessions session).sessionEvents = []
  resumes : ∀ task, engine.task = some task → task.stage.resumes = true →
    engine.runningHandle.fullReconnect = false
  told : .event .task .resumed ∈ log → engine.runningHandle.fullReconnect = false ∧
    ∀ task, engine.task = some task → task.stage.succeeded = true

section

variable {s after : EngineInner} {task : ReconnectTask} {session id : ℕ}
  {log obs : List Observation} {outcome : Option EngineError}

/-! ### Pending events -/

lemma Still.onePending (h : Still s) : OnePending s :=
  ⟨0, fun session hlt => (h session hlt).symm ▸ Nat.zero_le _⟩

lemma Quiescent.still (h : s.Quiescent) : Still s := by
  intro session hlt
  obtain ⟨_, _⟩ := h.2.2 session hlt
  unfold pending
  cases hcl : (s.sessions session).closed <;>
    cases ht : (s.sessions session).engineTask <;> simp_all

def Fewer (self after : EngineInner) : Prop :=
  after.created = self.created ∧
    ∀ session, (after.sessions session).pending ≤ (self.sessions session).pending

lemma Fewer.refl : Fewer s s := ⟨rfl, fun _ => Nat.le_refl _⟩

variable {changed : RtcSession} {sender : Sender} {cl : Closing} {stage : CloseStage}
  {pre next : Stage}

lemma Fewer.update (hcreated : after.created = s.created)
    (hsessions : after.sessions = Function.update s.sessions id changed)
    (h : changed.pending ≤ (s.sessions id).pending) : Fewer s after := by
  refine ⟨hcreated, fun session => ?_⟩
  rw [hsessions]
  by_cases heq : session = id
  · subst heq
    rwa [Function.update_self]
  · exact Nat.le_of_eq (congrArg pending (Function.update_of_ne heq ..))

lemma Still.mono (h : Still s) (hfewer : Fewer s after) : Still after := by
  intro session hlt
  rw [hfewer.1] at hlt
  have hle := hfewer.2 session
  rw [h session hlt] at hle
  exact Nat.le_zero.mp hle

lemma OnePending.mono (h : OnePending s) (hfewer : Fewer s after) : OnePending after := by
  obtain ⟨only, honly⟩ := h
  refine ⟨only, fun session hlt => ?_⟩
  exact Nat.le_trans (hfewer.2 session) (honly session (hfewer.1 ▸ hlt))

lemma OnePending.handled (h : OnePending s) (hlt : id < s.created)
    (hp : (s.sessions id).pending = changed.pending + 1) (hcreated : after.created = s.created)
    (hsessions : after.sessions = Function.update s.sessions id changed) : Still after := by
  obtain ⟨only, honly⟩ := h
  have hle := honly id hlt
  obtain rfl : id = only := by
    by_contra hne
    rw [if_neg hne, hp] at hle
    exact Nat.not_succ_le_zero _ hle
  intro session hsess
  rw [hcreated] at hsess
  rw [hsessions]
  by_cases heq : session = id
  · subst heq
    rw [if_pos rfl, hp] at hle
    rw [Function.update_self]
    exact Nat.le_zero.mp (Nat.le_of_succ_le_succ hle)
  · rw [Function.update_of_ne heq]
    have hzero := honly session hsess
    rw [if_neg heq] at hzero
    exact Nat.le_zero.mp hzero

lemma pending_close (session : RtcSession) : session.close.pending ≤ session.pending := by
  simp only [pending, close, if_true, Nat.zero_add]
  exact Nat.le_add_left ..

lemma pending_onSignalEvent {session : RtcSession} {ev : SignalEvent} {rest : List SignalEvent}
    (hcl : session.closed = false) (h : session.signalEvents = ev :: rest) :
    (onSignalEvent ev { session with signalEvents := rest }).pending ≤ session.pending := by
  -- the event goes from one queue to the next, if it counts there
  cases ht : session.engineTask <;> cases ev <;>
    simp [pending, onSignalEvent, reportClose, h, hcl, ht]
  all_goals omega

lemma pending_install {session : RtcSession} (h : session.sessionEvents = []) :
    { session with engineTask := true }.pending ≤ session.pending := by
  simp only [pending, h, length_nil, ite_self]
  exact Nat.le_refl _

lemma pending_eq_succ {session : RtcSession} {ev : SessionClose} {rest : List SessionClose}
    (h : session.engineTask = true) (hevs : session.sessionEvents = ev :: rest) :
    session.pending = { session with sessionEvents := rest }.pending + 1 := by
  simp [pending, h, hevs]
  omega

lemma CloseMove.fewer (h : CloseMove s sender cl after stage obs) : Fewer s after := by
  cases h with
  | lockNone | lockSome | emit => exact ⟨rfl, fun _ => Nat.le_refl _⟩
  | session => exact .update rfl rfl (pending_close _)
  | join => exact .update rfl rfl (by simp [pending])

/-! ### Each step keeps the calm -/

lemma Pass.succeeded_next (h : Pass s pre next) (hbef : pre.succeeded = true) :
    next.succeeded = true := by
  cases h <;> first | rfl | cases hbef

lemma Say.succeeded_next {ev} (h : Say pre ev next) (hbef : pre.succeeded = true) :
    next.succeeded = true := by
  cases h <;> first | rfl | cases hbef

lemma Say.of_resumed (h : Say pre .resumed next) : pre.resumes = true ∧ next.succeeded = true := by
  cases h
  exact ⟨rfl, rfl⟩

lemma Fails.succeeded_eq {mode i stage} (h : Fails outcome mode i stage) :
    stage.succeeded = false := by
  cases h <;> rfl

section

variable (h : CloseMove s sender cl after stage obs)
include h

lemma CloseMove.fullReconnect_eq :
    after.runningHandle.fullReconnect = s.runningHandle.fullReconnect := by
  cases h <;> rfl

lemma CloseMove.sessionEvents_eq (session : ℕ) :
    (after.sessions session).sessionEvents = (s.sessions session).sessionEvents := by
  cases h with
  | lockNone | lockSome | emit => rfl
  | session | join =>
    show (Function.update s.sessions _ _ session).sessionEvents = _
    rw [Function.update_apply]
    split
    next heq =>
      subst heq
      rfl
    next => rfl

lemma CloseMove.resumed_not_mem : .event .task .resumed ∉ obs := by
  cases h <;> simp

end

namespace Calm

lemma waiting (ht : s.task = none) (hlog : .event .task .resumed ∉ log)
    (hone : OnePending s) : Calm log s where
  one := hone
  still h := by
    rcases h with hs | htold
    · exact absurd ht hs
    · exact absurd htold hlog
  fresh _ hs := by
    cases ht.symm.trans hs
  resumes _ hs := by
    cases ht.symm.trans hs
  told htold := absurd htold hlog

variable {task' : ReconnectTask}

lemma move (ha : after.task = some task') (hstill : Still after)
    (hfresh : ∀ session, task'.stage.newSession = some session →
      (after.sessions session).sessionEvents = [])
    (hresumes : task'.stage.resumes = true → after.runningHandle.fullReconnect = false)
    (htold : .event .task .resumed ∈ log →
      after.runningHandle.fullReconnect = false ∧ task'.stage.succeeded = true) :
    Calm log after where
  one := hstill.onePending
  still _ := hstill
  fresh t ht := by
    obtain rfl := Option.mem_unique ha ht
    exact hfresh
  resumes t ht := by
    obtain rfl := Option.mem_unique ha ht
    exact hresumes
  told hm := by
    refine ⟨(htold hm).1, fun t ht => ?_⟩
    obtain rfl := Option.mem_unique ha ht
    exact (htold hm).2

section

variable (h : Calm log s)
include h

lemma of_pending (hlt : session < s.created) (hp : (s.sessions session).pending ≠ 0) :
    s.task = none ∧ .event .task .resumed ∉ log := by
  constructor
  · by_contra hs
    exact hp (h.still (.inl hs) session hlt)
  · intro htold
    exact hp (h.still (.inr htold) session hlt)

lemma keep (ht : after.task = s.task) (hfewer : Fewer s after)
    (hevs : ∀ session, (after.sessions session).sessionEvents = (s.sessions session).sessionEvents)
    (hfull : after.runningHandle.fullReconnect = s.runningHandle.fullReconnect)
    (hlog : .event .task .resumed ∉ obs) : Calm (log ++ obs) after := by
  have htold (hm : .event .task .resumed ∈ log ++ obs) :
      .event .task .resumed ∈ log := (mem_append.mp hm).resolve_right hlog
  refine ⟨h.one.mono hfewer, ?_, ?_, ?_, ?_⟩
  · rw [ht]
    exact fun hstarted => (h.still (hstarted.imp_right htold)).mono hfewer
  · intro task hs session hnew
    rw [hevs]
    exact h.fresh task (ht ▸ hs) session hnew
  · rw [ht, hfull]
    exact h.resumes
  · rw [ht, hfull]
    exact fun hm => h.told (htold hm)

lemma notifyWaiters : Calm log s.notifyWaiters where
  one := h.one
  still hstarted := h.still (by simpa using hstarted)
  fresh _ hsome session hnew := by
    obtain ⟨pre, hbef, hs⟩ := of_task_notifyWaiters hsome
    exact h.fresh pre hbef session (hs ▸ hnew)
  resumes _ hsome hresumes := by
    obtain ⟨pre, hbef, hs⟩ := of_task_notifyWaiters hsome
    exact h.resumes pre hbef (hs ▸ hresumes)
  told htold := by
    refine ⟨(h.told htold).1, fun _ hsome => ?_⟩
    obtain ⟨pre, hbef, hs⟩ := of_task_notifyWaiters hsome
    exact hs ▸ (h.told htold).2 pre hbef

lemma not_told (ht : s.task = some task)
    (hnot : task.stage.succeeded = false) : .event .task .resumed ∉ log := by
  intro htold
  have hsucceeded := (h.told htold).2 task ht
  cases hnot.symm.trans hsucceeded

lemma finish (ht : after.task = none) (hfewer : Fewer s after)
    (hfull : after.runningHandle.fullReconnect = s.runningHandle.fullReconnect) :
    Calm log after where
  one := h.one.mono hfewer
  still htold := (h.still (.inr (htold.resolve_left (absurd ht)))).mono hfewer
  fresh _ hs := by
    cases ht.symm.trans hs
  resumes _ hs := by
    cases ht.symm.trans hs
  told htold := by
    refine ⟨hfull.trans (h.told htold).1, fun _ hs => ?_⟩
    cases ht.symm.trans hs

lemma move_untold (ht : s.task = some task) (hs : task.stage = pre)
    (hnot : pre.succeeded = false) (hlog : .event .task .resumed ∉ obs)
    (ha : after.task = some task') (hstill : Still after)
    (hfresh : ∀ session, task'.stage.newSession = some session →
      (after.sessions session).sessionEvents = [])
    (hresumes : task'.stage.resumes = true → after.runningHandle.fullReconnect = false) :
    Calm (log ++ obs) after := by
  refine move ha hstill hfresh hresumes fun hm => ?_
  rcases mem_append.mp hm with htold | hnew
  · exact absurd htold (h.not_told ht (hs ▸ hnot))
  · exact absurd hnew hlog

lemma taskMove (hgone : s.StreamGone (.task outcome))
    (ht : s.task = some task) (hmv : TaskMove s task outcome obs after) :
    Calm (log ++ obs) after := by
  have hstill : Still s := h.still (.inl (by simp [ht]))
  cases hmv with
  | pass hpass =>
    refine move rfl hstill ?_ (fun hn => h.resumes task ht (hpass.resumes_of hn)) ?_
    · exact fun session hnew => h.fresh task ht session (hpass.newSession_eq ▸ hnew)
    · intro hm
      obtain ⟨hfull, hsucceeded⟩ := h.told (append_nil log ▸ hm)
      exact ⟨hfull, hpass.succeeded_next (hsucceeded task ht)⟩
  | say hsay =>
    refine move rfl hstill ?_ (fun hn => h.resumes task ht (hsay.resumes_of hn)) ?_
    · exact fun session hnew => h.fresh task ht session (hsay.newSession_eq ▸ hnew)
    · intro hm
      rcases mem_append.mp hm with htold | hnew
      · obtain ⟨hfull, hsucceeded⟩ := h.told htold
        exact ⟨hfull, hsay.succeeded_next (hsucceeded task ht)⟩
      · -- the resume has begun with the flag reset
        obtain rfl : EngineEvent.resumed = _ := by simpa using hnew
        obtain ⟨hresumes, hn⟩ := hsay.of_resumed
        exact ⟨h.resumes task ht hresumes, hn⟩
  | beginRestart hs =>
    refine h.move_untold ht hs rfl ?_ rfl hstill nofun nofun
    split <;> simp
  | beginResume hs _ hfull =>
    refine h.move_untold ht hs rfl ?_ rfl hstill nofun fun _ => hfull
    split <;> simp
  | bail _ hfails | escalate hfails | retry hfails =>
    exact h.move_untold ht rfl hfails.succeeded_eq not_mem_nil rfl hstill nofun nofun
  | tearDown hs =>
    -- the stream is gone, so nothing is said of its end
    have hstream := hgone ((stands_eq ht _).trans (hs ▸ rfl))
    have hresumes := h.resumes task ht (hs ▸ rfl)
    refine h.move_untold ht hs rfl not_mem_nil rfl ?_ nofun fun _ => hresumes
    refine hstill.mono (.update rfl rfl ?_)
    simp [closeStream, hstream]
  | reopen hs =>
    have hresumes := h.resumes task ht (hs ▸ rfl)
    refine h.move_untold ht hs rfl not_mem_nil rfl ?_ nofun fun _ => hresumes
    exact hstill.mono (.update rfl rfl (Nat.le_refl _))
  | takeNone hs | takeSome hs | bailed hs | gaveUp hs =>
    exact h.move_untold ht hs rfl not_mem_nil rfl hstill nofun nofun
  | closeSession hs =>
    exact h.move_untold ht hs rfl not_mem_nil rfl
      (hstill.mono (.update rfl rfl (pending_close _))) nofun nofun
  | join hs =>
    refine h.move_untold ht hs rfl not_mem_nil rfl (hstill.mono (.update rfl rfl ?_)) nofun nofun
    exact Nat.le_add_right ..
  | connect hs =>
    refine h.move_untold ht hs rfl (by simp) rfl ?_ ?_ nofun
    · intro session hlt
      show (Function.update s.sessions s.created _ session).pending = 0
      by_cases heq : session = s.created
      · subst heq
        rw [Function.update_self]
        rfl
      · rw [Function.update_of_ne heq]
        exact hstill session (Nat.lt_of_le_of_ne (Nat.le_of_lt_succ hlt) heq)
    · rintro _ ⟨⟩
      show (Function.update s.sessions s.created _ s.created).sessionEvents = []
      rw [Function.update_self]
      rfl
  | install hs =>
    have hfresh := h.fresh task ht _ (congrArg Stage.newSession hs)
    refine h.move_untold ht hs rfl (by simp) rfl ?_ nofun nofun
    exact hstill.mono (.update rfl rfl (pending_install hfresh))
  | close hs hwrap hcl =>
    refine h.move_untold ht hs ?_ hcl.resumed_not_mem rfl (hstill.mono hcl.fewer) ?_ ?_
    · rcases hwrap with rfl | rfl <;> rfl
    · rcases hwrap with rfl | rfl <;> nofun
    · rcases hwrap with rfl | rfl <;> nofun
  | done =>
    rw [append_nil]
    exact h.finish rfl ⟨rfl, fun _ => Nat.le_refl _⟩ rfl

lemma step (hnumbered : Numbered log s) {a : Action}
    (hinside : fromOutside a = false) (hgone : s.StreamGone a) :
    Calm (log ++ (s.step a).2) (s.step a).1 := by
  refine step_cases s a fun obs after hmv => ?_
  cases hmv with
  | idle | close => exact h.keep rfl .refl (fun _ => rfl) rfl not_mem_nil
  | report hreport =>
    cases hreport with
    | pcFailed | signalLost | leave => cases hinside
    | signalTask hrun hevs =>
      -- the session passes the event on
      obtain ⟨hn, hlog⟩ := h.of_pending hrun.1 (by simp [pending, hrun.2, hevs])
      rw [append_nil]
      refine waiting hn hlog (h.one.mono (.update rfl rfl ?_))
      exact pending_onSignalEvent hrun.2 hevs
  | ignore heng _ hevs | escalate heng _ _ hevs
  | disconnect heng hevs =>
    have hp := pending_eq_succ heng hevs
    obtain ⟨hn, hlog⟩ := h.of_pending (hnumbered.engineTask _ heng) (hp ▸ Nat.succ_ne_zero _)
    refine waiting hn (by simpa using hlog) (h.one.mono (.update rfl rfl ?_))
    rw [hp]
    exact Nat.le_succ _
  | start _ _ heng _ _ hevs =>
    -- the only event is handled
    have hlt := hnumbered.engineTask _ heng
    have hp := pending_eq_succ heng hevs
    obtain ⟨_, hlog⟩ := h.of_pending hlt (hp ▸ Nat.succ_ne_zero _)
    refine move rfl (h.one.handled hlt hp rfl rfl) nofun nofun fun hm => ?_
    exact absurd (by simpa using hm) hlog
  | closer _ hcl =>
    exact h.keep hcl.task_eq hcl.fewer hcl.sessionEvents_eq hcl.fullReconnect_eq hcl.resumed_not_mem
  | closerDone =>
    exact h.notifyWaiters.keep rfl .refl (fun _ => rfl) rfl not_mem_nil
  | task ht htm => exact h.taskMove hgone ht htm
  | cancel =>
    rw [append_nil]
    unfold cancelTask
    split
    · exact h.finish rfl (.update rfl rfl (Nat.le_add_right ..)) rfl
    · exact h.finish rfl ⟨rfl, fun _ => Nat.le_refl _⟩ rfl

end

end Calm

/-! ### The failure that starts the episode -/

lemma pending_reportClose (ev session) :
    (reportClose ev session).pending ≤ session.pending + 1 := by
  cases h : session.engineTask <;> simp [pending, reportClose, h]
  omega

lemma pending_receiveLeave (reason a session) :
    (receiveLeave reason a session).pending ≤ session.pending + 1 := by
  cases h : session.closed <;> simp [pending, receiveLeave, h]
  omega

lemma pending_closeStream (session : RtcSession) :
    session.closeStream.pending ≤ session.pending + 1 := by
  unfold closeStream
  split
  · cases h : session.closed <;> simp [pending, h]
    omega
  · exact Nat.le_succ _

lemma Still.report {changed} (h : Still s) (hlt : id < s.created)
    (hchanged : changed.pending ≤ (s.sessions id).pending + 1)
    (hcreated : after.created = s.created)
    (hsessions : after.sessions = Function.update s.sessions id changed) : OnePending after := by
  refine ⟨id, fun session hsess => ?_⟩
  rw [hcreated] at hsess
  rw [hsessions]
  split
  next heq =>
    subst heq
    rw [Function.update_self]
    rwa [h session hlt] at hchanged
  next heq =>
    rw [Function.update_of_ne heq]
    exact Nat.le_of_eq (h session hsess)

lemma Calm.report (hstill : Still s) (ht : s.task = none) {a} (houtside : fromOutside a = true) :
    Calm [] (s.step a).1 := by
  refine step_cases s a fun obs after hmv => ?_
  cases hmv with
  | idle => exact .waiting ht not_mem_nil hstill.onePending
  | report hreport =>
    refine .waiting ht not_mem_nil ?_
    cases hreport with
    | pcFailed hrun => exact hstill.report hrun.1 (pending_reportClose ..) rfl rfl
    | signalLost hrun => exact hstill.report hrun.1 (pending_closeStream _) rfl rfl
    | leave hrun => exact hstill.report hrun.1 (pending_receiveLeave ..) rfl rfl
    | signalTask => cases houtside
  | _ => cases houtside

end

/-- **A resume does not escalate itself** where the stream is gone before it is closed. Let a
failure be reported when nothing is under way, and no other one after it. Once the room is
told that the connection has been resumed, `full_reconnect` is not set. -/
theorem resume_keeps_fullReconnect (before rest : List Action) (report : Action)
    (h_quiescent : (state step connect before).Quiescent) (h_outside : fromOutside report = true)
    (h_inside : ∀ action ∈ rest, fromOutside action = false)
    (h_gone : Along step StreamGone (state step connect (before ++ [report])) rest)
    (h_resumed : .event .task .resumed ∈
      outputs step (state step connect (before ++ [report])) rest) :
    (state step connect (before ++ [report] ++ rest)).runningHandle.fullReconnect = false := by
  have hinit : Calm [] (state step connect (before ++ [report])) := by
    rw [state_concat]
    exact .report h_quiescent.still h_quiescent.1 h_outside
  have hrun := (h_gone.and (along_of_forall h_inside)).run_of_step
    (P := fun log self => Calm log self ∧ Numbered log self) ⟨hinit, (numbered_run _).forget⟩
    fun _ _ action h haction => ⟨h.1.step h.2 haction.2 haction.1, h.2.step action⟩
  rw [state_append]
  exact (hrun.1.told h_resumed).1

/-- The session is resumed, after the engine task has handled its failure. -/
def resumeToTheEnd : List Action := .engineTask 0 :: List.replicate 13 (.task none)

theorem resume_keeps_fullReconnect_signalLost : (state step connect ([] ++ [.signalLost 0] ++
      .signalTask 0 :: resumeToTheEnd)).runningHandle.fullReconnect = false :=
  resume_keeps_fullReconnect [] (.signalTask 0 :: resumeToTheEnd) (.signalLost 0)
    (by decide +kernel) rfl
    (by decide +kernel) (by decide +kernel) (by decide +kernel)

/-- A peer connection fails, and the session is resumed. The events of the stream that was
closed for this are handled as soon as they are there. -/
def selfEscalation : List Action :=
  .engineTask 0 :: List.replicate 4 (.task none) ++ [.signalTask 0, .engineTask 0] ++
    List.replicate 9 (.task none)

/-- The resume has set the flag. -/
theorem resume_escalates :
    connect.Quiescent ∧ (∀ action ∈ selfEscalation, fromOutside action = false) ∧
      .event .task .resumed ∈ outputs step (state step connect [.pcFailed 0]) selfEscalation ∧
      (state step connect ([.pcFailed 0] ++ selfEscalation)).Quiescent ∧
      (state step connect ([.pcFailed 0] ++ selfEscalation)).runningHandle.fullReconnect =
        true := by
  decide +kernel

end EngineInner
end LiveKit.RtcEngine
