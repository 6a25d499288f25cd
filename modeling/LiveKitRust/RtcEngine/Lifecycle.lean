import LiveKitRust.RtcEngine.Coherent

/-!
# The life of a reconnect episode

An episode is one run of the reconnect task. `episode` is what the task has told the room in the
last one of a run, and `Opening` and `Complete` are the words this can be, while it goes on and when
it is over (`lifecycle_grammar`). A call of `close` beside the task always emits `Disconnected`, and
takes no account of what the task emits: with it the words are others (`disconnected_beside_task`).

The proof reads the word off the point the task stands at (`Spells`); its two flags say which modes
the room has been told of. They stay in order because `full_reconnect` is not reset before the task
is past its last attempt: a task that has told of a restart finds it set at the head of its loop.

`full_reconnect` is sticky: once it is set, and until a restart installs a session, no attempt is
begun as a resume. A resume that is under way may succeed, though: then the room is told, once, that
the connection has been resumed while the flag is set (`fullReconnect_sticky`). The next episode
finds it.
-/

open Machine List

namespace LiveKit.RtcEngine.EngineInner

/-- What the task tells the room in an episode. The `Disconnected` of a call of `close` beside it
(by the room, or for a `Leave`) is not part of it, and may come at any point. -/
def lifecycle : Observation → Option EngineEvent
  | .event _ .signalResumed => none
  | .event _ .signalRestarted => none
  | .event .closer (.disconnected _) => none
  | .event _ event => some event
  | _ => none

def tell (word : List EngineEvent) : Observation → List EngineEvent
  | .started => []
  | observation => word ++ (lifecycle observation).toList

section

variable (word : List EngineEvent) (session : ℕ)

@[simp] lemma tell_attempt (mode : Mode) : tell word (.attempt mode) = word := append_nil word

@[simp] lemma tell_failure : tell word (.failure session) = word := append_nil word

@[simp] lemma tell_created : tell word (.created session) = word := append_nil word

@[simp] lemma tell_installed : tell word (.installed session) = word := append_nil word

@[simp] lemma tell_closed : tell word .closed = word := append_nil word

@[simp] lemma tell_closer (reason) :
    tell word (.event .closer (.disconnected reason)) = word := append_nil word

@[simp] lemma tell_signalRestarted : tell word (.event .task .signalRestarted) = word :=
  append_nil word

end

def episode (log : List Observation) : List EngineEvent := log.foldl tell []

inductive Opening : List EngineEvent → Prop
  | none : Opening []
  | resuming : Opening [.resuming]
  | restarting : Opening [.restarting]
  | escalated : Opening [.resuming, .restarting]

inductive Complete : List EngineEvent → Prop
  | resumed : Complete [.resuming, .resumed]
  | restarted : Complete [.restarting, .restarted]
  | escalated : Complete [.resuming, .restarting, .restarted]
  | disconnected {word} (h : Opening word) (reason : DisconnectReason) :
      Complete (word ++ [.disconnected reason])

/-! ### The word at each point of the task -/

/-- The modes the room has been told of. -/
def opening (resuming restarting : Bool) : List EngineEvent :=
  (if resuming then [.resuming] else []) ++ if restarting then [.restarting] else []

lemma opening_opening (resuming restarting : Bool) : Opening (opening resuming restarting) := by
  cases resuming <;> cases restarting
  · exact .none
  · exact .restarting
  · exact .resuming
  · exact .escalated

lemma complete_restarted (resuming : Bool) : Complete (opening resuming true ++ [.restarted]) := by
  cases resuming
  · exact .restarted
  · exact .escalated

def told (task : ReconnectTask) : List EngineEvent :=
  opening task.resumingEmitted task.restartingEmitted

/-- The word, the flags and the handle, at the point where the task stands. -/
def Spells (handle : EngineHandle) (word : List EngineEvent) (task : ReconnectTask) : Prop :=
  match task.stage with
  | .lock => word = told task ∧ task.resumingEmitted = false ∧ task.restartingEmitted = false
  | .head _ | .backoff _ =>
    word = told task ∧ (task.restartingEmitted = true → handle.fullReconnect = true)
  | .resuming _ | .resume _ _ =>
    word = told task ∧ task.resumingEmitted = true ∧ task.restartingEmitted = false
  | .resumed => word = [.resuming, .resumed]
  | .restart _ .succeeded => word = told task ∧ task.restartingEmitted = true
  | .restarting _ | .restart _ _ =>
    word = told task ∧ task.restartingEmitted = true ∧ handle.fullReconnect = true
  | .restarted => word = told task ++ [.restarted] ∧ task.restartingEmitted = true
  | .bail ⟨reason, .notify⟩ | .giveUp ⟨reason, .notify⟩ =>
    word = told task ++ [.disconnected reason]
  | .bail _ | .giveUp _ => word = told task
  | .failed =>
    word = told task ∨ handle.closed = true ∧ ∃ reason, word = told task ++ [.disconnected reason]
  | .done => Complete word ∨ handle.closed = true ∧ Opening word

structure Agrees (log : List Observation) (engine : EngineInner) : Prop where
  spells : ∀ task, engine.task = some task → Spells engine.runningHandle (episode log) task
  ended : engine.task = none → (.started ∉ log ∧ episode log = []) ∨ Complete (episode log) ∨
    engine.runningHandle.closed = true ∧ Opening (episode log)

section

variable {s after : EngineInner} {task : ReconnectTask} {handle handle' : EngineHandle}
  {word : List EngineEvent} {log obs : List Observation} {outcome : Option EngineError}

lemma episode_append (log obs) : episode (log ++ obs) = obs.foldl tell (episode log) := foldl_append

lemma Spells.mono (h : Spells handle word task) (hcl : handle.closed = true → handle'.closed = true)
    (hfull : handle.fullReconnect = true → handle'.fullReconnect = true) :
    Spells handle' word task := by
  obtain ⟨stage, _, _, _⟩ := task
  cases stage with
  | head | backoff => exact ⟨h.1, fun hemitted => hfull (h.2 hemitted)⟩
  | restarting => exact ⟨h.1, h.2.1, hfull h.2.2⟩
  | restart _ stage =>
    cases stage with
    | succeeded => exact h
    | _ => exact ⟨h.1, h.2.1, hfull h.2.2⟩
  | bail cl | giveUp cl =>
    obtain ⟨_, stage⟩ := cl
    cases stage <;> exact h
  | failed | done => exact h.imp_right fun h => ⟨hcl h.1, h.2⟩
  | _ => exact h

namespace Agrees

lemma connect : Agrees [] connect where
  spells _ h := by cases h
  ended _ := .inl ⟨nofun, rfl⟩

lemma keep (h : Agrees log s) (ht : after.task = s.task)
    (hcl : s.runningHandle.closed = true → after.runningHandle.closed = true)
    (hfull : s.runningHandle.fullReconnect = true → after.runningHandle.fullReconnect = true)
    (hstarted : .started ∉ obs) (hword : obs.foldl tell (episode log) = episode log) :
    Agrees (log ++ obs) after where
  spells task hs := by
    rw [episode_append, hword]
    exact (h.spells task (ht ▸ hs)).mono hcl hfull
  ended hn := by
    rw [episode_append, hword, mem_append, not_or]
    rcases h.ended (ht ▸ hn) with ⟨hlog, hnil⟩ | hcomplete | ⟨hself, hopening⟩
    · exact .inl ⟨⟨hlog, hstarted⟩, hnil⟩
    · exact .inr (.inl hcomplete)
    · exact .inr (.inr ⟨hcl hself, hopening⟩)

lemma notifyWaiters (h : Agrees log s) : Agrees log s.notifyWaiters where
  spells task hs := by
    obtain ⟨task', ht', rfl⟩ := Option.map_eq_some_iff.mp hs
    have hspells := h.spells task' ht'
    split <;> exact hspells
  ended hn := h.ended (Option.map_eq_none_iff.mp hn)

lemma move {task' : ReconnectTask} (ha : after.task = some task')
    (hspells : Spells after.runningHandle (obs.foldl tell (episode log)) task') :
    Agrees (log ++ obs) after where
  spells t ht := by
    obtain rfl := Option.mem_unique ha ht
    rw [episode_append]
    exact hspells
  ended hn := by
    cases ha.symm.trans hn

end Agrees

section

variable (h : Spells s.runningHandle word task)
include h

variable {stage : Stage}

lemma Spells.pass (hpass : Pass s task.stage stage) :
    Spells s.runningHandle word { task with stage := stage } := by
  cases task
  cases hpass with
  | lock =>
    obtain ⟨hword, -, rfl⟩ := h
    exact ⟨hword, nofun⟩
  | abandon | exhausted => exact .inl h.1
  | resumed =>
    obtain rfl : word = _ := h
    exact .inl .resumed
  | restarted =>
    obtain ⟨rfl, rfl⟩ := h
    exact .inl (complete_restarted _)
  | closed hcl =>
    -- the word is over if the task has closed the engine
    rcases h with rfl | ⟨-, reason, rfl⟩
    · exact .inr ⟨hcl, opening_opening ..⟩
    · exact .inl (.disconnected (opening_opening ..) reason)
  | giveUp ho =>
    rcases h with hword | ⟨hcl, -⟩
    · exact hword
    · cases ho.symm.trans hcl
  | _ => exact h

lemma Spells.say {ev} (hsay : Say task.stage ev stage) :
    Spells s.runningHandle (tell word (.event .task ev)) { task with stage := stage } := by
  cases task
  cases hsay with
  | signalResumed => exact ⟨(append_nil word).trans h.1, h.2⟩
  | resumed =>
    obtain ⟨rfl, rfl, rfl⟩ := h
    rfl
  | restarted =>
    obtain ⟨rfl, hemitted⟩ := h
    exact ⟨rfl, hemitted⟩

lemma Spells.of_fails {mode i} (hfails : Fails outcome mode i task.stage) : word = told task := by
  cases task
  cases hfails <;> exact h.1

lemma Spells.close {cl stage wrap} (hs : task.stage = wrap cl)
    (hwrap : wrap = Stage.bail ∨ wrap = Stage.giveUp) (hcl : CloseMove s .task cl after stage obs) :
    Spells after.runningHandle (obs.foldl tell word)
      { task with stage := wrap ⟨cl.reason, stage⟩ } := by
  cases task
  obtain ⟨reason, closeStage⟩ := cl
  obtain rfl : _ = wrap ⟨reason, closeStage⟩ := hs
  rcases hwrap with rfl | rfl <;> cases hcl with
  | lockNone hlock | lockSome hlock =>
    obtain rfl : closeStage = .lock := hlock
    exact (append_nil word).trans h
  | session hsess =>
    obtain rfl : closeStage = .session _ _ := hsess
    exact h
  | join hjoin =>
    obtain rfl : closeStage = .join _ := hjoin
    exact h
  | emit hemit =>
    obtain rfl : closeStage = .emit := hemit
    obtain rfl : word = _ := h
    rfl

end

lemma Spells.opening_or_complete (h : Spells handle word task) : Opening word ∨ Complete word := by
  obtain ⟨stage, _, _, _⟩ := task
  cases stage with
  | resumed =>
    obtain rfl : word = _ := h
    exact .inr .resumed
  | restarted =>
    obtain ⟨rfl, rfl⟩ := h
    exact .inr (complete_restarted _)
  | restart _ stage =>
    cases stage <;> exact .inl (h.1 ▸ opening_opening ..)
  | bail cl | giveUp cl =>
    obtain ⟨reason, stage⟩ := cl
    obtain rfl | ⟨rfl⟩ : word = opening _ _ ∨ word = opening _ _ ++ [.disconnected reason] := by
      cases stage
      case notify => exact .inr h
      all_goals exact .inl h
    · exact .inl (opening_opening ..)
    · exact .inr (.disconnected (opening_opening ..) reason)
  | failed =>
    rcases h with rfl | ⟨-, reason, rfl⟩
    · exact .inl (opening_opening ..)
    · exact .inr (.disconnected (opening_opening ..) reason)
  | done => exact h.elim .inr fun h => .inl h.2
  | _ => exact .inl (h.1 ▸ opening_opening ..)

lemma Spells.of_notify {cl} (h : Spells handle word task) (hs : task.stage.closing = some cl)
    (hnotify : cl.stage = .notify) : word = told task ++ [.disconnected cl.reason] := by
  obtain ⟨stage, _, _, _⟩ := task
  obtain ⟨_, closeStage⟩ := cl
  obtain rfl : closeStage = .notify := hnotify
  cases stage with
  | bail | giveUp =>
    cases hs
    exact h
  | _ => cases hs

namespace Agrees

lemma taskMove (h : Agrees log s) (hcoh : Coherent s)
    (ht : s.task = some task) (hmv : TaskMove s task outcome obs after) :
    Agrees (log ++ obs) after := by
  have hspells := h.spells task ht
  cases hmv with
  | pass hpass => exact move rfl (hspells.pass hpass)
  | say hsay => exact move rfl (hspells.say hsay)
  | beginRestart hhead _ hfull =>
    refine move rfl ?_
    obtain ⟨_, resumingEmitted, restartingEmitted, _⟩ := task
    obtain rfl : _ = Stage.head _ := hhead
    refine ⟨?_, rfl, hfull⟩
    -- the room is told of the restart, unless it has been before
    obtain ⟨hword, -⟩ := hspells
    rw [foldl_cons, tell_attempt, hword]
    cases restartingEmitted <;> cases resumingEmitted <;> rfl
  | beginResume hhead _ hfull =>
    refine move rfl ?_
    obtain ⟨_, resumingEmitted, restartingEmitted, _⟩ := task
    obtain rfl : _ = Stage.head _ := hhead
    -- a task that has told of a restart finds the flag set
    obtain ⟨hword, hemitted⟩ := hspells
    have hnot : restartingEmitted = false := by
      cases restartingEmitted with
      | false => rfl
      | true => exact absurd (hemitted rfl) (by simp [hfull])
    subst hnot
    refine ⟨?_, rfl, rfl⟩
    rw [foldl_cons, tell_attempt, hword]
    cases resumingEmitted <;> rfl
  | bail _ hfails => exact move rfl (hspells.of_fails hfails)
  | escalate hfails => exact move rfl ⟨hspells.of_fails hfails, fun _ => rfl⟩
  | retry hfails =>
    refine move rfl ⟨hspells.of_fails hfails, fun _ => ?_⟩
    cases task
    cases hfails <;> exact hspells.2.2
  | tearDown hs | reopen hs | takeNone hs | takeSome hs
  | closeSession hs | join hs =>
    -- the modes told of are those of the attempt all along
    refine move rfl ?_
    cases task
    subst hs
    exact hspells
  | connect hs =>
    refine move rfl ?_
    cases task
    obtain rfl : _ = Stage.restart _ .connect := hs
    refine ⟨?_, hspells.2⟩
    rw [foldl_cons, foldl_cons, tell_created, tell_signalRestarted]
    exact hspells.1
  | install hs =>
    refine move rfl ?_
    cases task
    obtain rfl : _ = Stage.restart _ (.install _) := hs
    refine ⟨?_, hspells.2.1⟩
    rw [foldl_cons, tell_installed]
    exact hspells.1
  | close hs hwrap hclose =>
    have hn := hspells.close hs hwrap hclose
    exact move rfl hn
  | bailed hs hnotify =>
    have hclosing := congrArg Stage.closing hs
    have hcl := hcoh.closed_of_notify ht hclosing hnotify
    exact move rfl (.inr ⟨hcl, _, hspells.of_notify hclosing hnotify⟩)
  | gaveUp hs hnotify =>
    have hclosing := congrArg Stage.closing hs
    refine move rfl (.inl ?_)
    rw [foldl_nil, hspells.of_notify hclosing hnotify]
    exact .disconnected (opening_opening ..) _
  | done hs =>
    cases task
    obtain rfl : _ = Stage.done := hs
    refine ⟨fun _ hsome => (nomatch hsome), fun _ => ?_⟩
    rw [append_nil]
    exact .inr hspells

lemma cancel (h : Agrees log s) (hcoh : Coherent s) (ht : s.task = some task)
    (hnot : task.notified = true) : Agrees log (s.cancelTask task) := by
  have hcl : (s.cancelTask task).runningHandle.closed = true := by
    unfold cancelTask
    split <;> exact hcoh.woken task ht hnot
  refine ⟨fun _ hs => (nomatch hs), fun _ => .inr ?_⟩
  rcases (h.spells task ht).opening_or_complete with hopening | hcomplete
  · exact .inr ⟨hcl, hopening⟩
  · exact .inl hcomplete

lemma step (h : Agrees log s) (hcoh : Coherent s) (a : Action) :
    Agrees (log ++ (s.step a).2) (s.step a).1 := by
  refine step_cases s a fun obs after hmv => ?_
  cases hmv with
  | idle | report | disconnect | close => exact h.keep rfl id id nofun rfl
  | ignore => exact h.keep rfl id id (by simp) (tell_failure ..)
  | escalate => exact h.keep rfl id (fun _ => rfl) (by simp) (tell_failure ..)
  -- a new episode
  | start => exact move rfl ⟨rfl, rfl, rfl⟩
  | closer _ hcl =>
    cases hcl with
    | lockNone | lockSome => exact h.keep rfl (fun _ => rfl) id (by simp) (tell_closed ..)
    | session | join => exact h.keep rfl id id nofun rfl
    | emit => exact h.keep rfl id id (by simp) (tell_closer ..)
  | closerDone => exact h.notifyWaiters.keep rfl id id nofun rfl
  | task ht htm => exact h.taskMove hcoh ht htm
  | cancel ht hnot =>
    rw [append_nil]
    exact h.cancel hcoh ht hnot

end Agrees

lemma agrees_run (acts) : Agrees (outputs EngineInner.step EngineInner.connect acts)
      (state EngineInner.step EngineInner.connect acts) := by
  have hinit : Agrees [] connect ∧ Coherent connect := ⟨.connect, .connect⟩
  have hrun := run_induction (P := fun log s => Agrees log s ∧ Coherent s) hinit
    (fun log s a h => ⟨h.1.step h.2 a, h.2.step a⟩) acts
  exact hrun.1

end

/-- All that the room is told of the connection, by the task or by a `close` beside it. -/
def announced : Observation → Option EngineEvent
  | .event _ .signalResumed => none
  | .event _ .signalRestarted => none
  | .event _ event => some event
  | _ => none

def underWay : Stage → ℕ
  | .resuming _ | .resume _ _ => 1
  | _ => 0

def resumesUnderWay (self : EngineInner) : ℕ :=
  (self.task.map fun task => underWay task.stage).getD 0

def tellsResumed : Observation → Bool
  | .event _ .resumed => true
  | _ => false

section

variable {s after : EngineInner} {task : ReconnectTask} {log obs : List Observation}
  {outcome : Option EngineError}

variable {pre next : Stage}

lemma Pass.underWay_le (h : Pass s pre next) : underWay next ≤ underWay pre := by
  cases h <;> exact Nat.le_refl _

lemma Say.underWay_le {ev} (h : Say pre ev next) :
    [Observation.event .task ev].countP tellsResumed + underWay next ≤ underWay pre := by
  cases h <;> exact Nat.le_refl _

lemma resumesUnderWay_of_task (h : s.task = some task) :
    s.resumesUnderWay = underWay task.stage := by
  unfold resumesUnderWay
  rw [h]
  rfl

lemma resumesUnderWay_notifyWaiters : s.notifyWaiters.resumesUnderWay = s.resumesUnderWay := by
  unfold resumesUnderWay notifyWaiters
  cases s.task with
  | none => rfl
  | some task =>
    obtain ⟨stage, _, _, _⟩ := task
    cases stage <;> rfl

/-- What is seen since the flag has been set in `engine`, unless a session has been installed. -/
def Sticks (engine : EngineInner) (log : List Observation) (self : EngineInner) : Prop :=
  (∀ session, .installed session ∉ log) →
    self.runningHandle.fullReconnect = true ∧ .attempt .resume ∉ log ∧
      log.countP tellsResumed + self.resumesUnderWay ≤ engine.resumesUnderWay

lemma Sticks.refl (hfull : s.runningHandle.fullReconnect = true) : Sticks s [] s :=
  fun _ => ⟨hfull, not_mem_nil, Nat.le_of_eq (Nat.zero_add _)⟩

lemma Sticks.trans {engine} (h : Sticks engine log s)
    (hn : s.runningHandle.fullReconnect = true → Sticks s obs after) :
    Sticks engine (log ++ obs) after := by
  intro hinstalled
  obtain ⟨hfull, hattempt, _⟩ := h fun session hm => hinstalled session (mem_append_left _ hm)
  obtain ⟨hfull', hattempt', _⟩ :=
    hn hfull fun session hm => hinstalled session (mem_append_right _ hm)
  refine ⟨hfull', ?_, ?_⟩
  · rw [mem_append, not_or]
    exact ⟨hattempt, hattempt'⟩
  · rw [countP_append]
    omega

lemma Sticks.of_le (hfull : after.runningHandle.fullReconnect = true)
    (hattempt : .attempt .resume ∉ obs)
    (hcount : obs.countP tellsResumed + after.resumesUnderWay ≤ s.resumesUnderWay) :
    Sticks s obs after := fun _ => ⟨hfull, hattempt, hcount⟩

lemma CloseMove.sticks {sender cl stage} (h : CloseMove s sender cl after stage obs)
    (hfull : s.runningHandle.fullReconnect = true) : Sticks s obs after := by
  cases h <;> exact .of_le hfull (by simp) (Nat.le_of_eq (Nat.zero_add _))

lemma TaskMove.sticks (h : TaskMove s task outcome obs after)
    (ht : s.task = some task) (hfull : s.runningHandle.fullReconnect = true) :
    Sticks s obs after := by
  have hunderWay := resumesUnderWay_of_task ht
  cases h with
  | pass hpass =>
    refine .of_le hfull not_mem_nil ?_
    rw [hunderWay]
    exact Nat.le_trans (Nat.le_of_eq (Nat.zero_add _)) hpass.underWay_le
  | say hsay =>
    refine .of_le hfull (by simp) ?_
    rw [hunderWay]
    exact hsay.underWay_le
  | beginRestart =>
    refine .of_le hfull (by split <;> simp) ?_
    split <;> exact Nat.zero_le _
  | beginResume _ _ hnot => exact absurd hfull (by simp [hnot])
  | bail | retry | takeNone | takeSome | closeSession | join | bailed | gaveUp | done =>
    exact .of_le hfull not_mem_nil (Nat.zero_le _)
  | escalate => exact .of_le rfl not_mem_nil (Nat.zero_le _)
  | tearDown hs | reopen hs =>
    refine .of_le hfull not_mem_nil ?_
    rw [hunderWay, hs]
    exact Nat.le_refl _
  | connect => exact .of_le hfull (by simp) (Nat.zero_le _)
  | install => exact fun hinstalled => absurd (mem_singleton_self _) (hinstalled _)
  | close _ hwrap hcl =>
    intro hinstalled
    obtain ⟨hfull', hattempt, hcount⟩ := hcl.sticks hfull hinstalled
    refine ⟨hfull', hattempt, ?_⟩
    rcases hwrap with rfl | rfl <;> exact Nat.le_trans (Nat.le_add_right _ _) hcount

lemma Sticks.step (s a) (hfull : s.runningHandle.fullReconnect = true) :
    Sticks s (s.step a).2 (s.step a).1 := by
  refine step_cases s a fun obs after hmv => ?_
  cases hmv with
  | idle | report | disconnect | close =>
    exact .of_le hfull not_mem_nil (Nat.le_of_eq (Nat.zero_add _))
  | ignore => exact .of_le hfull (by simp) (Nat.le_of_eq (Nat.zero_add _))
  | escalate => exact .of_le rfl (by simp) (Nat.le_of_eq (Nat.zero_add _))
  | start => exact .of_le (by simp [hfull]) (by simp) (Nat.zero_le _)
  | closer hget hcl => exact hcl.sticks hfull
  | closerDone =>
    refine .of_le hfull not_mem_nil ?_
    rw [countP_nil, Nat.zero_add]
    exact Nat.le_of_eq resumesUnderWay_notifyWaiters
  | task ht htm => exact htm.sticks ht hfull
  | cancel =>
    unfold cancelTask
    split <;> exact .of_le hfull not_mem_nil (Nat.zero_le _)

end

/-- **The flag is sticky.** Once `full_reconnect` is set it stays set until a restart installs a
session, and no attempt is begun as a resume. Only a resume that was under way when it was set
may yet succeed. -/
theorem fullReconnect_sticky (engine : EngineInner) (actions : List Action)
    (h_full : engine.runningHandle.fullReconnect = true)
    (h_installed : ∀ session, .installed session ∉ outputs step engine actions) :
    (state step engine actions).runningHandle.fullReconnect = true ∧
      .attempt .resume ∉ outputs step engine actions ∧
      (outputs step engine actions).countP tellsResumed ≤ engine.resumesUnderWay := by
  have hsticks : Sticks engine ([] ++ outputs step engine actions) (state step engine actions) :=
    run_induction (Sticks.refl h_full) (fun _ self a h => h.trans (Sticks.step self a)) actions
  obtain ⟨hstill, hattempt, hcount⟩ := hsticks h_installed
  exact ⟨hstill, hattempt, Nat.le_trans (Nat.le_add_right _ _) hcount⟩

/-- The stream is lost, and the session is being resumed. -/
def resumption : List Action :=
  [.signalLost 0, .signalTask 0, .engineTask 0, .task none, .task none]

def escalation : EngineInner := state step connect (resumption ++ [.pcFailed 0, .engineTask 0])

def success : List Action := List.replicate 9 (.task none)

theorem fullReconnect_sticky_escalation :
    (state step escalation success).runningHandle.fullReconnect = true ∧
      .attempt .resume ∉ outputs step escalation success ∧
      (outputs step escalation success).countP tellsResumed ≤ escalation.resumesUnderWay := by
  refine fullReconnect_sticky escalation success (by decide +kernel) fun session => ?_
  have hout : outputs step escalation success =
      [.event .task .signalResumed, .event .task .resumed] := by decide +kernel
  simp [hout]

/-- The room is told of the success while the flag is set. -/
theorem resumed_while_fullReconnect : escalation.runningHandle.fullReconnect = true ∧
      .event .task .resumed ∈ outputs step escalation success ∧
      (state step escalation success).runningHandle.fullReconnect = true := by
  decide +kernel

end LiveKit.RtcEngine.EngineInner
