import LiveKitRust.RtcEngine.Reconnection

/-!
# Closing the engine for good

`close` flags the engine as closed, takes the engine task, and closes the session. The reconnect
task reads the flag at the head of its loop only. An attempt that is under way goes on: it may
install a new session with a new engine task, which nobody closes, and tell the room of its success
(`restarted_after_close`). And a session that a restart has created is dropped without being closed
when its peer connections do not come up, or when the task is ended.

If the engine is closed from outside between attempts only, and the peer connections of new sessions
come up (`Orderly`), closing is final (`close_final`).

`Ended` says where the reconnect task can be in an engine that is closed. `Accounted` says who will
close a session that is not closed yet: it is the current one with an engine task to take, or one
that somebody is about to close or to install.
-/

open Machine List Option

namespace LiveKit.RtcEngine

def CloseStage.keeps : CloseStage → Option ℕ
  | .session id _ => some id
  | _ => none

/-- The session that the reconnect task has yet to close or to install. -/
def Stage.keeps : Stage → Option ℕ
  | .restart _ (.closeSession session _) => some session
  | .bail closing | .giveUp closing => closing.stage.keeps
  | stage => stage.newSession

/-- An attempt is being made, or the server has turned the client away during one. -/
def Stage.attempts : Stage → Bool
  | .resuming _ | .resume _ _ | .restarting _ | .restart _ _ | .bail _ => true
  | _ => false

/-- A restart has taken the engine task and has not installed another one. -/
def Stage.taken : Stage → Bool
  | .restart _ .take | .restart _ .succeeded => false
  | .restart _ _ => true
  | _ => false

/-- The peer connections of a new session are to come up. -/
def Stage.connects : Stage → Bool
  | .restart _ (.waitPcConnection _) => true
  | _ => false

namespace EngineInner

/-- The engine is not closed from outside during an attempt, and the peer connections of a new
session come up. -/
def Orderly (self : EngineInner) : Action → Prop
  | .closer k =>
    (self.closers[k]?.map fun closing => closing.stage) = some .lock →
      self.stands Stage.attempts = false
  | .task outcome => self.stands Stage.connects = true → outcome = none
  | _ => True

instance (self : EngineInner) : (action : Action) → Decidable (self.Orderly action)
  | .closer _ | .task _ => inferInstanceAs (Decidable (_ → _))
  | .pcFailed _ | .signalLost _ | .leave .. | .signalTask _ | .engineTask _ | .cancel | .close _ =>
    inferInstanceAs (Decidable True)

def revives : Observation → Bool
  | .installed _ => true
  | .event _ .resumed | .event _ .restarted => true
  | _ => false

/-- In an engine that is closed the reconnect task makes no attempt. It may be the one that is
closing it; then nobody else is. -/
structure Ended (engine : EngineInner) : Prop where
  attempts : engine.runningHandle.closed = true → ∀ task, engine.task = some task →
    task.stage.attempts = true → ∃ closing, task.stage = .bail closing ∧ closing.stage ≠ .lock
  bailing : ∀ task, engine.task = some task → ∀ closing, task.stage = .bail closing →
    closing.stage ≠ .lock → task.notified = false ∧ ∀ closer ∈ engine.closers, closer.stage = .lock
  engineTask : engine.runningHandle.closed = true → engine.runningHandle.engineTask = none
  taken : ∀ task, engine.task = some task → task.stage.taken = true →
    engine.runningHandle.engineTask = none

section

variable {s after : EngineInner} {task task' : ReconnectTask} {sender : Sender}
  {cl : Closing} {stage : CloseStage} {session k : ℕ} {obs : List Observation}
  {outcome : Option EngineError}

/-! ### The reconnect task in a closed engine -/

variable {pre next : Stage} {ev : EngineEvent} {mode : Mode} {i : ℕ}

section

variable (h : Pass s pre next)
include h

lemma Pass.attempts_next (hbef : pre.attempts = false) : next.attempts = false := by
  cases h <;> first | rfl | cases hbef

lemma Pass.before_ne_bail : pre ≠ .bail cl := by
  cases h <;> nofun

lemma Pass.next_ne_bail : next ≠ .bail cl := by
  cases h <;> nofun

lemma Pass.taken_of (hn : next.taken = true) : pre.taken = true := by
  cases h <;> first | rfl | cases hn

lemma Pass.keeps_eq : next.keeps = pre.keeps := by
  cases h <;> rfl

end

section

variable (h : Say pre ev next)
include h

lemma Say.before_ne_bail : pre ≠ .bail cl := by
  cases h <;> nofun

lemma Say.next_ne_bail : next ≠ .bail cl := by
  cases h <;> nofun

lemma Say.taken_eq : next.taken = false := by
  cases h <;> rfl

lemma Say.attempts_eq : pre.attempts = true := by
  cases h <;> rfl

lemma Say.keeps_eq : next.keeps = pre.keeps := by
  cases h <;> rfl

end

section

variable {stage : Stage} (h : Fails outcome mode i stage)
include h

lemma Fails.attempts_eq : stage.attempts = true := by
  cases h <;> rfl

lemma Fails.ne_bail : stage ≠ .bail cl := by
  cases h <;> nofun

lemma Fails.keeps_eq_none
    (hconnects : stage.connects = true → outcome = none) : stage.keeps = none := by
  cases h with
  | waitPcConnection houtcome => exact absurd (hconnects rfl) houtcome
  | _ => rfl

end

def Stays (self after : EngineInner) : Prop :=
  ∀ session < self.created, (self.sessions session).closed = true →
    (after.sessions session).closed = true

lemma Stays.update {id changed} (hsessions : after.sessions = Function.update s.sessions id changed)
    (h : (s.sessions id).closed = true → changed.closed = true) : Stays s after := by
  intro _ _ hcl
  rw [hsessions, Function.update_apply]
  split
  next heq => exact h (heq ▸ hcl)
  next => exact hcl

lemma closed_modifySession_close (session : ℕ) :
    ((s.modifySession session .close).sessions session).closed = true := by
  rw [sessions_modifySession, Function.update_self]
  rfl

variable {observation : Observation} {α : Type} {as : List α} {a b : α}

section

variable (h : CloseMove s sender cl after stage obs)
include h

lemma CloseMove.stage_ne : stage ≠ .lock := by
  cases h <;> nofun

lemma CloseMove.engineTask_eq_none (hn : cl.stage ≠ .lock → s.runningHandle.engineTask = none) :
    after.runningHandle.engineTask = none := by
  cases h with
  | lockNone | lockSome => rfl
  | session hs | join hs | emit hs => exact hn (by simp [hs])

lemma CloseMove.not_revives (hm : observation ∈ obs) : revives observation = false := by
  cases h with
  | lockNone | lockSome | emit =>
    obtain rfl := mem_singleton.mp hm
    rfl
  | _ => cases hm

lemma CloseMove.stays : Stays s after := by
  cases h with
  | lockNone | lockSome | emit => exact fun _ _ => id
  | session => exact .update rfl fun _ => rfl
  | join => exact .update rfl id

lemma CloseMove.closed_of_keeps
    (hkp : cl.stage.keeps = some session) : (after.sessions session).closed = true := by
  cases h with
  | session hs =>
    rw [hs] at hkp
    cases hkp
    exact closed_modifySession_close session
  | lockNone hs | lockSome hs | join hs | emit hs =>
    rw [hs] at hkp
    cases hkp

lemma CloseMove.current
    (hsess : session = s.runningHandle.session) (hs : s.runningHandle.engineTask ≠ none) :
    (session = after.runningHandle.session ∧ after.runningHandle.engineTask ≠ none) ∨
      stage.keeps = some session := by
  cases h with
  | lockNone _ hn => exact absurd hn hs
  | lockSome => exact .inr (congrArg some hsess.symm)
  | _ => exact .inl ⟨hsess, hs⟩

end

namespace Ended

lemma connect : Ended connect where
  attempts hcl := nomatch hcl
  bailing _ hs := nomatch hs
  engineTask hcl := nomatch hcl
  taken _ hs := nomatch hs

lemma closed_eq_false {stage} (h : Ended s) (ht : s.task = some task) (hs : task.stage = stage)
    (hatt : stage.attempts = true) (hbail : ∀ cl, stage = .bail cl → cl.stage = .lock) :
    s.runningHandle.closed = false := by
  subst hs
  cases hcl : s.runningHandle.closed with
  | false => rfl
  | true =>
    obtain ⟨cl, hs, hne⟩ := h.attempts hcl task ht hatt
    exact absurd (hbail cl hs) hne

lemma keep (h : Ended s) (ht : after.task = s.task)
    (hcl : after.runningHandle.closed = s.runningHandle.closed)
    (heng : after.runningHandle.engineTask = s.runningHandle.engineTask)
    (hclosers : ∀ cl ∈ after.closers, cl ∈ s.closers ∨ cl.stage = .lock) :
    Ended after where
  attempts := by
    rw [hcl, ht]
    exact h.attempts
  bailing task hsome cl hs hne := by
    obtain ⟨hnot, hlock⟩ := h.bailing task (ht ▸ hsome) cl hs hne
    refine ⟨hnot, fun closer hm => ?_⟩
    exact (hclosers closer hm).elim (hlock closer) id
  engineTask := by
    rw [hcl, heng]
    exact h.engineTask
  taken := by
    rw [ht, heng]
    exact h.taken

lemma of_not_attempts (hatt : ∀ task, after.task = some task → task.stage.attempts = false)
    (ht : after.runningHandle.closed = true → after.runningHandle.engineTask = none) :
    Ended after where
  attempts _ task hsome htrue := by
    rw [hatt task hsome] at htrue
    cases htrue
  bailing task hsome cl hs := by
    have hfalse := hatt task hsome
    rw [hs] at hfalse
    cases hfalse
  engineTask := ht
  taken task hsome htk := by
    have hfalse := hatt task hsome
    cases hs : task.stage with
    | restart =>
      rw [hs] at hfalse
      cases hfalse
    | _ =>
      rw [hs] at htk
      cases htk

lemma of_open (ha : after.task = some task') (ho : after.runningHandle.closed = false)
    (hbail : ∀ cl, task'.stage = .bail cl → cl.stage = .lock)
    (htk : task'.stage.taken = true → after.runningHandle.engineTask = none) : Ended after where
  attempts hcl := by
    cases ho.symm.trans hcl
  bailing t ht cl hs hne := by
    obtain rfl := mem_unique ha ht
    exact absurd (hbail cl hs) hne
  engineTask hcl := by
    cases ho.symm.trans hcl
  taken t ht := by
    obtain rfl := mem_unique ha ht
    exact htk

section

variable (h : Ended s)
include h

section

variable (hcoh : Coherent s) (ht : s.task = some task)
include hcoh ht

lemma alone (hs : task.stage = .bail cl) :
    task.notified = false ∧ ∀ closer ∈ s.closers, closer.stage = .lock := by
  by_cases hlock : cl.stage = .lock
  · -- nobody is past the lock yet
    have ho : s.runningHandle.closed = false := by
      refine h.closed_eq_false ht hs rfl ?_
      rintro _ ⟨⟩
      exact hlock
    constructor
    · cases hnot : task.notified with
      | false => rfl
      | true =>
        have hcl := hcoh.woken task ht hnot
        cases ho.symm.trans hcl
    · intro closer hm
      exact (hcoh.closers closer hm).resolve_right (by simp [ho])
  · exact h.bailing task ht cl hs hlock

lemma close {wrap} (hs : task.stage = wrap cl) (hwrap : wrap = Stage.bail ∨ wrap = Stage.giveUp)
    (hcl : CloseMove s .task cl after stage obs) :
    Ended (after.goto task (wrap ⟨cl.reason, stage⟩)) := by
  have hn : after.runningHandle.engineTask = none := by
    refine hcl.engineTask_eq_none fun hne => h.engineTask ?_
    refine (hcoh.closing task ht cl ?_).resolve_left hne
    rw [hs]
    rcases hwrap with rfl | rfl <;> rfl
  rcases hwrap with rfl | rfl
  · refine ⟨?_, ?_, fun _ => hn, fun _ _ _ => hn⟩
    · rintro - _ ⟨⟩ -
      exact ⟨_, rfl, hcl.stage_ne⟩
    · rintro _ ⟨⟩ _ ⟨⟩ -
      show task.notified = false ∧ ∀ closer ∈ after.closers, closer.stage = .lock
      rw [hcl.closers_eq]
      exact h.alone hcoh ht hs
  · refine of_not_attempts ?_ fun _ => hn
    rintro _ ⟨⟩
    rfl

lemma taskMove (hmv : TaskMove s task outcome obs after) : Ended after := by
  cases hmv with
  | pass hpass =>
    cases hatt : task.stage.attempts with
    | false =>
      refine of_not_attempts ?_ h.engineTask
      rintro _ ⟨⟩
      exact hpass.attempts_next hatt
    | true =>
      have ho := h.closed_eq_false ht rfl hatt fun _ hbail => absurd hbail hpass.before_ne_bail
      exact of_open rfl ho (fun _ hbail => absurd hbail hpass.next_ne_bail)
        fun htk => h.taken task ht (hpass.taken_of htk)
  | say hsay =>
    have ho := h.closed_eq_false ht rfl hsay.attempts_eq
      fun _ hbail => absurd hbail hsay.before_ne_bail
    refine of_open rfl ho (fun _ hbail => absurd hbail hsay.next_ne_bail) fun htk => ?_
    exact absurd (hsay.taken_eq.symm.trans htk) nofun
  | beginRestart _ ho | beginResume _ ho => exact of_open rfl ho nofun nofun
  | bail _ hfails =>
    have ho := h.closed_eq_false ht rfl hfails.attempts_eq
      fun _ hbail => absurd hbail hfails.ne_bail
    refine of_open rfl ho ?_ nofun
    rintro _ ⟨⟩
    rfl
  | escalate | retry | bailed | gaveUp =>
    refine of_not_attempts ?_ h.engineTask
    rintro _ ⟨⟩
    rfl
  | tearDown hs | reopen hs | install hs =>
    exact of_open rfl (h.closed_eq_false ht hs rfl nofun) nofun nofun
  | takeNone hs hn =>
    exact of_open rfl (h.closed_eq_false ht hs rfl nofun) nofun fun _ => hn
  | takeSome hs =>
    exact of_open rfl (h.closed_eq_false ht hs rfl nofun) nofun fun _ => rfl
  | closeSession hs | join hs | connect hs =>
    have htk := h.taken task ht (by rw [hs]; rfl)
    exact of_open rfl (h.closed_eq_false ht hs rfl nofun) nofun fun _ => htk
  | close hs hwrap hcl => exact h.close hcoh ht hs hwrap hcl
  | done => exact of_not_attempts (nofun) h.engineTask

end

lemma not_bailing (hm : cl ∈ s.closers) (hne : cl.stage ≠ .lock) (ht : s.task = some task) {bailing}
    (hs : task.stage = .bail bailing) : bailing.stage = .lock := by
  by_contra hpast
  exact hne ((h.bailing task ht bailing hs hpast).2 cl hm)

lemma closer (hord : s.Orderly (.closer k)) (hget : s.closers[k]? = some cl)
    (hcl : CloseMove s .closer cl after stage obs) :
    Ended { after with closers := after.closers.set k ⟨cl.reason, stage⟩ } := by
  by_cases hlock : cl.stage = .lock
  · -- the reconnect task makes no attempt
    have hnot : s.stands Stage.attempts = false := hord (by rw [hget, ← hlock]; rfl)
    refine of_not_attempts (fun task hsome => ?_) fun _ => ?_
    · rwa [stands_eq (hcl.task_eq ▸ hsome)] at hnot
    · exact hcl.engineTask_eq_none fun hne => absurd hlock hne
  · have hm := mem_of_getElem? hget
    have hsm : after.runningHandle = s.runningHandle := by
      cases hcl with
      | lockNone hs | lockSome hs => exact absurd hs hlock
      | _ => rfl
    refine ⟨?_, ?_, ?_, ?_⟩
    · show after.runningHandle.closed = true → ∀ task, after.task = some task → _
      rw [hsm, hcl.task_eq]
      exact h.attempts
    · intro _ hsome _ hs hne
      exact absurd (h.not_bailing hm hlock (hcl.task_eq ▸ hsome) hs) hne
    · show after.runningHandle.closed = true → after.runningHandle.engineTask = none
      rw [hsm]
      exact h.engineTask
    · show ∀ task, after.task = some task → _ → after.runningHandle.engineTask = none
      rw [hsm, hcl.task_eq]
      exact h.taken

lemma closerDone (hget : s.closers[k]? = some cl) (hs : cl.stage = .notify) :
    Ended { s.notifyWaiters with closers := s.closers.eraseIdx k } where
  attempts hcl _ hsome hattempts := by
    obtain ⟨pre, hbef, hsm⟩ := of_task_notifyWaiters hsome
    rw [← hsm]
    exact h.attempts hcl pre hbef (hsm ▸ hattempts)
  bailing _ hsome bailing hbail hne := by
    obtain ⟨_, hbef, hsm⟩ := of_task_notifyWaiters hsome
    have hlock := h.not_bailing (mem_of_getElem? hget) (by simp [hs]) hbef (hsm.trans hbail)
    exact absurd hlock hne
  engineTask := h.engineTask
  taken _ hsome htk := by
    obtain ⟨pre, hbef, hsm⟩ := of_task_notifyWaiters hsome
    exact h.taken pre hbef (hsm ▸ htk)

lemma step (hcoh : Coherent s) {a} (hord : s.Orderly a) : Ended (s.step a).1 := by
  refine step_cases s a fun obs after hmv => ?_
  cases hmv with
  | idle => exact h
  | report | ignore | escalate => exact h.keep rfl rfl rfl fun _ => .inl
  | start =>
    refine of_not_attempts ?_ h.engineTask
    rintro _ ⟨⟩
    rfl
  | disconnect | close =>
    refine h.keep rfl rfl rfl fun cl hm => ?_
    refine (mem_append.mp hm).imp_right fun hnew => ?_
    rw [mem_singleton.mp hnew]
  | closer hget hcl => exact h.closer hord hget hcl
  | closerDone hget hs => exact h.closerDone hget hs
  | task ht htm => exact h.taskMove hcoh ht htm
  | cancel =>
    unfold cancelTask
    split <;> exact of_not_attempts (nofun) h.engineTask

end

end Ended

lemma Ended.task_not_revives (h : Ended s) (hcl : s.runningHandle.closed = true)
    (ht : s.task = some task) (hmv : TaskMove s task outcome obs after) (hm : observation ∈ obs) :
    revives observation = false := by
  cases hmv with
  | say hsay =>
    have ho := h.closed_eq_false ht rfl hsay.attempts_eq
      fun _ hbail => absurd hbail hsay.before_ne_bail
    exact absurd (ho.symm.trans hcl) nofun
  | beginRestart _ ho | beginResume _ ho =>
    exact absurd (ho.symm.trans hcl) nofun
  | connect hs | install hs =>
    have ho := h.closed_eq_false ht hs rfl nofun
    exact absurd (ho.symm.trans hcl) nofun
  | close _ _ hclose => exact hclose.not_revives hm
  | _ => cases hm

/-- **A closed engine does not come back to life.** -/
theorem Ended.not_revives (h : Ended s) (hcl : s.runningHandle.closed = true)
    (a : Action) (hm : observation ∈ (s.step a).2) : revives observation = false := by
  have hmv := step_move s a
  generalize (s.step a).2 = obs at hmv hm
  generalize (s.step a).1 = after at hmv
  cases hmv with
  | idle | report | disconnect | close | closerDone | cancel => cases hm
  | ignore | escalate =>
    obtain rfl := mem_singleton.mp hm
    rfl
  | start =>
    rcases mem_cons.mp hm with rfl | hm
    · rfl
    · obtain rfl := mem_singleton.mp hm
      rfl
  | closer _ hclose => exact hclose.not_revives hm
  | task ht htm => exact h.task_not_revives hcl ht htm hm

lemma closed_step (hcl : s.runningHandle.closed = true)
    (a : Action) : (s.step a).1.runningHandle.closed = true := by
  refine step_cases s a fun obs after hmv => ?_
  cases hmv with
  | closer _ hclose => exact hclose.closed_of_closed hcl
  | task _ htm => exact htm.closed_of_closed hcl
  | cancel =>
    unfold cancelTask
    split <;> exact hcl
  | _ => exact hcl

lemma Ended.run_not_revives {acts} (h : Ended s) (hcoh : Coherent s)
    (hcl : s.runningHandle.closed = true) (hord : Along EngineInner.step Orderly s acts)
    (hm : observation ∈ outputs EngineInner.step s acts) : revives observation = false := by
  induction acts generalizing s with
  | nil => cases hm
  | cons a _ ih =>
    rcases mem_append.mp hm with hf | hr
    · exact h.not_revives hcl a hf
    · exact ih (h.step hcoh hord.1) (hcoh.step a) (closed_step hcl a) hord.2 hr

/-! ### Who closes a session -/

def Kept (engine : EngineInner) (session : ℕ) : Prop :=
  (session = engine.runningHandle.session ∧ engine.runningHandle.engineTask ≠ none) ∨
    (∃ closing ∈ engine.closers, closing.stage.keeps = some session) ∨
      ∃ task, engine.task = some task ∧ task.stage.keeps = some session

lemma Kept.of_keeps_eq_none (h : Kept s session) (ht : s.task = some task)
    (hn : task.stage.keeps = none) :
    (session = s.runningHandle.session ∧ s.runningHandle.engineTask ≠ none) ∨
      ∃ closing ∈ s.closers, closing.stage.keeps = some session := by
  refine h.imp_right fun hr => hr.resolve_right ?_
  rintro ⟨t, hsome, hkeep⟩
  obtain rfl := mem_unique ht hsome
  cases hn.symm.trans hkeep

def Accounted (engine : EngineInner) : Prop :=
  ∀ session < engine.created, (engine.sessions session).closed = true ∨ Kept engine session

lemma keeps_eq_none_of_cancellable {stage} (hatt : stage.attempts = false)
    (hcan : cancellable stage = true) : stage.keeps = none := by
  cases stage with
  | head | resumed | restarted | backoff => rfl
  | lock | failed | giveUp | done => cases hcan
  | _ => cases hatt

lemma mem_set_of_ne {c} (hget : as[k]? = some a) (hm : b ∈ as) (hne : b ≠ a) : b ∈ as.set k c := by
  obtain ⟨j, hj⟩ := mem_iff_getElem?.mp hm
  have hindex : k ≠ j := by
    rintro rfl
    exact hne (mem_unique hj hget)
  exact mem_iff_getElem?.mpr ⟨j, (getElem?_set_ne hindex).trans hj⟩

lemma mem_eraseIdx_of_ne (hget : as[k]? = some a) (hm : b ∈ as) (hne : b ≠ a) :
    b ∈ as.eraseIdx k := by
  obtain ⟨j, hj⟩ := mem_iff_getElem?.mp hm
  refine mem_eraseIdx_iff_getElem?.mpr ⟨j, ?_, hj⟩
  rintro rfl
  exact hne (mem_unique hj hget)

namespace Accounted

lemma connect : Accounted connect := by
  intro _ hlt
  obtain rfl := Nat.lt_one_iff.mp hlt
  exact .inr (.inl ⟨rfl, nofun⟩)

section

variable (h : Accounted s)
include h

lemma mono (hcreated : after.created = s.created) (hstays : Stays s after)
    (hkept : ∀ session, Kept s session →
      (after.sessions session).closed = true ∨ Kept after session) : Accounted after := by
  intro session hlt
  rw [hcreated] at hlt
  rcases h session hlt with hcl | hsess
  · exact .inl (hstays session hlt hcl)
  · exact hkept session hsess

lemma keep (hcreated : after.created = s.created)
    (hstays : Stays s after) (ht : after.task = s.task)
    (hsess : after.runningHandle.session = s.runningHandle.session)
    (heng : after.runningHandle.engineTask = s.runningHandle.engineTask)
    (hclosers : ∀ cl ∈ s.closers, cl ∈ after.closers) : Accounted after := by
  refine h.mono hcreated hstays fun session hkept => .inr ?_
  unfold Kept
  rw [hsess, heng, ht]
  refine hkept.imp_right fun hr => hr.imp_left ?_
  rintro ⟨cl, hm, hkp⟩
  exact ⟨cl, hclosers cl hm, hkp⟩

lemma closer (hget : s.closers[k]? = some cl) (hcl : CloseMove s .closer cl after stage obs) :
    Accounted { after with closers := after.closers.set k ⟨cl.reason, stage⟩ } := by
  have hlt : k < s.closers.length := (List.getElem?_eq_some_iff.mp hget).1
  rw [hcl.closers_eq]
  refine h.mono hcl.created_eq hcl.stays fun session hkept => ?_
  rcases hkept with ⟨hsess, hs⟩ | ⟨other, hm, hkp⟩ | ⟨t, ht, hkeep⟩
  · rcases hcl.current hsess hs with hcur | hn
    · exact .inr (.inl hcur)
    · exact .inr (.inr (.inl ⟨_, mem_set hlt _, hn⟩))
  · -- this call of `close`, or another one
    by_cases heq : other = cl
    · subst heq
      exact .inl (hcl.closed_of_keeps hkp)
    · exact .inr (.inr (.inl ⟨other, mem_set_of_ne hget hm heq, hkp⟩))
  · exact .inr (.inr (.inr ⟨t, hcl.task_eq.trans ht, hkeep⟩))

lemma closerDone (hget : s.closers[k]? = some cl) (hs : cl.stage = .notify) :
    Accounted { s.notifyWaiters with closers := s.closers.eraseIdx k } := by
  refine h.mono rfl (fun _ _ => id) fun session hkept => .inr ?_
  rcases hkept with hcur | ⟨other, hm, hkp⟩ | ⟨t, ht, hkeep⟩
  · exact .inl hcur
  · have hne : other ≠ cl := by
      rintro rfl
      rw [hs] at hkp
      cases hkp
    exact .inr (.inl ⟨other, mem_eraseIdx_of_ne hget hm hne, hkp⟩)
  · obtain ⟨woken, hwoken, hsm⟩ := task_notifyWaiters ht
    exact .inr (.inr ⟨woken, hwoken, hsm ▸ hkeep⟩)

section

variable (htask : s.task = some task)
include htask

lemma move
    (ha : after.task = some task') (hcreated : after.created = s.created) (hstays : Stays s after)
    (hsess : after.runningHandle.session = s.runningHandle.session)
    (heng : after.runningHandle.engineTask = s.runningHandle.engineTask)
    (hclosers : after.closers = s.closers) (hkp : ∀ session, task.stage.keeps = some session →
      (after.sessions session).closed = true ∨ task'.stage.keeps = some session) :
    Accounted after := by
  refine h.mono hcreated hstays fun session hkept => ?_
  rcases hkept with _ | _ | ⟨t, ht, hkeep⟩
  · exact .inr (.inl (by rwa [hsess, heng]))
  · exact .inr (.inr (.inl (by rwa [hclosers])))
  · obtain rfl := mem_unique htask ht
    exact (hkp session hkeep).imp_right fun hn => .inr (.inr ⟨task', ha, hn⟩)

lemma take {i engineTask} (hs : task.stage = .restart i .take) :
    Accounted ((s.modifyHandle fun handle => { handle with engineTask := none }).goto task
      (.restart i (.closeSession s.runningHandle.session engineTask))) := by
  refine h.mono rfl (fun _ _ => id) fun session hkept => .inr ?_
  rcases hkept.of_keeps_eq_none htask (congrArg Stage.keeps hs) with ⟨rfl, -⟩ | hcl
  · exact .inr (.inr ⟨_, rfl, rfl⟩)
  · exact .inr (.inl hcl)

lemma create {i} (hs : task.stage = .restart i .connect) :
    Accounted { (s.modifySession s.created fun _ => .connect).goto task
          (.restart i (.signalRestarted s.created)) with created := s.created + 1 } := by
  intro session hlt
  by_cases heq : session = s.created
  · subst heq
    exact .inr (.inr (.inr ⟨_, rfl, rfl⟩))
  · have hold : session < s.created := Nat.lt_of_le_of_ne (Nat.le_of_lt_succ hlt) heq
    refine (h session hold).imp ?_ fun hkept => ?_
    · show _ → (Function.update s.sessions s.created _ session).closed = true
      rw [Function.update_of_ne heq]
      exact id
    · exact (hkept.of_keeps_eq_none htask (congrArg Stage.keeps hs)).imp_right .inl

lemma install (he : Ended s) {i} (hs : task.stage = .restart i (.install session)) :
    Accounted (((s.modifyHandle fun handle =>
        { handle with session := session, fullReconnect := false, engineTask := some session })
      |>.modifySession session fun session => { session with engineTask := true }).goto task
        (.restart i .succeeded)) := by
  refine h.mono rfl (.update rfl id) fun other hkept => .inr ?_
  rcases hkept with ⟨-, hsome⟩ | hcl | ⟨t, ht, hkeep⟩
  · exact absurd (he.taken task htask (by rw [hs]; rfl)) hsome
  · exact .inr (.inl hcl)
  · obtain rfl := mem_unique htask ht
    rw [hs] at hkeep
    cases hkeep
    exact .inl ⟨rfl, nofun⟩

lemma close {wrap} (hs : task.stage = wrap cl) (hwrap : wrap = Stage.bail ∨ wrap = Stage.giveUp)
    (hclose : CloseMove s .task cl after stage obs) :
    Accounted (after.goto task (wrap ⟨cl.reason, stage⟩)) := by
  have hkp (cl : Closing) : (wrap cl).keeps = cl.stage.keeps := by
    rcases hwrap with rfl | rfl <;> rfl
  refine h.mono hclose.created_eq hclose.stays fun session hkept => ?_
  rcases hkept with ⟨hsess, hsome⟩ | hcl | ⟨t, ht, hkeep⟩
  · rcases hclose.current hsess hsome with hcur | hn
    · exact .inr (.inl hcur)
    · exact .inr (.inr (.inr ⟨_, rfl, (hkp _).trans hn⟩))
  · exact .inr (.inr (.inl (hclose.closers_eq ▸ hcl)))
  · obtain rfl := mem_unique htask ht
    rw [hs, hkp] at hkeep
    exact .inl (hclose.closed_of_keeps hkeep)

lemma taskMove (he : Ended s) (hord : s.Orderly (.task outcome))
    (hmv : TaskMove s task outcome obs after) : Accounted after := by
  rw [Orderly, stands_eq htask] at hord
  cases hmv with
  | pass hgoes | say hgoes =>
    exact h.move htask rfl rfl (fun _ _ => id) rfl rfl rfl
      fun _ hkp => .inr (hgoes.keeps_eq.trans hkp)
  | bail _ hfails | escalate hfails | retry hfails =>
    refine h.move htask rfl rfl (fun _ _ => id) rfl rfl rfl ?_
    rw [hfails.keeps_eq_none hord]
    nofun
  | beginRestart hs | beginResume hs | takeNone hs =>
    refine h.move htask rfl rfl (fun _ _ => id) rfl rfl rfl ?_
    rw [hs]
    nofun
  | tearDown hs =>
    refine h.move htask rfl rfl (.update rfl ?_) rfl rfl rfl ?_
    · rw [(closeStream_eq _).2]
      exact id
    · rw [hs]
      nofun
  | reopen hs | join hs =>
    refine h.move htask rfl rfl (.update rfl id) rfl rfl rfl ?_
    rw [hs]
    nofun
  | closeSession hs =>
    refine h.move htask rfl rfl (.update rfl fun _ => rfl) rfl rfl rfl ?_
    rw [hs]
    rintro _ ⟨⟩
    exact .inl (closed_modifySession_close _)
  | takeSome hs => exact h.take htask hs
  | connect hs => exact h.create htask hs
  | install hs => exact h.install htask he hs
  | close hs hwrap hclose => exact h.close htask hs hwrap hclose
  | bailed hs hnotify | gaveUp hs hnotify =>
    refine h.move htask rfl rfl (fun _ _ => id) rfl rfl rfl ?_
    rw [hs]
    show ∀ session, CloseStage.keeps _ = some session → _
    rw [hnotify]
    nofun
  | done hs =>
    refine h.mono rfl (fun _ _ => id) fun session hkept => .inr ?_
    exact (hkept.of_keeps_eq_none htask (congrArg Stage.keeps hs)).imp_right .inl

lemma cancel (he : Ended s) (hcoh : Coherent s) (hnotified : task.notified = true)
    (hcan : cancellable task.stage = true) : Accounted (s.cancelTask task) := by
  have hn : task.stage.keeps = none := by
    have hcl := hcoh.woken task htask hnotified
    cases hatt : task.stage.attempts with
    | true =>
      obtain ⟨cl, hs, hne⟩ := he.attempts hcl task htask hatt
      obtain ⟨hnot, -⟩ := he.bailing task htask cl hs hne
      cases hnotified.symm.trans hnot
    | false => exact keeps_eq_none_of_cancellable hatt hcan
  have hkept {session : ℕ} (hkept : Kept s session) : Kept { s with task := none } session :=
    (hkept.of_keeps_eq_none htask hn).imp_right .inl
  unfold cancelTask
  split
  · exact h.mono rfl (.update rfl id) fun session hsess => .inr (hkept hsess)
  · exact h.mono rfl (fun _ _ => id) fun session hsess => .inr (hkept hsess)

end

lemma step (he : Ended s) (hcoh : Coherent s) {a} (hord : s.Orderly a) :
    Accounted (s.step a).1 := by
  refine step_cases s a fun obs after hmv => ?_
  cases hmv with
  | idle => exact h
  | report hreport =>
    refine h.keep rfl (.update rfl ?_) rfl rfl rfl fun _ => id
    rw [(hreport.session_eq _).2]
    exact id
  | ignore | escalate => exact h.keep rfl (.update rfl id) rfl rfl rfl fun _ => id
  | start _ _ _ _ hrec =>
    -- there is no reconnect task that would keep a session
    have hn : s.task = none := by
      have hsome := hcoh.reconnecting
      rw [hrec] at hsome
      exact isSome_eq_false_iff.mp hsome.symm |> isNone_iff_eq_none.mp
    refine h.mono rfl (.update rfl id) fun session hkept => .inr ?_
    rcases hkept with hcur | hcl | ⟨t, ht, -⟩
    · exact .inl hcur
    · exact .inr (.inl hcl)
    · cases hn.symm.trans ht
  | disconnect =>
    exact h.keep rfl (.update rfl id) rfl rfl rfl fun _ => mem_append_left _
  | close => exact h.keep rfl (fun _ _ => id) rfl rfl rfl fun _ => mem_append_left _
  | closer hget hclose => exact h.closer hget hclose
  | closerDone hget hs => exact h.closerDone hget hs
  | task htask htm => exact h.taskMove htask he hord htm
  | cancel htask hnot hcan =>
    exact h.cancel htask he hcoh hnot hcan

end

end Accounted

end

/-- **Closing is final.** In a run in which the engine is closed from outside between attempts
only, and the peer connections of new sessions come up, nothing is installed and no success
is told of once the engine is closed, and every session is closed by the time nothing is
under way. -/
theorem close_final (actions : List Action) (h_orderly : Along step Orderly connect actions) :
    (∀ before rest, actions = before ++ rest →
        (state step connect before).runningHandle.closed = true →
          ∀ observation ∈ outputs step (state step connect before) rest,
            revives observation = false) ∧
      ((state step connect actions).runningHandle.closed = true →
        (state step connect actions).Quiescent → ∀ session < (state step connect actions).created,
            ((state step connect actions).sessions session).closed = true) := by
  have hrun {actions : List Action} (h_orderly : Along step Orderly connect actions) :
      Accounted (state step connect actions) ∧ Ended (state step connect actions) ∧
        Coherent (state step connect actions) :=
    h_orderly.state_of_step (P := fun self => Accounted self ∧ Ended self ∧ Coherent self)
      ⟨.connect, .connect, .connect⟩ fun self a h haction =>
        ⟨h.1.step h.2.1 h.2.2 haction, h.2.1.step h.2.2 haction, h.2.2.step a⟩
  constructor
  · rintro _ _ rfl hcl _ hm
    obtain ⟨-, hended, hcoh⟩ := hrun h_orderly.append_left
    exact hended.run_not_revives hcoh hcl h_orderly.append_right hm
  · intro hcl hquiescent session hlt
    obtain ⟨haccounted, hended, -⟩ := hrun h_orderly
    -- nobody is left to close it, and the engine task has been taken
    rcases haccounted session hlt with hdone | ⟨-, hsome⟩ | ⟨_, hm, -⟩ | ⟨t, ht, -⟩
    · exact hdone
    · exact absurd (hended.engineTask hcl) hsome
    · rw [hquiescent.2.1] at hm
      cases hm
    · rw [hquiescent.1] at ht
      cases ht

/-- The connection is restarted, and the room closes the engine afterwards. -/
def restartedAndClosed : List Action :=
  [.leave 0 .unknownReason .reconnect, .signalTask 0, .engineTask 0] ++
    List.replicate 13 (.task none) ++ .close .clientInitiated :: List.replicate 5 (.closer 0)

theorem close_final_restartedAndClosed : (state step connect restartedAndClosed).created = 2 ∧
      ∀ session < (state step connect restartedAndClosed).created,
        ((state step connect restartedAndClosed).sessions session).closed = true :=
  ⟨by decide +kernel, (close_final restartedAndClosed (by decide +kernel)).2 (by decide +kernel)
    (by decide +kernel)⟩

def closedWhileRestarting : List Action :=
  [.leave 0 .unknownReason .reconnect, .signalTask 0, .engineTask 0, .task none, .task none,
    .close .clientInitiated, .closer 0]

/-- The restart installs a session and tells of its success, and nobody closes the session. -/
theorem restarted_after_close :
    (state step connect closedWhileRestarting).runningHandle.closed = true ∧
      .installed 1 ∈ outputs step (state step connect closedWhileRestarting)
        (List.replicate 10 (.task none)) ∧
      .event .task .restarted ∈ outputs step (state step connect closedWhileRestarting)
        (List.replicate 10 (.task none)) ∧
      (state step connect (closedWhileRestarting ++ List.replicate 10 (.task none) ++
        List.replicate 4 (.closer 0))).Quiescent ∧
      ((state step connect (closedWhileRestarting ++ List.replicate 10 (.task none) ++
        List.replicate 4 (.closer 0))).sessions 1).closed = false := by
  decide +kernel

end EngineInner
end LiveKit.RtcEngine
