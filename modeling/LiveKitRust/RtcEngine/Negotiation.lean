import LiveKitRust.Base.Machine

/-!
# The queue of negotiations (`rtc_engine/rtc_session.rs`, `utils/debouncer.rs`)

With fast publishing, requests to negotiate are served by one task. A request that comes while it
works marks the queue, and the task looks at the mark when it is done with an offer. The mark and
what a request goes by (`waiting_for_answer`, `task_running`) are not read under one lock: a request
may mark the queue after the last look, and is then never served (`served_iff`).

Without fast publishing, requests are debounced. The channel of a debouncer takes calls until the
task ends, but the task reads it only until it makes the offer (`debounced_of_heard`).
-/

open Machine

namespace LiveKit.RtcEngine

inductive NegotiationState where
  | idle
  | inProgress
  | pendingRetry
  deriving DecidableEq

/-- Where `execute_negotiation_with_retry` is. -/
inductive NegotiationStage where
  | starting
  | calling
  | offering
  | failed
  | awaiting
  | timedOut
  | checking
  /-- It has returned, and `task_running` is still up. -/
  | returned
  deriving DecidableEq

/-- A call of `publisher_negotiation_needed`, and the start of `create_and_send_offer`. -/
inductive Negotiated where
  | requested
  | offered
  deriving DecidableEq

/-- The queue with the task, and how many requests are about to mark it or to call
`queue_negotiation`, and how many answers are about to notify. -/
structure NegotiationQueue where
  state : NegotiationState := .idle
  waitingForAnswer : Bool := false
  taskRunning : Bool := false
  /-- The permit of `notify_one`. That it may be handed to a task which waits already makes no
  difference: the task takes it when it is polled next. -/
  waker : Bool := false
  task : Option NegotiationStage := none
  marking : ℕ := 0
  queueing : ℕ := 0
  notifying : ℕ := 0

namespace NegotiationQueue

variable (self : NegotiationQueue)

/-- A step of the task. `ok` is whether `create_and_send_offer` succeeds, and whether the task
waits on for a notification; it takes one that is there in any case. -/
def advance (ok : Bool) : NegotiationQueue × List Negotiated :=
  match self.task with
  | none => (self, [])
  | some .starting => ({ self with waitingForAnswer := true, task := some .calling }, [])
  | some .calling => ({ self with task := some .offering }, [.offered])
  | some .offering => ({ self with task := some (if ok then .awaiting else .failed) }, [])
  | some .failed => ({ self with waitingForAnswer := false, task := some .checking }, [])
  | some .awaiting =>
    if ok then
      if self.waker then ({ self with waker := false, task := some .checking }, []) else (self, [])
    else ({ self with task := some .timedOut }, [])
  | some .timedOut => ({ self with waitingForAnswer := false, task := some .checking }, [])
  | some .checking =>
    if self.state = .pendingRetry then
      ({ self with state := .inProgress, task := some .starting }, [])
    else ({ self with state := .idle, task := some .returned }, [])
  | some .returned => ({ self with taskRunning := false, task := none }, [])

def queueNegotiation : NegotiationQueue :=
  match self.state with
  | .idle =>
    if self.taskRunning then { self with state := .pendingRetry }
    else { self with state := .inProgress, taskRunning := true, task := some .starting }
  | .inProgress => { self with state := .pendingRetry }
  | .pendingRetry => self

inductive Action where
  | publisherNegotiationNeeded
  | mark
  | queueNegotiation
  | task (ok : Bool)
  | answer
  | notifyOne

def step : Action → NegotiationQueue × List Negotiated
  | .publisherNegotiationNeeded =>
    (if self.waitingForAnswer then { self with marking := self.marking + 1 }
      else { self with queueing := self.queueing + 1 }, [.requested])
  | .mark =>
    match self.marking with
    | 0 => (self, [])
    | n + 1 => ({ self with marking := n, state := .pendingRetry }, [])
  | .queueNegotiation =>
    match self.queueing with
    | 0 => (self, [])
    | n + 1 => ({ self with queueing := n }.queueNegotiation, [])
  | .task ok => self.advance ok
  | .answer =>
    (if self.waitingForAnswer then
      { self with waitingForAnswer := false, notifying := self.notifying + 1 } else self, [])
  | .notifyOne =>
    match self.notifying with
    | 0 => (self, [])
    | n + 1 => ({ self with notifying := n, waker := true }, [])

/-- The task will look at the state again. -/
def Rechecks (self : NegotiationQueue) : Prop := self.task ≠ none ∧ self.task ≠ some .returned

def Attended (self : NegotiationQueue) : Prop := self.state = .pendingRetry → self.Rechecks

def Quiescent (self : NegotiationQueue) : Prop :=
  self.task = none ∧ self.marking = 0 ∧ self.queueing = 0 ∧ self.notifying = 0

/-- There was a request after the last offer. -/
def unserved (log : List Negotiated) : Bool := log.getLast? = some .requested

def InTime (self : NegotiationQueue) : Action → Prop
  | .mark => self.marking ≠ 0 → self.Rechecks
  | .queueNegotiation =>
    self.queueing ≠ 0 → self.state = .idle → self.taskRunning = true → self.Rechecks
  | _ => True

/-- What holds in a run in time. A request is served by the task that is about to make an offer,
or through the mark. -/
structure Sound (log : List Negotiated) (queue : NegotiationQueue) : Prop where
  rechecks : queue.state ≠ .idle → queue.Rechecks
  running : queue.taskRunning = queue.task.isSome
  served : unserved log = true → queue.marking ≠ 0 ∨ queue.queueing ≠ 0 ∨
    queue.state = .pendingRetry ∨ queue.task = some .starting ∨ queue.task = some .calling

variable {self} {a : Action} {log : List Negotiated}

lemma Sound.advance (h : Sound log self) (ok : Bool) :
    Sound (log ++ (self.advance ok).2) (self.advance ok).1 := by
  obtain ⟨hrechecks, hrunning, hserved⟩ := h
  unfold NegotiationQueue.advance
  split
  all_goals constructor <;> grind [Rechecks, unserved]

lemma Sound.step (h : Sound log self) (hintime : self.InTime a) :
    Sound (log ++ (self.step a).2) (self.step a).1 := by
  cases a with
  | task ok => exact h.advance ok
  | _ =>
    -- a mark is made in time, and a request that finds no task starts one
    obtain ⟨hrechecks, hrunning, hserved⟩ := h
    constructor <;> grind [NegotiationQueue.step, NegotiationQueue.queueNegotiation, Rechecks,
      unserved, InTime]

lemma inTime_of_attended (h : (self.step a).1.Attended) : self.InTime a := by
  cases a with
  | mark => grind [NegotiationQueue.step, Attended, InTime, Rechecks]
  | queueNegotiation =>
    grind [NegotiationQueue.step, NegotiationQueue.queueNegotiation, Attended, InTime, Rechecks]
  | _ => trivial

/-- **No negotiation is lost.** In every state of a run a pending negotiation is taken up by the
task, and in no quiescent one is a request left that came after the last offer, if and only if
every step of the run is in time. -/
theorem served_iff (actions : List Action) :
    (∀ pre, pre <+: actions → (Machine.state step {} pre).Attended ∧
        ((Machine.state step {} pre).Quiescent → unserved (outputs step {} pre) = false)) ↔
      Along step InTime {} actions := by
  constructor
  · intro h
    rw [along_iff_forall]
    rintro pre a post rfl
    refine inTime_of_attended ?_
    rw [← state_concat]
    exact (h (pre ++ [a]) ⟨post, by simp⟩).1
  · rintro hintime pre ⟨post, rfl⟩
    have hinit : Sound [] {} := ⟨nofun, rfl, nofun⟩
    have hsound := hintime.append_left.run_of_step hinit fun log s a h hintime => h.step hintime
    rw [List.nil_append] at hsound
    have hattended : (Machine.state step {} pre).Attended := by
      intro hpending
      refine hsound.rechecks ?_
      rw [hpending]
      exact nofun
    refine ⟨hattended, fun hquiet => ?_⟩
    by_contra hunserved
    obtain ⟨htask, hmarking, hqueueing, -⟩ := hquiet
    rcases hsound.served (eq_true_of_ne_false hunserved) with h | h | hpending | h | h
    · exact h hmarking
    · exact h hqueueing
    · exact (hattended hpending).1 htask
    · cases htask.symm.trans h
    · cases htask.symm.trans h

/-- A request comes when the task has returned and `task_running` is still up. -/
theorem negotiation_lost :
    let actions := [.publisherNegotiationNeeded, .queueNegotiation, .task true, .task true,
      .task true, .answer, .notifyOne, .task true, .task true, .publisherNegotiationNeeded,
      .queueNegotiation, .task true]
    (Machine.state step {} actions).Quiescent ∧
      (Machine.state step {} actions).state = .pendingRetry ∧
      outputs step {} actions = [.requested, .offered, .requested] :=
  ⟨⟨rfl, rfl, rfl, rfl⟩, rfl, rfl⟩

end NegotiationQueue

inductive DebounceStage where
  | sleeping
  /-- `future.await` -/
  | offering
  deriving DecidableEq

/-- The debouncer of a session. It is replaced when its task has ended. -/
structure Debouncer where
  task : Option DebounceStage := none
  rx : ℕ := 0

namespace Debouncer

open NegotiationQueue (unserved)

variable (self : Debouncer)

inductive Action where
  | debounceNegotiation
  /-- The task reads the channel, and sleeps again. -/
  | recv
  | elapse
  | finish

def step : Action → Debouncer × List Negotiated
  | .debounceNegotiation =>
    (if self.task = none then ⟨some .sleeping, 0⟩ else { self with rx := self.rx + 1 },
      [.requested])
  | .recv => (if self.task = some .sleeping then { self with rx := self.rx - 1 } else self, [])
  | .elapse =>
    if self.task = some .sleeping then ({ self with task := some .offering }, [.offered])
    else (self, [])
  | .finish => (if self.task = some .offering then {} else self, [])

/-- No call is made while the future runs. -/
def Heard (self : Debouncer) (a : Action) : Prop :=
  a = .debounceNegotiation → self.task ≠ some .offering

/-- A call that is not served yet has its task asleep. -/
def Awaited (log : List Negotiated) (self : Debouncer) : Prop :=
  unserved log = true → self.task = some .sleeping

lemma Awaited.step {self log a} (h : Awaited log self) (hheard : self.Heard a) :
    Awaited (log ++ (self.step a).2) (self.step a).1 := by
  intro hunserved
  have hlast : unserved (log ++ [Negotiated.offered]) = false := by simp [unserved]
  rcases htask : self.task with _ | (_ | _)
  all_goals cases a <;> grind [Debouncer.step, Heard, Awaited]

/-- **Debouncing.** In a run in which no call is made while the offer is, no call after the last
offer is left when there is no task. -/
theorem debounced_of_heard {actions : List Action} (h : Along step Heard {} actions)
    (hquiet : (state step {} actions).task = none) :
    unserved (outputs step {} actions) = false := by
  have hinit : Awaited [] {} := nofun
  have hawaited := h.run_of_step hinit fun _ _ _ hs hheard => hs.step hheard
  rw [List.nil_append] at hawaited
  by_contra hunserved
  cases hquiet.symm.trans (hawaited (eq_true_of_ne_false hunserved))

theorem debounced_of_heard_two : unserved (outputs step {} [.debounceNegotiation,
    .debounceNegotiation, .recv, .elapse, .finish]) = false :=
  debounced_of_heard (by simp [Heard, step]) rfl

/-- A call that comes while the offer is made is left in the channel. -/
theorem debounced_lost :
    let actions := [.debounceNegotiation, .elapse, .debounceNegotiation, .finish]
    (state step {} actions).task = none ∧
      outputs step {} actions = [.requested, .offered, .requested] :=
  ⟨rfl, rfl⟩

end Debouncer

end LiveKit.RtcEngine
