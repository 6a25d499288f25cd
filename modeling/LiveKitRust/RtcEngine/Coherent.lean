import LiveKitRust.RtcEngine.EngineMoves

/-!
# The flags of the engine and its tasks

What the handle says of the tasks of the engine is so in every state of a run
(`reconnecting_eq_task`): it is flagged as reconnecting as long as the reconnect task is there, and
whoever is past the lock in a call of `close` has flagged it as closed. The task is woken at the end
of such a call only, so it then finds the engine closed.

Moves that are not of the reconnect task leave it in place (`Coherent.keep`); its own keep what the
others do (`Coherent.move`).
-/

namespace LiveKit.RtcEngine

/-- The call of `close` which the reconnect task makes. -/
def Stage.closing : Stage → Option Closing
  | .bail closing | .giveUp closing => some closing
  | _ => none

namespace EngineInner

/-- The reconnect task is there, and stands at such a point. -/
def stands (self : EngineInner) (p : Stage → Bool) : Bool := self.task.any fun task => p task.stage

structure Coherent (engine : EngineInner) : Prop where
  reconnecting : engine.runningHandle.reconnecting = engine.task.isSome
  woken : ∀ task, engine.task = some task → task.notified = true →
    engine.runningHandle.closed = true
  closers : ∀ closing ∈ engine.closers, closing.stage = .lock ∨ engine.runningHandle.closed = true
  closing : ∀ task, engine.task = some task → ∀ closing, task.stage.closing = some closing →
    closing.stage = .lock ∨ engine.runningHandle.closed = true

section

variable {s after : EngineInner} {task task' : ReconnectTask} {sender : Sender}
  {closing : Closing} {stage : CloseStage} {obs : List Observation}
  {outcome : Option EngineError}

lemma stands_eq (h : s.task = some task) (p : Stage → Bool) : s.stands p = p task.stage := by
  unfold stands
  rw [h, Option.any_some]

/-! ### What a call of `close` leaves as it is -/

namespace CloseMove

section

variable (h : CloseMove s sender closing after stage obs)
include h

lemma task_eq : after.task = s.task := by
  cases h <;> rfl

lemma closers_eq : after.closers = s.closers := by
  cases h <;> rfl

lemma reconnecting_eq : after.runningHandle.reconnecting = s.runningHandle.reconnecting := by
  cases h <;> rfl

lemma closed_of_closed
    (hcl : s.runningHandle.closed = true) : after.runningHandle.closed = true := by
  cases h <;> first | rfl | exact hcl

lemma closed (hlock : closing.stage = .lock ∨ s.runningHandle.closed = true) :
    after.runningHandle.closed = true := by
  rcases hlock with hlock | hcl
  · cases h with
    | lockNone | lockSome => rfl
    | session hs | join hs | emit hs =>
      cases hlock.symm.trans hs
  · exact h.closed_of_closed hcl

end

end CloseMove

variable {pre next : Stage}

lemma Pass.lock_of_closing (h : Pass s pre next)
    (hcl : next.closing = some closing) : closing.stage = .lock := by
  cases h with
  | giveUp =>
    cases hcl
    rfl
  | _ => cases hcl

lemma Say.closing_eq_none {ev} (h : Say pre ev next) : next.closing = none := by
  cases h <;> rfl

/-! ### Each step keeps the agreement -/

namespace Coherent

lemma connect : Coherent connect where
  reconnecting := rfl
  woken _ hs := nomatch hs
  closers _ hm := nomatch hm
  closing _ hs := nomatch hs

lemma keep (h : Coherent s) (ht : after.task = s.task)
    (hrec : after.runningHandle.reconnecting = s.runningHandle.reconnecting)
    (hcl : s.runningHandle.closed = true → after.runningHandle.closed = true)
    (hclosers : ∀ closing ∈ after.closers, closing ∈ s.closers ∨
      closing.stage = .lock ∨ after.runningHandle.closed = true) : Coherent after where
  reconnecting := by rw [hrec, ht, h.reconnecting]
  woken task hs hnotified := hcl (h.woken task (ht ▸ hs) hnotified)
  closers closing hm := by
    rcases hclosers closing hm with hold | hnew
    · exact (h.closers closing hold).imp_right hcl
    · exact hnew
  closing task hs closing hclosing :=
    (h.closing task (ht ▸ hs) closing hclosing).imp_right hcl

lemma move (h : Coherent s) (htask : s.task = some task)
    (ha : after.task = some task') (hnot : task'.notified = task.notified)
    (hrec : after.runningHandle.reconnecting = s.runningHandle.reconnecting)
    (hcl : s.runningHandle.closed = true → after.runningHandle.closed = true)
    (hclosers : after.closers = s.closers)
    (hclosing : ∀ closing, task'.stage.closing = some closing →
      closing.stage = .lock ∨ after.runningHandle.closed = true) : Coherent after where
  reconnecting := by rw [hrec, ha, h.reconnecting, htask]; rfl
  woken t ht hwoken := by
    obtain rfl := Option.mem_unique ha ht
    exact hcl (h.woken task htask (hnot ▸ hwoken))
  closers closing hm := (h.closers closing (hclosers ▸ hm)).imp_right hcl
  closing t ht := by
    obtain rfl := Option.mem_unique ha ht
    exact hclosing

lemma finish (h : Coherent s) (ht : after.task = none)
    (hrec : after.runningHandle.reconnecting = false)
    (hcl : after.runningHandle.closed = s.runningHandle.closed)
    (hclosers : after.closers = s.closers) : Coherent after where
  reconnecting := by rw [hrec, ht]; rfl
  woken _ hs := by simp [ht] at hs
  closers closing hm := by
    rw [hcl]
    exact h.closers closing (hclosers ▸ hm)
  closing _ hs := by simp [ht] at hs

section

variable (h : Coherent s)
include h

lemma closed_of_close {wrap} (ht : s.task = some task) (hs : task.stage = wrap closing)
    (hwrap : wrap = Stage.bail ∨ wrap = Stage.giveUp)
    (hcl : CloseMove s sender closing after stage obs) : after.runningHandle.closed = true := by
  refine hcl.closed (h.closing task ht closing ?_)
  rw [hs]
  rcases hwrap with rfl | rfl <;> rfl

lemma closed_of_notify (ht : s.task = some task)
    (hcl : task.stage.closing = some closing) (hnotify : closing.stage = .notify) :
    s.runningHandle.closed = true :=
  (h.closing task ht closing hcl).resolve_left (by simp [hnotify])

lemma closed_of_closer {k : ℕ} (hget : s.closers[k]? = some closing)
    (hnotify : closing.stage = .notify) : s.runningHandle.closed = true :=
  (h.closers closing (List.mem_of_getElem? hget)).resolve_left (by simp [hnotify])

lemma taskMove (ht : s.task = some task)
    (hmv : TaskMove s task outcome obs after) : Coherent after := by
  cases hmv with
  | pass hpass =>
    exact h.move ht rfl rfl rfl id rfl fun _ hclosing => .inl (hpass.lock_of_closing hclosing)
  | say hsay =>
    refine h.move ht rfl rfl rfl id rfl fun _ hclosing => ?_
    rw [show Stage.closing _ = none from hsay.closing_eq_none] at hclosing
    cases hclosing
  | bail =>
    refine h.move ht rfl rfl rfl id rfl ?_
    rintro _ ⟨⟩
    exact .inl rfl
  | close hs hwrap hclose =>
    have hcl := h.closed_of_close ht hs hwrap hclose
    exact h.move ht rfl rfl hclose.reconnecting_eq (fun _ => hcl) hclose.closers_eq
      fun _ _ => .inr hcl
  | done => exact h.finish rfl rfl rfl rfl
  | _ => exact h.move ht rfl rfl rfl id rfl nofun

lemma notifyWaiters (hcl : s.runningHandle.closed = true) : Coherent s.notifyWaiters where
  reconnecting := by
    show _ = (s.task.map _).isSome
    rw [Option.isSome_map]
    exact h.reconnecting
  woken _ _ _ := hcl
  closers _ _ := .inr hcl
  closing _ _ _ _ := .inr hcl

lemma cancel : Coherent (s.cancelTask task) := by
  unfold cancelTask
  split <;> exact h.finish rfl rfl rfl rfl

lemma step (a : Action) : Coherent (s.step a).1 := by
  refine step_cases s a fun obs after hmv => ?_
  cases hmv with
  | idle => exact h
  | report | ignore | escalate => exact h.keep rfl rfl id fun _ => .inl
  | start =>
    constructor
    · rfl
    · rintro _ ⟨⟩ ⟨⟩
    · exact h.closers
    · rintro _ ⟨⟩
      nofun
  | disconnect | close =>
    refine h.keep rfl rfl id fun closing hm => ?_
    rcases List.mem_append.mp hm with hold | hnew
    · exact .inl hold
    · rw [List.mem_singleton.mp hnew]
      exact .inr (.inl rfl)
  | closer hget hclose =>
    refine h.keep hclose.task_eq hclose.reconnecting_eq hclose.closed_of_closed fun closing hm => ?_
    rcases List.mem_or_eq_of_mem_set hm with hold | rfl
    · exact .inl (hclose.closers_eq ▸ hold)
    · exact .inr (.inr (hclose.closed (h.closers _ (List.mem_of_getElem? hget))))
  | closerDone hget hs =>
    have hcl := h.closed_of_closer hget hs
    exact (h.notifyWaiters hcl).keep rfl rfl id fun _ _ => .inr (.inr hcl)
  | task ht htm => exact h.taskMove ht htm
  | cancel => exact h.cancel

end

end Coherent

end

/-- In every run, the handle is flagged as reconnecting exactly while there is a reconnect task,
which is woken only once the engine is closed. -/
theorem reconnecting_eq_task (acts : List Action) : let s := Machine.state step connect acts
    s.runningHandle.reconnecting = s.task.isSome ∧
      ∀ task ∈ s.task, task.notified = true → s.runningHandle.closed = true := by
  have h : Coherent _ := Machine.state_invariant .connect acts fun _ a _ h => Coherent.step h a
  exact ⟨h.reconnecting, h.woken⟩

end EngineInner
end LiveKit.RtcEngine
