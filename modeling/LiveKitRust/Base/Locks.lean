import LiveKitRust.Base.Tables
import Mathlib.Logic.Relation

/-!
# Tasks that wait for locks

Locks that can be held by several tasks in shared mode or by one in exclusive mode, and that are
granted in the order in which they were asked for: a request is admitted if nobody holds the lock in
a conflicting mode and nobody with an earlier ticket still waits for it. So a task that waits for
exclusive access keeps out all that come after it. What the holders know of the data a lock protects
stays true (`Compatible.known_set`).

A task waits for another one if that one holds what it asks for, or is ahead of it; a state is a
circular wait if some task so waits for itself. `not_circularWait` is the classical argument for
ordered acquisition. It asks for the order only of a task that somebody waits for.
-/

namespace Locks

inductive Mode where
  | shared
  | exclusive
  deriving DecidableEq

def Mode.conflicts : Mode → Mode → Bool
  | .shared, .shared => false
  | _, _ => true

structure Request (ι : Type) where
  lock : ι
  mode : Mode
  ticket : ℕ
  deriving DecidableEq

variable {τ ι : Type}

section Admission

variable [DecidableEq ι] (holds : τ → ι → Option Mode) (asks : τ → Option (Request ι))

def excludes (request : Request ι) (task : τ) : Bool :=
  match holds task request.lock with
  | some mode => request.mode.conflicts mode
  | none => false

def isAhead (request : Request ι) (task : τ) : Bool :=
  match asks task with
  | some other => decide (other.lock = request.lock ∧ other.ticket < request.ticket)
  | none => false

def admits (tasks : List τ) (request : Request ι) : Bool :=
  tasks.all fun task => !excludes holds request task && !isAhead asks request task

variable {holds asks}

lemma not_excludes_of_admits {tasks : List τ} {req : Request ι}
    (h : admits holds asks tasks req = true) {task : τ} (hm : task ∈ tasks) :
    excludes holds req task = false := by
  have ht := List.all_eq_true.mp h task hm
  rw [Bool.and_eq_true, Bool.not_eq_true'] at ht
  exact ht.1

end Admission

/-! ### What a guard protects -/

def Compatible (holds : τ → ι → Option Mode) (tasks : List τ) : Prop :=
  ∀ (i j : ℕ) (task other : τ), tasks[i]? = some task → tasks[j]? = some other → i ≠ j →
    ∀ lock mode mode', holds task lock = some mode → holds other lock = some mode' →
      mode.conflicts mode' = false

section Compatible

variable {holds : τ → ι → Option Mode} {tasks : List τ} {i : ℕ} {task task' : τ}

lemma conflicts_comm (mode mode' : Mode) : mode.conflicts mode' = mode'.conflicts mode := by
  cases mode <;> cases mode' <;> rfl

lemma conflicts_exclusive (mode : Mode) : mode.conflicts .exclusive = true := by
  cases mode <;> rfl

section

variable (h : Compatible holds tasks)
include h

lemma Compatible.append (ht : ∀ lock, holds task lock = none) :
    Compatible holds (tasks ++ [task]) := by
  have h_old {j : ℕ} {other : τ} (hot : (tasks ++ [task])[j]? = some other) {lock : ι}
      {mode : Mode} (hholds : holds other lock = some mode) : tasks[j]? = some other := by
    refine (Tables.getElem?_concat_cases hot).resolve_right ?_
    rintro ⟨-, rfl⟩
    rw [ht] at hholds
    cases hholds
  intro i j first second hf hsecond hne lock mode mode' hholds hholds'
  exact h i j first second (h_old hf hholds) (h_old hsecond hholds') hne lock mode mode'
    hholds hholds'

lemma Compatible.set (ht : ∀ j other, tasks[j]? = some other → j ≠ i → ∀ lock mode mode',
      holds task' lock = some mode → holds other lock = some mode' → mode.conflicts mode' = false) :
    Compatible holds (tasks.set i task') := by
  intro j k first second hf hsecond hne lock mode mode' hholds hholds'
  rcases Tables.getElem?_set_cases hf with ⟨rfl, rfl⟩ | ⟨hj, h_old⟩
  · rcases Tables.getElem?_set_cases hsecond with ⟨rfl, -⟩ | ⟨hk, h_old⟩
    · exact absurd rfl hne
    · exact ht k second h_old hk lock mode mode' hholds hholds'
  · rcases Tables.getElem?_set_cases hsecond with ⟨rfl, rfl⟩ | ⟨-, h_old'⟩
    · rw [conflicts_comm]
      exact ht j first h_old hj lock mode' mode hholds' hholds
    · exact h j k first second h_old h_old' hne lock mode mode' hholds hholds'

section

variable (ht : tasks[i]? = some task)
include ht

lemma Compatible.set_of_within
    (hwithin : ∀ lock, holds task' lock = none ∨ holds task' lock = holds task lock) :
    Compatible holds (tasks.set i task') := by
  refine h.set fun j other hot hne lock mode mode' hholds hholds' => ?_
  rcases hwithin lock with hn | hsm
  · cases hn.symm.trans hholds
  · rw [hsm] at hholds
    exact h i j task other ht hot hne.symm lock mode mode' hholds hholds'

lemma Compatible.set_of_admits [DecidableEq ι] {asks : τ → Option (Request ι)} {req : Request ι}
    (hadmits : admits holds asks tasks req = true)
    (hwithin : ∀ lock, lock ≠ req.lock → holds task' lock = holds task lock)
    (hgot : holds task' req.lock = some req.mode) : Compatible holds (tasks.set i task') := by
  refine h.set fun j other hot hne lock mode mode' hholds hholds' => ?_
  by_cases hlock : lock = req.lock
  · subst hlock
    have hfree := not_excludes_of_admits hadmits (List.mem_of_getElem? hot)
    obtain rfl : req.mode = mode := Option.mem_unique hgot hholds
    unfold excludes at hfree
    rw [hholds'] at hfree
    exact hfree
  · rw [hwithin lock hlock] at hholds
    exact h i j task other ht hot hne.symm lock mode mode' hholds hholds'

lemma Compatible.eq_of_exclusive {j : ℕ} {other : τ} {lock : ι}
    {mode : Mode} (hot : tasks[j]? = some other)
    (hholds : holds task lock = some .exclusive) (hholds' : holds other lock = some mode) :
    j = i := by
  by_contra hne
  have hfree := h j i other task hot ht hne lock mode .exclusive hholds' hholds
  rw [conflicts_exclusive] at hfree
  cases hfree

end

/-- **What a guard protects.** The data of a lock is changed only by a task that holds it
exclusively; so what the others know of it, while they hold it, stays true. -/
theorem Compatible.known_set {δ : Type} (knows : τ → δ → Prop)
    {data data' : δ} (lock : ι) (ht : tasks[i]? = some task)
    (hdata : data' = data ∨ holds task lock = some .exclusive)
    (hguarded : ∀ other, holds other lock = none → knows other data')
    (hkn : ∀ other ∈ tasks, knows other data) (hown : knows task' data') :
    ∀ other ∈ tasks.set i task', knows other data' := by
  intro other hm
  obtain ⟨j, hot⟩ := List.getElem?_of_mem hm
  rcases Tables.getElem?_set_cases hot with ⟨-, rfl⟩ | ⟨hj, hot⟩
  · exact hown
  · rcases hdata with rfl | hexclusive
    · exact hkn other (List.mem_of_getElem? hot)
    · cases hholds : holds other lock with
      | none => exact hguarded other hholds
      | some => exact absurd (h.eq_of_exclusive ht hot hexclusive hholds) hj

end

end Compatible

/-! ### Circular waits -/

variable (holds : τ → ι → Option Mode) (asks : τ → Option (Request ι))

inductive Waits (task other : τ) : Prop
  | holder {request : Request ι} (asked : asks task = some request)
      (held : excludes holds request other = true)
  | ahead {request earlier : Request ι} (asked : asks task = some request)
      (waiting : asks other = some earlier) (same : earlier.lock = request.lock)
      (before : earlier.ticket < request.ticket)
      (conflict : request.mode.conflicts earlier.mode = true)

def CircularWait : Prop := ∃ task, Relation.TransGen (Waits holds asks) task task

variable {holds asks}

lemma Waits.asked {task other : τ} (h : Waits holds asks task other) :
    ∃ req, asks task = some req := by
  cases h with
  | holder asked => exact ⟨_, asked⟩
  | ahead asked => exact ⟨_, asked⟩

section Ordered

variable {rank : ι → ℕ}

/-- The order in which requests stand along a chain of waits: on to locks of higher rank, and to
the front in the queue of a lock. -/
def Precedes (rank : ι → ℕ) (request other : Request ι) : Prop :=
  rank request.lock < rank other.lock ∨
    rank request.lock = rank other.lock ∧ other.ticket < request.ticket

/-- Whoever holds what another task waits for asks only for locks of higher rank. -/
def Ordered (holds : τ → ι → Option Mode) (asks : τ → Option (Request ι)) (rank : ι → ℕ) : Prop :=
  ∀ task request, asks task = some request → ∀ other, excludes holds request other = true →
    ∀ next, asks other = some next → rank request.lock < rank next.lock

variable {task other : τ} {next : Request ι}

section

variable (h : Ordered holds asks rank)
include h

lemma precedes_of_waits (hwaits : Waits holds asks task other) (hn : asks other = some next) :
    ∃ req, asks task = some req ∧ Precedes rank req next := by
  cases hwaits with
  | @holder req asked held =>
    exact ⟨req, asked, .inl (h task req asked other held next hn)⟩
  | @ahead req earlier asked waiting same pre =>
    obtain rfl : earlier = next := Option.mem_unique waiting hn
    exact ⟨req, asked, .inr ⟨congrArg rank same.symm, pre⟩⟩

lemma precedes_of_transGen (hchain : Relation.TransGen (Waits holds asks) task other)
    (hn : asks other = some next) : ∃ req, asks task = some req ∧ Precedes rank req next := by
  induction hchain generalizing next with
  | single hwaits => exact precedes_of_waits h hwaits hn
  | tail _ hwaits ih =>
    obtain ⟨_, hbetween, _⟩ := precedes_of_waits h hwaits hn
    obtain ⟨req, hreq, _⟩ := ih hbetween
    refine ⟨req, hreq, ?_⟩
    unfold Precedes at *
    omega

/-- **Ordered acquisition.** If locks are acquired in the order of their ranks, no task waits for
itself. -/
theorem not_circularWait : ¬ CircularWait holds asks := by
  rintro ⟨_, hcycle⟩
  obtain ⟨_, hf, -⟩ := Relation.TransGen.head'_iff.mp hcycle
  obtain ⟨req, hreq⟩ := hf.asked
  obtain ⟨request', hrequest', hprecedes⟩ := precedes_of_transGen h hcycle hreq
  obtain rfl : request' = req := Option.mem_unique hrequest' hreq
  unfold Precedes at hprecedes
  omega

end

end Ordered

end Locks
