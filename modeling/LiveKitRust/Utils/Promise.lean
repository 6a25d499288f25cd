import LiveKitRust.Base.Monitor

/-!
# Promises (`livekit/src/utils/promise.rs`)

The first caller of `result` takes the receiver out of the promise, and stores what it receives for
the others. If it is cancelled in between, the receiver is gone, and the next caller finds neither
it nor a result, and panics. As long as no call of `result` has returned, `try_result` finds nothing
(`lawful_of_kept`).

`resolve` is one step. It takes the lock of `tx` by `try_lock().unwrap()`, so that two calls which
overlap would panic; callers resolve a promise from one place.
-/

open Machine Monitor

namespace LiveKit.Utils

/-- Where the call of `result` that has the lock of `rx` is. -/
inductive Holder (α : Type) where
  | receiving
  /-- It has received the value, and waits for the lock of `result`. -/
  | storing (value : α)
  | rereading

inductive PromiseEvent (α : Type) where
  | resolved (value : α)
  | returned (value : α)
  | panicked
  | tried (result : Option α)
  deriving DecidableEq

/-- The promise with the calls of `result`, which are counted by where they are. -/
structure Promise (α : Type) where
  /-- What was sent, when `tx` is taken. -/
  sent : Option α := none
  rx : Bool := true
  result : Option α := none
  reading : ℕ := 0
  locking : ℕ := 0
  holder : Option (Holder α) := none
  returned : ℕ := 0

namespace Promise

variable {α : Type} [DecidableEq α] (self : Promise α)

inductive Action (α : Type) where
  | resolve (value : α)
  | result
  | read
  | lock
  | hold
  | cancelReading
  | cancelLocking
  | cancelHolder
  | tryResult

def step : Action α → Promise α × List (PromiseEvent α)
  | .resolve value =>
    if self.sent = none then ({ self with sent := some value }, [.resolved value]) else (self, [])
  | .result => ({ self with reading := self.reading + 1 }, [])
  | .read =>
    match self.reading, self.result with
    | 0, _ => (self, [])
    | n + 1, some value =>
      ({ self with reading := n, returned := self.returned + 1 }, [.returned value])
    | n + 1, none => ({ self with reading := n, locking := self.locking + 1 }, [])
  | .lock =>
    match self.locking, self.holder with
    | n + 1, none =>
      let holder := if self.rx then .receiving else .rereading
      ({ self with locking := n, rx := false, holder := some holder }, [])
    | _, _ => (self, [])
  | .hold =>
    match self.holder with
    | none => (self, [])
    | some .receiving => ({ self with holder := some (self.sent.elim .receiving .storing) }, [])
    | some (.storing value) =>
      ({ self with result := some value, holder := none, returned := self.returned + 1 },
        [.returned value])
    | some .rereading =>
      match self.result with
      | some value =>
        ({ self with holder := none, returned := self.returned + 1 }, [.returned value])
      | none => ({ self with holder := none }, [.panicked])
  | .cancelReading => ({ self with reading := self.reading - 1 }, [])
  | .cancelLocking => ({ self with locking := self.locking - 1 }, [])
  | .cancelHolder => ({ self with holder := none }, [])
  | .tryResult => (self, [.tried self.result])

/-- After `resolve`, calls return the value, and so does `try_result`. Nothing panics. -/
def observe (value : Option α) : PromiseEvent α → Option (Option α)
  | .resolved v => some (some v)
  | .returned v => if value = some v then some value else none
  | .panicked => none
  | .tried result => if value = none ∨ result = value then some value else none

/-- A call that has the receiver is not cancelled, and `try_result` is called before `resolve`, or
when a call of `result` has returned. -/
def Kept (self : Promise α) : Action α → Prop
  | .cancelHolder => ∀ holder, self.holder = some holder → holder = .rereading
  | .tryResult => self.sent ≠ none → self.returned ≠ 0
  | _ => True

structure Sound (promise : Promise α) (value : Option α) : Prop where
  value : value = promise.sent
  result : ∀ v, promise.result = some v → promise.sent = some v
  storing : ∀ v, promise.holder = some (.storing v) → promise.sent = some v
  rereading : promise.holder = some .rereading → promise.result ≠ none
  returned : promise.returned ≠ 0 → promise.result ≠ none
  /-- The receiver is in the promise, or with a call, or was used. -/
  kept : promise.rx = true ∨ promise.result ≠ none ∨ promise.holder = some .receiving ∨
    ∃ v, promise.holder = some (.storing v)

variable {self} {value : Option α} {a : Action α}

lemma Sound.passes_returned {v next} (h : Sound next value) (hsent : next.sent = some v) :
    Passes observe value [.returned v] (Sound next) := by
  refine .single ?_ h
  rw [observe, if_pos (h.value.trans hsent)]

lemma Sound.passes (h : Sound self value) (hkeeps : self.Kept a) :
    Passes observe value (self.step a).2 (Sound (self.step a).1) := by
  obtain ⟨hvalue, hresult, hstoring, hrereading, hreturned, hkept⟩ := id h
  unfold step
  cases a with
  | resolve v =>
    dsimp only
    split
    · refine .single rfl ?_
      constructor <;> grind
    · exact .nil h
  | read =>
    dsimp only
    split
    · exact .nil h
    next v _ hv =>
      refine passes_returned ?_ (hresult v hv)
      constructor <;> grind
    · refine .nil ?_
      constructor <;> grind
  | lock =>
    dsimp only
    split
    · refine .nil ?_
      constructor <;> grind
    · exact .nil h
  | hold =>
    dsimp only
    split
    · exact .nil h
    · refine .nil ?_
      cases hsent : self.sent <;> constructor <;> grind
    next v hv =>
      refine passes_returned ?_ (hstoring v hv)
      constructor <;> grind
    next hholder =>
      split
      next v hv =>
        refine passes_returned ?_ (hresult v hv)
        constructor <;> grind
      next hnone => exact absurd hnone (hrereading hholder)
  | tryResult =>
    have htried : value = none ∨ self.result = value := by
      cases hv : self.result <;> grind [Kept]
    have hobserve : observe value (.tried self.result) = some value := if_pos htried
    exact .single hobserve h
  | _ =>
    refine .nil ?_
    constructor <;> grind [Kept]

/-- **Promises.** In a run in which no call with the receiver is cancelled and `try_result` is not
called between `resolve` and the first return, nothing panics, and whatever is returned is the value
of the promise. -/
theorem lawful_of_kept {actions : List (Action α)} (h : Along step Kept {} actions) :
    (watch observe none (outputs step {} actions)).isSome := by
  have hinit : Sound ({} : Promise α) none := ⟨rfl, nofun, nofun, nofun, nofun, .inl rfl⟩
  exact (Passes.along h hinit fun _ _ _ hkeeps hs => hs.passes hkeeps).isSome

theorem lawful_of_kept_one : (watch observe none (outputs step ({} : Promise ℕ)
    [.result, .read, .lock, .resolve 5, .hold, .hold, .tryResult])).isSome := by
  refine lawful_of_kept ?_
  simp [Kept, step]

/-- The first call is cancelled while it waits, and the next one panics. -/
theorem promise_panicked : outputs step ({} : Promise ℕ) [.result, .read, .lock, .cancelHolder,
    .resolve 5, .result, .read, .lock, .hold] = [.resolved 5, .panicked] := by
  decide

end Promise

end LiveKit.Utils
