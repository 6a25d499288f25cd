import Mathlib.Logic.Basic

/-!
# Outcomes of fallible calls

A Rust call that returns `Result<T, E>` ends in one of three ways: it returns `Ok`, it returns
`Err`, or it panics (an `unwrap` of an error, a failed `assert!`, a read past the end of a buffer).
`Outcome ε α` keeps the three apart. It is a monad whose bind is the `?` operator: an error or a
panic ends the computation. `Ensures` is what a call guarantees, panics excluded.
-/

namespace Rust

inductive Outcome (ε α : Type) where
  | ok (a : α)
  | err (e : ε)
  | panic
  deriving DecidableEq

namespace Outcome

variable {ε α β : Type}

protected def bind (x : Outcome ε α) (f : α → Outcome ε β) : Outcome ε β := match x with
  | ok a => f a
  | err e => err e
  | panic => panic

instance : Monad (Outcome ε) where
  pure := ok
  bind := Outcome.bind

variable {x : Outcome ε α} {f : α → Outcome ε β} {ε' : Type}

variable (a : α)

@[simp] lemma pure_eq_ok : (pure a : Outcome ε α) = ok a := rfl

@[simp] lemma ok_bind (f : α → Outcome ε β) : (ok a >>= f) = f a := rfl

@[simp] lemma err_bind (e : ε) (f : α → Outcome ε β) : (err e >>= f) = err e := rfl

@[simp] lemma panic_bind (f : α → Outcome ε β) : (panic >>= f) = panic := rfl

lemma bind_eq_ok {b : β} : (x >>= f) = ok b ↔ ∃ a, x = ok a ∧ f a = ok b := by
  cases x with
  | ok | err | panic => simp

/-- The call does not panic, and what it returns is as the condition says. -/
def Ensures (P : α → Prop) : Outcome ε α → Prop
  | ok a => P a
  | err _ => True
  | panic => False

lemma Ensures.bind {P : α → Prop} {Q : β → Prop} (hx : x.Ensures P)
    (hf : ∀ a, P a → (f a).Ensures Q) : (x >>= f).Ensures Q := by
  cases x with
  | ok a => exact hf a hx
  | err => trivial
  | panic => exact hx

def mapErr {ε' : Type} (g : ε → ε') : Outcome ε α → Outcome ε' α
  | ok a => ok a
  | err e => err (g e)
  | panic => panic

@[simp] lemma mapErr_ok (g : ε → ε') (a : α) : mapErr g (ok a : Outcome ε α) = ok a := rfl

lemma mapErr_eq_ok {g : ε → ε'} {a : α} : mapErr g x = ok a ↔ x = ok a := by
  cases x with
  | ok => simp
  | err | panic => simp [mapErr]

def unwrap {ε' : Type} : Outcome ε α → Outcome ε' α
  | ok a => ok a
  | err _ => panic
  | panic => panic

@[simp] lemma unwrap_ok : (unwrap (ok a : Outcome ε α) : Outcome ε' α) = ok a := rfl

def assert (c : Bool) : Outcome ε Unit :=
  if c then ok () else panic

@[simp] lemma assert_true : (assert true : Outcome ε Unit) = ok () := rfl

def mapList (f : α → Outcome ε β) : List α → Outcome ε (List β)
  | [] => ok []
  | a :: as => do
    let b ← f a
    let bs ← mapList f as
    ok (b :: bs)

lemma mapList_eq_ok {g : α → β} (as : List α) (h : ∀ a ∈ as, f a = ok (g a)) :
    mapList f as = ok (as.map g) := by
  induction as with
  | nil => rfl
  | cons a _ ih =>
    rw [mapList, h a (.head _), ok_bind, ih fun b hb => h b (List.mem_cons_of_mem a hb)]
    rfl

end Outcome

end Rust
