import Mathlib.Data.List.Basic
import Mathlib.Data.List.Induction

/-!
# Runs of a step function with outputs

A reactive component is a step function `σ → ι → σ × List ο`: an input is processed in a state,
giving the next state and what was emitted meanwhile. A loop inside such a component has the same
shape, the inputs being the items it iterates over.

* `run step s is` — the state after the inputs `is`, with everything emitted.
* `Along step C s is` — every step of that run meets `C` in the state it starts from.
* `run_induction`, `state_induction` — a relation between the log, or the inputs so far, and the
  state is carried from step to step.
* `run_project` — a part of the state that only some of the inputs act on.
* `along_iff` — where `C` is *exactly* what keeps the invariant, the invariant holds in every state
  of a run if and only if every step meets `C`.
* `Star R` — a chain of moves of the relation `R` with what each of them emits, for steps that are
  made of smaller ones.
-/

open List

namespace Machine

variable {σ ι ο : Type}

def run (step : σ → ι → σ × List ο) : σ → List ι → σ × List ο
  | s, [] => (s, [])
  | s, i :: is =>
    ((run step (step s i).1 is).1, (step s i).2 ++ (run step (step s i).1 is).2)

def state (step : σ → ι → σ × List ο) (s : σ) (is : List ι) : σ := (run step s is).1

def outputs (step : σ → ι → σ × List ο) (s : σ) (is : List ι) : List ο := (run step s is).2

variable (step : σ → ι → σ × List ο)

@[simp] lemma state_nil (s : σ) : state step s [] = s := rfl

@[simp] lemma outputs_nil (s : σ) : outputs step s [] = [] := rfl

@[simp] lemma state_cons (s : σ) (i : ι) (is : List ι) :
    state step s (i :: is) = state step (step s i).1 is := rfl

@[simp] lemma outputs_cons (s : σ) (i : ι) (is : List ι) :
    outputs step s (i :: is) = (step s i).2 ++ outputs step (step s i).1 is := rfl

lemma state_append (s : σ) (is js : List ι) :
    state step s (is ++ js) = state step (state step s is) js := by
  induction is generalizing s with
  | nil => rfl
  | cons _ _ ih => exact ih _

lemma outputs_append (s : σ) (is js : List ι) :
    outputs step s (is ++ js) = outputs step s is ++ outputs step (state step s is) js := by
  induction is generalizing s with
  | nil => rfl
  | cons _ _ ih =>
    rw [cons_append, outputs_cons, outputs_cons, ih, append_assoc]
    rfl

lemma state_concat (s : σ) (is : List ι) (i : ι) :
    state step s (is ++ [i]) = (step (state step s is) i).1 := by
  rw [state_append]
  rfl

variable {s : σ} {is : List ι} {o : ο}

lemma mem_outputs {step : σ → ι → σ × List ο} : o ∈ outputs step s is ↔
      ∃ pre i post, is = pre ++ i :: post ∧ o ∈ (step (state step s pre) i).2 := by
  constructor
  · intro h
    induction is generalizing s with
    | nil => cases h
    | cons i is ih =>
      -- emitted by the first step, or later
      rcases mem_append.mp h with h | h
      · exact ⟨[], i, is, rfl, h⟩
      · obtain ⟨pre, j, post, rfl, hm⟩ := ih h
        exact ⟨i :: pre, j, post, rfl, hm⟩
  · rintro ⟨_, i, _, rfl, hm⟩
    rw [outputs_append, outputs_cons]
    exact mem_append_right _ (mem_append_left _ hm)

lemma outputs_eq_append_cons {step : σ → ι → σ × List ο} {before after : List ο}
    (h : outputs step s is = before ++ o :: after) :
    ∃ pre i post emitted rest, is = pre ++ i :: post ∧
      (step (state step s pre) i).2 = emitted ++ o :: rest ∧
        before = outputs step s pre ++ emitted := by
  induction is generalizing s before with
  | nil => exact absurd h (by simp)
  | cons i is ih =>
    have hsplit : (∃ before', before = (step s i).2 ++ before' ∧
        outputs step (step s i).1 is = before' ++ o :: after) ∨
          ∃ rest, (step s i).2 = before ++ o :: rest := by
      rcases append_eq_append_iff.mp h with hla | ⟨rest, hemit, hr⟩
      · exact .inl hla
      · -- the first step has emitted as much as this, or just what is before it
        cases rest with
        | nil => exact .inl ⟨[], by simp [hemit], hr.symm⟩
        | cons _ rest =>
          cases hr
          exact .inr ⟨rest, hemit⟩
    rcases hsplit with ⟨_, rfl, hr⟩ | ⟨rest, hemit⟩
    · obtain ⟨pre, j, post, emitted, rest, rfl, hemit, rfl⟩ := ih hr
      refine ⟨i :: pre, j, post, emitted, rest, rfl, hemit, ?_⟩
      rw [outputs_cons, append_assoc]
    · exact ⟨[], i, is, before, rest, rfl, hemit, rfl⟩

lemma run_eq_self {step : σ → ι → σ × List ο} (h : ∀ i ∈ is, step s i = (s, [])) :
    run step s is = (s, []) := by
  induction is with
  | nil => rfl
  | cons i _ ih =>
    have hr := ih fun j hj => h j (mem_cons_of_mem i hj)
    rw [run, h i (.head _), hr]
    rfl

/-! ### Induction along a run -/

variable {step}

/-- **Log induction.** A relation between the log and the state that every step of a
run carries over holds at its end. -/
theorem run_invariant {P : List ο → σ → Prop} {s : σ} {log : List ο} (hinit : P log s)
    (is : List ι) (hstep : ∀ log s, ∀ i ∈ is, P log s → P (log ++ (step s i).2) (step s i).1) :
    P (log ++ outputs step s is) (state step s is) := by
  induction is generalizing s log with
  | nil => simpa using hinit
  | cons i _ ih =>
    rw [outputs_cons, ← append_assoc]
    exact ih (hstep log s i (.head _) hinit) fun log t j hj => hstep log t j (mem_cons_of_mem i hj)

variable {P : σ → Prop} {C : σ → ι → Prop} {js : List ι} {Q : σ → ι → Prop}

lemma run_induction {P : List ο → σ → Prop} {log : List ο} (hinit : P log s)
    (hstep : ∀ log s i, P log s → P (log ++ (step s i).2) (step s i).1) (is : List ι) :
    P (log ++ outputs step s is) (state step s is) :=
  run_invariant hinit is fun log s i _ => hstep log s i

/-- **Input induction.** A relation between the inputs consumed and the state
that every step carries over holds at the end of every run. -/
theorem state_induction {P : List ι → σ → Prop} (hinit : P [] s)
    (hstep : ∀ is s i, P is s → P (is ++ [i]) (step s i).1) (is : List ι) :
    P is (state step s is) := by
  induction is using reverseRecOn with
  | nil => exact hinit
  | append_singleton is i ih =>
    rw [state_concat]
    exact hstep is _ i ih

lemma state_invariant (hinit : P s) (is : List ι) (hstep : ∀ s, ∀ i ∈ is, P s → P (step s i).1)
    : P (state step s is) :=
  @run_invariant σ ι ο step (fun _ => P) s [] hinit is fun _ => hstep

/-- **Projection.** Where some inputs act on a part of the state as a machine of its
own and the others leave it alone, a run acts on the part as the run of that machine
on those inputs, with the outputs that belong to it. -/
theorem run_project {τ : Type} {step' : τ → ι → τ × List ο} (f : σ → τ) (p : ι → Bool)
    (q : ο → Bool) (hin : ∀ s i, p i = true →
      f (step s i).1 = (step' (f s) i).1 ∧ (step s i).2.filter q = (step' (f s) i).2)
    (hout : ∀ s i, p i = false → f (step s i).1 = f s ∧ (step s i).2.filter q = [])
    (s : σ) (is : List ι) : f (state step s is) = state step' (f s) (is.filter p) ∧
      (outputs step s is).filter q = outputs step' (f s) (is.filter p) := by
  induction is generalizing s with
  | nil => exact ⟨rfl, rfl⟩
  | cons i _ ih =>
    obtain ⟨hst, houtputs⟩ := ih (step s i).1
    rw [state_cons, outputs_cons, filter_append]
    cases h : p i with
    | true =>
      obtain ⟨hstep, hemit⟩ := hin s i h
      rw [filter_cons_of_pos h, state_cons, outputs_cons, hst, houtputs, hstep, hemit]
      exact ⟨rfl, rfl⟩
    | false =>
      obtain ⟨hstep, hemit⟩ := hout s i h
      rw [filter_cons_of_neg (by simp [h]), hst, houtputs, hstep, hemit]
      exact ⟨rfl, rfl⟩

/-! ### Conditions along a run -/

/-- Every step of the run from `s` on the inputs meets `C`, read in the state
the step starts from. -/
def Along (step : σ → ι → σ × List ο) (C : σ → ι → Prop) : σ → List ι → Prop
  | _, [] => True
  | s, i :: is => C s i ∧ Along step C (step s i).1 is

@[simp] lemma along_nil (C : σ → ι → Prop) (s : σ) : Along step C s [] := trivial

@[simp] lemma along_cons (C : σ → ι → Prop) (s : σ) (i : ι) (is : List ι) :
    Along step C s (i :: is) ↔ C s i ∧ Along step C (step s i).1 is := Iff.rfl

instance decidableAlong (C : σ → ι → Prop) [h : ∀ s i, Decidable (C s i)] :
    ∀ (s : σ) (is : List ι), Decidable (Along step C s is)
  | _, [] => .isTrue trivial
  | s, i :: is => @instDecidableAnd _ _ (h s i) (decidableAlong C (step s i).1 is)

lemma along_iff_forall :
    Along step C s is ↔ ∀ pre i post, is = pre ++ i :: post → C (state step s pre) i := by
  induction is generalizing s with
  | nil => simp
  | cons j js ih =>
    rw [along_cons, ih]
    constructor
    · rintro ⟨hj, hjs⟩ pre i post h
      -- a position is the first one, or one of the rest
      cases pre with
      | nil =>
        cases h
        exact hj
      | cons _ pre =>
        obtain ⟨rfl, htail⟩ := cons.inj h
        exact hjs pre i post htail
    · intro h
      exact ⟨h [] j js rfl, fun pre i post hjs => h (j :: pre) i post (by rw [hjs]; rfl)⟩

lemma Along.append_right (h : Along step C s (is ++ js)) : Along step C (state step s is) js := by
  induction is generalizing s with
  | nil => exact h
  | cons _ _ ih => exact ih h.2

lemma Along.append_left (h : Along step C s (is ++ js)) : Along step C s is := by
  induction is generalizing s with
  | nil => trivial
  | cons _ _ ih => exact ⟨h.1, ih h.2⟩

lemma Along.and {D : σ → ι → Prop} (h : Along step C s is) (h' : Along step D s is) :
    Along step (fun s i => C s i ∧ D s i) s is := by
  induction is generalizing s with
  | nil => trivial
  | cons _ _ ih => exact ⟨⟨h.1, h'.1⟩, ih h.2 h'.2⟩

lemma along_of_forall {p : ι → Prop} (h : ∀ i ∈ is, p i) : Along step (fun _ i => p i) s is :=
  along_iff_forall.mpr fun _ i _ heq => h i (heq ▸ mem_append_right _ (.head _))

/-- **Conditional log induction.** A relation between the log and the state that
every step meeting `C` carries over holds at the end of every run whose steps all
meet `C`. -/
theorem Along.run_of_step {C : σ → ι → Prop} {P : List ο → σ → Prop} {s : σ} {is : List ι}
    {log : List ο} (h : Along step C s is) (hinit : P log s)
    (hstep : ∀ log s i, P log s → C s i → P (log ++ (step s i).2) (step s i).1) :
    P (log ++ outputs step s is) (state step s is) := by
  induction is generalizing s log with
  | nil => simpa using hinit
  | cons i _ ih =>
    rw [outputs_cons, ← append_assoc]
    exact ih h.2 (hstep log s i hinit h.1)

theorem Along.state_of_step (h : Along step C s is) (hinit : P s)
    (hstep : ∀ s i, P s → C s i → P (step s i).1) : P (state step s is) := by
  exact @Along.run_of_step σ ι ο step C (fun _ => P) s is [] h hinit fun _ => hstep

/-- **Exactness along a run.** Where, from a state meeting the invariant, a step
keeps the invariant and does `Q` exactly under the condition `C`, all steps of a
run keep the invariant and do `Q` if and only if all of them meet `C`. -/
theorem along_iff (hstep : ∀ s i, P s → ((P (step s i).1 ∧ Q s i) ↔ C s i)) (hinit : P s)
    (is : List ι) : Along step (fun s i => P (step s i).1 ∧ Q s i) s is ↔ Along step C s is := by
  induction is generalizing s with
  | nil => simp
  | cons i _ ih =>
    rw [along_cons, along_cons, ← hstep s i hinit]
    exact and_congr_right fun h => ih h.1

/-- Exactness, read over the states a run goes through: the invariant holds in
all of them and every step does `Q` if and only if every step meets `C`. -/
lemma reachable_iff (hstep : ∀ s i, P s → ((P (step s i).1 ∧ Q s i) ↔ C s i)) (hinit : P s)
    (is : List ι) : ((∀ pre, pre <+: is → P (state step s pre)) ∧
        ∀ pre i post, is = pre ++ i :: post → Q (state step s pre) i) ↔
      ∀ pre i post, is = pre ++ i :: post → C (state step s pre) i := by
  refine Iff.trans ?_ ((along_iff hstep hinit is).trans along_iff_forall)
  rw [along_iff_forall]
  constructor
  · rintro ⟨hall, hdo⟩ pre i post heq
    -- the state after a step is the state at the end of a longer prefix
    refine ⟨?_, hdo pre i post heq⟩
    rw [← state_concat]
    exact hall (pre ++ [i]) ⟨post, by rw [heq, append_assoc]; rfl⟩
  · intro h
    refine ⟨?_, fun pre i post heq => (h pre i post heq).2⟩
    rintro pre ⟨post, heq⟩
    -- a state is the first one, or follows a step
    rcases eq_nil_or_concat pre with rfl | ⟨pre, i, rfl⟩
    · exact hinit
    · rw [concat_eq_append] at heq ⊢
      rw [state_concat]
      exact (h pre i post (by rw [← heq, append_assoc]; rfl)).1

lemma states_iff (hstep : ∀ s i, P s → (P (step s i).1 ↔ C s i)) (hinit : P s) (is : List ι) :
    (∀ pre, pre <+: is → P (state step s pre)) ↔ Along step C s is := by
  rw [along_iff_forall, ← reachable_iff (Q := fun _ _ => True) (by simpa using hstep) hinit]
  simp only [implies_true, and_true]

/-! ### Chains of moves -/

/-- A chain of moves, with everything emitted along it. -/
inductive Star (R : σ → List ο → σ → Prop) : σ → List ο → σ → Prop
  | refl (s : σ) : Star R s [] s
  | head {s s' s'' : σ} {os os' : List ο} (move : R s os s') (rest : Star R s' os' s'') :
      Star R s (os ++ os') s''

namespace Star

variable {R : σ → List ο → σ → Prop} {s s' s'' : σ} {os os' : List ο}

lemma single (h : R s os s') : Star R s os s' := by
  have hstar := head h (refl s')
  rwa [append_nil] at hstar

lemma trans (h : Star R s os s') (h' : Star R s' os' s'') : Star R s (os ++ os') s'' := by
  induction h with
  | refl => exact h'
  | head move _ ih =>
    rw [append_assoc]
    exact head move (ih h')

lemma run (h : ∀ s i, Star R s (step s i).2 (step s i).1) (s : σ) (is : List ι) :
    Star R s (Machine.run step s is).2 (Machine.run step s is).1 := by
  induction is generalizing s with
  | nil => exact refl s
  | cons i _ ih => exact (h s i).trans (ih _)

lemma flatMap {α : Type} {f : α → List ο} {as : List α} (h : ∀ a ∈ as, Star R s (f a) s) :
    Star R s (as.flatMap f) s := by
  induction as with
  | nil => exact refl s
  | cons a _ ih =>
    exact (h a (.head _)).trans (ih fun b hb => h b (mem_cons_of_mem a hb))

lemma log_induction {P : List ο → σ → Prop} (h : Star R s os s') {log : List ο} (hinit : P log s)
    (hmv : ∀ log s os s', P log s → R s os s' → P (log ++ os) s') : P (log ++ os) s' := by
  induction h generalizing log with
  | refl => rwa [append_nil]
  | head move _ ih =>
    rw [← append_assoc]
    exact ih (hmv log _ _ _ hinit move)

lemma invariant {P : σ → Prop} (h : Star R s os s') (hinit : P s)
    (hmv : ∀ s os s', P s → R s os s' → P s') : P s' := by
  induction h with
  | refl => exact hinit
  | head move _ ih => exact ih (hmv _ _ _ hinit move)

end Star

end Machine
