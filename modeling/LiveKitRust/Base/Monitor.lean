import LiveKitRust.Base.Machine

/-!
# Monitors

A monitor reads a log item by item and rejects it (`none`) as soon as an item may not come. It says
which sequences of outputs of a component are right, in terms of the outputs alone. `Passes observe
m os Q` composes as a triple does: along an appended log (`Passes.append`), and along the run of a
machine (`Passes.along`), where a relation between the state of the machine and that of the monitor
is carried from step to step.
-/

namespace Monitor

open Machine

variable {μ ο : Type} (observe : μ → ο → Option μ)

def watch : μ → List ο → Option μ
  | m, [] => some m
  | m, o :: os => (observe m o).bind fun m' => watch m' os

/-- The log is accepted, and leads to a state with `Q`. -/
def Passes (m : μ) (os : List ο) (Q : μ → Prop) : Prop := ∃ m', watch observe m os = some m' ∧ Q m'

variable {observe} {m m' : μ} {o : ο} {os os' : List ο} {Q R : μ → Prop}

lemma watch_append (m : μ) (os os' : List ο) :
    watch observe m (os ++ os') = (watch observe m os).bind fun m' => watch observe m' os' := by
  induction os generalizing m with
  | nil => rfl
  | cons _ _ ih =>
    rw [List.cons_append, watch, watch, Option.bind_assoc]
    exact congrArg _ (funext ih)

lemma watch_map {α : Type} (f : α → ο) (m : μ) (as : List α) :
    watch observe m (as.map f) = watch (fun m a => observe m (f a)) m as := by
  induction as generalizing m with
  | nil => rfl
  | cons _ _ ih =>
    exact congrArg _ (funext ih)

namespace Passes

lemma nil (h : Q m) : Passes observe m [] Q := ⟨m, rfl, h⟩

lemma single (h : observe m o = some m') (hpost : Q m') : Passes observe m [o] Q := by
  refine ⟨m', ?_, hpost⟩
  rw [watch, h]
  rfl

lemma append (h : Passes observe m os Q) (h' : ∀ m', Q m' → Passes observe m' os' R) :
    Passes observe m (os ++ os') R := by
  obtain ⟨m₁, hwatch, hmid⟩ := h
  obtain ⟨m₂, hwatch', hpost⟩ := h' m₁ hmid
  refine ⟨m₂, ?_, hpost⟩
  rw [watch_append, hwatch]
  exact hwatch'

lemma mono (h : Passes observe m os Q) (himp : ∀ m', Q m' → R m') : Passes observe m os R := by
  obtain ⟨m', hwatch, hpost⟩ := h
  exact ⟨m', hwatch, himp m' hpost⟩

lemma isSome (h : Passes observe m os Q) : (watch observe m os).isSome := by
  obtain ⟨m', hwatch, -⟩ := h
  rw [hwatch]
  rfl

lemma of_ignored (h : ∀ o ∈ os, observe m o = some m) (hpost : Q m) : Passes observe m os Q := by
  induction os with
  | nil => exact nil hpost
  | cons o _ ih =>
    have hf : Passes observe m [o] fun m' => m' = m := single (h o (.head _)) rfl
    refine hf.append ?_
    rintro _ rfl
    exact ih fun o' hm => h o' (List.mem_cons_of_mem o hm)

lemma map {α : Type} {f : α → ο} {as : List α}
    (h : Passes (fun m a => observe m (f a)) m as Q) : Passes observe m (as.map f) Q := by
  obtain ⟨m', hwatch, hpost⟩ := h
  exact ⟨m', (watch_map f m as).trans hwatch, hpost⟩

variable {σ ι : Type} {step : σ → ι → σ × List ο} {I : σ → μ → Prop} {s : σ} {is : List ι}

/-- **Conditional monitoring of a run.** Where every step meeting `C` passes and keeps a relation
between the machine and the monitor, the log of every run whose steps all meet `C` passes. -/
theorem along {C : σ → ι → Prop} (h : Along step C s is) (hinit : I s m)
    (hstep : ∀ s i m, C s i → I s m → Passes observe m (step s i).2 (I (step s i).1)) :
    Passes observe m (outputs step s is) (I (state step s is)) := by
  induction is generalizing s m with
  | nil => exact nil hinit
  | cons i _ ih =>
    exact (hstep s i m h.1 hinit).append fun m' hmid => ih h.2 hmid

lemma run (hinit : I s m)
    (hstep : ∀ s m, ∀ i ∈ is, I s m → Passes observe m (step s i).2 (I (step s i).1)) :
    Passes observe m (outputs step s is) (I (state step s is)) :=
  along (along_of_forall fun _ hm => hm) hinit fun s i m hm h => hstep s m i hm h

lemma star {R : σ → List ο → σ → Prop} {s' : σ} (h : Star R s os s') (hinit : I s m)
    (hmv : ∀ s os s' m, R s os s' → I s m → Passes observe m os (I s')) :
    Passes observe m os (I s') := by
  induction h generalizing m with
  | refl => exact nil hinit
  | head move _ ih => exact (hmv _ _ _ m move hinit).append fun m' hmid => ih hmid

end Passes

end Monitor
