import Mathlib.Data.List.Basic

/-!
# Cutting data into fragments

A sender cuts data into chunks of a limited size (`cut`) and makes a packet of each, which depends
on whether the chunk is the first one and whether it is the last. There are chunks that make up the
data, none of them empty or too long, and the packets are these, labelled by their places
(`exists_chunks`).
-/

open List

namespace Fragments

variable {α β : Type}

def cut (size : ℕ) (h : 0 < size) (make : Bool → Bool → List α → β) (isFirst : Bool)
    (rest : List α) : List β :=
  if rest.length = 0 then []
  else
    let chunk := min rest.length size
    let isLast := decide (rest.length ≤ chunk)
    make isFirst isLast (rest.take chunk) :: cut size h make false (rest.drop chunk)
termination_by rest.length
decreasing_by
  rw [List.length_drop]
  omega

/-- The packets of some chunks: the last one knows that it is. -/
def labelled (make : Bool → Bool → List α → β) (isFirst : Bool) : List (List α) → List β
  | [] => []
  | [chunk] => [make isFirst true chunk]
  | chunk :: next :: chunks => make isFirst false chunk :: labelled make false (next :: chunks)

lemma exists_chunks {size : ℕ} (h : 0 < size) (make : Bool → Bool → List α → β) (isFirst : Bool)
    (data : List α) : ∃ cs, cut size h make isFirst data = labelled make isFirst cs ∧
      cs.flatten = data ∧ ∀ c ∈ cs, c ≠ [] ∧ c.length ≤ size := by
  induction isFirst, data using cut.induct size h with
  | case1 _ _ hempty =>
    refine ⟨[], ?_, (length_eq_zero_iff.mp hempty).symm, nofun⟩
    rw [cut, if_pos hempty]
    rfl
  | case2 isFirst data hne c ih =>
    obtain ⟨cs, hcut, hflatten, hsizes⟩ := ih
    refine ⟨data.take c :: cs, ?_, ?_, ?_⟩
    · rw [cut, if_neg hne]
      show make isFirst (decide (data.length ≤ c)) (data.take c) ::
        cut size h make false (data.drop c) = _
      rw [hcut]
      cases cs with
      | nil =>
        -- nothing is left, so this was the last one
        have hr : (data.drop c).length = 0 := by
          rw [← hflatten]
          rfl
        rw [length_drop, Nat.sub_eq_zero_iff_le] at hr
        rw [decide_eq_true hr]
        rfl
      | cons next =>
        have hr : 0 < (data.drop c).length := by
          rw [← hflatten, flatten_cons, length_append]
          have hn := length_pos_of_ne_nil (hsizes next (.head _)).1
          omega
        rw [length_drop, Nat.sub_pos_iff_lt] at hr
        rw [decide_eq_false (Nat.not_le.mpr hr)]
        rfl
    · rw [flatten_cons, hflatten, take_append_drop]
    · intro chunk' hm
      rcases mem_cons.mp hm with rfl | hm
      · have hlen : (data.take c).length = min data.length size := by
          rw [length_take]
          omega
        refine ⟨fun hnil => ?_, Nat.le_trans (Nat.le_of_eq hlen) (Nat.min_le_right ..)⟩
        rw [hnil, length_nil] at hlen
        omega
      · exact hsizes chunk' hm

variable {make : Bool → Bool → List α → β}

variable {isFirst : Bool} {cs : List (List α)} {pkt : β}

lemma mem_labelled (h : pkt ∈ labelled make isFirst cs) :
    ∃ first last, ∃ chunk ∈ cs, pkt = make first last chunk := by
  induction cs generalizing isFirst with
  | nil => cases h
  | cons chunk cs ih =>
    cases cs with
    | nil => exact ⟨isFirst, true, chunk, .head _, mem_singleton.mp h⟩
    | cons =>
      rcases mem_cons.mp h with rfl | h
      · exact ⟨isFirst, false, chunk, .head _, rfl⟩
      · obtain ⟨first, last, chunk', hm, heq⟩ := ih h
        exact ⟨first, last, chunk', mem_cons_of_mem _ hm, heq⟩

@[simp] lemma length_labelled (isFirst : Bool) (cs : List (List α)) :
    (labelled make isFirst cs).length = cs.length := by
  induction cs generalizing isFirst with
  | nil => rfl
  | cons _ cs ih =>
    cases cs with
    | nil => rfl
    | cons =>
      rw [labelled, length_cons, ih]
      rfl

lemma getElem?_labelled {i : ℕ} (h : (labelled make isFirst cs)[i]? = some pkt) :
    ∃ chunk, cs[i]? = some chunk ∧
      pkt = make (isFirst && decide (i = 0)) (decide (i + 1 = cs.length)) chunk := by
  induction cs generalizing isFirst i with
  | nil => cases h
  | cons chunk cs ih =>
    cases cs with
    | nil =>
      cases i with
      | zero =>
        cases h
        exact ⟨chunk, rfl, by simp⟩
      | succ => cases h
    | cons =>
      cases i with
      | zero =>
        cases h
        exact ⟨chunk, rfl, by simp⟩
      | succ =>
        obtain ⟨chunk', hchunk, rfl⟩ := ih h
        exact ⟨chunk', hchunk, by simp⟩

end Fragments
