import Mathlib.Data.List.Basic

/-!
# What the entries of a table have between them

A table of tasks changes one entry at a time (`List.set`), or gets another one at the end. Here is
which entries it then has, and what becomes of the items that the entries have between them,
`table.flatMap items`: how often an item is among them (`count_flatMap_set`), and which they are if
the entry keeps its own (`flatMap_set_of_eq`) or if no other entry has any (`flatMap_eq_of_only`).
-/

open List

namespace Tables

variable {α β : Type} {table : List α} {i : ℕ} {entry : α}

/-! ### Entries -/

variable {j : ℕ} {entry' : α} {items : α → List β}

lemma getElem?_set_cases (h : (table.set i entry)[j]? = some entry') :
    (j = i ∧ entry' = entry) ∨ (j ≠ i ∧ table[j]? = some entry') := by
  by_cases heq : j = i
  · subst heq
    have hlt : j < (table.set j entry).length := (List.getElem?_eq_some_iff.mp h).1
    rw [length_set] at hlt
    rw [getElem?_set_self hlt] at h
    exact .inl ⟨rfl, (Option.some.inj h).symm⟩
  · rw [List.getElem?_set_ne (Ne.symm heq)] at h
    exact .inr ⟨heq, h⟩

lemma forall_mem_set {p : α → Prop} (h : ∀ other ∈ table, p other) (hentry : p entry) :
    ∀ other ∈ table.set i entry, p other := by
  intro other hm
  rcases mem_or_eq_of_mem_set hm with hm | rfl
  · exact h other hm
  · exact hentry

lemma getElem?_concat_cases (h : (table ++ [entry])[j]? = some entry') :
    table[j]? = some entry' ∨ (j = table.length ∧ entry' = entry) := by
  rcases Nat.lt_trichotomy j table.length with hlt | rfl | hgt
  · rw [getElem?_append_left hlt] at h
    exact .inl h
  · rw [getElem?_concat_length] at h
    exact .inr ⟨rfl, (Option.some.inj h).symm⟩
  · have hle : (table ++ [entry]).length ≤ j := by
      rw [length_append]
      exact hgt
    rw [getElem?_eq_none hle] at h
    cases h

/-! ### Items -/

lemma count_flatMap_set [DecidableEq β] (items : α → List β) (h : table[i]? = some entry)
    (entry' : α) (item : β) :
    ((table.set i entry').flatMap items).count item + (items entry).count item =
      (table.flatMap items).count item + (items entry').count item := by
  induction table generalizing i with
  | nil => cases h
  | cons _ _ ih =>
    cases i with
    | zero =>
      cases h
      simp only [set_cons_zero, flatMap_cons, count_append]
      omega
    | succ =>
      have hr := ih h
      simp only [set_cons_succ, flatMap_cons, count_append]
      omega

lemma flatMap_set_of_eq (h : table[i]? = some entry) (hitems : items entry' = items entry) :
    (table.set i entry').flatMap items = table.flatMap items := by
  induction table generalizing i with
  | nil => cases h
  | cons _ _ ih =>
    cases i with
    | zero =>
      cases h
      rw [set_cons_zero, flatMap_cons, flatMap_cons, hitems]
    | succ => rw [set_cons_succ, flatMap_cons, flatMap_cons, ih h]

lemma flatMap_eq_of_only (h : table[i]? = some entry)
    (hothers : ∀ j other, table[j]? = some other → j ≠ i → items other = []) :
    table.flatMap items = items entry := by
  induction table generalizing i with
  | nil => cases h
  | cons first table ih =>
    rw [flatMap_cons]
    cases i with
    | zero =>
      cases h
      have hr : table.flatMap items = [] := by
        rw [flatMap_eq_nil_iff]
        intro other hm
        obtain ⟨j, hot⟩ := getElem?_of_mem hm
        exact hothers (j + 1) other hot (Nat.succ_ne_zero j)
      rw [hr, append_nil]
    | succ i =>
      rw [hothers 0 first rfl (Nat.succ_ne_zero i).symm, nil_append]
      exact ih h fun j other hot hne =>
        hothers (j + 1) other hot fun heq => hne (Nat.succ.inj heq)

end Tables
