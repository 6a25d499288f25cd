import Mathlib.Data.List.AList

/-!
# Finite maps

A hash map or a search tree is an association list without duplicate keys, `AList`; what Mathlib
says of `lookup` after an update is stated here once as a case distinction on the key.

An insertion-ordered map (`IndexMap`) is the same list read from its oldest entry: `insertLast`
replaces the value of a key where it stands and appends a new key at the end, and `first` is the
oldest entry.

A map is the index of a partial function (`IsIndexOf`) when it has exactly the function's values as
keys, each leading back to where it is taken.

A hash map is iterated in an order of its own. `HashOrder` is any choice of such an order.
-/

abbrev Map (κ ν : Type) := AList fun _ : κ => ν

open List

namespace AList

variable {κ ν : Type}

def len (m : Map κ ν) : ℕ := m.entries.length

def first (m : Map κ ν) : Option (κ × ν) := m.entries.head?.map fun e => (e.1, e.2)

variable {m : Map κ ν} (a b : κ) {v : ν}

lemma nodupKeys_concat {a : κ} (h : a ∉ m) (v : ν) :
    (m.entries ++ [(⟨a, v⟩ : Sigma fun _ : κ => ν)]).NodupKeys := by
  rw [List.NodupKeys, List.keys, map_append, nodup_append]
  refine ⟨m.nodupKeys, List.nodup_singleton a, ?_⟩
  -- the old keys and the new one are disjoint
  intro b hb c hc heq
  obtain rfl := List.mem_singleton.mp hc
  exact h (heq ▸ hb)

def mapVals (f : κ → ν → ν) (m : Map κ ν) : Map κ ν where
  entries := m.entries.map fun e => ⟨e.1, f e.1 e.2⟩
  nodupKeys := by
    have h_keys : (m.entries.map fun e => (⟨e.1, f e.1 e.2⟩ : Sigma fun _ : κ => ν)).keys =
        m.entries.keys := List.map_map
    rw [List.NodupKeys, h_keys]
    exact m.nodupKeys

def retain (p : κ → ν → Bool) (m : Map κ ν) : Map κ ν where
  entries := m.entries.filter fun e => p e.1 e.2
  nodupKeys := m.nodupKeys.sublist List.filter_sublist

lemma length_keys (m : Map κ ν) : m.keys.length = len m := length_map ..

variable [DecidableEq κ]

lemma lookup_retain (p : κ → ν → Bool) (m : Map κ ν) (a : κ) :
    (m.retain p).lookup a = (m.lookup a).filter (p a) := by
  refine Option.ext fun v => ?_
  rw [Option.filter_eq_some_iff, ← Option.mem_def, ← Option.mem_def, mem_lookup_iff, mem_lookup_iff]
  exact mem_filter

lemma lookup_mapVals (f : κ → ν → ν) (m : Map κ ν) (a : κ) :
    (m.mapVals f).lookup a = (m.lookup a).map (f a) := by
  change dlookup a (m.entries.map fun e => (⟨e.1, f e.1 e.2⟩ : Sigma fun _ : κ => ν)) =
    (dlookup a m.entries).map (f a)
  induction m.entries with
  | nil => rfl
  | cons e _ ih =>
    obtain ⟨b, v⟩ := e
    rw [map_cons]
    by_cases h : a = b
    · subst h
      rw [dlookup_cons_eq, dlookup_cons_eq]
      rfl
    · rw [dlookup_cons_ne _ _ h, dlookup_cons_ne _ _ h, ih]

def ofList (entries : List (κ × ν)) : Map κ ν :=
  (entries.map fun e => (⟨e.1, e.2⟩ : Sigma fun _ : κ => ν)).toAList

lemma lookup_insert_ite (v : ν) (m : Map κ ν) :
    (m.insert b v).lookup a = if a = b then some v else m.lookup a := by
  by_cases h : a = b
  · subst h
    rw [if_pos rfl, lookup_insert]
  · rw [if_neg h, lookup_insert_ne h]

lemma lookup_erase_ite (m : Map κ ν) :
    (m.erase b).lookup a = if a = b then none else m.lookup a := by
  by_cases h : a = b
  · subst h
    rw [if_pos rfl, lookup_erase]
  · rw [if_neg h, lookup_erase_ne h]

lemma of_lookup_insert {a b : κ} {w : ν} (h : (m.insert b w).lookup a = some v) :
    a = b ∧ w = v ∨ a ≠ b ∧ m.lookup a = some v := by
  rw [lookup_insert_ite] at h
  split at h
  next heq => exact .inl ⟨heq, Option.some.inj h⟩
  next hne => exact .inr ⟨hne, h⟩

lemma of_lookup_erase {a b : κ} (h : (m.erase b).lookup a = some v) :
    a ≠ b ∧ m.lookup a = some v := by
  rw [lookup_erase_ite] at h
  split at h
  · cases h
  next hne => exact ⟨hne, h⟩

lemma len_insert_of_lookup_eq_none {a : κ} (h : m.lookup a = none) (v : ν) :
    len (m.insert a v) = len m + 1 := by
  rw [len, entries_insert_of_notMem (lookup_eq_none.mp h), length_cons, len]

lemma len_erase_lt {a : κ} (h : m.lookup a = some v) : len (m.erase a) < len m := by
  have hm : a ∈ m.keys := lookup_isSome.mp (by rw [h]; rfl)
  -- the list of keys loses one element, and it had that element
  have hlen : (m.erase a).keys.length = m.keys.length - 1 := by
    rw [keys_erase, length_erase_of_mem hm]
  have hpos : 0 < m.keys.length := length_pos_of_mem hm
  rw [length_keys, length_keys] at hlen
  rw [length_keys] at hpos
  omega

/-! ### Insertion order -/

lemma lookup_of_first {a : κ} (h : m.first = some (a, v)) : m.lookup a = some v := by
  obtain ⟨e, hhead, he⟩ := Option.map_eq_some_iff.mp h
  cases he
  exact mem_lookup_iff.mpr (mem_of_head? hhead)

def insertLast (a : κ) (v : ν) (m : Map κ ν) : Map κ ν :=
  if h : a ∈ m then m.replace a v else ⟨m.entries ++ [⟨a, v⟩], nodupKeys_concat h v⟩

lemma len_insertLast_le (v : ν) (m : Map κ ν) : len (m.insertLast a v) ≤ len m + 1 := by
  unfold insertLast
  split
  · rw [← length_keys, keys_replace, length_keys]
    exact Nat.le_succ _
  · exact Nat.le_of_eq length_append

lemma dlookup_kreplace (v : ν) (l : List (Sigma fun _ : κ => ν)) :
    (l.kreplace b v).dlookup a = if a = b ∧ b ∈ l.keys then some v else l.dlookup a := by
  induction l with
  | nil => simp [kreplace]
  | cons e l ih =>
    obtain ⟨c, w⟩ := e
    by_cases hcb : b = c
    · -- the entry is the one replaced
      subst hcb
      have hrep : kreplace b v (⟨b, w⟩ :: l) = ⟨b, v⟩ :: l := by
        simp [kreplace, lookmap_cons_some]
      rw [hrep]
      by_cases h : a = b
      · subst h
        simp
      · rw [dlookup_cons_ne _ _ h, dlookup_cons_ne _ _ h, if_neg (fun hc => h hc.1)]
    · have hrep : kreplace b v (⟨c, w⟩ :: l) = ⟨c, w⟩ :: kreplace b v l := by
        simp [kreplace, lookmap_cons_none, hcb]
      -- any other entry stays, and the search goes on behind it
      rw [hrep]
      by_cases h : a = c
      · subst h
        rw [dlookup_cons_eq, dlookup_cons_eq, if_neg (fun hc => hcb hc.1.symm)]
      · rw [dlookup_cons_ne _ _ h, dlookup_cons_ne _ _ h, ih]
        simp [keys_cons, hcb]

lemma lookup_replace_ite (v : ν) (m : Map κ ν) :
    (m.replace b v).lookup a = if a = b ∧ b ∈ m then some v else m.lookup a := by
  have h := dlookup_kreplace a b v m.entries
  by_cases hkey : a = b ∧ b ∈ m
  · rw [if_pos hkey]
    exact h.trans (if_pos hkey)
  · rw [if_neg hkey]
    exact h.trans (if_neg hkey)

lemma lookup_insertLast (v : ν) (m : Map κ ν) :
    (m.insertLast b v).lookup a = if a = b then some v else m.lookup a := by
  unfold insertLast
  split
  next hm =>
    -- the key is there, its value is replaced
    change (m.entries.kreplace b v).dlookup a = _
    have hkeys : b ∈ m.entries.keys := hm
    rw [dlookup_kreplace]
    simp only [hkeys, and_true]
    rfl
  next hm =>
    -- the key is new and comes last
    rw [lookup, dlookup_append]
    by_cases h : a = b
    · subst h
      have hn : m.entries.dlookup a = none := lookup_eq_none.mpr hm
      simp [hn]
    · rw [if_neg h, dlookup_cons_ne _ _ h, dlookup_nil, Option.or_none]
      rfl

end AList

/-! ### Indexes -/

/-- The map leads from the values of the partial function back to its
arguments. -/
def IsIndexOf {κ ν : Type} [DecidableEq κ] (m : Map κ ν) (f : ν → Option κ) : Prop :=
  ∀ k v, m.lookup k = some v ↔ f v = some k

namespace IsIndexOf

variable {κ ν : Type} [DecidableEq κ] {m : Map κ ν} {f g : ν → Option κ}

variable {k : κ} {v w : ν}

section

variable (h : IsIndexOf m f)
include h

lemma inj (hv : f v = some k) (hw : f w = some k) : v = w := by
  rw [← h] at hv hw
  exact Option.mem_unique hv hw

lemma congr (heq : ∀ v, g v = f v) : IsIndexOf m g := by
  intro k v
  rw [heq]
  exact h k v

/-- Without the key of an argument, the map is the index of the function without
that argument. -/
lemma erase (hv : f v = some k)
    (h_v : g v = none) (heq : ∀ w, w ≠ v → g w = f w) : IsIndexOf (m.erase k) g := by
  intro k' w
  rw [AList.lookup_erase_ite]
  by_cases hw : w = v
  · -- the argument that is gone: no key leads to it any more
    subst hw
    rw [h_v]
    by_cases hk : k' = k
    · simp [hk]
    · rw [if_neg hk, h k' w, hv]
      simp [Ne.symm hk]
  · -- any other argument keeps its key, which is not the erased one
    rw [heq w hw]
    by_cases hk : k' = k
    · subst hk
      exact iff_of_false (by simp) fun hw' => hw (h.inj hw' hv)
    · rw [if_neg hk]
      exact h k' w

lemma move (hv : f v = some k) (hw : f w = none)
    (h_v : g v = none) (h_w : g w = some k) (heq : ∀ u, u ≠ v → u ≠ w → g u = f u) :
    IsIndexOf (m.insert k w) g := by
  intro k' u
  rw [AList.lookup_insert_ite]
  by_cases hu : u = w
  · -- the new argument: exactly the moved key leads to it
    subst hu
    rw [h_w]
    by_cases hk : k' = k
    · simp [hk]
    · rw [if_neg hk, h k' u, hw]
      simp [Ne.symm hk]
  · by_cases hk : k' = k
    · -- the key was taken at `v` only, where it no longer is
      subst hk
      rw [if_pos rfl]
      refine iff_of_false (fun hwu => hu (Option.some.inj hwu).symm) fun h_u => ?_
      by_cases huv : u = v
      · rw [huv, h_v] at h_u
        cases h_u
      · rw [heq u huv hu] at h_u
        exact huv (h.inj h_u hv)
    · rw [if_neg hk, h k' u]
      by_cases huv : u = v
      · rw [huv, hv, h_v]
        simp [Ne.symm hk]
      · rw [heq u huv hu]

end

end IsIndexOf

/-! ### Iteration -/

structure HashOrder (κ : Type) where
  iter : List κ → List κ
  perm : ∀ keys, (iter keys).Perm keys

namespace HashOrder

variable {κ ν : Type}

def asListed : HashOrder κ := ⟨id, fun _ => List.Perm.refl _⟩

variable [DecidableEq κ]

def entries (order : HashOrder κ) (m : Map κ ν) : List (κ × ν) :=
  (order.iter m.keys).filterMap fun k => (m.lookup k).map fun v => (k, v)

lemma mem_entries {order : HashOrder κ} {m : Map κ ν} {k : κ} {v : ν} :
    (k, v) ∈ order.entries m ↔ m.lookup k = some v := by
  unfold entries
  rw [mem_filterMap]
  constructor
  · rintro ⟨_, -, h⟩
    obtain ⟨_, hl, heq⟩ := Option.map_eq_some_iff.mp h
    cases heq
    exact hl
  · intro h
    have hm : k ∈ m.keys := AList.lookup_isSome.mp (by rw [h]; rfl)
    exact ⟨k, (order.perm m.keys).mem_iff.mpr hm, by rw [h]; rfl⟩

variable (order : HashOrder κ)

lemma nodup_keys_entries (m : Map κ ν) : ((order.entries m).map Prod.fst).Nodup := by
  have hnodup : (order.iter m.keys).Nodup := (order.perm m.keys).nodup_iff.mpr m.keys_nodup
  -- the entries are listed along the keys, which are distinct
  have hsub : ((order.entries m).map Prod.fst).Sublist (order.iter m.keys) := by
    unfold entries
    generalize order.iter m.keys = keys
    induction keys with
    | nil => exact List.Sublist.refl _
    | cons k _ ih =>
      cases h : m.lookup k with
      | none =>
        rw [filterMap_cons_none (by rw [h]; rfl)]
        exact ih.cons k
      | some =>
        rw [filterMap_cons_some (by rw [h]; rfl), map_cons]
        exact ih.cons_cons k
  exact hnodup.sublist hsub

lemma entries_perm (m : Map κ ν) : (order.entries m).Perm (m.entries.map fun e => (e.1, e.2)) := by
  have hnodup : (m.entries.map fun e => (e.1, e.2)).Nodup := by
    refine List.Nodup.of_map Prod.fst ?_
    rw [map_map]
    exact m.keys_nodup
  refine (perm_ext_iff_of_nodup (order.nodup_keys_entries m).of_map hnodup).mpr ?_
  rintro ⟨k, v⟩
  rw [mem_entries, mem_map]
  constructor
  · intro h
    exact ⟨⟨k, v⟩, AList.mem_lookup_iff.mp h, rfl⟩
  · rintro ⟨⟨_, _⟩, hm, heq⟩
    cases heq
    exact AList.mem_lookup_iff.mpr hm

end HashOrder
