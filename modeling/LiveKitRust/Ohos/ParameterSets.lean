import LiveKitRust.Rtp.H264

/-!
# The first key frame of a decoder (`ohos/video_codec.rs`)

`extract_sps_pps_from_annexb` copies the parameter sets out of a key frame, and says where the rest
of it begins: at the first unit that is none. A parameter set after that is in both parts
(`splits_iff`).
-/

open LiveKit.Rtp List

namespace LiveKit.Ohos

structure NalUnit where
  code : StartCode
  header : UInt8
  body : Bytes
  noCode : NoCode (header :: body)

namespace NalUnit

variable (self : NalUnit)

def bytes : Bytes := self.code.bytes ++ self.header :: self.body

def nalType : UInt8 := naluType self.header

def isParameterSet : Bool := self.nalType = 7 || self.nalType = 8

end NalUnit

open NalUnit (isParameterSet)

def joined (units : List NalUnit) : Bytes := units.flatMap NalUnit.bytes

/-- The loop that finds the start codes, from position `i` on: where each begins and where its unit
does. -/
def nalStarts (i : ℕ) (rest : Bytes) : List (ℕ × ℕ) :=
  if rest.length ≤ 3 then []
  else if startCodeLen rest = 0 then nalStarts (i + 1) (rest.drop 1)
  else (i, i + startCodeLen rest) ::
    nalStarts (i + startCodeLen rest) (rest.drop (startCodeLen rest))
termination_by rest.length
decreasing_by
  all_goals
    rw [length_drop]
    omega

structure Extraction where
  codecData : Bytes := []
  idrOffset : ℕ
  foundSps : Bool := false

def extractLoop (data : Bytes) : List (ℕ × ℕ) → Extraction → Extraction
  | [], acc => acc
  | (scPos, nalPos) :: starts, acc =>
    extractLoop data starts <| match data[nalPos]? with
      | none => acc
      | some header =>
        let nalEnd := (starts.head?.map Prod.fst).getD data.length
        if naluType header = 7 ∨ naluType header = 8 then
          { acc with
            codecData := acc.codecData ++ (data.drop scPos).take (nalEnd - scPos)
            foundSps := acc.foundSps || naluType header = 7 }
        else if acc.idrOffset = data.length then { acc with idrOffset := scPos }
        else acc

def extractSpsPpsFromAnnexb (data : Bytes) : Option (Bytes × ℕ) :=
  let acc := extractLoop data (nalStarts 0 data) { idrOffset := data.length }
  if acc.foundSps ∧ acc.codecData ≠ [] then some (acc.codecData, acc.idrOffset) else none

/-- The parameter sets are returned in order, and together with what is left from the offset on they
are the units of the frame. -/
def Splits (units : List NalUnit) : Prop :=
  ∃ offset rest, extractSpsPpsFromAnnexb (joined units) =
      some (joined (units.filter isParameterSet), offset) ∧
    (joined units).drop offset = joined rest ∧ units.filter isParameterSet ++ rest ~ units

def ParameterSetsFirst (units : List NalUnit) : Prop :=
  ∀ unit ∈ units.dropWhile isParameterSet, unit.isParameterSet = false

/-! ### The start codes -/

lemma nalStarts_append {bytes} (h : NoCode bytes) (i : ℕ) (rest : Bytes) :
    nalStarts i (bytes ++ rest) = nalStarts (i + bytes.length) rest := by
  induction bytes generalizing i with
  | nil => rfl
  | cons byte bytes ih =>
    rw [nalStarts, h.startCodeLen_append rest]
    split
    next hlen =>
      have hshort : rest.length ≤ 3 := by
        rw [length_append] at hlen
        omega
      rw [nalStarts, if_pos hshort]
    · rw [if_pos rfl, cons_append, drop_one, tail_cons, ih h.tail, length_cons, Nat.add_assoc,
        Nat.add_comm 1]

lemma nalStarts_code (code : StartCode) (i : ℕ) (header : UInt8) (rest : Bytes) :
    nalStarts i (code.bytes ++ header :: rest) = (i, i + code.bytes.length) ::
      nalStarts (i + code.bytes.length) (header :: rest) := by
  cases code <;>
  · rw [nalStarts, if_neg (by simp [StartCode.bytes])]
    rfl

def starts (i : ℕ) : List NalUnit → List (ℕ × ℕ)
  | [] => []
  | unit :: units => (i, i + unit.code.bytes.length) :: starts (i + unit.bytes.length) units

lemma nalStarts_joined (i units) : nalStarts i (joined units) = starts i units := by
  induction units generalizing i with
  | nil => rw [joined, flatMap_nil, nalStarts]; rfl
  | cons unit units ih =>
    have hunit := nalStarts_append unit.noCode (i + unit.code.bytes.length) (joined units)
    rw [joined, flatMap_cons, ← joined, NalUnit.bytes, append_assoc, cons_append, nalStarts_code,
      ← cons_append, hunit, ih, starts, NalUnit.bytes, length_append, Nat.add_assoc]

/-! ### The units -/

variable {data : Bytes} {i : ℕ} {unit : NalUnit} {units : List NalUnit} {acc : Extraction}

lemma NalUnit.isParameterSet_iff :
    unit.isParameterSet = true ↔ naluType unit.header = 7 ∨ naluType unit.header = 8 := by
  rw [isParameterSet, Bool.or_eq_true, decide_eq_true_iff, decide_eq_true_iff]
  rfl

lemma joined_cons : joined (unit :: units) = unit.bytes ++ joined units := flatMap_cons

lemma getElem?_header (hdrop : data.drop i = joined (unit :: units)) :
    data[i + unit.code.bytes.length]? = some unit.header := by
  rw [← getElem?_drop, hdrop, joined_cons, NalUnit.bytes, append_assoc,
    getElem?_append_right (Nat.le_refl _), Nat.sub_self]
  rfl

lemma nalEnd_eq (hlen : i + (joined (unit :: units)).length = data.length) :
    ((starts (i + unit.bytes.length) units).head?.map Prod.fst).getD data.length =
      i + unit.bytes.length := by
  cases units with
  | nil => rw [← hlen, joined_cons, joined, flatMap_nil, append_nil]; rfl
  | cons => rfl

lemma extractLoop_starts (hdrop : data.drop i = joined units)
    (hlen : i + (joined units).length = data.length) : extractLoop data (starts i units) acc =
      { codecData := acc.codecData ++ joined (units.filter isParameterSet)
        idrOffset := if acc.idrOffset = data.length then
          i + (joined (units.takeWhile isParameterSet)).length else acc.idrOffset
        foundSps := acc.foundSps || units.any fun unit => unit.nalType = 7 } := by
  induction units generalizing i acc with
  | nil =>
    have hi : i = data.length := hlen
    cases acc
    simp [starts, extractLoop, joined, hi]
  | cons unit units ih =>
    have hheader := getElem?_header hdrop
    have hnext : data.drop (i + unit.bytes.length) = joined units := by
      rw [← drop_drop, hdrop, joined_cons, drop_left]
    have hslice : (data.drop i).take unit.bytes.length = unit.bytes := by
      rw [hdrop, joined_cons, take_left]
    have hlen' : i + unit.bytes.length + (joined units).length = data.length := by
      rw [← hlen, joined_cons, length_append, Nat.add_assoc]
    have hpos : 0 < unit.bytes.length := length_pos_of_mem (mem_append_right _ (.head _))
    rw [starts, extractLoop, hheader, nalEnd_eq hlen]
    dsimp only
    rw [Nat.add_sub_cancel_left, hslice, ih hnext hlen']
    by_cases hset : unit.isParameterSet
    · rw [if_pos (NalUnit.isParameterSet_iff.mp hset), filter_cons_of_pos hset,
        takeWhile_cons_of_pos hset]
      simp only [joined_cons, length_append, append_assoc, Nat.add_assoc, any_cons, Bool.or_assoc]
      rfl
    · have htype := mt NalUnit.isParameterSet_iff.mpr hset
      have hsps : ¬ unit.nalType = 7 := fun h => htype (.inl h)
      rw [if_neg htype, filter_cons_of_neg hset, takeWhile_cons_of_neg hset, any_cons,
        decide_eq_false hsps, Bool.false_or]
      split
      · rw [if_neg (show ¬ i = data.length by omega)]
        rfl
      · rfl

lemma joined_ne_nil (hmem : unit ∈ units) : joined units ≠ [] := by
  intro hnil
  have hbytes : unit.header ∈ joined units :=
    mem_flatMap.mpr ⟨unit, hmem, mem_append_right _ (.head _)⟩
  rw [hnil] at hbytes
  cases hbytes

lemma extract_joined (hsps : ∃ unit ∈ units, unit.nalType = 7) :
    extractSpsPpsFromAnnexb (joined units) = some (joined (units.filter isParameterSet),
        (joined (units.takeWhile isParameterSet)).length) := by
  rw [extractSpsPpsFromAnnexb, nalStarts_joined, extractLoop_starts (drop_zero ..) (Nat.zero_add _)]
  obtain ⟨unit, hmem, htype⟩ := hsps
  have hset : unit ∈ units.filter isParameterSet :=
    mem_filter.mpr ⟨hmem, NalUnit.isParameterSet_iff.mpr (.inl htype)⟩
  have hfound : units.any (fun unit => unit.nalType = 7) = true :=
    any_eq_true.mpr ⟨unit, hmem, decide_eq_true htype⟩
  dsimp only
  rw [hfound, nil_append, if_pos ⟨rfl, joined_ne_nil hset⟩, if_pos rfl, Nat.zero_add]

lemma joined_append (units units') :
    joined (units ++ units') = joined units ++ joined units' := flatMap_append

lemma joined_split (units) : joined units =
    joined (units.takeWhile isParameterSet) ++ joined (units.dropWhile isParameterSet) := by
  rw [← joined_append, takeWhile_append_dropWhile]

lemma filter_split (units : List NalUnit) : units.filter isParameterSet =
    units.takeWhile isParameterSet ++ (units.dropWhile isParameterSet).filter isParameterSet := by
  have hfilter := filter_append (units.takeWhile isParameterSet)
    (units.dropWhile isParameterSet) (p := isParameterSet)
  rwa [takeWhile_append_dropWhile, filter_eq_self.mpr (all_eq_true.mp all_takeWhile)] at hfilter

lemma ParameterSetsFirst.of_splits (hsps : ∃ unit ∈ units, unit.nalType = 7)
    (h : Splits units) : ParameterSetsFirst units := by
  obtain ⟨offset, rest, hextract, hdrop, hperm⟩ := h
  rw [extract_joined hsps] at hextract
  cases hextract
  rw [joined_split units, drop_left] at hdrop
  have hlen := (hperm.flatMap_right NalUnit.bytes).length_eq
  rw [← joined, ← joined, joined_append, ← hdrop, filter_split, joined_append, joined_split units]
    at hlen
  simp only [length_append] at hlen
  intro unit hmem
  by_contra hset
  have hne := joined_ne_nil (mem_filter.mpr ⟨hmem, eq_true_of_ne_false hset⟩)
  have := length_pos_of_ne_nil hne
  omega

/-- **Splitting a key frame.** The parameter sets and the rest are the units of the frame, each
once, exactly if no parameter set comes after a unit of another kind. -/
theorem splits_iff (hsps : ∃ unit ∈ units, unit.nalType = 7) :
    Splits units ↔ ParameterSetsFirst units := by
  refine ⟨.of_splits hsps, fun h => ?_⟩
  have hnil : (units.dropWhile isParameterSet).filter isParameterSet = [] :=
    filter_eq_nil_iff.mpr fun unit hmem => ne_true_of_eq_false (h unit hmem)
  refine ⟨_, units.dropWhile isParameterSet, extract_joined hsps, ?_, ?_⟩
  · rw [joined_split units, drop_left]
  · rw [filter_split, hnil, append_nil, takeWhile_append_dropWhile]

lemma noCode_single {header} (h : header ≠ 0) : NoCode [header] :=
  ⟨fun hpart => (nomatch hpart.length_le), fun hpart => (nomatch hpart.length_le),
    fun hlast => h (Option.some.inj hlast)⟩

def bare (header : UInt8) (h : header ≠ 0) : NalUnit := ⟨.four, header, [], noCode_single h⟩

theorem splits_iff_idr : Splits [bare 0x67 nofun, bare 0x68 nofun, bare 0x65 nofun] :=
  (splits_iff ⟨_, .head _, rfl⟩).mpr (by unfold ParameterSetsFirst; decide)

/-- An access unit delimiter before the parameter sets. -/
theorem delimiter_not_split :
    let units := [bare 0x09 nofun, bare 0x67 nofun, bare 0x68 nofun, bare 0x65 nofun]
    extractSpsPpsFromAnnexb (joined units) = some ((joined units).drop 5 |>.take 10, 0) ∧
      ¬ Splits units := by
  intro units
  have hsps : ∃ unit ∈ units, unit.nalType = 7 := ⟨_, .tail _ (.head _), rfl⟩
  refine ⟨by rw [extract_joined hsps]; rfl, fun h => ?_⟩
  have hf := ParameterSetsFirst.of_splits hsps h
  unfold ParameterSetsFirst at hf
  revert hf
  decide

end LiveKit.Ohos
