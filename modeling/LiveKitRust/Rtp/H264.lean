import LiveKitRust.Rtp.Packetizer
import Mathlib.Data.List.Forall2

/-!
# H.264 frames and back

A frame is a list of NAL units with start codes between them (`annexB`). A NAL unit is such that a
start code cannot be found in it, and its type is that of a single one (`Nalu`). `depacketize` is
what a receiver does by RFC 6184 with single NAL units and FU-A fragments, and it is strict:
fragments out of place are not taken.

`packH264Frame_reversible` has three parts: the scanner finds the units again, because it is at a
start code only between them (`splitAnnexbNalus_annexB`); the fragments of each unit are put
together again (`depacketize_packH264Nalu`), by induction on its chunks; the unit that is to carry
the marker is the last picture (`packH264Frame_of_last`).
-/

open Fragments List

namespace LiveKit.Rtp

/-! ### NAL units -/

/-- There is no start code in the bytes, and none can arise with what comes after them. -/
structure NoCode (bytes : Bytes) : Prop where
  not_zero : ¬ [0, 0, 0] <:+: bytes
  not_one : ¬ [0, 0, 1] <:+: bytes
  last_ne : bytes.getLast? ≠ some 0

structure Nalu where
  header : UInt8
  body : Bytes
  one_le_type : 1 ≤ naluType header
  type_le : naluType header ≤ 23
  noCode_bytes : NoCode (header :: body)

namespace Nalu

def bytes (self : Nalu) : Bytes := self.header :: self.body

variable (s : Nalu)

lemma noCode : NoCode s.bytes := s.noCode_bytes

/-- It is part of a coded picture. -/
def IsVcl (self : Nalu) : Prop := 1 ≤ naluType self.header ∧ naluType self.header ≤ 5

lemma isPicture_iff : isPicture s.bytes = true ↔ s.IsVcl := by
  simp [bytes, isPicture, IsVcl]

end Nalu

inductive StartCode where
  | three
  | four

def StartCode.bytes : StartCode → Bytes
  | three => [0, 0, 1]
  | four => [0, 0, 0, 1]

def annexB (units : List (StartCode × Nalu)) : Bytes :=
  units.flatMap fun unit => unit.1.bytes ++ unit.2.bytes

/-! ### The scanner -/

variable {byte : UInt8} {bytes : Bytes} {cs : List Bytes} {frag : RtpFragment}
  (marked : List (Nalu × Bool))

lemma NoCode.tail (h : NoCode (byte :: bytes)) : NoCode bytes := by
  refine ⟨fun hpart => h.not_zero (hpart.trans (suffix_cons ..).isInfix),
    fun hpart => h.not_one (hpart.trans (suffix_cons ..).isInfix), fun hlast => ?_⟩
  cases bytes with
  | nil => cases hlast
  | cons => exact h.last_ne hlast

lemma startCodeLen_of_ne {a} (h : a ≠ 0) (rest : Bytes) : startCodeLen (a :: rest) = 0 := by
  unfold startCodeLen
  split
  next heq =>
    cases heq
    exact if_neg fun hzero => h hzero.1
  · rfl

lemma startCodeLen_of_snd_ne {b} (h : b ≠ 0) (a : UInt8) (rest : Bytes) :
    startCodeLen (a :: b :: rest) = 0 := by
  unfold startCodeLen
  split
  next heq =>
    cases heq
    exact if_neg fun hzero => h hzero.2
  · rfl

lemma startCodeLen_of_trd_ne {c} (hone : c ≠ 1) (hzero : c ≠ 0) (a b : UInt8) (rest : Bytes) :
    startCodeLen (a :: b :: c :: rest) = 0 := by
  unfold startCodeLen
  dsimp only
  rw [if_neg hone, ite_eq_right_iff]
  intro _
  cases rest with
  | nil => rfl
  | cons => exact if_neg fun h => hzero h.1

lemma NoCode.startCodeLen_append (h : NoCode (byte :: bytes))
    (rest : Bytes) : startCodeLen (byte :: bytes ++ rest) = 0 := by
  -- by how much of the unit is left
  cases bytes with
  | nil => exact startCodeLen_of_ne (fun hzero => h.last_ne (congrArg some hzero)) rest
  | cons b bytes =>
    cases bytes with
    | nil => exact startCodeLen_of_snd_ne (fun hzero => h.last_ne (congrArg some hzero)) _ rest
    | cons c bytes =>
      by_cases hf : byte = 0
      · by_cases hsecond : b = 0
        · subst hf hsecond
          have hpart : [0, 0, c] <:+: 0 :: 0 :: c :: bytes := ⟨[], bytes, rfl⟩
          refine startCodeLen_of_trd_ne ?_ ?_ 0 0 _
          · rintro rfl
            exact h.not_one hpart
          · rintro rfl
            exact h.not_zero hpart
        · exact startCodeLen_of_snd_ne hsecond _ _
      · exact startCodeLen_of_ne hf _

lemma scan_append (h : NoCode bytes) (read rest : Bytes) :
    scan (some read) (bytes ++ rest) = scan (some (read ++ bytes)) rest := by
  induction bytes generalizing read with
  | nil => rw [nil_append, append_nil]
  | cons _ _ ih =>
    have hn := h.startCodeLen_append rest
    rw [cons_append] at hn ⊢
    rw [scan, if_pos hn, Option.map_some, ih h.tail, append_assoc, singleton_append]

lemma scan_startCode (code : StartCode) (nalu) (rest : Bytes) :
    scan nalu (code.bytes ++ rest) = flush nalu ++ scan (some []) rest := by
  cases code with
  | three =>
    show scan nalu (0 :: 0 :: 1 :: rest) = _
    rw [scan]
    rfl
  | four =>
    show scan nalu (0 :: 0 :: 0 :: 1 :: rest) = _
    rw [scan]
    rfl

lemma scan_annexB (units nalu) :
    scan nalu (annexB units) = flush nalu ++ units.map fun unit => unit.2.bytes := by
  induction units generalizing nalu with
  | nil =>
    show scan nalu [] = _
    rw [scan, map_nil, append_nil]
  | cons unit units ih =>
    show scan nalu (unit.1.bytes ++ unit.2.bytes ++ annexB units) = _
    rw [append_assoc, scan_startCode, scan_append unit.2.noCode, nil_append, ih]
    rfl

lemma splitAnnexbNalus_annexB (units) :
    splitAnnexbNalus (annexB units) = units.map fun unit => unit.2.bytes := by
  unfold splitAnnexbNalus
  rw [scan_annexB]
  cases units with
  | nil | cons => rfl

/-! ### The receiver -/

/-- RFC 6184 depacketization: `pending` is what has come of a fragmented NAL unit. -/
def depacketize (pending : Option Bytes) : List Bytes → Option (List Bytes)
  | [] =>
    match pending with
    | none => some []
    | some _ => none
  | [] :: _ => none
  | (indicator :: body) :: payloads =>
    if 1 ≤ naluType indicator ∧ naluType indicator ≤ 23 then
      -- a single NAL unit
      match pending with
      | none => (depacketize none payloads).map ((indicator :: body) :: ·)
      | some _ => none
    else if naluType indicator = 28 then
      match body with
      | [] => none
      | fuHeader :: chunk =>
        let start := fuHeader &&& 0x80 ≠ 0
        let last := fuHeader &&& 0x40 ≠ 0
        match pending with
        | none =>
          -- the start and end bits must not both be set
          if start ∧ ¬ last then
            depacketize (some (((indicator &&& 0xE0) ||| naluType fuHeader) :: chunk)) payloads
          else none
        | some nalu =>
          if start then none
          else if last then (depacketize none payloads).map ((nalu ++ chunk) :: ·)
          else depacketize (some (nalu ++ chunk)) payloads
    else none

variable (header : UInt8) (marker : Bool)

def fuIndicator : UInt8 := (header &&& 0xE0) ||| H264_NAL_TYPE_FU_A

def fuHeader (isFirst isLast : Bool) : UInt8 :=
  let fuHeader := naluType header
  let fuHeader := if isFirst then fuHeader ||| 0x80 else fuHeader
  if isLast then fuHeader ||| 0x40 else fuHeader

variable (isFirst isLast : Bool)

lemma payload_fuaFragment (chunk : Bytes) :
    (fuaFragment header marker isFirst isLast chunk).payload =
      fuIndicator header :: fuHeader header isFirst isLast :: chunk := rfl

lemma naluType_fuIndicator : naluType (fuIndicator header) = 28 := by
  revert header
  exact forall_byte (by decide +kernel)

lemma fuIndicator_not_single :
    ¬ (1 ≤ naluType (fuIndicator header) ∧ naluType (fuIndicator header) ≤ 23) := by
  rw [naluType_fuIndicator]
  decide

lemma start_fuHeader : fuHeader header isFirst isLast &&& 0x80 ≠ 0 ↔ isFirst = true := by
  revert header isFirst isLast
  exact forall_byte (by decide +kernel)

lemma end_fuHeader : fuHeader header isFirst isLast &&& 0x40 ≠ 0 ↔ isLast = true := by
  revert header isFirst isLast
  exact forall_byte (by decide +kernel)

lemma restore_header :
    (fuIndicator header &&& 0xE0) ||| naluType (fuHeader header isFirst isLast) = header := by
  revert header isFirst isLast
  exact forall_byte (by decide +kernel)

variable {header marker}

lemma depacketize_labelled (h : cs ≠ []) (nalu payloads) :
    depacketize (some nalu)
        ((labelled (fuaFragment header marker) false cs).map RtpFragment.payload ++ payloads) =
      (depacketize none payloads).map ((nalu ++ cs.flatten) :: ·) := by
  -- a chunk that is not the first
  have hstep (isLast : Bool) (nalu chunk : Bytes) (payloads : List Bytes) :
      depacketize (some nalu) ((fuIndicator header :: fuHeader header false isLast :: chunk) ::
          payloads) =
        if isLast then (depacketize none payloads).map ((nalu ++ chunk) :: ·)
        else depacketize (some (nalu ++ chunk)) payloads := by
    rw [depacketize, if_neg (fuIndicator_not_single header), if_pos (naluType_fuIndicator header)]
    dsimp only
    rw [if_neg (by rw [start_fuHeader]; exact Bool.false_ne_true)]
    exact if_congr (end_fuHeader ..) rfl rfl
  induction cs generalizing nalu with
  | nil => exact absurd rfl h
  | cons _ cs ih =>
    cases cs with
    | nil =>
      rw [labelled, map_singleton, payload_fuaFragment, singleton_append, hstep]
      simp
    | cons =>
      rw [labelled, map_cons, payload_fuaFragment, cons_append, hstep,
        if_neg Bool.false_ne_true, ih (cons_ne_nil _ _), append_assoc]
      rfl

/-! ### The fragments of a NAL unit -/

/-- What becomes of a NAL unit: a packet of its own, or at least two fragments. -/
inductive Packed (nalu : Nalu) (marker : Bool) : List RtpFragment → Prop where
  | single (h : nalu.bytes.length ≤ MAX_RTP_PAYLOAD_SIZE) :
    Packed nalu marker [⟨nalu.bytes, marker⟩]
  | fua (chunk next : Bytes) (chunks : List Bytes)
    (h_body : (chunk :: next :: chunks).flatten = nalu.body)
    (h_sizes : ∀ chunk' ∈ chunk :: next :: chunks, chunk'.length ≤ MAX_RTP_PAYLOAD_SIZE - 2) :
    Packed nalu marker (labelled (fuaFragment nalu.header marker) true (chunk :: next :: chunks))

lemma packed_packH264Nalu (nalu : Nalu) (marker : Bool) :
    Packed nalu marker (packH264Nalu nalu.bytes marker) := by
  unfold packH264Nalu
  rw [if_neg (by rw [Nalu.bytes, length_cons]; exact Nat.succ_ne_zero _)]
  split
  next hle => exact .single hle
  next hgt =>
    have hsize : 0 < MAX_RTP_PAYLOAD_SIZE - 2 := by decide
    obtain ⟨cs, hcut, hflatten, hsizes⟩ :=
      exists_chunks hsize (fuaFragment nalu.header marker) true nalu.body
    rw [Nalu.bytes, packH264Fua, hcut]
    rw [Nalu.bytes, length_cons, ← hflatten, MAX_RTP_PAYLOAD_SIZE] at hgt
    -- it does not fit into one chunk
    cases cs with
    | nil => exact absurd (Nat.succ_le_of_lt (by decide)) hgt
    | cons c cs =>
      cases cs with
      | nil =>
        have hone := (hsizes c (mem_singleton_self _)).2
        rw [MAX_RTP_PAYLOAD_SIZE] at hone
        rw [flatten_singleton] at hgt
        omega
      | cons next cs =>
        exact .fua c next cs hflatten fun chunk' hm => (hsizes chunk' hm).2

variable {nalu : Nalu} {fragments : List RtpFragment}

lemma Packed.length_le (h : Packed nalu marker fragments) :
    ∀ frag ∈ fragments, frag.payload.length ≤ MAX_RTP_PAYLOAD_SIZE := by
  intro _ hm
  cases h with
  | single h =>
    rw [mem_singleton.mp hm]
    exact h
  | fua _ _ _ _ hsizes =>
    obtain ⟨_, _, chunk', hchunk, rfl⟩ := mem_labelled hm
    have hsize := hsizes chunk' hchunk
    rw [payload_fuaFragment, length_cons, length_cons]
    rw [MAX_RTP_PAYLOAD_SIZE] at hsize ⊢
    omega

lemma Packed.depacketize (h : Packed nalu marker fragments) (payloads) :
    Rtp.depacketize none (fragments.map RtpFragment.payload ++ payloads) =
      (Rtp.depacketize none payloads).map (nalu.bytes :: ·) := by
  cases h with
  | single =>
    exact if_pos ⟨nalu.one_le_type, nalu.type_le⟩
  | fua _ _ _ hbody =>
    rw [labelled, map_cons, payload_fuaFragment, cons_append, depacketize,
      if_neg (fuIndicator_not_single _), if_pos (naluType_fuIndicator _)]
    dsimp only
    rw [if_pos ⟨(start_fuHeader ..).mpr rfl, (end_fuHeader ..).not.mpr Bool.false_ne_true⟩,
      restore_header, depacketize_labelled (cons_ne_nil _ _), Nalu.bytes, ← hbody]
    rfl

/-- The start bit is on the first fragment and the end bit on the last one. -/
def Delimited (fragments : List RtpFragment) : Prop :=
  ∀ i fragment, fragments[i]? = some fragment →
    ∃ indicator header chunk, fragment.payload = indicator :: header :: chunk ∧
      naluType indicator = 28 ∧ (header &&& 0x80 ≠ 0 ↔ i = 0) ∧
        (header &&& 0x40 ≠ 0 ↔ i + 1 = fragments.length)

lemma Packed.delimited (h : Packed nalu marker fragments) :
    fragments = [⟨nalu.bytes, marker⟩] ∨ Delimited fragments := by
  cases h with
  | single => exact .inl rfl
  | fua =>
    refine .inr fun i frag hfragment => ?_
    obtain ⟨chunk', -, rfl⟩ := getElem?_labelled hfragment
    refine ⟨_, _, chunk', payload_fuaFragment .., naluType_fuIndicator _, ?_, ?_⟩
    · rw [start_fuHeader, Bool.true_and, decide_eq_true_iff]
    · rw [end_fuHeader, decide_eq_true_iff, length_labelled]

lemma labelled_marker (h : cs ≠ []) (isFirst : Bool) :
    ∃ first last, labelled (fuaFragment header marker) isFirst cs = first ++ [last] ∧
      last.marker = marker ∧ ∀ frag ∈ first, frag.marker = false := by
  induction cs generalizing isFirst with
  | nil => exact absurd rfl h
  | cons _ cs ih =>
    cases cs with
    | nil => exact ⟨[], _, rfl, Bool.true_and _, nofun⟩
    | cons =>
      obtain ⟨first, last, heq, hlast, hf⟩ := ih (cons_ne_nil _ _) false
      exact ⟨_ :: first, last, congrArg _ heq, hlast,
        forall_mem_cons.mpr ⟨Bool.false_and marker, hf⟩⟩

lemma Packed.marker_eq (h : Packed nalu marker fragments) :
    ∃ first last, fragments = first ++ [last] ∧ last.marker = marker ∧
      ∀ frag ∈ first, frag.marker = false := by
  cases h with
  | single => exact ⟨[], _, rfl, rfl, nofun⟩
  | fua => exact labelled_marker (cons_ne_nil _ _) true

/-! ### The fragments of a frame -/

def packAll (marked : List (Nalu × Bool)) : List RtpFragment :=
  marked.flatMap fun unit => packH264Nalu unit.1.bytes unit.2

lemma packAll_append (marked marked') :
    packAll (marked ++ marked') = packAll marked ++ packAll marked' := flatMap_append

lemma length_le_of_mem_packAll {marked} (h : frag ∈ packAll marked) :
    frag.payload.length ≤ MAX_RTP_PAYLOAD_SIZE := by
  obtain ⟨unit, -, hm⟩ := mem_flatMap.mp h
  exact (packed_packH264Nalu unit.1 unit.2).length_le frag hm

lemma depacketize_packAll : depacketize none ((packAll marked).map RtpFragment.payload) =
      some (marked.map fun unit => unit.1.bytes) := by
  induction marked with
  | nil => rfl
  | cons unit marked ih =>
    show depacketize none ((packH264Nalu unit.1.bytes unit.2 ++ packAll marked).map _) = _
    rw [map_append, (packed_packH264Nalu unit.1 unit.2).depacketize, ih]
    rfl

lemma marker_of_mem_packAll {nalus : List Nalu}
    (h : frag ∈ packAll (nalus.map (·, false))) : frag.marker = false := by
  obtain ⟨_, hunit, hm⟩ := mem_flatMap.mp h
  obtain ⟨nalu, -, rfl⟩ := mem_map.mp hunit
  obtain ⟨_, _, heq, hlast, hf⟩ := (packed_packH264Nalu nalu false).marker_eq
  rw [heq, mem_append, mem_singleton] at hm
  rcases hm with hm | rfl
  · exact hf frag hm
  · exact hlast

lemma findSome?_zipIdx_eq_none {nalus : List Bytes} (h : ∀ nalu ∈ nalus, isPicture nalu = false)
    (k : ℕ) : (nalus.zipIdx k).reverse.findSome?
      (fun entry => if isPicture entry.1 then some entry.2 else none) = none := by
  rw [findSome?_eq_none_iff]
  intro entry hm
  have he := fst_mem_of_mem_zipIdx (mem_reverse.mp hm)
  exact if_neg (Bool.eq_false_iff.mp (h entry.1 he))

lemma findLastPictureNalu_of_last {pre after : List Bytes} {nalu : Bytes}
    (h : isPicture nalu = true) (ha : ∀ later ∈ after, isPicture later = false) :
    findLastPictureNalu (pre ++ nalu :: after) = some pre.length := by
  unfold findLastPictureNalu
  rw [zipIdx_append, zipIdx_cons, reverse_append, reverse_cons, findSome?_append, findSome?_append,
    findSome?_zipIdx_eq_none ha, Option.none_or]
  simp [h]

lemma flatMap_zipIdx (lastPictureIdx : Option ℕ) (nalus : List Nalu) {k}
    (h : ∀ i, k ≤ i → i < k + nalus.length → some i ≠ lastPictureIdx) :
    ((nalus.map Nalu.bytes).zipIdx k).flatMap
        (fun entry => packH264Nalu entry.1 (some entry.2 = lastPictureIdx)) =
      packAll (nalus.map (·, false)) := by
  induction nalus generalizing k with
  | nil => rfl
  | cons _ _ ih =>
    rw [map_cons, zipIdx_cons, flatMap_cons, ih fun i hle hlt =>
      h i (Nat.le_of_succ_le hle) (by rw [length_cons]; omega)]
    rw [decide_eq_false (h k (Nat.le_refl k) (by rw [length_cons]; omega))]
    rfl

variable {units pre after : List (StartCode × Nalu)} {unit : StartCode × Nalu}

lemma packH264Frame_of_none (h : ∀ unit ∈ units, ¬ unit.2.IsVcl) :
    packH264Frame (annexB units) = packAll ((units.map Prod.snd).map (·, false)) := by
  have hn : findLastPictureNalu (units.map fun unit => unit.2.bytes) = none := by
    refine findSome?_zipIdx_eq_none (forall_mem_map.mpr fun unit hunit => ?_) 0
    exact Bool.eq_false_iff.mpr (unit.2.isPicture_iff.not.mpr (h unit hunit))
  unfold packH264Frame
  rw [splitAnnexbNalus_annexB]
  dsimp only
  rw [hn, ← flatMap_zipIdx (k := 0) none (units.map Prod.snd) fun i _ _ =>
    Option.some_ne_none i, map_map]
  rfl

lemma packH264Frame_of_last (h : unit.2.IsVcl) (ha : ∀ later ∈ after, ¬ later.2.IsVcl) :
    packH264Frame (annexB (pre ++ unit :: after)) =
      packAll ((pre.map Prod.snd).map (·, false)) ++ packH264Nalu unit.2.bytes true ++
        packAll ((after.map Prod.snd).map (·, false)) := by
  have hlast : findLastPictureNalu ((pre ++ unit :: after).map fun unit => unit.2.bytes) =
      some pre.length := by
    rw [map_append, map_cons, findLastPictureNalu_of_last (unit.2.isPicture_iff.mpr h), length_map]
    refine forall_mem_map.mpr fun later hla => ?_
    exact Bool.eq_false_iff.mpr (later.2.isPicture_iff.not.mpr (ha later hla))
  unfold packH264Frame
  rw [splitAnnexbNalus_annexB]
  dsimp only
  have hbef := flatMap_zipIdx (k := 0) (some pre.length) (pre.map Prod.snd)
    fun i _ hlt heq => by
      rw [length_map, Option.some.inj heq] at hlt
      omega
  have hr := flatMap_zipIdx (k := 0 + pre.length + 1) (some pre.length)
    (after.map Prod.snd) fun i hle _ heq => by
      rw [Option.some.inj heq] at hle
      omega
  rw [map_map] at hbef hr
  rw [hlast, map_append, map_cons, zipIdx_append, zipIdx_cons,
    flatMap_append, flatMap_cons, length_map]
  rw [← hbef, ← hr, append_assoc]
  simp only [Nat.zero_add, decide_true]
  rfl

lemma exists_marked (units) :
    ∃ marked, packH264Frame (annexB units) = packAll marked ∧
      marked.map Prod.fst = units.map Prod.snd := by
  refine ⟨(units.map Prod.snd).zipIdx.map fun entry => (entry.1, decide
    (some entry.2 = findLastPictureNalu (units.map fun unit => unit.2.bytes))), ?_, ?_⟩
  · unfold packH264Frame packAll
    rw [splitAnnexbNalus_annexB, flatMap_map]
    have hnalus : (units.map fun unit => unit.2.bytes) = (units.map Prod.snd).map Nalu.bytes := by
      rw [map_map]
      rfl
    dsimp only
    rw [hnalus, zipIdx_map, flatMap_map]
    rfl
  · rw [map_map]
    exact zipIdx_map_fst 0 _

/-! ### Reversibility -/

structure Reversible (units : List (StartCode × Nalu)) (fragments : List RtpFragment) : Prop where
  depacketized : depacketize none (fragments.map RtpFragment.payload) =
    some (units.map fun unit => unit.2.bytes)
  length_le : ∀ fragment ∈ fragments, fragment.payload.length ≤ MAX_RTP_PAYLOAD_SIZE
  /-- Each unit has fragments of its own: one that is the unit, or some with start and end. -/
  groups : ∃ groups, fragments = groups.flatten ∧ List.Forall₂ (fun unit group =>
    depacketize none (group.map RtpFragment.payload) = some [unit.2.bytes] ∧
      ((∃ marker, group = [⟨unit.2.bytes, marker⟩]) ∨ Delimited group)) units groups
  /-- One fragment has the marker, the last one of the last unit of a picture. -/
  marker : ∀ before unit after, units = before ++ unit :: after → unit.2.IsVcl →
    (∀ later ∈ after, ¬ later.2.IsVcl) →
      ∃ first last rest, fragments = first ++ last :: rest ∧ last.marker = true ∧
        (∀ fragment ∈ first ++ rest, fragment.marker = false) ∧
          depacketize none ((first ++ [last]).map RtpFragment.payload) =
            some ((before ++ [unit]).map fun unit => unit.2.bytes)
  no_marker : (∀ unit ∈ units, ¬ unit.2.IsVcl) → ∀ fragment ∈ fragments, fragment.marker = false

lemma depacketize_packH264Nalu (nalu : Nalu) (marker : Bool) :
    depacketize none ((packH264Nalu nalu.bytes marker).map RtpFragment.payload) =
      some [nalu.bytes] := by
  have hpacked := (packed_packH264Nalu nalu marker).depacketize []
  rwa [append_nil] at hpacked

lemma forall₂_groups :
    List.Forall₂ (fun nalu group => depacketize none (group.map RtpFragment.payload) =
        some [nalu.bytes] ∧ ((∃ marker, group = [⟨nalu.bytes, marker⟩]) ∨ Delimited group))
      (marked.map Prod.fst) (marked.map fun unit => packH264Nalu unit.1.bytes unit.2) := by
  rw [forall₂_map_left_iff, forall₂_map_right_iff, forall₂_same]
  intro unit _
  refine ⟨depacketize_packH264Nalu unit.1 unit.2, ?_⟩
  exact (packed_packH264Nalu unit.1 unit.2).delimited.imp_left fun h => ⟨unit.2, h⟩

/-- **H.264 packetization is reversible**, for all NAL units and all mixes of start codes. -/
theorem packH264Frame_reversible (units : List (StartCode × Nalu)) :
    Reversible units (packH264Frame (annexB units)) := by
  obtain ⟨marked, hf, hmarked⟩ := exists_marked units
  have hbytes : (marked.map fun unit => unit.1.bytes) = units.map fun unit => unit.2.bytes := by
    have hmap := congrArg (map Nalu.bytes) hmarked
    rwa [map_map, map_map] at hmap
  refine ⟨?_, ?_, ?_, ?_, ?_⟩
  · rw [hf, depacketize_packAll, hbytes]
  · rw [hf]
    exact fun fragment hm => length_le_of_mem_packAll hm
  · refine ⟨marked.map fun unit => packH264Nalu unit.1.bytes unit.2, ?_, ?_⟩
    · rw [hf, packAll, flatMap_def]
    have hgroups := forall₂_groups marked
    rw [hmarked, forall₂_map_left_iff] at hgroups
    exact hgroups
  · rintro before unit after rfl hvcl ha
    obtain ⟨first, last, hnalu, hlast, hfirst⟩ := (packed_packH264Nalu unit.2 true).marker_eq
    refine ⟨packAll ((before.map Prod.snd).map (·, false)) ++ first, last,
      packAll ((after.map Prod.snd).map (·, false)), ?_, hlast, ?_, ?_⟩
    · rw [packH264Frame_of_last hvcl ha, hnalu]
      simp only [append_assoc, singleton_append]
    · simp only [forall_mem_append]
      exact ⟨⟨fun _ => marker_of_mem_packAll, hfirst⟩, fun _ => marker_of_mem_packAll⟩
    · -- these are the fragments of the units up to this one
      have hupTo := depacketize_packAll ((before.map Prod.snd).map (·, false) ++ [(unit.2, true)])
      have hunit : packAll [(unit.2, true)] = first ++ [last] := by
        rw [packAll, flatMap_singleton, hnalu]
      rw [packAll_append, hunit] at hupTo
      rw [append_assoc, hupTo, map_append, map_append, map_map, map_map]
      rfl
  · intro hn _ hm
    rw [packH264Frame_of_none hn] at hm
    exact marker_of_mem_packAll hm

end LiveKit.Rtp
