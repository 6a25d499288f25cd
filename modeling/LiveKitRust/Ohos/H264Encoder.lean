import LiveKitRust.Base.Bytes

/-!
# The output of the H.264 encoder (`ohos/h264_encoder.rs`)

The encoder gives a frame in Annex-B form, with start codes, or in AVCC form, with lengths, and
does not say which. `on_new_output_buffer` judges by the first bytes, where a length of 1 or of
256 to 511 looks like a start code; such a frame is queued as it is (`queued_annexB_iff`).
-/

open Rust List

namespace LiveKit.Ohos

def startCode : List UInt8 := [0, 0, 0, 1]

def isAnnexbFormat (data : List UInt8) : Bool :=
  startCode.isPrefixOf data || [0, 0, 1].isPrefixOf data

def avccToAnnexb (data : List UInt8) : List UInt8 :=
  if data.length < 4 then []
  else
    let naluLen := beNat (data.take 4)
    let rest := data.drop 4
    if naluLen = 0 ∨ rest.length < naluLen then []
    else startCode ++ rest.take naluLen ++ avccToAnnexb (rest.drop naluLen)
termination_by data.length

/-- The loop over the parameter sets of one kind, and what comes after them. -/
def parameterSets : ℕ → List UInt8 → Option (List UInt8 × List UInt8)
  | 0, data => some ([], data)
  | n + 1, data =>
    let rest := data.drop 2
    let len := beNat (data.take 2)
    if data.length < 2 ∨ rest.length < len then none
    else (parameterSets n (rest.drop len)).map fun sets =>
      (startCode ++ rest.take len ++ sets.1, sets.2)

def avccExtradataToAnnexb (data : List UInt8) : Option (List UInt8) :=
  if data.length < 7 ∨ data.head? ≠ some 1 then none
  else do
    let sps ← parameterSets (data.getD 5 0 &&& 0x1F).toNat (data.drop 6)
    let numPps ← sps.2.head?
    let pps ← parameterSets numPps.toNat sps.2.tail
    return sps.1 ++ pps.1

structure EncodedPacket where
  data : List UInt8
  timestampUs : ℤ
  isKeyFrame : Bool

structure EncoderUserData where
  codecData : List UInt8
  outputQueue : List EncodedPacket

namespace EncoderUserData

variable (self : EncoderUserData)

/-- A conversion that gives nothing is taken back. -/
def convert (buf : List UInt8) : List UInt8 :=
  if isAnnexbFormat buf then buf
  else if avccToAnnexb buf = [] then buf else avccToAnnexb buf

def onNewOutputBuffer (buf : List UInt8) (pts : ℤ) (isCodecData isKey : Bool) : EncoderUserData :=
  if buf = [] then self
  else if isCodecData then
    { self with
      codecData := if isAnnexbFormat buf then buf else (avccExtradataToAnnexb buf).getD buf }
  else
    let data := if isKey then self.codecData ++ convert buf else convert buf
    let queue := if 64 ≤ self.outputQueue.length then self.outputQueue.tail else self.outputQueue
    { self with outputQueue := queue ++ [⟨data, pts, isKey⟩] }

/-- What a frame is queued as, without the parameter sets before a key frame. -/
def Queued (buf data : List UInt8) : Prop := ∀ (self : EncoderUserData) (pts : ℤ) (isKey : Bool),
  (self.onNewOutputBuffer buf pts false isKey).outputQueue.getLast? =
    some ⟨(if isKey then self.codecData else []) ++ data, pts, isKey⟩

end EncoderUserData

open EncoderUserData

def avcc (units : List (List UInt8)) : List UInt8 :=
  units.flatMap fun unit => beBytes 4 unit.length ++ unit

def annexB (units : List (List UInt8)) : List UInt8 := units.flatMap (startCode ++ ·)

lemma queued_iff {buf data} (h : buf ≠ []) : Queued buf data ↔ convert buf = data := by
  have hlast : ∀ (self : EncoderUserData) (pts : ℤ) (isKey : Bool),
      (self.onNewOutputBuffer buf pts false isKey).outputQueue.getLast? =
        some ⟨(if isKey then self.codecData else []) ++ convert buf, pts, isKey⟩ := by
    intro self pts isKey
    rw [onNewOutputBuffer, if_neg h, if_neg Bool.false_ne_true, getLast?_concat]
    cases isKey with
    | false => rfl
    | true => rfl
  constructor
  · intro hqueued
    have heq := (hlast ⟨[], []⟩ 0 false).symm.trans (hqueued ⟨[], []⟩ 0 false)
    exact (EncodedPacket.mk.inj (Option.some.inj heq)).1
  · rintro rfl
    exact hlast

lemma isAnnexbFormat_length_iff {n} (h : n < 2 ^ 32) (rest) :
    isAnnexbFormat (beBytes 4 n ++ rest) ↔ n = 1 ∨ 256 ≤ n ∧ n ≤ 511 := by
  simp only [isAnnexbFormat, startCode, beBytes, cons_append, isPrefixOf_cons_cons,
    isPrefixOf_nil_left, Bool.or_eq_true, Bool.and_eq_true, beq_iff_eq, ← UInt8.toNat_inj,
    UInt8.toNat_ofNat', UInt8.toNat_ofNat, and_true, Nat.reducePow]
  omega

variable {unit : List UInt8} {units : List (List UInt8)}

lemma beNat_length (h : unit.length < 2 ^ 32) : beNat (beBytes 4 unit.length) = unit.length :=
  (beNat_beBytes 4 _).trans (Nat.mod_eq_of_lt h)

lemma avccToAnnexb_avcc (h : ∀ unit ∈ units, unit ≠ [] ∧ unit.length < 2 ^ 32) :
    avccToAnnexb (avcc units) = annexB units := by
  induction units with
  | nil => rw [avccToAnnexb]; rfl
  | cons unit units ih =>
    obtain ⟨hne, hlt⟩ := h unit (.head _)
    have htake : (avcc (unit :: units)).take 4 = beBytes 4 unit.length := rfl
    have hdrop : (avcc (unit :: units)).drop 4 = unit ++ avcc units := rfl
    have hlong : ¬ (avcc (unit :: units)).length < 4 := by
      simp [avcc]
    have hwhole : ¬ (unit.length = 0 ∨ (unit ++ avcc units).length < unit.length) := by
      simp [hne]
    rw [avccToAnnexb, if_neg hlong, htake, hdrop, beNat_length hlt]
    dsimp only
    rw [if_neg hwhole, take_left, drop_left, ih fun u hu => h u (mem_cons_of_mem unit hu)]
    rfl

lemma avcc_eq_annexB_iff (h : ∀ unit ∈ units, unit.length < 2 ^ 32) :
    avcc units = annexB units ↔ ∀ unit ∈ units, unit.length = 1 := by
  induction units with
  | nil => simp [avcc, annexB]
  | cons unit units ih =>
    have hone : beBytes 4 unit.length = startCode ↔ unit.length = 1 := by
      constructor
      · intro heq
        have hnat := congrArg beNat heq
        rwa [beNat_length (h unit (.head _))] at hnat
      · intro heq
        rw [heq]
        rfl
    rw [forall_mem_cons, ← hone, ← ih fun u hu => h u (mem_cons_of_mem unit hu), avcc, annexB,
      flatMap_cons, flatMap_cons, append_assoc, append_assoc]
    constructor
    · intro heq
      obtain ⟨hcode, hr⟩ := append_inj heq (length_beBytes 4 _)
      exact ⟨hcode, append_cancel_left hr⟩
    · rintro ⟨hcode, hr⟩
      rw [hcode]
      exact congrArg (fun rest => startCode ++ (unit ++ rest)) hr

/-- **Normalisation.** A frame in AVCC form is queued in Annex-B form, and one in Annex-B form
as it is, if and only if the length of the first unit does not look like a start code, except
that nothing is to be done if all units have one byte. -/
theorem queued_annexB_iff (first : List UInt8) (units : List (List UInt8))
    (h : ∀ unit ∈ first :: units, unit ≠ [] ∧ unit.length < 2 ^ 32) :
    (Queued (avcc (first :: units)) (annexB (first :: units)) ∧
        ∀ buf, isAnnexbFormat buf → Queued buf buf) ↔
      (first.length = 1 → ∀ unit ∈ units, unit.length = 1) ∧
        ¬ (256 ≤ first.length ∧ first.length ≤ 511) := by
  have hannexB : ∀ buf, isAnnexbFormat buf → Queued buf buf := by
    intro buf hbuf
    refine (queued_iff ?_).mpr (if_pos hbuf)
    rintro rfl
    cases hbuf
  have hlooks : isAnnexbFormat (avcc (first :: units)) ↔
      first.length = 1 ∨ 256 ≤ first.length ∧ first.length ≤ 511 := by
    rw [avcc, flatMap_cons, append_assoc]
    exact isAnnexbFormat_length_iff (h first (.head _)).2 _
  have hsame := avcc_eq_annexB_iff fun unit hm => (h unit hm).2
  rw [and_iff_left hannexB, queued_iff (by simp [avcc, beBytes]), convert]
  by_cases hformat : isAnnexbFormat (avcc (first :: units))
  · -- the frame is queued as it is
    rw [if_pos hformat, hsame, forall_mem_cons]
    have hcases := hlooks.mp hformat
    constructor
    · rintro ⟨hone, hall⟩
      exact ⟨fun _ => hall, by omega⟩
    · rintro ⟨hall, hlong⟩
      have hone := hcases.resolve_right hlong
      exact ⟨hone, hall hone⟩
  · have hconverted : avccToAnnexb (avcc (first :: units)) = annexB (first :: units) :=
      avccToAnnexb_avcc h
    rw [if_neg hformat, hconverted, if_neg (by simp [annexB, startCode])]
    rw [hlooks, not_or] at hformat
    exact iff_of_true rfl ⟨fun hone => absurd hone hformat.1, hformat.2⟩

/-- Two units, the first one of a length that cannot be taken for a start code. -/
theorem queued_annexB_iff_two : Queued (avcc [[9, 0x10], [0x41]]) (annexB [[9, 0x10], [0x41]]) :=
  ((queued_annexB_iff [9, 0x10] [[0x41]] (by decide)).mpr (by decide)).1

/-- A first unit of one byte: the second one keeps its length instead of a start code. -/
theorem queued_lengthPrefix : Queued (avcc [[9], [0x41, 7]]) [0, 0, 0, 1, 9, 0, 0, 0, 2, 0x41, 7] ∧
      annexB [[9], [0x41, 7]] = [0, 0, 0, 1, 9, 0, 0, 0, 1, 0x41, 7] :=
  ⟨(queued_iff (by decide)).mpr (by decide), rfl⟩

end LiveKit.Ohos
