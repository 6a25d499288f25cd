import Mathlib.Algebra.Order.Group.Nat

/-!
# Conversion of packed images (`livekit-ffi/src/server/colorcvt/cvtimpl.rs`)

A row of a packed image of 32 bits is `stride` bytes after the one before, and all but its first
`4 * width` bytes are padding. Where one packed format is converted to another, `stride` is rebound
to that of the destination before it is used for the source (`unpadded_iff`).
-/

open List

namespace LiveKit.Ffi

inductive VideoBufferType where
  | rgba | abgr | argb | bgra | rgb24 | i420 | i420a | i422 | i444 | i010 | nv12
  deriving DecidableEq

structure VideoBufferInfo where
  type : VideoBufferType
  stride : Option ℕ
  width : ℕ
  height : ℕ
  /-- The bytes from `data_ptr` on. -/
  data : ℕ → UInt8

inductive CvtError where
  /-- An assertion fails, or libyuv would read past the end of the slice. -/
  | panicked
  | invalidRequest (src dst : VideoBufferType)
  deriving DecidableEq

structure Conversions where
  /-- The functions of libyuv that make three planes, `abgr_to_i420` and so on, on rows. -/
  to420 : VideoBufferType → List (List UInt8) → List UInt8
  /-- What `cvt` does with other formats. -/
  others : VideoBufferInfo → VideoBufferType → Bool → Except CvtError (List UInt8)

namespace VideoBufferInfo

variable (self : VideoBufferInfo)

def row (stride y : ℕ) : List UInt8 :=
  (range (4 * self.width)).map fun x => self.data (y * stride + x)

/-- The rows as libyuv reads them, from the last one on to flip an image. -/
def rows (stride : ℕ) (flipY : Bool) : List (List UInt8) :=
  (if flipY then (range self.height).reverse else range self.height).map (self.row stride)

/-- `abgr_to_argb` and `argb_to_abgr`, on a row. -/
def swapRow : List UInt8 → List UInt8
  | r :: g :: b :: a :: row => b :: g :: r :: a :: swapRow row
  | row => row

/-- The assertions of `valid_rgba`. -/
def validRgba (dataLen stride : ℕ) : Bool :=
  0 < self.width && 0 < self.height && self.width * 4 ≤ stride && stride * self.height ≤ dataLen

/-- The conversion from a packed format, which is asserted to be `expected`. As in the resampler,
the build is a release one: a product that overflows wraps, and the slice made with it is then too
short for the image. The sizes of destinations are no larger than `data_len`. -/
def cvtPacked (to420 : List (List UInt8) → List UInt8) (expected : VideoBufferType)
    (swapped : Option VideoBufferType) (dstType : VideoBufferType) (flipY : Bool) :
    Except CvtError (List UInt8) :=
  let stride := self.stride.getD (self.width * 4)
  let dataLen := stride * self.height
  if self.type ≠ expected ∨ 2 ^ 32 ≤ dataLen then .error .panicked
  else if dstType = .i420 then
    if self.validRgba dataLen stride then .ok (to420 (self.rows stride flipY))
    else .error .panicked
  else if swapped = some dstType then
    let stride := self.width * 4
    if self.validRgba dataLen stride then .ok ((self.rows stride flipY).flatMap swapRow)
    else .error .panicked
  else .error (.invalidRequest self.type dstType)

variable (conversions : Conversions)

def cvtRgba := self.cvtPacked (conversions.to420 .abgr) .rgba (some .bgra)

def cvtAbgr := self.cvtPacked (conversions.to420 .rgba) .rgba none

def cvtArgb := self.cvtPacked (conversions.to420 .bgra) .argb none

def cvtBgra := self.cvtPacked (conversions.to420 .argb) .bgra (some .rgba)

def cvt : VideoBufferType → Bool → Except CvtError (List UInt8) :=
  match self.type with
  | .rgba => self.cvtRgba conversions
  | .abgr => self.cvtAbgr conversions
  | .argb => self.cvtArgb conversions
  | .bgra => self.cvtBgra conversions
  | _ => conversions.others self

/-- The destinations that there are arms for. -/
def Supported (src dst : VideoBufferType) : Prop :=
  src ∈ [.rgba, .abgr, .argb, .bgra] ∧ dst = .i420 ∨ (src, dst) ∈ [(.rgba, .bgra), (.bgra, .rgba)]

/-- The same image without padding. -/
def removePadding : VideoBufferInfo :=
  { self with
    stride := some (4 * self.width)
    data := fun i => self.data
      (i / (4 * self.width) * self.stride.getD (self.width * 4) + i % (4 * self.width)) }

/-- Both images are converted, to the same pixels. -/
def Unpadded (dst : VideoBufferType) (flipY : Bool) : Prop :=
  ∃ out, self.cvt conversions dst flipY = .ok out ∧
    self.removePadding.cvt conversions dst flipY = .ok out

section

variable {self conversions} {width height stride dataLen : ℕ} {type dst expected : VideoBufferType}
  {flipY : Bool} {f : List (List UInt8) → List UInt8} {swapped : Option VideoBufferType}

lemma validRgba_iff : self.validRgba dataLen stride ↔ 0 < self.width ∧ 0 < self.height ∧
    self.width * 4 ≤ stride ∧ stride * self.height ≤ dataLen := by
  simp [validRgba, and_assoc]

lemma mem_swapRow {byte row} : byte ∈ swapRow row ↔ byte ∈ row := by
  fun_induction swapRow row with
  | case1 r g b a row ih => simp only [mem_cons, ih, or_left_comm]
  | case2 => rfl

lemma mem_rows {byte} : byte ∈ (self.rows stride flipY).flatMap swapRow ↔
    ∃ y < self.height, ∃ x < 4 * self.width, self.data (y * stride + x) = byte := by
  rw [rows]
  split <;> simp [mem_swapRow, row]

lemma rows_removePadding : self.removePadding.rows (4 * self.width) flipY =
    self.rows (self.stride.getD (self.width * 4)) flipY := by
  refine map_congr_left fun y _ => map_congr_left fun x hx => ?_
  have hlt : x < 4 * self.width := mem_range.mp hx
  simp only [removePadding]
  rw [Nat.mul_comm y, Nat.mul_add_div (by omega), Nat.mul_add_mod, Nat.div_eq_of_lt hlt,
    Nat.mod_eq_of_lt hlt, Nat.add_zero]

section

variable (h : 4 * self.width ≤ stride) (hstride : self.stride = some stride)
  (hdst : dst = .i420 ∨ swapped = some dst)
include h hstride hdst

lemma cvtPacked_eq : self.cvtPacked f expected swapped dst flipY =
    if self.type = expected ∧ 0 < self.width ∧ 0 < self.height ∧ stride * self.height < 2 ^ 32 then
      .ok (if dst = .i420 then f (self.rows stride flipY)
        else (self.rows (4 * self.width) flipY).flatMap swapRow)
    else .error .panicked := by
  have hle := Nat.mul_le_mul_right self.height h
  simp only [cvtPacked, hstride, Option.getD_some, validRgba_iff, Nat.mul_comm self.width]
  grind

/-- Both are converted, to the same where the rows at the stride of the destination are those of
the image. -/
lemma exists_cvtPacked_iff : (∃ out, self.cvtPacked f expected swapped dst flipY = .ok out ∧
      self.removePadding.cvtPacked f expected swapped dst flipY = .ok out) ↔
    (self.type = expected ∧ 0 < self.width ∧ 0 < self.height ∧ stride * self.height < 2 ^ 32) ∧
      (dst = .i420 ∨ (self.rows stride flipY).flatMap swapRow =
        (self.rows (4 * self.width) flipY).flatMap swapRow) := by
  have hwidth : self.removePadding.width = self.width := rfl
  have hrows : self.removePadding.rows (4 * self.width) flipY = self.rows stride flipY := by
    rw [rows_removePadding, hstride, Option.getD_some]
  rw [cvtPacked_eq h hstride hdst, cvtPacked_eq (Nat.le_refl _) rfl hdst, hwidth, hrows]
  split
  next hok =>
    have hlt := Nat.lt_of_le_of_lt (Nat.mul_le_mul_right self.height h) hok.2.2.2
    simp only [removePadding, hok, hlt, true_and, if_true, Except.ok.injEq]
    by_cases hi420 : dst = .i420
    · simp [hi420]
    · simp [hi420]
  next hnot => simp only [hnot, reduceCtorEq, false_and, exists_false]

end

lemma unpadded_iff_rows (data : ℕ → UInt8) (h_supported : Supported type dst)
    (h : 4 * width ≤ stride) :
    let self : VideoBufferInfo := ⟨type, some stride, width, height, data⟩
    self.Unpadded conversions dst flipY ↔
      (type ≠ .abgr ∧ 0 < width ∧ 0 < height ∧ stride * height < 2 ^ 32) ∧
        (dst = .i420 ∨ (self.rows stride flipY).flatMap swapRow =
          (self.rows (4 * width) flipY).flatMap swapRow) := by
  intro self
  simp only [Supported, mem_cons, not_mem_nil, or_false, Prod.mk.injEq] at h_supported
  rcases h_supported with ⟨rfl | rfl | rfl | rfl, rfl⟩ | ⟨rfl, rfl⟩ | ⟨rfl, rfl⟩
  case inl.inr.inl =>
    exact (@exists_cvtPacked_iff self _ _ .rgba flipY (conversions.to420 .rgba) none h rfl
      (.inl rfl)).trans (by simp [self])
  all_goals
    refine (@exists_cvtPacked_iff self _ _ _ _ _ _ h rfl ?_).trans ?_
    · decide
    · simp [self]

/-- The rows of an image are found at the stride of the destination only where it has that stride,
or one row. -/
lemma swapped_iff (hwidth : 0 < width) (hheight : 0 < height) (h : 4 * width ≤ stride) :
    (∀ data, let self : VideoBufferInfo := ⟨type, some stride, width, height, data⟩
      (self.rows stride flipY).flatMap swapRow = (self.rows (4 * width) flipY).flatMap swapRow) ↔
      stride = 4 * width ∨ height = 1 := by
  constructor
  · intro heq
    by_contra hnot
    have hlt : 4 * width < stride := by omega
    -- zeros in the padding only, one of which is read as the first byte of the second row
    let self : VideoBufferInfo := ⟨type, some stride, width, height,
      fun i => if i % stride < 4 * width then 1 else 0⟩
    have hmem : 0 ∈ (self.rows (4 * width) flipY).flatMap swapRow :=
      mem_rows.mpr ⟨1, by simp only [self]; omega, 0, by simp [self, hwidth],
        by simp [self, Nat.mod_eq_of_lt hlt]⟩
    rw [← heq] at hmem
    obtain ⟨y, -, x, hx : x < 4 * width, hzero⟩ := mem_rows.mp hmem
    have hmod : (y * stride + x) % stride = x := Nat.mul_add_mod_of_lt (hx.trans hlt)
    simp [hmod, hx] at hzero
  · rintro (rfl | rfl) data
    · rfl
    · simp [rows, row]

end

/-- **Row padding.** Whatever its bytes are, a padded image is converted to the pixels of the same
image without padding, if and only if it is not ABGR, which is taken for RGBA and refused, it has
pixels, its size fits in 32 bits, and, unless it is converted to planes, it has no padding between
its rows. -/
theorem unpadded_iff (conversions : Conversions) (type dst : VideoBufferType)
    (width height stride : ℕ) (flipY : Bool) (h_supported : Supported type dst)
    (h_stride : 4 * width ≤ stride) :
    (∀ data, Unpadded ⟨type, some stride, width, height, data⟩ conversions dst flipY) ↔
      type ≠ .abgr ∧ 0 < width ∧ 0 < height ∧ stride * height < 2 ^ 32 ∧
        (dst = .i420 ∨ stride = 4 * width ∨ height = 1) := by
  simp only [unpadded_iff_rows _ h_supported h_stride, forall_and_left, forall_or_left, and_assoc]
  exact and_congr_right fun _ => and_congr_right fun hwidth => and_congr_right fun hheight =>
    and_congr_right fun _ => or_congr_right (swapped_iff hwidth hheight h_stride)

def sampleConversions : Conversions := ⟨fun _ => flatten, fun _ _ _ => .error .panicked⟩

theorem unpadded_iff_bgra : Supported .bgra .i420 ∧
    Unpadded ⟨.bgra, some 8, 1, 2, UInt8.ofNat⟩ sampleConversions .i420 true := by
  have h : Supported .bgra .i420 := .inl ⟨by decide, rfl⟩
  exact ⟨h, (unpadded_iff _ _ _ 1 2 8 true h (by decide)).mpr (by decide) _⟩

/-- The second pixel is taken from the padding of the first row. -/
theorem padding_converted :
    let self : VideoBufferInfo := ⟨.rgba, some 8, 1, 2, UInt8.ofNat⟩
    Supported .rgba .bgra ∧
      self.cvt sampleConversions .bgra false = .ok [2, 1, 0, 3, 6, 5, 4, 7] ∧
      self.removePadding.cvt sampleConversions .bgra false = .ok [2, 1, 0, 3, 10, 9, 8, 11] :=
  ⟨.inr (by decide), rfl, rfl⟩

end VideoBufferInfo

end LiveKit.Ffi
