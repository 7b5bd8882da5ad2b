import Zpc.TransportService.Definitions
import Mathlib.Data.Nat.Bitwise

/-!
# The checksum of a fragment

`zwave_crc16` shifts its register by one for every bit of the message and adds
the polynomial when the bit differs from the one that is shifted out.  The bits
of the register itself only shift it, so a message followed by its own checksum
leaves zero.
-/

namespace TransportService

theorem and_ne_zero_iff (value bit : Nat) : (value &&& 2 ^ bit != 0) = value.testBit bit := by
  rw [Nat.and_two_pow]
  cases value.testBit bit <;> simp

variable (crc : UInt16) {count : Nat}

theorem topBit_eq : (crc &&& 0x8000 != 0) = crc.toNat.testBit 15 := by
  have top : (crc &&& 0x8000).toNat = crc.toNat &&& 2 ^ 15 := UInt16.toNat_and _ _
  rw [← and_ne_zero_iff, ← top, Bool.eq_iff_iff]
  simp [← UInt16.toNat_inj]

theorem maskBit_eq (byte : UInt8) {mask : UInt8} {bit : Nat} (isMask : mask.toNat = 2 ^ bit) :
    (byte &&& mask != 0) = byte.toNat.testBit bit := by
  have masked : (byte &&& mask).toNat = byte.toNat &&& 2 ^ bit := by
    rw [UInt8.toNat_and, isMask]
  rw [← and_ne_zero_iff, ← masked, Bool.eq_iff_iff]
  simp [← UInt8.toNat_inj]

/-- The register after a number of shifts. -/
def shifted (crc : UInt16) : Nat -> UInt16
  | 0 => crc
  | count + 1 => shifted crc count <<< 1

theorem toNat_shifted (count : Nat) :
    (shifted crc count).toNat = (crc.toNat * 2 ^ count) % 2 ^ 16 := by
  induction count with
  | zero =>
    have small := crc.toNat_lt
    simp only [shifted, Nat.pow_zero, Nat.mul_one]
    omega
  | succ count ih =>
    unfold shifted
    have next : crc.toNat * 2 ^ (count + 1) = crc.toNat * 2 ^ count * 2 := by
      rw [Nat.pow_succ, Nat.mul_assoc]
    rw [UInt16.toNat_shiftLeft, ih, next, Nat.shiftLeft_eq]
    generalize crc.toNat * 2 ^ count = value
    show value % 2 ^ 16 * 2 % 2 ^ 16 = value * 2 % 2 ^ 16
    omega

theorem testBit_shifted (small : count ≤ 15) :
    (shifted crc count).toNat.testBit 15 = crc.toNat.testBit (15 - count) := by
  rw [toNat_shifted, Nat.testBit_mod_two_pow, Nat.testBit_mul_two_pow]
  simp [small]

theorem crc16Bit_shifted {crc : UInt16} {bit : Bool} (small : count ≤ 15)
    (own : bit = crc.toNat.testBit (15 - count)) :
    crc16Bit (shifted crc count) bit = shifted crc (count + 1) := by
  unfold crc16Bit
  rw [topBit_eq, testBit_shifted crc small, own, bne_self_eq_false, if_neg Bool.false_ne_true]
  rfl

theorem crc16Byte_shifted {crc : UInt16} {byte : UInt8} (small : count ≤ 8)
    (own : ∀ bit, bit < 8 -> byte.toNat.testBit bit = crc.toNat.testBit (bit + 8 - count)) :
    crc16Byte (shifted crc count) byte = shifted crc (count + 8) := by
  have step (bit : Nat) (inByte : bit < 8) (mask : UInt8) (isMask : mask.toNat = 2 ^ bit) :
      crc16Bit (shifted crc (count + (7 - bit))) (byte &&& mask != 0) =
        shifted crc (count + (8 - bit)) := by
    rw [maskBit_eq byte isMask, crc16Bit_shifted (by omega)]
    · congr 1
      omega
    · rw [own bit inByte]
      congr 1
      omega
  unfold crc16Byte
  simp only [List.foldl_cons, List.foldl_nil]
  rw [show shifted crc count = shifted crc (count + (7 - 7)) from rfl,
    step 7 (by decide) 0x80 rfl, step 6 (by decide) 0x40 rfl, step 5 (by decide) 0x20 rfl,
    step 4 (by decide) 0x10 rfl, step 3 (by decide) 0x08 rfl, step 2 (by decide) 0x04 rfl,
    step 1 (by decide) 0x02 rfl, step 0 (by decide) 0x01 rfl]

/-- The two bytes of a checksum, the most significant first. -/
def bigEndian (crc : UInt16) : List UInt8 := [(crc >>> 8).toUInt8, crc.toUInt8]

theorem zwaveCrc16_append_own (seed : UInt16) (data : List UInt8) :
    zwaveCrc16 seed (data ++ bigEndian (zwaveCrc16 seed data)) = 0 := by
  rw [zwaveCrc16, List.foldl_append]
  show crc16Byte (crc16Byte (shifted (zwaveCrc16 seed data) 0) _) _ = 0
  generalize zwaveCrc16 seed data = crc
  rw [crc16Byte_shifted (by decide), crc16Byte_shifted (by decide)]
  · rw [← UInt16.toNat_inj, toNat_shifted]
    exact Nat.mul_mod_left _ _
  · intro bit inByte
    rw [UInt16.toNat_toUInt8, Nat.testBit_mod_two_pow, decide_eq_true inByte, Bool.true_and]
    congr 1
  · intro bit inByte
    rw [UInt16.toNat_toUInt8, Nat.testBit_mod_two_pow, decide_eq_true inByte, Bool.true_and,
      UInt16.toNat_shiftRight, Nat.testBit_shiftRight]
    congr 1
    exact Nat.add_comm 8 bit

theorem zwaveCrc16_addCrc (buffer : List UInt8) : zwaveCrc16 0x1D0F (addCrc buffer) = 0 :=
  zwaveCrc16_append_own 0x1D0F buffer

/-- The bits of a message in the order in which `zwave_crc16` reads them. -/
def messageBits (message : List UInt8) : List Bool :=
  message.flatMap fun byte =>
    [0x80, 0x40, 0x20, 0x10, 0x08, 0x04, 0x02, 0x01].map fun mask => byte &&& mask != 0

/-- Two messages of one length that differ, and only in a run of at most sixteen
consecutive bits. -/
def DifferInBurst (first second : List UInt8) : Prop :=
  ∃ before left right after,
    messageBits first = before ++ left ++ after ∧ messageBits second = before ++ right ++ after ∧
      left.length = right.length ∧ left.length ≤ 16 ∧ left ≠ right

theorem zwaveCrc16_eq_foldl (seed : UInt16) (message : List UInt8) :
    zwaveCrc16 seed message = (messageBits message).foldl crc16Bit seed := by
  unfold zwaveCrc16 messageBits
  rw [List.foldl_flatMap]
  rfl

/-- Two registers agree in the given number of low bits. -/
def Agree (count : Nat) (crc crc' : UInt16) : Prop :=
  ∀ bit, bit < count -> crc.toNat.testBit bit = crc'.toNat.testBit bit

variable {crc crc' : UInt16} {bit bit' : Bool} {left right : List Bool}

theorem eq_of_agree (agree : Agree 16 crc crc') : crc = crc' :=
  UInt16.toBitVec_inj.mp (BitVec.eq_of_getLsbD_eq agree)

theorem testBit_crc16Bit (crc : UInt16) (bit : Bool) {index : Nat} (inside : index < 16) :
    (crc16Bit crc bit).toNat.testBit index =
      ((decide (1 ≤ index) && crc.toNat.testBit (index - 1)) ^^
        ((bit != crc.toNat.testBit 15) && Nat.testBit 0x1021 index)) := by
  have shift : (crc <<< 1).toNat.testBit index =
      (decide (1 ≤ index) && crc.toNat.testBit (index - 1)) := by
    rw [UInt16.toNat_shiftLeft, Nat.testBit_mod_two_pow, decide_eq_true inside, Bool.true_and]
    exact Nat.testBit_shiftLeft _
  unfold crc16Bit
  rw [topBit_eq]
  split
  next added => rw [added, UInt16.toNat_xor, Nat.testBit_xor, shift, Bool.true_and]; rfl
  next kept => rw [Bool.not_eq_true] at kept; rw [kept, shift, Bool.false_and, Bool.xor_false]

/-- The lowest bit of the polynomial is set, so the next register tells whether
it was added, and then all bits but the highest of the register before. -/
theorem agree_of_crc16Bit {count : Nat} (positive : 0 < count) (small : count ≤ 16)
    (agree : Agree count (crc16Bit crc bit) (crc16Bit crc' bit')) :
    (bit != crc.toNat.testBit 15) = (bit' != crc'.toNat.testBit 15) ∧
      Agree (count - 1) crc crc' := by
  have added : (bit != crc.toNat.testBit 15) = (bit' != crc'.toNat.testBit 15) := by
    have lowest := agree 0 positive
    rw [testBit_crc16Bit _ _ (by decide), testBit_crc16Bit _ _ (by decide)] at lowest
    simpa using lowest
  refine ⟨added, fun index inside => ?_⟩
  have next := agree (index + 1) (by omega)
  rw [testBit_crc16Bit _ _ (by omega), testBit_crc16Bit _ _ (by omega), added] at next
  simpa using next

theorem agree_of_foldl {count : Nat} (sameLength : left.length = right.length)
    (short : left.length ≤ count) (small : count ≤ 16)
    (agree : Agree count (left.foldl crc16Bit crc) (right.foldl crc16Bit crc')) :
    Agree (count - left.length) crc crc' ∧ (crc = crc' -> left = right) := by
  induction left generalizing right crc crc' with
  | nil =>
    rw [List.length_eq_zero_iff.mp sameLength.symm] at agree ⊢
    exact ⟨agree, fun _ => rfl⟩
  | cons bit left ih =>
    obtain ⟨bit', right, rfl⟩ := List.exists_cons_of_length_eq_add_one sameLength.symm
    rw [List.length_cons] at short ⊢
    obtain ⟨next, rest⟩ := ih (Nat.succ.inj sameLength) (by omega) agree
    obtain ⟨added, agree⟩ := agree_of_crc16Bit (by omega) (by omega) next
    refine ⟨agree, fun same => ?_⟩
    subst same
    have sameBit : bit = bit' := by simpa using added
    rw [sameBit] at rest ⊢
    rw [rest rfl]

theorem eq_of_foldl {bits : List Bool}
    (same : bits.foldl crc16Bit crc = bits.foldl crc16Bit crc') : crc = crc' := by
  induction bits generalizing crc crc' with
  | nil => exact same
  | cons bit bits ih =>
    have next : Agree 16 (crc16Bit crc bit) (crc16Bit crc' bit) := fun _ _ => by rw [ih same]
    obtain ⟨added, agree⟩ := agree_of_crc16Bit (by decide) (Nat.le_refl _) next
    refine eq_of_agree fun index inside => ?_
    by_cases top : index = 15
    · rw [top]
      simpa using added
    · exact agree index (by omega)

theorem zwaveCrc16_ne {first second : List UInt8} (burst : DifferInBurst first second)
    (seed : UInt16) : zwaveCrc16 seed first ≠ zwaveCrc16 seed second := by
  obtain ⟨before, left, right, after, isFirst, isSecond, sameLength, short, differs⟩ := burst
  intro same
  rw [zwaveCrc16_eq_foldl, zwaveCrc16_eq_foldl, isFirst, isSecond] at same
  simp only [List.foldl_append] at same
  have windows := eq_of_foldl same
  exact differs
    ((agree_of_foldl sameLength short (Nat.le_refl _) fun _ _ => by rw [windows]).2 rfl)

end TransportService
