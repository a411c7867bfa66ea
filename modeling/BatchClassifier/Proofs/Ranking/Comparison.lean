import BatchClassifier.Score
import Mathlib.Data.Int.Order.Basic
import Mathlib.Data.Nat.Bitwise

namespace BatchClassifier

namespace Score

open Float.Model
open UnpackedFloat hiding compare

variable {x y : Score}

section Bits

theorem toNat_magnitude (x : Score) : x.magnitude.toNat = x.toBits.toNat % 2 ^ 31 := by
  rw [magnitude, UInt32.toNat_and]
  exact Nat.and_two_pow_sub_one_eq_mod _ 31

theorem isNegative_iff : x.isNegative = true ↔ 2 ^ 31 ≤ x.toBits.toNat := by
  have hb : x.toBits.toNat < 2 ^ 32 := x.toBits.toNat_lt
  have hand : x.toBits.toNat &&& 2 ^ 31 = (x.toBits.toNat.testBit 31).toNat * 2 ^ 31 := Nat.and_two_pow _ 31
  have hbit : (x.toBits.toNat &&& 2 ^ 31) ≠ 0 ↔ 2 ^ 31 ≤ x.toBits.toNat := by
    rw [hand, Nat.testBit_eq_decide_div_mod_eq]
    by_cases h : x.toBits.toNat / 2 ^ 31 % 2 = 1
    · simp only [h, decide_true, Bool.toNat_true]
      omega
    · simp only [h, decide_false, Bool.toNat_false]
      omega
  rw [isNegative, bne_iff_ne, ne_eq, ← UInt32.toNat_inj, UInt32.toNat_and]
  exact hbit

theorem isNaN_iff : x.isNaN = true ↔ 255 * 2 ^ 23 < x.magnitude.toNat := by
  rw [isNaN, decide_eq_true_iff, UInt32.lt_iff_toNat_lt]
  rfl

def sign (x : Score) : Sign := if x.isNegative then .negative else .positive

theorem key_eq_apply (x : Score) : x.key = x.sign.apply x.magnitude.toNat := by
  rw [key, sign]
  split <;> rfl

end Bits

section Fields

variable (bits : BitVec Format.binary32.numBits)

theorem toNat_unpackMantissa : (unpackMantissa bits).toNat = bits.toNat % 2 ^ 23 := by
  simp [unpackMantissa]

theorem toNat_unpackExponent : (unpackExponent bits).toNat = bits.toNat / 2 ^ 23 % 2 ^ 8 := by
  simp [unpackExponent, Nat.shiftRight_eq_div_pow]

theorem toNat_unpackSign : (unpackSign bits).toNat = bits.toNat / 2 ^ 31 % 2 := by
  change (bits.extractLsb 31 31).toNat = _
  rw [BitVec.extractLsb_toNat, Nat.shiftRight_eq_div_pow]

theorem unpackExponent_eq_iff {n : Nat} (hn : n < 2 ^ 8) :
    unpackExponent bits = BitVec.ofNat 8 n ↔ bits.toNat / 2 ^ 23 % 2 ^ 8 = n := by
  rw [← BitVec.toNat_inj, toNat_unpackExponent, BitVec.toNat_ofNat]
  exact Eq.congr_right (Nat.mod_eq_of_lt hn)

theorem unpackMantissa_eq_zero_iff : unpackMantissa bits = 0#23 ↔ bits.toNat % 2 ^ 23 = 0 := by
  rw [← BitVec.toNat_inj, toNat_unpackMantissa]
  rfl

theorem toNat_normal : (1#1 ++ unpackMantissa bits).toNat = 2 ^ 23 + bits.toNat % 2 ^ 23 := by
  rw [BitVec.toNat_append, toNat_unpackMantissa]
  exact (Nat.shiftLeft_add_eq_or_of_lt (Nat.mod_lt _ (by decide)) 1).symm

theorem ofBitVec_unpackSign (x : Score) :
    Sign.ofBitVec (@unpackSign .binary32 x.toBits.toBitVec) = x.sign := by
  have hb : x.toBits.toNat < 2 ^ 32 := x.toBits.toNat_lt
  have hsign := toNat_unpackSign x.toBits.toBitVec
  have hzero : @unpackSign .binary32 x.toBits.toBitVec = 0#1 ↔ ¬x.isNegative = true := by
    rw [isNegative_iff, ← BitVec.toNat_inj, hsign, UInt32.toNat_toBitVec, BitVec.toNat_ofNat]
    omega
  rw [Sign.ofBitVec, sign]
  by_cases hn : x.isNegative = true
  · rw [if_neg (fun h => hzero.1 h hn), if_pos hn]
  · rw [if_pos (hzero.2 hn), if_neg hn]

end Fields

section Unpacking

/-- The magnitude counts the numbers from zero up: each exponent has `2 ^ 23` of them. -/
inductive Unpacks (x : Score) : UnpackedFloat → Prop
  | nan (h : x.isNaN = true) : Unpacks x .notANumber
  | infinity (h : x.magnitude.toNat = 255 * 2 ^ 23) : Unpacks x (.infinity x.sign)
  | zero (h : x.magnitude.toNat = 0) : Unpacks x (.zero x.sign)
  | finite {m : Nat} {e : Int} {hm : 0 < m} (hlt : x.magnitude.toNat < 255 * 2 ^ 23)
      (hx : (x.magnitude.toNat : Int) = (e + 149) * 2 ^ 23 + m) (hlow : -149 ≤ e) (hhigh : m < 2 ^ 24)
      (hcanon : e = -149 ∨ 2 ^ 23 ≤ m) : Unpacks x (.finite x.sign m e hm)

theorem unpacks (x : Score) : Unpacks x x.toModel.unpack := by
  have hmag := toNat_magnitude x
  have hmant := toNat_unpackMantissa x.toBits.toBitVec
  have hexp := toNat_unpackExponent x.toBits.toBitVec
  have hnormal := toNat_normal x.toBits.toBitVec
  have hones : @unpackExponent .binary32 x.toBits.toBitVec = -1#8 ↔
      x.toBits.toNat / 2 ^ 23 % 2 ^ 8 = 255 := unpackExponent_eq_iff _ (by decide)
  have hnone : @unpackExponent .binary32 x.toBits.toBitVec = 0#8 ↔
      x.toBits.toNat / 2 ^ 23 % 2 ^ 8 = 0 := unpackExponent_eq_iff _ (by decide)
  have hnull : @unpackMantissa .binary32 x.toBits.toBitVec = 0#23 ↔
      x.toBits.toNat % 2 ^ 23 = 0 := unpackMantissa_eq_zero_iff _
  have hbias : Format.binary32.exponentBias = 127 := rfl
  rw [UInt32.toNat_toBitVec] at hmant hexp hnormal
  change Unpacks x (UnpackedFloat.unpack Format.binary32 x.toBits.toBitVec)
  delta UnpackedFloat.unpack
  dsimp only
  rw [ofBitVec_unpackSign, hbias]
  by_cases hspecial : x.toBits.toNat / 2 ^ 23 % 2 ^ 8 = 255
  · rw [if_pos (hones.2 hspecial)]
    by_cases hfraction : x.toBits.toNat % 2 ^ 23 = 0
    · rw [if_pos (hnull.2 hfraction)]
      apply Unpacks.infinity
      omega
    · rw [if_neg (mt hnull.1 hfraction)]
      apply Unpacks.nan
      rw [isNaN_iff]
      omega
  · rw [if_neg (mt hones.1 hspecial)]
    by_cases hsubnormal : x.toBits.toNat / 2 ^ 23 % 2 ^ 8 = 0
    · rw [if_pos (hnone.2 hsubnormal)]
      by_cases hfraction : x.toBits.toNat % 2 ^ 23 = 0
      · rw [dif_pos (hnull.2 hfraction)]
        apply Unpacks.zero
        omega
      · rw [dif_neg (mt hnull.1 hfraction)]
        apply Unpacks.finite <;> omega
    · rw [if_neg (mt hnone.1 hsubnormal)]
      apply Unpacks.finite <;> omega

end Unpacking

section Comparing

theorem compare_neg (a b : Int) : compare (-a) (-b) = (compare a b).swap := by
  rcases lt_trichotomy a b with h | rfl | h
  · rw [compare_lt_iff_lt.2 h]
    exact compare_gt_iff_gt.2 (Int.neg_lt_neg h)
  · rw [compare_eq_iff_eq.2 rfl, compare_eq_iff_eq.2 rfl]
    rfl
  · rw [compare_gt_iff_gt.2 h]
    exact compare_lt_iff_lt.2 (Int.neg_lt_neg h)

theorem compare_finite {a b m n : Nat} {e f : Int} (ha : (a : Int) = (e + 149) * 2 ^ 23 + m)
    (hb : (b : Int) = (f + 149) * 2 ^ 23 + n) (hm : m < 2 ^ 24) (hn : n < 2 ^ 24)
    (he : e = -149 ∨ 2 ^ 23 ≤ m) (hf : f = -149 ∨ 2 ^ 23 ≤ n) (hle : -149 ≤ e) (hle' : -149 ≤ f) :
    (compare e f).then (compare m n) = compare (a : Int) b := by
  rcases lt_trichotomy e f with h | rfl | h
  · rw [compare_lt_iff_lt.2 h, Ordering.lt_then, eq_comm, compare_lt_iff_lt]
    omega
  · rw [compare_eq_iff_eq.2 rfl, Ordering.eq_then]
    rcases lt_trichotomy m n with h | rfl | h
    · rw [compare_lt_iff_lt.2 h, eq_comm, compare_lt_iff_lt]
      omega
    · rw [compare_eq_iff_eq.2 rfl, eq_comm, compare_eq_iff_eq]
      omega
    · rw [compare_gt_iff_gt.2 h, eq_comm, compare_gt_iff_gt]
      omega
  · rw [compare_gt_iff_gt.2 h, Ordering.gt_then, eq_comm, compare_gt_iff_gt]
    omega

theorem compare_unpack {u v : UnpackedFloat} (hx : x.Unpacks u) (hy : y.Unpacks v)
    (hnx : x.isNaN = false) (hny : y.isNaN = false) : some (compare x.key y.key) = u.compare v := by
  rw [key_eq_apply, key_eq_apply]
  -- The magnitudes of a zero, of finite numbers and of an infinity lie in ranges apart, so but for two finite
  -- numbers of one sign the bounds decide.
  cases hx with
  | nan h => rw [h] at hnx; cases hnx
  | infinity h | zero h =>
      cases hy with
      | nan h => rw [h] at hny; cases hny
      | infinity h' | zero h' =>
          rw [h, h']
          cases x.sign <;> cases y.sign <;> rfl
      | finite =>
          cases x.sign <;> cases y.sign <;> change some _ = some _ <;>
            simp [Sign.apply, compare_lt_iff_lt, compare_gt_iff_gt, h] <;> omega
  | finite hlt hx hlow hhigh hcanon =>
      cases hy with
      | nan h => rw [h] at hny; cases hny
      | infinity h' | zero h' =>
          cases x.sign <;> cases y.sign <;> change some _ = some _ <;>
            simp [Sign.apply, compare_lt_iff_lt, compare_gt_iff_gt, h'] <;> omega
      | finite hlt' hy hlow' hhigh' hcanon' =>
          have hfinite := compare_finite hx hy hhigh hhigh' hcanon hcanon' hlow hlow'
          cases x.sign <;> cases y.sign <;> change some _ = some _
          · simp [Sign.apply, hfinite, compare_neg]
          · simp [Sign.apply, compare_lt_iff_lt]
            omega
          · simp [Sign.apply, compare_gt_iff_gt]
            omega
          · simp [Sign.apply, hfinite]

theorem compare_eq (hx : x.isNaN = false) (hy : y.isNaN = false) :
    x.toModel.unpack.compare y.toModel.unpack = some (compare x.key y.key) :=
  (compare_unpack x.unpacks y.unpacks hx hy).symm

theorem le_iff (hx : x.isNaN = false) (hy : y.isNaN = false) : x ≤ y ↔ x.key ≤ y.key := by
  change decide (UnpackedFloat.le x.toModel.unpack y.toModel.unpack = true) = true ↔ _
  rw [decide_eq_true_iff, UnpackedFloat.le, compare_eq hx hy]
  exact Std.isLE_compare

theorem beq_iff (hx : x.isNaN = false) (hy : y.isNaN = false) : (x == y) = true ↔ x.key = y.key := by
  change (x.toModel.unpack.compare y.toModel.unpack == some .eq) = true ↔ _
  rw [compare_eq hx hy]
  simp

end Comparing

end Score

end BatchClassifier
