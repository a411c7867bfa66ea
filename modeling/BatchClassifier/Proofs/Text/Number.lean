import BatchClassifier.Score
import Mathlib.Data.Nat.Digits.Defs

namespace BatchClassifier

namespace Text

theorem le_ofDigitChars (digits : List Char) (value : Nat) : value ≤ Nat.ofDigitChars 10 digits value := by
  induction digits generalizing value with
  | nil => exact Nat.le_refl value
  | cons c digits ih =>
      rw [Nat.ofDigitChars_cons]
      exact Nat.le_trans (by omega) (ih _)

/-- The bound is kept to digit by digit, and that is the same as keeping to it in the end. -/
theorem readDigits_eq {bound value : Nat} (hv : value < bound) {digits : List Char}
    (hd : ∀ c ∈ digits, c.isDigit = true) : readDigits bound value digits =
      if Nat.ofDigitChars 10 digits value < bound then .ok (Nat.ofDigitChars 10 digits value)
      else .error .tooLarge := by
  induction digits generalizing value with
  | nil => rw [readDigits, Nat.ofDigitChars_nil, if_pos hv]
  | cons c digits ih =>
      have hnext : value * 10 + digitValue c = 10 * value + (c.toNat - '0'.toNat) :=
        congrArg (· + digitValue c) (Nat.mul_comm value 10)
      rw [readDigits, if_pos (hd c List.mem_cons_self), Nat.ofDigitChars_cons, ← hnext]
      dsimp only
      split
      · rename_i hlt
        exact ih hlt fun other ho => hd other (List.mem_cons_of_mem c ho)
      · rename_i hge
        have hle := le_ofDigitChars digits (value * 10 + digitValue c)
        rw [if_neg (by omega)]

/-- A number below 2 ^ 64 in digits, as many as there may be, with or without a plus sign in front. -/
structure Numeral (text : String) (n : Nat) : Prop where
  spelled : ∃ digits : List Char, digits ≠ [] ∧ (∀ c ∈ digits, c.isDigit = true) ∧
    (text.toList = digits ∨ text.toList = '+' :: digits) ∧ Nat.ofDigitChars 10 digits 0 = n
  lt : n < 2 ^ 64

theorem Numeral.readNat_eq {text : String} {n : Nat} (h : Numeral text n) :
    readNat wordBound text.toList = .ok n := by
  obtain ⟨⟨digits, hne, hd, htext, rfl⟩, hlt⟩ := h
  have hread : readDigits wordBound 0 digits = .ok (Nat.ofDigitChars 10 digits 0) := by
    rw [readDigits_eq (by decide) hd]
    exact if_pos hlt
  obtain ⟨c, more, rfl⟩ := List.exists_cons_of_ne_nil hne
  rcases htext with htext | htext <;> rw [htext]
  · have hc : c ≠ '+' := by
      rintro rfl
      exact absurd (hd '+' List.mem_cons_self) (by decide)
    rw [← hread]
    unfold readNat
    split <;> simp_all
  · exact hread

theorem le_length_padZeros (width : Nat) (digits : List Char) : width ≤ (padZeros width digits).length := by
  simp [padZeros]
  omega

theorem isDigit_of_mem_padZeros {width units : Nat} {c : Char}
    (h : c ∈ padZeros width (Nat.toDigits 10 units)) : c.isDigit = true := by
  rcases List.mem_append.1 h with h | h
  · rw [List.eq_of_mem_replicate h]
    rfl
  · exact Nat.isDigit_of_mem_toDigits (by decide) (by decide) h

/-- A text as numbers are written with a fixed number of decimal places. -/
def Decimal (places : Nat) (text : List Char) : Prop :=
  ∃ sign whole fraction, text = sign ++ whole ++ '.' :: fraction ∧ (sign = [] ∨ sign = ['-']) ∧
    whole ≠ [] ∧ fraction.length = places ∧ ∀ c ∈ whole ++ fraction, c.isDigit = true

theorem decimal_withPoint (places units : Nat) {sign : List Char} (hs : sign = [] ∨ sign = ['-']) :
    Decimal places (sign ++ (withPoint places units).toList) := by
  have hlen := le_length_padZeros (places + 1) (Nat.toDigits 10 units)
  have hdigits : ∀ c ∈ padZeros (places + 1) (Nat.toDigits 10 units), c.isDigit = true :=
    fun c hc => isDigit_of_mem_padZeros hc
  rw [withPoint, String.toList_ofList]
  generalize padZeros (places + 1) (Nat.toDigits 10 units) = digits at hlen hdigits ⊢
  refine ⟨sign, digits.take (digits.length - places), digits.drop (digits.length - places),
    (List.append_assoc ..).symm, hs, ?_, ?_, ?_⟩
  · rw [Ne, ← List.length_eq_zero_iff, List.length_take]
    omega
  · rw [List.length_drop]
    omega
  · rwa [List.take_append_drop]

theorem newline_notMem_decimal {places : Nat} {text : List Char} (h : Decimal places text) : '\n' ∉ text := by
  obtain ⟨sign, whole, fraction, rfl, hsign, -, -, hdigits⟩ := h
  intro hmem
  have hcases : '\n' ∈ sign ∨ '\n' ∈ whole ++ fraction := by simpa [or_assoc] using hmem
  rcases hcases with hs | hd
  · rcases hsign with rfl | rfl <;> simp at hs
  · exact absurd (hdigits _ hd) (by decide)

end Text

namespace Score

variable {x : Score}

theorem decimal_fixed (places : Nat) (hn : x.isNaN = false) (hi : x.isInfinite = false) :
    Text.Decimal places (x.fixed places).toList := by
  simp only [fixed, hn, hi, Bool.false_eq_true, if_false, String.toList_append]
  split
  · exact Text.decimal_withPoint places _ (.inr rfl)
  · exact Text.decimal_withPoint places _ (.inl rfl)

theorem newline_notMem_fixed (places : Nat) (x : Score) : '\n' ∉ (x.fixed places).toList := by
  by_cases hn : x.isNaN = true
  · simp [fixed, hn]
  by_cases hi : x.isInfinite = true
  · have hinf : x.fixed places = "-inf" ∨ x.fixed places = "inf" := by
      cases hneg : x.isNegative <;> simp [fixed, hn, hi, hneg]
    rcases hinf with h | h <;> rw [h] <;> decide
  · exact Text.newline_notMem_decimal
      (decimal_fixed places (Bool.eq_false_iff.2 hn) (Bool.eq_false_iff.2 hi))

end Score

end BatchClassifier
