import BatchClassifier.ByteSize
import BatchClassifier.Proofs.Text.Lowering
import BatchClassifier.Proofs.Text.Number
import Mathlib.Data.List.DropRight
import Mathlib.Data.List.TakeDrop

namespace BatchClassifier

namespace ByteSize

def units : List (List String) := [["", "b"], ["k", "kb"], ["m", "mb"], ["g", "gb"], ["t", "tb"]]

def IsUnit (unit : String) (e : Nat) : Prop := ∃ names, units[e]? = some names ∧ unit ∈ names

theorem exponent?_eq_some_iff {unit : String} {e : Nat} : exponent? unit = some e ↔ IsUnit unit e := by
  constructor
  · intro h
    unfold exponent? at h
    split at h <;> cases h <;> exact ⟨_, rfl, by decide⟩
  · rintro ⟨names, hnames, hunit⟩
    rcases e with _ | _ | _ | _ | _ | e <;> cases hnames
    all_goals
      simp only [List.mem_cons, List.not_mem_nil, or_false] at hunit
      rcases hunit with rfl | rfl <;> rfl

theorem exponent?_eq_none_iff {unit : String} : exponent? unit = none ↔ ∀ e, ¬ IsUnit unit e := by
  rw [Option.eq_none_iff_forall_ne_some]
  exact forall_congr' fun e => not_congr exponent?_eq_some_iff

/-- What counts of an input: not the blanks around it, and not the case of its letters. -/
def essence (input : String) : List Char :=
  ((input.toList.dropWhile Text.isBlank).rdropWhile Text.isBlank).map Char.toLower

def numeral (input : String) : List Char := (essence input).takeWhile Char.isDigit

def value (input : String) : Nat := Nat.ofDigitChars 10 (numeral input) 0

def unit (input : String) : String := String.ofList ((essence input).dropWhile Char.isDigit)

/-- What an input says. Of several faults the one that is named first counts. -/
inductive Reads (input : String) : Except Error Nat → Prop
  | empty (h : essence input = []) : Reads input (.error .empty)
  | missingNumber (h : essence input ≠ []) (hd : numeral input = []) :
      Reads input (.error (.missingNumber input))
  | unknownUnit (hd : numeral input ≠ []) (hu : ∀ e, ¬ IsUnit (unit input) e) :
      Reads input (.error (.unknownUnit (unit input) input))
  | overflow {e : Nat} (hd : numeral input ≠ []) (hu : IsUnit (unit input) e)
      (h : 2 ^ 64 ≤ value input * 1024 ^ e) : Reads input (.error (.overflow input))
  | size {e : Nat} (hd : numeral input ≠ []) (hu : IsUnit (unit input) e)
      (h : value input * 1024 ^ e < 2 ^ 64) : Reads input (.ok (value input * 1024 ^ e))

theorem split_eq (input : String) :
    split input = (numeral input, (essence input).dropWhile Char.isDigit) :=
  List.span_eq_takeWhile_dropWhile Char.isDigit (essence input)

theorem readDigits_numeral (input : String) : Text.readDigits (2 ^ 64) 0 (numeral input) =
    if value input < 2 ^ 64 then .ok (value input) else .error .tooLarge :=
  Text.readDigits_eq (Nat.two_pow_pos 64) fun _ hc => List.mem_takeWhile_imp hc

/-- The two tests for an overflow, one of the number and one of the product, are one of the product. -/
theorem parse_eq (input : String) :
    parse input =
      if numeral input = [] then
        if essence input = [] then .error .empty else .error (.missingNumber input)
      else
        match exponent? (unit input) with
        | none => .error (.unknownUnit (unit input) input)
        | some e =>
          if value input * 1024 ^ e < 2 ^ 64 then .ok (value input * 1024 ^ e) else .error (.overflow input) := by
  have hbound : Text.wordBound = 2 ^ 64 := by decide
  have happend : numeral input ++ (essence input).dropWhile Char.isDigit = essence input :=
    List.takeWhile_append_dropWhile
  simp only [parse, split_eq, hbound]
  by_cases hd : numeral input = []
  · rw [hd, List.nil_append] at happend
    rw [if_pos hd, hd, happend]
    by_cases he : essence input = []
    · rw [if_pos he, he]
      rfl
    · have hne : (essence input).isEmpty = false := List.isEmpty_eq_false_iff.2 he
      rw [if_neg he, hne]
      rfl
  · have hne : (numeral input).isEmpty = false := List.isEmpty_eq_false_iff.2 hd
    rw [if_neg hd, hne, Bool.false_and, ← unit]
    cases hunit : exponent? (unit input) with
    | none => rfl
    | some e =>
        simp only [bind, Except.bind, Bool.false_eq_true, if_false, pure, Except.pure]
        rw [readDigits_numeral]
        by_cases hv : value input < 2 ^ 64
        · rw [if_pos hv]
          rfl
        · -- A number that is too large by itself is too large in any unit.
          have hone : 0 < 1024 ^ e := Nat.pow_pos (by decide)
          have hproduct : ¬ value input * 1024 ^ e < 2 ^ 64 :=
            fun hlt => hv (Nat.lt_of_le_of_lt (Nat.le_mul_of_pos_right (value input) hone) hlt)
          rw [if_neg hv, if_neg hproduct]
          rfl

theorem parse_eq_iff {input : String} {r : Except Error Nat} : parse input = r ↔ Reads input r := by
  rw [parse_eq]
  constructor
  · rintro rfl
    split
    · rename_i hd
      split
      · rename_i h
        exact .empty h
      · rename_i h
        exact .missingNumber h hd
    · rename_i hd
      split
      · rename_i hunit
        exact .unknownUnit hd (exponent?_eq_none_iff.1 hunit)
      · rename_i e hunit
        have hu : IsUnit (unit input) e := exponent?_eq_some_iff.1 hunit
        split
        · rename_i hlt
          exact .size hd hu hlt
        · rename_i hge
          exact .overflow hd hu (Nat.le_of_not_lt hge)
  · intro h
    cases h with
    | empty h =>
        have hd : numeral input = [] := by rw [numeral, h, List.takeWhile_nil]
        rw [if_pos hd, if_pos h]
    | missingNumber h hd => rw [if_pos hd, if_neg h]
    | unknownUnit hd hu => rw [if_neg hd, exponent?_eq_none_iff.2 hu]
    | overflow hd hu h =>
        rw [if_neg hd, exponent?_eq_some_iff.2 hu]
        exact if_neg (Nat.not_lt.2 h)
    | size hd hu h =>
        rw [if_neg hd, exponent?_eq_some_iff.2 hu]
        exact if_pos h

def Error.quoting (input : String) : Error → Error
  | .empty => .empty
  | .missingNumber _ => .missingNumber input
  | .unknownUnit unit _ => .unknownUnit unit input
  | .overflow _ => .overflow input

theorem parse_of_essence {input other : String} (h : essence other = essence input) :
    parse other = (parse input).mapError (.quoting other) := by
  have hnumeral : numeral other = numeral input := congrArg (List.takeWhile Char.isDigit) h
  have hunit : unit other = unit input := congrArg (fun l => String.ofList (List.dropWhile Char.isDigit l)) h
  have hvalue : value other = value input := congrArg (Nat.ofDigitChars 10 · 0) hnumeral
  rw [parse_eq, parse_eq input, h, hnumeral, hunit, hvalue]
  split
  · split <;> rfl
  · split
    · rfl
    · split <;> rfl

theorem essence_of_case {input other : String}
    (h : other.toList.map Char.toLower = input.toList.map Char.toLower) : essence other = essence input := by
  have htrim := congrArg Text.trim h
  rwa [Text.trim_map_toLower, Text.trim_map_toLower] at htrim

theorem essence_of_blanks {front back : List Char} (hf : ∀ c ∈ front, Text.isBlank c = true)
    (hb : ∀ c ∈ back, Text.isBlank c = true) (input : String) :
    essence (String.ofList (front ++ input.toList ++ back)) = essence input := by
  have htrim := congrArg (List.map Char.toLower) (Text.trim_append hf hb input.toList)
  rw [essence, String.toList_ofList]
  exact htrim

/-- An input is parsed as what it says, which is a size exactly if that is below 2 ^ 64. Blanks around it
and the case of its letters make no difference, but that a complaint quotes the input as it is. -/
theorem parse_reads_exactly (input : String) :
    (∀ r, parse input = r ↔ Reads input r) ∧
    (∀ front back : List Char, (∀ c ∈ front, Text.isBlank c = true) → (∀ c ∈ back, Text.isBlank c = true) →
      let other := String.ofList (front ++ input.toList ++ back)
      parse other = (parse input).mapError (.quoting other)) ∧
    ∀ other : String, other.toList.map Char.toLower = input.toList.map Char.toLower →
      parse other = (parse input).mapError (.quoting other) := by
  refine ⟨fun r => parse_eq_iff, fun front back hf hb => ?_, fun other h => ?_⟩
  · exact parse_of_essence (essence_of_blanks hf hb input)
  · exact parse_of_essence (essence_of_case h)

/-- The largest size in its unit, the first number that is too large for it, and the same with blanks around
it and other letters. -/
theorem parse_reads_exactly_limits :
    (∀ c ∈ ['\u2003'], Text.isBlank c = true) ∧ (∀ c ∈ ['\t'], Text.isBlank c = true) ∧
    "18014398509481984kB".toList.map Char.toLower = "18014398509481984Kb".toList.map Char.toLower ∧
    parse "18014398509481983Kb" = .ok 18446744073709550592 ∧
    parse "18014398509481984Kb" = .error (.overflow "18014398509481984Kb") ∧
    parse "\u200318014398509481984Kb\t" = .error (.overflow "\u200318014398509481984Kb\t") ∧
    parse "18014398509481984kB" = .error (.overflow "18014398509481984kB") := by
  have hfront : ∀ c ∈ ['\u2003'], Text.isBlank c = true := List.forall_mem_singleton.2 rfl
  have hback : ∀ c ∈ ['\t'], Text.isBlank c = true := List.forall_mem_singleton.2 rfl
  have hcase : "18014398509481984kB".toList.map Char.toLower = "18014398509481984Kb".toList.map Char.toLower := by
    decide
  have hsize : Reads "18014398509481983Kb" (.ok (value "18014398509481983Kb" * 1024 ^ 1)) :=
    .size (by decide) ⟨["k", "kb"], rfl, by decide⟩ (by decide)
  have hlarge : Reads "18014398509481984Kb" (.error (.overflow "18014398509481984Kb")) :=
    .overflow (e := 1) (by decide) ⟨["k", "kb"], rfl, by decide⟩ (by decide)
  obtain ⟨hreads, hblanks, hletters⟩ := parse_reads_exactly "18014398509481984Kb"
  have hparse := (hreads _).2 hlarge
  refine ⟨hfront, hback, hcase, ?_, hparse, ?_, ?_⟩
  · exact ((parse_reads_exactly "18014398509481983Kb").1 _).2 hsize
  · exact (hblanks _ _ hfront hback).trans (congrArg (Except.mapError _) hparse)
  · exact (hletters _ hcase).trans (congrArg (Except.mapError _) hparse)

end ByteSize

end BatchClassifier
