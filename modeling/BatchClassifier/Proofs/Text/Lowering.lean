import BatchClassifier.Text.Cut
import Mathlib.Data.List.TakeWhile

namespace BatchClassifier.Text

theorem toLower_cases (c : Char) :
    c.toLower = c ∨ 65 ≤ c.toNat ∧ c.toNat ≤ 90 ∧ c.toLower.toNat = c.toNat + 32 := by
  by_cases h : c.val ≥ 'A'.val ∧ c.val ≤ 'Z'.val
  · obtain ⟨hlow, hhigh⟩ : 65 ≤ c.toNat ∧ c.toNat ≤ 90 := by
      simpa [UInt32.le_iff_toNat_le] using h
    have hmoved : c.toLower.toNat = (c.toNat + 32) % 2 ^ 32 :=
      (congrArg Char.toNat (dif_pos h)).trans (UInt32.toNat_add c.val 32)
    exact .inr ⟨hlow, hhigh, by omega⟩
  · exact .inl (dif_neg h)

theorem toLower_toLower (c : Char) : c.toLower.toLower = c.toLower := by
  rcases toLower_cases c with h | ⟨hlow, -, hmoved⟩
  · rw [h, h]
  · rcases toLower_cases c.toLower with h | ⟨-, hhigh, -⟩
    · exact h
    · omega

theorem toLower_eq_iff {c d : Char} (hd : d.toNat < 65) : c.toLower = d ↔ c = d := by
  rcases toLower_cases c with h | ⟨hlow, -, hmoved⟩
  · rw [h]
  · constructor
    · rintro rfl
      omega
    · rintro rfl
      omega

theorem isBlank_eq_false {c : Char} (hl : 0x20 < c.toNat) (hh : c.toNat < 0x85) : isBlank c = false := by
  simp only [isBlank, blanks, List.any_eq_false, List.forall_mem_cons, Bool.and_eq_true, decide_eq_true_eq]
  simp only [List.not_mem_nil, false_implies, implies_true, and_true]
  omega

theorem isBlank_toLower (c : Char) : isBlank c.toLower = isBlank c := by
  rcases toLower_cases c with h | ⟨hlow, hhigh, hmoved⟩
  · rw [h]
  · rw [isBlank_eq_false (by omega) (by omega), isBlank_eq_false (by omega) (by omega)]

theorem trim_map_toLower (text : List Char) : trim (text.map Char.toLower) = (trim text).map Char.toLower := by
  have hblank : isBlank ∘ Char.toLower = isBlank := funext isBlank_toLower
  rw [trim, trimEnd, List.dropWhile_map, hblank, ← List.map_reverse, List.dropWhile_map, hblank,
    ← List.map_reverse]
  rfl

theorem trim_append {front back : List Char} (hf : ∀ c ∈ front, isBlank c = true)
    (hb : ∀ c ∈ back, isBlank c = true) (text : List Char) : trim (front ++ text ++ back) = trim text := by
  have hfront : (front ++ text ++ back).dropWhile isBlank = (text ++ back).dropWhile isBlank := by
    rw [List.append_assoc, List.dropWhile_append_of_pos hf]
  have hback : ∀ l : List Char, trimEnd (l ++ back) = trimEnd l := by
    intro l
    have hreverse : ∀ c ∈ back.reverse, isBlank c = true := fun c hc => hb c (List.mem_reverse.1 hc)
    rw [trimEnd, trimEnd, List.reverse_append, List.dropWhile_append_of_pos hreverse]
  rw [trim, trim, hfront, List.dropWhile_append]
  split
  · rename_i he
    have hall : text.dropWhile isBlank = [] := List.isEmpty_iff.1 he
    have hnone : back.dropWhile isBlank = [] := List.dropWhile_eq_nil_iff.2 hb
    rw [hall, hnone]
  · exact hback _

end BatchClassifier.Text
