import Mathlib.Analysis.SpecialFunctions.Log.Basic
import BatchClassifier.Ranking
import BatchClassifier.Proofs.Ranking.Order

namespace BatchClassifier

/-- A field with powers: they are positive, grow with the exponent and make products of sums. -/
class Exponential (K : Type) [Field K] [LinearOrder K] where
  power : K → K
  power_pos : ∀ x, 0 < power x
  power_strictMono : StrictMono power
  power_add : ∀ x y, power (x + y) = power x * power y

section Exact

variable {K : Type} [Field K] [LinearOrder K] [Exponential K]

/-- Nothing is rounded, and any two scores compare. -/
instance Exponential.toScalar : Scalar K where
  zero := 0
  exp := Exponential.power
  larger := max
  exceeds x y := y < x

theorem exceeds_of_strictMono {f : K → K} (hf : StrictMono f) (x y : K) :
    Scalar.exceeds (f x) (f y) = Scalar.exceeds x y :=
  decide_eq_decide.2 hf.lt_iff_lt

theorem largest?_eq_max? (scores : List K) : largest? scores = scores.max? := by
  cases scores <;> rfl

theorem largest?_eq_some_iff {scores : List K} {top : K} :
    largest? scores = some top ↔ top ∈ scores ∧ ∀ s ∈ scores, s ≤ top := by
  rw [largest?_eq_max?, List.max?_eq_some_iff]

theorem total_eq_sum (ps : List K) : total ps = ps.sum := List.sum_eq_foldl.symm

end Exact

namespace Exponential

variable {K : Type} [Field K] [LinearOrder K] [Exponential K]

theorem power_ne_zero (x : K) : power x ≠ 0 := (power_pos x).ne'

theorem power_sub (x y : K) : power (x - y) = power x / power y := by
  rw [eq_div_iff (power_ne_zero y), ← power_add, sub_add_cancel]

end Exponential

namespace Softmax

open Exponential Ranking

theorem sum_map_div {K : Type} [Field K] (f : K → K) (c : K) (scores : List K) :
    (scores.map fun s => f s / c).sum = (scores.map f).sum / c := by
  simp only [div_eq_mul_inv, List.sum_map_mul_right]

variable {K : Type} [Field K] [LinearOrder K] [Exponential K] {scores : List K} {s top : K}

def weight (scores : List K) : K := (scores.map power).sum

def share (scores : List K) (s : K) : K := power s / weight scores

section Cancelling

theorem powers_eq (top : K) (scores : List K) : powers top scores = scores.map fun s => power s / power top :=
  List.map_congr_left fun s _ => power_sub s top

theorem total_powers (top : K) (scores : List K) : total (powers top scores) = weight scores / power top := by
  rw [total_eq_sum, powers_eq, sum_map_div, weight]

theorem softmax_of_largest (h : largest? scores = some top) :
    softmax scores = (powers top scores).map (· / total (powers top scores)) := by
  rw [softmax, h]

theorem exists_largest (h : scores ≠ []) : ∃ top, largest? scores = some top := by
  cases scores with
  | nil => exact absurd rfl h
  | cons s rest => exact ⟨_, rfl⟩

/-- Numerator and divisor are the smaller by the same factor, so the largest score has no influence. -/
theorem softmax_eq (scores : List K) : softmax scores = scores.map (share scores) := by
  cases h : largest? scores with
  | none =>
      rw [largest?_eq_max?, List.max?_eq_none_iff] at h
      rw [h]
      rfl
  | some top =>
      rw [softmax_of_largest h, total_powers, powers_eq, List.map_map]
      refine List.map_congr_left fun s _ => ?_
      exact div_div_div_cancel_right₀ (power_ne_zero top) (power s) (weight scores)

theorem getElem?_softmax {i : Nat} (h : scores[i]? = some s) : (softmax scores)[i]? = some (share scores s) := by
  rw [softmax_eq, List.getElem?_map, h, Option.map_some]

end Cancelling

section Shifting

theorem weight_shift (scores : List K) (c : K) : weight (scores.map (· + c)) = weight scores * power c := by
  rw [weight, List.map_map, weight, ← List.sum_map_mul_right]
  exact congrArg List.sum (List.map_congr_left fun s _ => power_add s c)

theorem share_shift (scores : List K) (c s : K) : share (scores.map (· + c)) (s + c) = share scores s := by
  rw [share, weight_shift, power_add, mul_div_mul_right _ _ (power_ne_zero c), share]

theorem softmax_shift (scores : List K) (c : K) : softmax (scores.map (· + c)) = softmax scores := by
  rw [softmax_eq, softmax_eq, List.map_map]
  exact List.map_congr_left fun s _ => share_shift scores c s

end Shifting

section Order

variable [IsStrictOrderedRing K]

theorem power_le_weight (hs : s ∈ scores) : power s ≤ weight scores := by
  refine List.single_le_sum ?_ (power s) (List.mem_map_of_mem hs)
  intro p hp
  obtain ⟨t, -, rfl⟩ := List.mem_map.1 hp
  exact (power_pos t).le

theorem weight_pos (h : scores ≠ []) : 0 < weight scores := by
  obtain ⟨s, hs⟩ := List.exists_mem_of_ne_nil scores h
  exact (power_pos s).trans_le (power_le_weight hs)

theorem one_le_total (h : largest? scores = some top) : 1 ≤ total (powers top scores) := by
  rw [total_powers, one_le_div₀ (power_pos top)]
  exact power_le_weight (largest?_eq_some_iff.1 h).1

theorem share_pos (h : scores ≠ []) (s : K) : 0 < share scores s := div_pos (power_pos s) (weight_pos h)

theorem share_le_one (hs : s ∈ scores) : share scores s ≤ 1 :=
  (div_le_one₀ (weight_pos (List.ne_nil_of_mem hs))).2 (power_le_weight hs)

theorem share_strictMono (h : scores ≠ []) : StrictMono (share scores) := fun _ _ hst =>
  div_lt_div_of_pos_right (power_strictMono hst) (weight_pos h)

theorem sum_softmax (h : scores ≠ []) : (softmax scores).sum = 1 :=
  calc (softmax scores).sum = (scores.map (share scores)).sum := by rw [softmax_eq]
    _ = weight scores / weight scores := sum_map_div power (weight scores) scores
    _ = 1 := div_self (weight_pos h).ne'

theorem topK_softmax (scores : List K) (k : Nat) (classes : ClassNames) :
    topK (softmax scores) k classes =
      (topK scores k classes).map fun p => ⟨p.name, share scores p.confidence⟩ := by
  by_cases h : scores = []
  · subst h
    cases k <;> rfl
  · rw [softmax_eq, topK_map (exceeds_of_strictMono (share_strictMono h))]

end Order

/-- Softmax in exact arithmetic. The divisor is never less than one, so the shares are well defined; they
are positive and add up to one, stay the same if all scores are raised by one amount, and are ordered as
the scores are, so that the ranking names the same classes with them as without them. -/
theorem shares_ranked_alike [IsStrictOrderedRing K] (scores : List K) (classes : ClassNames) :
    (softmax scores).length = scores.length ∧ softmax ([] : List K) = [] ∧
    (scores ≠ [] → ∃ top, largest? scores = some top ∧ (∀ s ∈ scores, s ≤ top) ∧
      1 ≤ total (powers top scores) ∧
      softmax scores = (powers top scores).map (· / total (powers top scores))) ∧
    (∀ p ∈ softmax scores, 0 < p ∧ p ≤ 1) ∧
    (scores ≠ [] → (softmax scores).sum = 1) ∧
    (∀ c, softmax (scores.map (· + c)) = softmax scores) ∧
    (∀ (i j : Nat) (s t : K), scores[i]? = some s → scores[j]? = some t →
      ∃ p q : K, (softmax scores)[i]? = some p ∧ (softmax scores)[j]? = some q ∧ (s < t ↔ p < q)) ∧
    ∀ k, (topK (softmax scores) k classes).map (·.name) = (topK scores k classes).map (·.name) := by
  refine ⟨length_softmax scores, rfl, ?_, ?_, sum_softmax, softmax_shift scores, ?_, ?_⟩
  · intro h
    obtain ⟨top, htop⟩ := exists_largest h
    exact ⟨top, htop, (largest?_eq_some_iff.1 htop).2, one_le_total htop, softmax_of_largest htop⟩
  · intro p hp
    rw [softmax_eq] at hp
    obtain ⟨s, hs, rfl⟩ := List.mem_map.1 hp
    exact ⟨share_pos (List.ne_nil_of_mem hs) s, share_le_one hs⟩
  · intro i j s t hs ht
    have hmono := share_strictMono (List.ne_nil_of_mem (List.mem_of_getElem? hs))
    exact ⟨_, _, getElem?_softmax hs, getElem?_softmax ht, hmono.lt_iff_lt.symm⟩
  · intro k
    rw [topK_softmax, List.map_map]
    rfl

noncomputable instance : Exponential ℝ where
  power := Real.exp
  power_pos := Real.exp_pos
  power_strictMono := Real.exp_strictMono
  power_add := Real.exp_add

/-- Between two equal scores one with twice their power: a half between two quarters. -/
theorem shares_ranked_alike_halved :
    let scores : List ℝ := [0, Real.log 2, 0]
    let classes := ClassNames.ofList ["a", "b"]
    softmax scores = [1 / 4, 1 / 2, 1 / 4] ∧ (softmax scores).sum = 1 ∧
    softmax [0 + 3, Real.log 2 + 3, 0 + 3] = softmax scores ∧
    (topK (softmax scores) 3 classes).map (·.name) = ["b", "a", "class_2"] := by
  intro scores classes
  have hlog : 0 < Real.log 2 := Real.log_pos one_lt_two
  have hshares : softmax scores = [1 / 4, 1 / 2, 1 / 4] := by
    rw [softmax_eq]
    norm_num [scores, share, weight, power, Real.exp_log]
  have hrank : rank scores = [(1, Real.log 2), (0, 0), (2, 0)] := by
    simp [rank, place, Scalar.exceeds, scores, hlog]
  have hnames : (topK scores 3 classes).map (·.name) = ["b", "a", "class_2"] := by
    rw [topK, hrank]
    decide
  obtain ⟨-, -, -, -, hsum, hshift, -, hranked⟩ := shares_ranked_alike scores classes
  exact ⟨hshares, hsum (List.cons_ne_nil _ _), hshift 3, (hranked 3).trans hnames⟩

end Softmax

end BatchClassifier
