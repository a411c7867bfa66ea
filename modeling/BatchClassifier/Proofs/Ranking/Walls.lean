import BatchClassifier.Proofs.Ranking.Order
import Mathlib.Data.List.Basic

namespace BatchClassifier.Ranking

variable {entries : List (Nat × Score)} {scores : List Score}

def numbers (entries : List (Nat × Score)) : List (Nat × Score) := entries.filter fun e => !e.2.isNaN

@[simp] theorem mem_numbers {e : Nat × Score} : e ∈ numbers entries ↔ e ∈ entries ∧ e.2.isNaN = false := by
  simp [numbers]

theorem numbers_eq_self (h : ∀ e ∈ entries, e.2.isNaN = false) : numbers entries = entries := by
  rw [numbers, List.filter_eq_self]
  intro e he
  simp [h e he]

theorem compared_numbers (entries : List (Nat × Score)) : ComparedBy Score.key (numbers entries) := by
  intro s hs t ht
  have hs := (mem_numbers.1 hs).2
  have ht := (mem_numbers.1 ht).2
  change s.2.exceeds t.2 = true ↔ _
  rw [Score.exceeds_iff]
  simp [hs, ht]

theorem sorted_numbers (hi : entries.Pairwise fun s t => s.1 < t.1) :
    (arrange (numbers entries)).Pairwise (Above Score.key) :=
  arrange_sorted (compared_numbers entries) (hi.sublist List.filter_sublist)

theorem numbers_arrange_perm (entries : List (Nat × Score)) :
    (numbers (arrange entries)).Perm (arrange (numbers entries)) :=
  ((arrange_perm entries).filter _).trans (arrange_perm (numbers entries)).symm

theorem arrange_around {w : Nat × Score} (hw : w.2.isNaN = true) (before after : List (Nat × Score)) :
    arrange (before ++ w :: after) = arrange before ++ w :: arrange after :=
  arrange_append (fun _ => Score.exceeds_nan_left hw) (fun _ => Score.exceeds_nan_right hw) before after

theorem numbers_around {w : Nat × Score} (hw : w.2.isNaN = true) (before after : List (Nat × Score)) :
    numbers (arrange (before ++ w :: after)) = numbers (arrange before) ++ numbers (arrange after) := by
  simp [arrange_around hw, numbers, hw]

theorem rank_around {nan : Score} (h : nan.isNaN = true) (before after : List Score) :
    rank (before ++ nan :: after) =
      rank before ++ (before.length, nan) :: shift (before.length + 1) (rank after) := by
  have hindexed : indexed (before ++ nan :: after) =
      indexed before ++ (before.length, nan) :: shift (before.length + 1) (indexed after) := by
    rw [List.append_cons, indexed_append, indexed_append, List.append_assoc, List.length_append]
    rfl
  have harrange := arrange_around (w := (before.length, nan)) h (indexed before)
    (shift (before.length + 1) (indexed after))
  rw [rank_eq, hindexed, harrange, arrange_shift]
  rfl

/-- Nothing that stands behind a NaN exceeds anything that stands before it. -/
def Unsplit (scores : List Score) : Prop :=
  ∀ before nan after, scores = before ++ nan :: after → nan.isNaN = true →
    ∀ a ∈ before, ∀ b ∈ after, b.exceeds a = false

namespace Unsplit

variable {before after : List Score} {nan : Score}

theorem left (h : Unsplit (before ++ nan :: after)) : Unsplit before := by
  rintro before' nan' after' rfl hnan a ha b hb
  exact h before' nan' (after' ++ nan :: after) (by simp) hnan a ha b (List.mem_append_left _ hb)

theorem right (h : Unsplit (before ++ nan :: after)) : Unsplit after := by
  rintro before' nan' after' rfl hnan a ha b hb
  have ha : a ∈ before ++ nan :: before' := List.mem_append_right before (List.mem_cons_of_mem nan ha)
  exact h (before ++ nan :: before') nan' after' (by simp) hnan a ha b hb

end Unsplit

theorem above_iff {a b : Nat × Score} (ha : a.2.isNaN = false) (hb : b.2.isNaN = false) (hi : a.1 < b.1) :
    Above Score.key a b ↔ b.2.exceeds a.2 = false := by
  rw [Score.not_exceeds_iff hb ha, Above, le_iff_lt_or_eq]
  constructor
  · rintro (h | ⟨h, -⟩)
    · exact .inl h
    · exact .inr h.symm
  · rintro (h | h)
    · exact .inl h
    · exact .inr ⟨h.symm, hi⟩

-- A NaN splits the entries into two shorter lists, to which the induction on the length applies.
theorem sorted_of_unsplit (hi : entries.Pairwise fun s t => s.1 < t.1)
    (h : Unsplit (entries.map Prod.snd)) : (numbers (arrange entries)).Pairwise (Above Score.key) := by
  induction hlen : entries.length using Nat.strong_induction_on generalizing entries with
  | h n ih =>
      by_cases hn : ∃ w ∈ entries, w.2.isNaN = true
      · obtain ⟨w, hw, hnan⟩ := hn
        obtain ⟨before, after, rfl⟩ := List.append_of_mem hw
        obtain ⟨hbefore, hafter, hacross⟩ := List.pairwise_append.1 hi
        rw [List.map_append, List.map_cons] at h
        have hleft := ih before.length (by simp at hlen; omega) hbefore h.left rfl
        have hright := ih after.length (by simp at hlen; omega) hafter.of_cons h.right rfl
        rw [numbers_around hnan]
        refine List.pairwise_append.2 ⟨hleft, hright, ?_⟩
        intro a ha b hb
        obtain ⟨ha, han⟩ := mem_numbers.1 ha
        obtain ⟨hb, hbn⟩ := mem_numbers.1 hb
        have ha := (arrange_perm before).mem_iff.1 ha
        have hb := (arrange_perm after).mem_iff.1 hb
        rw [above_iff han hbn (hacross a ha b (List.mem_cons_of_mem w hb))]
        exact h _ _ _ rfl hnan _ (List.mem_map_of_mem ha) _ (List.mem_map_of_mem hb)
      · have hall : ∀ e ∈ entries, e.2.isNaN = false := fun e he =>
          Bool.eq_false_iff.2 fun hnan => hn ⟨e, he, hnan⟩
        have hsorted := sorted_numbers hi
        rw [numbers_eq_self hall] at hsorted
        rwa [numbers_eq_self fun e he => hall e ((arrange_perm entries).mem_iff.1 he)]

/-- Of two listed scores, the later one never exceeds the earlier one. -/
def Falling (ranked : List (Nat × Score)) : Prop := ranked.Pairwise fun s t => t.2.exceeds s.2 = false

theorem falling_of_sorted (h : entries.Pairwise (Above Score.key)) : Falling entries := by
  refine h.imp fun {s t} hst => Bool.eq_false_iff.2 fun he => ?_
  have hlt := (Score.exceeds_iff.1 he).2.2
  rcases hst with hgt | ⟨heq, -⟩
  · exact lt_asymm hlt hgt
  · exact absurd heq hlt.ne

theorem unsplit_of_falling (h : Falling (numbers (arrange entries))) : Unsplit (entries.map Prod.snd) := by
  intro before nan after hparts hnan a ha b hb
  obtain ⟨before, rest, rfl, rfl, hrest⟩ := List.map_eq_append_iff.1 hparts
  obtain ⟨w, after, rfl, rfl, rfl⟩ := List.map_eq_cons_iff.1 hrest
  obtain ⟨s, hs, rfl⟩ := List.mem_map.1 ha
  obtain ⟨t, ht, rfl⟩ := List.mem_map.1 hb
  by_cases hsn : s.2.isNaN = true
  · exact Score.exceeds_nan_right hsn
  by_cases htn : t.2.isNaN = true
  · exact Score.exceeds_nan_left htn
  rw [Falling, numbers_around hnan] at h
  have hs : s ∈ numbers (arrange before) :=
    mem_numbers.2 ⟨(arrange_perm before).mem_iff.2 hs, Bool.eq_false_iff.2 hsn⟩
  have ht : t ∈ numbers (arrange after) :=
    mem_numbers.2 ⟨(arrange_perm after).mem_iff.2 ht, Bool.eq_false_iff.2 htn⟩
  exact (List.pairwise_append.1 h).2.2 s hs t ht

theorem falling_iff (hi : entries.Pairwise fun s t => s.1 < t.1) :
    Falling (numbers (arrange entries)) ↔ Unsplit (entries.map Prod.snd) :=
  ⟨unsplit_of_falling, fun h => falling_of_sorted (sorted_of_unsplit hi h)⟩

theorem numbers_arrange_iff (hi : entries.Pairwise fun s t => s.1 < t.1) :
    numbers (arrange entries) = arrange (numbers entries) ↔ Unsplit (entries.map Prod.snd) := by
  constructor
  · intro h
    exact unsplit_of_falling (falling_of_sorted (h ▸ sorted_numbers hi))
  · intro h
    exact eq_of_above (sorted_of_unsplit hi h) (sorted_numbers hi) (numbers_arrange_perm entries)

/-- A NaN stays at its place in the ranking, between the ranking of the scores before it and that of the
scores behind it. So the numbers come out as if there were no NaN, or just from the highest down, only if
no number exceeds another one across a NaN. This is said of scores that are sorted by insertion, and of no
more than these, since the order of others is left open when there is a NaN among them. -/
theorem nan_parts_ranking (scores : List Score) (classes : ClassNames) : scores.length ≤ insertionLimit →
    topK scores scores.length classes = (rank scores).map (fun e => ⟨classes.label e.1, e.2⟩) ∧
    (∀ before nan after, scores = before ++ nan :: after → nan.isNaN = true →
      rank scores = rank before ++ (before.length, nan) :: shift (before.length + 1) (rank after)) ∧
    (numbers (rank scores) = arrange (numbers (indexed scores)) ↔ Unsplit scores) ∧
    (Falling (numbers (rank scores)) ↔ Unsplit scores) := by
  intro _
  have hi := pairwise_indexed scores
  have hwhole := numbers_arrange_iff hi
  have hfalling := falling_iff hi
  rw [map_snd_indexed] at hwhole hfalling
  refine ⟨?_, ?_, hwhole, hfalling⟩
  · rw [topK, List.take_of_length_le (length_rank scores).le]
  · rintro before nan after rfl hnan
    exact rank_around hnan before after

/-- Two, NaN, one: the numbers come out in order, so nothing is exceeded across the NaN. -/
theorem nan_parts_ranking_unsplit :
    let scores : List Score := [0x40000000, 0x7FC00000, 0x3F800000].map Float32.ofBits
    scores.length ≤ insertionLimit ∧ (numbers (rank scores)).map Prod.fst = [0, 2] ∧ Unsplit scores := by
  intro scores
  have hlen : scores.length ≤ insertionLimit := by decide
  have hrank : numbers (rank scores) = arrange (numbers (indexed scores)) := by decide
  exact ⟨hlen, by decide, (nan_parts_ranking scores {} hlen).2.2.1.1 hrank⟩

/-- One, NaN, two: the larger number is listed last, although it is the best of the numbers. -/
theorem larger_behind_nan_listed_last :
    let scores : List Score := [0x3F800000, 0x7FC00000, 0x40000000].map Float32.ofBits
    ((topK scores scores.length (.ofList ["a", "b", "c"])).map (·.name) = ["a", "b", "c"]) ∧
      (numbers (rank scores)).map Prod.fst = [0, 2] ∧
      (arrange (numbers (indexed scores))).map Prod.fst = [2, 0] := by
  decide

end BatchClassifier.Ranking
