import BatchClassifier.Proofs.Ranking.Comparison
import BatchClassifier.Proofs.Ranking.Walls
import Mathlib.Data.List.Nodup

namespace BatchClassifier.Ranking

variable {s t : Nat × Score} {scores : List Score} {k : Nat} {chosen : List (Nat × Score)}

section Preceding

/-- The greater score comes first and, of equal scores, that of the smaller index. -/
def Precedes (s t : Nat × Score) : Prop := t.2 ≤ s.2 ∧ ((t.2 == s.2) = true → s.1 < t.1)

theorem precedes_iff (hs : s.2.isNaN = false) (ht : t.2.isNaN = false) :
    Precedes s t ↔ Above Score.key s t := by
  rw [Precedes, Score.le_iff ht hs, Score.beq_iff ht hs, Above]
  constructor
  · rintro ⟨hle, hi⟩
    rcases hle.lt_or_eq with hlt | heq
    · exact .inl hlt
    · exact .inr ⟨heq.symm, hi heq⟩
  · rintro (hlt | ⟨heq, hi⟩)
    · exact ⟨hlt.le, fun h => absurd h hlt.ne⟩
    · exact ⟨heq.ge, fun _ => hi⟩

theorem Above.trans {κ : Type} [LinearOrder κ] {key : Score → κ} {u : Nat × Score}
    (hst : Above key s t) (htu : Above key t u) : Above key s u := by
  rcases hst with hst | ⟨hst, hi⟩
  · rcases htu with htu | ⟨htu, -⟩
    · exact .inl (htu.trans hst)
    · exact .inl (htu ▸ hst)
  · rcases htu with htu | ⟨htu, hi'⟩
    · exact .inl (hst ▸ htu)
    · exact .inr ⟨hst.trans htu, hi.trans hi'⟩

end Preceding

section Numbers

theorem mem_rank : s ∈ rank scores ↔ scores[s.1]? = some s.2 := by
  rw [rank_eq, (arrange_perm _).mem_iff, indexed, List.mem_map]
  constructor
  · rintro ⟨e, he, rfl⟩
    exact List.mem_zipIdx_iff_getElem?.1 he
  · intro h
    exact ⟨(s.2, s.1), List.mem_zipIdx_iff_getElem?.2 h, rfl⟩

theorem nodup_indices (scores : List Score) : ((rank scores).map Prod.fst).Nodup := by
  have hperm := (arrange_perm (indexed scores)).map Prod.fst
  rw [rank_eq, hperm.nodup_iff, map_fst_indexed]
  exact List.nodup_range' 1

theorem isNaN_of_getElem? (hnum : ∀ x ∈ scores, x.isNaN = false) (h : scores[s.1]? = some s.2) :
    s.2.isNaN = false :=
  hnum s.2 (List.mem_of_getElem? h)

theorem rank_sorted (hnum : ∀ x ∈ scores, x.isNaN = false) : (rank scores).Pairwise (Above Score.key) := by
  have hsorted := sorted_numbers (pairwise_indexed scores)
  rwa [numbers_eq_self] at hsorted
  intro e he
  exact isNaN_of_getElem? hnum (mem_rank.1 ((arrange_perm (indexed scores)).mem_iff.2 he))

end Numbers

section Selecting

/-- A choice of `k` scores, or of all if there are fewer, each of which precedes all that are left out. -/
structure Selection (scores : List Score) (k : Nat) (chosen : List (Nat × Score)) : Prop where
  length : chosen.length = min k scores.length
  scored : ∀ e ∈ chosen, scores[e.1]? = some e.2
  distinct : (chosen.map Prod.fst).Nodup
  ordered : chosen.Pairwise Precedes
  best : ∀ i x, scores[i]? = some x → i ∉ chosen.map Prod.fst →
    ∀ last ∈ chosen.getLast?, Precedes last (i, x)

theorem selection_take (hnum : ∀ x ∈ scores, x.isNaN = false) (k : Nat) :
    Selection scores k ((rank scores).take k) := by
  have hmem : ∀ e ∈ (rank scores).take k, scores[e.1]? = some e.2 := fun e he =>
    mem_rank.1 (List.mem_of_mem_take he)
  have hsorted := rank_sorted hnum
  constructor
  · rw [List.length_take, length_rank]
  · exact hmem
  · exact (nodup_indices scores).sublist ((List.take_sublist k _).map Prod.fst)
  · refine (hsorted.sublist (List.take_sublist k _)).imp_of_mem fun hs ht hst => ?_
    exact (precedes_iff (isNaN_of_getElem? hnum (hmem _ hs)) (isNaN_of_getElem? hnum (hmem _ ht))).2 hst
  · intro i x hx hi last hlast
    have hlast := List.mem_of_getLast? hlast
    have hdrop : (i, x) ∈ (rank scores).drop k := by
      have hall : (i, x) ∈ (rank scores).take k ++ (rank scores).drop k := by
        rw [List.take_append_drop]
        exact mem_rank.2 hx
      rcases List.mem_append.1 hall with htake | hdrop
      · exact absurd (List.mem_map_of_mem htake) hi
      · exact hdrop
    rw [← List.take_append_drop k (rank scores)] at hsorted
    have habove := (List.pairwise_append.1 hsorted).2.2 last hlast (i, x) hdrop
    exact (precedes_iff (isNaN_of_getElem? hnum (hmem last hlast)) (isNaN_of_getElem? hnum hx)).2 habove

def others (chosen ranked : List (Nat × Score)) : List (Nat × Score) :=
  ranked.filter fun e => e.1 ∉ chosen.map Prod.fst

theorem Selection.perm (h : Selection scores k chosen) :
    (chosen ++ others chosen (rank scores)).Perm (rank scores) := by
  have hchosen : chosen.Perm ((rank scores).filter fun e => e.1 ∈ chosen.map Prod.fst) := by
    have hnodup := (List.Nodup.of_map Prod.fst (nodup_indices scores)).filter (·.1 ∈ chosen.map Prod.fst)
    refine (List.perm_ext_iff_of_nodup (List.Nodup.of_map Prod.fst h.distinct) hnodup).2 fun e => ?_
    rw [List.mem_filter, mem_rank, decide_eq_true_iff]
    constructor
    · intro he
      exact ⟨h.scored e he, List.mem_map_of_mem he⟩
    · rintro ⟨hx, hi⟩
      obtain ⟨e', he', hi⟩ := List.mem_map.1 hi
      have hx' := h.scored e' he'
      rw [hi, hx, Option.some.injEq] at hx'
      rwa [← Prod.ext hi hx'.symm]
  refine (hchosen.append_right _).trans ?_
  simpa [others] using List.filter_append_perm (fun e => decide (e.1 ∈ chosen.map Prod.fst)) (rank scores)

theorem Selection.sorted (h : Selection scores k chosen) (hnum : ∀ x ∈ scores, x.isNaN = false) :
    (chosen ++ others chosen (rank scores)).Pairwise (Above Score.key) := by
  have hchosen : chosen.Pairwise (Above Score.key) := h.ordered.imp_of_mem fun hs ht hst =>
    (precedes_iff (isNaN_of_getElem? hnum (h.scored _ hs)) (isNaN_of_getElem? hnum (h.scored _ ht))).1 hst
  refine List.pairwise_append.2 ⟨hchosen, (rank_sorted hnum).sublist List.filter_sublist, ?_⟩
  intro s hs t ht
  -- All that is chosen is above the last of it, and that one is above all that is left out.
  obtain ⟨ht, hout⟩ := List.mem_filter.1 ht
  have hx := mem_rank.1 ht
  rcases List.eq_nil_or_concat' chosen with rfl | ⟨front, last, rfl⟩
  · cases hs
  · have hlast := h.scored last (by simp)
    have hbest := h.best t.1 t.2 hx (by simpa using hout) last (by simp)
    have habove := (precedes_iff (isNaN_of_getElem? hnum hlast) (isNaN_of_getElem? hnum hx)).1 hbest
    rcases List.mem_append.1 hs with hs | hs
    · exact ((List.pairwise_append.1 hchosen).2.2 s hs last List.mem_cons_self).trans habove
    · rwa [List.mem_singleton.1 hs]

theorem Selection.eq_take (h : Selection scores k chosen) (hnum : ∀ x ∈ scores, x.isNaN = false) :
    chosen = (rank scores).take k := by
  have hrank := eq_of_above (h.sorted hnum) (rank_sorted hnum) h.perm
  rw [List.take_eq_take_min, length_rank, ← h.length, ← hrank, List.take_left]

end Selecting

section Showing

structure Shows (classes : ClassNames) (e : Nat × Score) (p : Prediction Score) : Prop where
  confidence : p.confidence = e.2
  named : ∀ h : e.1 < classes.names.size, p.name = classes.names[e.1]
  unnamed : classes.names.size ≤ e.1 → p.name = "class_" ++ toString e.1

theorem shows_label (classes : ClassNames) (e : Nat × Score) : Shows classes e ⟨classes.label e.1, e.2⟩ := by
  constructor
  · rfl
  · intro h
    simp [ClassNames.label, ClassNames.get?, h]
  · intro h
    simp [ClassNames.label, ClassNames.get?, Array.getElem?_eq_none h]

theorem shows_topK (scores : List Score) (k : Nat) (classes : ClassNames) :
    List.Forall₂ (Shows classes) ((rank scores).take k) (topK scores k classes) := by
  rw [topK, List.forall₂_map_right_iff]
  exact List.forall₂_same.2 fun e _ => shows_label classes e

theorem topK_eq_take {j : Nat} (h : j ≤ k) (scores : List Score) (classes : ClassNames) :
    topK scores j classes = (topK scores k classes).take j := by
  rw [topK, topK, ← List.map_take, List.take_take, min_eq_left h]

/-- The predictions show the one selection that there is, and fewer of them are a prefix of more. -/
theorem topK_shows_selection (scores : List Score) (k : Nat) (classes : ClassNames)
    (hnum : ∀ x ∈ scores, x.isNaN = false) :
    (∃! chosen, Selection scores k chosen) ∧
    (∀ chosen, Selection scores k chosen → List.Forall₂ (Shows classes) chosen (topK scores k classes)) ∧
    (topK scores k classes).length = min k scores.length ∧
    ∀ j ≤ k, topK scores j classes = (topK scores k classes).take j := by
  have hselection := selection_take hnum k
  have hshows := shows_topK scores k classes
  refine ⟨⟨_, hselection, fun chosen h => h.eq_take hnum⟩, ?_, ?_, ?_⟩
  · intro chosen h
    rwa [h.eq_take hnum]
  · rw [← hshows.length_eq, hselection.length]
  · intro j hj
    exact topK_eq_take hj scores classes

/-- Minus zero, infinity, zero, one, minus infinity: the zeros are equal and keep their order. -/
theorem topK_shows_selection_zeros :
    let scores : List Score := [0x80000000, 0x7F800000, 0, 0x3F800000, 0xFF800000].map Float32.ofBits
    let classes := ClassNames.ofList ["a", "b"]
    let zeros := [(1, .ofBits 0x7F800000), (3, .ofBits 0x3F800000), (0, .ofBits 0x80000000), (2, .ofBits 0)]
    (∀ x ∈ scores, x.isNaN = false) ∧ Selection scores 4 zeros ∧
    ((topK scores 4 classes).map (·.name) = ["b", "class_3", "a", "class_2"]) ∧
    topK scores 3 classes = (topK scores 4 classes).take 3 := by
  intro scores classes zeros
  have hnum : ∀ x ∈ scores, x.isNaN = false := by decide
  obtain ⟨⟨chosen, hchosen, -⟩, -, -, hprefix⟩ := topK_shows_selection scores 4 classes hnum
  have hzeros : chosen = zeros := by
    rw [hchosen.eq_take hnum]
    rfl
  exact ⟨hnum, hzeros ▸ hchosen, by decide, hprefix 3 (by decide)⟩

end Showing

end BatchClassifier.Ranking
