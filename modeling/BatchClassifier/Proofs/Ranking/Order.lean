import BatchClassifier.Ranking
import Mathlib.Data.List.Induction
import Mathlib.Data.List.Pairwise
import Mathlib.Data.List.Perm.Basic
import Mathlib.Order.Lattice

namespace BatchClassifier

namespace Score

variable {x y : Score}

theorem exceeds_iff : x.exceeds y = true ↔ x.isNaN = false ∧ y.isNaN = false ∧ y.key < x.key := by
  simp [exceeds, and_assoc]

theorem exceeds_nan_left (h : x.isNaN = true) : x.exceeds y = false := by simp [exceeds, h]

theorem exceeds_nan_right (h : y.isNaN = true) : x.exceeds y = false := by simp [exceeds, h]

theorem not_exceeds_iff (hx : x.isNaN = false) (hy : y.isNaN = false) :
    x.exceeds y = false ↔ x.key ≤ y.key := by
  simp [exceeds, hx, hy]

end Score

namespace Ranking

section Scores

variable {α β : Type}

def indexed (scores : List α) : List (Nat × α) := scores.zipIdx.map fun (s, i) => (i, s)

def shift (n : Nat) (entries : List (Nat × α)) : List (Nat × α) := entries.map fun e => (n + e.1, e.2)

theorem indexed_append (scores more : List α) :
    indexed (scores ++ more) = indexed scores ++ shift scores.length (indexed more) := by
  have hmore : more.zipIdx (0 + scores.length) = more.zipIdx.map fun e => (e.1, scores.length + e.2) := by
    rw [Nat.zero_add, List.zipIdx_eq_map_add]
  rw [indexed, List.zipIdx_append, hmore, List.map_append, List.map_map, indexed, shift, indexed, List.map_map]
  rfl

theorem indexed_map (f : α → β) (scores : List α) :
    indexed (scores.map f) = (indexed scores).map fun e => (e.1, f e.2) := by
  rw [indexed, indexed, List.zipIdx_map, List.map_map, List.map_map]
  rfl

theorem map_fst_indexed (scores : List α) : (indexed scores).map Prod.fst = List.range' 0 scores.length := by
  rw [indexed, List.map_map, ← List.zipIdx_map_snd]
  rfl

theorem pairwise_indexed (scores : List α) : (indexed scores).Pairwise fun s t => s.1 < t.1 := by
  rw [← List.pairwise_map (f := Prod.fst), map_fst_indexed]
  exact List.pairwise_lt_range' 1

theorem map_snd_indexed (scores : List α) : (indexed scores).map Prod.snd = scores := by
  rw [indexed, List.map_map]
  exact List.zipIdx_map_fst 0 scores

@[simp] theorem length_indexed (scores : List α) : (indexed scores).length = scores.length := by
  simp [indexed]

end Scores

section Arranging

variable {α : Type} [Scalar α] {w : Nat × α}

def placeAll (entries placed : List (Nat × α)) : List (Nat × α) :=
  entries.foldl (fun placed s => place s placed) placed

def arrange (entries : List (Nat × α)) : List (Nat × α) := (placeAll entries []).reverse

theorem rank_eq (scores : List α) : rank scores = arrange (indexed scores) := rfl

theorem place_perm (s : Nat × α) (placed : List (Nat × α)) : (place s placed).Perm (s :: placed) := by
  induction placed with
  | nil => rfl
  | cons t rest ih =>
      rw [place]
      split
      · exact (ih.cons t).trans (.swap s t rest)
      · rfl

theorem placeAll_perm (entries placed : List (Nat × α)) :
    (placeAll entries placed).Perm (entries ++ placed) := by
  induction entries generalizing placed with
  | nil => rfl
  | cons s entries ih =>
      have hs := (place_perm s placed).append_left entries
      exact (ih (place s placed)).trans (hs.trans List.perm_middle)

theorem arrange_perm (entries : List (Nat × α)) : (arrange entries).Perm entries := by
  have h := placeAll_perm entries []
  rw [List.append_nil] at h
  exact (List.reverse_perm _).trans h

theorem length_rank (scores : List α) : (rank scores).length = scores.length := by
  rw [rank_eq, (arrange_perm _).length_eq, length_indexed]

theorem place_before {s : Nat × α} (h : Scalar.exceeds s.2 w.2 = false) (placed rest : List (Nat × α)) :
    place s (placed ++ w :: rest) = place s placed ++ w :: rest := by
  induction placed with
  | nil => simp [place, h]
  | cons t placed ih =>
      simp only [List.cons_append, place]
      split
      · rw [ih, List.cons_append]
      · rfl

theorem placeAll_before {entries : List (Nat × α)} (h : ∀ s ∈ entries, Scalar.exceeds s.2 w.2 = false)
    (placed rest : List (Nat × α)) :
    placeAll entries (placed ++ w :: rest) = placeAll entries placed ++ w :: rest := by
  induction entries generalizing placed with
  | nil => rfl
  | cons s entries ih =>
      have hs := place_before (h s List.mem_cons_self) placed rest
      have hentries := ih (fun t ht => h t (List.mem_cons_of_mem s ht)) (place s placed)
      rw [placeAll, List.foldl_cons, hs]
      exact hentries

theorem place_lowest (h : ∀ t : Nat × α, Scalar.exceeds w.2 t.2 = false) (placed : List (Nat × α)) :
    place w placed = w :: placed := by
  cases placed with
  | nil => rfl
  | cons t rest => simp [place, h t]

/-- An entry that compares with nothing divides the ranking where it stands. -/
theorem arrange_append (hw : ∀ t : Nat × α, Scalar.exceeds w.2 t.2 = false)
    (ht : ∀ t : Nat × α, Scalar.exceeds t.2 w.2 = false) (before after : List (Nat × α)) :
    arrange (before ++ w :: after) = arrange before ++ w :: arrange after := by
  have hafter := placeAll_before (fun t (_ : t ∈ after) => ht t) [] (placeAll before [])
  have hplaced : placeAll (before ++ w :: after) [] = placeAll after [] ++ w :: placeAll before [] := by
    rw [placeAll, List.foldl_append, List.foldl_cons, place_lowest hw]
    exact hafter
  simp [arrange, hplaced]

end Arranging

section Changing

variable {α β : Type} [Scalar α] [Scalar β] {g : Nat × α → Nat × β} {f : α → β}

theorem place_map (hg : ∀ s t, Scalar.exceeds (g s).2 (g t).2 = Scalar.exceeds s.2 t.2) (s : Nat × α)
    (placed : List (Nat × α)) : place (g s) (placed.map g) = (place s placed).map g := by
  induction placed with
  | nil => rfl
  | cons t rest ih =>
      simp only [List.map_cons, place, hg]
      split
      · rw [ih, List.map_cons]
      · rfl

theorem placeAll_map (hg : ∀ s t, Scalar.exceeds (g s).2 (g t).2 = Scalar.exceeds s.2 t.2)
    (entries placed : List (Nat × α)) :
    placeAll (entries.map g) (placed.map g) = (placeAll entries placed).map g := by
  induction entries generalizing placed with
  | nil => rfl
  | cons s entries ih =>
      change placeAll (entries.map g) (place (g s) (placed.map g)) = _
      rw [place_map hg]
      exact ih (place s placed)

theorem arrange_map (hg : ∀ s t, Scalar.exceeds (g s).2 (g t).2 = Scalar.exceeds s.2 t.2)
    (entries : List (Nat × α)) : arrange (entries.map g) = (arrange entries).map g := by
  have h : placeAll (entries.map g) [] = (placeAll entries []).map g := placeAll_map hg entries []
  rw [arrange, arrange, h]
  exact List.map_reverse.symm

theorem arrange_shift (n : Nat) (entries : List (Nat × α)) :
    arrange (shift n entries) = shift n (arrange entries) :=
  arrange_map (g := fun e => (n + e.1, e.2)) (fun _ _ => rfl) entries

theorem rank_map (hf : ∀ x y, Scalar.exceeds (f x) (f y) = Scalar.exceeds x y) (scores : List α) :
    rank (scores.map f) = (rank scores).map fun e => (e.1, f e.2) := by
  rw [rank_eq, indexed_map, arrange_map fun s t => hf s.2 t.2, rank_eq]

theorem topK_map (hf : ∀ x y, Scalar.exceeds (f x) (f y) = Scalar.exceeds x y) (scores : List α) (k : Nat)
    (classes : ClassNames) :
    topK (scores.map f) k classes = (topK scores k classes).map fun p => ⟨p.name, f p.confidence⟩ := by
  rw [topK, topK, rank_map hf, ← List.map_take, List.map_map, List.map_map]
  rfl

end Changing

section Sorting

variable {α κ : Type} [LinearOrder κ] {key : α → κ} {entries : List (Nat × α)}

/-- The higher key comes first and, of equal keys, the smaller index. -/
def Above (key : α → κ) (s t : Nat × α) : Prop :=
  key t.2 < key s.2 ∨ key s.2 = key t.2 ∧ s.1 < t.1

theorem Above.asymm {s t : Nat × α} (h : Above key s t) : ¬Above key t s := by
  rintro (hlt | ⟨heq, hlt⟩)
  · rcases h with hst | ⟨hst, -⟩
    · exact lt_asymm hlt hst
    · exact absurd hst hlt.ne
  · rcases h with hst | ⟨-, hst⟩
    · exact absurd heq hst.ne
    · exact Nat.lt_asymm hlt hst

theorem eq_of_above {ranked ranked' : List (Nat × α)} (h : ranked.Pairwise (Above key))
    (h' : ranked'.Pairwise (Above key)) (hp : ranked.Perm ranked') : ranked = ranked' :=
  hp.eq_of_pairwise (fun _ _ _ _ hst hts => absurd hts hst.asymm) h h'

variable [Scalar α]

def ComparedBy (key : α → κ) (entries : List (Nat × α)) : Prop :=
  ∀ s ∈ entries, ∀ t ∈ entries, Scalar.exceeds s.2 t.2 = true ↔ key t.2 < key s.2

theorem ComparedBy.mono {all : List (Nat × α)} (hk : ComparedBy key all) (h : entries ⊆ all) :
    ComparedBy key entries :=
  fun s hs t ht => hk s (h hs) t (h ht)

theorem place_sorted {s : Nat × α} {placed : List (Nat × α)} (hk : ComparedBy key (s :: placed))
    (hi : ∀ t ∈ placed, t.1 < s.1) (hp : placed.Pairwise fun t u => Above key u t) :
    (place s placed).Pairwise fun t u => Above key u t := by
  induction placed with
  | nil => simp [place]
  | cons t rest ih =>
      have hst := hk s List.mem_cons_self t (List.mem_cons_of_mem s List.mem_cons_self)
      obtain ⟨ht, hrest⟩ := List.pairwise_cons.1 hp
      rw [place]
      split <;> rename_i he
      · have hsub : s :: rest ⊆ s :: t :: rest := List.cons_subset_cons s (List.subset_cons_self t rest)
        have ih := ih (hk.mono hsub) (fun u hu => hi u (List.mem_cons_of_mem t hu)) hrest
        refine List.pairwise_cons.2 ⟨?_, ih⟩
        intro u hu
        rcases List.mem_cons.1 ((place_perm s rest).mem_iff.1 hu) with rfl | hu
        · exact .inl (hst.1 he)
        · exact ht u hu
      · have hle : key s.2 ≤ key t.2 := not_lt.1 fun hlt => he (hst.2 hlt)
        refine List.pairwise_cons.2 ⟨?_, hp⟩
        intro u hu
        have hu' : key t.2 ≤ key u.2 := by
          rcases List.mem_cons.1 hu with rfl | hr
          · exact le_rfl
          · rcases ht u hr with hlt | ⟨heq, -⟩
            · exact hlt.le
            · exact heq.ge
        rcases (hle.trans hu').lt_or_eq with hlt | heq
        · exact .inl hlt
        · exact .inr ⟨heq.symm, hi u hu⟩

theorem arrange_sorted (hk : ComparedBy key entries) (hi : entries.Pairwise fun s t => s.1 < t.1) :
    (arrange entries).Pairwise (Above key) := by
  rw [arrange, List.pairwise_reverse]
  induction entries using List.reverseRecOn with
  | nil => exact .nil
  | append_singleton entries s ih =>
      have hmem : ∀ t ∈ placeAll entries [], t ∈ entries := fun t ht => by
        simpa using (placeAll_perm entries []).mem_iff.1 ht
      obtain ⟨hentries, -, hs⟩ := List.pairwise_append.1 hi
      have hplaced := ih (hk.mono (List.subset_append_left entries [s])) hentries
      have hall : s :: placeAll entries [] ⊆ entries ++ [s] := fun t ht => by
        rcases List.mem_cons.1 ht with rfl | ht
        · exact List.mem_append_right entries List.mem_cons_self
        · exact List.mem_append_left [s] (hmem t ht)
      rw [placeAll, List.foldl_append]
      exact place_sorted (hk.mono hall) (fun t ht => hs t (hmem t ht) s List.mem_cons_self) hplaced

end Sorting

end Ranking

end BatchClassifier
