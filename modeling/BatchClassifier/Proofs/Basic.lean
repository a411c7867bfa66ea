import Mathlib.Data.List.Forall2

namespace BatchClassifier

variable {α β γ : Type}

section Options

theorem exists_of_rel {R : α → β → Prop} {a : α} {o : Option β} (h : Option.Rel R (some a) o) :
    ∃ b, o = some b ∧ R a b := by
  cases h with
  | some h => exact ⟨_, rfl, h⟩

theorem isSome_eq_of_rel {R : α → β → Prop} {o : Option α} {o' : Option β} (h : Option.Rel R o o') :
    o'.isSome = o.isSome := by
  cases h <;> rfl

theorem ite_none_congr {p q : Prop} [Decidable p] [Decidable q] {o : Option α}
    (h : o.isSome = true → (p ↔ q)) : (if p then o else none) = if q then o else none := by
  cases o with
  | none => rw [ite_self, ite_self]
  | some a => exact if_congr (h rfl) rfl rfl

theorem decide_and_congr {p q : Prop} [Decidable p] [Decidable q] {b : Bool} (h : b = true → (p ↔ q)) :
    (decide p && b) = (decide q && b) := by
  cases b with
  | false => rw [Bool.and_false, Bool.and_false]
  | true => rw [decide_eq_decide.2 (h rfl)]

@[simp] theorem filterMap_singleton (f : α → Option β) (a : α) : [a].filterMap f = (f a).toList := by
  cases h : f a <;> simp [h]

theorem any_append_toList (l : List α) (o : Option α) (q : α → Bool) :
    (l ++ o.toList).any q = (l.any q || o.any q) := by
  cases o <;> simp

theorem findSome?_append_toList (l : List α) (o : Option α) (f : α → Option β) :
    (l ++ o.toList).findSome? f = (l.findSome? f).or (o.bind f) := by
  cases o <;> simp

theorem mem_filterMap_append_toList {l : List α} {o : Option α} {f : α → Option β} {b : β} :
    b ∈ (l ++ o.toList).filterMap f ↔ b ∈ l.filterMap f ∨ o.bind f = some b := by
  cases o <;> simp

theorem filterMap_filter_any (g : α → Option β) (q : β → Bool) (l : List α) :
    (l.filter fun a => (g a).any q).filterMap g = (l.filterMap g).filter q := by
  induction l with
  | nil => rfl
  | cons a l ih =>
      cases hg : g a with
      | none => simp [hg, ih]
      | some b => cases hq : q b <;> simp [hg, hq, ih]

theorem length_filter_any (g : α → Option β) (q : β → Bool) (l : List α) :
    (l.filter fun a => (g a).any q).length = ((l.filterMap g).filter q).length := by
  rw [← filterMap_filter_any, List.length_filterMap_eq_countP, eq_comm, List.countP_eq_length]
  intro a ha
  exact Option.isSome_of_any (List.mem_filter.1 ha).2

end Options

section Absent

variable [BEq α] [LawfulBEq α] {a : α} {l : List α}

theorem beq_eq_false_of_notMem (h : a ∉ l) : ∀ b ∈ l, (b == a) = false := by
  intro b hb
  rw [beq_eq_false_iff_ne]
  rintro rfl
  exact h hb

theorem bne_of_notMem (h : a ∉ l) : ∀ b ∈ l, (b != a) = true := by
  intro b hb
  rw [bne, beq_eq_false_of_notMem h b hb]
  rfl

theorem takeWhile_bne_append (h : a ∉ l) (rest : List α) : (l ++ a :: rest).takeWhile (· != a) = l := by
  rw [List.takeWhile_append_of_pos (bne_of_notMem h)]
  simp

theorem dropWhile_bne_append (h : a ∉ l) (rest : List α) :
    (l ++ a :: rest).dropWhile (· != a) = a :: rest := by
  rw [List.dropWhile_append_of_pos (bne_of_notMem h)]
  simp

end Absent

section Search

theorem findIdx?_eq_min? {p : α → Bool} {l : List α} {hits : List Nat}
    (h : ∀ i, i ∈ hits ↔ ∃ a, l[i]? = some a ∧ p a = true) : l.findIdx? p = hits.min? := by
  cases hf : l.findIdx? p with
  | none =>
      rw [List.findIdx?_eq_none_iff] at hf
      have hn : hits = [] := by
        rw [List.eq_nil_iff_forall_not_mem]
        intro i hi
        obtain ⟨a, ha, hp⟩ := (h i).1 hi
        rw [hf a (List.mem_of_getElem? ha)] at hp
        cases hp
      rw [hn]
      rfl
  | some i =>
      obtain ⟨hi, hp, hb⟩ := List.findIdx?_eq_some_iff_getElem.1 hf
      symm
      rw [List.min?_eq_some_iff]
      constructor
      · exact (h i).2 ⟨_, List.getElem?_eq_getElem hi, hp⟩
      · intro j hj
        obtain ⟨a, ha, hq⟩ := (h j).1 hj
        obtain ⟨hl, rfl⟩ := List.getElem?_eq_some_iff.1 ha
        exact Nat.le_of_not_lt fun hlt => hb j hlt hq

theorem countP_set_add (p : α → Bool) {l : List α} {i : Nat} {a : α} (h : l[i]? = some a) (b : α) :
    (l.set i b).countP p + (p a).toNat = l.countP p + (p b).toNat := by
  obtain ⟨hi, rfl⟩ := List.getElem?_eq_some_iff.1 h
  have hpos : p l[i] = true → 0 < l.countP p := fun hp => List.countP_pos_iff.2 ⟨_, List.getElem_mem hi, hp⟩
  rw [List.countP_set hi]
  cases ha : p l[i] with
  | true =>
      have := hpos ha
      cases p b <;> simp <;> omega
  | false => cases p b <;> simp

end Search

section Related

variable {related : α → β → Prop}

theorem forall₂_flatMap {f : γ → List α} {g : γ → List β} {l : List γ}
    (h : ∀ c ∈ l, List.Forall₂ related (f c) (g c)) : List.Forall₂ related (l.flatMap f) (l.flatMap g) := by
  have hsame : List.Forall₂ (fun c d => c = d ∧ c ∈ l) l l := List.forall₂_same.2 fun c hc => ⟨rfl, hc⟩
  refine List.rel_flatMap hsame ?_
  rintro c _ ⟨rfl, hc⟩
  exact h c hc

theorem exists_of_forall₂ {l : List α} {m : List β} (h : List.Forall₂ related l m) :
    ∀ b ∈ m, ∃ a ∈ l, related a b := by
  induction h with
  | nil => exact fun b hb => absurd hb List.not_mem_nil
  | @cons a b l m hab _ ih =>
      intro b' hb
      rcases List.mem_cons.1 hb with rfl | hb
      · exact ⟨a, List.mem_cons_self, hab⟩
      · obtain ⟨a', ha, hr⟩ := ih b' hb
        exact ⟨a', List.mem_cons_of_mem a ha, hr⟩

end Related

section Results

theorem exists_of_bind_ok {ε : Type} {x : Except ε α} {f : α → Except ε β} {b : β} (h : x >>= f = .ok b) :
    ∃ a, x = .ok a ∧ f a = .ok b := by
  cases x with
  | error e => cases h
  | ok a => exact ⟨a, rfl, h⟩

theorem of_mapError_ok {ε ε' : Type} {f : ε → ε'} {x : Except ε α} {a : α} (h : x.mapError f = .ok a) :
    x = .ok a := by
  cases x with
  | error e => cases h
  | ok b => exact congrArg Except.ok (Except.ok.inj h)

end Results

end BatchClassifier
