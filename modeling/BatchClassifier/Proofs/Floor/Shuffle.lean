import Mathlib.Data.List.Perm.Basic

namespace BatchClassifier

variable {α β : Type}

/-- `whole` consists of the heads of `parts`, taken one after the other until all parts are used up. -/
inductive Shuffle : List (List α) → List α → Prop
  | exhausted {parts : List (List α)} (h : ∀ part ∈ parts, part = []) : Shuffle parts []
  | next {parts : List (List α)} {k : Nat} {a : α} {rest whole : List α} (hk : parts[k]? = some (a :: rest))
      (h : Shuffle (parts.set k rest) whole) : Shuffle parts (a :: whole)

namespace Shuffle

variable {parts : List (List α)} {whole : List α}

theorem sublist (h : Shuffle parts whole) {part : List α} (hp : part ∈ parts) : part.Sublist whole := by
  induction h generalizing part with
  | exhausted hn =>
      rw [hn part hp]
  | @next parts k a rest whole hk _ ih =>
      obtain ⟨j, hj⟩ := List.getElem?_of_mem hp
      by_cases hjk : k = j
      · subst j
        have hpart : part = a :: rest := Option.some.inj (hj.symm.trans hk)
        have hrest : rest ∈ parts.set k rest :=
          List.mem_set (List.getElem?_eq_some_iff.1 hk).1 rest
        rw [hpart]
        exact (ih hrest).cons_cons a
      · have hset : part ∈ parts.set k rest := by
          apply List.mem_of_getElem? (i := j)
          rw [List.getElem?_set_ne hjk]
          exact hj
        exact (ih hset).cons a

theorem flatten_set_perm {k : Nat} {a : α} {rest : List α} (hk : parts[k]? = some (a :: rest)) :
    parts.flatten.Perm (a :: (parts.set k rest).flatten) := by
  induction parts generalizing k with
  | nil => cases hk
  | cons part parts ih =>
      cases k with
      | zero =>
          cases hk
          rfl
      | succ k =>
          have hp := (ih hk).append_left part
          exact hp.trans List.perm_middle

theorem perm_flatten (h : Shuffle parts whole) : whole.Perm parts.flatten := by
  induction h with
  | exhausted hn =>
      rw [List.flatten_eq_nil_iff.2 hn]
  | next hk _ ih =>
      exact (ih.cons _).trans (flatten_set_perm hk).symm

theorem eq_of_single {part : List α} (h : Shuffle [part] whole) : whole = part := by
  generalize hp : [part] = parts at h
  induction h generalizing part with
  | exhausted hn =>
      subst hp
      exact (hn part List.mem_cons_self).symm
  | @next parts k a rest whole hk _ ih =>
      subst hp
      cases k with
      | zero =>
          cases hk
          rw [ih rfl]
      | succ k => cases hk

end Shuffle

section

variable (kind : β → Option α) (owner : β → Option Nat)

def share (l : List β) (k : Nat) : List α := (l.filter fun b => owner b = some k).filterMap kind

theorem share_cons_of_none {b : β} (hb : kind b = none) (l : List β) (k : Nat) :
    share kind owner (b :: l) k = share kind owner l k := by
  by_cases hk : owner b = some k <;> simp [share, hk, hb]

theorem share_cons_self {b : β} {a : α} {k : Nat} (hb : kind b = some a) (hk : owner b = some k) (l : List β) :
    share kind owner (b :: l) k = a :: share kind owner l k := by
  simp [share, hk, hb]

theorem share_cons_of_ne {b : β} {k j : Nat} (hk : owner b = some k) (hkj : k ≠ j) (l : List β) :
    share kind owner (b :: l) j = share kind owner l j := by
  have hj : owner b ≠ some j := by
    rw [hk]
    exact fun he => hkj (Option.some.inj he)
  simp [share, hj]

theorem shuffle_share {n : Nat} {l : List β} (h : ∀ b ∈ l, kind b ≠ none → ∃ k < n, owner b = some k) :
    Shuffle ((List.range n).map (share kind owner l)) (l.filterMap kind) := by
  induction l with
  | nil =>
      apply Shuffle.exhausted
      intro part hp
      obtain ⟨k, _, rfl⟩ := List.mem_map.1 hp
      rfl
  | cons b l ih =>
      have hl := ih fun c hc => h c (List.mem_cons_of_mem b hc)
      cases hb : kind b with
      | none =>
          have hs : share kind owner (b :: l) = share kind owner l := by
            funext k
            exact share_cons_of_none kind owner hb l k
          rw [List.filterMap_cons_none hb, hs]
          exact hl
      | some a =>
          -- The head stands first in the share of its owner, and the shares of the others are as before.
          obtain ⟨k, hk, hown⟩ := h b List.mem_cons_self (by simp [hb])
          have hhead : ((List.range n).map (share kind owner (b :: l)))[k]? = some (a :: share kind owner l k) := by
            simp [hk, share_cons_self kind owner hb hown]
          have hset : ((List.range n).map (share kind owner (b :: l))).set k (share kind owner l k) =
              (List.range n).map (share kind owner l) := by
            apply List.ext_getElem
            · simp
            · intro j _ _
              by_cases hkj : k = j
              · subst j; simp
              · simp [hkj, share_cons_of_ne kind owner hown hkj]
          rw [List.filterMap_cons_some hb]
          exact .next hhead (hset ▸ hl)

end

end BatchClassifier
