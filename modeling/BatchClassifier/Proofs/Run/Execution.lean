import BatchClassifier.Proofs.Run.Steps
import BatchClassifier.Run.Schedule
import Mathlib.Logic.Relation

namespace BatchClassifier

variable {α σ : Type}

/-- Every execution from here is finite, and where none can go on `post` holds. -/
inductive Concludes (next : α → α → Prop) (post : α → Prop) : α → Prop
  | intro {a : α} (settled : (∀ b, ¬ next a b) → post a) (onward : ∀ b, next a b → Concludes next post b) :
      Concludes next post a

theorem Concludes.of_measure {next : α → α → Prop} {post : α → Prop} (m : α → Nat)
    (hm : ∀ a b, next a b → m b < m a) {a : α}
    (hp : ∀ b, Relation.ReflTransGen next a b → (∀ c, ¬ next b c) → post b) : Concludes next post a := by
  induction hn : m a using Nat.strongRecOn generalizing a with
  | ind n ih =>
      refine .intro (hp a .refl) fun b hb => ?_
      exact ih (m b) (hn ▸ hm a b hb) (fun c hc => hp c (.head hb hc)) rfl

theorem length_le_of_measure {next : α → α → Prop} {m : α → Nat} (hm : ∀ a b, next a b → m b < m a)
    {run : Nat → α} {n : Nat} (h : ∀ i < n, next (run i) (run (i + 1))) : n ≤ m (run 0) := by
  have hb : ∀ i ≤ n, i + m (run i) ≤ m (run 0) := by
    intro i hi
    induction i with
    | zero => omega
    | succ i ih =>
        have hd := hm _ _ (h i (by omega))
        have := ih (by omega)
        omega
  exact Nat.le_trans (Nat.le_add_right n _) (hb n (Nat.le_refl n))

/-- A plan in which a crash of the processor costs a worker its life and the sink fails twice. -/
def Plan.unlucky : Plan (List String) where
  workers := 2
  source := .items ["a", "b", "c", "d"]
  handlers := {
    process := fun item => if item = "d" then .crashed .unknown else .returned (.ok item)
    report := fun _ => some (.text "nobody listens") }
  sink := {
    emit := fun kept text => if text = "b" then (.failed .wroteNothing, kept) else (.done, kept ++ [text])
    flush := fun kept => (.crashed .unknown, kept) }
  state := []

namespace Run

def Step (p : Plan σ) (r s : Run σ) : Prop := ∃ a, r.step p a = some s

/-- One step in which the filter, the handlers and the sink answer as they like: the plan that
answers is chosen anew for every step. -/
def Next (r s : Run σ) : Prop := ∃ q : Plan σ, Step q r s

/-- The states that a run of the plan can come to when every call may end in any way. -/
def Possible (p : Plan σ) : Run σ → Prop := Relation.ReflTransGen Next (start p)

theorem Step.moves {p : Plan σ} {r s : Run σ} (h : Step p r s) : r.Moves p s := by
  obtain ⟨a, ha⟩ := h
  exact moves_of_step ha

theorem Step.next {p : Plan σ} {r s : Run σ} (h : Step p r s) : Next r s := ⟨p, h⟩

theorem reachable_iff_reflTransGen {p : Plan σ} {r : Run σ} :
    Reachable p r ↔ Relation.ReflTransGen (Step p) (start p) r := by
  constructor
  · intro h
    induction h with
    | start => exact .refl
    | step _ hs ih => exact ih.tail ⟨_, hs⟩
  · intro h
    induction h with
    | refl => exact .start
    | tail _ hs ih =>
        obtain ⟨a, ha⟩ := hs
        exact ih.step ha

theorem Reachable.possible {p : Plan σ} {r : Run σ} (h : Reachable p r) : Possible p r := by
  induction h with
  | start => exact .refl
  | step _ hs ih => exact ih.tail (Step.next ⟨_, hs⟩)

theorem reachable_steps {p : Plan σ} (n : Nat) {r : Run σ} (h : Reachable p r) : Reachable p (steps p n r) := by
  induction n generalizing r with
  | zero => exact h
  | succ n ih =>
      rw [steps]
      split
      · rename_i s hs
        obtain ⟨a, _, ha⟩ := List.exists_of_findSome?_eq_some hs
        exact ih (h.step ha)
      · exact h

theorem reachable_complete (p : Plan σ) : Reachable p (complete p) := reachable_steps _ .start

end Run

end BatchClassifier
