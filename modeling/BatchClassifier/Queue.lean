namespace BatchClassifier

variable {α : Type}

structure Queue (α : Type) where
  items : List α := []
  closed : Bool := false
deriving DecidableEq, Repr

namespace Queue

def empty : Queue α := {}

def push (q : Queue α) (a : α) : Queue α := { q with items := q.items ++ [a] }

def close (q : Queue α) : Queue α := { q with closed := true }

/-- The head of the queue, or `some none` once it is closed and drained; there is no result while
it is empty and open. -/
def pop? (q : Queue α) : Option (Option α × Queue α) :=
  match q.items, q.closed with
  | a :: rest, _ => some (some a, { q with items := rest })
  | [], true => some (none, q)
  | [], false => none

def length (q : Queue α) : Nat := q.items.length

def isEmpty (q : Queue α) : Bool := q.items.isEmpty

def sealing (items : List α) : Queue α := ⟨items, true⟩

@[simp] theorem items_push (q : Queue α) (a : α) : (q.push a).items = q.items ++ [a] := rfl

@[simp] theorem closed_push (q : Queue α) (a : α) : (q.push a).closed = q.closed := rfl

@[simp] theorem items_close (q : Queue α) : q.close.items = q.items := rfl

@[simp] theorem closed_close (q : Queue α) : q.close.closed = true := rfl

theorem pop?_eq_none_iff {q : Queue α} : q.pop? = none ↔ q.items = [] ∧ q.closed = false := by
  obtain ⟨items, closed⟩ := q
  cases items <;> cases closed <;> simp [pop?]

theorem pop?_eq_end_iff {q r : Queue α} :
    q.pop? = some (none, r) ↔ q.items = [] ∧ q.closed = true ∧ r = q := by
  obtain ⟨items, closed⟩ := q
  cases items <;> cases closed <;> simp [pop?, eq_comm]

theorem pop?_eq_some_iff {q r : Queue α} {a : α} :
    q.pop? = some (some a, r) ↔ q.items = a :: r.items ∧ r.closed = q.closed := by
  obtain ⟨items, closed⟩ := q
  obtain ⟨rest, done⟩ := r
  cases items <;> cases closed <;> cases done <;> simp [pop?]

end Queue

end BatchClassifier
