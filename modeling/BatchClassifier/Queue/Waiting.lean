import BatchClassifier.Queue

namespace BatchClassifier.Queue

variable {α : Type}

inductive Popper (α : Type)
  | looking
  | asleep
  | returned (result : Option α)
deriving DecidableEq, Repr

namespace Popper

def wake : Popper α → Popper α
  | .asleep => .looking
  | p => p

def isAsleep : Popper α → Bool
  | .asleep => true
  | _ => false

def isLooking : Popper α → Bool
  | .looking => true
  | _ => false

end Popper

/-- A queue, the threads inside a pop, and the notifications that pushes and closes still owe. -/
structure Room (α : Type) where
  queue : Queue α := {}
  poppers : List (Popper α) := []
  owedOne : Nat := 0
  owedAll : Nat := 0
deriving DecidableEq, Repr

inductive Move (α : Type)
  | append (a : α)
  | shut
  | notifyOne (sleeper : Nat)
  | notifyNobody
  | notifyAll
  | arrive
  | look (popper : Nat)
  | stir (popper : Nat)
deriving DecidableEq, Repr

namespace Room

def sleepers (r : Room α) : Nat := r.poppers.countP Popper.isAsleep

def lookers (r : Room α) : Nat := r.poppers.countP Popper.isLooking

def place (r : Room α) (i : Nat) (p : Popper α) : Room α := { r with poppers := r.poppers.set i p }

/-- One atomic move, if it is possible. The notification of a push wakes one sleeper, whichever it
is, and wakes nobody only if nobody sleeps. -/
def step (r : Room α) : Move α → Option (Room α)
  | .append a => some { r with queue := r.queue.push a, owedOne := r.owedOne + 1 }
  | .shut => some { r with queue := r.queue.close, owedAll := r.owedAll + 1 }
  | .notifyOne i =>
    match r.owedOne, r.poppers[i]? with
    | n + 1, some .asleep => some { r.place i .looking with owedOne := n }
    | _, _ => none
  | .notifyNobody =>
    match r.owedOne with
    | n + 1 => if r.sleepers = 0 then some { r with owedOne := n } else none
    | 0 => none
  | .notifyAll =>
    match r.owedAll with
    | n + 1 => some { r with poppers := r.poppers.map Popper.wake, owedAll := n }
    | 0 => none
  | .arrive => some { r with poppers := r.poppers ++ [.looking] }
  | .look i =>
    match r.poppers[i]?, r.queue.pop? with
    | some .looking, some (result, rest) => some { r.place i (.returned result) with queue := rest }
    | some .looking, none => some (r.place i .asleep)
    | _, _ => none
  | .stir i =>
    match r.poppers[i]? with
    | some .asleep => some (r.place i .looking)
    | _ => none

inductive Reachable : Room α → Prop
  | start : Reachable {}
  | step {r s : Room α} {m : Move α} (h : Reachable r) (hs : r.step m = some s) : Reachable s

def move (r : Room α) (m : Move α) : Room α := (r.step m).getD r

def answer? (r : Room α) (i : Nat) : Option (Option α) :=
  match r.poppers[i]? with
  | some (.returned result) => some result
  | _ => none

def sleeping (r : Room α) : List Nat :=
  (List.range r.poppers.length).filter fun i => (r.poppers[i]?.map Popper.isAsleep).getD false

def pop (r : Room α) : Nat × Room α :=
  let i := r.poppers.length
  (i, (r.move .arrive).move (.look i))

def push (r : Room α) (a : α) : List Nat × Room α :=
  let r := r.move (.append a)
  match r.sleeping with
  | [] => ([], r.move .notifyNobody)
  | i :: _ => ([i], (r.move (.notifyOne i)).move (.look i))

def close (r : Room α) : List Nat × Room α :=
  let woken := r.sleeping
  (woken, woken.foldl (fun r i => r.move (.look i)) ((r.move .shut).move .notifyAll))

end Room

end BatchClassifier.Queue
