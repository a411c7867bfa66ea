import BatchClassifier.Queue

namespace BatchClassifier.Queue

variable {α : Type}

inductive Access (α : Type)
  | push (thread : Nat) (a : α)
  | pop (thread : Nat)
  | close (thread : Nat)
deriving DecidableEq, Repr

inductive Event (α : Type)
  | pushed (thread : Nat) (a : α)
  | popped (thread : Nat) (result : Option α)
  | closed (thread : Nat)
deriving DecidableEq, Repr

/-- One critical section. A pop on an empty open queue waits, so it is not performed. -/
def perform (q : Queue α) : Access α → Option (Event α × Queue α)
  | .push t a => some (.pushed t a, q.push a)
  | .pop t => q.pop?.map fun (result, rest) => (.popped t result, rest)
  | .close t => some (.closed t, q.close)

def history (q : Queue α) : List (Access α) → Option (List (Event α) × Queue α)
  | [] => some ([], q)
  | a :: rest => do
    let (event, next) ← q.perform a
    let (events, last) ← next.history rest
    return (event :: events, last)

def Event.pushed? : Event α → Option α
  | .pushed _ a => some a
  | _ => none

def Event.popped? : Event α → Option α
  | .popped _ result => result
  | _ => none

def pushes (events : List (Event α)) : List α := events.filterMap Event.pushed?

def pops (events : List (Event α)) : List α := events.filterMap Event.popped?

def pushesBy (thread : Nat) (events : List (Event α)) : List α :=
  events.filterMap fun
    | .pushed t a => if t = thread then some a else none
    | _ => none

def popsBy (thread : Nat) (events : List (Event α)) : List α :=
  events.filterMap fun
    | .popped t result => if t = thread then result else none
    | _ => none

end BatchClassifier.Queue
