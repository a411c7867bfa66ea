import BatchClassifier.Worker
import BatchClassifier.Thread

namespace BatchClassifier

namespace Pool

def size (requested : Nat) : Nat := max requested 1

def spawn (requested : Nat) : List Worker := List.replicate (size requested) {}

def step (h : Handlers) (id : Nat) (workers : List Worker) (f : Floor) :
    Option (List Worker × Floor) := do
  let w ← workers[id]?
  let (w, f) ← w.step h id f
  return (workers.set id w, f)

structure Totals where
  workers : Nat := 0
  succeeded : Nat := 0
  failed : Nat := 0
deriving DecidableEq, Repr

def Totals.add (t : Totals) (w : Worker) : Totals :=
  ⟨t.workers + 1, t.succeeded + w.succeeded, t.failed + w.failed⟩

def firstLost? (workers : List Worker) : Option Nat := workers.findIdx? Worker.isLost

def join (workers : List Worker) : Except RunError Totals :=
  match firstLost? workers with
  | some id => .error (.task (.threadLost (Worker.name id)))
  | none => .ok (workers.foldl Totals.add {})

def isOver (workers : List Worker) : Bool := workers.all Worker.isOver

end Pool

structure Shift where
  workers : List Worker
  floor : Floor
  late : List Item

namespace Shift

inductive Actor
  | client
  | worker (id : Nat)
deriving DecidableEq, Repr

def start (requested : Nat) (early late : List Item) : Shift :=
  { workers := Pool.spawn requested, floor := early.foldl Floor.queueItem {}, late }

def step (h : Handlers) (s : Shift) : Actor → Option Shift
  | .client =>
    match s.late, s.floor.input.closed with
    | item :: rest, _ => some { s with floor := s.floor.queueItem item, late := rest }
    | [], false => some { s with floor := s.floor.closeInput }
    | [], true => none
  | .worker id =>
    (Pool.step h id s.workers s.floor).map fun (workers, floor) => { s with workers, floor }

inductive Reachable (h : Handlers) (start : Shift) : Shift → Prop
  | refl : Reachable h start start
  | step {s t : Shift} {a : Actor} (hs : Reachable h start s) (ht : s.step h a = some t) :
      Reachable h start t

def actors (s : Shift) : List Actor := .client :: (List.range s.workers.length).map .worker

def next? (h : Handlers) (s : Shift) : Option Shift := s.actors.findSome? (s.step h)

def steps (h : Handlers) : Nat → Shift → Shift
  | 0, s => s
  | fuel + 1, s =>
    match s.next? h with
    | some t => steps h fuel t
    | none => s

def work (s : Shift) : Nat :=
  4 * s.late.length + 3 * s.floor.input.length + s.workers.length + 1

def run (h : Handlers) (s : Shift) : Shift := steps h s.work s

end Shift

end BatchClassifier
