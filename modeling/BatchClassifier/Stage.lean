namespace BatchClassifier

inductive Stage
  | starting
  | producing
  | drainingWorkers
  | closingOutput
  | drainingSink
  | done
deriving DecidableEq, Repr

namespace Stage

def all : List Stage :=
  [.starting, .producing, .drainingWorkers, .closingOutput, .drainingSink, .done]

def next? : Stage → Option Stage
  | .starting => some .producing
  | .producing => some .drainingWorkers
  | .drainingWorkers => some .closingOutput
  | .closingOutput => some .drainingSink
  | .drainingSink => some .done
  | .done => none

def isTerminal (s : Stage) : Bool := s == .done

def name : Stage → String
  | .starting => "STARTING"
  | .producing => "PRODUCING"
  | .drainingWorkers => "DRAINING_WORKERS"
  | .closingOutput => "CLOSING_OUTPUT"
  | .drainingSink => "DRAINING_SINK"
  | .done => "DONE"

def ofName? (name : String) : Option Stage := all.find? (·.name == name)

def left : Stage → Nat
  | .starting => 5
  | .producing => 4
  | .drainingWorkers => 3
  | .closingOutput => 2
  | .drainingSink => 1
  | .done => 0

def walk : Nat → Stage → List (Option Stage)
  | 0, s => [some s]
  | steps + 1, s =>
    some s :: match s.next? with
      | some t => walk steps t
      | none => [none]

end Stage

/-- The present stage and the stages before it, newest first. -/
structure Tracker where
  current : Stage := .starting
  earlier : List Stage := []
deriving DecidableEq, Repr

namespace Tracker

def advance (t : Tracker) : Tracker :=
  match t.current.next? with
  | some next => ⟨next, t.current :: t.earlier⟩
  | none => t

def history (t : Tracker) : List Stage := (t.current :: t.earlier).reverse

end Tracker

end BatchClassifier
