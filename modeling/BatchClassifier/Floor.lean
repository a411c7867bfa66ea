import BatchClassifier.Queue
import BatchClassifier.Failure

namespace BatchClassifier

inductive Event
  | queued (item : Item)
  | inputClosed
  | taken (worker : Nat) (item : Item)
  | called (worker : Nat) (item : Item)
  | sent (worker : Nat) (text : String)
  | reported (worker : Nat) (failure : Failure)
  | outputClosed
  | received (text : String)
  | emitted (text : String)
deriving DecidableEq, Repr

/-- The log has its newest event first. -/
structure Floor where
  input : Queue Item := {}
  output : Queue String := {}
  log : List Event := []
deriving DecidableEq, Repr

namespace Floor

def note (f : Floor) (e : Event) : Floor := { f with log := e :: f.log }

def queueItem (f : Floor) (item : Item) : Floor :=
  { f with input := f.input.push item }.note (.queued item)

def closeInput (f : Floor) : Floor := { f with input := f.input.close }.note .inputClosed

def closeOutput (f : Floor) : Floor := { f with output := f.output.close }.note .outputClosed

def events (f : Floor) : List Event := f.log.reverse

def queuedItems (f : Floor) : List Item :=
  f.events.filterMap fun | .queued item => some item | _ => none

def takenBy (f : Floor) (worker : Nat) : List Item :=
  f.events.filterMap fun | .taken w item => if w = worker then some item else none | _ => none

def calls (f : Floor) : List Item :=
  f.events.filterMap fun | .called _ item => some item | _ => none

def sentTexts (f : Floor) : List String :=
  f.events.filterMap fun | .sent _ text => some text | _ => none

def reports (f : Floor) : List Failure :=
  f.events.filterMap fun | .reported _ failure => some failure | _ => none

def emittedTexts (f : Floor) : List String :=
  f.events.filterMap fun | .emitted text => some text | _ => none

end Floor

end BatchClassifier
