import BatchClassifier.Floor
import BatchClassifier.Stream
import BatchClassifier.Thread

namespace BatchClassifier

inductive Source
  | items (list : List Item)
  | lines (stream : Stream)

inductive Mode
  | enumeration
  | streaming
deriving DecidableEq, Repr

def Mode.name : Mode → String
  | .enumeration => "ENUMERATION"
  | .streaming => "STREAMING"

namespace Source

def mode : Source → Mode
  | .items _ => .enumeration
  | .lines _ => .streaming

def describe : Source → String
  | .items list => "Items(" ++ toString list.length ++ ")"
  | .lines _ => "Lines(..)"

def offers : Source → List Item
  | .items list => list
  | .lines stream => stream.lines.map Stream.decodeLine

end Source

inductive Verdict
  | accept
  | reject
  | crash
deriving DecidableEq, Repr

abbrev Filter := Item → Verdict

namespace Filter

def acceptAll : Filter := fun _ => .accept

def ofBool (p : Item → Bool) : Filter := fun item => if p item then .accept else .reject

end Filter

namespace Feed

inductive Cursor
  | feeding
  | finished
  | lost
deriving DecidableEq, Repr

end Feed

structure Feed where
  mode : Mode
  pending : List Item
  queued : Nat := 0
  cursor : Feed.Cursor := .feeding
deriving DecidableEq, Repr

namespace Feed

def start (s : Source) : Feed := { mode := s.mode, pending := s.offers }

/-- Only lines are filtered; listed items are taken as they are. -/
def verdict (filter : Filter) (f : Feed) (item : Item) : Verdict :=
  match f.mode with
  | .enumeration => .accept
  | .streaming => filter item

/-- One item more, or the end. A crashing filter ends the producer before the line is queued. -/
def step (filter : Filter) (f : Feed) (floor : Floor) : Option (Feed × Floor) :=
  match f.cursor, f.pending with
  | .feeding, [] => some ({ f with cursor := .finished }, floor.closeInput)
  | .feeding, item :: rest =>
    match f.verdict filter item with
    | .accept => some ({ f with pending := rest, queued := f.queued + 1 }, floor.queueItem item)
    | .reject => some ({ f with pending := rest }, floor)
    | .crash => some ({ f with cursor := .lost }, floor.closeInput)
  | .finished, _ | .lost, _ => none

def isOver (f : Feed) : Bool := f.cursor != .feeding

def result (f : Feed) : Except RunError Nat :=
  match f.cursor with
  | .feeding | .finished => .ok f.queued
  | .lost => .error (.task .taskCrashed)

def steps (filter : Filter) : Nat → Feed → Floor → Feed × Floor
  | 0, f, floor => (f, floor)
  | fuel + 1, f, floor =>
    match f.step filter floor with
    | some (f, floor) => steps filter fuel f floor
    | none => (f, floor)

def run (filter : Filter) (s : Source) : Feed × Floor :=
  let f := start s
  steps filter (f.pending.length + 1) f {}

end Feed

end BatchClassifier
