import BatchClassifier.Floor
import BatchClassifier.Text.Capital

namespace BatchClassifier

inductive Attempt
  | returned (result : Except ItemError String)
  | crashed (crash : Crash)

def Attempt.guarded : Attempt → Except ItemError String
  | .returned result => result
  | .crashed crash => .error (.crashed crash.message)

namespace Processors

def upperCase (item : Item) : Attempt := .returned (.ok (Text.upperCase item))

def failingOn (bad : List Item) (item : Item) : Attempt :=
  if bad.contains item then .returned (.error (.failed "mock failure")) else upperCase item

def crashingOn (bad : List Item) (item : Item) : Attempt :=
  if bad.contains item then .crashed (.text ("mock panic on " ++ item)) else upperCase item

end Processors

structure Handlers where
  process : Item → Attempt
  report : Failure → Option Crash := fun _ => none

namespace Worker

inductive Cursor
  | ready
  | holding (item : Item)
  | sending (text : String)
  | reporting (failure : Failure)
  | exited
  | lost (crash : Crash)
deriving DecidableEq, Repr

end Worker

structure Worker where
  cursor : Worker.Cursor := .ready
  succeeded : Nat := 0
  failed : Nat := 0
deriving DecidableEq, Repr

namespace Worker

def Cursor.after (item : Item) : Except ItemError String → Cursor
  | .ok text => .sending text
  | .error e => .reporting (.of item e)

/-- One operation of the worker with the given number; there is none while it has to wait. -/
def step (h : Handlers) (id : Nat) (w : Worker) (f : Floor) : Option (Worker × Floor) :=
  match w.cursor with
  | .ready =>
    match f.input.pop? with
    | none => none
    | some (some item, rest) =>
      some ({ w with cursor := .holding item }, { f with input := rest }.note (.taken id item))
    | some (none, _) => some ({ w with cursor := .exited }, f)
  | .holding item =>
    some ({ w with cursor := .after item (h.process item).guarded }, f.note (.called id item))
  | .sending text =>
    some ({ w with cursor := .ready, succeeded := w.succeeded + 1 },
      { f with output := f.output.push text }.note (.sent id text))
  | .reporting failure =>
    match h.report failure with
    | none => some ({ w with cursor := .ready, failed := w.failed + 1 }, f.note (.reported id failure))
    | some crash => some ({ w with cursor := .lost crash }, f)
  | .exited | .lost _ => none

def isOver (w : Worker) : Bool :=
  match w.cursor with
  | .exited | .lost _ => true
  | _ => false

def isLost (w : Worker) : Bool :=
  match w.cursor with
  | .lost _ => true
  | _ => false

def processed (w : Worker) : Nat := w.succeeded + w.failed

def name (id : Nat) : String := "worker-" ++ toString id

def steps (h : Handlers) (id : Nat) : Nat → Worker → Floor → Worker × Floor
  | 0, w, f => (w, f)
  | fuel + 1, w, f =>
    match w.step h id f with
    | some (w, f) => steps h id fuel w f
    | none => (w, f)

/-- One worker on its own. Every item takes three steps, and the end of the queue one. -/
def run (h : Handlers) (id : Nat) (f : Floor) : Worker × Floor :=
  steps h id (3 * f.input.length + 1) {} f

end Worker

end BatchClassifier
