import BatchClassifier.Floor
import BatchClassifier.Thread

namespace BatchClassifier

variable {σ : Type}

inductive Reply
  | done
  | failed (fault : IoFault)
  | crashed (crash : Crash)
deriving DecidableEq, Repr

structure Sink (σ : Type) where
  emit : σ → String → Reply × σ
  flush : σ → Reply × σ

namespace Drain

inductive Cursor
  | waiting
  | holding (text : String)
  | flushing
  | finished
  | lost (crash : Crash)
deriving DecidableEq, Repr

end Drain

structure Drain (σ : Type) where
  state : σ
  cursor : Drain.Cursor := .waiting
  emitted : Nat := 0
  fault : Option IoFault := none
deriving DecidableEq, Repr

namespace Drain

def threadName : String := "sink"

/-- After a fault the thread goes on taking results and discards them, and the final flush is left out. -/
def step (sink : Sink σ) (d : Drain σ) (f : Floor) : Option (Drain σ × Floor) :=
  match d.cursor with
  | .waiting =>
    match f.output.pop? with
    | none => none
    | some (some text, rest) =>
      some ({ d with cursor := if d.fault.isSome then .waiting else .holding text },
        { f with output := rest }.note (.received text))
    | some (none, _) => some ({ d with cursor := if d.fault.isSome then .finished else .flushing }, f)
  | .holding text =>
    match sink.emit d.state text with
    | (.done, state) =>
      some ({ d with state, cursor := .waiting, emitted := d.emitted + 1 }, f.note (.emitted text))
    | (.failed fault, state) => some ({ d with state, cursor := .waiting, fault := some fault }, f)
    | (.crashed crash, state) => some ({ d with state, cursor := .lost crash }, f)
  | .flushing =>
    match sink.flush d.state with
    | (.done, state) => some ({ d with state, cursor := .finished }, f)
    | (.failed fault, state) => some ({ d with state, cursor := .finished, fault := some fault }, f)
    | (.crashed crash, state) => some ({ d with state, cursor := .lost crash }, f)
  | .finished | .lost _ => none

def isOver (d : Drain σ) : Bool :=
  match d.cursor with
  | .finished | .lost _ => true
  | _ => false

def result (d : Drain σ) : Except RunError (Nat × Option IoFault) :=
  match d.cursor with
  | .lost _ => .error (.task (.threadLost threadName))
  | _ => .ok (d.emitted, d.fault)

def steps (sink : Sink σ) : Nat → Drain σ → Floor → Drain σ × Floor
  | 0, d, f => (d, f)
  | fuel + 1, d, f =>
    match d.step sink f with
    | some (d, f) => steps sink fuel d f
    | none => (d, f)

/-- The thread on its own. Every result takes at most two steps, and the end of the queue two. -/
def run (sink : Sink σ) (state : σ) (f : Floor) : Drain σ × Floor :=
  steps sink (2 * f.output.length + 2) { state } f

end Drain

namespace Sink

def collecting : Sink (List String) where
  emit kept text := (.done, kept ++ [text])
  flush kept := (.done, kept)

end Sink

end BatchClassifier
