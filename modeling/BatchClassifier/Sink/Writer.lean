import BatchClassifier.Sink
import BatchClassifier.Text.Utf8

namespace BatchClassifier

variable {ω : Type}

inductive Portion
  | took (count : Nat)
  | interrupted
  | failed (fault : IoFault)
deriving DecidableEq, Repr

/-- A writer may be interrupted, but not forever: `stalls` bounds the interruptions in a row while
the same bytes are offered. -/
structure Writer (ω : Type) where
  write : ω → List UInt8 → Portion × ω
  flush : ω → Option IoFault × ω
  stalls : ω → List UInt8 → Nat
  stalls_lt : ∀ {s bytes t}, write s bytes = (.interrupted, t) → stalls t bytes < stalls s bytes

namespace Writer

structure Written (ω : Type) where
  taken : List UInt8
  fault : Option IoFault
  state : ω

/-- Offers the bytes again and again until all are taken. An interruption is no fault; a call that
takes nothing is one. -/
def writeAll (w : Writer ω) (s : ω) (bytes : List UInt8) : Written ω :=
  match bytes with
  | [] => ⟨[], none, s⟩
  | b :: rest =>
    match _h : w.write s (b :: rest) with
    | (.took 0, t) => ⟨[], some .wroteNothing, t⟩
    | (.took (n + 1), t) =>
      let more := w.writeAll t (rest.drop n)
      { more with taken := (b :: rest).take (n + 1) ++ more.taken }
    | (.interrupted, t) => w.writeAll t (b :: rest)
    | (.failed fault, t) => ⟨[], some fault, t⟩
termination_by (bytes.length, w.stalls s bytes)
decreasing_by
  · exact Prod.Lex.left _ _ (by simp only [List.length_drop, List.length_cons]; omega)
  · exact Prod.Lex.right _ (w.stalls_lt _h)

end Writer

structure Lines (ω : Type) where
  writer : ω
  taken : List UInt8 := []
  flushes : Nat := 0

namespace Lines

def write (w : Writer ω) (l : Lines ω) (bytes : List UInt8) : Option IoFault × Lines ω :=
  let r := w.writeAll l.writer bytes
  (r.fault, { l with writer := r.state, taken := l.taken ++ r.taken })

def flush (w : Writer ω) (l : Lines ω) : Option IoFault × Lines ω :=
  let (fault, writer) := w.flush l.writer
  (fault, { l with writer, flushes := l.flushes + 1 })

def reply : Option IoFault × Lines ω → Reply × Lines ω
  | (some fault, l) => (.failed fault, l)
  | (none, l) => (.done, l)

def writeLine (w : Writer ω) (l : Lines ω) (text : String) : Option IoFault × Lines ω :=
  match l.write w (Text.Utf8.encode text.toList) with
  | (some fault, l) => (some fault, l)
  | (none, l) => l.write w (Text.Utf8.encode ['\n'])

end Lines

def Sink.lines (w : Writer ω) : Sink (Lines ω) where
  emit l text :=
    match l.writeLine w text with
    | (some fault, l) => (.failed fault, l)
    | (none, l) => Lines.reply (l.flush w)
  flush l := Lines.reply (l.flush w)

namespace Writer

structure Limits where
  chunk : Option Nat := none
  /-- Every other call is interrupted, beginning with the first. -/
  interrupts : Bool := false
  /-- The most that is taken in all, and the fault of a call after that, if it has one. -/
  capacity : Option Nat := none
  full : Option IoFault := none
  flushFault : Option (Nat × IoFault) := none

structure Progress where
  calls : Nat := 0
  taken : Nat := 0
  flushes : Nat := 0

namespace Limits

def stalls (l : Limits) (p : Progress) : Bool := l.interrupts && p.calls % 2 == 0

def left? (l : Limits) (p : Progress) : Option Nat := l.capacity.map (· - p.taken)

def room (l : Limits) (p : Progress) (offered : Nat) : Nat :=
  let n := min offered (l.chunk.getD offered)
  min n ((l.left? p).getD n)

def write (l : Limits) (p : Progress) (bytes : List UInt8) : Portion × Progress :=
  let next := { p with calls := p.calls + 1 }
  if l.stalls p then (.interrupted, next)
  else
    match l.left? p, l.full with
    | some 0, some fault => (.failed fault, next)
    | _, _ =>
      let n := l.room p bytes.length
      (.took n, { next with taken := p.taken + n })

theorem stalls_of_interrupted {l : Limits} {p q : Progress} {bytes : List UInt8}
    (h : l.write p bytes = (.interrupted, q)) : l.stalls p = true ∧ q.calls = p.calls + 1 := by
  rw [write] at h
  split at h
  · rename_i hs
    exact ⟨hs, by rw [← (Prod.mk.inj h).2]⟩
  · split at h <;> simp at h

theorem not_stalls_of_stalls {l : Limits} {p q : Progress} (hs : l.stalls p = true)
    (hq : q.calls = p.calls + 1) : l.stalls q = false := by
  simp only [stalls, Bool.and_eq_true, beq_iff_eq] at hs
  have : (p.calls + 1) % 2 = 1 := by omega
  simp [stalls, hq, this]

end Limits

def limited (l : Limits) : Writer Progress where
  write := l.write
  flush p :=
    let fault := match l.flushFault with
      | some (n, fault) => if p.flushes = n then some fault else none
      | none => none
    (fault, { p with flushes := p.flushes + 1 })
  stalls p _ := (l.stalls p).toNat
  stalls_lt h := by
    obtain ⟨hs, hq⟩ := Limits.stalls_of_interrupted h
    rw [hs, Limits.not_stalls_of_stalls hs hq]
    decide

end Writer

namespace Reporter

variable {ω : Type}

def defaultName : String := "batchcls"

def line (name : String) (f : Failure) : String := name ++ ": " ++ f.message

def report (w : Writer ω) (name : String) (channel : Lines ω) (f : Failure) : Lines ω :=
  (channel.writeLine w (line name f)).2

def reportAll (w : Writer ω) (name : String) (channel : Lines ω) (failures : List Failure) : Lines ω :=
  failures.foldl (report w name) channel

end Reporter

end BatchClassifier
