import BatchClassifier.Sink

namespace BatchClassifier.Sink

structure Script where
  limit : Option (Nat × IoFault) := none
  flushFault : Option IoFault := none
  crashOn : Option (String × Crash) := none

namespace Script

def crash? (s : Script) (text : String) : Option Crash := do
  let (trigger, crash) ← s.crashOn
  if trigger = text then some crash else none

def fault? (s : Script) (accepted : Nat) : Option IoFault := do
  let (limit, fault) ← s.limit
  if limit ≤ accepted then some fault else none

end Script

/-- Keeps the results that the script accepts. A crash comes before a fault. -/
def scripted (s : Script) : Sink (List String) where
  emit kept text :=
    match s.crash? text, s.fault? kept.length with
    | some crash, _ => (.crashed crash, kept)
    | none, some fault => (.failed fault, kept)
    | none, none => (.done, kept ++ [text])
  flush kept :=
    match s.flushFault with
    | some fault => (.failed fault, kept)
    | none => (.done, kept)

end BatchClassifier.Sink
