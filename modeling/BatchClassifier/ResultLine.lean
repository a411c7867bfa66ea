import BatchClassifier.Ranking

namespace BatchClassifier

structure Elapsed where
  seconds : Nat
  nanos : Nat := 0
deriving DecidableEq, Repr

def Elapsed.millis (e : Elapsed) : Nat := e.seconds * 1000 + e.nanos / 1000000

namespace ResultLine

def places : Nat := 6

def separator : String := ", "

def prediction (p : Prediction Score) : String := p.name ++ " " ++ p.confidence.fixed places

/-- A separator follows whenever predictions are asked for, whether there are any or not. -/
def format (path : String) (elapsed : Option Elapsed) (topK : Nat)
    (predictions : List (Prediction Score)) : String :=
  let time := match elapsed with
    | some e => separator ++ toString e.millis ++ "ms"
    | none => ""
  let pause := if topK = 0 then "" else separator
  path ++ time ++ pause ++ separator.intercalate (predictions.map prediction)

end ResultLine

end BatchClassifier
