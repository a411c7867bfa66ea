import BatchClassifier.ClassNames
import BatchClassifier.Score

namespace BatchClassifier

variable {α : Type} [Scalar α]

def largest? : List α → Option α
  | [] => none
  | s :: rest => some (rest.foldl Scalar.larger s)

def powers (top : α) (scores : List α) : List α := scores.map fun s => Scalar.exp (s - top)

def total (scores : List α) : α := scores.foldl (· + ·) Scalar.zero

def softmax (scores : List α) : List α :=
  match largest? scores with
  | none => []
  | some top =>
    let ps := powers top scores
    ps.map (· / total ps)

@[simp] theorem length_softmax (scores : List α) : (softmax scores).length = scores.length := by
  cases scores with
  | nil => rfl
  | cons s rest => simp [softmax, largest?, powers]

structure Prediction (α : Type) where
  name : String
  confidence : α

/-- As many scores are sorted by insertion. If there are more, and a NaN among them, the order that they come
out in is left open. -/
def insertionLimit : Nat := 20

/-- Puts an indexed score into a list that has the lowest place in front. More than `insertionLimit` scores
may be sorted in another way, which makes a difference only if there is a NaN among them. -/
def place (s : Nat × α) : List (Nat × α) → List (Nat × α)
  | [] => [s]
  | t :: rest => if Scalar.exceeds s.2 t.2 then t :: place s rest else s :: t :: rest

/-- All scores by insertion. With a NaN among more than `insertionLimit` of them nothing is known of the order
that they really come out in. -/
def rank (scores : List α) : List (Nat × α) :=
  ((scores.zipIdx.map fun (s, i) => (i, s)).foldl (fun placed s => place s placed) []).reverse

def topK (scores : List α) (k : Nat) (classes : ClassNames) : List (Prediction α) :=
  ((rank scores).take k).map fun (i, s) => ⟨classes.label i, s⟩

end BatchClassifier
