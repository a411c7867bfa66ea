import BatchClassifier.Classifier.Error
import BatchClassifier.FileTree

namespace BatchClassifier

structure ClassNames where
  names : Array String := #[]
deriving DecidableEq, Repr

namespace ClassNames

def ofList (names : List String) : ClassNames := ⟨names.toArray⟩

def ofText (text : List Char) : ClassNames := .ofList ((Text.lines text).map String.ofList)

/-- Every line counts, blank or not. -/
def load (files : FileTree) (path : String) : Except ClassifierError ClassNames :=
  match files.read? path with
  | none => .error (.classNames path "not a regular file or does not exist")
  | some content =>
    match Text.Utf8.decode? content with
    | none => .error (.classNames path "stream did not contain valid UTF-8")
    | some text => .ok (.ofText text)

def length (c : ClassNames) : Nat := c.names.size

def get? (c : ClassNames) (index : Nat) : Option String := c.names[index]?

def label (c : ClassNames) (index : Nat) : String :=
  (c.get? index).getD ("class_" ++ toString index)

end ClassNames

end BatchClassifier
