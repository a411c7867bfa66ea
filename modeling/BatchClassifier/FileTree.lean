import BatchClassifier.Text.Cut
import BatchClassifier.Text.Utf8

namespace BatchClassifier

inductive Entry
  | directory
  | file (content : List UInt8)
deriving DecidableEq, Repr

/-- The entries by the names that lead to them; of two with the same names the first one counts. -/
structure FileTree where
  entries : List (List (List Char) × Entry) := []
deriving DecidableEq, Repr

namespace FileTree

/-- Where a name leads from a place. An empty name and a dot stay there. -/
def go (here : List (List Char)) (name : List Char) : List (List Char) :=
  if name = [] ∨ name = ['.'] then here
  else if name = ['.', '.'] then here.dropLast
  else here ++ [name]

def way (here : List (List Char)) : List (List Char) → List (List (List Char)) × List (List Char)
  | [] => ([], here)
  | name :: rest =>
    let (places, last) := way (go here name) rest
    (here :: places, last)

def add (t : FileTree) (path : String) (entry : Entry) : FileTree :=
  let (places, last) := way [] (Text.cutAt (· == '/') path.toList)
  ⟨(last, entry) :: places.map (·, .directory) ++ t.entries⟩

def addDirectory (t : FileTree) (path : String) : FileTree := t.add path .directory

def addFile (t : FileTree) (path : String) (content : List UInt8) : FileTree := t.add path (.file content)

def entry? (t : FileTree) (names : List (List Char)) : Option Entry :=
  if names.isEmpty then some .directory else t.entries.lookup names

/-- The longest name and the longest path that can lead anywhere, in bytes. -/
def maxName : Nat := 255

def maxPath : Nat := 4095

/-- Follows the names of a path from the place `here`. Each of them, even an empty one, needs a
directory to be looked up in; nothing above the current directory is known. -/
def follow (t : FileTree) (here : List (List Char)) : List (List Char) → Option Entry
  | [] => t.entry? here
  | name :: rest =>
    if t.entry? here ≠ some .directory then none
    else if name = ['.', '.'] ∧ here = [] ∨ maxName < (Text.Utf8.encode name).length then none
    else t.follow (go here name) rest

def resolve? (t : FileTree) (path : String) : Option Entry :=
  let text := path.toList
  if text = [] ∨ text.head? = some '/' ∨ '\x00' ∈ text ∨
      maxPath < (Text.Utf8.encode text).length then none
  else t.follow [] (Text.cutAt (· == '/') text)

def read? (t : FileTree) (path : String) : Option (List UInt8) :=
  match t.resolve? path with
  | some (.file content) => some content
  | _ => none

end FileTree

end BatchClassifier
