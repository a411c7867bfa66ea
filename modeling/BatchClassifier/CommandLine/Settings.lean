import BatchClassifier.ByteSize
import BatchClassifier.Classifier
import BatchClassifier.CommandLine.Usage
import BatchClassifier.Pool

namespace BatchClassifier.CommandLine

structure Given where
  model : Option String := none
  classes : Option String := none
  topK : Option Nat := none
  threads : Option Nat := none
  maxFileSize : Option Nat := none
  timing : Bool := false
  softmax : Bool := false
  noExtensionCheck : Bool := false
  about : Bool := false
  paths : List String := []
deriving DecidableEq, Repr

namespace Given

def has (g : Given) : Flag → Bool
  | .model => g.model.isSome
  | .classes => g.classes.isSome
  | .topK => g.topK.isSome
  | .threads => g.threads.isSome
  | .maxFileSize => g.maxFileSize.isSome
  | .timing => g.timing
  | .softmax => g.softmax
  | .noExtensionCheck => g.noExtensionCheck
  | .about => g.about
  | .version | .help => false

def readPath (flag : Flag) (value : String) : Except Stop String :=
  if value.isEmpty then .error (.refused (.valueMissing flag)) else .ok value

def readNumber (flag : Flag) (value : String) : Except Stop Nat :=
  (Text.readNat Text.wordBound value.toList).mapError fun fault =>
    .refused (.invalidValue flag value fault.message)

def readSize (flag : Flag) (value : String) : Except Stop Nat :=
  (ByteSize.parse value).mapError fun error => .refused (.invalidValue flag value error.message)

/-- Reads and keeps the value of a flag. A flag that is there already is refused before its value is
looked at. -/
def store (g : Given) (flag : Flag) (value : String) : Except Stop Given := do
  if g.has flag then throw (.refused (.repeated flag))
  match flag with
  | .model => return { g with model := some (← readPath flag value) }
  | .classes => return { g with classes := some (← readPath flag value) }
  | .topK => return { g with topK := some (← readNumber flag value) }
  | .threads => return { g with threads := some (← readNumber flag value) }
  | .maxFileSize => return { g with maxFileSize := some (← readSize flag value) }
  | .timing | .softmax | .noExtensionCheck | .version | .about | .help =>
    throw (.refused (.unexpectedValue flag value))

def raise (g : Given) (flag : Flag) : Except Stop Given := do
  if g.has flag then throw (.refused (.repeated flag))
  match flag with
  | .timing => return { g with timing := true }
  | .softmax => return { g with softmax := true }
  | .noExtensionCheck => return { g with noExtensionCheck := true }
  | .about => return { g with about := true }
  | .help => throw .help
  | .version => throw .version
  | .model | .classes | .topK | .threads | .maxFileSize => throw (.refused (.valueMissing flag))

def addPath (g : Given) (path : String) : Given := { g with paths := g.paths ++ [path] }

end Given

abbrev Environment := String → Option String

/-- What the program is to do. The model and the classes may be absent only where nothing but the
program itself is asked about. -/
structure Settings where
  model : Option String
  classes : Option String
  threads : Option Nat
  classifier : Classifier.Config
  noExtensionCheck : Bool
  about : Bool
  paths : List String
deriving DecidableEq, Repr

def Settings.workers? (s : Settings) : Option Nat := s.threads.map Pool.size

namespace Given

def fill (environment : Environment) (g : Given) (flag : Flag) : Except Stop Given :=
  match flag.entry.value.bind (environment ·.environment) with
  | some value => if g.has flag then .ok g else g.store flag value
  | none => .ok g

def settings (g : Given) : Except Stop Settings := do
  if !g.about && (g.model.isNone || g.classes.isNone) then throw (.refused .argumentsMissing)
  let default : Classifier.Config := {}
  return {
    model := g.model, classes := g.classes, threads := g.threads,
    classifier := {
      topK := g.topK.getD default.topK, softmax := g.softmax, timing := g.timing
      maxFileSize := g.maxFileSize.getD default.maxFileSize },
    noExtensionCheck := g.noExtensionCheck, about := g.about, paths := g.paths }

end Given

end BatchClassifier.CommandLine
