import BatchClassifier.CommandLine.Settings

namespace BatchClassifier.CommandLine

inductive Shape
  | separator
  | long (name : String) (value : Option String)
  | letters (cs : List Char)
  | plain
deriving DecidableEq, Repr

def Shape.ofChars : List Char → Shape
  | ['-', '-'] => .separator
  | '-' :: '-' :: text =>
    .long (String.ofList (text.takeWhile (· != '='))) <|
      match text.dropWhile (· != '=') with
      | [] => none
      | _ :: value => some (String.ofList value)
  | '-' :: c :: cs => .letters (c :: cs)
  | _ => .plain

def Shape.of (arg : String) : Shape := .ofChars arg.toList

/-- What has been read: what is given for certain, the flag last read with the value that is still
to be stored, if it has come yet, and whether all arguments are paths from here on. A value in an argument
of its own is stored only when the next argument has been recognised, so of two faults an unknown flag
comes before a bad value in front of it. -/
structure Reading where
  given : Given := {}
  pending : Option (Flag × Option String) := none
  pathsOnly : Bool := false
deriving DecidableEq, Repr

namespace Reading

def settle (r : Reading) : Except Stop Reading :=
  match r.pending with
  | none => .ok r
  | some (flag, none) => .error (.refused (.valueMissing flag))
  | some (flag, some value) => do return { r with given := ← r.given.store flag value, pending := none }

def store (r : Reading) (flag : Flag) (value : String) : Except Stop Reading := do
  let r ← r.settle
  return { r with given := ← r.given.store flag value }

def raise (r : Reading) (flag : Flag) : Except Stop Reading := do
  let r ← r.settle
  return { r with given := ← r.given.raise flag }

def await (r : Reading) (flag : Flag) : Except Stop Reading := do
  return { ← r.settle with pending := some (flag, none) }

def path (r : Reading) (arg : String) : Except Stop Reading := do
  let r ← r.settle
  return { r with given := r.given.addPath arg }

def plain (r : Reading) (arg : String) : Except Stop Reading :=
  match r.pending with
  | some (flag, none) => .ok { r with pending := some (flag, some arg) }
  | _ => r.path arg

def long (r : Reading) (name : String) (value : Option String) : Except Stop Reading :=
  match Flag.ofLong? name with
  | none => .error (.refused (.unexpectedArgument ("--" ++ name)))
  | some flag =>
    match flag.takesValue, value with
    | true, some value => r.store flag value
    | true, none => r.await flag
    | false, some value => .error (.refused (.unexpectedValue flag value))
    | false, none => r.raise flag

/-- Flags of one letter each. What follows one that takes a value is its value, with or without an
equals sign. -/
def letters (r : Reading) : List Char → Except Stop Reading
  | [] => .ok r
  | c :: rest =>
    match Flag.ofShort? c with
    | none => .error (.refused (.unexpectedArgument (String.ofList ['-', c])))
    | some flag =>
      if flag.takesValue then
        match rest with
        | [] => r.await flag
        | '=' :: value => r.store flag (String.ofList value)
        | value => r.store flag (String.ofList value)
      else do (← r.raise flag).letters rest

def step (r : Reading) (arg : String) : Except Stop Reading :=
  if r.pathsOnly then r.path arg
  else
    match Shape.of arg with
    | .separator => .ok { r with pathsOnly := true }
    | .long name value => r.long name value
    | .letters cs => r.letters cs
    | .plain => r.plain arg

end Reading

def parse (environment : Environment) (args : List String) : Except Stop Settings := do
  let r ← args.foldlM Reading.step {}
  let given ← Flag.all.foldlM (Given.fill environment) (← r.settle).given
  given.settings

end BatchClassifier.CommandLine
