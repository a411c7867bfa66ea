namespace BatchClassifier

abbrev Item := String

inductive FaultKind
  | notFound
  | permissionDenied
  | brokenPipe
  | wouldBlock
  | timedOut
  | unexpectedEof
  | invalidData
  | invalidInput
  | writeZero
  | storageFull
  | uncategorized
  | other
deriving DecidableEq, Repr

def FaultKind.text : FaultKind → String
  | .notFound => "entity not found"
  | .permissionDenied => "permission denied"
  | .brokenPipe => "broken pipe"
  | .wouldBlock => "operation would block"
  | .timedOut => "timed out"
  | .unexpectedEof => "unexpected end of file"
  | .invalidData => "invalid data"
  | .invalidInput => "invalid input parameter"
  | .writeZero => "write zero"
  | .storageFull => "no storage space"
  | .uncategorized => "uncategorized error"
  | .other => "other error"

structure IoFault where
  kind : FaultKind
  message : String
deriving DecidableEq, Repr

namespace IoFault

def ofKind (kind : FaultKind) : IoFault := ⟨kind, kind.text⟩

def systemErrors : List (Nat × FaultKind × String) :=
  [(2, .notFound, "No such file or directory"), (5, .uncategorized, "Input/output error"),
    (11, .wouldBlock, "Resource temporarily unavailable"), (13, .permissionDenied, "Permission denied"),
    (28, .storageFull, "No space left on device"), (32, .brokenPipe, "Broken pipe")]

def ofSystem (number : Nat) : IoFault :=
  let (kind, text) := (systemErrors.lookup number).getD (.uncategorized, "Unknown error " ++ toString number)
  ⟨kind, text ++ " (os error " ++ toString number ++ ")"⟩

def wroteNothing : IoFault := ⟨.writeZero, "failed to write whole buffer"⟩

def readTooLittle : IoFault := ⟨.unexpectedEof, "failed to fill whole buffer"⟩

end IoFault

/-- What a crash brings with it, as far as it is told. It is assumed that nothing crashes again when what it
brings is thrown away. -/
inductive Crash
  | text (message : String)
  | unknown
deriving DecidableEq, Repr

def Crash.message : Crash → String
  | .text message => message
  | .unknown => "unknown panic payload"

/-- Why one item failed. It never stops a run. It is assumed that an error can be asked for its text without
a crash, so the text is all that is kept of it. -/
inductive ItemError
  | rejected (reason : String)
  | io (fault : IoFault)
  | failed (reason : String)
  | crashed (message : String)
deriving DecidableEq, Repr

def ItemError.message : ItemError → String
  | .rejected reason | .failed reason => reason
  | .io fault => "IO error: " ++ fault.message
  | .crashed message => "processor panicked: " ++ message

structure Failure where
  item : Item
  reason : String
deriving DecidableEq, Repr

def Failure.of (item : Item) (error : ItemError) : Failure := ⟨item, error.message⟩

def Failure.message (f : Failure) : String := "could not process " ++ f.item ++ ": " ++ f.reason

end BatchClassifier
