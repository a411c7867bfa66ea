import BatchClassifier.CommandLine.Flag
import BatchClassifier.Text.Cut
import BatchClassifier.Text.Terminal

namespace BatchClassifier.CommandLine

def program : String := "batchcls"

inductive UsageError
  | unexpectedArgument (text : String)
  | unexpectedValue (flag : Flag) (value : String)
  | valueMissing (flag : Flag)
  | invalidValue (flag : Flag) (value reason : String)
  | repeated (flag : Flag)
  | argumentsMissing
deriving DecidableEq, Repr

namespace UsageError

def quoted (style : Text.Terminal.Style) (text : String) : String :=
  "'" ++ Text.Terminal.styled [style] text ++ "'"

/-- The error with styles. The reason for refusing a value comes without any. -/
def message : UsageError → String
  | .unexpectedArgument text => "unexpected argument " ++ quoted .yellow text ++ " found"
  | .unexpectedValue flag value =>
    "unexpected value " ++ quoted .yellow value ++ " for " ++ quoted .bold flag.shown ++
      " found; no more were expected"
  | .valueMissing flag =>
    "a value is required for " ++ quoted .bold flag.shown ++ " but none was supplied"
  | .invalidValue flag value reason =>
    "invalid value " ++ quoted .yellow value ++ " for " ++ quoted .bold flag.shown ++ ": " ++ reason
  | .repeated flag => "the argument " ++ quoted .bold flag.shown ++ " cannot be used multiple times"
  | .argumentsMissing => "the following required arguments were not provided:"

def advice : String := "\n\nFor more information, try " ++ quoted .bold "--help" ++ ".\n"

/-- The error in one line. An escape sequence that the reason for refusing a value leaves open reaches
into the advice. -/
def report (e : UsageError) : String :=
  program ++ ": " ++ Text.firstLine (Text.Terminal.plain false (e.message ++ advice)) ++
    ", use --help for usage"

end UsageError

inductive Stop
  | help
  | version
  | refused (error : UsageError)
deriving DecidableEq, Repr

end BatchClassifier.CommandLine
