import BatchClassifier.CommandLine.Settings

namespace BatchClassifier.CommandLine

def version : String := "0.1.0"

def versionText : String := program ++ " " ++ version ++ "\n"

def about : String :=
  program ++ ": Command-line image classifier built on the batchcls pipeline\nVersion: " ++ version ++
    "\nAuthors: batchcls contributors"

namespace Help

open Text.Terminal (styled)

def headingWidth (f : Flag) : Nat := (f.short ++ ", " ++ f.shown).length

def width : Nat := (Flag.all.map headingWidth).foldl max 0

def heading (f : Flag) : String :=
  styled [.bold] f.short ++ ", " ++ styled [.bold] f.long ++ f.placeholder

def blanks (count : Nat) : String := String.ofList (List.replicate count ' ')

def indent (text : String) : String :=
  String.join (text.toList.map fun c => if c = '\n' then "\n" ++ blanks (width + 4) else String.ofList [c])

def remarks (environment : Environment) (v : Flag.Value) : String :=
  " [env: " ++ v.environment ++ "=" ++ (environment v.environment).getD "" ++ "]" ++
    match v.default with
    | some text => " [default: " ++ text ++ "]"
    | none => ""

def row (environment : Environment) (f : Flag) : String :=
  "  " ++ heading f ++ blanks (width + 2 - headingWidth f) ++
    indent (f.entry.description ++ ((f.entry.value.map (remarks environment)).getD "")) ++ "\n"

def title (text : String) : String := styled [.bold, .underlined] text

def content (environment : Environment) : String :=
  "Classify images with an ONNX model, many at a time\n\n" ++
    title "Usage:" ++ " " ++ styled [.bold] program ++ " [OPTIONS] [PATHS]...\n\n" ++
    title "Arguments:" ++ "\n  [PATHS]...  Image files (ignored when paths are piped on stdin)\n\n" ++
    title "Options:" ++ "\n" ++ String.join (Flag.all.map (row environment)) ++
    "\nExamples:\n" ++
    "  " ++ program ++ " -m ./yolo11x-cls.onnx -c ./imagenet.names ./fox.png\n" ++
    "  find . | " ++ program ++ " -m ./yolo11x-cls.onnx -c ./imagenet.names\n"

def text (environment : Environment) : String := Text.Terminal.plain false (content environment)

/-- The variables that forbid and that force styles, if they are not empty. -/
def noStyles : String := "NO_COLOR"

def forcedStyles : String := "CLICOLOR_FORCE"

def printed (environment : Environment) : String :=
  let set (name : String) : Bool := (environment name).any (!·.isEmpty)
  if !set noStyles && set forcedStyles then content environment
  else Text.Terminal.plain true (content environment)

end Help

end BatchClassifier.CommandLine
