import BatchClassifier.CommandLine.Help
import BatchClassifier.CommandLine.Parse
import BatchClassifier.ImageName
import BatchClassifier.Sink.Writer
import BatchClassifier.Run.Schedule

namespace BatchClassifier

inductive LogFormat
  | json
  | pretty
deriving DecidableEq, Repr

namespace LogFormat

def environment : String := "BATCHCLS_LOG_FORMAT"

/-- Whatever is not `json`, in any case, means the pretty format. -/
def ofSetting : Option String → LogFormat
  | some text => if text.toList.map Char.toLower = "json".toList then .json else .pretty
  | none => .pretty

def name : LogFormat → String
  | .json => "Json"
  | .pretty => "Pretty"

end LogFormat

namespace CommandLine

/-- Where the items come from. With a terminal at the standard input they are the paths of the
command line, taken as they are; otherwise they are the lines of the standard input, of which only
those that look like images count unless that check is off. -/
def chooseSource (terminal : Bool) (paths : List String) (noExtensionCheck : Bool) (stdin : Stream) :
    Source × Option Filter :=
  if terminal then (.items paths, none)
  else (.lines stdin, if noExtensionCheck then none else some (.ofBool ImageName.accepts))

structure Surroundings where
  environment : Environment
  files : FileTree := {}
  terminal : Bool := false
  stdin : Stream := .ofBytes []
  hardwareThreads : Nat := 1
  elapsed : Item → Elapsed := fun _ => ⟨0, 0⟩
  /-- What the scheduler says of a task that it has lost. -/
  remark : String := ""

structure Exit where
  code : Nat := 0
  stdout : String := ""
  stderr : String := ""
deriving DecidableEq, Repr

namespace Exit

def complaint (text : String) : Exit := { code := 1, stderr := text ++ "\n" }

def failure (text : String) : Exit := .complaint (program ++ ": " ++ text)

end Exit

def plan (w : Surroundings) (s : Settings) (model : Model) (classes : ClassNames) :
    Plan (Lines Writer.Progress) :=
  let classifier : Classifier := { files := w.files, classes, model, config := s.classifier }
  let (source, filter) := chooseSource w.terminal s.paths s.noExtensionCheck w.stdin
  { workers := s.workers?.getD w.hardwareThreads
    source
    filter := filter.getD .acceptAll
    handlers := { process := fun item => classifier.process (w.elapsed item) item }
    sink := .lines (.limited {})
    state := { writer := {} } }

def writtenText (l : Lines Writer.Progress) : String :=
  String.ofList (Text.Utf8.decodeLossy l.taken)

/-- A fault of reading or writing is told twice: as the error of the run and as its cause. -/
def causes (remark : String) : RunError → String
  | e@(.io fault) | e@(.output fault) => e.message remark ++ ": " ++ fault.message
  | e => e.message remark

def classifyAll (w : Surroundings) (s : Settings) (model : Model) (classes : ClassNames) : Exit :=
  let r := Run.complete (plan w s model classes)
  let reports :=
    writtenText (Reporter.reportAll (.limited {}) program { writer := {} } r.floor.reports)
  let stdout := writtenText r.drain.state
  match r.result with
  | .ok _ => { stdout, stderr := reports }
  | .error e =>
    { code := 1, stdout, stderr := reports ++ (Exit.failure (causes w.remark e)).stderr }

def classify (w : Surroundings) (s : Settings) : Exit :=
  match s.model, s.classes with
  | none, _ => .failure "missing required option --model"
  | _, none => .failure "missing required option --classes"
  | some model, some classes =>
    match Model.load model with
    | .error e => .failure ("could not load model: " ++ e.message)
    | .ok model =>
      match ClassNames.load w.files classes with
      | .error e => .failure ("could not load class names: " ++ e.message)
      | .ok classes => classifyAll w s model classes

/-- A command line without any arguments asks for help. -/
def run (w : Surroundings) (args : List String) : Exit :=
  if args.isEmpty then { stdout := Help.printed w.environment ++ "\n" }
  else
    match parse w.environment args with
    | .error .help => { stdout := Help.printed w.environment }
    | .error .version => { stdout := versionText }
    | .error (.refused e) => .complaint e.report
    | .ok s => if s.about then { stdout := about ++ "\n" } else classify w s

end CommandLine

end BatchClassifier
