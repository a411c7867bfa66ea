namespace BatchClassifier.CommandLine

inductive Flag
  | model
  | classes
  | topK
  | threads
  | maxFileSize
  | timing
  | softmax
  | noExtensionCheck
  | version
  | about
  | help
deriving DecidableEq, Repr

namespace Flag

def all : List Flag :=
  [.model, .classes, .topK, .threads, .maxFileSize, .timing, .softmax, .noExtensionCheck, .version,
    .about, .help]

structure Value where
  name : String
  environment : String
  default : Option String := none

structure Entry where
  short : Char
  long : String
  description : String
  value : Option Value := none

def entry : Flag → Entry
  | .model =>
    { short := 'm', long := "model", description := "Path to the ONNX model file"
      value := some { name := "MODEL", environment := "BATCHCLS_MODEL" } }
  | .classes =>
    { short := 'c', long := "classes"
      description := "Path to the class names file (one name per line)"
      value := some { name := "CLASSES", environment := "BATCHCLS_CLASSES" } }
  | .topK =>
    { short := 'k', long := "top-k", description := "Number of top results to show"
      value := some { name := "TOP_K", environment := "BATCHCLS_TOP_K", default := some "5" } }
  | .threads =>
    { short := 't', long := "threads"
      description := "Worker threads [default: number of hardware threads]"
      value := some { name := "THREADS", environment := "BATCHCLS_THREADS" } }
  | .maxFileSize =>
    { short := 'F', long := "max-filesize"
      description := "Maximum image file size (e.g. 100mb, 2g)"
      value := some
        { name := "MAX_FILESIZE", environment := "BATCHCLS_MAX_FILESIZE", default := some "100mb" } }
  | .timing => { short := 'T', long := "timing", description := "Print processing time for each image" }
  | .softmax => { short := 'S', long := "softmax", description := "Apply softmax to the output scores" }
  | .noExtensionCheck =>
    { short := 'D', long := "no-extension-check"
      description := "Accept piped paths regardless of their file extension" }
  | .version => { short := 'v', long := "version", description := "Print version information and exit" }
  | .about => { short := 'a', long := "about", description := "Print about information and exit" }
  | .help => { short := 'h', long := "help", description := "Print help" }

def takesValue (f : Flag) : Bool := f.entry.value.isSome

def ofShort? (c : Char) : Option Flag := all.find? (·.entry.short == c)

def ofLong? (name : String) : Option Flag := all.find? (·.entry.long == name)

def short (f : Flag) : String := String.ofList ['-', f.entry.short]

def long (f : Flag) : String := "--" ++ f.entry.long

def placeholder (f : Flag) : String :=
  match f.entry.value with
  | some v => " <" ++ v.name ++ ">"
  | none => ""

def shown (f : Flag) : String := f.long ++ f.placeholder

end Flag

end BatchClassifier.CommandLine
