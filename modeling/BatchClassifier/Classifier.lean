import BatchClassifier.Image.Tensor
import BatchClassifier.ResultLine
import BatchClassifier.Ranking
import BatchClassifier.Worker

namespace BatchClassifier

inductive Inference
  | scores (scores : List Score)
  | failed (error : ClassifierError)
  | crashed (crash : Crash)

structure Model where
  size : InputSize
  infer : Tensor → Inference

namespace Model

def mean (plane : Array Score) : Score := plane.foldl (· + ·) 0 / plane.size.toUInt64.toFloat32

/-- The mean of each colour plane, so that the scores are those of red, green and blue. -/
def channelMeans (size : InputSize) : Model where
  size := size
  infer t := .scores ((List.range Tensor.channels).map fun c => mean ((t.plane? c).getD #[]))

def fixed (size : InputSize) (scores : List Score) : Model := ⟨size, fun _ => .scores scores⟩

def failing (size : InputSize) (error : ClassifierError) : Model := ⟨size, fun _ => .failed error⟩

def crashing (size : InputSize) (crash : Crash) : Model := ⟨size, fun _ => .crashed crash⟩

/-- No backend is built in, so no model file can be used. -/
def load (path : String) : Except ClassifierError Model :=
  .error <| .unsupported <|
    "cannot load '" ++ path ++
      "': built without the 'onnx' feature (rebuild with --features onnx)"

end Model

namespace Classifier

structure Config where
  topK : Nat := 5
  softmax : Bool := false
  timing : Bool := false
  maxFileSize : Nat := 100 * 1024 * 1024
deriving DecidableEq, Repr

end Classifier

structure Classifier where
  files : FileTree
  classes : ClassNames
  model : Model
  config : Classifier.Config := {}

def FileTree.loadImage (files : FileTree) (maxFileSize : Nat) (path : String) :
    Except ClassifierError Raster :=
  match files.read? path with
  | none => .error .notRegularFile
  | some content =>
    if content.length = 0 then .error .emptyFile
    else if maxFileSize < content.length then .error (.fileTooLarge content.length maxFileSize)
    else (decodeImage path content).mapError .decode

namespace Classifier

inductive Outcome
  | ranked (predictions : List (Prediction Score))
  | failed (error : ClassifierError)
  | crashed (crash : Crash)

def rankScores (c : Classifier) (scores : List Score) : List (Prediction Score) :=
  topK (if c.config.softmax then softmax scores else scores) c.config.topK c.classes

def classify (c : Classifier) (path : String) : Outcome :=
  match c.files.loadImage c.config.maxFileSize path with
  | .error e => .failed e
  | .ok image =>
    match c.model.infer (.ofRaster image c.model.size) with
    | .failed e => .failed e
    | .crashed crash => .crashed crash
    | .scores scores => .ranked (c.rankScores scores)

def process (c : Classifier) (elapsed : Elapsed) (path : String) : Attempt :=
  match c.classify path with
  | .failed e => .returned (.error e.toItemError)
  | .crashed crash => .crashed crash
  | .ranked predictions =>
    .returned <| .ok <|
      ResultLine.format path (if c.config.timing then some elapsed else none) c.config.topK predictions

end Classifier

end BatchClassifier
