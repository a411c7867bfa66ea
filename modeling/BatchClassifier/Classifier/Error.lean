import BatchClassifier.Image.Format

namespace BatchClassifier

inductive ClassifierError
  | notRegularFile
  | emptyFile
  | fileTooLarge (size limit : Nat)
  | io (fault : IoFault)
  | decode (error : DecodeError)
  | invalidInputSize (width height : Int)
  | inference (text : String)
  | model (text : String)
  | classNames (path reason : String)
  | unsupported (text : String)
deriving DecidableEq, Repr

namespace ClassifierError

def message : ClassifierError → String
  | .notRegularFile => "path is not a regular file or does not exist"
  | .emptyFile => "file is empty"
  | .fileTooLarge size limit =>
    "file is too large (" ++ toString size ++ " bytes, limit " ++ toString limit ++ " bytes)"
  | .io fault => "IO error: " ++ fault.message
  | .decode error => "could not read or decode image: " ++ error.message
  | .invalidInputSize width height =>
    "invalid model input size " ++ toString width ++ "x" ++ toString height
  | .inference text => "inference failed: " ++ text
  | .model text => "model error: " ++ text
  | .classNames path reason => "class names file '" ++ path ++ "': " ++ reason
  | .unsupported text => "classification backend unavailable: " ++ text

/-- The error as the failure of one item. A file that is not even looked into is rejected. -/
def toItemError : ClassifierError → ItemError
  | .io fault => .io fault
  | e@.notRegularFile | e@.emptyFile | e@(.fileTooLarge ..) => .rejected e.message
  | e => .failed e.message

end ClassifierError

end BatchClassifier
