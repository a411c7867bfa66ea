import BatchClassifier.Failure

namespace BatchClassifier

inductive TaskFault
  | threadLost (name : String)
  | taskCrashed
  | taskCancelled
  | told (text : String)
deriving DecidableEq, Repr

/-- `remark` is what the scheduler says of a task that it has lost. -/
def TaskFault.message (remark : String) : TaskFault → String
  | .threadLost name => "thread '" ++ name ++ "' exited without a result"
  | .taskCrashed => "task panicked: " ++ remark
  | .taskCancelled => "task cancelled: " ++ remark
  | .told text => text

inductive RunError
  | io (fault : IoFault)
  | output (fault : IoFault)
  | task (fault : TaskFault)
deriving DecidableEq, Repr

def RunError.message (remark : String) : RunError → String
  | .io fault => "IO error: " ++ fault.message
  | .output fault => "Output error: " ++ fault.message
  | .task fault => "Task failed: " ++ fault.message remark

variable {α : Type}

structure Thread (α : Type) where
  name : String
  outcome : Except Crash α

def Thread.join (t : Thread α) : Except RunError α :=
  t.outcome.mapError fun _ => .task (.threadLost t.name)

end BatchClassifier
