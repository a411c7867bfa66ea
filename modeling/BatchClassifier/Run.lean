import BatchClassifier.Feed
import BatchClassifier.Pool
import BatchClassifier.Sink
import BatchClassifier.Stage

namespace BatchClassifier

variable {σ : Type}

structure Plan (σ : Type) where
  workers : Nat
  source : Source
  filter : Filter := .acceptAll
  handlers : Handlers
  sink : Sink σ
  state : σ

structure Run (σ : Type) where
  tracker : Tracker := {}
  feed : Feed
  workers : List Worker
  drain : Drain σ
  floor : Floor := {}

namespace Run

inductive Actor
  | conductor
  | producer
  | worker (id : Nat)
  | sink
deriving DecidableEq, Repr

def start (p : Plan σ) : Run σ where
  feed := .start p.source
  workers := Pool.spawn p.workers
  drain := { state := p.state }

def stage (r : Run σ) : Stage := r.tracker.current

def advance (r : Run σ) : Run σ := { r with tracker := r.tracker.advance }

def conduct (r : Run σ) : Option (Run σ) :=
  match r.stage with
  | .starting => some r.advance
  | .producing => if r.feed.isOver then some r.advance else none
  | .drainingWorkers => if Pool.isOver r.workers then some r.advance else none
  | .closingOutput =>
    if r.floor.output.closed then some r.advance else some { r with floor := r.floor.closeOutput }
  | .drainingSink => if r.drain.isOver then some r.advance else none
  | .done => none

/-- One atomic operation of one actor, if it does not have to wait. Any order of such operations is an
execution. -/
def step (p : Plan σ) (r : Run σ) : Actor → Option (Run σ)
  | .conductor => r.conduct
  | .producer =>
    if r.stage = .producing then
      (r.feed.step p.filter r.floor).map fun (feed, floor) => { r with feed, floor }
    else none
  | .worker id =>
    (Pool.step p.handlers id r.workers r.floor).map fun (workers, floor) => { r with workers, floor }
  | .sink => (r.drain.step p.sink r.floor).map fun (drain, floor) => { r with drain, floor }

inductive Reachable (p : Plan σ) : Run σ → Prop
  | start : Reachable p (start p)
  | step {r s : Run σ} {a : Actor} (hr : Reachable p r) (hs : r.step p a = some s) : Reachable p s

structure Report where
  workers : Nat
  submitted : Nat
  succeeded : Nat
  failed : Nat
  emitted : Nat
  finalStage : Stage
  history : List Stage
deriving DecidableEq, Repr

/-- What a finished run returns. A lost producer comes first, then a lost worker, then a lost sink,
and only then a fault of the sink. -/
def result (r : Run σ) : Except RunError Report := do
  let submitted ← r.feed.result
  let totals ← Pool.join r.workers
  let (emitted, fault) ← r.drain.result
  if let some fault := fault then throw (.output fault)
  return {
    workers := r.workers.length, submitted, succeeded := totals.succeeded, failed := totals.failed,
    emitted, finalStage := r.stage, history := r.tracker.history }

end Run

end BatchClassifier
