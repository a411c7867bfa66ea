import BatchClassifier.Run

namespace BatchClassifier

variable {σ : Type}

def Feed.work (f : Feed) : Nat := 6 * f.pending.length + if f.isOver then 0 else 1

def Worker.work (w : Worker) : Nat :=
  match w.cursor with
  | .ready => 1
  | .holding _ => 5
  | .sending _ | .reporting _ => 4
  | .exited | .lost _ => 0

def Pool.work : List Worker → Nat
  | [] => 0
  | w :: rest => w.work + work rest

def Drain.work (d : Drain σ) : Nat :=
  match d.cursor with
  | .waiting => 2
  | .holding _ => 3
  | .flushing => 1
  | .finished | .lost _ => 0

namespace Run

/-- An item costs six steps before it is queued, five in the input queue, two in the output queue,
and what is left of them in between. -/
def work (r : Run σ) : Nat :=
  r.feed.work + 5 * r.floor.input.length + Pool.work r.workers +
    2 * r.floor.output.length + r.drain.work + r.stage.left + if r.floor.output.closed then 0 else 1

def actors (r : Run σ) : List Actor :=
  .producer :: (List.range r.workers.length).map .worker ++ [.sink, .conductor]

def next? (p : Plan σ) (r : Run σ) : Option (Run σ) := r.actors.findSome? (r.step p)

def steps (p : Plan σ) : Nat → Run σ → Run σ
  | 0, r => r
  | fuel + 1, r =>
    match r.next? p with
    | some s => steps p fuel s
    | none => r

def complete (p : Plan σ) : Run σ := steps p (start p).work (start p)

end Run

end BatchClassifier
