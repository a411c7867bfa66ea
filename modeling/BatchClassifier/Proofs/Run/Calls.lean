import BatchClassifier.Proofs.Run.Completion

namespace BatchClassifier

variable {σ : Type}

inductive Call
  | filter (line : Item) (verdict : Verdict)
  | process (worker : Nat) (item : Item) (attempt : Attempt)
  | report (worker : Nat) (failure : Failure) (crash : Option Crash)
  | emit (text : String) (reply : Reply)
  | flush (reply : Reply)

def Feed.call? (filter : Filter) (f : Feed) : Option Call :=
  match f.mode, f.pending with
  | .streaming, line :: _ => some (.filter line (filter line))
  | _, _ => none

def Worker.call? (h : Handlers) (id : Nat) (w : Worker) : Option Call :=
  match w.cursor with
  | .holding item => some (.process id item (h.process item))
  | .reporting failure => some (.report id failure (h.report failure))
  | _ => none

def Drain.call? (sink : Sink σ) (d : Drain σ) : Option Call :=
  match d.cursor with
  | .holding text => some (.emit text (sink.emit d.state text).1)
  | .flushing => some (.flush (sink.flush d.state).1)
  | _ => none

def Drain.Careful (d : Drain σ) : Prop :=
  (∃ text, d.cursor = .holding text) ∨ d.cursor = .flushing → d.fault = none

theorem Drain.Careful.fault_eq_none {sink : Sink σ} {d : Drain σ} {c : Call} (hd : d.Careful)
    (hc : d.call? sink = some c) : d.fault = none := by
  rw [call?] at hc
  split at hc
  · exact hd (.inl ⟨_, ‹_›⟩)
  · exact hd (.inr ‹_›)
  · cases hc

theorem Drain.Moves.careful {sink : Sink σ} {d e : Drain σ} {f g : Floor} (hm : d.Moves sink f e g)
    (hd : d.Careful) : e.Careful := by
  cases hm with
  | receive _ _ hf | settle _ _ _ hf => exact fun _ => hf
  | discard => exact hd
  | leave | emit | emitFail | emitCrash | flush | flushFail | flushCrash => exact fun h => by simp at h

namespace Call

def actor : Call → Run.Actor
  | .filter .. => .producer
  | .process worker .. | .report worker .. => .worker worker
  | .emit .. | .flush _ => .sink

def ofProcessor : Call → Bool
  | .process .. => true
  | _ => false

def endsFeed : Call → Bool
  | .filter _ .crash => true
  | _ => false

def killed? : Call → Option Nat
  | .report worker _ (some _) => some worker
  | _ => none

def endsSink : Call → Bool
  | .emit _ (.crashed _) | .flush (.crashed _) => true
  | _ => false

def emitFault? : Call → Option IoFault
  | .emit _ (.failed fault) => some fault
  | _ => none

def flushFault? : Call → Option IoFault
  | .flush (.failed fault) => some fault
  | _ => none

variable {c : Call}

theorem actor_of_endsFeed (h : c.endsFeed = true) : c.actor = .producer := by
  cases c with
  | filter => rfl
  | process | report | emit | flush => simp [endsFeed] at h

theorem actor_of_killed? {id : Nat} (h : c.killed? = some id) : c.actor = .worker id := by
  cases c with
  | report worker failure crash =>
      cases crash with
      | none => simp [killed?] at h
      | some crash => exact congrArg Run.Actor.worker (Option.some.inj h)
  | filter | process | emit | flush => simp [killed?] at h

theorem silent_of_actor_ne_sink (h : c.actor ≠ .sink) :
    c.endsSink = false ∧ c.emitFault? = none ∧ c.flushFault? = none := by
  cases c with
  | filter | process | report => exact ⟨rfl, rfl, rfl⟩
  | emit | flush => exact absurd rfl h

theorem silent_of_ofProcessor (h : c.ofProcessor = true) :
    c.endsFeed = false ∧ c.killed? = none ∧ c.endsSink = false ∧ c.emitFault? = none ∧
      c.flushFault? = none := by
  cases c with
  | process => exact ⟨rfl, rfl, rfl, rfl, rfl⟩
  | filter | report | emit | flush => simp [ofProcessor] at h

end Call

theorem Feed.actor_of_call? {filter : Filter} {f : Feed} {c : Call} (h : f.call? filter = some c) :
    c.actor = .producer := by
  rw [call?] at h
  split at h <;> cases h
  rfl

theorem Worker.actor_of_call? {h : Handlers} {id : Nat} {w : Worker} {c : Call}
    (hc : w.call? h id = some c) : c.actor = .worker id := by
  rw [call?] at hc
  split at hc <;> cases hc <;> rfl

theorem Drain.actor_of_call? {sink : Sink σ} {d : Drain σ} {c : Call} (h : d.call? sink = some c) :
    c.actor = .sink := by
  rw [call?] at h
  split at h <;> cases h <;> rfl

namespace Run

def call? (p : Plan σ) (r : Run σ) : Actor → Option Call
  | .conductor => none
  | .producer => r.feed.call? p.filter
  | .worker id => r.workers[id]?.bind fun w => w.call? p.handlers id
  | .sink => r.drain.call? p.sink

theorem actor_of_call? {p : Plan σ} {r : Run σ} {a : Actor} {c : Call} (h : r.call? p a = some c) :
    c.actor = a := by
  cases a with
  | conductor => cases h
  | producer => exact Feed.actor_of_call? h
  | worker id =>
      obtain ⟨w, _, hc⟩ := Option.bind_eq_some_iff.1 h
      exact Worker.actor_of_call? hc
  | sink => exact Drain.actor_of_call? h

theorem Possible.careful {p : Plan σ} {r : Run σ} (h : Possible p r) : r.drain.Careful := by
  induction h with
  | refl => exact fun _ => rfl
  | tail _ hn ih =>
      obtain ⟨q, hq⟩ := hn
      cases hq.moves with
      | drain hm => exact hm.careful ih
      | advance | closeOutput | produce | work => exact ih

structure Record (σ : Type) where
  run : Run σ
  calls : List Call := []

namespace Record

/-- One step of one of the actors, with its call if it makes one. Whom it calls answers as he likes:
the plan that answers is chosen anew for every step. -/
def Next (x y : Record σ) : Prop :=
  ∃ (q : Plan σ) (a : Actor), x.run.step q a = some y.run ∧ y.calls = x.calls ++ (x.run.call? q a).toList

/-- The records of a run of the plan when every call may end in any way. -/
def Possible (p : Plan σ) : Record σ → Prop := Relation.ReflTransGen Next { run := start p }

variable {p : Plan σ} {x y : Record σ}

theorem Next.run (h : Next x y) : Run.Next x.run y.run := by
  obtain ⟨q, a, hs, _⟩ := h
  exact ⟨q, a, hs⟩

theorem Possible.run (h : Possible p x) : Run.Possible p x.run := by
  induction h with
  | refl => exact .refl
  | tail _ hn ih => exact ih.tail hn.run

theorem exists_possible {r : Run σ} (h : Run.Possible p r) : ∃ calls, Possible p ⟨r, calls⟩ := by
  induction h with
  | refl => exact ⟨[], .refl⟩
  | tail _ hn ih =>
      obtain ⟨q, a, hs⟩ := hn
      obtain ⟨calls, hr⟩ := ih
      exact ⟨_, hr.tail ⟨q, a, hs, rfl⟩⟩

theorem concludes_of_done {post : Record σ → Prop}
    (hp : ∀ x, Possible p x → x.run.stage = .done → post x) : Concludes Next post { run := start p } := by
  apply Concludes.of_measure fun x => x.run.work
  · intro x y hn
    exact hn.run.work_lt
  · intro x hx hn
    apply hp x hx
    apply (Possible.run hx).orderly.done_of_settled p
    rintro s ⟨a, ha⟩
    exact hn ⟨s, _⟩ ⟨p, a, ha, rfl⟩

end Record

end Run

end BatchClassifier
