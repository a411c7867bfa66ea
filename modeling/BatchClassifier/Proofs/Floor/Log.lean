import BatchClassifier.Floor
import BatchClassifier.Proofs.Basic
import BatchClassifier.Proofs.Floor.Shuffle

namespace BatchClassifier

namespace Event

@[simp] def queued? : Event → Option Item
  | .queued item => some item
  | _ => none

@[simp] def taken? : Event → Option Item
  | .taken _ item => some item
  | _ => none

@[simp] def called? : Event → Option Item
  | .called _ item => some item
  | _ => none

@[simp] def sent? : Event → Option String
  | .sent _ text => some text
  | _ => none

@[simp] def reported? : Event → Option Failure
  | .reported _ failure => some failure
  | _ => none

@[simp] def received? : Event → Option String
  | .received text => some text
  | _ => none

@[simp] def emitted? : Event → Option String
  | .emitted text => some text
  | _ => none

def worker? : Event → Option Nat
  | .taken w _ | .called w _ | .sent w _ | .reported w _ => some w
  | _ => none

theorem eq_none_of_worker?_eq_some {e : Event} {w : Nat} (h : e.worker? = some w) :
    e.queued? = none ∧ e.received? = none ∧ e.emitted? = none := by
  cases e with
  | taken | called | sent | reported => exact ⟨rfl, rfl, rfl⟩
  | queued | inputClosed | outputClosed | received | emitted => simp [worker?] at h

theorem eq_none_of_worker?_eq_none {e : Event} (h : e.worker? = none) :
    e.taken? = none ∧ e.called? = none ∧ e.sent? = none ∧ e.reported? = none := by
  cases e with
  | queued | inputClosed | outputClosed | received | emitted => exact ⟨rfl, rfl, rfl, rfl⟩
  | taken | called | sent | reported => simp [worker?] at h

end Event

namespace Floor

variable {α : Type}

def takenItems (f : Floor) : List Item := f.events.filterMap Event.taken?

def receivedTexts (f : Floor) : List String := f.events.filterMap Event.received?

def eventsOf (f : Floor) (worker : Nat) : List Event := f.events.filter fun e => e.worker? = some worker

theorem queuedItems_eq (f : Floor) : f.queuedItems = f.events.filterMap Event.queued? := rfl

theorem takenBy_eq (f : Floor) (worker : Nat) :
    f.takenBy worker = (f.eventsOf worker).filterMap Event.taken? := by
  rw [takenBy, eventsOf, List.filterMap_filter]
  congr 1
  funext e
  cases e <;> simp [Event.worker?]

theorem calls_eq (f : Floor) : f.calls = f.events.filterMap Event.called? := rfl

theorem sentTexts_eq (f : Floor) : f.sentTexts = f.events.filterMap Event.sent? := rfl

theorem reports_eq (f : Floor) : f.reports = f.events.filterMap Event.reported? := rfl

theorem emittedTexts_eq (f : Floor) : f.emittedTexts = f.events.filterMap Event.emitted? := rfl

@[simp] theorem events_note (f : Floor) (e : Event) : (f.note e).events = f.events ++ [e] := by
  simp [events, note]

@[simp] theorem events_queues (f : Floor) (input : Queue Item) (output : Queue String) :
    ({ input, output, log := f.log } : Floor).events = f.events := rfl

theorem eventsOf_note_self {e : Event} {worker : Nat} (h : e.worker? = some worker) (f : Floor) :
    (f.note e).eventsOf worker = f.eventsOf worker ++ [e] := by
  simp [eventsOf, h]

theorem eventsOf_note_other {e : Event} {worker : Nat} (h : e.worker? ≠ some worker) (f : Floor) :
    (f.note e).eventsOf worker = f.eventsOf worker := by
  simp [eventsOf, h]

theorem eventsOf_queueItem (f : Floor) (item : Item) (worker : Nat) :
    (f.queueItem item).eventsOf worker = f.eventsOf worker := eventsOf_note_other (by simp [Event.worker?]) _

theorem eventsOf_closeInput (f : Floor) (worker : Nat) : f.closeInput.eventsOf worker = f.eventsOf worker :=
  eventsOf_note_other (by simp [Event.worker?]) _

theorem eventsOf_closeOutput (f : Floor) (worker : Nat) : f.closeOutput.eventsOf worker = f.eventsOf worker :=
  eventsOf_note_other (by simp [Event.worker?]) _

@[simp] theorem events_queueItem (f : Floor) (item : Item) :
    (f.queueItem item).events = f.events ++ [.queued item] := by
  simp [queueItem]

@[simp] theorem events_closeInput (f : Floor) : f.closeInput.events = f.events ++ [.inputClosed] := by
  simp [closeInput]

@[simp] theorem events_closeOutput (f : Floor) : f.closeOutput.events = f.events ++ [.outputClosed] := by
  simp [closeOutput]

/-- Entries of a kind that only workers make: they are shuffled from what each of the workers made. -/
theorem shuffle_eventsOf {kind : Event → Option α} (hk : ∀ e, e.worker? = none → kind e = none)
    {f : Floor} {n : Nat} (h : ∀ w, n ≤ w → f.eventsOf w = []) :
    Shuffle ((List.range n).map fun w => (f.eventsOf w).filterMap kind) (f.events.filterMap kind) := by
  apply shuffle_share kind Event.worker?
  intro e he hne
  cases hw : e.worker? with
  | none => exact absurd (hk e hw) hne
  | some w =>
      refine ⟨w, ?_, rfl⟩
      by_contra hl
      have hm : e ∈ f.eventsOf w := List.mem_filter.2 ⟨he, decide_eq_true hw⟩
      rw [h w (Nat.le_of_not_lt hl)] at hm
      exact List.not_mem_nil hm

theorem filterMap_perm_eventsOf {kind : Event → Option α} (hk : ∀ e, e.worker? = none → kind e = none)
    {f : Floor} {n : Nat} (h : ∀ w, n ≤ w → f.eventsOf w = []) :
    (f.events.filterMap kind).Perm ((List.range n).flatMap fun w => (f.eventsOf w).filterMap kind) := by
  rw [List.flatMap_def]
  exact (shuffle_eventsOf hk h).perm_flatten

end Floor

end BatchClassifier
