import BatchClassifier.Proofs.Floor.Log
import BatchClassifier.Proofs.Run.Steps
import Mathlib.Algebra.GroupWithZero.Nat

namespace BatchClassifier

namespace Handlers

def text? (h : Handlers) (item : Item) : Option String := (h.process item).guarded.toOption

def failure? (h : Handlers) (item : Item) : Option Failure :=
  match (h.process item).guarded with
  | .ok _ => none
  | .error e => some (.of item e)

theorem text?_or_failure? (h : Handlers) (item : Item) :
    (∃ text, (h.process item).guarded = .ok text ∧ h.text? item = some text ∧ h.failure? item = none) ∨
    ∃ e, (h.process item).guarded = .error e ∧ h.text? item = none ∧ h.failure? item = some (.of item e) := by
  rw [text?, failure?]
  cases (h.process item).guarded with
  | ok text => exact .inl ⟨text, rfl, rfl, rfl⟩
  | error e => exact .inr ⟨e, rfl, rfl, rfl⟩

end Handlers

namespace Worker

def Cursor.held : Cursor → List Item
  | .holding item => [item]
  | _ => []

def Cursor.unsent : Cursor → List String
  | .sending text => [text]
  | _ => []

def Cursor.unreported : Cursor → List Failure
  | .reporting failure => [failure]
  | _ => []

/-- The failures that a worker has not reported; the report of the last one may have been its end. -/
def Cursor.Owes (h : Handlers) : Cursor → List Failure → Prop
  | .lost crash, owed => ∃ failure, h.report failure = some crash ∧ owed = [failure]
  | c, owed => owed = c.unreported

theorem Cursor.owes_iff {c : Cursor} (hc : ∀ crash, c ≠ .lost crash) (h : Handlers) (owed : List Failure) :
    c.Owes h owed ↔ owed = c.unreported := by
  cases c with
  | ready | holding | sending | reporting | exited => rfl
  | lost crash => exact absurd rfl (hc crash)

theorem Cursor.after_ne_lost (item : Item) (result : Except ItemError String) (crash : Crash) :
    Cursor.after item result ≠ .lost crash := by
  cases result <;> simp [after]

theorem Cursor.held_after (item : Item) (result : Except ItemError String) :
    (Cursor.after item result).held = [] := by
  cases result <;> rfl

theorem Cursor.unsent_after (h : Handlers) (item : Item) :
    (Cursor.after item (h.process item).guarded).unsent = (h.text? item).toList := by
  rw [Handlers.text?]
  cases (h.process item).guarded <;> rfl

theorem Cursor.unreported_after (h : Handlers) (item : Item) :
    (Cursor.after item (h.process item).guarded).unreported = (h.failure? item).toList := by
  rw [Handlers.failure?]
  cases (h.process item).guarded <;> rfl

/-- What became of the items that a worker took, told by what the log says about it. -/
structure Accounts (h : Handlers) (w : Worker) (own : List Event) : Prop where
  taken : own.filterMap Event.taken? = own.filterMap Event.called? ++ w.cursor.held
  sent : (own.filterMap Event.called?).filterMap h.text? = own.filterMap Event.sent? ++ w.cursor.unsent
  reported : ∃ owed, w.cursor.Owes h owed ∧
    (own.filterMap Event.called?).filterMap h.failure? = own.filterMap Event.reported? ++ owed
  succeeded : w.succeeded = (own.filterMap Event.sent?).length
  failed : w.failed = (own.filterMap Event.reported?).length

theorem accounts_spawned (h : Handlers) : ({} : Worker).Accounts h [] where
  taken := rfl
  sent := rfl
  reported := ⟨[], rfl, rfl⟩
  succeeded := rfl
  failed := rfl

theorem Accounts.record {h : Handlers} {w v : Worker} {own : List Event} {e : Event} (ha : w.Accounts h own)
    (hw : ∀ crash, w.cursor ≠ .lost crash) (hv : ∀ crash, v.cursor ≠ .lost crash)
    (ht : w.cursor.held ++ e.taken?.toList = e.called?.toList ++ v.cursor.held)
    (hs : w.cursor.unsent ++ e.called?.toList.filterMap h.text? = e.sent?.toList ++ v.cursor.unsent)
    (hr : w.cursor.unreported ++ e.called?.toList.filterMap h.failure? =
      e.reported?.toList ++ v.cursor.unreported)
    (hsucceeded : v.succeeded = w.succeeded + e.sent?.toList.length)
    (hfailed : v.failed = w.failed + e.reported?.toList.length) : v.Accounts h (own ++ [e]) := by
  obtain ⟨owed, howes, hreported⟩ := ha.reported
  rw [Cursor.owes_iff hw] at howes
  subst owed
  refine ⟨?_, ?_, ⟨_, (Cursor.owes_iff hv h _).2 rfl, ?_⟩, ?_, ?_⟩
  · simp only [List.filterMap_append, filterMap_singleton, ha.taken, List.append_assoc, ht]
  · simp only [List.filterMap_append, filterMap_singleton, ha.sent, List.append_assoc, hs]
  · simp only [List.filterMap_append, filterMap_singleton, hreported, List.append_assoc, hr]
  · rw [hsucceeded, ha.succeeded, List.filterMap_append, List.length_append, filterMap_singleton]
  · rw [hfailed, ha.failed, List.filterMap_append, List.length_append, filterMap_singleton]

namespace Moves

variable {h : Handlers} {id : Nat} {w v : Worker} {f g : Floor}

theorem accounts (hm : w.Moves h id f v g) (ha : w.Accounts h (f.eventsOf id)) :
    v.Accounts h (g.eventsOf id) := by
  cases hm with
  | take hc | send hc | report hc =>
      rw [Floor.eventsOf_note_self rfl]
      exact ha.record (by simp [hc]) (by simp) (by simp [hc, Cursor.held]) (by simp [hc, Cursor.unsent])
        (by simp [hc, Cursor.unreported]) rfl rfl
  | call hc =>
      rw [Floor.eventsOf_note_self rfl]
      refine ha.record (by simp [hc]) (Cursor.after_ne_lost _ _) ?_ ?_ ?_ rfl rfl
      · rw [hc, Cursor.held_after]
        rfl
      · rw [hc, Cursor.unsent_after]
        exact filterMap_singleton _ _
      · rw [hc, Cursor.unreported_after]
        exact filterMap_singleton _ _
  | leave hc =>
      obtain ⟨htaken, hsent, hreported, hsucceeded, hfailed⟩ := ha
      rw [hc] at htaken hsent hreported
      exact ⟨htaken, hsent, hreported, hsucceeded, hfailed⟩
  | crash hc hr =>
      obtain ⟨htaken, hsent, ⟨owed, howes, hreported⟩, hsucceeded, hfailed⟩ := ha
      rw [hc] at htaken hsent howes
      exact ⟨htaken, hsent, ⟨owed, ⟨_, hr, howes⟩, hreported⟩, hsucceeded, hfailed⟩

theorem eventsOf_ne {other : Nat} (hm : w.Moves h id f v g) (hne : id ≠ other) :
    g.eventsOf other = f.eventsOf other := by
  cases hm with
  | leave | crash => rfl
  | take | call | send | report => exact Floor.eventsOf_note_other (by simpa [Event.worker?] using hne) _

end Moves

theorem cursor_of_isOver {w : Worker} (h : w.isOver = true) :
    w.cursor = .exited ∨ ∃ crash, w.cursor = .lost crash := by
  obtain ⟨cursor, succeeded, failed⟩ := w
  cases cursor with
  | exited => exact .inl rfl
  | lost crash => exact .inr ⟨crash, rfl⟩
  | ready | holding | sending | reporting => simp [isOver] at h

theorem isLost_iff {w : Worker} : w.isLost = true ↔ ∃ crash, w.cursor = .lost crash := by
  obtain ⟨cursor, succeeded, failed⟩ := w
  cases cursor <;> simp [isLost]

theorem exited_of_isOver {w : Worker} (ho : w.isOver = true) (hl : w.isLost = false) : w.cursor = .exited := by
  obtain hc | hc := cursor_of_isOver ho
  · exact hc
  · rw [isLost_iff.2 hc] at hl
    cases hl

namespace Accounts

variable {h : Handlers} {w : Worker} {own : List Event}

theorem taken_of_isOver (ha : w.Accounts h own) (ho : w.isOver = true) :
    own.filterMap Event.taken? = own.filterMap Event.called? := by
  rw [ha.taken]
  obtain hc | ⟨crash, hc⟩ := cursor_of_isOver ho <;> simp [hc, Cursor.held]

theorem sent_of_isOver (ha : w.Accounts h own) (ho : w.isOver = true) :
    (own.filterMap Event.called?).filterMap h.text? = own.filterMap Event.sent? := by
  rw [ha.sent]
  obtain hc | ⟨crash, hc⟩ := cursor_of_isOver ho <;> simp [hc, Cursor.unsent]

theorem reported_of_exited (ha : w.Accounts h own) (hc : w.cursor = .exited) :
    (own.filterMap Event.called?).filterMap h.failure? = own.filterMap Event.reported? := by
  obtain ⟨owed, howes, hr⟩ := ha.reported
  rw [hc] at howes
  cases howes
  rw [hr]
  exact List.append_nil _

theorem not_lost (ha : w.Accounts h own) (hr : ∀ failure, h.report failure = none) : w.isLost = false := by
  by_contra hl
  obtain ⟨crash, hc⟩ := isLost_iff.1 (Bool.not_eq_false _ ▸ hl)
  obtain ⟨owed, howes, _⟩ := ha.reported
  rw [hc] at howes
  obtain ⟨failure, hf, _⟩ := howes
  rw [hr] at hf
  cases hf

end Accounts

end Worker

namespace Pool

variable {h : Handlers} {workers : List Worker} {f g : Floor}

section Moving

variable {id : Nat} {w v : Worker}

theorem forall_set {P : Worker → List Event → Prop}
    (hall : ∀ other (u : Worker), workers[other]? = some u → P u (f.eventsOf other))
    (hw : workers[id]? = some w) (hm : w.Moves h id f v g) (hv : P v (g.eventsOf id)) :
    ∀ other (u : Worker), (workers.set id v)[other]? = some u → P u (g.eventsOf other) := by
  intro other u hu
  by_cases ho : id = other
  · subst other
    rw [List.getElem?_set_self (List.getElem?_eq_some_iff.1 hw).1] at hu
    cases hu
    exact hv
  · rw [List.getElem?_set_ne ho] at hu
    rw [hm.eventsOf_ne ho]
    exact hall other u hu

theorem idle_set (hidle : ∀ other, workers.length ≤ other → f.eventsOf other = [])
    (hw : workers[id]? = some w) (hm : w.Moves h id f v g) :
    ∀ other, (workers.set id v).length ≤ other → g.eventsOf other = [] := by
  intro other ho
  rw [List.length_set] at ho
  have hl := (List.getElem?_eq_some_iff.1 hw).1
  rw [hm.eventsOf_ne (by omega)]
  exact hidle other ho

end Moving

structure Accounts (h : Handlers) (workers : List Worker) (f : Floor) : Prop where
  worker : ∀ id (w : Worker), workers[id]? = some w → w.Accounts h (f.eventsOf id)
  idle : ∀ id, workers.length ≤ id → f.eventsOf id = []

theorem accounts_spawn (h : Handlers) (requested : Nat) : Accounts h (spawn requested) {} where
  worker id w hw := by
    obtain ⟨_, rfl⟩ := List.mem_replicate.1 (List.mem_of_getElem? hw)
    exact Worker.accounts_spawned h
  idle _ _ := rfl

theorem isOver_of_getElem? (ho : isOver workers = true) {id : Nat} {w : Worker} (hw : workers[id]? = some w) :
    w.isOver = true :=
  List.all_eq_true.1 ho w (List.mem_of_getElem? hw)

namespace Accounts

theorem of_eventsOf (ha : Accounts h workers f) (he : ∀ id, g.eventsOf id = f.eventsOf id) :
    Accounts h workers g where
  worker id w hw := by rw [he]; exact ha.worker id w hw
  idle id hi := by rw [he]; exact ha.idle id hi

theorem set {id : Nat} {w v : Worker} (ha : Accounts h workers f) (hw : workers[id]? = some w)
    (hm : w.Moves h id f v g) : Accounts h (workers.set id v) g where
  worker := forall_set ha.worker hw hm (hm.accounts (ha.worker id w hw))
  idle := idle_set ha.idle hw hm

variable {α : Type} {kind kind' : Event → Option α}

theorem perm (ha : Accounts h workers f) (hk : ∀ e, e.worker? = none → kind e = none)
    (hk' : ∀ e, e.worker? = none → kind' e = none)
    (heq : ∀ id (w : Worker), workers[id]? = some w → w.Accounts h (f.eventsOf id) →
      (f.eventsOf id).filterMap kind = (f.eventsOf id).filterMap kind') :
    (f.events.filterMap kind).Perm (f.events.filterMap kind') := by
  have hs : ((List.range workers.length).flatMap fun id => (f.eventsOf id).filterMap kind) =
      (List.range workers.length).flatMap fun id => (f.eventsOf id).filterMap kind' := by
    refine List.flatMap_congr fun id hid => ?_
    have hw := List.getElem?_eq_getElem (List.mem_range.1 hid)
    exact heq id _ hw (ha.worker id _ hw)
  exact (Floor.filterMap_perm_eventsOf hk ha.idle).trans
    (hs ▸ (Floor.filterMap_perm_eventsOf hk' ha.idle).symm)

theorem length_eq (ha : Accounts h workers f) (hk : ∀ e, e.worker? = none → kind e = none)
    {count : Worker → Nat} (hc : ∀ id (w : Worker), workers[id]? = some w → w.Accounts h (f.eventsOf id) →
      count w = ((f.eventsOf id).filterMap kind).length) :
    (workers.map count).sum = (f.events.filterMap kind).length := by
  rw [(Floor.filterMap_perm_eventsOf hk ha.idle).length_eq, List.length_flatMap]
  congr 1
  refine List.ext_getElem (by simp) fun id hid _ => ?_
  have hl : id < workers.length := by simpa using hid
  rw [List.getElem_map, List.getElem_map, List.getElem_range]
  have hw := List.getElem?_eq_getElem hl
  exact hc id _ hw (ha.worker id _ hw)

theorem calls_perm (ha : Accounts h workers f) (ho : isOver workers = true) :
    f.calls.Perm f.takenItems := by
  refine ha.perm ?_ ?_ fun id w hw hown => (hown.taken_of_isOver (isOver_of_getElem? ho hw)).symm
  · exact fun e he => (Event.eq_none_of_worker?_eq_none he).2.1
  · exact fun e he => (Event.eq_none_of_worker?_eq_none he).1

theorem sentTexts_perm (ha : Accounts h workers f) (ho : isOver workers = true) :
    f.sentTexts.Perm (f.calls.filterMap h.text?) := by
  rw [Floor.calls_eq, List.filterMap_filterMap]
  refine ha.perm ?_ ?_ fun id w hw hown => ?_
  · exact fun e he => (Event.eq_none_of_worker?_eq_none he).2.2.1
  · exact fun e he => congrArg (·.bind h.text?) (Event.eq_none_of_worker?_eq_none he).2.1
  · rw [← List.filterMap_filterMap]
    exact (hown.sent_of_isOver (isOver_of_getElem? ho hw)).symm

theorem reports_perm (ha : Accounts h workers f) (hx : ∀ w ∈ workers, w.cursor = .exited) :
    f.reports.Perm (f.calls.filterMap h.failure?) := by
  rw [Floor.calls_eq, List.filterMap_filterMap]
  refine ha.perm ?_ ?_ fun id w hw hown => ?_
  · exact fun e he => (Event.eq_none_of_worker?_eq_none he).2.2.2
  · exact fun e he => congrArg (·.bind h.failure?) (Event.eq_none_of_worker?_eq_none he).2.1
  · rw [← List.filterMap_filterMap]
    exact (hown.reported_of_exited (hx w (List.mem_of_getElem? hw))).symm

end Accounts

theorem foldl_add (t : Totals) (workers : List Worker) : workers.foldl Totals.add t =
    ⟨t.workers + workers.length, t.succeeded + (workers.map Worker.succeeded).sum,
      t.failed + (workers.map Worker.failed).sum⟩ := by
  induction workers generalizing t with
  | nil => rfl
  | cons w workers ih =>
      rw [List.foldl_cons, ih]
      simp only [Totals.add, List.length_cons, List.map_cons, List.sum_cons, Totals.mk.injEq]
      omega

theorem firstLost?_eq_none_iff : firstLost? workers = none ↔ ∀ w ∈ workers, w.isLost = false :=
  List.findIdx?_eq_none_iff

theorem join_of_firstLost? {id : Nat} (hf : firstLost? workers = some id) :
    join workers = .error (.task (.threadLost (Worker.name id))) := by
  rw [join, hf]

theorem Accounts.join_eq (ha : Accounts h workers f) (hl : ∀ w ∈ workers, w.isLost = false) :
    join workers = .ok ⟨workers.length, f.sentTexts.length, f.reports.length⟩ := by
  have hf := firstLost?_eq_none_iff.2 hl
  have hs : (workers.map Worker.succeeded).sum = f.sentTexts.length :=
    ha.length_eq (fun e he => (Event.eq_none_of_worker?_eq_none he).2.2.1) fun _ _ _ hown => hown.succeeded
  have hr : (workers.map Worker.failed).sum = f.reports.length :=
    ha.length_eq (fun e he => (Event.eq_none_of_worker?_eq_none he).2.2.2) fun _ _ _ hown => hown.failed
  rw [join, hf, foldl_add, hs, hr]
  simp

end Pool

end BatchClassifier
