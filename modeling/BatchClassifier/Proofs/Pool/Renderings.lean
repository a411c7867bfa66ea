import BatchClassifier.Proofs.Basic
import BatchClassifier.Proofs.Classifier.Rendering
import BatchClassifier.Proofs.Pool.Accounts
import Mathlib.Data.List.Perm.Basic

namespace BatchClassifier

/-- Two kinds of entries that are related worker by worker are related in the whole log, if those of one
kind are put into another order. -/
theorem Floor.exists_related {α β : Type} {kind : Event → Option α} {kind' : Event → Option β}
    {related : α → β → Prop} {f : Floor} {n : Nat} (h : ∀ w, n ≤ w → f.eventsOf w = [])
    (hk : ∀ e, e.worker? = none → kind e = none) (hk' : ∀ e, e.worker? = none → kind' e = none)
    (hr : ∀ w < n, List.Forall₂ related ((f.eventsOf w).filterMap kind) ((f.eventsOf w).filterMap kind')) :
    ∃ items, items.Perm (f.events.filterMap kind) ∧ List.Forall₂ related items (f.events.filterMap kind') := by
  have hown := forall₂_flatMap fun w hw => hr w (List.mem_range.1 hw)
  obtain ⟨items, hitems, hp⟩ := List.perm_comp_forall₂ (filterMap_perm_eventsOf hk' h) hown.flip
  exact ⟨items, hp.trans (filterMap_perm_eventsOf hk h).symm, hitems.flip⟩

namespace Worker

structure Renders (c : Classifier) (w : Worker) (own : List Event) : Prop where
  taken : own.filterMap Event.taken? = own.filterMap Event.called? ++ w.cursor.held
  sent : List.Forall₂ c.Renders ((own.filterMap Event.called?).filter c.classifies)
    (own.filterMap Event.sent? ++ w.cursor.unsent)

theorem renders_spawned (c : Classifier) : ({} : Worker).Renders c [] := ⟨rfl, .nil⟩

variable {c : Classifier} {h : Handlers} {id : Nat} {w v : Worker} {f g : Floor} {own : List Event}

theorem Renders.record {e : Event} (hr : w.Renders c own) (hc : e.called? = none)
    (ht : w.cursor.held ++ e.taken?.toList = v.cursor.held)
    (hs : w.cursor.unsent = e.sent?.toList ++ v.cursor.unsent) : v.Renders c (own ++ [e]) := by
  constructor
  · simp only [List.filterMap_append, filterMap_singleton, hr.taken, hc, Option.toList_none, List.append_nil,
      List.append_assoc, ht]
  · have hsent := hr.sent
    rw [hs, ← List.append_assoc] at hsent
    simpa only [List.filterMap_append, filterMap_singleton, hc, Option.toList_none, List.append_nil] using hsent

theorem Renders.call {item : Item} {elapsed : Elapsed} (hr : w.Renders c own) (hc : w.cursor = .holding item) :
    ({ w with cursor := .after item (c.process elapsed item).guarded } : Worker).Renders c
      (own ++ [.called id item]) := by
  obtain ⟨htaken, hsent⟩ := hr
  rw [hc] at htaken hsent
  have hsent : List.Forall₂ c.Renders ((own.filterMap Event.called?).filter c.classifies)
      (own.filterMap Event.sent?) := by simpa [Cursor.unsent] using hsent
  constructor
  · rw [Cursor.held_after]
    simpa [Cursor.held] using htaken
  · obtain ⟨text, hp, htext⟩ | ⟨e, hp, hitem⟩ := c.guarded_process elapsed item
    · have hlast : List.Forall₂ c.Renders [item] [text] := .cons htext .nil
      simpa [hp, Cursor.after, Cursor.unsent, htext.classifies] using List.rel_append hsent hlast
    · simpa [hp, Cursor.after, Cursor.unsent, hitem] using hsent

theorem Moves.renders {elapsed : Elapsed} (hh : h.process = c.process elapsed) (hm : w.Moves h id f v g)
    (hr : w.Renders c (f.eventsOf id)) : v.Renders c (g.eventsOf id) := by
  cases hm with
  | take hc =>
      rw [Floor.eventsOf_note_self rfl]
      exact hr.record rfl (by simp [hc, Cursor.held]) (by simp [hc, Cursor.unsent])
  | call hc =>
      rw [Floor.eventsOf_note_self rfl, hh]
      exact hr.call hc
  | send hc | report hc =>
      rw [Floor.eventsOf_note_self rfl]
      exact hr.record rfl (by simp [hc, Cursor.held]) (by simp [hc, Cursor.unsent])
  | leave hc | crash hc =>
      obtain ⟨htaken, hsent⟩ := hr
      rw [hc] at htaken hsent
      exact ⟨htaken, hsent⟩

theorem held_of_isOver (ho : w.isOver = true) : w.cursor.held = [] ∧ w.cursor.unsent = [] := by
  obtain hc | ⟨crash, hc⟩ := cursor_of_isOver ho <;> simp [hc, Cursor.held, Cursor.unsent]

end Worker

namespace Pool

variable {c : Classifier} {h : Handlers} {workers : List Worker} {f g : Floor}

structure Renders (c : Classifier) (workers : List Worker) (f : Floor) : Prop where
  worker : ∀ id (w : Worker), workers[id]? = some w → w.Renders c (f.eventsOf id)
  idle : ∀ id, workers.length ≤ id → f.eventsOf id = []

theorem renders_spawn (c : Classifier) (requested : Nat) : Renders c (spawn requested) {} where
  worker id w hw := by
    obtain ⟨_, rfl⟩ := List.mem_replicate.1 (List.mem_of_getElem? hw)
    exact Worker.renders_spawned c
  idle _ _ := rfl

namespace Renders

theorem of_eventsOf (hr : Renders c workers f) (he : ∀ id, g.eventsOf id = f.eventsOf id) :
    Renders c workers g where
  worker id w hw := by rw [he]; exact hr.worker id w hw
  idle id hi := by rw [he]; exact hr.idle id hi

theorem set {elapsed : Elapsed} (hh : h.process = c.process elapsed) {id : Nat} {w v : Worker}
    (hr : Renders c workers f) (hw : workers[id]? = some w) (hm : w.Moves h id f v g) :
    Renders c (workers.set id v) g where
  worker := forall_set hr.worker hw hm (hm.renders hh (hr.worker id w hw))
  idle := idle_set hr.idle hw hm

theorem calls_perm (hr : Renders c workers f) (ho : isOver workers = true) : f.calls.Perm f.takenItems := by
  have hown : ∀ id < workers.length, List.Forall₂ Eq ((f.eventsOf id).filterMap Event.called?)
      ((f.eventsOf id).filterMap Event.taken?) := by
    intro id hid
    have hw := List.getElem?_eq_getElem hid
    have ht := (hr.worker id _ hw).taken
    rw [(Worker.held_of_isOver (isOver_of_getElem? ho hw)).1, List.append_nil] at ht
    exact List.forall₂_eq_eq_eq ▸ ht.symm
  obtain ⟨items, hp, he⟩ := Floor.exists_related hr.idle
    (fun e he => (Event.eq_none_of_worker?_eq_none he).2.1)
    (fun e he => (Event.eq_none_of_worker?_eq_none he).1) hown
  rw [List.forall₂_eq_eq_eq] at he
  exact (he ▸ hp).symm

theorem exists_items (hr : Renders c workers f) (ho : isOver workers = true) :
    ∃ items, items.Perm (f.calls.filter c.classifies) ∧ List.Forall₂ c.Renders items f.sentTexts := by
  have hown : ∀ id < workers.length, List.Forall₂ c.Renders
      ((f.eventsOf id).filterMap fun e => e.called?.filter c.classifies)
      ((f.eventsOf id).filterMap Event.sent?) := by
    intro id hid
    have hw := List.getElem?_eq_getElem hid
    have hs := (hr.worker id _ hw).sent
    rwa [(Worker.held_of_isOver (isOver_of_getElem? ho hw)).2, List.append_nil, List.filter_filterMap] at hs
  rw [Floor.calls_eq, List.filter_filterMap]
  refine Floor.exists_related hr.idle (fun e he => ?_)
    (fun e he => (Event.eq_none_of_worker?_eq_none he).2.2.1) hown
  rw [(Event.eq_none_of_worker?_eq_none he).2.1, Option.filter_none]

end Renders

end Pool

end BatchClassifier
