import BatchClassifier.Queue.History
import Mathlib.Data.List.Infix

namespace BatchClassifier.Queue

variable {α : Type}

theorem history_cons_eq_some_iff {q r : Queue α} {a : Access α} {rest : List (Access α)}
    {events : List (Event α)} :
    q.history (a :: rest) = some (events, r) ↔
      ∃ e next tail, q.perform a = some (e, next) ∧ next.history rest = some (tail, r) ∧
        events = e :: tail := by
  simp only [history, Option.bind_eq_bind, Option.bind_eq_some_iff, Option.pure_def, Option.some.injEq,
    Prod.mk.injEq, Prod.exists]
  constructor
  · rintro ⟨e, next, hp, tail, last, ht, rfl, rfl⟩
    exact ⟨e, next, tail, hp, ht, rfl⟩
  · rintro ⟨e, next, tail, hp, ht, rfl⟩
    exact ⟨e, next, hp, tail, r, ht, rfl, rfl⟩

theorem perform_pop_eq_some_iff {q r : Queue α} {t : Nat} {e : Event α} :
    q.perform (.pop t) = some (e, r) ↔ ∃ result, q.pop? = some (result, r) ∧ e = .popped t result := by
  simp only [perform, Option.map_eq_some_iff, Prod.exists, Prod.mk.injEq]
  constructor
  · rintro ⟨result, rest, hp, rfl, rfl⟩
    exact ⟨result, hp, rfl⟩
  · rintro ⟨result, hp, rfl⟩
    exact ⟨result, r, hp, rfl, rfl⟩

theorem perform_pop_none_iff {q r : Queue α} {t : Nat} :
    q.perform (.pop t) = some (.popped t none, r) ↔ q.items = [] ∧ q.closed = true ∧ r = q := by
  rw [perform_pop_eq_some_iff]
  constructor
  · rintro ⟨result, hp, he⟩
    cases he
    exact pop?_eq_end_iff.1 hp
  · intro h
    exact ⟨none, pop?_eq_end_iff.2 h, rfl⟩

theorem pushes_cons (e : Event α) (events : List (Event α)) :
    pushes (e :: events) = e.pushed?.toList ++ pushes events := by
  cases h : e.pushed? <;> simp [pushes, h]

theorem pops_cons (e : Event α) (events : List (Event α)) :
    pops (e :: events) = e.popped?.toList ++ pops events := by
  cases h : e.popped? <;> simp [pops, h]

theorem items_of_perform {q r : Queue α} {a : Access α} {e : Event α} (h : q.perform a = some (e, r)) :
    q.items ++ e.pushed?.toList = e.popped?.toList ++ r.items := by
  cases a with
  | push t a => cases h; rfl
  | pop t =>
      obtain ⟨result, hp, rfl⟩ := perform_pop_eq_some_iff.1 h
      cases result with
      | none =>
          obtain ⟨_, _, rfl⟩ := pop?_eq_end_iff.1 hp
          exact List.append_nil _
      | some a => exact (List.append_nil _).trans (pop?_eq_some_iff.1 hp).1
  | close t => cases h; exact List.append_nil _

theorem closed_of_perform {q r : Queue α} {a : Access α} {e : Event α} (h : q.perform a = some (e, r)) :
    r.closed = true ↔ q.closed = true ∨ ∃ t, e = .closed t := by
  cases a with
  | push t a => cases h; simp
  | pop t =>
      obtain ⟨result, hp, rfl⟩ := perform_pop_eq_some_iff.1 h
      cases result with
      | none =>
          obtain ⟨_, _, rfl⟩ := pop?_eq_end_iff.1 hp
          simp
      | some a => simp [(pop?_eq_some_iff.1 hp).2]
  | close t => cases h; simp

theorem items_of_history {q r : Queue α} {accesses : List (Access α)} {events : List (Event α)}
    (h : q.history accesses = some (events, r)) : q.items ++ pushes events = pops events ++ r.items := by
  induction accesses generalizing q events with
  | nil => cases h; simp [pushes, pops]
  | cons a rest ih =>
      obtain ⟨e, next, tail, hp, ht, rfl⟩ := history_cons_eq_some_iff.1 h
      rw [pushes_cons, pops_cons, ← List.append_assoc, items_of_perform hp, List.append_assoc, ih ht,
        List.append_assoc]

theorem closed_of_history {q r : Queue α} {accesses : List (Access α)} {events : List (Event α)}
    (h : q.history accesses = some (events, r)) :
    r.closed = true ↔ q.closed = true ∨ ∃ t, .closed t ∈ events := by
  induction accesses generalizing q events with
  | nil => cases h; simp
  | cons a rest ih =>
      obtain ⟨e, next, tail, hp, ht, rfl⟩ := history_cons_eq_some_iff.1 h
      rw [ih ht, closed_of_perform hp, or_assoc]
      simp only [List.mem_cons, exists_or, eq_comm]

theorem history_split {q r : Queue α} {accesses : List (Access α)} {before after : List (Event α)}
    (h : q.history accesses = some (before ++ after, r)) :
    ∃ xs ys mid, q.history xs = some (before, mid) ∧ mid.history ys = some (after, r) := by
  induction before generalizing q accesses with
  | nil => exact ⟨[], accesses, q, rfl, h⟩
  | cons e before ih =>
      cases accesses with
      | nil => simp [history] at h
      | cons a rest =>
          obtain ⟨_, next, tail, hp, ht, he⟩ := history_cons_eq_some_iff.1 h
          obtain ⟨rfl, rfl⟩ := List.cons.inj he
          obtain ⟨xs, ys, mid, hx, hy⟩ := ih ht
          exact ⟨a :: xs, ys, mid, history_cons_eq_some_iff.2 ⟨e, next, before, hp, hx, rfl⟩, hy⟩

theorem history_split_pop {q r : Queue α} {accesses : List (Access α)} {before after : List (Event α)}
    {t : Nat} {result : Option α}
    (h : q.history accesses = some (before ++ .popped t result :: after, r)) :
    ∃ xs ys mid next, q.history xs = some (before, mid) ∧ mid.pop? = some (result, next) ∧
      next.history ys = some (after, r) := by
  obtain ⟨xs, ys, mid, hx, hy⟩ := history_split h
  cases ys with
  | nil => simp [history] at hy
  | cons a rest =>
      obtain ⟨_, next, tail, hp, ht, he⟩ := history_cons_eq_some_iff.1 hy
      obtain ⟨rfl, rfl⟩ := List.cons.inj he
      cases a with
      | push => cases hp
      | pop u =>
          obtain ⟨result', hq, he⟩ := perform_pop_eq_some_iff.1 hp
          cases he
          exact ⟨xs, rest, mid, next, hx, hq, ht⟩
      | close => cases hp

theorem drained_of_history {q r : Queue α} {accesses : List (Access α)} {before after : List (Event α)}
    {t : Nat} (h : q.history accesses = some (before ++ .popped t none :: after, r))
    (hp : pushes after = []) : r.items = [] ∧ r.closed = true := by
  obtain ⟨_, ys, mid, next, _, hm, hy⟩ := history_split_pop h
  obtain ⟨hi, hc, rfl⟩ := pop?_eq_end_iff.1 hm
  have hr := items_of_history hy
  rw [hi, hp] at hr
  exact ⟨(List.append_eq_nil_iff.1 hr.symm).2, (closed_of_history hy).2 (.inl hc)⟩

def Event.pushedBy? : Event α → Option (Nat × α)
  | .pushed t a => some (t, a)
  | _ => none

def Event.poppedBy? : Event α → Option (Nat × α)
  | .popped t (some a) => some (t, a)
  | _ => none

structure Handover (α : Type) where
  pusher : Nat
  popper : Nat
  item : α

/-- The items that were popped, in their order; each comes from the push of the same number. -/
def handovers (events : List (Event α)) : List (Handover α) :=
  List.zipWith (fun pushed popped => ⟨pushed.1, popped.1, popped.2⟩) (events.filterMap Event.pushedBy?)
    (events.filterMap Event.poppedBy?)

theorem map_pushedBy? (events : List (Event α)) :
    (events.filterMap Event.pushedBy?).map Prod.snd = pushes events := by
  rw [List.map_filterMap, pushes]
  congr 1
  funext e
  cases e <;> rfl

theorem map_poppedBy? (events : List (Event α)) :
    (events.filterMap Event.poppedBy?).map Prod.snd = pops events := by
  rw [List.map_filterMap, pops]
  congr 1
  funext e
  cases e with
  | popped t result => cases result <;> rfl
  | pushed | closed => rfl

theorem pushesBy_eq (t : Nat) (events : List (Event α)) :
    pushesBy t events = ((events.filterMap Event.pushedBy?).filter fun x => x.1 = t).map Prod.snd := by
  rw [← List.filterMap_eq_filter, List.map_filterMap, List.filterMap_filterMap, pushesBy]
  congr 1
  funext e
  cases e with
  | pushed u a => by_cases hu : u = t <;> simp [Event.pushedBy?, Option.guard, hu]
  | popped | closed => rfl

theorem popsBy_eq (t : Nat) (events : List (Event α)) :
    popsBy t events = ((events.filterMap Event.poppedBy?).filter fun x => x.1 = t).map Prod.snd := by
  rw [← List.filterMap_eq_filter, List.map_filterMap, List.filterMap_filterMap, popsBy]
  congr 1
  funext e
  cases e with
  | popped u result =>
      cases result <;> by_cases hu : u = t <;> simp [Event.poppedBy?, Option.guard, hu]
  | pushed | closed => rfl

theorem popsBy_eq_handovers {events : List (Event α)} (h : pops events <+: pushes events) (t : Nat) :
    popsBy t events = ((handovers events).filter fun x => x.popper = t).map Handover.item := by
  rw [popsBy_eq, handovers]
  rw [← map_poppedBy?, ← map_pushedBy?] at h
  generalize events.filterMap Event.pushedBy? = pushed at h ⊢
  generalize events.filterMap Event.poppedBy? = popped at h ⊢
  induction popped generalizing pushed with
  | nil => simp
  | cons x popped ih =>
      cases pushed with
      | nil => simp at h
      | cons y pushed =>
          have hi := ih pushed (List.cons_prefix_cons.1 h).2
          by_cases hx : x.1 = t <;> simpa [hx] using hi

theorem handovers_sublist_pushesBy {events : List (Event α)} (h : pops events <+: pushes events) (t u : Nat) :
    (((handovers events).filter fun x => x.popper = t ∧ x.pusher = u).map Handover.item).Sublist
      (pushesBy u events) := by
  rw [pushesBy_eq, handovers]
  rw [← map_poppedBy?, ← map_pushedBy?] at h
  generalize events.filterMap Event.pushedBy? = pushed at h ⊢
  generalize events.filterMap Event.poppedBy? = popped at h ⊢
  induction pushed generalizing popped with
  | nil => simp
  | cons y pushed ih =>
      cases popped with
      | nil => simp
      | cons x popped =>
          obtain ⟨he, hp⟩ := List.cons_prefix_cons.1 h
          have hi := ih popped hp
          by_cases hy : y.1 = u
          · by_cases hx : x.1 = t
            · simpa [hx, hy, he] using hi
            · simpa [hx, hy] using hi.cons y.2
          · simpa [hy] using hi

/-- At every moment of every history of a queue that began empty and open: what was popped and what
is still there is what was pushed, in its order, and so each popper has what it has from any one
pusher in the order of that pusher; a pop ends with nothing exactly on an empty and closed queue,
that is when all that was pushed has been popped and somebody has closed; a close is for good, and
after a pop that ended with nothing they all do as long as nothing is pushed. -/
theorem history_linear {accesses : List (Access α)} {events : List (Event α)} {q : Queue α}
    (h : (empty : Queue α).history accesses = some (events, q)) :
    pops events ++ q.items = pushes events ∧
    (∀ t, popsBy t events = ((handovers events).filter fun x => x.popper = t).map Handover.item) ∧
    (∀ t u, (((handovers events).filter fun x => x.popper = t ∧ x.pusher = u).map Handover.item).Sublist
      (pushesBy u events)) ∧
    (∀ t, (∃ r, q.perform (.pop t) = some (.popped t none, r)) ↔ q.items = [] ∧ q.closed = true) ∧
    (∀ before t result after, events = before ++ .popped t result :: after →
      (result = none ↔ pops before = pushes before ∧ ∃ u, .closed u ∈ before)) ∧
    (∀ more later r, q.history more = some (later, r) → q.closed = true → r.closed = true) ∧
    (q.closed = true → ∀ t, q.perform (.close t) = some (.closed t, q)) ∧
    (∀ before t after, events = before ++ .popped t none :: after → pushes after = [] →
      ∀ u, q.perform (.pop u) = some (.popped u none, q)) ∧
    (∀ before t between u result after,
      events = before ++ .popped t none :: between ++ .popped u result :: after →
      pushes between = [] → result = none) := by
  have hitems := items_of_history h
  have hprefix : pops events <+: pushes events := ⟨q.items, hitems.symm⟩
  refine ⟨hitems.symm, popsBy_eq_handovers hprefix, handovers_sublist_pushesBy hprefix, fun t => ?_, ?_,
    fun more later r hm hc => ?_, fun hc t => ?_, ?_, ?_⟩
  · simp only [perform_pop_none_iff, exists_and_left, exists_eq, and_true]
  · rintro before t result after rfl
    obtain ⟨_, _, mid, _, hx, hp, _⟩ := history_split_pop h
    have hmid : pushes before = pops before ++ mid.items := items_of_history hx
    have hclosed : mid.closed = true ↔ ∃ u, .closed u ∈ before := by
      simpa [empty] using closed_of_history hx
    cases result with
    | none =>
        obtain ⟨hi, hc, _⟩ := pop?_eq_end_iff.1 hp
        simpa [hmid, hi] using hclosed.1 hc
    | some a =>
        have hi := (pop?_eq_some_iff.1 hp).1
        simp [hmid, hi]
  · exact (closed_of_history hm).2 (.inl hc)
  · cases q
    cases hc
    rfl
  · rintro before t after rfl ha u
    obtain ⟨hi, hc⟩ := drained_of_history h ha
    exact perform_pop_none_iff.2 ⟨hi, hc, rfl⟩
  · rintro before t between u result after rfl hb
    obtain ⟨_, _, last, _, hx, hp, _⟩ := history_split_pop h
    have hl := pop?_eq_end_iff.2 ⟨(drained_of_history hx hb).1, (drained_of_history hx hb).2, rfl⟩
    rw [hp] at hl
    cases hl
    rfl

theorem history_linear_push_after_close :
    (empty : Queue Nat).history [.push 0 7, .push 1 8, .pop 2, .close 0, .pop 3, .close 1, .pop 2, .push 1 9,
      .pop 3, .pop 2] =
      some ([.pushed 0 7, .pushed 1 8, .popped 2 (some 7), .closed 0, .popped 3 (some 8), .closed 1,
        .popped 2 none, .pushed 1 9, .popped 3 (some 9), .popped 2 none], sealing []) ∧
    ∀ u, (sealing [] : Queue Nat).perform (.pop u) = some (.popped u none, sealing []) := by
  have h : (empty : Queue Nat).history [.push 0 7, .push 1 8, .pop 2, .close 0, .pop 3, .close 1, .pop 2,
      .push 1 9, .pop 3, .pop 2] =
      some ([.pushed 0 7, .pushed 1 8, .popped 2 (some 7), .closed 0, .popped 3 (some 8), .closed 1,
        .popped 2 none, .pushed 1 9, .popped 3 (some 9), .popped 2 none], sealing []) := by decide
  obtain ⟨_, _, _, _, _, _, _, hd, _⟩ := history_linear h
  exact ⟨h, hd [.pushed 0 7, .pushed 1 8, .popped 2 (some 7), .closed 0, .popped 3 (some 8), .closed 1,
    .popped 2 none, .pushed 1 9, .popped 3 (some 9)] 2 [] rfl rfl⟩

end BatchClassifier.Queue
