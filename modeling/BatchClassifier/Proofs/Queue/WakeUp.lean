import BatchClassifier.Proofs.Basic
import BatchClassifier.Queue.Waiting
import Mathlib.Logic.Relation

namespace BatchClassifier.Queue

variable {α : Type}

namespace Room

variable {r s : Room α}

theorem lookers_wake {i : Nat} (h : r.poppers[i]? = some .asleep) :
    (r.place i .looking).lookers = r.lookers + 1 :=
  countP_set_add Popper.isLooking h .looking

theorem sleepers_wake {i : Nat} (h : r.poppers[i]? = some .asleep) :
    (r.place i .looking).sleepers + 1 = r.sleepers :=
  countP_set_add Popper.isAsleep h .looking

theorem lookers_answer {i : Nat} (h : r.poppers[i]? = some .looking) (result : Option α) :
    (r.place i (.returned result)).lookers + 1 = r.lookers :=
  countP_set_add Popper.isLooking h (.returned result)

theorem sleepers_answer {i : Nat} (h : r.poppers[i]? = some .looking) (result : Option α) :
    (r.place i (.returned result)).sleepers = r.sleepers :=
  countP_set_add Popper.isAsleep h (.returned result)

theorem sleepers_pos_iff : 0 < r.sleepers ↔ .asleep ∈ r.poppers := by
  rw [sleepers, List.countP_pos_iff]
  constructor
  · rintro ⟨p, hp, ha⟩
    cases p with
    | asleep => exact hp
    | looking | returned => simp [Popper.isAsleep] at ha
  · intro h
    exact ⟨_, h, rfl⟩

theorem asleep_not_mem_wake (l : List (Popper α)) : .asleep ∉ l.map Popper.wake := by
  intro h
  obtain ⟨p, _, hp⟩ := List.mem_map.1 h
  cases p <;> simp [Popper.wake] at hp

inductive Moves (r : Room α) : Move α → Room α → Prop
  | append (a : α) : Moves r (.append a) { r with queue := r.queue.push a, owedOne := r.owedOne + 1 }
  | shut : Moves r .shut { r with queue := r.queue.close, owedAll := r.owedAll + 1 }
  | notifyOne {i n : Nat} (ho : r.owedOne = n + 1) (hp : r.poppers[i]? = some .asleep) :
      Moves r (.notifyOne i) { r.place i .looking with owedOne := n }
  | notifyNobody {n : Nat} (ho : r.owedOne = n + 1) (hs : r.sleepers = 0) :
      Moves r .notifyNobody { r with owedOne := n }
  | notifyAll {n : Nat} (ho : r.owedAll = n + 1) :
      Moves r .notifyAll { r with poppers := r.poppers.map Popper.wake, owedAll := n }
  | arrive : Moves r .arrive { r with poppers := r.poppers ++ [.looking] }
  | take {i : Nat} {a : α} {rest : List α} (hp : r.poppers[i]? = some .looking)
      (hq : r.queue.items = a :: rest) :
      Moves r (.look i) { r.place i (.returned (some a)) with queue := { r.queue with items := rest } }
  | leave {i : Nat} (hp : r.poppers[i]? = some .looking) (hq : r.queue.items = [])
      (hc : r.queue.closed = true) : Moves r (.look i) (r.place i (.returned none))
  | sleep {i : Nat} (hp : r.poppers[i]? = some .looking) (hq : r.queue.items = [])
      (hc : r.queue.closed = false) : Moves r (.look i) (r.place i .asleep)
  | stir {i : Nat} (hp : r.poppers[i]? = some .asleep) : Moves r (.stir i) (r.place i .looking)

theorem moves_of_look {i : Nat} (h : r.step (.look i) = some s) : r.Moves (.look i) s := by
  simp only [step] at h
  split at h
  · rename_i result rest hp hq
    cases h
    obtain ⟨items, closed⟩ := rest
    cases result with
    | some a =>
        obtain ⟨hi, hc⟩ := pop?_eq_some_iff.1 hq
        cases hc
        exact .take hp hi
    | none =>
        obtain ⟨hi, hc, hr⟩ := pop?_eq_end_iff.1 hq
        rw [hr]
        exact .leave hp hi hc
  · rename_i hp hq
    cases h
    obtain ⟨hi, hc⟩ := pop?_eq_none_iff.1 hq
    exact .sleep hp hi hc
  · cases h

theorem moves_of_step {m : Move α} (h : r.step m = some s) : r.Moves m s := by
  cases m with
  | append a => cases h; exact .append a
  | shut => cases h; exact .shut
  | notifyOne i =>
      simp only [step] at h
      split at h
      · cases h; exact .notifyOne ‹_› ‹_›
      · cases h
  | notifyNobody =>
      simp only [step] at h
      split at h
      · obtain ⟨hs, h⟩ := Option.ite_none_right_eq_some.1 h
        cases h
        exact .notifyNobody ‹_› hs
      · cases h
  | notifyAll =>
      simp only [step] at h
      split at h
      · cases h; exact .notifyAll ‹_›
      · cases h
  | arrive => cases h; exact .arrive
  | look i => exact moves_of_look h
  | stir i =>
      simp only [step] at h
      split at h
      · cases h; exact .stir ‹_›
      · cases h

/-- While anybody sleeps: every item of an open queue has somebody who is going to see to it, by a
notification or by looking, and a closed queue has somebody who is going to wake all. -/
structure Attended (r : Room α) : Prop where
  item : r.queue.closed = false → 0 < r.sleepers → r.queue.length ≤ r.owedOne + r.lookers
  close : r.queue.closed = true → 0 < r.sleepers → 0 < r.owedAll
  shut : 0 < r.owedAll → r.queue.closed = true

theorem attended_start : Attended ({} : Room α) := by
  constructor <;> simp [sleepers]

/-- A move that lets nobody fall asleep keeps the room attended if those who see to the items gain as
much on them as they lose. -/
theorem Attended.of_le (h : r.Attended) (hc : s.queue.closed = r.queue.closed) (ha : s.owedAll = r.owedAll)
    (hs : s.sleepers ≤ r.sleepers)
    (hl : s.queue.length + (r.owedOne + r.lookers) ≤ r.queue.length + (s.owedOne + s.lookers)) :
    s.Attended where
  item ho hn := by
    have := h.item (hc ▸ ho) (by omega)
    omega
  close ho hn := ha ▸ h.close (hc ▸ ho) (by omega)
  shut ho := hc ▸ h.shut (ha ▸ ho)

theorem Moves.attended {m : Move α} (hm : r.Moves m s) (h : r.Attended) : s.Attended := by
  cases hm with
  | append a =>
      refine h.of_le rfl rfl (Nat.le_refl _) ?_
      simp only [length, items_push, List.length_append, List.length_singleton, lookers]
      omega
  | shut => exact ⟨fun hc => by simp at hc, fun _ _ => Nat.succ_pos _, fun _ => rfl⟩
  | @notifyOne i n ho hp =>
      -- The thread that was woken sees to the item that the notification was owed for.
      have hl := lookers_wake hp
      have hs := sleepers_wake hp
      refine h.of_le rfl rfl (by change (r.place i .looking).sleepers ≤ _; omega) ?_
      change r.queue.length + _ ≤ _ + (n + (r.place i .looking).lookers)
      omega
  | notifyNobody _ hs =>
      refine ⟨?_, h.close, h.shut⟩
      intro _ hn
      exact absurd hs (Nat.ne_of_gt hn)
  | notifyAll ho =>
      have hs : ¬ 0 < (r.poppers.map Popper.wake).countP Popper.isAsleep := by
        change ¬ 0 < Room.sleepers { r with poppers := r.poppers.map Popper.wake }
        rw [sleepers_pos_iff]
        exact asleep_not_mem_wake _
      exact ⟨fun _ hn => absurd hn hs, fun _ hn => absurd hn hs, fun _ => h.shut (by omega)⟩
  | arrive =>
      refine h.of_le rfl rfl (by simp [sleepers, Popper.isAsleep]) ?_
      simp only [lookers, List.countP_append]
      omega
  | @take i a rest hp hq =>
      -- Whoever takes an item looks no more: one item less, and one less to see to it.
      have hl := lookers_answer hp (some a)
      have hs := sleepers_answer hp (some a)
      refine h.of_le rfl rfl (Nat.le_of_eq hs) ?_
      simp only [length, hq, List.length_cons]
      change rest.length + _ ≤ _ + (r.owedOne + (r.place i (.returned (some a))).lookers)
      omega
  | leave hp _ hc =>
      have hs := sleepers_answer hp none
      refine ⟨?_, ?_, h.shut⟩
      · intro ho
        exact absurd (hc.symm.trans ho) Bool.noConfusion
      · intro _ hn
        exact h.close hc (by omega)
  | sleep hp hq hc =>
      -- One falls asleep only on an empty queue, so there is no item to see to.
      refine ⟨?_, ?_, h.shut⟩
      · intro _ _
        change r.queue.items.length ≤ _
        rw [hq]
        exact Nat.zero_le _
      · intro ho
        exact absurd (hc.symm.trans ho) Bool.noConfusion
  | stir hp =>
      have hl := lookers_wake hp
      have hs := sleepers_wake hp
      refine h.of_le rfl rfl (by omega) ?_
      change r.queue.length + _ ≤ r.queue.length + (r.owedOne + _)
      omega

theorem Reachable.attended (h : Reachable r) : r.Attended := by
  induction h with
  | start => exact attended_start
  | step _ hs ih => exact (moves_of_step hs).attended ih

theorem Reachable.move (h : Reachable r) (m : Move α) : Reachable (r.move m) := by
  rw [Room.move]
  cases hs : r.step m with
  | none => exact h
  | some s => exact h.step hs

theorem reachable_moves (moves : List (Move α)) (h : Reachable r) : Reachable (moves.foldl Room.move r) := by
  induction moves generalizing r with
  | nil => exact h
  | cons m moves ih => exact ih (h.move m)

def Released (r : Room α) : Prop := r.queue.closed = true ∧ .asleep ∉ r.poppers

theorem Moves.released {m : Move α} (hm : r.Moves m s) (h : r.Released) : s.Released := by
  obtain ⟨hclosed, hawake⟩ := h
  have hset : ∀ i (p : Popper α), p ≠ .asleep → .asleep ∉ r.poppers.set i p := by
    intro i p hp hm
    rcases List.mem_or_eq_of_mem_set hm with hm | rfl
    · exact hawake hm
    · exact hp rfl
  cases hm with
  | append | notifyNobody => exact ⟨hclosed, hawake⟩
  | shut => exact ⟨rfl, hawake⟩
  | notifyOne | stir => exact ⟨hclosed, hset _ _ (by simp)⟩
  | notifyAll => exact ⟨hclosed, asleep_not_mem_wake _⟩
  | arrive => exact ⟨hclosed, by simpa using hawake⟩
  | take | leave => exact ⟨hclosed, hset _ _ (by simp)⟩
  | sleep _ _ hc => exact absurd (hc.symm.trans hclosed) Bool.noConfusion

def Next (r s : Room α) : Prop := ∃ m, r.step m = some s

theorem Released.of_next (h : r.Released) (hl : Relation.ReflTransGen Next r s) : s.Released := by
  induction hl with
  | refl => exact h
  | tail _ hn ih =>
      obtain ⟨m, hm⟩ := hn
      exact (moves_of_step hm).released ih

theorem Moves.released_of_notifyAll (hm : r.Moves .notifyAll s) (h : r.Attended) : s.Released := by
  cases hm with
  | notifyAll ho => exact ⟨h.shut (by omega), asleep_not_mem_wake _⟩

theorem Attended.released (h : r.Attended) (hc : r.queue.closed = true) (ha : r.owedAll = 0) : r.Released := by
  refine ⟨hc, ?_⟩
  intro hm
  have := h.close hc (sleepers_pos_iff.2 hm)
  omega

/-- Two threads sleep, two items come, and a third thread takes the one that a sleeper was woken for. -/
def crowded : Room Nat :=
  [.arrive, .look 0, .arrive, .look 1, .append 7, .append 8, .notifyOne 0, .arrive, .look 2].foldl move {}

/-- No wake-up is lost, however the moves of the threads follow one another: while somebody sleeps on
an open queue, every item there has a notification or a look still to come, and while somebody sleeps
on a closed queue the notification of a close is still to come. So when all have notified and looked,
a thread sleeps only on an empty and open queue; and once a close has notified, or all closes have,
nobody sleeps and nobody ever falls asleep again. -/
theorem no_wakeup_lost (h : Reachable r) :
    (r.queue.closed = false → .asleep ∈ r.poppers → r.queue.length ≤ r.owedOne + r.lookers) ∧
    (r.queue.closed = true → .asleep ∈ r.poppers → 0 < r.owedAll) ∧
    (r.owedOne = 0 → r.owedAll = 0 → r.lookers = 0 → .asleep ∈ r.poppers →
      r.queue.items = [] ∧ r.queue.closed = false) ∧
    (∀ s, r.step .notifyAll = some s → ∀ t, Relation.ReflTransGen Next s t →
      t.queue.closed = true ∧ .asleep ∉ t.poppers) ∧
    (r.queue.closed = true → r.owedAll = 0 → ∀ t, Relation.ReflTransGen Next r t →
      t.queue.closed = true ∧ .asleep ∉ t.poppers) := by
  have ha := h.attended
  refine ⟨?_, ?_, ?_, ?_, ?_⟩
  · intro hc hm
    exact ha.item hc (sleepers_pos_iff.2 hm)
  · intro hc hm
    exact ha.close hc (sleepers_pos_iff.2 hm)
  · intro hone hall hlook hm
    have hopen : r.queue.closed = false := Bool.eq_false_iff.2 fun hc => (ha.released hc hall).2 hm
    have hi := ha.item hopen (sleepers_pos_iff.2 hm)
    rw [hone, hlook] at hi
    exact ⟨List.eq_nil_of_length_eq_zero (Nat.le_zero.1 hi), hopen⟩
  · intro s hs t ht
    exact ((moves_of_step hs).released_of_notifyAll ha).of_next ht
  · intro hc hall t ht
    exact (ha.released hc hall).of_next ht

theorem no_wakeup_lost_crowded :
    Reachable crowded ∧ Reachable (crowded.move .shut) ∧ .asleep ∈ crowded.poppers ∧
    crowded.queue.length ≤ crowded.owedOne + crowded.lookers ∧ 0 < (crowded.move .shut).owedAll ∧
    .asleep ∉ ((crowded.move .shut).move .notifyAll).poppers := by
  have hr : Reachable crowded := reachable_moves _ .start
  have hm : .asleep ∈ crowded.poppers := by decide
  obtain ⟨ho, _⟩ := no_wakeup_lost hr
  obtain ⟨_, hc, _, hn, _⟩ := no_wakeup_lost (hr.move .shut)
  exact ⟨hr, hr.move .shut, hm, ho rfl hm, hc rfl (by decide), (hn _ rfl _ .refl).2⟩

end Room

end BatchClassifier.Queue
