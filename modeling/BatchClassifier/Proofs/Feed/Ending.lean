import BatchClassifier.Proofs.Run.Completion
import BatchClassifier.Proofs.Run.Conservation

namespace BatchClassifier.Feed

variable {filter : Filter} {f g first : Feed} {floor next : Floor}

section

variable {verdict : Item → Verdict} {before : List Item}

theorem admitted_append (h : ∀ item ∈ before, verdict item ≠ .crash) (rest : List Item) :
    admitted verdict (before ++ rest) =
      (before.filter fun item => verdict item = .accept) ++ admitted verdict rest := by
  induction before with
  | nil => rfl
  | cons item before ih =>
      have hb := ih fun other ho => h other (List.mem_cons_of_mem item ho)
      cases hv : verdict item with
      | accept | reject => simp [admitted, hv, hb]
      | crash => exact absurd hv (h item List.mem_cons_self)

theorem admitted_of_crash (h : ∀ item ∈ before, verdict item ≠ .crash) {item : Item}
    (hc : verdict item = .crash) (after : List Item) :
    admitted verdict (before ++ item :: after) = before.filter fun item => verdict item = .accept := by
  rw [admitted_append h, admitted, hc]
  exact List.append_nil _

theorem admitted_append_of_crash (h : ∃ item ∈ before, verdict item = .crash) (rest : List Item) :
    admitted verdict (before ++ rest) = admitted verdict before := by
  induction before with
  | nil =>
      obtain ⟨item, hi, _⟩ := h
      exact absurd hi List.not_mem_nil
  | cons first before ih =>
      cases hv : verdict first with
      | crash => simp [admitted, hv]
      | accept | reject =>
          have hbefore : ∃ item ∈ before, verdict item = .crash := by
            obtain ⟨item, hi, hc⟩ := h
            rcases List.mem_cons.1 hi with rfl | hi
            · rw [hv] at hc
              cases hc
            · exact ⟨item, hi, hc⟩
          simp [admitted, hv, ih hbefore]

end

theorem verdict_start_of_streaming {s : Source} (h : s.mode = .streaming) (filter : Filter) :
    (start s).verdict filter = filter := by
  cases s with
  | items => cases h
  | lines => rfl

/-- The producer has gone past items that did not crash the filter, and it has gone past all of them if
it has finished. -/
structure Passed (filter : Filter) (first f : Feed) : Prop where
  passed : ∃ passed, first.pending = passed ++ f.pending ∧ ∀ item ∈ passed, first.verdict filter item ≠ .crash
  finished : f.cursor = .finished → f.pending = []

theorem passed_start (filter : Filter) (s : Source) : Passed filter (start s) (start s) where
  passed := ⟨[], rfl, fun item hi => absurd hi List.not_mem_nil⟩
  finished hc := by cases hc

theorem Passed.skip {item : Item} {rest : List Item} (h : Passed filter first f) (hmode : f.mode = first.mode)
    (hp : f.pending = item :: rest) (hv : f.verdict filter item ≠ .crash) :
    ∃ passed, first.pending = passed ++ rest ∧ ∀ item ∈ passed, first.verdict filter item ≠ .crash := by
  obtain ⟨passed, hfirst, hpassed⟩ := h.passed
  refine ⟨passed ++ [item], ?_, ?_⟩
  · rw [hfirst, hp, List.append_assoc, List.singleton_append]
  · intro other ho
    rcases List.mem_append.1 ho with ho | ho
    · exact hpassed other ho
    · rw [List.mem_singleton.1 ho, ← verdict_of_mode hmode]
      exact hv

theorem Moves.passed (hm : f.Moves filter floor g next) (hmode : f.mode = first.mode)
    (h : Passed filter first f) : Passed filter first g := by
  cases hm with
  | finish _ hp => exact ⟨h.passed, fun _ => hp⟩
  | queue hc hp hv | skip hc hp hv =>
      refine ⟨h.skip hmode hp ?_, fun hd => ?_⟩
      · simp [hv]
      · simp [hc] at hd
  | crash => exact ⟨h.passed, fun hd => by cases hd⟩

theorem Passed.lost_iff (h : Passed filter first f) (ha : f.Accounts filter floor first) (ho : f.isOver = true) :
    f.cursor = .lost ↔ ∃ item ∈ first.pending, first.verdict filter item = .crash := by
  constructor
  · exact ha.lost
  · rintro ⟨item, hi, hv⟩
    cases hc : f.cursor with
    | lost => rfl
    | feeding => simp [isOver, hc] at ho
    | finished =>
        obtain ⟨passed, hfirst, hpassed⟩ := h.passed
        rw [hfirst, h.finished hc, List.append_nil] at hi
        exact absurd hv (hpassed item hi)

structure Alone (filter : Filter) (first f : Feed) (floor : Floor) : Prop where
  accounts : f.Accounts filter floor first
  passed : Passed filter first f
  closed : floor.input.closed = f.isOver
  items : floor.input.items = floor.queuedItems

theorem alone_start (filter : Filter) (s : Source) : Alone filter (start s) (start s) {} where
  accounts := accounts_start filter s
  passed := passed_start filter s
  closed := rfl
  items := rfl

theorem Moves.alone (hm : f.Moves filter floor g next) (h : Alone filter first f floor) :
    Alone filter first g next := by
  refine ⟨hm.accounts h.accounts, hm.passed h.accounts.mode h.passed, hm.input_closed h.closed, ?_⟩
  have hitems := h.items
  rw [Floor.queuedItems_eq] at hitems ⊢
  cases hm with
  | finish | crash =>
      change floor.input.items = _
      simpa using hitems
  | @queue item =>
      change floor.input.items ++ [item] = _
      simpa using hitems
  | skip => exact hitems

theorem steps_alone (fuel : Nat) (h : Alone filter first f floor) :
    Alone filter first (steps filter fuel f floor).1 (steps filter fuel f floor).2 := by
  induction fuel generalizing f floor with
  | zero => exact h
  | succ fuel ih =>
      rw [steps]
      split
      · rename_i hs
        exact ih ((moves_of_step hs).alone h)
      · exact h

theorem Moves.isOver_or_lt (hm : f.Moves filter floor g next) :
    g.isOver = true ∨ g.pending.length < f.pending.length := by
  cases hm with
  | finish | crash => exact .inl rfl
  | queue _ hp | skip _ hp =>
      right
      simp [hp]

theorem isOver_steps {fuel : Nat} (h : f.isOver = true ∨ f.pending.length < fuel) :
    (steps filter fuel f floor).1.isOver = true := by
  -- Every step uses up an item, and the last one ends the producer.
  induction fuel generalizing f floor with
  | zero =>
      rcases h with h | h
      · exact h
      · omega
  | succ fuel ih =>
      rw [steps]
      split
      · rename_i g next hs
        have hm := moves_of_step hs
        apply ih
        rcases hm.isOver_or_lt with ho | hl
        · exact .inl ho
        · rw [hm.feeding] at h
          right
          have := h.resolve_left Bool.false_ne_true
          omega
      · rename_i hs
        by_contra ho
        have hsome := step_isSome filter floor (Bool.eq_false_iff.2 ho)
        rw [hs] at hsome
        cases hsome

theorem run_alone (filter : Filter) (s : Source) :
    Alone filter (start s) (run filter s).1 (run filter s).2 ∧ (run filter s).1.isOver = true :=
  ⟨steps_alone _ (alone_start filter s), isOver_steps (.inr (Nat.lt_succ_self _))⟩

theorem run_input (filter : Filter) (s : Source) :
    (run filter s).2.input = .sealing (admitted ((start s).verdict filter) s.offers) := by
  obtain ⟨h, ho⟩ := run_alone filter s
  have hc := h.closed.trans ho
  have hi := h.items.trans (h.accounts.queuedItems_of_isOver ho)
  exact congrArg₂ Queue.mk hi hc

theorem run_result_of_crash {filter : Filter} {s : Source} {item : Item} (hi : item ∈ s.offers)
    (hv : (start s).verdict filter item = .crash) : (run filter s).1.result = .error (.task .taskCrashed) := by
  obtain ⟨h, ho⟩ := run_alone filter s
  have hl := (h.passed.lost_iff h.accounts ho).2 ⟨item, hi, hv⟩
  rw [result, hl]

theorem run_result_of_not_crash {filter : Filter} {s : Source}
    (hf : ∀ item ∈ s.offers, (start s).verdict filter item ≠ .crash) :
    (run filter s).1.result = .ok (admitted ((start s).verdict filter) s.offers).length := by
  obtain ⟨h, ho⟩ := run_alone filter s
  have hlost : (run filter s).1.cursor ≠ .lost := by
    intro hl
    obtain ⟨item, hi, hv⟩ := h.accounts.lost hl
    exact hf item hi hv
  have hcount := h.accounts.count
  rw [h.accounts.queuedItems_of_isOver ho] at hcount
  cases hc : (run filter s).1.cursor with
  | lost => exact absurd hc hlost
  | feeding | finished =>
      rw [result, hc, hcount]
      rfl

end BatchClassifier.Feed
