import BatchClassifier.Proofs.Basic
import BatchClassifier.Proofs.Run.Calls

namespace BatchClassifier

variable {σ : Type}

namespace Run

def verdict? (calls : List Call) : Option RunError :=
  if calls.any Call.endsFeed then some (.task .taskCrashed)
  else
    match (calls.filterMap Call.killed?).min? with
    | some id => some (.task (.threadLost (Worker.name id)))
    | none =>
      if calls.any Call.endsSink then some (.task (.threadLost Drain.threadName))
      else ((calls.findSome? Call.emitFault?).or (calls.findSome? Call.flushFault?)).map .output

def error? (r : Run σ) : Option RunError :=
  match r.result with
  | .ok _ => none
  | .error e => some e

def Record.outer (x : Record σ) : List Call := x.calls.filter fun c => !c.ofProcessor

theorem any_outer (x : Record σ) {q : Call → Bool} (hq : ∀ c, c.ofProcessor = true → q c = false) :
    x.outer.any q = x.calls.any q := by
  rw [Record.outer, List.any_filter]
  congr 1
  funext c
  cases hc : c.ofProcessor with
  | false => rfl
  | true => exact (hq c hc).symm

theorem filterMap_outer {α : Type} (x : Record σ) {f : Call → Option α}
    (hf : ∀ c, c.ofProcessor = true → f c = none) : x.outer.filterMap f = x.calls.filterMap f := by
  rw [Record.outer, List.filterMap_filter]
  congr 1
  funext c
  cases hc : c.ofProcessor with
  | false => rfl
  | true => exact (hf c hc).symm

theorem verdict?_outer (x : Record σ) : verdict? x.outer = verdict? x.calls := by
  have hs := fun c : Call => Call.silent_of_ofProcessor (c := c)
  simp only [verdict?, ← List.head?_filterMap]
  rw [any_outer x fun c hc => (hs c hc).1, filterMap_outer x fun c hc => (hs c hc).2.1,
    any_outer x fun c hc => (hs c hc).2.2.1, filterMap_outer x fun c hc => (hs c hc).2.2.2.1,
    filterMap_outer x fun c hc => (hs c hc).2.2.2.2]

end Run

theorem Feed.Moves.lost_iff {filter : Filter} {f g : Feed} {floor next : Floor}
    (hm : f.Moves filter floor g next) :
    g.cursor = .lost ↔ (f.call? filter).any Call.endsFeed = true := by
  cases hm with
  | finish _ hp => cases hd : f.mode <;> simp [call?, hp, hd]
  | queue hc hp hv | skip hc hp hv | crash hc hp hv =>
      cases hd : f.mode with
      | enumeration => simp_all [verdict, call?]
      | streaming => simp_all [verdict, call?, Call.endsFeed]

theorem Worker.isLost_of_working {w : Worker} (h : w.isOver = false) : w.isLost = false := by
  obtain ⟨cursor, succeeded, failed⟩ := w
  cases cursor with
  | ready | holding | sending | reporting | exited => rfl
  | lost crash => simp [isOver] at h

theorem Worker.Moves.isLost_iff {h : Handlers} {id : Nat} {w v : Worker} {f g : Floor}
    (hm : w.Moves h id f v g) : v.isLost = true ↔ (w.call? h id).bind Call.killed? = some id := by
  cases hm with
  | take hc | leave hc | send hc => simp [isLost, call?, hc]
  | @call item hc =>
      cases (h.process item).guarded <;> simp [isLost, call?, hc, Cursor.after, Call.killed?]
  | report hc hr | crash hc hr => simp [isLost, call?, hc, hr, Call.killed?]

theorem Drain.Moves.lost_iff {sink : Sink σ} {d e : Drain σ} {f g : Floor} (hm : d.Moves sink f e g) :
    (∃ crash, e.cursor = .lost crash) ↔ (d.call? sink).any Call.endsSink = true := by
  cases hm with
  | receive hc | discard hc | settle hc | leave hc => simp [call?, hc]
  | emit hc he | emitFail hc he | emitCrash hc he | flush hc he | flushFail hc he | flushCrash hc he =>
      simp [call?, hc, he, Call.endsSink]

theorem Drain.Moves.fault_eq {sink : Sink σ} {d e : Drain σ} {f g : Floor} (hm : d.Moves sink f e g)
    (hd : d.Careful) :
    e.fault = d.fault.or (((d.call? sink).bind Call.emitFault?).or ((d.call? sink).bind Call.flushFault?)) := by
  cases hm with
  | receive hc | discard hc | settle hc | leave hc => simp [call?, hc]
  | emit hc he | emitCrash hc he | flush hc he | flushCrash hc he =>
      simp [call?, hc, he, Call.emitFault?, Call.flushFault?]
  | emitFail hc he =>
      have hn := hd (.inl ⟨_, hc⟩)
      simp [call?, hc, he, hn, Call.emitFault?]
  | flushFail hc he =>
      have hn := hd (.inr hc)
      simp [call?, hc, he, hn, Call.emitFault?, Call.flushFault?]

/-- What the state of a thread tells is how its calls ended. -/
def Feed.Told (f : Feed) (calls : List Call) : Prop := f.cursor = .lost ↔ calls.any Call.endsFeed = true

def Pool.Told (workers : List Worker) (calls : List Call) : Prop :=
  ∀ id, id ∈ calls.filterMap Call.killed? ↔ ∃ w, workers[id]? = some w ∧ w.isLost = true

structure Drain.Told (d : Drain σ) (calls : List Call) : Prop where
  lost : (∃ crash, d.cursor = .lost crash) ↔ calls.any Call.endsSink = true
  fault : d.fault = (calls.findSome? Call.emitFault?).or (calls.findSome? Call.flushFault?)

section

variable {calls : List Call} {c : Option Call}

theorem Feed.Told.append {f : Feed} (h : f.Told calls) (hc : ∀ d, c = some d → d.actor ≠ .producer) :
    f.Told (calls ++ c.toList) := by
  have hn : c.any Call.endsFeed = false := by
    cases c with
    | none => rfl
    | some d => exact Bool.eq_false_iff.2 fun he => hc d rfl (Call.actor_of_endsFeed he)
  rw [Told, any_append_toList, hn, Bool.or_false]
  exact h

theorem Pool.Told.append {workers : List Worker} (h : Told workers calls)
    (hc : ∀ d, c = some d → ∀ id, d.actor ≠ .worker id) : Told workers (calls ++ c.toList) := by
  intro id
  have hn : c.bind Call.killed? ≠ some id := by
    intro hk
    obtain ⟨d, hd, hk⟩ := Option.bind_eq_some_iff.1 hk
    exact hc d hd id (Call.actor_of_killed? hk)
  rw [mem_filterMap_append_toList, or_iff_left hn]
  exact h id

theorem Drain.Told.append {d : Drain σ} (h : d.Told calls) (hc : ∀ e, c = some e → e.actor ≠ .sink) :
    d.Told (calls ++ c.toList) := by
  cases c with
  | none => simpa using h
  | some e =>
      obtain ⟨hs, he, hf⟩ := Call.silent_of_actor_ne_sink (hc e rfl)
      constructor
      · rw [any_append_toList, Option.any_some, hs, Bool.or_false]
        exact h.lost
      · rw [findSome?_append_toList, findSome?_append_toList, Option.bind_some, Option.bind_some, he, hf,
          Option.or_none, Option.or_none]
        exact h.fault

theorem Feed.Moves.told {filter : Filter} {f g : Feed} {floor next : Floor}
    (hm : f.Moves filter floor g next) (h : f.Told calls) : g.Told (calls ++ (f.call? filter).toList) := by
  have hn : calls.any Call.endsFeed = false := by
    rw [Bool.eq_false_iff]
    intro he
    have hf := hm.feeding
    rw [isOver, h.2 he] at hf
    cases hf
  rw [Told, any_append_toList, hn, Bool.false_or]
  exact hm.lost_iff

theorem Worker.Moves.told {h : Handlers} {workers : List Worker} {id : Nat} {w v : Worker} {f g : Floor}
    (hw : workers[id]? = some w) (hm : w.Moves h id f v g) (ht : Pool.Told workers calls) :
    Pool.Told (workers.set id v) (calls ++ (w.call? h id).toList) := by
  intro other
  rw [mem_filterMap_append_toList, ht other]
  by_cases ho : id = other
  · subst other
    -- The worker was not over, so no call before this one can have been its end.
    have hn : ¬ ∃ u, workers[id]? = some u ∧ u.isLost = true := by
      rintro ⟨u, hu, hl⟩
      rw [hw] at hu
      cases hu
      rw [isLost_of_working hm.working] at hl
      cases hl
    rw [or_iff_right hn, List.getElem?_set_self (List.getElem?_eq_some_iff.1 hw).1, ← hm.isLost_iff]
    simp
  · have hn : (w.call? h id).bind Call.killed? ≠ some other := by
      intro hk
      obtain ⟨c, hc, hk⟩ := Option.bind_eq_some_iff.1 hk
      exact ho (Run.Actor.worker.inj ((actor_of_call? hc).symm.trans (Call.actor_of_killed? hk)))
    rw [or_iff_left hn, List.getElem?_set_ne ho]

theorem Drain.Moves.told {sink : Sink σ} {d e : Drain σ} {f g : Floor} (hm : d.Moves sink f e g)
    (hd : d.Careful) (h : d.Told calls) : e.Told (calls ++ (d.call? sink).toList) where
  lost := by
    have hn : calls.any Call.endsSink = false := by
      rw [Bool.eq_false_iff]
      intro he
      obtain ⟨crash, hc⟩ := h.lost.2 he
      have := hm.working
      simp [isOver, hc] at this
    rw [any_append_toList, hn, Bool.false_or]
    exact hm.lost_iff
  fault := by
    rw [findSome?_append_toList, findSome?_append_toList, hm.fault_eq hd]
    cases hc : d.call? sink with
    | none => simp [h.fault]
    | some c =>
        -- A sink that is called has not failed yet, so all that was said is said by this call.
        have hf := hd.fault_eq_none hc
        obtain ⟨he, hl⟩ := Option.or_eq_none_iff.1 (h.fault.symm.trans hf)
        rw [hf, he, hl]
        simp

end

theorem Feed.result_of_lost {f : Feed} (h : f.cursor = .lost) : f.result = .error (.task .taskCrashed) := by
  rw [result, h]

theorem Feed.result_of_not_lost {f : Feed} (h : f.cursor ≠ .lost) : f.result = .ok f.queued := by
  obtain ⟨mode, pending, queued, cursor⟩ := f
  cases cursor with
  | feeding | finished => rfl
  | lost => exact absurd rfl h

theorem Drain.result_of_lost {d : Drain σ} (h : ∃ crash, d.cursor = .lost crash) :
    d.result = .error (.task (.threadLost threadName)) := by
  obtain ⟨crash, hc⟩ := h
  rw [result, hc]

theorem Drain.result_of_not_lost {d : Drain σ} (h : ¬ ∃ crash, d.cursor = .lost crash) :
    d.result = .ok (d.emitted, d.fault) := by
  obtain ⟨state, cursor, emitted, fault⟩ := d
  cases cursor with
  | waiting | holding | flushing | finished => rfl
  | lost crash => exact absurd ⟨crash, rfl⟩ h

namespace Run

theorem conduct_keeps {r s : Run σ} (h : r.conduct = some s) :
    s.feed = r.feed ∧ s.workers = r.workers ∧ s.drain = r.drain := by
  rw [conduct] at h
  split at h
  · cases h; exact ⟨rfl, rfl, rfl⟩
  · obtain ⟨_, h⟩ := Option.ite_none_right_eq_some.1 h
    cases h; exact ⟨rfl, rfl, rfl⟩
  · obtain ⟨_, h⟩ := Option.ite_none_right_eq_some.1 h
    cases h; exact ⟨rfl, rfl, rfl⟩
  · split at h <;> cases h <;> exact ⟨rfl, rfl, rfl⟩
  · obtain ⟨_, h⟩ := Option.ite_none_right_eq_some.1 h
    cases h; exact ⟨rfl, rfl, rfl⟩
  · cases h

namespace Record

structure Told (x : Record σ) : Prop where
  feed : x.run.feed.Told x.calls
  pool : Pool.Told x.run.workers x.calls
  drain : x.run.drain.Told x.calls

theorem told_start (p : Plan σ) : Told { run := start p } where
  feed := by simp [Feed.Told, start, Feed.start]
  pool id := by
    have hl : ∀ w : Worker, (start p).workers[id]? = some w → w.isLost = false := fun w hw => by
      rw [(List.mem_replicate.1 (List.mem_of_getElem? hw)).2]
      rfl
    simpa using hl
  drain := by constructor <;> simp [start]

theorem Next.told {x y : Record σ} (hn : Next x y) (hd : x.run.drain.Careful) (h : x.Told) : y.Told := by
  obtain ⟨r, calls⟩ := x
  obtain ⟨s, after⟩ := y
  obtain ⟨q, a, hs, hcalls⟩ := hn
  obtain ⟨hfeed, hpool, hdrain⟩ := h
  dsimp only at hs hcalls hd hfeed hpool hdrain
  subst after
  have hactor : ∀ c, r.call? q a = some c → c.actor = a := fun c => actor_of_call?
  cases a with
  | conductor =>
      obtain ⟨hf, hw, hk⟩ := conduct_keeps hs
      rw [call?, Option.toList_none, List.append_nil]
      exact ⟨hf ▸ hfeed, hw ▸ hpool, hk ▸ hdrain⟩
  | producer =>
      obtain ⟨_, hm⟩ := Option.ite_none_right_eq_some.1 hs
      obtain ⟨⟨feed, floor⟩, hf, rfl⟩ := Option.map_eq_some_iff.1 hm
      refine ⟨(Feed.moves_of_step hf).told hfeed, ?_, ?_⟩
      · apply hpool.append
        intro c hc id
        simp [hactor c hc]
      · apply hdrain.append
        intro c hc
        simp [hactor c hc]
  | worker id =>
      obtain ⟨⟨workers, floor⟩, hp, rfl⟩ := Option.map_eq_some_iff.1 hs
      obtain ⟨w, v, hw, hv, rfl⟩ := Pool.step_eq_some_iff.1 hp
      have ht := (Worker.moves_of_step hv).told hw hpool
      refine ⟨?_, ?_, ?_⟩
      · apply hfeed.append
        intro c hc
        simp [hactor c hc]
      · rwa [call?, hw, Option.bind_some]
      · apply hdrain.append
        intro c hc
        simp [hactor c hc]
  | sink =>
      obtain ⟨⟨d, floor⟩, hm, rfl⟩ := Option.map_eq_some_iff.1 hs
      refine ⟨?_, ?_, (Drain.moves_of_step hm).told hd hdrain⟩
      · apply hfeed.append
        intro c hc
        simp [hactor c hc]
      · apply hpool.append
        intro c hc id
        simp [hactor c hc]

theorem Possible.told {p : Plan σ} {x : Record σ} (h : Possible p x) : x.Told := by
  induction h with
  | refl => exact told_start p
  | tail hx hn ih => exact hn.told (Possible.run hx).careful ih

end Record

theorem error?_eq (r : Run σ) : r.error? =
    match r.feed.result, Pool.join r.workers, r.drain.result with
    | .error e, _, _ => some e
    | .ok _, .error e, _ => some e
    | .ok _, .ok _, .error e => some e
    | .ok _, .ok _, .ok (_, fault) => fault.map .output := by
  rw [error?, result]
  cases r.feed.result with
  | error e => rfl
  | ok submitted =>
      cases Pool.join r.workers with
      | error e => rfl
      | ok totals =>
          cases r.drain.result with
          | error e => rfl
          | ok outcome =>
              obtain ⟨emitted, fault⟩ := outcome
              cases fault <;> rfl

theorem Record.Told.error?_eq {x : Record σ} (h : x.Told) : x.run.error? = verdict? x.calls := by
  rw [Run.error?_eq, verdict?, ← findIdx?_eq_min? h.pool]
  by_cases hf : x.run.feed.cursor = .lost
  · rw [if_pos (h.feed.1 hf), Feed.result_of_lost hf]
  · rw [if_neg (mt h.feed.2 hf), Feed.result_of_not_lost hf, Pool.join, Pool.firstLost?]
    cases x.run.workers.findIdx? Worker.isLost with
    | some id => rfl
    | none =>
        by_cases hd : ∃ crash, x.run.drain.cursor = .lost crash
        · rw [if_pos (h.drain.lost.1 hd), Drain.result_of_lost hd]
        · rw [if_neg (mt h.drain.lost.2 hd), Drain.result_of_not_lost hd, h.drain.fault]

/-- What every run returns, whatever its calls do and in whatever order its threads move: it ends with
the conductor done, and the error that it returns, if any, is the one that its calls call for. Two
runs whose filter, reporter and sink were called and answered alike return the same error or none,
whatever they were to process, however reading it ended, and whatever the processor did. -/
theorem outcome_told_by_calls (p : Plan σ) :
    (∀ r, Possible p r → ∃ calls, Record.Possible p ⟨r, calls⟩) ∧
    Concludes Record.Next (fun x => x.run.stage = .done ∧ x.run.error? = verdict? x.calls)
      { run := start p } ∧
    ∀ (q : Plan σ) (x y : Record σ), Record.Possible p x → Record.Possible q y → x.outer = y.outer →
      x.run.error? = y.run.error? := by
  refine ⟨fun r => Record.exists_possible, ?_, ?_⟩
  · apply Record.concludes_of_done
    intro x hx hd
    exact ⟨hd, hx.told.error?_eq⟩
  · intro q x y hx hy ho
    rw [hx.told.error?_eq, hy.told.error?_eq, ← verdict?_outer x, ho, verdict?_outer y]

example : (complete Plan.unlucky).error? = some (.task (.threadLost (Worker.name 0))) := by decide

end Run

end BatchClassifier
