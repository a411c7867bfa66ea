import BatchClassifier.Proofs.Run.Shutdown

namespace BatchClassifier

variable {σ : Type}

theorem Feed.Moves.work_lt {filter : Filter} {f g : Feed} {floor next : Floor}
    (h : f.Moves filter floor g next) :
    g.work + 5 * next.input.length < f.work + 5 * floor.input.length := by
  cases h with
  | finish hc | crash hc =>
      simp [work, isOver, hc, Floor.closeInput, Floor.note, Queue.length]
  | queue hc hp =>
      simp [work, isOver, hc, hp, Floor.queueItem, Floor.note, Queue.length]
      omega
  | skip hc hp => simp [work, isOver, hc, hp]

theorem Worker.work_after (w : Worker) (item : Item) (result : Except ItemError String) :
    ({ w with cursor := .after item result } : Worker).work = 4 := by
  cases result <;> rfl

theorem Worker.Moves.work_lt {h : Handlers} {id : Nat} {w v : Worker} {f g : Floor}
    (hm : w.Moves h id f v g) :
    v.work + 5 * g.input.length + 2 * g.output.length <
      w.work + 5 * f.input.length + 2 * f.output.length := by
  cases hm with
  | take hc hq =>
      simp [work, hc, hq, Floor.note, Queue.length]
      omega
  | leave hc | report hc | crash hc => simp [work, hc, Floor.note]
  | call hc => rw [work_after]; simp [work, hc, Floor.note]
  | send hc =>
      simp [work, hc, Floor.note, Queue.length]
      omega

theorem Drain.Moves.work_lt {sink : Sink σ} {d e : Drain σ} {f g : Floor} (hm : d.Moves sink f e g) :
    e.work + 2 * g.output.length < d.work + 2 * f.output.length := by
  cases hm with
  | receive hc hq =>
      simp [work, hc, hq, Floor.note, Queue.length]
      omega
  | discard hc hq => simp [work, hc, hq, Floor.note, Queue.length]
  | settle hc | leave hc | emit hc | emitFail hc | emitCrash hc | flush hc | flushFail hc
    | flushCrash hc => simp [work, hc, Floor.note]

theorem Pool.work_set {workers : List Worker} {id : Nat} {w v : Worker} (h : workers[id]? = some w) :
    work (workers.set id v) + w.work = work workers + v.work := by
  induction workers generalizing id with
  | nil => simp at h
  | cons u workers ih =>
      cases id with
      | zero =>
          cases h
          simp only [List.set_cons_zero, work]
          omega
      | succ id =>
          have hi := ih h
          simp only [List.set_cons_succ, work]
          omega

namespace Run

theorem Moves.work_lt {p : Plan σ} {r s : Run σ} (hm : r.Moves p s) : s.work < r.work := by
  cases hm with
  | advance hc =>
      obtain ⟨t, ht⟩ := exists_next?_of_cleared hc
      have hs := (advance_of_next? ht).1
      have hl := Stage.left_of_next? ht
      rw [Run.work, hs]
      change r.feed.work + 5 * r.floor.input.length + Pool.work r.workers +
        2 * r.floor.output.length + r.drain.work + t.left + (if r.floor.output.closed then 0 else 1) < _
      rw [Run.work]
      omega
  | closeOutput hs ho => simp [Run.work, stage, ho, Floor.closeOutput, Floor.note, Queue.length]
  | produce _ hm =>
      have hw := hm.work_lt
      simp only [Run.work, stage, hm.output_eq]
      omega
  | work hw hm =>
      have hl := hm.work_lt
      have hs := Pool.work_set hw (v := ‹_›)
      simp only [Run.work, stage, hm.output_closed]
      omega
  | drain hm =>
      have hw := hm.work_lt
      simp only [Run.work, stage, hm.input_eq, hm.output_closed]
      omega

theorem Next.work_lt {r s : Run σ} (hn : Next r s) : s.work < r.work := by
  obtain ⟨q, hq⟩ := hn
  exact hq.moves.work_lt

end Run

theorem Feed.step_isSome (filter : Filter) {f : Feed} (floor : Floor) (h : f.isOver = false) :
    (f.step filter floor).isSome = true := by
  obtain ⟨mode, pending, queued, cursor⟩ := f
  cases cursor with
  | feeding =>
      cases pending with
      | nil => rfl
      | cons item rest =>
          simp only [step]
          split <;> rfl
  | finished | lost => simp [isOver] at h

theorem Queue.pop?_isSome {α : Type} {q : Queue α} (h : q.closed = true) : q.pop?.isSome = true := by
  by_contra hn
  have ho := (pop?_eq_none_iff.1 (Option.not_isSome_iff_eq_none.1 hn)).2
  rw [h] at ho
  exact Bool.false_ne_true ho.symm

theorem Worker.step_isSome (h : Handlers) (id : Nat) {w : Worker} {f : Floor} (hw : w.isOver = false)
    (hc : f.input.closed = true) : (w.step h id f).isSome = true := by
  obtain ⟨cursor, succeeded, failed⟩ := w
  cases cursor with
  | ready =>
      obtain ⟨⟨result, rest⟩, hq⟩ := Option.isSome_iff_exists.1 (Queue.pop?_isSome hc)
      cases result <;> simp [step, hq]
  | holding | sending => rfl
  | reporting failure => cases hr : h.report failure <;> simp [step, hr]
  | exited | lost => simp [isOver] at hw

theorem Pool.exists_step (h : Handlers) {workers : List Worker} {f : Floor} (hw : isOver workers = false)
    (hc : f.input.closed = true) : ∃ id after, step h id workers f = some after := by
  obtain ⟨w, hm, hn⟩ := List.all_eq_false.1 hw
  obtain ⟨id, hid⟩ := List.getElem?_of_mem hm
  obtain ⟨⟨v, floor⟩, hv⟩ := Option.isSome_iff_exists.1
    (Worker.step_isSome h id (Bool.eq_false_iff.2 hn) hc)
  exact ⟨id, _, step_eq_some_iff.2 ⟨w, v, hid, hv, rfl⟩⟩

theorem Drain.step_isSome (sink : Sink σ) {d : Drain σ} {f : Floor} (hd : d.isOver = false)
    (hc : f.output.closed = true) : (d.step sink f).isSome = true := by
  obtain ⟨state, cursor, emitted, fault⟩ := d
  cases cursor with
  | waiting =>
      obtain ⟨⟨result, rest⟩, hq⟩ := Option.isSome_iff_exists.1 (Queue.pop?_isSome hc)
      cases result <;> simp [step, hq]
  | holding text =>
      simp only [step]
      split <;> rfl
  | flushing =>
      simp only [step]
      split <;> rfl
  | finished | lost => simp [isOver] at hd

namespace Run

/-- Who can move in a stage: the conductor if what it waits for has come, and else somebody it
waits for. -/
theorem Orderly.progress {r : Run σ} (ho : r.Orderly) (hd : r.stage ≠ .done) (q : Plan σ) :
    ∃ a, (r.step q a).isSome = true := by
  cases hs : r.stage with
  | starting => exact ⟨.conductor, by simp [step, conduct, hs]⟩
  | producing =>
      cases hf : r.feed.isOver with
      | true => exact ⟨.conductor, by simp [step, conduct, hs, hf]⟩
      | false => exact ⟨.producer, by simp [step, hs, Feed.step_isSome q.filter r.floor hf]⟩
  | drainingWorkers =>
      have hi : r.floor.input.closed = true :=
        ho.input_closed.trans (ho.cleared .producing (by rw [hs]; decide))
      cases hw : Pool.isOver r.workers with
      | true => exact ⟨.conductor, by simp [step, conduct, hs, hw]⟩
      | false =>
          obtain ⟨id, _, hp⟩ := Pool.exists_step q.handlers hw hi
          exact ⟨.worker id, by simp [step, hp]⟩
  | closingOutput =>
      cases hc : r.floor.output.closed <;> exact ⟨.conductor, by simp [step, conduct, hs, hc]⟩
  | drainingSink =>
      have hc : r.floor.output.closed = true := ho.cleared .closingOutput (by rw [hs]; decide)
      cases hw : r.drain.isOver with
      | true => exact ⟨.conductor, by simp [step, conduct, hs, hw]⟩
      | false => exact ⟨.sink, by simp [step, Drain.step_isSome q.sink hw hc]⟩
  | done => exact absurd hs hd

theorem Orderly.over {r : Run σ} (ho : r.Orderly) (hd : r.stage = .done) :
    r.feed.isOver = true ∧ Pool.isOver r.workers = true ∧ r.drain.isOver = true :=
  ⟨ho.cleared .producing (by rw [hd]; decide), ho.cleared .drainingWorkers (by rw [hd]; decide),
    ho.cleared .drainingSink (by rw [hd]; decide)⟩

theorem Orderly.done_of_settled {r : Run σ} (ho : r.Orderly) (p : Plan σ) (h : ∀ s, ¬ Step p r s) :
    r.stage = .done := by
  by_contra hd
  obtain ⟨a, ha⟩ := ho.progress hd p
  obtain ⟨s, hs⟩ := Option.isSome_iff_exists.1 ha
  exact h s ⟨a, hs⟩

theorem concludes_of_done {p : Plan σ} {post : Run σ → Prop}
    (hp : ∀ r, Reachable p r → r.stage = .done → post r) : Concludes (Step p) post (start p) := by
  refine .of_measure Run.work (fun r s hs => hs.next.work_lt) fun r hr hn => ?_
  have hr := reachable_iff_reflTransGen.2 hr
  exact hp r hr (hr.possible.orderly.done_of_settled p hn)

/-- Whatever the calls of a run do: as long as the conductor has not finished some thread can move,
however the calls that it makes end, every move leaves less work, and so every execution is finite
and ends with the conductor done and all threads over. -/
theorem every_run_completes (p : Plan σ) :
    (∀ r, Possible p r → r.stage ≠ .done → ∀ q : Plan σ, ∃ a, (r.step q a).isSome = true) ∧
    (∀ r s : Run σ, Next r s → s.work < r.work) ∧
    (∀ (run : Nat → Run σ) (n : Nat), run 0 = start p → (∀ i < n, Next (run i) (run (i + 1))) →
      n ≤ (start p).work) ∧
    Concludes Next (fun r => r.stage = .done ∧ r.feed.isOver = true ∧ Pool.isOver r.workers = true ∧
      r.drain.isOver = true) (start p) := by
  have hw : ∀ r s : Run σ, Next r s → s.work < r.work := fun r s hn => hn.work_lt
  refine ⟨fun r hr hd q => hr.orderly.progress hd q, hw, fun run n h0 hn => ?_, ?_⟩
  · rw [← h0]
    exact length_le_of_measure hw hn
  · refine .of_measure Run.work hw fun r hr hn => ?_
    have ho := Possible.orderly (p := p) hr
    have hd := ho.done_of_settled p fun s hs => hn s hs.next
    exact ⟨hd, ho.over hd⟩

theorem every_run_completes_unlucky :
    Possible Plan.unlucky (start Plan.unlucky) ∧ (start Plan.unlucky).stage ≠ .done ∧
    (∃ a, ((start Plan.unlucky).step Plan.unlucky a).isSome = true) ∧
    Concludes Next (fun r => r.stage = .done ∧ r.feed.isOver = true ∧ Pool.isOver r.workers = true ∧
      r.drain.isOver = true) (start Plan.unlucky) := by
  have hp : Possible Plan.unlucky (start Plan.unlucky) := .refl
  have hd : (start Plan.unlucky).stage ≠ .done := by decide
  obtain ⟨hn, _, _, hc⟩ := every_run_completes Plan.unlucky
  exact ⟨hp, hd, hn _ hp hd _, hc⟩

end Run

end BatchClassifier
