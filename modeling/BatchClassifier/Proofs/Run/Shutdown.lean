import BatchClassifier.Proofs.Run.Execution
import Mathlib.Data.List.Infix

namespace BatchClassifier

variable {σ : Type}

def Stage.past (s : Stage) : List Stage := Stage.all.filter fun t => s.left ≤ t.left

namespace Stage

theorem mem_past {s t : Stage} : t ∈ s.past ↔ s.left ≤ t.left := by
  cases s <;> cases t <;> decide

theorem past_prefix (s : Stage) : s.past <+: all := by
  cases s <;> decide

theorem past_of_next? {s t : Stage} (h : s.next? = some t) : t.past = s.past ++ [t] := by
  cases s <;> cases h <;> rfl

theorem left_of_next? {s t : Stage} (h : s.next? = some t) : s.left = t.left + 1 := by
  cases s <;> cases h <;> rfl

theorem eq_of_left_eq {s t : Stage} (h : s.left = t.left) : s = t := by
  cases s <;> cases t <;> first | rfl | simp [left] at h

end Stage

namespace Feed.Moves

variable {filter : Filter} {f g : Feed} {floor next : Floor}

theorem feeding (h : f.Moves filter floor g next) : f.isOver = false := by
  cases h with
  | finish hc | queue hc | skip hc | crash hc => simp [isOver, hc]

theorem output_eq (h : f.Moves filter floor g next) : next.output = floor.output := by
  cases h <;> rfl

theorem input_closed (h : f.Moves filter floor g next) (hi : floor.input.closed = f.isOver) :
    next.input.closed = g.isOver := by
  cases h with
  | finish | crash => rfl
  | queue | skip => exact hi

end Feed.Moves

theorem Worker.Cursor.after_ne_exited (item : Item) (result : Except ItemError String) :
    Cursor.after item result ≠ .exited := by
  cases result <;> simp [after]

namespace Worker.Moves

variable {h : Handlers} {id : Nat} {w v : Worker} {f g : Floor}

theorem working (hm : w.Moves h id f v g) : w.isOver = false := by
  cases hm with
  | take hc | leave hc | call hc | send hc | report hc | crash hc => simp [isOver, hc]

theorem input_closed (hm : w.Moves h id f v g) : g.input.closed = f.input.closed := by
  cases hm <;> rfl

theorem output_closed (hm : w.Moves h id f v g) : g.output.closed = f.output.closed := by
  cases hm <;> rfl

theorem exited (hm : w.Moves h id f v g) (hv : v.cursor = .exited) :
    g.input.closed = true ∧ g.input.items = [] := by
  cases hm with
  | leave hc hq hd => exact ⟨hd, hq⟩
  | call => exact absurd hv (Cursor.after_ne_exited _ _)
  | take | send | report | crash => simp at hv

theorem input_suffix (hm : w.Moves h id f v g) : g.input.items <:+ f.input.items := by
  cases hm with
  | take hc hq => rw [hq]; exact List.suffix_cons _ _
  | leave | call | send | report | crash => exact List.suffix_rfl

theorem exited_set {workers : List Worker} (hm : w.Moves h id f v g)
    (hx : ∀ u ∈ workers, u.cursor = .exited → f.input.closed = true ∧ f.input.items = []) :
    ∀ u ∈ workers.set id v, u.cursor = .exited → g.input.closed = true ∧ g.input.items = [] := by
  intro u hu hc
  rcases List.mem_or_eq_of_mem_set hu with hu | rfl
  · obtain ⟨hcl, hit⟩ := hx u hu hc
    exact ⟨hm.input_closed.trans hcl, List.suffix_nil.1 (hit ▸ hm.input_suffix)⟩
  · exact hm.exited hc

end Worker.Moves

namespace Drain.Moves

variable {sink : Sink σ} {d e : Drain σ} {f g : Floor}

theorem working (hm : d.Moves sink f e g) : d.isOver = false := by
  cases hm with
  | receive hc | discard hc | settle hc | leave hc | emit hc | emitFail hc | emitCrash hc | flush hc
    | flushFail hc | flushCrash hc => simp [isOver, hc]

theorem input_eq (hm : d.Moves sink f e g) : g.input = f.input := by
  cases hm <;> rfl

theorem output_closed (hm : d.Moves sink f e g) : g.output.closed = f.output.closed := by
  cases hm <;> rfl

theorem finished (hm : d.Moves sink f e g) (he : e.cursor = .flushing ∨ e.cursor = .finished)
    (hd : d.cursor = .flushing ∨ d.cursor = .finished → f.output.closed = true ∧ f.output.items = []) :
    g.output.closed = true ∧ g.output.items = [] := by
  cases hm with
  | settle _ hq hd | leave _ hq hd => exact ⟨hd, hq⟩
  | flush hc | flushFail hc => exact hd (.inl hc)
  | discard hc => simp [hc] at he
  | receive | emit | emitFail | emitCrash | flushCrash => simp at he

theorem output_suffix (hm : d.Moves sink f e g) : g.output.items <:+ f.output.items := by
  cases hm with
  | receive hc hq | discard hc hq => rw [hq]; exact List.suffix_cons _ _
  | settle | leave | emit | emitFail | emitCrash | flush | flushFail | flushCrash => exact List.suffix_rfl

end Drain.Moves

/-- The log tells which queues are closed, and of no push to a queue after its close. -/
structure Floor.Sealed (f : Floor) : Prop where
  input : .inputClosed ∈ f.log ↔ f.input.closed = true
  output : .outputClosed ∈ f.log ↔ f.output.closed = true
  queued : f.log.Pairwise fun later e => e = .inputClosed → ∀ item, later ≠ .queued item
  sent : f.log.Pairwise fun later e => e = .outputClosed → ∀ id text, later ≠ .sent id text

theorem Floor.sealed_empty : Floor.Sealed {} := by
  constructor <;> simp

theorem Floor.Sealed.record {f g : Floor} {e : Event} (hs : f.Sealed) (hl : g.log = e :: f.log)
    (hi : g.input.closed = true ↔ e = .inputClosed ∨ f.input.closed = true)
    (ho : g.output.closed = true ↔ e = .outputClosed ∨ f.output.closed = true)
    (hq : f.input.closed = true → ∀ item, e ≠ .queued item)
    (ht : f.output.closed = true → ∀ id text, e ≠ .sent id text) : g.Sealed where
  input := by rw [hl, List.mem_cons, hs.input, hi, eq_comm]
  output := by rw [hl, List.mem_cons, hs.output, ho, eq_comm]
  queued := by
    rw [hl, List.pairwise_cons]
    refine ⟨fun a ha hc => hq (hs.input.1 ?_), hs.queued⟩
    exact hc ▸ ha
  sent := by
    rw [hl, List.pairwise_cons]
    refine ⟨fun a ha hc => ht (hs.output.1 ?_), hs.sent⟩
    exact hc ▸ ha

theorem Floor.Sealed.closeOutput {f : Floor} (hs : f.Sealed) : f.closeOutput.Sealed :=
  hs.record rfl (by simp [Floor.closeOutput, note]) (by simp [Floor.closeOutput, note]) (by simp) (by simp)

theorem Feed.Moves.sealed {filter : Filter} {f g : Feed} {floor next : Floor}
    (h : f.Moves filter floor g next) (hi : floor.input.closed = false) (hs : floor.Sealed) : next.Sealed := by
  cases h with
  | finish | crash =>
      exact hs.record rfl (by simp [Floor.closeInput, Floor.note]) (by simp [Floor.closeInput, Floor.note])
        (by simp) (by simp)
  | queue =>
      exact hs.record rfl (by simp [Floor.queueItem, Floor.note]) (by simp [Floor.queueItem, Floor.note])
        (by simp [hi]) (by simp)
  | skip => exact hs

theorem Worker.Moves.sealed {h : Handlers} {id : Nat} {w v : Worker} {f g : Floor}
    (hm : w.Moves h id f v g) (ho : f.output.closed = false) (hs : f.Sealed) : g.Sealed := by
  cases hm with
  | take | call | report =>
      exact hs.record rfl (by simp [Floor.note]) (by simp [Floor.note]) (by simp) (by simp)
  | send => exact hs.record rfl (by simp [Floor.note]) (by simp [Floor.note]) (by simp) (by simp [ho])
  | leave | crash => exact hs

theorem Drain.Moves.sealed {sink : Sink σ} {d e : Drain σ} {f g : Floor} (hm : d.Moves sink f e g)
    (hs : f.Sealed) : g.Sealed := by
  cases hm with
  | receive | discard | emit =>
      exact hs.record rfl (by simp [Floor.note]) (by simp [Floor.note]) (by simp) (by simp)
  | settle | leave | emitFail | emitCrash | flush | flushFail | flushCrash => exact hs

namespace Run

/-- What holds of a run whatever its calls do, as far as its shutdown goes. -/
structure Orderly (r : Run σ) : Prop where
  history : r.tracker.history = r.stage.past
  cleared : ∀ s, r.stage.left < s.left → r.Cleared s
  input_closed : r.floor.input.closed = r.feed.isOver
  output_closed : r.floor.output.closed = true → r.stage.left ≤ Stage.closingOutput.left
  worker_exited : ∀ w ∈ r.workers, w.cursor = .exited →
    r.floor.input.closed = true ∧ r.floor.input.items = []
  sink_finished : r.drain.cursor = .flushing ∨ r.drain.cursor = .finished →
    r.floor.output.closed = true ∧ r.floor.output.items = []
  sealed : r.floor.Sealed

theorem orderly_start (p : Plan σ) : (start p).Orderly where
  history := rfl
  cleared s hs := by cases s <;> simp [start, stage, Stage.left] at hs
  input_closed := rfl
  output_closed h := by simp [start] at h
  worker_exited w hw hc := by
    obtain ⟨_, rfl⟩ := List.mem_replicate.1 hw
    simp at hc
  sink_finished h := by simp [start] at h
  sealed := Floor.sealed_empty

theorem exists_next?_of_cleared {r : Run σ} (hc : r.Cleared r.stage) : ∃ t, r.stage.next? = some t := by
  cases hs : r.stage with
  | starting | producing | drainingWorkers | closingOutput | drainingSink => exact ⟨_, rfl⟩
  | done => rw [hs] at hc; exact hc.elim

theorem advance_of_next? {r : Run σ} {t : Stage} (h : r.stage.next? = some t) :
    r.advance.stage = t ∧ r.advance.tracker.history = r.tracker.history ++ [t] := by
  rw [stage] at h
  simp [stage, advance, Tracker.advance, h, Tracker.history]

theorem Cleared.advance {r : Run σ} {t : Stage} (hc : r.Cleared t) : r.advance.Cleared t := by
  cases t <;> exact hc

/-- What the conductor has waited for once stays as it is. -/
theorem Moves.cleared {p : Plan σ} {r s : Run σ} (hm : r.Moves p s) {t : Stage} (hc : r.Cleared t) :
    s.Cleared t := by
  cases hm with
  | advance => exact hc.advance
  | closeOutput =>
      cases t with
      | closingOutput => rfl
      | starting | producing | drainingWorkers | drainingSink | done => exact hc
  | produce _ hm =>
      cases t with
      | producing => exact absurd hc (by simp [Cleared, hm.feeding])
      | closingOutput => rw [Cleared, hm.output_eq]; exact hc
      | starting | drainingWorkers | drainingSink | done => exact hc
  | work hw hm =>
      cases t with
      | drainingWorkers =>
          have hv := List.all_eq_true.1 hc _ (List.mem_of_getElem? hw)
          rw [hm.working] at hv
          exact absurd hv Bool.false_ne_true
      | closingOutput => rw [Cleared, hm.output_closed]; exact hc
      | starting | producing | drainingSink | done => exact hc
  | drain hm =>
      cases t with
      | drainingSink => exact absurd hc (by simp [Cleared, hm.working])
      | closingOutput => rw [Cleared, hm.output_closed]; exact hc
      | starting | producing | drainingWorkers | done => exact hc

namespace Orderly

variable {r : Run σ}

theorem output_open (ho : r.Orderly) {w : Worker} (hw : w ∈ r.workers) (h : w.isOver = false) :
    r.floor.output.closed = false := by
  by_contra hc
  have hl := ho.output_closed (Bool.not_eq_false _ ▸ hc)
  have hc := List.all_eq_true.1 (ho.cleared .drainingWorkers (Nat.lt_of_le_of_lt hl (by decide))) w hw
  rw [h] at hc
  exact Bool.false_ne_true hc

theorem advance (ho : r.Orderly) (hc : r.Cleared r.stage) : r.advance.Orderly := by
  obtain ⟨t, ht⟩ := exists_next?_of_cleared hc
  obtain ⟨hs, hh⟩ := advance_of_next? ht
  have hl := Stage.left_of_next? ht
  refine ⟨?_, fun u hu => ?_, ho.input_closed, fun hd => ?_, ho.worker_exited, ho.sink_finished, ho.sealed⟩
  · rw [hh, hs, ho.history, Stage.past_of_next? ht]
  · rw [hs] at hu
    by_cases he : u.left = r.stage.left
    · rw [Stage.eq_of_left_eq he]; exact hc.advance
    · exact (ho.cleared u (by omega)).advance
  · rw [hs]
    have := ho.output_closed hd
    omega

theorem of_moves {p : Plan σ} {s : Run σ} (ho : r.Orderly) (hm : r.Moves p s) : s.Orderly := by
  have hclear : ∀ t, r.stage.left < t.left → s.Cleared t := fun t ht => hm.cleared (ho.cleared t ht)
  cases hm with
  | advance hc => exact ho.advance hc
  | closeOutput hs =>
      refine ⟨ho.history, hclear, ho.input_closed, fun _ => ?_, ho.worker_exited, fun hd => ?_,
        ho.sealed.closeOutput⟩
      · exact Nat.le_of_eq (congrArg Stage.left hs)
      · exact ⟨rfl, (ho.sink_finished hd).2⟩
  | produce _ hm =>
      have hi : r.floor.input.closed = false := ho.input_closed.trans hm.feeding
      refine ⟨ho.history, hclear, hm.input_closed ho.input_closed, ?_, fun w hw hc => ?_, ?_,
        hm.sealed hi ho.sealed⟩
      · rw [hm.output_eq]; exact ho.output_closed
      · have hcl := (ho.worker_exited w hw hc).1
        rw [hi] at hcl
        exact absurd hcl Bool.false_ne_true
      · rw [hm.output_eq]; exact ho.sink_finished
  | @work id w v floor hw hm =>
      -- A worker that moves is not over, so the conductor has not closed the output queue yet.
      have hopen := ho.output_open (List.mem_of_getElem? hw) hm.working
      refine ⟨ho.history, hclear, hm.input_closed.trans ho.input_closed, ?_, hm.exited_set ho.worker_exited,
        fun hd => ?_, hm.sealed hopen ho.sealed⟩
      · rw [hm.output_closed]; exact ho.output_closed
      · have hcl := (ho.sink_finished hd).1
        rw [hopen] at hcl
        exact absurd hcl Bool.false_ne_true
  | drain hm =>
      refine ⟨ho.history, hclear, ?_, ?_, ?_, fun hd => hm.finished hd ho.sink_finished, hm.sealed ho.sealed⟩
      · rw [hm.input_eq]; exact ho.input_closed
      · rw [hm.output_closed]; exact ho.output_closed
      · rw [hm.input_eq]; exact ho.worker_exited

end Orderly

theorem Possible.orderly {p : Plan σ} {r : Run σ} (hr : Possible p r) : r.Orderly := by
  induction hr with
  | refl => exact orderly_start p
  | tail _ hs ih =>
      obtain ⟨q, hq⟩ := hs
      exact ih.of_moves hq.moves

theorem Orderly.cleared_of_mem {r : Run σ} (ho : r.Orderly) {s t : Stage} (hs : s ∈ r.tracker.history)
    (ht : s.left < t.left) : r.Cleared t := by
  rw [ho.history, Stage.mem_past] at hs
  exact ho.cleared t (Nat.lt_of_le_of_lt hs ht)

theorem Orderly.input_suffix {r s : Run σ} (ho : r.Orderly) (hn : Next r s)
    (hc : r.floor.input.closed = true) : s.floor.input.items <:+ r.floor.input.items := by
  obtain ⟨q, hq⟩ := hn
  cases hq.moves with
  | advance | closeOutput => exact List.suffix_rfl
  | produce _ hm =>
      rw [ho.input_closed, hm.feeding] at hc
      exact absurd hc Bool.false_ne_true
  | work _ hm => exact hm.input_suffix
  | drain hm => exact hm.input_eq ▸ List.suffix_rfl

theorem Orderly.output_suffix {r s : Run σ} (ho : r.Orderly) (hn : Next r s)
    (hc : r.floor.output.closed = true) : s.floor.output.items <:+ r.floor.output.items := by
  obtain ⟨q, hq⟩ := hn
  cases hq.moves with
  | advance | closeOutput => exact List.suffix_rfl
  | produce _ hm => exact hm.output_eq ▸ List.suffix_rfl
  | work hw hm =>
      rw [ho.output_open (List.mem_of_getElem? hw) hm.working] at hc
      exact absurd hc Bool.false_ne_true
  | drain hm => exact hm.output_suffix

/-- Whatever the calls of a run do and in whatever order its threads move: nothing is pushed to a
closed queue, the output queue is closed when all workers are over, a thread that ends by itself
leaves its queue closed and empty, and the stages that were passed tell who is over. -/
theorem shutdown_in_order {p : Plan σ} {r : Run σ} (hr : Possible p r) :
    (∀ s, Next r s → r.floor.input.closed = true → s.floor.input.items <:+ r.floor.input.items) ∧
    (r.floor.events.Pairwise fun e later => e = .inputClosed → ∀ item, later ≠ .queued item) ∧
    (∀ s, Next r s → r.floor.output.closed = true → s.floor.output.items <:+ r.floor.output.items) ∧
    (r.floor.events.Pairwise fun e later => e = .outputClosed → ∀ id text, later ≠ .sent id text) ∧
    (r.floor.output.closed = true → Pool.isOver r.workers = true) ∧
    (∀ w ∈ r.workers, w.cursor = .exited → r.floor.input.closed = true ∧ r.floor.input.items = []) ∧
    (r.drain.cursor = .finished → r.floor.output.closed = true ∧ r.floor.output.items = []) ∧
    r.tracker.history ≠ [] ∧ r.tracker.history <+: Stage.all ∧
    (.drainingWorkers ∈ r.tracker.history → r.floor.input.closed = true) ∧
    (.closingOutput ∈ r.tracker.history → Pool.isOver r.workers = true) ∧
    (.drainingSink ∈ r.tracker.history → r.floor.output.closed = true) ∧
    (.done ∈ r.tracker.history → r.drain.isOver = true) := by
  have ho := hr.orderly
  refine ⟨fun s => ho.input_suffix, List.pairwise_reverse.2 ho.sealed.queued, fun s => ho.output_suffix,
    List.pairwise_reverse.2 ho.sealed.sent, fun hc => ?_, ho.worker_exited,
    fun hd => ho.sink_finished (.inr hd), ?_, ?_, fun hs => ?_, fun hs => ?_, fun hs => ?_, fun hs => ?_⟩
  · exact ho.cleared .drainingWorkers (Nat.lt_of_le_of_lt (ho.output_closed hc) (by decide))
  · exact List.ne_nil_of_mem (ho.history ▸ Stage.mem_past.2 (Nat.le_refl _))
  · exact ho.history ▸ r.stage.past_prefix
  · exact ho.input_closed.trans (ho.cleared_of_mem (t := .producing) hs (by decide))
  · exact ho.cleared_of_mem (t := .drainingWorkers) hs (by decide)
  · exact ho.cleared_of_mem (t := .closingOutput) hs (by decide)
  · exact ho.cleared_of_mem (t := .drainingSink) hs (by decide)

theorem shutdown_in_order_unlucky :
    Possible Plan.unlucky (complete Plan.unlucky) ∧
    Stage.closingOutput ∈ (complete Plan.unlucky).tracker.history ∧
    Pool.isOver (complete Plan.unlucky).workers = true := by
  have hr : Possible Plan.unlucky (complete Plan.unlucky) := (reachable_complete _).possible
  have hs : Stage.closingOutput ∈ (complete Plan.unlucky).tracker.history := by decide
  obtain ⟨_, _, _, _, _, _, _, _, _, _, hw, _⟩ := shutdown_in_order hr
  exact ⟨hr, hs, hw hs⟩

end Run

end BatchClassifier
