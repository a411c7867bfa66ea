import BatchClassifier.Proofs.Run.Completion
import BatchClassifier.Proofs.Run.Conservation

namespace BatchClassifier

variable {σ : Type}

/-- The items that a run is to process: what is listed, or the lines that the filter accepts. -/
def Plan.submissions (p : Plan σ) : List Item :=
  match p.source with
  | .items list => list
  | .lines stream => (stream.lines.map Stream.decodeLine).filter fun line => p.filter line = .accept

/-- A plan with an item that comes twice, one that is refused, and one that crashes the processor. -/
def Plan.mixed : Plan (List String) where
  workers := 2
  source := .items ["a", "b", "a", "c"]
  handlers := {
    process := fun item =>
      if item = "b" then .returned (.error (.failed "no good"))
      else if item = "c" then .crashed (.text "boom")
      else .returned (.ok (item ++ "!")) }
  sink := .collecting
  state := []

theorem Feed.verdict_start_ne_crash {filter : Filter} (hf : ∀ item, filter item ≠ .crash) (s : Source)
    (item : Item) : (start s).verdict filter item ≠ .crash := by
  cases s with
  | items list => exact Verdict.noConfusion
  | lines stream => exact hf item

theorem Feed.ahead_start {p : Plan σ} (hf : ∀ item, p.filter item ≠ .crash) :
    (start p.source).ahead p.filter = p.submissions := by
  have ha := admitted_eq_filter (verdict_start_ne_crash hf p.source) p.source.offers
  cases hs : p.source with
  | items list =>
      rw [hs] at ha
      rw [Plan.submissions, hs]
      exact ha.trans (List.filter_true list)
  | lines stream =>
      rw [hs] at ha
      rw [Plan.submissions, hs]
      exact ha

theorem Handlers.length_text?_add_failure? (h : Handlers) (items : List Item) :
    (items.filterMap h.text?).length + (items.filterMap h.failure?).length = items.length := by
  induction items with
  | nil => rfl
  | cons item items ih =>
      rcases h.text?_or_failure? item with ⟨text, -, ht, hf⟩ | ⟨e, -, ht, hf⟩
      · rw [List.filterMap_cons_some ht, List.filterMap_cons_none hf, List.length_cons, List.length_cons]
        omega
      · rw [List.filterMap_cons_none ht, List.filterMap_cons_some hf, List.length_cons, List.length_cons]
        omega

theorem Drain.finished_of_isOver {d : Drain σ} (hd : ∀ crash, d.cursor ≠ .lost crash) (ho : d.isOver = true) :
    d.cursor = .finished := by
  obtain ⟨state, cursor, emitted, fault⟩ := d
  cases cursor with
  | finished => rfl
  | lost crash => exact absurd rfl (hd crash)
  | waiting | holding | flushing => simp [isOver] at ho

theorem Feed.finished_of_isOver {f : Feed} (hl : f.cursor ≠ .lost) (ho : f.isOver = true) :
    f.cursor = .finished := by
  obtain ⟨mode, pending, queued, cursor⟩ := f
  cases cursor with
  | finished => rfl
  | lost => exact absurd rfl hl
  | feeding => simp [isOver] at ho

namespace Run

theorem Moves.healthy {p : Plan σ} {r s : Run σ} (hm : r.Moves p s) (hs : p.sink.Reliable)
    (hd : r.drain.Healthy) : s.drain.Healthy := by
  cases hm with
  | drain hm => exact hm.healthy hs hd
  | advance | closeOutput | produce | work => exact hd

theorem Reachable.healthy {p : Plan σ} {r : Run σ} (h : Reachable p r) (hs : p.sink.Reliable) :
    r.drain.Healthy := by
  induction h with
  | start => exact ⟨rfl, fun crash hc => Drain.Cursor.noConfusion hc⟩
  | step _ hr ih => exact (moves_of_step hr).healthy hs ih

namespace Accounted

variable {p : Plan σ} {r : Run σ}

theorem queuedItems_eq (ha : r.Accounted p) (hf : ∀ item, p.filter item ≠ .crash)
    (ho : r.feed.isOver = true) : r.floor.queuedItems = p.submissions := by
  rw [ha.feed.queuedItems_of_isOver ho, Feed.ahead_start hf]

theorem not_lost (ha : r.Accounted p) (hr : ∀ failure, p.handlers.report failure = none) :
    ∀ w ∈ r.workers, w.isLost = false := by
  intro w hw
  obtain ⟨id, hid⟩ := List.getElem?_of_mem hw
  exact (ha.pool.worker id w hid).not_lost hr

theorem exited (ha : r.Accounted p) (hr : ∀ failure, p.handlers.report failure = none)
    (ho : Pool.isOver r.workers = true) : ∀ w ∈ r.workers, w.cursor = .exited := by
  exact fun w hw => Worker.exited_of_isOver (List.all_eq_true.1 ho w hw) (ha.not_lost hr w hw)

theorem exists_worker (ha : r.Accounted p) : ∃ w, w ∈ r.workers := by
  refine List.exists_mem_of_length_pos ?_
  rw [ha.size, Pool.size]
  omega

theorem calls_perm (ha : r.Accounted p) (hi : r.floor.input.items = []) (ho : Pool.isOver r.workers = true) :
    r.floor.calls.Perm r.floor.queuedItems := by
  have hb := ha.balanced.input
  rw [hi, List.append_nil] at hb
  exact hb ▸ ha.pool.calls_perm ho

theorem emittedTexts_eq (ha : r.Accounted p) (hi : r.floor.output.items = []) (hd : r.drain.Healthy)
    (hc : r.drain.cursor = .finished) : r.floor.emittedTexts = r.floor.sentTexts := by
  have hb := ha.balanced.output
  rw [hi, List.append_nil, ha.drain.received hd, hc] at hb
  exact ((List.append_nil _).symm.trans hb.symm)

/-- A run that is done has processed what was queued, if no worker was lost. Neither the producer nor
the sink has a part in it. -/
theorem worked_off (ha : r.Accounted p) (ho : r.Orderly) (hd : r.stage = .done)
    (hr : ∀ failure, p.handlers.report failure = none) :
    (∀ w ∈ r.workers, w.cursor = .exited) ∧ r.floor.input.items = [] ∧
    r.floor.calls.Perm r.floor.queuedItems ∧
    r.floor.reports.Perm (r.floor.queuedItems.filterMap p.handlers.failure?) := by
  obtain ⟨_, hworkers, _⟩ := ho.over hd
  have hexited := ha.exited hr hworkers
  -- A worker has exited, and none does as long as its queue holds anything.
  have hinput : r.floor.input.items = [] := by
    obtain ⟨w, hw⟩ := ha.exists_worker
    exact (ho.worker_exited w hw (hexited w hw)).2
  have hcalls := ha.calls_perm hinput hworkers
  exact ⟨hexited, hinput, hcalls, (ha.pool.reports_perm hexited).trans (hcalls.filterMap _)⟩

theorem processed (ha : r.Accounted p) (ho : r.Orderly) (hd : r.stage = .done)
    (hf : ∀ item, p.filter item ≠ .crash) (hr : ∀ failure, p.handlers.report failure = none) :
    (∀ w ∈ r.workers, w.cursor = .exited) ∧ r.floor.input.items = [] ∧
    r.floor.queuedItems = p.submissions ∧ r.floor.calls.Perm p.submissions ∧
    r.floor.reports.Perm (p.submissions.filterMap p.handlers.failure?) := by
  obtain ⟨hexited, hinput, hcalls, hreports⟩ := ha.worked_off ho hd hr
  have hqueued := ha.queuedItems_eq hf (ho.over hd).1
  rw [hqueued] at hcalls hreports
  exact ⟨hexited, hinput, hqueued, hcalls, hreports⟩

theorem drained (ha : r.Accounted p) (ho : r.Orderly) (hd : r.stage = .done) (hh : r.drain.Healthy) :
    r.drain.cursor = .finished ∧ r.floor.emittedTexts = r.floor.sentTexts := by
  have hfinished := Drain.finished_of_isOver hh.2 (ho.over hd).2.2
  have houtput : r.floor.output.items = [] := (ho.sink_finished (.inr hfinished)).2
  exact ⟨hfinished, ha.emittedTexts_eq houtput hh hfinished⟩

end Accounted

end Run

end BatchClassifier
