import BatchClassifier.Proofs.Feed.Ending
import BatchClassifier.Proofs.Run.Delivery

namespace BatchClassifier

variable {σ : Type}

def Plan.touchy : Plan (List String) where
  workers := 2
  source := .lines { chunks := [[97, 10, 98, 10], [99, 13, 10, 120], [10, 97]], capacity := 3 }
  filter := fun line => if line = "b" then .reject else if line = "x" then .crash else .accept
  handlers := {
    process := fun item => if item = "c" then .crashed .unknown else .returned (.ok (item ++ "!")) }
  sink := .collecting
  state := []

namespace Run

theorem Reachable.passed {p : Plan σ} {r : Run σ} (h : Reachable p r) :
    Feed.Passed p.filter (.start p.source) r.feed := by
  induction h with
  | start => exact Feed.passed_start p.filter p.source
  | step hr hs ih =>
      cases moves_of_step hs with
      | produce _ hm => exact hm.passed hr.accounted.feed.mode ih
      | advance | closeOutput | work | drain => exact ih

structure Interrupted (p : Plan σ) (items : List Item) (r : Run σ) : Prop where
  queued : r.floor.queuedItems = items
  closed : r.floor.input.closed = true
  left : r.floor.input.items = []
  calls : r.floor.calls.Perm items
  results : r.floor.emittedTexts.Perm (items.filterMap p.handlers.text?)
  sink : r.drain.state = (p.sink.flush (p.sink.after p.state r.floor.emittedTexts)).2
  reports : r.floor.reports.Perm (items.filterMap p.handlers.failure?)
  done : r.stage = .done
  result : r.result = .error (.task .taskCrashed)

theorem Reachable.interrupted {p : Plan σ} {r : Run σ} (h : Reachable p r) (hd : r.stage = .done)
    (hm : p.source.mode = .streaming) {before after : List Item} {line : Item}
    (hl : p.source.offers = before ++ line :: after) (hb : ∀ item ∈ before, p.filter item ≠ .crash)
    (hc : p.filter line = .crash) (hr : ∀ failure, p.handlers.report failure = none) (hs : p.sink.Reliable) :
    Interrupted p (before.filter fun item => p.filter item = .accept) r := by
  have ha := h.accounted
  have ho := h.possible.orderly
  have hh := h.healthy hs
  obtain ⟨hfeed, hworkers, _⟩ := ho.over hd
  obtain ⟨_, hinput, hcalls, hreports⟩ := ha.worked_off ho hd hr
  obtain ⟨hfinished, htexts⟩ := ha.drained ho hd hh
  have hv := Feed.verdict_start_of_streaming hm p.filter
  have hqueued : r.floor.queuedItems = before.filter fun item => p.filter item = .accept := by
    have hq := ha.feed.queuedItems_of_isOver hfeed
    change r.floor.queuedItems = Feed.admitted _ p.source.offers at hq
    rw [hq, hv, hl, Feed.admitted_of_crash hb hc]
  -- The threads behind the queue cannot tell; only the join of the producer can.
  have hlost : r.feed.cursor = .lost := by
    apply (h.passed.lost_iff ha.feed hfeed).2
    have hmem : line ∈ p.source.offers := by
      rw [hl]
      exact List.mem_append_right before List.mem_cons_self
    rw [hv]
    exact ⟨line, hmem, hc⟩
  have hsent := (ha.pool.sentTexts_perm hworkers).trans (hcalls.filterMap _)
  rw [hqueued] at hcalls hreports hsent
  refine ⟨hqueued, ho.input_closed.trans hfeed, hinput, hcalls, htexts ▸ hsent, ?_, hreports, hd, ?_⟩
  · exact ha.drain.flushed hh hfinished
  · rw [result, Feed.result, hlost]
    rfl

/-- For every stream with a line that crashes the filter, and for every order of the steps of the
threads: the lines that are accepted before the first such line are queued and no others, each of them
is processed once and its result emitted or its failure reported, and then the run returns that the
task of the producer has crashed. -/
theorem every_crashed_filter_drains (p : Plan σ) {stream : Stream} (hstream : p.source = .lines stream)
    {before after : List Item} {line : Item}
    (hl : stream.lines.map Stream.decodeLine = before ++ line :: after)
    (hb : ∀ item ∈ before, p.filter item ≠ .crash) (hc : p.filter line = .crash)
    (hr : ∀ failure, p.handlers.report failure = none) (hs : p.sink.Reliable) :
    Concludes (Step p) (Interrupted p (before.filter fun item => p.filter item = .accept)) (start p) := by
  have hm : p.source.mode = .streaming := by rw [hstream]; rfl
  have ho : p.source.offers = before ++ line :: after := by rw [hstream]; exact hl
  apply concludes_of_done
  intro r h hd
  exact h.interrupted hd hm ho hb hc hr hs

theorem every_crashed_filter_drains_touchy :
    (∃ stream, Plan.touchy.source = .lines stream ∧
      stream.lines.map Stream.decodeLine = ["a", "b", "c"] ++ "x" :: ["a"]) ∧
    (∀ item ∈ ["a", "b", "c"], Plan.touchy.filter item ≠ .crash) ∧ Plan.touchy.filter "x" = .crash ∧
    (∀ failure, Plan.touchy.handlers.report failure = none) ∧ Plan.touchy.sink.Reliable ∧
    Concludes (Step Plan.touchy) (Interrupted Plan.touchy ["a", "c"]) (start Plan.touchy) ∧
    ["a", "c"].filterMap Plan.touchy.handlers.text? = ["a!"] ∧
    ["a", "c"].filterMap Plan.touchy.handlers.failure? =
      [⟨"c", "processor panicked: unknown panic payload"⟩] := by
  have hl : Plan.touchy.source.offers = ["a", "b", "c"] ++ "x" :: ["a"] := by decide +kernel
  have hb : ∀ item ∈ ["a", "b", "c"], Plan.touchy.filter item ≠ .crash := by decide
  have hc : Plan.touchy.filter "x" = .crash := by decide
  have hr : ∀ failure, Plan.touchy.handlers.report failure = none := fun _ => rfl
  have hs : Plan.touchy.sink.Reliable := ⟨fun _ _ => rfl, fun _ => rfl⟩
  exact ⟨⟨_, rfl, hl⟩, hb, hc, hr, hs, every_crashed_filter_drains Plan.touchy rfl hl hb hc hr hs,
    by decide, by decide⟩

end Run

end BatchClassifier
