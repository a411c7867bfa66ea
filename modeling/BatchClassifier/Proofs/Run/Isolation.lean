import BatchClassifier.Proofs.Run.Calls
import BatchClassifier.Proofs.Run.Delivery

namespace BatchClassifier

variable {σ τ : Type}

def Plan.withSink (p : Plan σ) (sink : Sink τ) (state : τ) : Plan τ :=
  { workers := p.workers, source := p.source, filter := p.filter, handlers := p.handlers, sink, state }

theorem Drain.Moves.emitted_prefix {sink : Sink σ} {d e : Drain σ} {f g : Floor} {first : σ}
    (hm : d.Moves sink f e g) (hd : d.Careful) (ha : d.Accounts sink f first)
    (hp : f.emittedTexts <+: f.receivedTexts) : g.emittedTexts <+: g.receivedTexts := by
  rw [Floor.emittedTexts_eq, Floor.receivedTexts] at hp ⊢
  cases hm with
  | receive | discard => simpa using hp.trans (List.prefix_append _ _)
  | emit hc =>
      have hr := ha.received ⟨hd (.inl ⟨_, hc⟩), by simp [hc]⟩
      rw [hc, Floor.emittedTexts_eq, Floor.receivedTexts] at hr
      simp [hr, Cursor.held]
  | settle | leave | emitFail | emitCrash | flush | flushFail | flushCrash => exact hp

namespace Run

theorem Reachable.emitted_prefix {p : Plan σ} {r : Run σ} (h : Reachable p r) :
    r.floor.emittedTexts <+: r.floor.receivedTexts := by
  induction h with
  | start => exact List.prefix_rfl
  | step hr hs ih =>
      obtain hm | ⟨_, hreceived, hemitted⟩ := (moves_of_step hs).drain_cases
      · exact hm.emitted_prefix hr.possible.careful hr.accounted.drain ih
      · rwa [hreceived, hemitted]

theorem Reachable.emittedTexts_eq_take {p : Plan σ} {r : Run σ} (h : Reachable p r) :
    r.floor.emittedTexts = r.floor.sentTexts.take r.drain.emitted := by
  have hsent : r.floor.receivedTexts <+: r.floor.sentTexts := ⟨_, h.accounted.balanced.output.symm⟩
  rw [h.accounted.drain.count]
  exact List.prefix_iff_eq_take.1 (h.emitted_prefix.trans hsent)

/-- What a run has made of the items of its plan, whatever has become of its sink. -/
structure Undisturbed (p : Plan σ) (r : Run σ) : Prop where
  done : r.stage = .done
  calls : r.floor.calls.Perm p.submissions
  reports : r.floor.reports.Perm (p.submissions.filterMap p.handlers.failure?)
  reports_perm : ∀ (τ : Type) (sink : Sink τ) (state : τ) (s : Run τ),
    Reachable (p.withSink sink state) s → s.stage = .done → r.floor.reports.Perm s.floor.reports
  exited : ∀ w ∈ r.workers, w.cursor = .exited
  input : r.floor.input.items = []
  output : (∀ crash, r.drain.cursor ≠ .lost crash) → r.floor.output.items = []
  emitted : r.floor.emittedTexts = r.floor.sentTexts.take r.drain.emitted

theorem Reachable.undisturbed {p : Plan σ} {r : Run σ} (h : Reachable p r) (hd : r.stage = .done)
    (hf : ∀ item, p.filter item ≠ .crash) (hr : ∀ failure, p.handlers.report failure = none) :
    Undisturbed p r := by
  have ho := h.possible.orderly
  obtain ⟨hexited, hinput, _, hcalls, hreports⟩ := h.accounted.processed ho hd hf hr
  refine ⟨hd, hcalls, hreports, ?_, hexited, hinput, ?_, h.emittedTexts_eq_take⟩
  · -- The other run has the same items to process, so it has the same failures to report.
    intro τ sink state s hs hd'
    obtain ⟨_, _, _, _, hreports'⟩ := hs.accounted.processed hs.possible.orderly hd' hf hr
    exact hreports.trans hreports'.symm
  · intro hl
    exact (ho.sink_finished (.inr (Drain.finished_of_isOver hl (ho.over hd).2.2))).2

/-- For every plan whose filter and reporter do not fail, and whatever its sink does: every execution
ends with each item processed once, the failures reported as with any other sink, all workers gone and
nothing left for them; and unless the thread of the sink is lost, nothing is left for it either. The
results that the sink accepted are the first that were sent. -/
theorem every_sink_leaves_undisturbed (p : Plan σ) (hf : ∀ item, p.filter item ≠ .crash)
    (hr : ∀ failure, p.handlers.report failure = none) :
    Concludes (Step p) (Undisturbed p) (start p) :=
  concludes_of_done fun _ h hd => h.undisturbed hd hf hr

def brittle : Sink (List String) where
  emit kept text := if kept.isEmpty then (.done, [text]) else (.crashed .unknown, kept)
  flush kept := (.done, kept)

theorem every_sink_leaves_undisturbed_brittle :
    (∀ item, (Plan.mixed.withSink brittle []).filter item ≠ .crash) ∧
    (∀ failure, (Plan.mixed.withSink brittle []).handlers.report failure = none) ∧
    Concludes (Step (Plan.mixed.withSink brittle [])) (Undisturbed (Plan.mixed.withSink brittle []))
      (start (Plan.mixed.withSink brittle [])) ∧
    (complete (Plan.mixed.withSink brittle [])).drain.cursor = .lost .unknown ∧
    (complete (Plan.mixed.withSink brittle [])).floor.sentTexts = ["a!", "a!"] ∧
    (complete (Plan.mixed.withSink brittle [])).floor.emittedTexts = ["a!"] := by
  have hf : ∀ item, (Plan.mixed.withSink brittle []).filter item ≠ .crash := fun _ => Verdict.noConfusion
  have hr : ∀ failure, (Plan.mixed.withSink brittle []).handlers.report failure = none := fun _ => rfl
  exact ⟨hf, hr, every_sink_leaves_undisturbed _ hf hr, by decide, by decide, by decide⟩

end Run

end BatchClassifier
