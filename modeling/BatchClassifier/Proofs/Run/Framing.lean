import BatchClassifier.Proofs.Feed.Ending
import BatchClassifier.Proofs.Pool.Renderings
import BatchClassifier.Proofs.Pool.Shift
import BatchClassifier.Proofs.Run.Outcome
import BatchClassifier.Proofs.Sink.Page

namespace BatchClassifier

variable {ω : Type}

namespace Lines

theorem decode?_page (results : List String) :
    Text.Utf8.decode? (page results) = some ((results.map String.toList).flatMap (· ++ ['\n'])) := by
  have hpage : page results = Text.Utf8.encode ((results.map String.toList).flatMap (· ++ ['\n'])) := by
    induction results with
    | nil => rfl
    | cons text results ih =>
        rw [page, List.flatMap_cons, ← page, ih, List.map_cons, List.flatMap_cons]
        simp only [line, Text.Utf8.encode, List.flatMap_append]
  rw [hpage, Text.Utf8.decode?_encode]

theorem cutAfter_page {results : List String} (h : ∀ text ∈ results, SingleLine text) :
    ∃ text, Text.Utf8.decode? (page results) = some text ∧
      Text.cutAfter (· == '\n') text = results.map (·.toList ++ ['\n']) := by
  refine ⟨_, decode?_page results, ?_⟩
  rw [Text.cutAfter_written, List.map_map]
  · rfl
  · intro text ht
    obtain ⟨result, hr, rfl⟩ := List.mem_map.1 ht
    exact h result hr

end Lines

theorem Worker.Moves.not_lost {h : Handlers} {id : Nat} {w v : Worker} {f g : Floor} (hm : w.Moves h id f v g)
    (hr : ∀ failure, h.report failure = none) : v.isLost = false := by
  cases hm with
  | take | leave | send | report => rfl
  | @call item => cases (h.process item).guarded <;> rfl
  | crash _ he =>
      rw [hr] at he
      cases he

theorem Run.exists_of_result {σ : Type} {r : Run σ} {report : Run.Report} (h : r.result = .ok report) :
    r.feed.cursor ≠ .lost ∧ (∀ w ∈ r.workers, w.isLost = false) ∧ r.drain.Healthy ∧
      report.emitted = r.drain.emitted := by
  have hfeed : r.feed.cursor ≠ .lost := by
    intro hl
    rw [Run.result, Feed.result_of_lost hl] at h
    cases h
  rw [Run.result, Feed.result_of_not_lost hfeed] at h
  cases hj : Pool.join r.workers with
  | error e =>
      rw [hj] at h
      cases h
  | ok totals =>
      rw [hj] at h
      have hdrain : ∀ crash, r.drain.cursor ≠ .lost crash := by
        intro crash hc
        rw [Drain.result_of_lost ⟨crash, hc⟩] at h
        cases h
      have hn : ¬ ∃ crash, r.drain.cursor = .lost crash := not_exists.2 hdrain
      rw [Drain.result_of_not_lost hn] at h
      cases hfault : r.drain.fault with
      | some fault =>
          rw [hfault] at h
          cases h
      | none =>
          rw [hfault] at h
          cases h
          exact ⟨hfeed, Pool.not_lost_of_join hj, ⟨hfault, hdrain⟩, rfl⟩

structure Pipe (ω : Type) where
  workers : Nat
  stream : Stream
  filter : Filter := .acceptAll
  classifier : Classifier
  report : Failure → Option Crash := fun _ => none
  writer : Writer ω
  state : ω

namespace Pipe

def plan (p : Pipe ω) (elapsed : Elapsed) : Plan (Lines ω) where
  workers := p.workers
  source := .lines p.stream
  filter := p.filter
  handlers := { process := p.classifier.process elapsed, report := p.report }
  sink := Sink.lines p.writer
  state := { writer := p.state }

def start (p : Pipe ω) : Run (Lines ω) := Run.start (p.plan ⟨0, 0⟩)

def Step (p : Pipe ω) (r s : Run (Lines ω)) : Prop := ∃ elapsed, Run.Step (p.plan elapsed) r s

def submissions (p : Pipe ω) : List Item :=
  (p.stream.lines.map Stream.decodeLine).filter fun line => p.filter line = .accept

structure Kept (p : Pipe ω) (r : Run (Lines ω)) : Prop where
  feed : r.feed.Accounts p.filter r.floor (.start (.lines p.stream))
  passed : Feed.Passed p.filter (.start (.lines p.stream)) r.feed
  size : r.workers.length = Pool.size p.workers
  pool : Pool.Renders p.classifier r.workers r.floor
  drain : r.drain.Accounts (Sink.lines p.writer) r.floor { writer := p.state }
  paged : r.drain.Paged r.floor
  balanced : r.floor.Balanced

theorem kept_start (p : Pipe ω) : p.Kept p.start where
  feed := Feed.accounts_start p.filter (.lines p.stream)
  passed := Feed.passed_start p.filter (.lines p.stream)
  size := List.length_replicate
  pool := Pool.renders_spawn p.classifier p.workers
  drain := Drain.accounts_start (Sink.lines p.writer) { writer := p.state }
  paged := ⟨fun _ => rfl, List.prefix_rfl, List.nil_prefix⟩
  balanced := ⟨rfl, rfl⟩

theorem Kept.step {p : Pipe ω} {r s : Run (Lines ω)} (h : p.Kept r) (hc : r.drain.Careful)
    (hs : p.Step r s) : p.Kept s := by
  obtain ⟨elapsed, hs⟩ := hs
  have hm := hs.moves
  have hdrain : s.drain.Accounts (Sink.lines p.writer) s.floor { writer := p.state } := hm.drain_accounts h.drain
  have hpaged : s.drain.Paged s.floor := by
    obtain hm | ⟨hd, hr, he⟩ := hm.drain_cases
    · exact hm.paged hc h.drain h.paged
    · rw [hd]
      exact h.paged.of_taken rfl rfl id he (hr ▸ List.prefix_rfl)
  obtain ⟨hfeed, hpassed, hsize, hpool, -, -, hbalanced⟩ := h
  cases hm with
  | advance => exact ⟨hfeed, hpassed, hsize, hpool, hdrain, hpaged, hbalanced⟩
  | closeOutput =>
      refine ⟨hfeed.of_queuedItems ?_, hpassed, hsize, hpool.of_eventsOf ?_, hdrain, hpaged,
        hbalanced.closeOutput⟩
      · simp [Floor.queuedItems_eq]
      · exact Floor.eventsOf_closeOutput r.floor
  | produce _ hm =>
      exact ⟨hm.accounts hfeed, hm.passed hfeed.mode hpassed, hsize, hpool.of_eventsOf hm.eventsOf_eq, hdrain,
        hpaged, hm.balanced hbalanced⟩
  | work hw hm =>
      exact ⟨hfeed.of_queuedItems hm.queuedItems_eq, hpassed, (List.length_set ..).trans hsize,
        hpool.set rfl hw hm, hdrain, hpaged, hm.balanced hbalanced⟩
  | drain hm =>
      refine ⟨hfeed.of_queuedItems ?_, hpassed, hsize, hpool.of_eventsOf hm.eventsOf_eq, hdrain, hpaged,
        hm.balanced hbalanced⟩
      exact hm.filterMap_events (fun _ => rfl) fun _ => rfl

def Reachable (p : Pipe ω) : Run (Lines ω) → Prop := Relation.ReflTransGen p.Step p.start

theorem Reachable.possible {p : Pipe ω} {r : Run (Lines ω)} (h : p.Reachable r) :
    Run.Possible (p.plan ⟨0, 0⟩) r :=
  Relation.ReflTransGen.mono (fun _ _ ⟨_, hs⟩ => hs.next) _ _ h

theorem Reachable.kept {p : Pipe ω} {r : Run (Lines ω)} (h : p.Reachable r) : p.Kept r := by
  induction h with
  | refl => exact p.kept_start
  | tail hr hs ih => exact ih.step (Reachable.possible hr).careful hs

theorem Kept.queuedItems_eq {p : Pipe ω} {r : Run (Lines ω)} (h : p.Kept r) (ho : r.feed.isOver = true)
    (hl : r.feed.cursor ≠ .lost) : r.floor.queuedItems = p.submissions := by
  have hcrash : ∀ item ∈ p.stream.lines.map Stream.decodeLine, p.filter item ≠ .crash := by
    intro item hi hc
    exact hl ((h.passed.lost_iff h.feed ho).2 ⟨item, hi, hc⟩)
  have hadmitted := Feed.admitted_append hcrash []
  rw [Feed.admitted, List.append_nil, List.append_nil] at hadmitted
  rw [h.feed.queuedItems_of_isOver ho]
  exact hadmitted

/-- The written text, cut after each newline, gives the results; and those are renderings of the accepted
lines that can be classified, each beginning with its own. -/
structure Framed (p : Pipe ω) (r : Run (Lines ω)) (report : Run.Report) : Prop where
  single : ∀ text ∈ r.floor.emittedTexts, '\n' ∉ text.toList
  written : ∃ text, Text.Utf8.decode? r.drain.state.taken = some text ∧
    Text.cutAfter (· == '\n') text = r.floor.emittedTexts.map (·.toList ++ ['\n'])
  emitted : report.emitted = r.floor.emittedTexts.length
  items : ∃ items, items.Perm (p.submissions.filter p.classifier.classifies) ∧
    List.Forall₂ (fun item text => item.toList <+: text.toList ∧ p.classifier.Renders item text) items
      r.floor.emittedTexts

theorem singleLine_submissions (p : Pipe ω) : ∀ item ∈ p.submissions, SingleLine item := by
  intro item hi
  obtain ⟨line, hl, rfl⟩ := List.mem_map.1 (List.mem_filter.1 hi).1
  exact Stream.newline_notMem_decodeLine hl

theorem Reachable.framed {p : Pipe ω} {r : Run (Lines ω)} (h : p.Reachable r) (hd : r.stage = .done)
    (hnames : ∀ name ∈ p.classifier.classes.names, SingleLine name) {report : Run.Report}
    (hresult : r.result = .ok report) : p.Framed r report := by
  have hk := h.kept
  have ho := h.possible.orderly
  obtain ⟨hfeed, hworkers, hdrain⟩ := ho.over hd
  obtain ⟨hl, halive, hhealthy, hemitted⟩ := Run.exists_of_result hresult
  have hqueued := hk.queuedItems_eq hfeed hl
  -- A worker is there and has exited, so nothing is left in the input queue.
  have hinput : r.floor.input.items = [] := by
    have hpos : 0 < r.workers.length := by
      rw [hk.size, Pool.size]
      omega
    obtain ⟨w, hw⟩ := List.exists_mem_of_length_pos hpos
    exact (ho.worker_exited w hw (Worker.exited_of_isOver (List.all_eq_true.1 hworkers w hw) (halive w hw))).2
  have hfinished := Drain.finished_of_isOver hhealthy.2 hdrain
  have houtput : r.floor.output.items = [] := (ho.sink_finished (.inr hfinished)).2
  have hcalls : r.floor.calls.Perm p.submissions := by
    have hb := hk.balanced.input
    rw [hinput, List.append_nil, hqueued] at hb
    exact hb ▸ hk.pool.calls_perm hworkers
  have htexts : r.floor.emittedTexts = r.floor.sentTexts := by
    have hb := hk.balanced.output
    rw [houtput, List.append_nil, hk.drain.received hhealthy, hfinished] at hb
    exact ((List.append_nil _).symm.trans hb.symm)
  obtain ⟨items, hitems, hrendered⟩ := hk.pool.exists_items hworkers
  have hitems : items.Perm (p.submissions.filter p.classifier.classifies) := hitems.trans (hcalls.filter _)
  rw [← htexts] at hrendered
  have hsingle : ∀ text ∈ r.floor.emittedTexts, SingleLine text := by
    intro text ht
    obtain ⟨item, hi, hr⟩ := exists_of_forall₂ hrendered text ht
    refine hr.singleLine ?_ hnames
    exact p.singleLine_submissions item (List.mem_filter.1 (hitems.mem_iff.1 hi)).1
  refine ⟨hsingle, ?_, hemitted.trans hk.drain.count, items, hitems, ?_⟩
  · rw [hk.paged.whole hhealthy.1]
    exact Lines.cutAfter_page hsingle
  · exact hrendered.imp fun _ _ hr => ⟨hr.begins, hr⟩

structure Safe (p : Pipe ω) : Prop where
  filter : ∀ line, p.filter line ≠ .crash
  report : ∀ failure, p.report failure = none
  writer : p.writer.Willing

theorem Safe.step {p : Pipe ω} (h : p.Safe) {r s : Run (Lines ω)} (hs : p.Step r s)
    (hr : (∀ w ∈ r.workers, w.isLost = false) ∧ r.drain.Healthy) :
    (∀ w ∈ s.workers, w.isLost = false) ∧ s.drain.Healthy := by
  obtain ⟨elapsed, hs⟩ := hs
  refine ⟨?_, hs.moves.healthy (Lines.reliable_of_willing h.writer) hr.2⟩
  cases hs.moves with
  | work hw hm =>
      intro u hu
      rcases List.mem_or_eq_of_mem_set hu with hu | rfl
      · exact hr.1 u hu
      · exact hm.not_lost h.report
  | advance | closeOutput | produce | drain => exact hr.1

theorem Safe.keeps {p : Pipe ω} (h : p.Safe) {r : Run (Lines ω)} (hr : p.Reachable r) :
    (∀ w ∈ r.workers, w.isLost = false) ∧ r.drain.Healthy := by
  induction hr with
  | refl =>
      refine ⟨?_, rfl, by simp [start, Run.start]⟩
      intro w hw
      obtain ⟨_, rfl⟩ := List.mem_replicate.1 hw
      rfl
  | tail _ hs ih => exact h.step hs ih

theorem Safe.returns {p : Pipe ω} (h : p.Safe) {r : Run (Lines ω)} (hr : p.Reachable r) :
    ∃ report, r.result = .ok report := by
  obtain ⟨halive, hhealthy⟩ := h.keeps hr
  have hfeed : r.feed.cursor ≠ .lost := by
    intro hl
    obtain ⟨item, -, hc⟩ := hr.kept.feed.lost hl
    exact h.filter item hc
  rw [Run.result, Feed.result_of_not_lost hfeed, Pool.join, Pool.firstLost?_eq_none_iff.2 halive,
    Drain.result_of_not_lost (not_exists.2 hhealthy.2), hhealthy.1]
  exact ⟨_, rfl⟩

/-- For every stream, filter, model and configuration, every number of workers and every order of the
steps of the threads, and however long each call takes: the run ends; it returns a report if nothing
crashes and the writer takes everything; and if it returns one, the written text is the results as lines,
and they are renderings of the submitted items that can be classified. -/
theorem every_page_framed (p : Pipe ω) {files : FileTree} {path : String}
    (h : ClassNames.load files path = .ok p.classifier.classes) :
    Concludes p.Step (fun r => r.stage = .done ∧ (∀ report, r.result = .ok report → p.Framed r report) ∧
      (p.Safe → ∃ report, r.result = .ok report)) p.start := by
  refine .of_measure Run.work (fun r s ⟨_, hs⟩ => hs.next.work_lt) fun r hr hn => ?_
  have hr : p.Reachable r := hr
  have hd := hr.possible.orderly.done_of_settled (p.plan ⟨0, 0⟩) fun s hs => hn s ⟨_, hs⟩
  exact ⟨hd, fun report hresult => hr.framed hd (ClassNames.newline_notMem_names h) hresult,
    fun hsafe => hsafe.returns hr⟩

/-- An image comes twice, and between its lines stands one that is no path. -/
def lightTable : Pipe Writer.Progress where
  workers := 2
  stream := { chunks := [[97, 46, 112], [112, 109, 10, 255, 10, 97, 46, 112, 112, 109]] }
  classifier := ⟨Classifier.darkroom, .ofList ["cat", "dog"], .fixed ⟨8, 8⟩ [0], {}⟩
  writer := .limited {}
  state := {}

theorem every_page_framed_lightTable :
    ClassNames.load Classifier.darkroom "names" = .ok lightTable.classifier.classes ∧ lightTable.Safe ∧
    lightTable.submissions = ["a.ppm", "\uFFFD", "a.ppm"] ∧
    lightTable.submissions.filter lightTable.classifier.classifies = ["a.ppm", "a.ppm"] ∧
    Concludes lightTable.Step (fun r => r.stage = .done ∧
      (∀ report, r.result = .ok report → lightTable.Framed r report) ∧
      (lightTable.Safe → ∃ report, r.result = .ok report)) lightTable.start := by
  have hload : ClassNames.load Classifier.darkroom "names" = .ok lightTable.classifier.classes := by
    have hread : Classifier.darkroom.read? "names" = some [99, 97, 116, 13, 10, 100, 111, 103] := by decide
    have htext : Text.Utf8.decode? [99, 97, 116, 13, 10, 100, 111, 103] = some "cat\r\ndog".toList := by
      decide +kernel
    simp only [ClassNames.load, hread, htext]
    rfl
  have hsafe : lightTable.Safe := ⟨fun _ => Verdict.noConfusion, fun _ => rfl, Writer.willing_limited⟩
  have hsubmissions : lightTable.submissions = ["a.ppm", "\uFFFD", "a.ppm"] := by decide +kernel
  have himage : lightTable.classifier.classifies "a.ppm" = true := by
    have hi : lightTable.classifier.files.loadImage lightTable.classifier.config.maxFileSize "a.ppm" = _ :=
      Classifier.loadImage_darkroom
    simp only [Classifier.classifies, Classifier.classify, hi]
    rfl
  have hnone : lightTable.classifier.classifies "\uFFFD" = false := by
    have hread : lightTable.classifier.files.read? "\uFFFD" = none := by decide
    simp only [Classifier.classifies, Classifier.classify, FileTree.loadImage, hread]
  refine ⟨hload, hsafe, hsubmissions, ?_, every_page_framed lightTable hload⟩
  rw [hsubmissions]
  simp [himage, hnone]

end Pipe

end BatchClassifier
