import BatchClassifier.Proofs.Sink.Lines

namespace BatchClassifier

variable {ω : Type}

namespace Drain

open Writer (Act Ends takenIn)

structure Paged (d : Drain (Lines ω)) (f : Floor) : Prop where
  whole : d.fault = none → d.state.taken = Lines.page f.emittedTexts
  first : Lines.page f.emittedTexts <+: d.state.taken
  last : d.state.taken <+: Lines.page (f.receivedTexts.take (d.emitted + 1))

section

variable {w : Writer ω} {first : Lines ω} {d e : Drain (Lines ω)} {f g : Floor}

theorem Paged.of_taken (h : d.Paged f) (ht : e.state.taken = d.state.taken) (hn : e.emitted = d.emitted)
    (hf : e.fault = none → d.fault = none) (he : g.emittedTexts = f.emittedTexts)
    (hr : f.receivedTexts <+: g.receivedTexts) : e.Paged g where
  whole hw := by rw [ht, he, h.whole (hf hw)]
  first := by rw [ht, he]; exact h.first
  last := by rw [ht, hn]; exact h.last.trans (Lines.page_prefix (hr.take _))

theorem received_of_holding {text : String} (hd : d.Careful) (ha : d.Accounts (Sink.lines w) f first)
    (hc : d.cursor = .holding text) :
    d.fault = none ∧ f.receivedTexts = f.emittedTexts ++ [text] ∧
      f.receivedTexts.take (d.emitted + 1) = f.receivedTexts := by
  have hf := hd (.inl ⟨text, hc⟩)
  have hr := ha.received ⟨hf, by simp [hc]⟩
  rw [hc, Cursor.held] at hr
  refine ⟨hf, hr, List.take_of_length_le ?_⟩
  rw [hr, ha.count]
  simp

theorem Moves.paged (hm : d.Moves (Sink.lines w) f e g) (hd : d.Careful)
    (ha : d.Accounts (Sink.lines w) f first) (h : d.Paged f) : e.Paged g := by
  -- Only an emission adds to the page, and the line that it adds is the one that the thread holds.
  cases hm with
  | receive | discard =>
      refine h.of_taken rfl rfl id ?_ ?_
      · simp [Floor.emittedTexts_eq, Floor.note, Floor.events]
      · simp [Floor.receivedTexts, Floor.note, Floor.events]
  | settle | leave => exact h.of_taken rfl rfl id rfl List.prefix_rfl
  | @emit text state hc he =>
      obtain ⟨hf, hreceived, _⟩ := received_of_holding hd ha hc
      have htaken : state.taken = Lines.page (f.emittedTexts ++ [text]) := by
        rw [Lines.taken_of_emit_done he, h.whole hf, Lines.page_concat]
      have hemitted : (f.note (.emitted text)).emittedTexts = f.emittedTexts ++ [text] := by
        simp [Floor.emittedTexts_eq]
      have hsame : (f.note (.emitted text)).receivedTexts = f.receivedTexts := by
        simp [Floor.receivedTexts]
      refine ⟨fun _ => hemitted ▸ htaken, ?_, ?_⟩
      · rw [hemitted, htaken]
      · rw [htaken, hsame, hreceived, List.take_of_length_le (by simp [ha.count])]
  | @emitFail text state fault hc he =>
      obtain ⟨hf, hreceived, hall⟩ := received_of_holding hd ha hc
      obtain ⟨got, htaken, hpart⟩ := Lines.taken_of_emit_failed he
      rw [h.whole hf] at htaken
      refine ⟨(fun h => by cases h), ?_, ?_⟩
      · rw [htaken]
        exact List.prefix_append _ _
      · rw [htaken, hall, hreceived, Lines.page_concat]
        exact (List.prefix_append_right_inj _).2 hpart
  | flush hc he => exact h.of_taken (Lines.taken_of_flush he) rfl id rfl List.prefix_rfl
  | flushFail hc he =>
      exact h.of_taken (Lines.taken_of_flush he) rfl (fun h => by cases h) rfl List.prefix_rfl
  | emitCrash hc he => exact absurd he (Lines.emit_ne_crashed _ _ _ _)
  | flushCrash hc he => exact absurd he (Lines.reply_ne_crashed _ _)

theorem Moves.not_lost (hm : d.Moves (Sink.lines w) f e g) (hd : ∀ crash, d.cursor ≠ .lost crash) :
    ∀ crash, e.cursor ≠ .lost crash := by
  cases hm with
  | discard => exact hd
  | receive | settle | leave | emit | emitFail | flush | flushFail => simp
  | emitCrash hc he => exact absurd he (Lines.emit_ne_crashed _ _ _ _)
  | flushCrash hc he => exact absurd he (Lines.reply_ne_crashed _ _)

end

structure Recorded (d : Drain (Lines (ω × List Act))) : Prop where
  taken : takenIn d.state.writer.2 = d.state.taken
  ends : Ends d.state.writer.2 d.fault

section

variable {w : Writer ω} {d e : Drain (Lines (ω × List Act))} {f g : Floor}

theorem Recorded.next (h : d.Recorded) (hf : d.fault = none)
    {r : Option IoFault × Lines (ω × List Act)} (hr : d.state.Logged r) (ht : e.state = r.2)
    (he : e.fault = r.1) : e.Recorded := by
  obtain ⟨acts, hlog, htaken, hends⟩ := hr
  have hbefore := h.ends
  rw [hf] at hbefore
  constructor
  · rw [ht, hlog, htaken, Writer.takenIn_append, h.taken]
  · rw [ht, he, hlog]
    exact hbefore.append hends

theorem Moves.recorded (hm : d.Moves (Sink.lines w.recorded) f e g) (hd : d.Careful) (h : d.Recorded) :
    e.Recorded := by
  cases hm with
  | receive | discard | settle | leave => exact ⟨h.taken, h.ends⟩
  | emit hc he =>
      have hf := hd (.inl ⟨_, hc⟩)
      have hr := Lines.logged_emit w d.state ‹_›
      rw [Lines.emit_eq] at he
      rw [Lines.reply_eq_done he] at hr
      exact h.next hf hr rfl hf
  | emitFail hc he =>
      have hr := Lines.logged_emit w d.state ‹_›
      rw [Lines.emit_eq] at he
      rw [Lines.reply_eq_failed he] at hr
      exact h.next (hd (.inl ⟨_, hc⟩)) hr rfl rfl
  | flush hc he =>
      have hf := hd (.inr hc)
      have hr := Lines.logged_flush w d.state
      rw [Lines.reply_eq_done he] at hr
      exact h.next hf hr rfl hf
  | flushFail hc he =>
      have hr := Lines.logged_flush w d.state
      rw [Lines.reply_eq_failed he] at hr
      exact h.next (hd (.inr hc)) hr rfl rfl
  | emitCrash hc he => exact absurd he (Lines.emit_ne_crashed _ _ _ _)
  | flushCrash hc he => exact absurd he (Lines.reply_ne_crashed _ _)

end

/-- What holds of the thread at every moment, with the record of its writer. -/
structure Printing (w : Writer ω) (s : ω) (results : List String) (d : Drain (Lines (ω × List Act)))
    (f : Floor) : Prop where
  alone : d.Alone (Sink.lines w.recorded) { writer := (s, []) } results f
  kept : ∀ crash, d.cursor ≠ .lost crash
  paged : d.Paged f
  recorded : d.Recorded

theorem printing_start (w : Writer ω) (s : ω) (results : List String) :
    Printing w s results { state := { writer := (s, []) } } { output := .sealing results } where
  alone := alone_start _ _ results
  kept crash h := by cases h
  paged := ⟨fun _ => rfl, List.prefix_rfl, List.nil_prefix⟩
  recorded := ⟨rfl, .nil⟩

theorem Moves.printing {w : Writer ω} {s : ω} {results : List String} {d e : Drain (Lines (ω × List Act))}
    {f g : Floor} (hm : d.Moves (Sink.lines w.recorded) f e g) (h : Printing w s results d f) :
    Printing w s results e g where
  alone := hm.alone h.alone
  kept := hm.not_lost h.kept
  paged := hm.paged h.alone.careful h.alone.accounts h.paged
  recorded := hm.recorded h.alone.careful h.recorded

def record (w : Writer ω) (s : ω) (results : List String) : List Act :=
  (run (Sink.lines w.recorded) { writer := (s, []) } { output := .sealing results }).1.state.writer.2

/-- What has become of the results when the thread of the sink has come to its end. -/
structure Printed (results : List String) (d : Drain (Lines ω)) (f : Floor) (record : List Act) : Prop where
  finished : d.cursor = .finished
  drained : f.output = .sealing []
  taken : takenIn record = d.state.taken
  moments : ∀ early, early <+: record → takenIn early <+: Lines.page results
  whole : d.fault = none → d.state.taken = Lines.page results ∧ d.emitted = results.length
  count : d.emitted ≤ results.length
  first : Lines.page (results.take d.emitted) <+: d.state.taken
  last : d.state.taken <+: Lines.page (results.take (d.emitted + 1))
  stopped : Ends record d.fault
  steady : (∀ act ∈ record, act.fault? = none) → d.state.taken = Lines.page results

theorem Printing.printed {w : Writer ω} {s : ω} {results : List String} {d : Drain (Lines (ω × List Act))}
    {f : Floor} (h : Printing w s results d f) (ho : d.isOver = true) :
    Printed results (d.map Lines.plain) f d.state.writer.2 := by
  have hfinished := finished_of_isOver h.kept ho
  have hitems := h.alone.drained (.inr hfinished)
  have hreceived : f.receivedTexts = results := by
    have hr := h.alone.received
    rwa [hitems, List.append_nil] at hr
  have hemitted : f.emittedTexts = results.take d.emitted := hreceived ▸ h.alone.emittedTexts_eq
  have hcount : d.emitted = (results.take d.emitted).length := hemitted ▸ h.alone.accounts.count
  have hle : d.emitted ≤ results.length := by
    rw [hcount]
    exact List.length_take_le' _ _
  have hlast := h.paged.last
  rw [hreceived] at hlast
  have hpage : d.state.taken <+: Lines.page results :=
    hlast.trans (Lines.page_prefix (List.take_prefix _ _))
  have hwhole : d.fault = none → d.state.taken = Lines.page results ∧ d.emitted = results.length := by
    intro hf
    have hall := h.alone.accounts.received ⟨hf, h.kept⟩
    have hheld : d.cursor.held = [] := by rw [hfinished]; rfl
    rw [hheld, List.append_nil, hreceived] at hall
    exact ⟨hall ▸ h.paged.whole hf, hall ▸ h.alone.accounts.count⟩
  refine ⟨hfinished, ?_, h.recorded.taken, ?_, hwhole, hle, hemitted ▸ h.paged.first, hlast,
    h.recorded.ends, ?_⟩
  · exact congrArg₂ Queue.mk hitems h.alone.closed
  · intro early hearly
    have ht := Writer.takenIn_prefix hearly
    rw [h.recorded.taken] at ht
    exact ht.trans hpage
  · intro hsteady
    exact (hwhole (h.recorded.ends.eq_none_iff.2 hsteady)).1

/-- Whatever the writer does, the thread of the sink comes to its end and leaves nothing in the queue.
What the writer has taken is at every call a beginning of the lines of all results: all of them if there
is no fault, and otherwise the lines of the emitted results and at most a part of the next. The call that
is the fault is the last one. -/
theorem page_printed (w : Writer ω) (s : ω) (results : List String) :
    Printed results (run (Sink.lines w) { writer := s } { output := .sealing results }).1
      (run (Sink.lines w) { writer := s } { output := .sealing results }).2 (record w s results) := by
  have hprinting := steps_keeps (fun hm h => Moves.printing hm h)
    (2 * results.length + 2) (printing_start w s results)
  have hrun := run_map (Lines.emit_plain w) (Lines.flush_plain w) { writer := (s, []) }
    { output := .sealing results }
  have hover := isOver_run (Sink.lines w.recorded) { writer := (s, []) }
    (f := { output := .sealing results }) rfl
  change run (Sink.lines w) { writer := s } { output := .sealing results } = _ at hrun
  rw [hrun]
  exact hprinting.printed hover

/-- A flush that fails behind a line: two lines are there, but one result counts as emitted. -/
example :
    let w := Writer.limited { chunk := some 1, interrupts := true, flushFault := some (1, .ofKind .brokenPipe) }
    let d := (run (Sink.lines w) { writer := {} } { output := .sealing ["a", "b", "c"] }).1
    (d.emitted, d.state.taken.map UInt8.toNat) = (1, [97, 10, 98, 10]) := by
  cbv

end Drain

end BatchClassifier
