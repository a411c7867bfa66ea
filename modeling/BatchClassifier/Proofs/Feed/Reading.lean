import BatchClassifier.Proofs.Feed.Ending
import BatchClassifier.Proofs.Stream.Lines

namespace BatchClassifier

def Stream.endingWith (s : Stream) (fault : Option IoFault) : Stream := { s with fault }

namespace Feed

variable {filter : Filter} {lines : List Item}

def outcome (filter : Filter) (s : Source) : Queue Item × Except RunError Nat :=
  ((run filter s).2.input, (run filter s).1.result)

def harvest (filter : Filter) (lines : List Item) : Queue Item × Except RunError Nat :=
  (.sealing (admitted filter lines),
    if ∃ line ∈ lines, filter line = .crash then .error (.task .taskCrashed)
    else .ok (admitted filter lines).length)

theorem outcome_lines (filter : Filter) (s : Stream) :
    outcome filter (.lines s) = harvest filter (s.lines.map Stream.decodeLine) := by
  apply Prod.ext
  · exact run_input filter (.lines s)
  · rw [outcome, harvest]
    dsimp only
    split
    · rename_i h
      obtain ⟨line, hl, hv⟩ := h
      exact run_result_of_crash hl hv
    · rename_i h
      exact run_result_of_not_crash fun line hl hv => h ⟨line, hl, hv⟩

theorem outcome_items (filter : Filter) (list : List Item) :
    outcome filter (.items list) = (.sealing list, .ok list.length) := by
  have haccept : ∀ item ∈ (Source.items list).offers, (start (.items list)).verdict filter item ≠ .crash :=
    fun item _ => Verdict.noConfusion
  have hall : admitted ((start (.items list)).verdict filter) (Source.items list).offers = list := by
    have hadmitted := admitted_append haccept []
    rw [admitted, List.append_nil, List.append_nil] at hadmitted
    exact hadmitted.trans (List.filter_eq_self.2 fun item _ => rfl)
  have hqueue := run_input filter (.items list)
  have hresult := run_result_of_not_crash haccept
  rw [hall] at hqueue hresult
  exact Prod.ext hqueue hresult

theorem harvest_of_returns (hf : ∀ line ∈ lines, filter line ≠ .crash) :
    harvest filter lines = (.sealing (lines.filter fun line => filter line = .accept),
      .ok (lines.filter fun line => filter line = .accept).length) := by
  have hn : ¬ ∃ line ∈ lines, filter line = .crash := fun ⟨line, hl, hc⟩ => hf line hl hc
  have ha := admitted_append hf []
  rw [admitted, List.append_nil, List.append_nil] at ha
  rw [harvest, if_neg hn, ha]

theorem harvest_concat_iff {line : Item} : harvest filter lines = harvest filter (lines ++ [line]) ↔
    filter line = .reject ∨ ∃ line ∈ lines, filter line = .crash := by
  -- After a crash the line is not come to; otherwise it is, and only a refusal leaves no trace.
  by_cases hc : ∃ line ∈ lines, filter line = .crash
  · have hc' : ∃ other ∈ lines ++ [line], filter other = .crash := by
      obtain ⟨other, ho, hv⟩ := hc
      exact ⟨other, List.mem_append_left _ ho, hv⟩
    rw [harvest, harvest, if_pos hc, if_pos hc', admitted_append_of_crash hc]
    exact iff_of_true rfl (.inr hc)
  · have hf : ∀ line ∈ lines, filter line ≠ .crash := fun line hl hv => hc ⟨line, hl, hv⟩
    rw [or_iff_left hc, harvest_of_returns hf]
    cases hv : filter line with
    | accept | reject =>
        have hf' : ∀ other ∈ lines ++ [line], filter other ≠ .crash := by
          intro other ho
          rcases List.mem_append.1 ho with ho | ho
          · exact hf other ho
          · simp [List.mem_singleton.1 ho, hv]
        rw [harvest_of_returns hf']
        simp [hv]
    | crash =>
        have hc' : ∃ other ∈ lines ++ [line], filter other = .crash :=
          ⟨line, List.mem_append_right _ (List.mem_singleton_self line), hv⟩
        rw [harvest, if_pos hc']
        simp

def accepted (filter : Filter) (bytes : List UInt8) : List Item :=
  ((Stream.pieces bytes).map Stream.decodeLine).filter fun line => filter line = .accept

/-- For every filter that returns and every stream that just ends: the producer leaves the accepted
lines of its bytes in a closed queue and returns their number. So it does not matter in what chunks
the bytes arrive and how many of them are buffered at once. -/
theorem stream_read_by_lines {filter : Filter} (hf : ∀ line, filter line ≠ .crash) {s : Stream}
    (hc : 0 < s.capacity) (hn : s.fault = none) :
    outcome filter (.lines s) = (.sealing (accepted filter s.bytes), .ok (accepted filter s.bytes).length) ∧
    ∀ t : Stream, 0 < t.capacity → t.fault = none → t.bytes = s.bytes →
      outcome filter (.lines t) = outcome filter (.lines s) := by
  have hread : ∀ t : Stream, 0 < t.capacity → t.fault = none → outcome filter (.lines t) =
      (.sealing (accepted filter t.bytes), .ok (accepted filter t.bytes).length) := by
    intro t hc hn
    rw [outcome_lines, Stream.lines_eq_of_ended hc hn]
    exact harvest_of_returns fun line _ => hf line
  refine ⟨hread s hc hn, ?_⟩
  intro t hct hnt hb
  rw [hread t hct hnt, hread s hc hn, hb]

theorem stream_read_by_lines_split :
    (∀ line, Filter.ofBool (· != "") line ≠ .crash) ∧
    outcome (.ofBool (· != "")) (.lines { chunks := [[97, 13], [10, 98], [10, 10, 99]], capacity := 2 }) =
      (.sealing ["a", "b", "c"], .ok 3) ∧
    outcome (.ofBool (· != "")) (.lines { chunks := [[97], [13, 10, 98, 10, 10], [99]], capacity := 1 }) =
      (.sealing ["a", "b", "c"], .ok 3) := by
  have hf : ∀ line, Filter.ofBool (· != "") line ≠ .crash := by
    intro line
    rw [Filter.ofBool]
    split <;> exact Verdict.noConfusion
  have ha : accepted (.ofBool (· != "")) [97, 13, 10, 98, 10, 10, 99] = ["a", "b", "c"] := by decide +kernel
  obtain ⟨hread, hsame⟩ := stream_read_by_lines hf
    (s := { chunks := [[97, 13], [10, 98], [10, 10, 99]], capacity := 2 }) (by decide) rfl
  have hs := hread.trans (congrArg (fun lines => (Queue.sealing lines, Except.ok lines.length)) ha)
  have ht := hsame { chunks := [[97], [13, 10, 98, 10, 10], [99]], capacity := 1 } (by decide) rfl rfl
  exact ⟨hf, hs, ht.trans hs⟩

/-- A stream that fails is read up to its last newline. That makes no difference to a stream that just
ends there if nothing follows, or if what follows is not accepted or not come to. -/
theorem broken_stream_drops_remainder (filter : Filter) {s : Stream} (hc : 0 < s.capacity) (fault : IoFault) :
    outcome filter (.lines (s.endingWith (some fault))) =
      harvest filter (((Stream.pieces s.bytes).filter Stream.terminated).map Stream.decodeLine) ∧
    (outcome filter (.lines (s.endingWith (some fault))) = outcome filter (.lines (s.endingWith none)) ↔
      Stream.remainder s.bytes = [] ∨ filter (Stream.decodeLine (Stream.remainder s.bytes)) = .reject ∨
      ∃ piece ∈ (Stream.pieces s.bytes).filter Stream.terminated,
        filter (Stream.decodeLine piece) = .crash) := by
  have hbroken := outcome_lines filter (s.endingWith (some fault))
  have hended := outcome_lines filter (s.endingWith none)
  rw [Stream.lines_eq_of_broken (s := s.endingWith (some fault)) hc (Option.some_ne_none fault)] at hbroken
  rw [Stream.lines_eq_of_ended (s := s.endingWith none) hc rfl] at hended
  refine ⟨hbroken, ?_⟩
  rw [hbroken, hended]
  have hp := Stream.parted_readLines s.reads
  rw [Stream.flatten_reads hc] at hp
  change harvest filter (((Stream.pieces s.bytes).filter Stream.terminated).map Stream.decodeLine) =
    harvest filter ((Stream.pieces s.bytes).map Stream.decodeLine) ↔ _
  rw [hp.remainder_eq, hp.filter_pieces, hp.pieces_eq]
  by_cases htail : (Stream.readLines s.reads).2 = []
  · rw [if_pos htail]
    exact iff_of_true rfl (.inl htail)
  · rw [if_neg htail, or_iff_right htail, List.map_append, List.map_singleton, harvest_concat_iff]
    simp only [List.mem_map, exists_exists_and_eq_and]

theorem broken_stream_drops_remainder_tail :
    0 < ({ chunks := [[97, 10, 98]] } : Stream).capacity ∧
    outcome .acceptAll (.lines { chunks := [[97, 10, 98]], fault := some (.ofKind .brokenPipe) }) =
      (.sealing ["a"], .ok 1) ∧
    outcome .acceptAll (.lines { chunks := [[97, 10, 98]], fault := some (.ofKind .brokenPipe) }) ≠
      outcome .acceptAll (.lines { chunks := [[97, 10, 98]] }) := by
  have hc : 0 < ({ chunks := [[97, 10, 98]] } : Stream).capacity := by decide
  obtain ⟨hread, hsame⟩ := broken_stream_drops_remainder .acceptAll hc (.ofKind .brokenPipe)
  have hlines : (((Stream.pieces [97, 10, 98]).filter Stream.terminated).map Stream.decodeLine) = ["a"] := by
    decide +kernel
  refine ⟨hc, hread.trans ?_, ?_⟩
  · exact (congrArg (harvest .acceptAll) hlines).trans (harvest_of_returns (by decide))
  · apply mt hsame.1
    decide +kernel

/-- The last line of this stream has no newline, and it is read only if the stream does not fail. -/
theorem unterminated_line_lost :
    outcome .acceptAll (.lines { chunks := [[97]], fault := some ⟨.other, "pipe broke"⟩ }) ≠
      outcome .acceptAll (.lines { chunks := [[97]] }) := by
  intro h
  have hitems := congrArg (fun o => o.1.items) h
  revert hitems
  decide +kernel

end Feed

end BatchClassifier
