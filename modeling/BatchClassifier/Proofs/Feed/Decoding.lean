import BatchClassifier.Proofs.Feed.Reading
import BatchClassifier.Proofs.Text.Replacement

namespace BatchClassifier

namespace Text

variable {α : Type} {ends : α → Bool}

/-- What the lines of a text say: each of them without its newline, and then without one carriage return. -/
def entries (text : List Char) : List String :=
  (cutAfter (· == '\n') text).map fun line => String.ofList (chop '\r' (chop '\n' line))

theorem cutAfter_append_ended (l : List α) {stop : α} (hs : ends stop = true) (rest : List α) :
    cutAfter ends (l ++ stop :: rest) = cutAfter ends (l ++ [stop]) ++ cutAfter ends rest := by
  induction l with
  | nil => simp [cutAfter, hs]
  | cons a l ih =>
      rw [List.cons_append, List.cons_append, cutAfter, cutAfter, ih]
      split
      · rfl
      · -- There is a piece to put `a` in front of, as the terminator is still to come.
        cases hcut : cutAfter ends (l ++ [stop]) with
        | nil =>
            have hflat := flatten_cutAfter ends (l ++ [stop])
            simp [hcut] at hflat
        | cons piece more => rfl

theorem entries_append_newline (text rest : List Char) :
    entries (text ++ '\n' :: rest) = entries (text ++ ['\n']) ++ entries rest := by
  have hcut : cutAfter (· == '\n') (text ++ '\n' :: rest) = _ := cutAfter_append_ended text rfl rest
  rw [entries, hcut, List.map_append]
  rfl

end Text

namespace Stream

open Text

theorem decodeLossy_append_newline (bytes rest : List UInt8) :
    Utf8.decodeLossy (bytes ++ newline :: rest) = Utf8.decodeLossy bytes ++ '\n' :: Utf8.decodeLossy rest :=
  Utf8.decodeLossy_append_ascii (by decide) bytes rest

theorem decodeLossy_concat_newline (bytes : List UInt8) :
    Utf8.decodeLossy (bytes ++ [newline]) = Utf8.decodeLossy bytes ++ ['\n'] :=
  Utf8.decodeLossy_concat_ascii (by decide) bytes

theorem decodeLine_eq (line : List UInt8) :
    decodeLine line = String.ofList (chop '\r' (chop '\n' (Utf8.decodeLossy line))) := by
  have hr : Utf8.decodeLossy (chop carriageReturn (chop newline line)) =
      chop '\r' (Utf8.decodeLossy (chop newline line)) := Utf8.decodeLossy_chop (by decide) _
  have hn : Utf8.decodeLossy (chop newline line) = chop '\n' (Utf8.decodeLossy line) :=
    Utf8.decodeLossy_chop (by decide) line
  rw [decodeLine, hr, hn]

theorem ends_decodeLossy {bytes : List UInt8} (h : newline ∉ bytes) :
    ∀ c ∈ Utf8.decodeLossy bytes, (c == '\n') = false := by
  intro c hc
  rw [beq_eq_false_iff_ne]
  rintro rfl
  exact h (Utf8.newline_mem_of_decodeLossy hc)

theorem decodeLossy_ne_nil {bytes : List UInt8} (h : bytes ≠ []) : Utf8.decodeLossy bytes ≠ [] := by
  obtain ⟨b, rest, rfl⟩ := List.exists_cons_of_ne_nil h
  rw [Utf8.decodeLossy, Utf8.decode]
  exact List.cons_ne_nil _ _

theorem Parted.cutAfter_decodeLossy {bytes tail : List UInt8} {lines : List (List UInt8)}
    (h : Parted bytes lines tail) :
    cutAfter (· == '\n') (Utf8.decodeLossy bytes) = (pieces bytes).map Utf8.decodeLossy := by
  induction h with
  | @tail bytes h =>
      by_cases hb : bytes = []
      · rw [hb, Utf8.decodeLossy_nil]
        rfl
      · rw [pieces_tail h hb, cutAfter_unended (ends_decodeLossy h) (decodeLossy_ne_nil hb)]
        rfl
  | @line text bytes lines tail h _ ih =>
      rw [pieces_line h, decodeLossy_append_newline, cutAfter_ended (ends_decodeLossy h) rfl, ih, List.map_cons,
        decodeLossy_concat_newline]

theorem map_decodeLine_lines {s : Stream} (hc : 0 < s.capacity) (hn : s.fault = none) :
    s.lines.map decodeLine = entries (Utf8.decodeLossy s.bytes) := by
  have hp := parted_readLines s.reads
  rw [flatten_reads hc] at hp
  rw [lines_eq_of_ended hc hn, entries, hp.cutAfter_decodeLossy, List.map_map]
  exact List.map_congr_left fun line _ => decodeLine_eq line

end Stream

namespace Filter

variable (p : Item → Bool) (item : Item)

theorem ofBool_ne_crash : ofBool p item ≠ .crash := by
  rw [ofBool]
  split <;> exact Verdict.noConfusion

theorem ofBool_eq_accept_iff : ofBool p item = .accept ↔ p item = true := by
  rw [ofBool]
  cases p item <;> simp

end Filter

namespace Feed

theorem outcome_ofBool {s : Stream} (hc : 0 < s.capacity) (hn : s.fault = none) (p : Item → Bool) :
    outcome (.ofBool p) (.lines s) = (.sealing ((Text.entries (Text.Utf8.decodeLossy s.bytes)).filter p),
      .ok ((Text.entries (Text.Utf8.decodeLossy s.bytes)).filter p).length) := by
  have haccept : (fun line => decide (Filter.ofBool p line = .accept)) = p := by
    funext line
    rw [Bool.eq_iff_iff, decide_eq_true_iff, Filter.ofBool_eq_accept_iff]
  rw [outcome_lines, Stream.map_decodeLine_lines hc hn, harvest_of_returns fun line _ => Filter.ofBool_ne_crash p line,
    haccept]

theorem outcome_acceptAll {s : Stream} (hc : 0 < s.capacity) (hn : s.fault = none) :
    outcome .acceptAll (.lines s) = (.sealing (Text.entries (Text.Utf8.decodeLossy s.bytes)),
      .ok (Text.entries (Text.Utf8.decodeLossy s.bytes)).length) := by
  have hread := outcome_ofBool hc hn fun _ => true
  rw [List.filter_true] at hread
  exact hread

/-- The producer queues what one would read on the lines of the text if all bytes were decoded first, with
one replacement character for each ill-formed part. So what is read up to a newline and what is read after
it have nothing to do with one another. -/
theorem decoded_before_cut {s : Stream} (hc : 0 < s.capacity) (hn : s.fault = none) :
    (∀ text, Text.Utf8.Replaced s.bytes text ↔ text = Text.Utf8.decodeLossy s.bytes) ∧
    outcome .acceptAll (.lines s) = (.sealing (Text.entries (Text.Utf8.decodeLossy s.bytes)),
      .ok (Text.entries (Text.Utf8.decodeLossy s.bytes)).length) ∧
    ∀ before after, s.bytes = before ++ Stream.newline :: after →
      (outcome .acceptAll (.lines s)).1.items =
        (outcome .acceptAll (.lines (.ofBytes (before ++ [Stream.newline])))).1.items ++
          (outcome .acceptAll (.lines (.ofBytes after))).1.items := by
  refine ⟨fun text => Text.Utf8.replaced_iff, outcome_acceptAll hc hn, fun before after hb => ?_⟩
  have hwhole : ∀ bytes, (outcome .acceptAll (.lines (.ofBytes bytes))).1.items =
      Text.entries (Text.Utf8.decodeLossy bytes) := by
    intro bytes
    have hcapacity : 0 < (Stream.ofBytes bytes).capacity := Nat.zero_lt_succ 8191
    have hbytes : (Stream.ofBytes bytes).bytes = bytes := List.flatten_singleton
    rw [outcome_acceptAll hcapacity rfl, hbytes]
    rfl
  rw [outcome_acceptAll hc hn, hwhole, hwhole, hb, Stream.decodeLossy_append_newline,
    Stream.decodeLossy_concat_newline]
  exact Text.entries_append_newline _ _

/-- A character that the end of a line cuts off, a carriage return after an ill-formed byte, a surrogate, and
a character that the end of the stream cuts off. -/
theorem decoded_before_cut_truncated :
    let s : Stream := { chunks := [[97, 0xE2, 0x82], [10, 0xFF, 13, 10, 0xED], [0xA0, 0x80, 10, 0xF0, 0x9F, 0x98]],
                        capacity := 3 }
    0 < s.capacity ∧ s.fault = none ∧
    outcome .acceptAll (.lines s) = (.sealing ["a\uFFFD", "\uFFFD", "\uFFFD\uFFFD\uFFFD", "\uFFFD"], .ok 4) := by
  intro s
  have hc : 0 < s.capacity := by decide
  have hread := (decoded_before_cut hc rfl).2.1
  have hentries : Text.entries (Text.Utf8.decodeLossy s.bytes) =
      ["a\uFFFD", "\uFFFD", "\uFFFD\uFFFD\uFFFD", "\uFFFD"] := by decide +kernel
  rw [hentries] at hread
  exact ⟨hc, rfl, hread⟩

end Feed

end BatchClassifier
