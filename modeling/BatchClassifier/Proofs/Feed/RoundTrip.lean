import BatchClassifier.Proofs.Feed.Reading
import BatchClassifier.Proofs.Text.Newline

namespace BatchClassifier

namespace Text

def Unreturned (text : String) : Prop := text.toList.getLast? ≠ some '\r'

instance (text : String) : Decidable (Unreturned text) :=
  inferInstanceAs (Decidable (text.toList.getLast? ≠ some '\r'))

/-- Texts without newlines as lines. A newline alone would not do behind a carriage return, and no line is
left open but the last one, if there is anything on it. -/
inductive Written : List String → List Char → Prop
  | nil : Written [] []
  | tail {text : String} (hn : '\n' ∉ text.toList) (hr : Unreturned text) (ht : text ≠ "") :
      Written [text] text.toList
  | newline {text : String} {texts : List String} {chars : List Char} (hn : '\n' ∉ text.toList)
      (hr : Unreturned text) (h : Written texts chars) : Written (text :: texts) (text.toList ++ '\n' :: chars)
  | returned {text : String} {texts : List String} {chars : List Char} (hn : '\n' ∉ text.toList)
      (h : Written texts chars) : Written (text :: texts) (text.toList ++ '\r' :: '\n' :: chars)

theorem newline_notMem_encode {text : List Char} (h : '\n' ∉ text) : Stream.newline ∉ Utf8.encode text :=
  fun hm => h (Utf8.mem_of_mem_encode hm (by decide))

end Text

namespace Stream

open Text

theorem decodeLine_of_chop {line : List UInt8} {text : String}
    (h : chop carriageReturn (chop newline line) = Utf8.encode text.toList) : decodeLine line = text := by
  rw [decodeLine, h, Utf8.decodeLossy_encode, String.ofList_toList]

theorem chop_encode {text : String} (hr : Unreturned text) :
    chop carriageReturn (Utf8.encode text.toList) = Utf8.encode text.toList := by
  rw [chop, if_neg]
  intro hl
  exact hr (Utf8.getLast?_of_getLast?_encode hl (by decide))

theorem decodeLine_tail {text : String} (hn : '\n' ∉ text.toList) (hr : Unreturned text) :
    decodeLine (Utf8.encode text.toList) = text := by
  apply decodeLine_of_chop
  rw [chop_of_notMem (newline_notMem_encode hn), chop_encode hr]

theorem decodeLine_newline {text : String} (hr : Unreturned text) :
    decodeLine (Utf8.encode text.toList ++ [newline]) = text := by
  apply decodeLine_of_chop
  rw [chop_concat, chop_encode hr]

theorem decodeLine_returned (text : String) :
    decodeLine (Utf8.encode text.toList ++ [carriageReturn] ++ [newline]) = text := by
  apply decodeLine_of_chop
  rw [chop_concat, chop_concat]

theorem map_decodeLine_pieces {texts : List String} {chars : List Char} (h : Written texts chars) :
    (pieces (Utf8.encode chars)).map decodeLine = texts := by
  induction h with
  | nil => rfl
  | @tail text hn hr ht =>
      have hb : Utf8.encode text.toList ≠ [] := by
        intro hb
        have hempty := Utf8.decodeLossy_encode text.toList
        rw [hb, Utf8.decodeLossy, Utf8.decode, List.map_nil] at hempty
        exact ht (String.toList_eq_nil_iff.1 hempty.symm)
      rw [pieces_tail (newline_notMem_encode hn) hb, List.map_singleton, decodeLine_tail hn hr]
  | @newline text texts chars hn hr h ih =>
      have hbytes : Utf8.encode (text.toList ++ '\n' :: chars) =
          Utf8.encode text.toList ++ newline :: Utf8.encode chars := Utf8.encode_append _ _
      rw [hbytes, pieces_line (newline_notMem_encode hn), List.map_cons, decodeLine_newline hr, ih]
  | @returned text texts chars hn h ih =>
      have hbytes : Utf8.encode (text.toList ++ '\r' :: '\n' :: chars) =
          Utf8.encode text.toList ++ [carriageReturn] ++ newline :: Utf8.encode chars := by
        rw [Utf8.encode_append, List.append_assoc]
        rfl
      have hline : newline ∉ Utf8.encode text.toList ++ [carriageReturn] := by
        intro hm
        rcases List.mem_append.1 hm with hm | hm
        · exact newline_notMem_encode hn hm
        · exact absurd (List.mem_singleton.1 hm) (by decide)
      rw [hbytes, pieces_line hline, List.map_cons, decodeLine_returned, ih]

end Stream

namespace Feed

/-- Written texts are queued as they were, whatever their lines end in, however the bytes arrive and
however many of them are buffered at once. -/
theorem written_texts_queued {texts : List String} {chars : List Char} (h : Text.Written texts chars)
    {s : Stream} (hc : 0 < s.capacity) (hn : s.fault = none) (hb : s.bytes = Text.Utf8.encode chars) :
    outcome .acceptAll (.lines s) = (.sealing texts, .ok texts.length) := by
  have hall : ∀ line ∈ texts, Filter.acceptAll line ≠ .crash := fun line _ => Verdict.noConfusion
  have hself : texts.filter (fun line => Filter.acceptAll line = .accept) = texts :=
    List.filter_eq_self.2 fun line _ => rfl
  rw [outcome_lines, Stream.lines_eq_of_ended hc hn, hb, Stream.map_decodeLine_pieces h, harvest_of_returns hall,
    hself]

/-- A carriage return before the end of a line, an empty line, two bytes of one character in different
chunks, and no newline at the end. -/
theorem written_texts_queued_mixed :
    let s : Stream := { chunks := [[97, 13, 13], [10, 10, 195], [169, 10, 98]], capacity := 2 }
    Text.Written ["a\r", "", "é", "b"] ['a', '\r', '\r', '\n', '\n', 'é', '\n', 'b'] ∧
    0 < s.capacity ∧ s.fault = none ∧ s.bytes = Text.Utf8.encode ['a', '\r', '\r', '\n', '\n', 'é', '\n', 'b'] ∧
    outcome .acceptAll (.lines s) = (.sealing ["a\r", "", "é", "b"], .ok 4) := by
  intro s
  have hc : 0 < s.capacity := by decide
  have hb : s.bytes = Text.Utf8.encode ['a', '\r', '\r', '\n', '\n', 'é', '\n', 'b'] := by decide
  have hwritten : Text.Written ["a\r", "", "é", "b"] ['a', '\r', '\r', '\n', '\n', 'é', '\n', 'b'] :=
    .returned (by decide) (.newline (by decide) (by decide)
      (.newline (by decide) (by decide) (.tail (by decide) (by decide) (by decide))))
  exact ⟨hwritten, hc, rfl, hb, written_texts_queued hwritten hc rfl hb⟩

end Feed

end BatchClassifier
