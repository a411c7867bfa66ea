import BatchClassifier.Proofs.Text.Newline

namespace BatchClassifier

namespace Text

variable {text : List Char}

theorem lineText_concat (text : List Char) : lineText (text ++ ['\n']) = chop '\r' text := by
  rw [lineText, if_pos List.getLast?_concat, List.dropLast_concat]

theorem lines_newline (hn : '\n' ∉ text) (rest : List Char) :
    lines (text ++ '\n' :: rest) = chop '\r' text :: lines rest := by
  rw [lines, cutAfter_ended (beq_eq_false_of_notMem hn) (beq_self_eq_true '\n'), List.map_cons, lineText_concat,
    lines]

theorem lines_tail (hn : '\n' ∉ text) (ht : text ≠ []) : lines text = [text] := by
  have hl : text.getLast? ≠ some '\n' := fun hl => hn (List.mem_of_getLast? hl)
  rw [lines, cutAfter_unended (beq_eq_false_of_notMem hn) ht, List.map_singleton, lineText, if_neg hl]

end Text

namespace ClassNames

inductive Ending
  | newline
  | returned
deriving DecidableEq

def Ending.chars : Ending → List Char
  | .newline => ['\n']
  | .returned => ['\r', '\n']

/-- A name on a line of its own. A newline alone would take a carriage return of the name with it. -/
structure Line where
  name : String
  ending : Ending
  newline_notMem : '\n' ∉ name.toList
  unreturned : ending = .newline → name.toList.getLast? ≠ some '\r'

/-- A name at the end of a file, without any line end, so it may well end in a carriage return. -/
structure Tail where
  name : String
  newline_notMem : '\n' ∉ name.toList
  ne_empty : name ≠ ""

structure Listing where
  lines : List Line := []
  tail : Option Tail := none

def Line.text (l : Line) : List Char := l.name.toList ++ l.ending.chars

namespace Listing

def names (l : Listing) : List String := l.lines.map Line.name ++ l.tail.toList.map Tail.name

def text (l : Listing) : List Char := l.lines.flatMap Line.text ++ l.tail.toList.flatMap fun t => t.name.toList

end Listing

theorem Line.lines_text_append (l : Line) (rest : List Char) :
    Text.lines (l.text ++ rest) = l.name.toList :: Text.lines rest := by
  rw [Line.text, List.append_assoc]
  cases he : l.ending with
  | newline =>
      have hchop : Text.chop '\r' l.name.toList = l.name.toList := if_neg (l.unreturned he)
      exact (Text.lines_newline l.newline_notMem rest).trans (by rw [hchop])
  | returned =>
      have hn : '\n' ∉ l.name.toList ++ ['\r'] := by
        rw [List.mem_append, not_or]
        exact ⟨l.newline_notMem, by decide⟩
      have hlines := Text.lines_newline hn rest
      rwa [Text.chop_concat, List.append_assoc] at hlines

theorem Tail.lines_text (t : Tail) : Text.lines t.name.toList = [t.name.toList] :=
  Text.lines_tail t.newline_notMem fun h => t.ne_empty (String.toList_eq_nil_iff.1 h)

theorem Listing.lines_text (l : Listing) : Text.lines l.text = l.names.map String.toList := by
  obtain ⟨lines, tail⟩ := l
  induction lines with
  | nil =>
      cases tail with
      | none => rfl
      | some t => simpa [text, names] using t.lines_text
  | cons line lines ih =>
      have htext : text ⟨line :: lines, tail⟩ = line.text ++ text ⟨lines, tail⟩ := by
        rw [text, List.flatMap_cons, List.append_assoc]
        rfl
      rw [htext, line.lines_text_append, ih]
      rfl

theorem ofText_text (l : Listing) : ofText l.text = ofList l.names := by
  rw [ofText, l.lines_text, List.map_map]
  exact congrArg ofList ((List.map_congr_left fun name _ => String.ofList_toList).trans (List.map_id l.names))

theorem length_ofList (names : List String) : (ofList names).length = names.length := List.size_toArray

theorem get?_ofList (names : List String) (i : Nat) : (ofList names).get? i = names[i]? := List.getElem?_toArray

/-- A file of names is loaded as the names that it lists, empty ones too, with each under its number. What
no line is for has a made-up name. -/
theorem listing_loaded (l : Listing) {files : FileTree} {path : String}
    (hf : files.read? path = some (Text.Utf8.encode l.text)) :
    ∃ classes, load files path = .ok classes ∧ classes.names.toList = l.names ∧
      classes.length = l.names.length ∧
      (∀ i (h : i < l.names.length), classes.get? i = some l.names[i] ∧ classes.label i = l.names[i]) ∧
      ∀ i, l.names.length ≤ i → classes.get? i = none ∧ classes.label i = "class_" ++ toString i := by
  have hload : load files path = .ok (ofList l.names) := by
    simp only [load, hf, Text.Utf8.decode?_encode, ofText_text]
  refine ⟨ofList l.names, hload, List.toList_toArray, length_ofList l.names, fun i h => ?_, fun i h => ?_⟩
  · have hget : (ofList l.names).get? i = some l.names[i] :=
      (get?_ofList l.names i).trans (List.getElem?_eq_getElem h)
    exact ⟨hget, by rw [label, hget, Option.getD_some]⟩
  · have hget : (ofList l.names).get? i = none := (get?_ofList l.names i).trans (List.getElem?_eq_none h)
    exact ⟨hget, by rw [label, hget, Option.getD_none]⟩

/-- A carriage return before the end of a line, an empty line, and a last line that is left open behind
another carriage return. -/
theorem listing_loaded_mixed :
    let files : FileTree := ⟨[(["names".toList], .file [97, 13, 13, 10, 10, 195, 169, 13])]⟩
    ∃ classes, load files "names" = .ok classes ∧ classes.length = 3 ∧ classes.label 0 = "a\r" ∧
      classes.get? 1 = some "" ∧ classes.label 2 = "é\r" ∧ classes.get? 3 = none ∧
      classes.label 3 = "class_3" := by
  intro files
  let l : Listing :=
    { lines :=
        [{ name := "a\r", ending := .returned, newline_notMem := by decide, unreturned := by decide },
          { name := "", ending := .newline, newline_notMem := by decide, unreturned := by decide }]
      tail := some { name := "é\r", newline_notMem := by decide, ne_empty := by decide } }
  have hf : files.read? "names" = some (Text.Utf8.encode l.text) := by decide
  obtain ⟨classes, hload, -, hlength, hnamed, hmade⟩ := listing_loaded l hf
  obtain ⟨hget, hlabel⟩ := hmade 3 (by decide)
  exact ⟨classes, hload, hlength, (hnamed 0 (by decide)).2, (hnamed 1 (by decide)).1, (hnamed 2 (by decide)).2,
    hget, hlabel⟩

end ClassNames

end BatchClassifier
