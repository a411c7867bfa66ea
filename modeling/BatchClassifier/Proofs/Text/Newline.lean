import BatchClassifier.ClassNames
import BatchClassifier.Proofs.Stream.Lines
import BatchClassifier.Proofs.Text.Utf8

namespace BatchClassifier

namespace Text

variable {α : Type} {ends : α → Bool}

theorem eq_false_of_mem_dropLast {l piece : List α} (h : piece ∈ cutAfter ends l) {a : α}
    (ha : a ∈ piece.dropLast) : ends a = false := by
  induction l generalizing piece with
  | nil => simp [cutAfter] at h
  | cons b rest ih =>
      rw [cutAfter] at h
      split at h
      · rcases List.mem_cons.1 h with rfl | h
        · simp at ha
        · exact ih h ha
      · rename_i hb
        split at h
        · obtain rfl := List.mem_singleton.1 h
          simp at ha
        · rename_i first more hcut
          rcases List.mem_cons.1 h with rfl | h
          · cases first with
            | nil => simp at ha
            | cons c first =>
                rcases List.mem_cons.1 ha with rfl | ha
                · exact Bool.eq_false_iff.2 hb
                · exact ih (hcut ▸ List.mem_cons_self) ha
          · exact ih (hcut ▸ List.mem_cons_of_mem first h) ha

theorem chop_subset [DecidableEq α] (a : α) (l : List α) : chop a l ⊆ l := by
  rw [chop]
  split
  · exact List.dropLast_subset l
  · exact List.Subset.refl l

@[simp] theorem chop_concat [DecidableEq α] (l : List α) (a : α) : chop a (l ++ [a]) = l := by
  simp [chop]

theorem chop_of_notMem [DecidableEq α] {l : List α} {a : α} (h : a ∉ l) : chop a l = l := by
  rw [chop, if_neg]
  exact fun hl => h (List.mem_of_getLast? hl)

theorem newline_notMem_lineText {text piece : List Char} (h : piece ∈ cutAfter (· == '\n') text) :
    '\n' ∉ lineText piece := by
  have hinner : '\n' ∉ piece.dropLast := fun hm => absurd (eq_false_of_mem_dropLast h hm) (by decide)
  rw [lineText]
  split
  · exact fun hm => hinner (chop_subset '\r' _ hm)
  · rename_i hl
    intro hm
    have hne : piece ≠ [] := List.ne_nil_of_mem hm
    rw [← List.dropLast_append_getLast hne] at hm
    rcases List.mem_append.1 hm with hm | hm
    · exact hinner hm
    · rw [List.getLast?_eq_some_getLast hne] at hl
      exact hl (congrArg some (List.mem_singleton.1 hm).symm)

theorem newline_notMem_lines {text line : List Char} (h : line ∈ lines text) : '\n' ∉ line := by
  obtain ⟨piece, hpiece, rfl⟩ := List.mem_map.1 h
  exact newline_notMem_lineText hpiece

theorem newline_notMem_toString (n : Nat) : '\n' ∉ (toString n).toList := by
  intro hm
  have hdigit : '\n'.isDigit = true := Nat.isDigit_of_mem_toDigits (b := 10) (by decide) (by decide) (by
    simpa [toString, Nat.repr] using hm)
  exact absurd hdigit (by decide)

theorem cutAfter_written {texts : List (List Char)} (h : ∀ text ∈ texts, '\n' ∉ text) :
    cutAfter (· == '\n') (texts.flatMap (· ++ ['\n'])) = texts.map (· ++ ['\n']) := by
  induction texts with
  | nil => rfl
  | cons text texts ih =>
      have htext : ∀ c ∈ text, (c == '\n') = false := beq_eq_false_of_notMem (h text List.mem_cons_self)
      have hrest := ih fun other ho => h other (List.mem_cons_of_mem text ho)
      rw [List.flatMap_cons, List.append_assoc, List.singleton_append, cutAfter_ended htext rfl, hrest,
        List.map_cons]

end Text

namespace Stream

theorem Parted.exists_of_mem {bytes tail line : List UInt8} {lines : List (List UInt8)}
    (h : Parted bytes lines tail) (hl : line ∈ lines) : ∃ text, newline ∉ text ∧ line = text ++ [newline] := by
  induction h with
  | tail => exact absurd hl List.not_mem_nil
  | line hn _ ih =>
      rcases List.mem_cons.1 hl with rfl | hl
      · exact ⟨_, hn, rfl⟩
      · exact ih hl

theorem exists_of_mem_lines {s : Stream} {line : List UInt8} (h : line ∈ s.lines) :
    ∃ text, newline ∉ text ∧ (line = text ++ [newline] ∨ line = text) := by
  have hp := parted_readLines s.reads
  have hparts : line ∈ (readLines s.reads).1 ∨ line = (readLines s.reads).2 := by
    simp only [lines] at h
    split at h
    · exact .inl h
    · exact (List.mem_append.1 h).imp_right List.mem_singleton.1
  rcases hparts with hl | rfl
  · obtain ⟨text, hn, rfl⟩ := hp.exists_of_mem hl
    exact ⟨text, hn, .inl rfl⟩
  · exact ⟨_, hp.not_mem_tail, .inr rfl⟩

theorem newline_notMem_decodeLine {s : Stream} {line : List UInt8} (h : line ∈ s.lines) :
    '\n' ∉ (decodeLine line).toList := by
  obtain ⟨text, hn, hline⟩ := exists_of_mem_lines h
  have hchop : Text.chop newline line = text := by
    rcases hline with rfl | rfl
    · exact Text.chop_concat text newline
    · exact Text.chop_of_notMem hn
  rw [decodeLine, hchop, String.toList_ofList]
  intro hm
  exact hn (Text.chop_subset carriageReturn text (Text.Utf8.newline_mem_of_decodeLossy hm))

end Stream

namespace ClassNames

theorem newline_notMem_ofText (text : List Char) : ∀ name ∈ (ofText text).names, '\n' ∉ name.toList := by
  intro name hn
  obtain ⟨line, hl, rfl⟩ := List.mem_map.1 (List.mem_toArray.1 hn)
  rw [String.toList_ofList]
  exact Text.newline_notMem_lines hl

theorem newline_notMem_names {files : FileTree} {path : String} {classes : ClassNames}
    (h : load files path = .ok classes) : ∀ name ∈ classes.names, '\n' ∉ name.toList := by
  rw [load] at h
  split at h
  · cases h
  · split at h <;> cases h
    exact newline_notMem_ofText _

theorem newline_notMem_label {classes : ClassNames} (h : ∀ name ∈ classes.names, '\n' ∉ name.toList)
    (index : Nat) : '\n' ∉ (classes.label index).toList := by
  rw [label, get?]
  cases hname : classes.names[index]? with
  | none =>
      rw [Option.getD_none, String.toList_append, List.mem_append]
      rintro (hm | hm)
      · exact absurd hm (by decide)
      · exact Text.newline_notMem_toString index hm
  | some name => exact h name (Array.mem_of_getElem? hname)

end ClassNames

end BatchClassifier
