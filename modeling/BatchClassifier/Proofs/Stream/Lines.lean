import BatchClassifier.Proofs.Basic
import BatchClassifier.Stream
import Mathlib.Data.List.DropRight

namespace BatchClassifier

namespace Text

variable {α : Type} {ends : α → Bool} {l : List α}

theorem cutAfter_unended (h : ∀ a ∈ l, ends a = false) (hn : l ≠ []) : cutAfter ends l = [l] := by
  induction l with
  | nil => exact absurd rfl hn
  | cons a l ih =>
      have ha : ends a = false := h a List.mem_cons_self
      have hl : ∀ b ∈ l, ends b = false := fun b hb => h b (List.mem_cons_of_mem a hb)
      by_cases he : l = []
      · subst l
        simp [cutAfter, ha]
      · simp [cutAfter, ha, ih hl he]

theorem cutAfter_ended (h : ∀ a ∈ l, ends a = false) {stop : α} (hs : ends stop = true) (rest : List α) :
    cutAfter ends (l ++ stop :: rest) = (l ++ [stop]) :: cutAfter ends rest := by
  induction l with
  | nil => simp [cutAfter, hs]
  | cons a l ih =>
      have ha : ends a = false := h a List.mem_cons_self
      have hl : ∀ b ∈ l, ends b = false := fun b hb => h b (List.mem_cons_of_mem a hb)
      simp [cutAfter, ha, ih hl]

end Text

namespace Stream

def pieces (bytes : List UInt8) : List (List UInt8) := Text.cutAfter (· == newline) bytes

def terminated (piece : List UInt8) : Bool := piece.getLast? = some newline

def remainder (bytes : List UInt8) : List UInt8 := bytes.rtakeWhile (· != newline)

theorem remainder_append (text bytes : List UInt8) :
    remainder (text ++ newline :: bytes) = remainder bytes := by
  have hstop : (newline :: text.reverse).takeWhile (· != newline) = [] := by simp
  rw [remainder, remainder, List.rtakeWhile, List.rtakeWhile, List.reverse_append, List.reverse_cons,
    List.append_assoc, List.singleton_append, List.takeWhile_append, hstop, List.append_nil]
  split
  · rename_i hl
    rw [List.IsPrefix.eq_of_length (List.takeWhile_prefix _) hl]
  · rfl

/-- A byte string consists of lines, each up to its first newline, and of a tail without any. -/
inductive Parted : List UInt8 → List (List UInt8) → List UInt8 → Prop
  | tail {bytes : List UInt8} (h : newline ∉ bytes) : Parted bytes [] bytes
  | line {text bytes : List UInt8} {lines : List (List UInt8)} {tail : List UInt8} (h : newline ∉ text)
      (hp : Parted bytes lines tail) : Parted (text ++ newline :: bytes) ((text ++ [newline]) :: lines) tail

theorem pieces_tail {bytes : List UInt8} (h : newline ∉ bytes) (hb : bytes ≠ []) : pieces bytes = [bytes] :=
  Text.cutAfter_unended (beq_eq_false_of_notMem h) hb

theorem pieces_line {text : List UInt8} (h : newline ∉ text) (bytes : List UInt8) :
    pieces (text ++ newline :: bytes) = (text ++ [newline]) :: pieces bytes :=
  Text.cutAfter_ended (beq_eq_false_of_notMem h) (beq_self_eq_true newline) bytes

namespace Parted

variable {bytes tail : List UInt8} {lines : List (List UInt8)}

theorem not_mem_tail (h : Parted bytes lines tail) : newline ∉ tail := by
  induction h with
  | tail h => exact h
  | line _ _ ih => exact ih

theorem pieces_eq (h : Parted bytes lines tail) :
    pieces bytes = if tail = [] then lines else lines ++ [tail] := by
  induction h with
  | @tail bytes h =>
      by_cases hb : bytes = []
      · rw [hb]
        rfl
      · rw [if_neg hb, pieces_tail h hb]
        rfl
  | @line text bytes lines tail h _ ih =>
      rw [pieces_line h, ih]
      split <;> rfl

theorem terminated_of_mem (h : Parted bytes lines tail) : ∀ line ∈ lines, terminated line = true := by
  induction h with
  | tail => exact fun line hl => absurd hl List.not_mem_nil
  | line _ _ ih =>
      intro line hl
      rcases List.mem_cons.1 hl with rfl | hl
      · simp [terminated]
      · exact ih line hl

theorem not_terminated_tail (h : Parted bytes lines tail) : terminated tail = false := by
  rw [terminated, decide_eq_false_iff_not]
  intro hl
  exact h.not_mem_tail (List.mem_of_getLast? hl)

theorem filter_pieces (h : Parted bytes lines tail) : (pieces bytes).filter terminated = lines := by
  have hl := List.filter_eq_self.2 h.terminated_of_mem
  rw [h.pieces_eq]
  split
  · exact hl
  · rw [List.filter_append, hl, List.filter_singleton, h.not_terminated_tail]
    exact List.append_nil _

theorem remainder_eq (h : Parted bytes lines tail) : remainder bytes = tail := by
  induction h with
  | tail h =>
      exact List.rtakeWhile_eq_self_iff.2 (bne_of_notMem h)
  | line _ _ ih => rw [remainder_append, ih]

end Parted

theorem flatten_fillings {capacity : Nat} (hc : 0 < capacity) (chunk : List UInt8) :
    (fillings capacity chunk).flatten = chunk := by
  induction chunk using fillings.induct capacity with
  | case1 chunk h =>
      have he := h.resolve_left (Nat.ne_of_gt hc)
      rw [fillings, dif_pos h, he]
      rfl
  | case2 chunk h ih =>
      rw [fillings, dif_neg h, List.flatten_cons, ih, List.take_append_drop]

theorem flatten_reads {s : Stream} (hc : 0 < s.capacity) : s.reads.flatten = s.bytes := by
  rw [reads, bytes]
  induction s.chunks with
  | nil => rfl
  | cons chunk chunks ih =>
      rw [List.flatMap_cons, List.flatten_append, ih, flatten_fillings hc, List.flatten_cons]

theorem not_mem_of_dropWhile_eq_nil {buffer : List UInt8} (h : buffer.dropWhile (· != newline) = []) :
    newline ∉ buffer := by
  intro hm
  simpa using List.dropWhile_eq_nil_iff.1 h newline hm

theorem eq_of_readLine_line {reads rest : List (List UInt8)} {bytes : List UInt8}
    (h : readLine reads = .line bytes rest) : ∃ text, newline ∉ text ∧ bytes = text ++ [newline] := by
  induction reads generalizing bytes rest with
  | nil => simp [readLine] at h
  | cons buffer more ih =>
      rw [readLine] at h
      split at h
      · rename_i stop after hd
        obtain ⟨rfl, _⟩ := Reading.line.inj h
        have hs : stop = newline := by
          have hh := List.head_dropWhile_not (l := buffer) (· != newline) (by simp [hd])
          simpa [hd] using hh
        refine ⟨buffer.takeWhile (· != newline), ?_, by rw [hs]⟩
        intro hm
        simpa using List.mem_takeWhile_imp hm
      · rename_i hd
        split at h
        · rename_i line after hr
          obtain ⟨rfl, _⟩ := Reading.line.inj h
          obtain ⟨text, ht, rfl⟩ := ih hr
          refine ⟨buffer ++ text, ?_, (List.append_assoc _ _ _).symm⟩
          have hb := not_mem_of_dropWhile_eq_nil hd
          exact fun hm => (List.mem_append.1 hm).elim hb ht
        · simp at h

theorem eq_of_readLine_tail {reads : List (List UInt8)} {bytes : List UInt8}
    (h : readLine reads = .tail bytes) : bytes = reads.flatten ∧ newline ∉ bytes := by
  induction reads generalizing bytes with
  | nil =>
      cases h
      exact ⟨rfl, List.not_mem_nil⟩
  | cons buffer more ih =>
      rw [readLine] at h
      split at h
      · simp at h
      · rename_i hd
        split at h
        · simp at h
        · rename_i rest hr
          obtain ⟨rfl⟩ := Reading.tail.inj h
          obtain ⟨hf, hn⟩ := ih hr
          have hb := not_mem_of_dropWhile_eq_nil hd
          refine ⟨by rw [hf, List.flatten_cons], ?_⟩
          exact fun hm => (List.mem_append.1 hm).elim hb hn

/-- However the bytes are spread over the reads, they are read in the parts that they have as a whole. -/
theorem parted_readLines (reads : List (List UInt8)) :
    Parted reads.flatten (readLines reads).1 (readLines reads).2 := by
  -- Each line is a part up to a newline whatever reads it came in, so the reads need not be told apart.
  induction reads using readLines.induct with
  | case1 reads bytes h =>
      obtain ⟨rfl, hn⟩ := eq_of_readLine_tail h
      have hr : readLines reads = ([], reads.flatten) := by
        rw [readLines]
        split <;> simp_all
      rw [hr]
      exact .tail hn
  | case2 reads bytes rest h lines tail hrest ih =>
      obtain ⟨text, ht, rfl⟩ := eq_of_readLine_line h
      have hf := (flatten_readLine h).1
      have hr : readLines reads = ((text ++ [newline]) :: lines, tail) := by
        rw [readLines]
        split <;> simp_all
      rw [hrest] at ih
      rw [hr, ← hf, List.append_assoc]
      exact .line ht ih

theorem lines_eq_of_ended {s : Stream} (hc : 0 < s.capacity) (hf : s.fault = none) : s.lines = pieces s.bytes := by
  have hp := parted_readLines s.reads
  rw [flatten_reads hc] at hp
  rw [hp.pieces_eq, lines]
  cases ht : (readLines s.reads).2 <;> simp [hf, ht]

theorem lines_eq_of_broken {s : Stream} (hc : 0 < s.capacity) (hf : s.fault ≠ none) :
    s.lines = (pieces s.bytes).filter terminated := by
  have hp := parted_readLines s.reads
  rw [flatten_reads hc] at hp
  rw [hp.filter_pieces, lines]
  simp [Option.isSome_iff_ne_none.2 hf]

end Stream

end BatchClassifier
