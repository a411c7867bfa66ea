import BatchClassifier.Text.Cut
import BatchClassifier.Text.Utf8
import BatchClassifier.Failure

namespace BatchClassifier

/-- The bytes as they are delivered, the most that the buffer takes at once, and how the stream
ends: with a fault, or with nothing more to read. -/
structure Stream where
  chunks : List (List UInt8)
  capacity : Nat := 8192
  fault : Option IoFault := none
deriving DecidableEq, Repr

namespace Stream

def newline : UInt8 := 10

def carriageReturn : UInt8 := 13

def ofBytes (bytes : List UInt8) : Stream := { chunks := [bytes] }

def ofText (text : String) : Stream := ofBytes (Text.Utf8.encode text.toList)

def bytes (s : Stream) : List UInt8 := s.chunks.flatten

def fillings (capacity : Nat) (chunk : List UInt8) : List (List UInt8) :=
  if _h : capacity = 0 ∨ chunk = [] then []
  else chunk.take capacity :: fillings capacity (chunk.drop capacity)
termination_by chunk.length
decreasing_by
  have := List.length_pos_iff.2 (not_or.1 _h).2
  simp only [List.length_drop]
  omega

def reads (s : Stream) : List (List UInt8) := s.chunks.flatMap (fillings s.capacity)

/-- What reading a line gives: the line and the reads after it, or the bytes without a newline that
were left. -/
inductive Reading
  | line (bytes : List UInt8) (rest : List (List UInt8))
  | tail (bytes : List UInt8)

def readLine : List (List UInt8) → Reading
  | [] => .tail []
  | buffer :: rest =>
    match buffer.dropWhile (· != newline) with
    | stop :: after => .line (buffer.takeWhile (· != newline) ++ [stop]) (after :: rest)
    | [] =>
      match readLine rest with
      | .line bytes rest => .line (buffer ++ bytes) rest
      | .tail bytes => .tail (buffer ++ bytes)

theorem flatten_readLine {reads rest : List (List UInt8)} {bytes : List UInt8}
    (h : readLine reads = .line bytes rest) : bytes ++ rest.flatten = reads.flatten ∧ bytes ≠ [] := by
  induction reads generalizing bytes rest with
  | nil => simp [readLine] at h
  | cons buffer more ih =>
    rw [readLine] at h
    split at h
    · rename_i stop after hd
      obtain ⟨rfl, rfl⟩ := Reading.line.inj h
      have hs := List.takeWhile_append_dropWhile (p := (· != newline)) (l := buffer)
      rw [hd] at hs
      exact ⟨by rw [List.flatten_cons, List.flatten_cons, ← List.append_assoc]; simp [hs], by simp⟩
    · split at h
      · rename_i line after hr
        obtain ⟨rfl, rfl⟩ := Reading.line.inj h
        obtain ⟨hf, hn⟩ := ih hr
        exact ⟨by rw [List.append_assoc, hf, List.flatten_cons], by simp [hn]⟩
      · simp at h

def readLines (reads : List (List UInt8)) : List (List UInt8) × List UInt8 :=
  match _h : readLine reads with
  | .tail bytes => ([], bytes)
  | .line bytes rest =>
    let (lines, tail) := readLines rest
    (bytes :: lines, tail)
termination_by reads.flatten.length
decreasing_by
  obtain ⟨hf, hn⟩ := flatten_readLine _h
  have := List.length_pos_iff.2 hn
  rw [← hf, List.length_append]
  omega

/-- What follows the last newline is a line too if the stream just ends there; a failing read drops it. -/
def lines (s : Stream) : List (List UInt8) :=
  let (lines, tail) := readLines s.reads
  if s.fault.isSome || tail.isEmpty then lines else lines ++ [tail]

/-- The text of a line: without its newline and then one carriage return, and with ill-formed bytes
replaced. -/
def decodeLine (line : List UInt8) : String :=
  String.ofList (Text.Utf8.decodeLossy (Text.chop carriageReturn (Text.chop newline line)))

end Stream

end BatchClassifier
