import BatchClassifier.Image.Codec

namespace BatchClassifier.Bitmap.RunLength

inductive Instruction
  | set (indices : List UInt8)
  | endOfRow
  | endOfImage
  | skip (pixels rows : Nat)
deriving DecidableEq, Repr

/-- The first instruction, if all of it is there. Indices that are listed one by one fill an even
number of bytes. -/
def instruction? : List UInt8 → Option (Instruction × List UInt8)
  | 0 :: 0 :: rest => some (.endOfRow, rest)
  | 0 :: 1 :: rest => some (.endOfImage, rest)
  | 0 :: 2 :: pixels :: rows :: rest => some (.skip pixels.toNat rows.toNat, rest)
  | 0 :: n :: rest =>
    let size := n.toNat + n.toNat % 2
    if n = 2 then none
    else (Codec.slice? rest 0 size).map fun found => (.set (found.take n.toNat), rest.drop size)
  | n :: index :: rest => some (.set (List.replicate n.toNat index), rest)
  | _ => none

theorem length_lt_of_instruction? {bytes rest : List UInt8} {i : Instruction}
    (h : instruction? bytes = some (i, rest)) : rest.length < bytes.length := by
  unfold instruction? at h
  split at h
  · cases h; simp only [List.length_cons]; omega
  · cases h; simp only [List.length_cons]; omega
  · cases h; simp only [List.length_cons]; omega
  · simp only at h
    split at h
    · cases h
    · obtain ⟨_, _, hr⟩ := Option.map_eq_some_iff.1 h
      cases hr
      simp only [List.length_drop, List.length_cons]
      omega
  · cases h; simp only [List.length_cons]; omega
  · cases h

inductive Fault
  | endOfData
  | outside
deriving DecidableEq, Repr

abbrev Pixels := Array (Option UInt8)

def fill (pixels : Pixels) (size : Nat) : Pixels :=
  pixels ++ Array.replicate (size - pixels.size) none

/-- Follows the instructions within the given row and those after it. A run that does not fit into
its row ends the image. -/
def follow (width height row : Nat) (pixels : Pixels) (bytes : List UInt8) : Except Fault Pixels :=
  match _h : instruction? bytes with
  | none => .error .endOfData
  | some (.endOfImage, _) => .ok pixels
  | some (.endOfRow, rest) =>
    let pixels := fill pixels ((row + 1) * width)
    if row + 1 = height then .ok pixels else follow width height (row + 1) pixels rest
  | some (.skip across rows, rest) =>
    let column := pixels.size - row * width + across
    if height ≤ row + rows ∨ width < column then .error .outside
    else follow width height (row + rows) (fill pixels ((row + rows) * width + column)) rest
  | some (.set indices, rest) =>
    let room := (row + 1) * width - pixels.size
    let pixels := pixels ++ ((indices.take room).map some).toArray
    if room < indices.length then .ok pixels else follow width height row pixels rest
termination_by bytes.length
decreasing_by all_goals exact length_lt_of_instruction? _h

def decode (width height : Nat) (bytes : List UInt8) : Except Fault Pixels :=
  (follow width height 0 #[] bytes).map (fill · (width * height))

end BatchClassifier.Bitmap.RunLength
