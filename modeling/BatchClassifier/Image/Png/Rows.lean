import BatchClassifier.Image.Png.Header

namespace BatchClassifier.Png

def paeth (a b c : Nat) : Nat :=
  let p : Int := a + b - c
  let da := (p - a).natAbs
  let db := (p - b).natAbs
  let dc := (p - c).natAbs
  if da ≤ db ∧ da ≤ dc then a else if db ≤ dc then b else c

def predict? (filter left up corner : Nat) : Option Nat :=
  match filter with
  | 0 => some 0
  | 1 => some left
  | 2 => some up
  | 3 => some ((left + up) / 2)
  | 4 => some (paeth left up corner)
  | _ => none

def unfilter (filter reach : Nat) (above row : Array UInt8) : Array UInt8 :=
  row.foldl
    (fun out b =>
      let i := out.size
      let before (a : Array UInt8) : Nat := if i < reach then 0 else ((a[i - reach]?).getD 0).toNat
      let up := ((above[i]?).getD 0).toNat
      out.push (b + ((predict? filter (before out) up (before above)).getD 0).toUInt8))
    #[]

namespace Header

def dataSize (h : Header) : Nat := h.height * (1 + h.rowBytes)

/-- The next rows, as many as the data suffice for. An image with indices needs a palette as soon as
it has a row. -/
def rows (h : Header) (palette : Bool) (data : Array UInt8) :
    Nat → Nat → Array UInt8 → Except Error (List (Array UInt8))
  | 0, _, _ => .ok []
  | n + 1, offset, above => do
    let next := offset + 1 + h.rowBytes
    if data.size < next then return []
    let filter := ((data[offset]?).getD 0).toNat
    check (predict? filter 0 0 0).isSome (.unknownFilter filter)
    let row := unfilter filter h.reach above (data.extract (offset + 1) next)
    check (palette || !h.isIndexed) .paletteRequired
    return row :: (← h.rows palette data n next row)

def rowsOfPieces (h : Header) (palette : Bool) :
    List UInt8 → List (List UInt8) → Except Error (Option (List (Array UInt8)))
  | _, [] => .ok none
  | compressed, piece :: pieces => do
    let compressed := compressed ++ piece
    let found := Inflate.decompress h.dataSize compressed
    if let .error (.faulty fault) := found.rest then throw (.malformed (.corruptStream fault))
    let rows ← h.rows palette found.output h.height 0 #[]
    if rows.length = h.height then return some rows else h.rowsOfPieces palette compressed pieces

end Header

/-- The data of consecutive chunks as far as they are there, and what is wrong with the last one, if
anything is. The start of another chunk has to follow. -/
def dataPieces (bytes : List UInt8) : List (List UInt8) × Except Error Unit :=
  match _h : chunkStart? bytes with
  | none => ([], .error endOfFile)
  | some (kind, length, rest) =>
    if kind ≠ .imageData then ([], .ok ())
    else
      match checkChunk kind length rest with
      | .error e => ([rest.take length], .error e)
      | .ok _ =>
        let (pieces, ending) := dataPieces (rest.drop (length + 4))
        (rest.take length :: pieces, ending)
termination_by bytes.length
decreasing_by
  have := length_lt_of_chunkStart? _h
  simp only [List.length_drop]
  omega

/-- The rows of the image. Faults in the data of a chunk come before those of the chunk itself, and
these before a lack of data. -/
def Header.readRows (h : Header) (palette : Bool) (bytes : List UInt8) :
    Except Error (List (Array UInt8)) := do
  let (pieces, ending) := dataPieces bytes
  let found ← h.rowsOfPieces palette [] pieces
  ending
  match found with
  | some rows => return rows
  | none =>
    match (Inflate.decompress h.dataSize pieces.flatten).rest with
    | .ok _ => throw (.malformed .notEnoughData)
    | .error _ => throw (.malformed .unfinishedStream)

end BatchClassifier.Png
