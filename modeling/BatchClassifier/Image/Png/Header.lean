import BatchClassifier.Image.Png.Chunk

namespace BatchClassifier.Png

structure Header where
  width : Nat
  height : Nat
  depth : Nat
  color : Nat

namespace Header

def samplesPerPixel (h : Header) : Nat :=
  match h.color with
  | 2 => 3
  | 4 => 2
  | 6 => 4
  | _ => 1

def rowBytes (h : Header) : Nat := (h.width * h.samplesPerPixel * h.depth + 7) / 8

def isIndexed (h : Header) : Bool := h.color == 3

def reach (h : Header) : Nat := max 1 (h.samplesPerPixel * h.depth / 8)

end Header

def allowedDepths : Nat → List Nat
  | 0 => [1, 2, 4, 8, 16]
  | 3 => [1, 2, 4, 8]
  | _ => [8, 16]

/-- Interlaced images are valid, but nothing here reads them. -/
def readHeader (data : List UInt8) : Except Error Header := do
  let field (place : Nat) : Nat := ((data[place]?).getD 0).toNat
  let width := Codec.bigEndian (data.take 4)
  let height := Codec.bigEndian ((data.drop 4).take 4)
  check (width ≠ 0 && height ≠ 0) .invalidDimensions
  let depth := field 8
  check ([1, 2, 4, 8, 16].contains depth) (.invalidBitDepth depth)
  let color := field 9
  check ([0, 2, 3, 4, 6].contains color) (.invalidColorType color)
  check ((allowedDepths color).contains depth) (.invalidCombination color depth)
  check (field 10 = 0) (.unknownCompression (field 10))
  check (field 11 = 0) (.unknownFilter (field 11))
  check (field 12 ≤ 1) (.unknownInterlacing (field 12))
  if field 12 = 1 then throw (.unsupported "interlacing")
  return { width, height, depth, color }

end BatchClassifier.Png
