import BatchClassifier.Image.Bitmap.RunLength

namespace BatchClassifier.Bitmap

inductive Fault
  | noSignature
  | headerTooSmall (size : Nat)
  | negativeWidth (width : Int)
  | invalidHeight
  | tooLarge (width height : Int)
  | morePlanes
  | invalidDepth (storage : String) (bits : Nat)
  | compressedTopDown (compression : Nat)
  | unknownCompression (compression : Nat)
  | paletteTooLarge (colors bits : Nat)
  | corruptRuns
deriving DecidableEq, Repr

def Fault.message : Fault → String
  | .noSignature => "BMP signature not found"
  | .headerTooSmall size => "Bitmap header too small (" ++ toString size ++ " bytes)"
  | .negativeWidth width => "Negative width (" ++ toString width ++ ")"
  | .invalidHeight => "Invalid height"
  | .tooLarge width height =>
    "Image too large (one of (" ++ toString width ++ ", " ++ toString height ++
      ") > soft limit of 65535)"
  | .morePlanes => "More than one plane"
  | .invalidDepth storage bits =>
    "Invalid channel bit count for " ++ storage ++ ": " ++ toString bits
  | .compressedTopDown compression =>
    "Invalid image type " ++ toString compression ++ " for top-down image."
  | .unknownCompression compression => "Unknown image compression type " ++ toString compression
  | .paletteTooLarge colors bits =>
    "Palette size " ++ toString colors ++ " exceeds maximum size for BMP with bit count of " ++
      toString bits
  | .corruptRuns => "Corrupt RLE data"

abbrev Error := CodecError Fault

def bytesAt (file : List UInt8) (offset size : Nat) : Except Error (List UInt8) :=
  match Codec.slice? file offset size with
  | some found => .ok found
  | none => .error (.io .readTooLittle)

def natAt (file : List UInt8) (offset size : Nat) : Except Error Nat :=
  (bytesAt file offset size).map Codec.littleEndian

def intAt (file : List UInt8) (offset size : Nat) : Except Error Int := do
  let n ← natAt file offset size
  return if n < 1 <<< (8 * size - 1) then n else Int.subNatNat n (1 <<< (8 * size))

inductive Storage
  | direct
  | indexed
  | runs
deriving DecidableEq, Repr

structure Header where
  width : Nat
  height : Nat
  topDown : Bool
  storage : Storage
  palette : Array (List Nat)
  offset : Nat

def checkDimensions (width height : Int) : Except Error Unit :=
  if width ≤ 0 ∨ height ≤ 0 then
    .error <| .unsupported <|
      "Image dimensions (" ++ toString width ++ "x" ++ toString height ++
        " w/3 channels) are too large"
  else .ok ()

def checkPlanes (planes : Nat) : Except Error Unit :=
  if planes = 1 then .ok () else .error (.malformed .morePlanes)

/-- Colors of 24 bits and indices of 8 are read. Images of 1, 2, 4, 16 or 32 bits are valid as well, those
with bit masks and with runs of 4 bits among them, but nothing here reads them. -/
def storageOf (compression bits : Nat) : Except Error Storage :=
  let other : Except Error Storage := .error (.unsupported (toString bits ++ " bits per pixel"))
  let among (storage : String) (depths : List Nat) : Except Error Storage :=
    if depths.contains bits then other else .error (.malformed (.invalidDepth storage bits))
  match compression, bits with
  | 0, 24 => .ok .direct
  | 0, 8 => .ok .indexed
  | 1, 8 => .ok .runs
  | 0, _ => among "RGB" [1, 2, 4, 16, 32]
  | 1, _ => among "RLE8" []
  | 2, _ => among "RLE4" [4]
  | 3, _ => among "bitfields" [16, 32]
  | 4, _ => .error (.unsupported "JPEG compression")
  | 5, _ => .error (.unsupported "PNG compression")
  | 11, _ | 12, _ | 13, _ => .error (.unsupported "CMYK format")
  | n, _ => .error (.malformed (.unknownCompression n))

def coreStorageOf (bits : Nat) : Except Error Storage :=
  if [2, 16, 32].contains bits then .error (.malformed (.invalidDepth "RGB" bits)) else storageOf 0 bits

/-- The palette has room for every index; colors that the file leaves out are black. -/
def readPalette (file : List UInt8) (storage : Storage) (offset colorSize colorsUsed : Nat) :
    Except Error (Array (List Nat)) := do
  if storage = .direct then return #[]
  if 256 < colorsUsed then throw (.malformed (.paletteTooLarge colorsUsed 8))
  let colors := if colorsUsed = 0 then 256 else colorsUsed
  let bytes ← bytesAt file offset (colors * colorSize)
  return (Array.range 256).map fun i =>
    match (bytes.drop (i * colorSize)).take 3 with
    | [b, g, r] => [r.toNat, g.toNat, b.toNat]
    | _ => [0, 0, 0]

def readCoreHeader (file : List UInt8) (offset : Nat) : Except Error Header := do
  let width ← natAt file 18 2
  let height ← natAt file 20 2
  checkDimensions width height
  checkPlanes (← natAt file 22 2)
  let storage ← coreStorageOf (← natAt file 24 2)
  return { width, height, topDown := false, storage, palette := ← readPalette file storage 26 3 0, offset }

def readInfoHeader (file : List UInt8) (offset size : Nat) : Except Error Header := do
  let width ← intAt file 18 4
  let height ← intAt file 22 4
  if width < 0 then throw (.malformed (.negativeWidth width))
  if 65535 < width ∨ 65535 < height then throw (.malformed (.tooLarge width height))
  if height = -0x80000000 then throw (.malformed .invalidHeight)
  checkDimensions width height.natAbs
  checkPlanes (← natAt file 26 2)
  let bits ← natAt file 28 2
  let compression ← natAt file 30 4
  if height < 0 ∧ compression ≠ 0 ∧ compression ≠ 3 then
    throw (.malformed (.compressedTopDown compression))
  let storage ← storageOf compression bits
  let _ ← bytesAt file 34 12
  let colorsUsed ← natAt file 46 4
  let _ ← bytesAt file 50 4
  let palette ← readPalette file storage (14 + size) 4 colorsUsed
  return { width := width.toNat, height := height.natAbs, topDown := height < 0, storage, palette, offset }

def readHeader (file : List UInt8) : Except Error Header := do
  let signature ← bytesAt file 0 2
  if signature ≠ "BM".toUTF8.toList then throw (.malformed .noSignature)
  let _ ← bytesAt file 2 8
  let offset ← natAt file 10 4
  let size ← natAt file 14 4
  if size < 12 then throw (.malformed (.headerTooSmall size))
  if size = 12 then readCoreHeader file offset
  else if [40, 52, 56, 108, 124].contains size then readInfoHeader file offset size
  else throw (.unsupported ("Unknown bitmap header type (size=" ++ toString size ++ ")"))

namespace Header

def bits (h : Header) : Nat := if h.storage = .direct then 24 else 8

def stride (h : Header) : Nat := (h.bits * h.width + 31) / 32 * 4

def color (h : Header) (index : UInt8) : List Nat := (h.palette[index.toNat]?).getD [0, 0, 0]

end Header

/-- Blue comes first, and red last. -/
def directSamples : List UInt8 → List Nat
  | b :: g :: r :: rest => r.toNat :: g.toNat :: b.toNat :: directSamples rest
  | _ => []

def rowSamples (h : Header) (row : List UInt8) : List Nat :=
  if h.storage = .direct then directSamples (row.take (3 * h.width))
  else (row.take h.width).flatMap h.color

def plainRows (h : Header) (bytes : List UInt8) : Except Error (List (List Nat)) :=
  if bytes.length < h.stride * h.height then .error (.io .readTooLittle)
  else
    .ok <| (List.range h.height).map fun i =>
      rowSamples h ((bytes.drop (i * h.stride)).take h.stride)

/-- Pixels without an index are black. -/
def runRows (h : Header) (bytes : List UInt8) : Except Error (List (List Nat)) :=
  match RunLength.decode h.width h.height bytes with
  | .error .endOfData => .error (.io .readTooLittle)
  | .error .outside => .error (.malformed .corruptRuns)
  | .ok pixels =>
    .ok <| (List.range h.height).map fun i =>
      (pixels.extract (i * h.width) ((i + 1) * h.width)).toList.flatMap fun p =>
        (p.map h.color).getD [0, 0, 0]

def decode (file : List UInt8) : Except Error Raster := do
  let h ← readHeader file
  Codec.reserve h.width h.height ⟨.rgb, false⟩
  let stored ← (if h.storage = .runs then runRows else plainRows) h (file.drop h.offset)
  let rows := if h.topDown then stored else stored.reverse
  return { width := h.width, height := h.height, color := ⟨.rgb, false⟩, samples := rows.flatten.toArray }

end BatchClassifier.Bitmap
