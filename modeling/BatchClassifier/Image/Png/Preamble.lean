import BatchClassifier.Image.Png.Header

namespace BatchClassifier.Png

structure Preamble where
  palette : Option (List UInt8) := none
  transparency : Option (List UInt8) := none
  codePoints : Bool := false
  sequence : Option Nat := none

namespace Preamble

def invalidData : Error := .io (.ofKind .invalidData)

def addPalette (p : Preamble) (data : List UInt8) : Except Error Preamble := do
  check p.palette.isNone (.repeated .palette)
  return { p with palette := some data }

def keySize (h : Header) : Nat := if h.isIndexed then 0 else 2 * h.samplesPerPixel

/-- Images with opacity of their own have no transparent color, and a palette comes before the
opacity of its colors. -/
def addTransparency (p : Preamble) (h : Header) (data : List UInt8) : Preamble :=
  if p.transparency.isSome || h.color == 4 || h.color == 6 || data.length < keySize h ||
      (h.isIndexed && p.palette.isNone) then p
  else { p with transparency := some data }

/-- Code points come before a palette, and the first of them count. -/
def addCodePoints (p : Preamble) (data : List UInt8) : Except Error Preamble :=
  if p.codePoints || p.palette.isSome then .ok p
  else
    match data with
    | _ :: _ :: 0 :: [fullRange] =>
      if fullRange ≤ 1 then .ok { p with codePoints := true } else .error invalidData
    | _ :: _ :: matrix :: _ => if matrix = 0 then .ok p else .error invalidData
    | _ => .ok p

/-- A background that is an index needs a palette. -/
def addBackground (p : Preamble) (h : Header) : Except Error Preamble :=
  if h.isIndexed && p.palette.isNone then .error invalidData else .ok p

/-- The first frame of an animation is the whole image. -/
def addFrame (p : Preamble) (h : Header) (data : List UInt8) : Except Error Preamble := do
  let number (place : Nat) : Nat := Codec.bigEndian ((data.drop place).take 4)
  let operation (place : Nat) : Nat := ((data[place]?).getD 0).toNat
  let expected := match p.sequence with
    | some n => n + 1
    | none => 0
  check (number 0 = expected) (.sequence expected (number 0))
  check (operation 24 ≤ 2) (.invalidDispose (operation 24))
  check (operation 25 ≤ 1) (.invalidBlend (operation 25))
  check (number 4 ≠ 0 && number 8 ≠ 0) .invalidDimensions
  check (number 4 = h.width && number 8 = h.height && number 12 = 0 && number 16 = 0) .frameOutOfBounds
  return { p with sequence := some (number 0) }

def add (p : Preamble) (h : Header) (kind : ChunkKind) (data : List UInt8) : Except Error Preamble :=
  if kind = .header then .error (.malformed (.repeated .header))
  else if kind = .imageEnd then .error (.malformed .missingImageData)
  else if kind = .palette then p.addPalette data
  else if kind = .transparency then .ok (p.addTransparency h data)
  else if kind = .codePoints then p.addCodePoints data
  else if kind = .background then p.addBackground h
  else if kind = .frame then p.addFrame h data
  else .ok p

def checkStart (p : Preamble) (kind : ChunkKind) (length : Nat) : Except Error Unit := do
  check (!kind.isCritical || kind.isKnownCritical) (.unknownCritical kind)
  check (!kind.isNeeded || kind.allows length) (.wrongLength kind)
  if kind = .frameData then
    check p.sequence.isSome (.misplaced kind)
    check (4 ≤ length) .shortFrameData
    throw (.unsupported "frames before the image")

/-- Reads up to the first chunk of image data. Faulty chunks that an image can do without are left out,
except those of animations, code points that do not stand for red, green and blue, and an index as the
background before there is a palette. -/
def read (h : Header) (p : Preamble) (bytes : List UInt8) : Except Error (Preamble × List UInt8) :=
  match _h : chunkStart? bytes with
  | none => .error endOfFile
  | some (kind, length, rest) => do
    if kind = .imageData then return (p, bytes)
    p.checkStart kind length
    let right ← checkChunk kind length rest
    let p ← if right && kind.allows length then p.add h kind (rest.take length) else .ok p
    read h p (rest.drop (length + 4))
termination_by bytes.length
decreasing_by
  have := length_lt_of_chunkStart? _h
  simp only [List.length_drop]
  omega

end Preamble

end BatchClassifier.Png
