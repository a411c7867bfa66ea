import BatchClassifier.Image.Codec
import BatchClassifier.Text.Number

namespace BatchClassifier.Anymap

inductive Place
  | header
  | raster
deriving DecidableEq, Repr

def Place.description : Place → String
  | .header => "number in preamble"
  | .raster => "sample"

inductive Fault
  | magic (first second : UInt8)
  | notDigit (place : Place)
  | overflow (place : Place)
  | inputTooShort
  | unexpectedByte (byte : UInt8)
  | maxvalZero
  | maxvalTooBig (maxval : Nat)
deriving DecidableEq, Repr

def Fault.message : Fault → String
  | .magic first second =>
    "Expected magic constant for PNM: P1..P7, got [" ++ Codec.upperHexByte first ++ ", " ++
      Codec.upperHexByte second ++ "]"
  | .notDigit place => "Non-ASCII-digit character when parsing number in " ++ place.description
  | .overflow place => "Overflow when parsing integer in " ++ place.description
  | .inputTooShort => "Not enough data was provided to the Decoder to decode the image"
  | .unexpectedByte byte =>
    "Unexpected character " ++ Codec.upperHexByte byte ++ " within sample raster"
  | .maxvalZero => "Image MAXVAL is zero"
  | .maxvalTooBig maxval => "Image MAXVAL exceeds 65535: " ++ toString maxval

abbrev Error := CodecError Fault

inductive Kind
  | bits
  | gray
  | color
deriving DecidableEq, Repr

def separates (b : UInt8) : Bool := (9 ≤ b && b ≤ 13) || b == 32

def endsComment (b : UInt8) : Bool := b == 10 || b == 13

def isDigit (b : UInt8) : Bool := 48 ≤ b && b ≤ 57

def appendDigit (place : Place) (bound : Nat) (found : Option Nat) (b : UInt8) : Except Error Nat :=
  if !isDigit b then .error (.malformed (.notDigit place))
  else
    let next := found.getD 0 * 10 + (b.toNat - 48)
    if next < bound then .ok next else .error (.malformed (.overflow place))

/-- The next number of a header and what follows the separator after it. A comment vanishes together
with the line end that closes it, also inside a number. -/
def headerNumber : Bool → Option Nat → List UInt8 → Except Error (Nat × List UInt8)
  | _, none, [] => .error (.io (.ofKind .unexpectedEof))
  | _, some n, [] => .ok (n, [])
  | true, found, b :: rest => headerNumber (!endsComment b) found rest
  | false, found, b :: rest => do
    if b = 35 then headerNumber true found rest
    else if separates b then
      match found with
      | none => headerNumber false none rest
      | some n => return (n, rest)
    else headerNumber false (some (← appendDigit .header (1 <<< 32) found b)) rest

structure Header where
  kind : Kind
  asText : Bool
  width : Nat
  height : Nat
  maxval : Nat

namespace Header

def color (h : Header) : Color :=
  ⟨if h.kind = .color then .rgb else .gray, h.kind ≠ .bits && 255 < h.maxval⟩

def sampleCount (h : Header) : Nat := h.width * h.height * h.color.channels.count

end Header

/-- The seventh kind, the arbitrary maps, is valid as well, but nothing here reads it. -/
def magic? (file : List UInt8) : Except Error (Kind × Bool × List UInt8) :=
  match file with
  | 80 :: 49 :: rest => .ok (.bits, true, rest)
  | 80 :: 50 :: rest => .ok (.gray, true, rest)
  | 80 :: 51 :: rest => .ok (.color, true, rest)
  | 80 :: 52 :: rest => .ok (.bits, false, rest)
  | 80 :: 53 :: rest => .ok (.gray, false, rest)
  | 80 :: 54 :: rest => .ok (.color, false, rest)
  | 80 :: 55 :: _ => .error (.unsupported "arbitrary maps")
  | first :: second :: _ => .error (.malformed (.magic first second))
  | _ => .error (.io .readTooLittle)

def readHeader (file : List UInt8) : Except Error (Header × List UInt8) := do
  let (kind, asText, rest) ← magic? file
  let (width, rest) ← headerNumber false none rest
  let (height, rest) ← headerNumber false none rest
  if kind = .bits then return ({ kind, asText, width, height, maxval := 1 }, rest)
  let (maxval, rest) ← headerNumber false none rest
  if maxval = 0 then throw (.malformed .maxvalZero)
  if 65535 < maxval then throw (.malformed (.maxvalTooBig maxval))
  return ({ kind, asText, width, height, maxval }, rest)

def textSample : Option Nat → List UInt8 → Except Error (Nat × List UInt8)
  | none, [] => .error (.malformed .inputTooShort)
  | some s, [] => .ok (s, [])
  | found, b :: rest => do
    if separates b then
      match found with
      | none => textSample none rest
      | some s => return (s, rest)
    else textSample (some (← appendDigit .raster 65536 found b)) rest

def textSamples (top : Nat) : Nat → List UInt8 → Except Error (List Nat)
  | 0, _ => .ok []
  | n + 1, bytes => do
    let (s, rest) ← textSample none bytes
    if top < s then throw (.malformed (.overflow .raster))
    return s :: (← textSamples top n rest)

/-- Bits written as digits, which need no separators; one is black. -/
def textBits : Nat → List UInt8 → Except Error (List Nat)
  | 0, _ => .ok []
  | _ + 1, [] => .error (.malformed .inputTooShort)
  | n + 1, b :: rest =>
    if separates b then textBits (n + 1) rest
    else if b = 48 then (textBits n rest).map (255 :: ·)
    else if b = 49 then (textBits n rest).map (0 :: ·)
    else .error (.malformed (.unexpectedByte b))

def byteBits (b : UInt8) : List Nat :=
  (List.range 8).map fun i => if b.toNat.testBit (7 - i) then 0 else 255

def pairs : List UInt8 → List Nat
  | high :: low :: rest => (high.toNat * 256 + low.toNat) :: pairs rest
  | _ => []

def binarySamples (h : Header) (bytes : List UInt8) : Except Error (List Nat) := do
  let rowBytes :=
    match h.kind with
    | .bits => (h.width + 7) / 8
    | _ => h.width * h.color.bytesPerPixel
  let size := rowBytes * h.height
  let some data := Codec.slice? bytes 0 size | throw (.io .readTooLittle)
  match h.kind with
  | .bits =>
    return (List.range h.height).flatMap fun y =>
      (((data.drop (y * rowBytes)).take rowBytes).flatMap byteBits).take h.width
  | _ => return if h.color.deep then pairs data else data.map UInt8.toNat

def scaleSample (maxval top sample : Nat) : Nat :=
  let factor := top.toUInt32.toFloat32 / maxval.toUInt32.toFloat32
  min top (sample.toUInt32.toFloat32 * factor).round.toUInt32.toNat

def checkSize (h : Header) : Except Error Unit :=
  if h.width * h.height * h.color.bytesPerPixel < Text.wordBound then .ok ()
  else
    .error <| .unsupported <|
      "Image dimensions (" ++ toString h.width ++ "x" ++ toString h.height ++ ") are too large"

def decode (file : List UInt8) : Except Error Raster := do
  let (h, rest) ← readHeader file
  checkSize h
  Codec.reserve h.width h.height h.color
  let samples ←
    match h.kind, h.asText with
    | .bits, true => textBits h.sampleCount rest
    | _, true => textSamples h.color.maxSample h.sampleCount rest
    | _, false => binarySamples h rest
  let top := h.color.maxSample
  let scaled :=
    if h.kind = .bits ∨ h.maxval = top then samples else samples.map (scaleSample h.maxval top)
  return { width := h.width, height := h.height, color := h.color, samples := scaled.toArray }

end BatchClassifier.Anymap
