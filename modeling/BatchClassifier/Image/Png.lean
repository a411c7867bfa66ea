import BatchClassifier.Image.Png.Preamble
import BatchClassifier.Image.Png.Rows
import BatchClassifier.Image.Raster

namespace BatchClassifier.Png

def rowSample (depth : Nat) (row : Array UInt8) (i : Nat) : Nat :=
  let byte (place : Nat) : Nat := ((row[place]?).getD 0).toNat
  match depth with
  | 16 => byte (2 * i) * 256 + byte (2 * i + 1)
  | 8 => byte i
  | _ => byte (i * depth / 8) >>> (8 - depth - i * depth % 8) % (1 <<< depth)

def resultColor (h : Header) (transparent : Bool) : Color :=
  let deep := h.depth == 16
  match h.color, transparent with
  | 0, false => ⟨.gray, deep⟩
  | 0, true => ⟨.grayAlpha, deep⟩
  | 4, _ => ⟨.grayAlpha, deep⟩
  | 2, false => ⟨.rgb, deep⟩
  | 3, false => ⟨.rgb, false⟩
  | 3, true => ⟨.rgba, false⟩
  | _, _ => ⟨.rgba, deep⟩

/-- A sample of the transparent color. Only one of its two bytes counts where samples have one. -/
def keySample (depth : Nat) (bytes : List UInt8) : Nat :=
  Codec.bigEndian bytes % if depth < 16 then 256 else 65536

def expand (h : Header) (palette : List UInt8) (transparency : Option (List UInt8))
    (pixel : List Nat) : List Nat :=
  let top := 1 <<< h.depth - 1
  match h.color with
  | 3 =>
    let i := pixel.headD 0
    let entry := (palette.drop (3 * i)).take 3
    let color := if entry.length = 3 then entry.map UInt8.toNat else [0, 0, 0]
    match transparency with
    | none => color
    | some opacity => color ++ [((opacity[i]?).getD 255).toNat]
  | 0 | 2 =>
    let full := if h.depth < 8 then pixel.map (· * (255 / top)) else pixel
    match transparency with
    | none => full
    | some marked =>
      let key := (List.range pixel.length).map fun c => keySample h.depth ((marked.drop (2 * c)).take 2)
      full ++ [if pixel = key then 0 else if h.depth = 16 then 65535 else 255]
  | _ => pixel

def pixels (h : Header) (palette : List UInt8) (transparency : Option (List UInt8))
    (row : Array UInt8) : List Nat :=
  (List.range h.width).flatMap fun x =>
    expand h palette transparency <|
      (List.range h.samplesPerPixel).map fun c => rowSample h.depth row (x * h.samplesPerPixel + c)

def signature : List UInt8 := [137, 80, 78, 71, 13, 10, 26, 10]

/-- The signature is compared four bytes at a time. -/
def checkSignature (file : List UInt8) : Except Error Unit := do
  let some first := Codec.slice? file 0 4 | throw endOfFile
  check (first = signature.take 4) .invalidSignature
  let some second := Codec.slice? file 4 4 | throw endOfFile
  check (second = signature.drop 4) .invalidSignature

def readFirstChunk (bytes : List UInt8) : Except Error (Header × List UInt8) := do
  let some (kind, length, rest) := chunkStart? bytes | throw endOfFile
  check (kind = .header) (.beforeHeader kind)
  check (kind.allows length) (.wrongLength kind)
  let _ ← checkChunk kind length rest
  return (← readHeader (rest.take length), rest.drop (length + 4))

def decode (file : List UInt8) : Except Error Raster := do
  checkSignature file
  let (h, rest) ← readFirstChunk (file.drop signature.length)
  let (preamble, rest) ← Preamble.read h {} rest
  let color := resultColor h preamble.transparency.isSome
  Codec.reserve h.width h.height color
  let rows ← h.readRows preamble.palette.isSome rest
  let samples := rows.flatMap (pixels h (preamble.palette.getD []) preamble.transparency)
  return { width := h.width, height := h.height, color, samples := samples.toArray }

end BatchClassifier.Png
