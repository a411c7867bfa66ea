import BatchClassifier.Image.Codec
import BatchClassifier.Image.Inflate
import BatchClassifier.Text.Quoted

namespace BatchClassifier.Png

structure ChunkKind where
  name : List UInt8
deriving DecidableEq, Repr

namespace ChunkKind

def ofName (name : String) : ChunkKind := ⟨name.toUTF8.toList⟩

def isLower (k : ChunkKind) (place : Nat) : Bool := ((k.name[place]?).getD 0).toNat / 32 % 2 == 1

def isCritical (k : ChunkKind) : Bool := !k.isLower 0

def describe (k : ChunkKind) : String :=
  let name := k.name.flatMap fun b => Text.escape ['\'', '"'] (Char.ofNat b.toNat)
  "ChunkType \x7b type: " ++ String.ofList name ++ ", critical: " ++ toString k.isCritical ++
    ", private: " ++ toString (k.isLower 1) ++ ", reserved: " ++ toString (k.isLower 2) ++
    ", safecopy: " ++ toString (k.isLower 3) ++ " \x7d"

def header : ChunkKind := .ofName "IHDR"

def palette : ChunkKind := .ofName "PLTE"

def transparency : ChunkKind := .ofName "tRNS"

def background : ChunkKind := .ofName "bKGD"

def codePoints : ChunkKind := .ofName "cICP"

def animation : ChunkKind := .ofName "acTL"

def frame : ChunkKind := .ofName "fcTL"

def frameData : ChunkKind := .ofName "fdAT"

def imageData : ChunkKind := .ofName "IDAT"

def imageEnd : ChunkKind := .ofName "IEND"

def isKnownCritical (k : ChunkKind) : Bool := [header, palette, imageData, imageEnd].contains k

def lengths? (k : ChunkKind) : Option (Nat × Nat) :=
  [(header, 13, 13), (palette, 3, 768), (imageEnd, 0, 0), (animation, 8, 8), (frame, 26, 26),
    (transparency, 0, 256), (background, 0, 6), (codePoints, 0, 4)].lookup k

def allows (k : ChunkKind) (length : Nat) : Bool :=
  match k.lengths? with
  | some (least, greatest) => least ≤ length && length ≤ greatest
  | none => true

/-- A faulty chunk that an image does not need is left out, unless it concerns animations. -/
def isNeeded (k : ChunkKind) : Bool := k.isCritical || k = animation || k = frame

end ChunkKind

inductive Fault
  | invalidSignature
  | checksum (stored computed : Nat) (kind : ChunkKind)
  | beforeHeader (kind : ChunkKind)
  | unknownCritical (kind : ChunkKind)
  | wrongLength (kind : ChunkKind)
  | repeated (kind : ChunkKind)
  | misplaced (kind : ChunkKind)
  | missingImageData
  | notEnoughData
  | shortFrameData
  | sequence (expected present : Nat)
  | frameOutOfBounds
  | invalidDispose (operation : Nat)
  | invalidBlend (operation : Nat)
  | invalidDimensions
  | invalidBitDepth (depth : Nat)
  | invalidColorType (color : Nat)
  | invalidCombination (color depth : Nat)
  | unknownCompression (method : Nat)
  | unknownFilter (method : Nat)
  | unknownInterlacing (method : Nat)
  | paletteRequired
  | corruptStream (fault : Inflate.Fault)
  | unfinishedStream
deriving DecidableEq, Repr

def colorTypeName : Nat → String
  | 0 => "Grayscale"
  | 2 => "Rgb"
  | 3 => "Indexed"
  | 4 => "GrayscaleAlpha"
  | _ => "Rgba"

def bitDepthName : Nat → String
  | 1 => "One"
  | 2 => "Two"
  | 4 => "Four"
  | 8 => "Eight"
  | _ => "Sixteen"

def hexNumber (n : Nat) : String := "0x" ++ String.ofList (Nat.toDigits 16 n)

def Fault.message : Fault → String
  | .invalidSignature => "Invalid PNG signature."
  | .checksum stored computed kind =>
    "CRC error: expected " ++ hexNumber stored ++ " have " ++ hexNumber computed ++
      " while decoding " ++ kind.describe ++ " chunk."
  | .beforeHeader kind => kind.describe ++ " chunk appeared before IHDR chunk"
  | .unknownCritical kind => "Unrecognized critical chunk: " ++ kind.describe
  | .wrongLength kind => "Chunk length wrong: " ++ kind.describe
  | .repeated kind => "Chunk " ++ kind.describe ++ " must appear at most once."
  | .misplaced kind => "Unexpected restart of " ++ kind.describe ++ " chunk sequence"
  | .missingImageData => "IDAT or fdAT chunk is missing."
  | .notEnoughData => "IDAT or fDAT chunk does not have enough data for image."
  | .shortFrameData => "fdAT chunk shorter than 4 bytes"
  | .sequence expected present =>
    "Sequence is not in order, expected #" ++ toString expected ++ " got #" ++ toString present ++ "."
  | .frameOutOfBounds => "Sub frame is out-of-bounds."
  | .invalidDispose operation => "Invalid dispose op " ++ toString operation ++ "."
  | .invalidBlend operation => "Invalid blend op " ++ toString operation ++ "."
  | .invalidDimensions => "Invalid image dimensions"
  | .invalidBitDepth depth => "Invalid bit depth " ++ toString depth ++ "."
  | .invalidColorType color => "Invalid color type " ++ toString color ++ "."
  | .invalidCombination color depth =>
    "Invalid color/depth combination in header: " ++ colorTypeName color ++ "/" ++ bitDepthName depth
  | .unknownCompression method => "Unknown compression method " ++ toString method ++ "."
  | .unknownFilter method => "Unknown filter method " ++ toString method ++ "."
  | .unknownInterlacing method => "Unknown interlace method " ++ toString method ++ "."
  | .paletteRequired => "Missing palette of indexed image."
  | .corruptStream fault => "Corrupt deflate stream. " ++ fault.name
  | .unfinishedStream => "Corrupt deflate stream. InsufficientInput"

abbrev Error := CodecError Fault

def endOfFile : Error := .io (.ofKind .unexpectedEof)

def check (condition : Bool) (fault : Fault) : Except Error Unit :=
  if condition then .ok () else .error (.malformed fault)

def crcStep (crc : UInt32) (b : UInt8) : UInt32 :=
  (List.range 8).foldl
    (fun (c : UInt32) _ => if c &&& 1 = 1 then (0xEDB88320 : UInt32) ^^^ (c >>> 1) else c >>> 1) (crc ^^^ b.toUInt32)

def crc (bytes : List UInt8) : Nat :=
  let state : UInt32 := bytes.foldl crcStep 0xFFFFFFFF
  (state ^^^ 0xFFFFFFFF).toNat

def chunkStart? (bytes : List UInt8) : Option (ChunkKind × Nat × List UInt8) :=
  (Codec.slice? bytes 0 8).map fun start =>
    (⟨start.drop 4⟩, Codec.bigEndian (start.take 4), bytes.drop 8)

theorem length_lt_of_chunkStart? {bytes rest : List UInt8} {kind : ChunkKind} {length : Nat}
    (h : chunkStart? bytes = some (kind, length, rest)) : rest.length < bytes.length := by
  obtain ⟨start, hs, he⟩ := Option.map_eq_some_iff.1 h
  cases he
  simp only [Codec.slice?, List.drop_zero, Option.ite_none_right_eq_some] at hs
  have := hs.1
  simp only [List.length_take] at this
  simp only [List.length_drop]
  omega

/-- Whether the checksum of a chunk is right. All of the chunk has to be there, and only the checksum
of a critical chunk has to be right. -/
def checkChunk (kind : ChunkKind) (length : Nat) (bytes : List UInt8) : Except Error Bool := do
  let some data := Codec.slice? bytes 0 length | throw endOfFile
  let some stored := Codec.slice? bytes length 4 | throw endOfFile
  let stored := Codec.bigEndian stored
  let computed := crc (kind.name ++ data)
  check (!kind.isCritical || stored == computed) (.checksum stored computed kind)
  return stored == computed

end BatchClassifier.Png
