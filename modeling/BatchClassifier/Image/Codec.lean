import BatchClassifier.Failure
import BatchClassifier.Image.Raster

namespace BatchClassifier

inductive CodecError (φ : Type)
  | io (fault : IoFault)
  | malformed (fault : φ)
  | unsupported (feature : String)
  | tooMuchMemory
deriving DecidableEq, Repr

def CodecError.message {φ : Type} (decoder : String) (wording : φ → String) : CodecError φ → String
  | .io fault => fault.message
  | .malformed fault => "Format error decoding " ++ decoder ++ ": " ++ wording fault
  | .unsupported feature =>
    "The decoder for " ++ decoder ++ " does not support the format features " ++ feature
  | .tooMuchMemory => "Memory limit exceeded"

namespace Codec

variable {φ : Type}

def littleEndian (bytes : List UInt8) : Nat := bytes.foldr (fun b n => n * 256 + b.toNat) 0

def bigEndian (bytes : List UInt8) : Nat := bytes.foldl (fun n b => n * 256 + b.toNat) 0

def slice? (bytes : List UInt8) (offset size : Nat) : Option (List UInt8) :=
  let found := (bytes.drop offset).take size
  if found.length = size then some found else none

theorem slice?_eq_some {bytes found : List UInt8} {offset size : Nat}
    (h : slice? bytes offset size = some found) : (bytes.drop offset).take size = found := by
  simp only [slice?] at h
  split at h
  · exact Option.some.inj h
  · cases h

def memoryLimit : Nat := 512 * 1024 * 1024

def reserve (width height : Nat) (color : Color) : Except (CodecError φ) Unit :=
  if memoryLimit < width * height * color.bytesPerPixel then .error .tooMuchMemory else .ok ()

def upperHexByte (b : UInt8) : String :=
  let digit (n : Nat) : Char := if n < 10 then Char.ofNat (48 + n) else Char.ofNat (55 + n)
  String.ofList ['0', 'x', digit (b.toNat / 16), digit (b.toNat % 16)]

end Codec

end BatchClassifier
