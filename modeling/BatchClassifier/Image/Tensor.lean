import BatchClassifier.Image.Resample
import BatchClassifier.Score

namespace BatchClassifier

structure InputSize where
  width : Nat
  height : Nat
deriving DecidableEq, Repr

structure Tensor where
  size : InputSize
  data : Array Score

namespace Tensor

def channels : Nat := 3

def area (s : InputSize) : Nat := s.width * s.height

def shape (t : Tensor) : List Nat := [1, channels, t.size.height, t.size.width]

def plane? (t : Tensor) (channel : Nat) : Option (Array Score) :=
  let first := channel * area t.size
  let last := (channel + 1) * area t.size
  if last ≤ t.data.size then some (t.data.extract first last) else none

def index (s : InputSize) (channel y x : Nat) : Nat := channel * area s + (y * s.width + x)

def cells (s : InputSize) : List (Nat × Nat × Nat) :=
  (List.range s.height).flatMap fun y =>
    (List.range s.width).flatMap fun x => (List.range channels).map fun c => (c, y, x)

def scale (sample : Nat) : Score := sample.toUInt8.toFloat32 / 255

def fill (s : InputSize) (pixel : Nat → Nat → Nat → Nat) : Tensor where
  size := s
  data :=
    (cells s).foldl (fun data (c, y, x) => data.setIfInBounds (index s c y x) (scale (pixel x y c)))
      (Array.replicate (channels * area s) 0)

def ofRaster (r : Raster) (s : InputSize) : Tensor :=
  fill s (Resample.resize r s.width s.height).rgb

end Tensor

end BatchClassifier
