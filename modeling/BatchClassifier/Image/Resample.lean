import BatchClassifier.Image.Raster

namespace BatchClassifier.Resample

def triangle (x : Float32) : Float32 := if x.abs < 1 then 1 - x.abs else 0

def ofNat (n : Nat) : Float32 := n.toUInt32.toFloat32

def clamp (low high x : Int) : Int := if x < low then low else if high < x then high else x

structure Window where
  first : Nat
  shares : Array Float32

def window (size newSize i : Nat) : Window :=
  let ratio := ofNat size / ofNat newSize
  let scale := if ratio < 1 then 1 else ratio
  let centre := (ofNat i + 0.5) * ratio
  let first := (clamp 0 (size - 1) (centre - scale).floor.toInt64.toInt).toNat
  let last := (clamp (first + 1) size (centre + scale).ceil.toInt64.toInt).toNat
  let weights := (Array.range (last - first)).map fun j =>
    triangle ((ofNat (first + j) - (centre - 0.5)) / scale)
  let total := weights.foldl (· + ·) 0
  ⟨first, weights.map (· / total)⟩

def Window.apply (w : Window) (sample : Nat → Float32) : Float32 :=
  (w.shares.zipIdx.map fun (share, j) => sample (w.first + j) * share).foldl (· + ·) 0

def toSample (maxSample : Nat) (x : Float32) : Nat :=
  let top := ofNat maxSample
  let x := if x < 0 then 0 else if top < x then top else x
  x.round.toUInt32.toNat

/-- The image with new dimensions, first its columns and then its rows. One without pixels has none to
spread, and gives black. -/
def resize (r : Raster) (width height : Nat) : Raster :=
  if r.width = 0 ∨ r.height = 0 then Raster.tabulate width height r.color fun _ _ _ => 0
  else if r.width = width ∧ r.height = height then r
  else
    let n := r.color.channels.count
    let columns : Array Float32 :=
      (Array.range height).flatMap fun y =>
        let w := window r.height height y
        (Array.range r.width).flatMap fun x =>
          (Array.range n).map fun c => w.apply fun j => ofNat (r.sample x j c)
    let windows := (Array.range width).map (window r.width width)
    Raster.tabulate width height r.color fun x y c =>
      let w := windows[x]?.getD ⟨0, #[]⟩
      toSample r.color.maxSample <|
        w.apply fun j => (columns[(y * r.width + j) * n + c]?).getD 0

end BatchClassifier.Resample
