namespace BatchClassifier

inductive Channels
  | gray
  | grayAlpha
  | rgb
  | rgba
deriving DecidableEq, Repr

def Channels.count : Channels → Nat
  | .gray => 1
  | .grayAlpha => 2
  | .rgb => 3
  | .rgba => 4

structure Color where
  channels : Channels
  deep : Bool := false
deriving DecidableEq, Repr

namespace Color

def all : List Color :=
  [⟨.gray, false⟩, ⟨.grayAlpha, false⟩, ⟨.rgb, false⟩, ⟨.rgba, false⟩,
    ⟨.gray, true⟩, ⟨.grayAlpha, true⟩, ⟨.rgb, true⟩, ⟨.rgba, true⟩]

def name (c : Color) : String :=
  let letters := match c.channels with
    | .gray => "L"
    | .grayAlpha => "La"
    | .rgb => "Rgb"
    | .rgba => "Rgba"
  letters ++ if c.deep then "16" else "8"

def ofName? (name : String) : Option Color := all.find? (·.name == name)

def maxSample (c : Color) : Nat := if c.deep then 65535 else 255

def bytesPerPixel (c : Color) : Nat := c.channels.count * if c.deep then 2 else 1

end Color

structure Raster where
  width : Nat
  height : Nat
  color : Color
  samples : Array Nat
deriving DecidableEq, Repr

namespace Raster

def sample (r : Raster) (x y c : Nat) : Nat :=
  (r.samples[(y * r.width + x) * r.color.channels.count + c]?).getD 0

def tabulate (width height : Nat) (color : Color) (f : Nat → Nat → Nat → Nat) : Raster where
  width := width
  height := height
  color := color
  samples :=
    (Array.range height).flatMap fun y =>
      (Array.range width).flatMap fun x => (Array.range color.channels.count).map (f x y)

def narrow (deep : Bool) (v : Nat) : Nat := if deep then (v + 128) / 257 else v

/-- Red, green and blue of a pixel as eight-bit samples; gray counts for all three, and opacity for
none. -/
def rgb (r : Raster) (x y c : Nat) : Nat :=
  narrow r.color.deep <|
    match r.color.channels with
    | .gray | .grayAlpha => r.sample x y 0
    | .rgb | .rgba => r.sample x y c

def toRgb8 (r : Raster) : Raster := tabulate r.width r.height ⟨.rgb, false⟩ r.rgb

end Raster

end BatchClassifier
