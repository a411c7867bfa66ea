import BatchClassifier.Text.Number

namespace BatchClassifier

class Scalar (α : Type) extends Add α, Sub α, Div α where
  zero : α
  exp : α → α
  larger : α → α → α
  exceeds : α → α → Bool

abbrev Score := Float32

namespace Score

def magnitude (x : Score) : UInt32 := x.toBits &&& 0x7FFFFFFF

def isNegative (x : Score) : Bool := x.toBits &&& 0x80000000 != 0

def isNaN (x : Score) : Bool := 0x7F800000 < x.magnitude

def isInfinite (x : Score) : Bool := x.magnitude == 0x7F800000

/-- The place of a number in the order of numbers; both zeros have one place. -/
def key (x : Score) : Int :=
  if x.isNegative then -(x.magnitude.toNat : Int) else x.magnitude.toNat

/-- A NaN neither exceeds anything nor is exceeded. -/
def exceeds (x y : Score) : Bool := !x.isNaN && !y.isNaN && y.key < x.key

/-- The larger of two numbers; a NaN yields to a number. -/
def larger (x y : Score) : Score :=
  if x.isNaN then y else if y.exceeds x then y else x

instance : Scalar Score where
  zero := 0
  exp := Float32.exp
  larger := larger
  exceeds := exceeds

/-- A finite number without its sign, as `mantissa * 2 ^ (exponent - 149)`. -/
def parts (x : Score) : Nat × Nat :=
  let fraction := x.magnitude.toNat % (1 <<< 23)
  match x.magnitude.toNat >>> 23 with
  | 0 => (fraction, 0)
  | e + 1 => (fraction + 1 <<< 23, e)

/-- A score with a fixed number of decimal places. The sign is kept on a number that rounds to zero. -/
def fixed (places : Nat) (x : Score) : String :=
  if x.isNaN then "NaN"
  else
    let sign := if x.isNegative then "-" else ""
    if x.isInfinite then sign ++ "inf"
    else
      let (mantissa, exponent) := x.parts
      sign ++ Text.withPoint places
        (Text.roundDiv (mantissa <<< exponent * Nat.pow 10 places) (1 <<< 149))

end Score

end BatchClassifier
