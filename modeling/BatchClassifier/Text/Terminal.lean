import BatchClassifier.Text.Utf8

namespace BatchClassifier.Text.Terminal

inductive Style
  | bold
  | underlined
  | yellow
deriving DecidableEq, Repr

def Style.start : Style → String
  | .bold => "\x1b[1m"
  | .underlined => "\x1b[4m"
  | .yellow => "\x1b[33m"

def styled (styles : List Style) (text : String) : String :=
  String.join (styles.map Style.start) ++ text ++ "\x1b[0m"

inductive Mode
  | ground
  | escape
  | intermediate
  | control
  | string (last : UInt8)
deriving DecidableEq, Repr

def isLayout (b : UInt8) : Bool := b == 9 || b == 10 || b == 12 || b == 13

def continues (b : UInt8) : Bool := 0x80 ≤ b && b < 0xC0

namespace Mode

/-- Whether a byte stays. Unless characters are left out as a whole, the bytes of a character after
the first one stay even within an escape sequence. -/
def keeps (whole : Bool) (m : Mode) (b : UInt8) : Bool :=
  match m with
  | .ground => isLayout b || (0x20 ≤ b && b ≠ 0x7F)
  | .escape | .intermediate | .control => isLayout b || (!whole && continues b)
  | .string _ => !whole && continues b

def next (m : Mode) (b : UInt8) : Mode :=
  if b = 0x1B then .escape
  else if b = 0x18 ∨ b = 0x1A then .ground
  else
    match m with
    | .ground => .ground
    | .escape =>
      if b = 0x5B then .control
      else if b = 0x5D then .string 0x07
      else if b = 0x50 ∨ b = 0x58 ∨ b = 0x5E ∨ b = 0x5F then .string 0x9C
      else if 0x20 ≤ b ∧ b ≤ 0x2F then .intermediate
      else if 0x30 ≤ b ∧ b ≤ 0x7E then .ground
      else .escape
    | .intermediate => if 0x30 ≤ b ∧ b ≤ 0x7E then .ground else .intermediate
    | .control => if 0x40 ≤ b ∧ b ≤ 0x7E then .ground else .control
    | .string last => if b = last then .ground else .string last

def kept (whole : Bool) : Mode → List UInt8 → List UInt8
  | _, [] => []
  | m, b :: rest =>
    if m.keeps whole b then b :: kept whole .ground rest else kept whole (m.next b) rest

end Mode

def plain (whole : Bool) (text : String) : String :=
  String.ofList (Utf8.decodeLossy (Mode.ground.kept whole (Utf8.encode text.toList)))

end BatchClassifier.Text.Terminal
