namespace BatchClassifier.Inflate

inductive Fault
  | badZlibHeader
  | invalidBlockType
  | invalidUncompressedBlockLength
  | invalidHlit
  | invalidHdist
  | invalidCodeLengthRepeat
  | badCodeLengthHuffmanTree
  | badLiteralLengthHuffmanTree
  | badDistanceHuffmanTree
  | invalidDistanceCode
  | distanceTooFarBack
deriving DecidableEq, Repr

def Fault.name : Fault → String
  | .badZlibHeader => "BadZlibHeader"
  | .invalidBlockType => "InvalidBlockType"
  | .invalidUncompressedBlockLength => "InvalidUncompressedBlockLength"
  | .invalidHlit => "InvalidHlit"
  | .invalidHdist => "InvalidHdist"
  | .invalidCodeLengthRepeat => "InvalidCodeLengthRepeat"
  | .badCodeLengthHuffmanTree => "BadCodeLengthHuffmanTree"
  | .badLiteralLengthHuffmanTree => "BadLiteralLengthHuffmanTree"
  | .badDistanceHuffmanTree => "BadDistanceHuffmanTree"
  | .invalidDistanceCode => "InvalidDistanceCode"
  | .distanceTooFarBack => "DistanceTooFarBack"

inductive Halt
  | starved
  | faulty (fault : Fault)
deriving DecidableEq, Repr

abbrev Bits := List Bool

def bitsOf (bytes : List UInt8) : Bits :=
  bytes.flatMap fun b => (List.range 8).map b.toNat.testBit

def demand (count : Nat) (bits : Bits) : Except Halt Unit :=
  if (bits.take count).length = count then .ok () else .error .starved

def require (condition : Bool) (fault : Fault) : Except Halt Unit :=
  if condition then .ok () else .error (.faulty fault)

def number : Nat → Bits → Except Halt (Nat × Bits)
  | 0, bits => .ok (0, bits)
  | _ + 1, [] => .error .starved
  | n + 1, b :: rest => (number n rest).map fun (v, rest) => (b.toNat + 2 * v, rest)

def numbers (width : Nat) : Nat → Bits → Except Halt (List Nat × Bits)
  | 0, bits => .ok ([], bits)
  | n + 1, bits => do
    let (v, bits) ← number width bits
    let (vs, bits) ← numbers width n bits
    return (v :: vs, bits)

/-- A code: how many code words have each length from one up to the greatest, and the symbols in the
order of their code words. -/
structure Code where
  counts : List Nat
  symbols : Array Nat

def Code.ofLengths (lengths : List Nat) : Code :=
  let longest := max 1 (lengths.foldl max 0)
  { counts := (List.range longest).map fun i => lengths.count (i + 1)
    symbols :=
      ((List.range longest).flatMap fun i =>
        (lengths.zipIdx.filter fun (l, _) => l = i + 1).map Prod.snd).toArray }

def Code.free? (c : Code) : Option Nat :=
  c.counts.foldlM (fun free count => if count ≤ 2 * free then some (2 * free - count) else none) 1

def Code.isComplete (c : Code) : Bool := c.free? == some 0

/-- Distances may also have a single code word of one bit, or none at all. -/
def Code.isUsableForDistances (c : Code) : Bool :=
  c.isComplete || (c.counts.length == 1 && c.symbols.size ≤ 1)

/-- Reads one code word. `first` is the first word of the present length, and `index` the place of
its symbol. Only distances have bits that are no code word. -/
def symbol (symbols : Array Nat) : List Nat → Nat → Nat → Nat → Bits → Except Halt (Nat × Bits)
  | [], _, _, _, _ => .error (.faulty .invalidDistanceCode)
  | _ :: _, _, _, _, [] => .error .starved
  | count :: counts, word, first, index, b :: rest =>
    let word := 2 * word + b.toNat
    let first := 2 * first
    if word < first + count then
      match symbols[index + (word - first)]? with
      | some s => .ok (s, rest)
      | none => .error (.faulty .invalidDistanceCode)
    else symbol symbols counts word (first + count) (index + count) rest

def Code.read (c : Code) (bits : Bits) : Except Halt (Nat × Bits) :=
  symbol c.symbols c.counts 0 0 0 bits

structure Codes where
  literals : Code
  distances : Code

def lengthTable : Array (Nat × Nat) :=
  #[(3, 0), (4, 0), (5, 0), (6, 0), (7, 0), (8, 0), (9, 0), (10, 0), (11, 1), (13, 1), (15, 1), (17, 1),
    (19, 2), (23, 2), (27, 2), (31, 2), (35, 3), (43, 3), (51, 3), (59, 3), (67, 4), (83, 4), (99, 4),
    (115, 4), (131, 5), (163, 5), (195, 5), (227, 5), (258, 0)]

def distanceTable : Array (Nat × Nat) :=
  #[(1, 0), (2, 0), (3, 0), (4, 0), (5, 1), (7, 1), (9, 2), (13, 2), (17, 3), (25, 3), (33, 4), (49, 4),
    (65, 5), (97, 5), (129, 6), (193, 6), (257, 7), (385, 7), (513, 8), (769, 8), (1025, 9), (1537, 9),
    (2049, 10), (3073, 10), (4097, 11), (6145, 11), (8193, 12), (12289, 12), (16385, 13), (24577, 13)]

inductive Element
  | literals (bytes : List UInt8)
  | copy (length distance : Nat)
  | endOfBlock

def pairWidth : Nat := 12

/-- Two literals at the front and their width, if they are read in one step; the second one has at
least two bits. Bits that are missing count as zeros here. -/
def literalPair? (c : Code) (bits : Bits) : Option (List UInt8 × Nat) :=
  let there := bits.take pairWidth
  let window := there ++ List.replicate (pairWidth - there.length) false
  match c.read window with
  | .error _ => none
  | .ok (a, rest) =>
    match c.read rest with
    | .error _ => none
    | .ok (b, last) =>
      if a < 256 ∧ b < 256 ∧ last.length + 2 ≤ rest.length then
        some ([a.toUInt8, b.toUInt8], pairWidth - last.length)
      else none

def extended (entry : Nat × Nat) (bits : Bits) : Except Halt (Nat × Bits) :=
  (number entry.2 bits).map fun (v, rest) => (entry.1 + v, rest)

/-- A symbol without a distance is noticed only if there are bits after it. -/
def distance (c : Code) (bits : Bits) : Except Halt (Nat × Bits) := do
  let (s, bits) ← c.read bits
  match distanceTable[s]? with
  | some entry => extended entry bits
  | none =>
    demand 1 bits
    throw (.faulty .invalidDistanceCode)

/-- Symbols beyond the table of lengths end a block too. -/
def element (c : Codes) (size : Nat) (bits : Bits) : Except Halt (Element × Bits) := do
  match literalPair? c.literals bits with
  | some (bytes, width) =>
    demand width bits
    return (.literals bytes, bits.drop width)
  | none =>
    let (s, bits) ← c.literals.read bits
    if s < 256 then return (.literals [s.toUInt8], bits)
    if s = 256 then return (.endOfBlock, bits)
    match lengthTable[s - 257]? with
    | none => return (.endOfBlock, bits)
    | some entry =>
      let (length, bits) ← extended entry bits
      let (back, bits) ← distance c.distances bits
      require (back ≤ size) .distanceTooFarBack
      return (.copy length back, bits)

def copy (distance : Nat) : Nat → Array UInt8 → Array UInt8
  | 0, out => out
  | n + 1, out => copy distance n (out.push ((out[out.size - distance]?).getD 0))

structure Piece where
  output : Array UInt8
  rest : Except Halt Bits

/-- The elements of one block up to its end, or until there is output enough. Each takes at least one
bit, which the fuel counts. -/
def coded (c : Codes) (limit : Nat) : Nat → Array UInt8 → Bits → Piece
  | 0, out, _ => ⟨out, .error .starved⟩
  | fuel + 1, out, bits =>
    if limit ≤ out.size then ⟨out, .error .starved⟩
    else
      match element c out.size bits with
      | .error halt => ⟨out, .error halt⟩
      | .ok (.literals bytes, bits) => coded c limit fuel (out ++ bytes.toArray) bits
      | .ok (.copy length distance, bits) => coded c limit fuel (copy distance length out) bits
      | .ok (.endOfBlock, bits) => ⟨out, .ok bits⟩

def stored (limit : Nat) : Nat → Array UInt8 → Bits → Piece
  | 0, out, bits => ⟨out, .ok bits⟩
  | n + 1, out, bits =>
    if limit ≤ out.size then ⟨out, .error .starved⟩
    else
      match number 8 bits with
      | .error halt => ⟨out, .error halt⟩
      | .ok (b, bits) => stored limit n (out.push b.toUInt8) bits

def fixedCodes : Codes where
  literals :=
    .ofLengths (List.replicate 144 8 ++ List.replicate 112 9 ++ List.replicate 24 7 ++ List.replicate 8 8)
  distances := .ofLengths (List.replicate 32 5)

def lengthOrder : List Nat := [16, 17, 18, 0, 8, 7, 9, 6, 10, 5, 11, 4, 12, 3, 13, 2, 14, 1, 15]

def codeLengthWidth : Nat := 7

/-- Code lengths, themselves coded, with repetitions of the last one or of zero. The list that is
built has the last length first. -/
def codeLengths (c : Code) (wanted : Nat) : Nat → List Nat → Bits → Except Halt (List Nat × Bits)
  | 0, _, _ => .error .starved
  | fuel + 1, found, bits => do
    require (found.length ≤ wanted) .invalidCodeLengthRepeat
    if found.length = wanted then return (found.reverse, bits)
    demand codeLengthWidth bits
    let (s, bits) ← c.read bits
    match s, found with
    | 16, found =>
      let (n, bits) ← number 2 bits
      match found with
      | [] => throw (.faulty .invalidCodeLengthRepeat)
      | last :: _ => codeLengths c wanted fuel (List.replicate (n + 3) last ++ found) bits
    | 17, _ =>
      let (n, bits) ← number 3 bits
      codeLengths c wanted fuel (List.replicate (n + 3) 0 ++ found) bits
    | 18, _ =>
      let (n, bits) ← number 7 bits
      codeLengths c wanted fuel (List.replicate (n + 11) 0 ++ found) bits
    | s, _ => codeLengths c wanted fuel (s :: found) bits

def ownCodes (bits : Bits) : Except Halt (Codes × Bits) := do
  demand 14 bits
  let (hlit, bits) ← number 5 bits
  let (hdist, bits) ← number 5 bits
  let (hclen, bits) ← number 4 bits
  require (hlit ≤ 29) .invalidHlit
  require (hdist ≤ 29) .invalidHdist
  let (given, bits) ← numbers 3 (hclen + 4) bits
  let table := lengthOrder.zip given
  let lengths := Code.ofLengths ((List.range 19).map fun s => (table.lookup s).getD 0)
  require lengths.isComplete .badCodeLengthHuffmanTree
  let literalCount := hlit + 257
  let wanted := literalCount + hdist + 1
  let (all, bits) ← codeLengths lengths wanted (wanted + 1) [] bits
  let literals := Code.ofLengths (all.take literalCount)
  let distances := Code.ofLengths (all.drop literalCount)
  require (all[256]?.getD 0 ≠ 0) .badLiteralLengthHuffmanTree
  require literals.isComplete .badCodeLengthHuffmanTree
  require distances.isUsableForDistances .badDistanceHuffmanTree
  return (⟨literals, distances⟩, bits)

def storedLength (bits : Bits) : Except Halt (Nat × Bits) := do
  let bits := bits.drop (bits.length % 8)
  demand 32 bits
  let (length, bits) ← number 16 bits
  let (check, bits) ← number 16 bits
  require (length + check = 65535) .invalidUncompressedBlockLength
  return (length, bits)

inductive Block
  | stored (length : Nat)
  | coded (codes : Codes)

def blockStart (bits : Bits) : Except Halt (Bool × Block × Bits) := do
  demand 10 bits
  let (last, bits) ← number 1 bits
  let (kind, bits) ← number 2 bits
  match kind with
  | 0 =>
    let (length, bits) ← storedLength bits
    return (last = 1, .stored length, bits)
  | 1 => return (last = 1, .coded fixedCodes, bits)
  | 2 =>
    let (codes, bits) ← ownCodes bits
    return (last = 1, .coded codes, bits)
  | _ => throw (.faulty .invalidBlockType)

def Block.read (b : Block) (limit : Nat) (out : Array UInt8) (bits : Bits) : Piece :=
  match b with
  | .stored length => Inflate.stored limit length out bits
  | .coded codes => Inflate.coded codes limit (bits.length + 1) out bits

/-- The blocks of a stream up to the last. Each takes at least ten bits. -/
def blocks (limit : Nat) : Nat → Array UInt8 → Bits → Piece
  | 0, out, _ => ⟨out, .error .starved⟩
  | fuel + 1, out, bits =>
    match blockStart bits with
    | .error halt => ⟨out, .error halt⟩
    | .ok (last, block, bits) =>
      let piece := block.read limit out bits
      match piece.rest with
      | .error _ => piece
      | .ok rest => if last then piece else blocks limit fuel piece.output rest

/-- The checksum at the end has to be there, but is not compared. -/
def checksum (bits : Bits) : Except Halt Bits :=
  (number 32 (bits.drop (bits.length % 8))).map Prod.snd

def isHeader (method flags : UInt8) : Bool :=
  method.toNat % 16 == 8 && method.toNat / 16 ≤ 7 && flags.toNat / 32 % 2 == 0 &&
    (method.toNat * 256 + flags.toNat) % 31 == 0

/-- As much of the content of a zlib stream as its beginning gives, or a little more than `limit`
bytes of it. -/
def decompress (limit : Nat) (bytes : List UInt8) : Piece :=
  match bytes with
  | method :: flags :: rest =>
    if isHeader method flags then
      let bits := bitsOf rest
      let piece := blocks limit (bits.length + 1) #[] bits
      { piece with rest := piece.rest >>= checksum }
    else ⟨#[], .error (.faulty .badZlibHeader)⟩
  | _ => ⟨#[], .error .starved⟩

end BatchClassifier.Inflate
