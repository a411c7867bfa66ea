namespace BatchClassifier.Text

variable {α : Type}

/-- The pieces that end with a terminator, and a last one without it unless that is empty. -/
def cutAfter (ends : α → Bool) : List α → List (List α)
  | [] => []
  | a :: rest =>
    if ends a then [a] :: cutAfter ends rest
    else
      match cutAfter ends rest with
      | [] => [[a]]
      | piece :: more => (a :: piece) :: more

/-- The pieces between separators, one more than there are separators. -/
def cutAt (separates : α → Bool) : List α → List (List α)
  | [] => [[]]
  | a :: rest =>
    if separates a then [] :: cutAt separates rest
    else
      match cutAt separates rest with
      | [] => [[a]]
      | piece :: more => (a :: piece) :: more

def chop [DecidableEq α] (a : α) (l : List α) : List α :=
  if l.getLast? = some a then l.dropLast else l

theorem flatten_cutAfter (ends : α → Bool) (l : List α) : (cutAfter ends l).flatten = l := by
  induction l with
  | nil => rfl
  | cons a rest ih =>
    rw [cutAfter]
    split
    · simp [ih]
    · split <;> simp_all

/-- A line of text without its terminator; a carriage return counts only before a newline. -/
def lineText (piece : List Char) : List Char :=
  if piece.getLast? = some '\n' then chop '\r' piece.dropLast else piece

def lines (text : List Char) : List (List Char) := (cutAfter (· == '\n') text).map lineText

def firstLine (text : String) : String := String.ofList ((lines text.toList).head?.getD [])

def blanks : List (Nat × Nat) :=
  [(0x09, 0x0D), (0x20, 0x20), (0x85, 0x85), (0xA0, 0xA0), (0x1680, 0x1680), (0x2000, 0x200A),
    (0x2028, 0x2029), (0x202F, 0x202F), (0x205F, 0x205F), (0x3000, 0x3000)]

def isBlank (c : Char) : Bool := blanks.any fun (low, high) => low ≤ c.toNat && c.toNat ≤ high

def trimEnd (text : List Char) : List Char := (text.reverse.dropWhile isBlank).reverse

def trim (text : List Char) : List Char := trimEnd (text.dropWhile isBlank)

end BatchClassifier.Text
