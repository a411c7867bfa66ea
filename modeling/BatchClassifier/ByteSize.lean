import BatchClassifier.Text.Cut
import BatchClassifier.Text.Number

namespace BatchClassifier.ByteSize

inductive Error
  | empty
  | missingNumber (input : String)
  | unknownUnit (unit input : String)
  | overflow (input : String)
deriving DecidableEq, Repr

def Error.message : Error → String
  | .empty => "size cannot be empty"
  | .missingNumber input => "size '" ++ input ++ "' does not contain a numeric part"
  | .unknownUnit unit input => "unknown storage unit '" ++ unit ++ "' in '" ++ input ++ "'"
  | .overflow input => "size '" ++ input ++ "' is too large to be represented"

def exponent? : String → Option Nat
  | "" | "b" => some 0
  | "k" | "kb" => some 1
  | "m" | "mb" => some 2
  | "g" | "gb" => some 3
  | "t" | "tb" => some 4
  | _ => none

def split (input : String) : List Char × List Char :=
  ((Text.trim input.toList).map Char.toLower).span Char.isDigit

def parse (input : String) : Except Error Nat := do
  let (digits, unit) := split input
  if digits.isEmpty && unit.isEmpty then throw .empty
  if digits.isEmpty then throw (.missingNumber input)
  let some e := exponent? (String.ofList unit) | throw (.unknownUnit (String.ofList unit) input)
  match Text.readDigits Text.wordBound 0 digits with
  | .error _ => throw (.overflow input)
  | .ok n => if n * Nat.pow 1024 e < Text.wordBound then pure (n * Nat.pow 1024 e) else throw (.overflow input)

end BatchClassifier.ByteSize
