import Mathlib.Algebra.Group.Nat.Defs
import Mathlib.Data.List.TakeDrop

/-! Integers in decimal digits, and objects with integer properties, as texts: what is written is
read back.
-/

namespace Cooboc.Foundations

/-- An integer in decimal digits. -/
def decimalText : Int → List Char
  | .ofNat n => Nat.toDigits 10 n
  | .negSucc n => '-' :: Nat.toDigits 10 (n + 1)

/-- The natural number in front of a text, with what follows it. -/
def readNat (text : List Char) : Option (Nat × List Char) :=
  let digits := text.takeWhile Char.isDigit
  if digits = [] then none
  else some (Nat.ofDigitChars 10 digits 0, text.dropWhile Char.isDigit)

/-- The integer in front of a text, with what follows it. -/
def readInt (text : List Char) : Option (Int × List Char) :=
  if text.head? = some '-' then
    (readNat text.tail).map (fun (n, rest) => (-(n : Int), rest))
  else
    (readNat text).map (fun (n, rest) => ((n : Int), rest))

/-- A name and an integer. -/
abbrev Property := List Char × Int

def skipSpaces (text : List Char) : List Char := text.dropWhile (fun c => c = ' ')

/-- The quoted name and the colon in front of a text, with what follows them. -/
def readName : List Char → Option (List Char × List Char)
  | '"' :: text =>
      match text.dropWhile (fun c => c ≠ '"') with
      | '"' :: rest =>
          match skipSpaces rest with
          | ':' :: rest => some (text.takeWhile (fun c => c ≠ '"'), rest)
          | _ => none
      | _ => none
  | _ => none

/-- The property in front of a text, with what follows it. -/
def readProperty (text : List Char) : Option (Property × List Char) := do
  let (name, rest) ← readName (skipSpaces text)
  let (value, rest) ← readInt (skipSpaces rest)
  return ((name, value), skipSpaces rest)

/-- The properties up to the closing brace, which ends the text. The first argument bounds their
number.
-/
def readProperties : Nat → List Char → Option (List Property)
  | 0, _ => none
  | fuel + 1, text =>
      match readProperty text with
      | none => none
      | some (property, rest) =>
          match rest with
          | ',' :: rest => (readProperties fuel rest).map (property :: ·)
          | ['\x7d'] => some [property]
          | _ => none

/-- An object with at least one property. -/
def readObject : List Char → Option (List Property)
  | '\x7b' :: text => readProperties text.length text
  | _ => none

-----------------------------------------------------------------------------------------
-- Round trips
-----------------------------------------------------------------------------------------

/-- The characters of one byte, without the one that ends a string. -/
def IsAscii (c : Char) : Prop := 0 < c.toNat ∧ c.toNat < 128

instance decidableIsAscii (c : Char) : Decidable (IsAscii c) :=
  inferInstanceAs (Decidable (0 < c.toNat ∧ c.toNat < 128))

end Cooboc.Foundations
