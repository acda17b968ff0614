/-!
# Texts in wide units

A text may also be kept in units of two or four bytes, the greatest or the least byte of a unit
first. A unit of two bytes is a character or half of a pair of units that stand for one; of a half
that stands alone no character is left, and U+FFFD takes its place.
-/
namespace TextMemory.Text

def isHighHalf (n : Nat) : Bool := 0xd800 ≤ n && n < 0xdc00

def isLowHalf (n : Nat) : Bool := 0xdc00 ≤ n && n < 0xe000

/-- The character of a unit that stands alone. Texts are made of scalar values only, so half of a
pair stands for the replacement character. -/
def unitChar (n : Nat) : Char :=
  if isHighHalf n || isLowHalf n then Char.ofNat 0xfffd else Char.ofNat n

def pairChar (high low : Nat) : Char :=
  Char.ofNat (0x10000 + (high - 0xd800) * 0x400 + (low - 0xdc00))

namespace Wide

structure Form where
  four : Bool
  greatestFirst : Bool
deriving DecidableEq, Repr

def form? : List UInt8 → Option Form
  | [a, b] => if a = 0 then some ⟨false, true⟩ else if b = 0 then some ⟨false, false⟩ else none
  | a :: b :: c :: d :: _ =>
    if a = 0 then some ⟨b = 0, true⟩
    else if b = 0 then some ⟨c = 0 && d = 0, false⟩
    else none
  | _ => none

def joined (greatestFirst : Bool) (base : Nat) : List Nat → Option (List Nat)
  | [] => some []
  | [_] => none
  | a :: b :: rest =>
    (joined greatestFirst base rest).map
      ((if greatestFirst then a * base + b else b * base + a) :: ·)

def pairedChars : List Nat → List Char
  | [] => []
  | [u] => [unitChar u]
  | u :: v :: rest =>
    if isHighHalf u && isLowHalf v then pairChar u v :: pairedChars rest
    else unitChar u :: pairedChars (v :: rest)

def decode? (f : Form) (bytes : List UInt8) : Option (List Char) := do
  let units ← joined f.greatestFirst 0x100 (bytes.map UInt8.toNat)
  if f.four then
    let codes ← joined f.greatestFirst 0x10000 units
    if codes.all (· < 0x110000) then return codes.map unitChar else none
  else return pairedChars units

end Wide
end TextMemory.Text
