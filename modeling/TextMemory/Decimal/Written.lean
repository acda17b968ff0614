import TextMemory.Decimal.Shortest

/-!
# Numbers as text

A number in natural form has its fewest digits, positional from 1e-4 up to 1e16 and otherwise with a
signed exponent of at least two digits. A number with fixed places is the exact value rounded to
that many, halves to even.
-/
namespace TextMemory

def zeros (n : Nat) : List Char := List.replicate n '0'

def positional (ds : List Char) (point : Int) : List Char :=
  if point ≤ 0 then '0' :: '.' :: zeros (-point).toNat ++ ds
  else if (ds.length : Int) ≤ point then ds ++ zeros (point.toNat - ds.length) ++ ['.', '0']
  else ds.take point.toNat ++ '.' :: ds.drop point.toNat

def scientific (ds : List Char) (point : Int) : List Char :=
  let power := point - 1
  let sign := if power < 0 then '-' else '+'
  let places := decimalChars power.natAbs
  ds.take 1 ++ (if ds.length ≤ 1 then [] else '.' :: ds.drop 1) ++
    'e' :: sign :: zeros (2 - places.length) ++ places

def naturalChars (bits : Nat) : List Char :=
  let d := Decimal.shortest bits
  let ds := decimalChars d.digits
  let point : Int := if bits = 0 then 1 else ds.length + d.exponent
  if -4 < point ∧ point ≤ 16 then positional ds point else scientific ds point

def signChars (x : Float) : List Char := if Binary64.isNegative x then ['-'] else []

def naturalText (names : String × String) (x : Float) : String :=
  let bits := Binary64.magnitude x
  if Binary64.infinityBits < bits then names.2
  else if bits = Binary64.infinityBits then String.ofList (signChars x) ++ names.1
  else String.ofList (signChars x ++ naturalChars bits)

def fixedText (places : Nat) (x : Float) : String :=
  let bits := Binary64.magnitude x
  if Binary64.infinityBits < bits then "nan"
  else if bits = Binary64.infinityBits then String.ofList (signChars x) ++ "inf"
  else
    let (num, den) := Binary64.ratio bits
    let n := Binary64.roundDiv (num * Nat.pow 10 places) den
    let ds := decimalChars (n % Nat.pow 10 places)
    String.ofList (signChars x ++ decimalChars (n / Nat.pow 10 places) ++
      '.' :: zeros (places - ds.length) ++ ds)

end TextMemory
