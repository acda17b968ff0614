import TextMemory.Decimal.Fifteen
import TextMemory.Decimal.Scaled
import TextMemory.Scalar

/-!
# Values in columns

A text column keeps numbers as text: integers by their digits, other numbers by fifteen significant
digits. A column of integers keeps texts that write a number as that number, and whole numbers as
integers of sixty-four bits; all else it keeps as it is.
-/
namespace TextMemory.Cell

def inWord (n : Int) : Bool := -9223372036854775808 ≤ n && n ≤ 9223372036854775807

def word (n : Int) : Except Fault Int := if inWord n then .ok n else .error .storedInteger

def realText (x : Float) : Option String :=
  let bits := Binary64.magnitude x
  if Binary64.infinityBits < bits then none
  else if bits = Binary64.infinityBits then some (if Binary64.isNegative x then "-Inf" else "Inf")
  else some (String.ofList (Fifteen.chars x))

def text (position : Nat) : Json → Except Fault (Option String)
  | .null => .ok none
  | .string s => .ok (some s)
  | .bool b => .ok (some (if b then "1" else "0"))
  | .number (.int n) => (word n).map fun n => some (toString n)
  | .number (.float x) => .ok (realText x)
  | v => .error (.unsupportedValue position v.kind)

def settled (x : Float) : Number :=
  match (Number.float x).canonical with
  | .int n =>
    if -9223372036854775808 < n ∧ n < 9223372036854775807 then .int n else .float x
  | n => n

def isSpace (c : Char) : Bool := c == ' ' || (9 ≤ c.toNat && c.toNat ≤ 13)

def allDigits (cs : List Char) : Bool := !cs.isEmpty && cs.all Char.isDigit

def power? : List Char → Option Int
  | [] => some 0
  | e :: rest =>
    let (negative, ds) := Literal.signed rest
    if (e = 'e' || e = 'E') && allDigits ds then
      some (if negative then -(Scaled.powerOf ds : Int) else (Scaled.powerOf ds : Int))
    else none

def number? (s : String) : Option Number := do
  let (negative, cs) := Literal.signed (Text.trimChars isSpace s.toList)
  let whole := cs.takeWhile Char.isDigit
  let rest := cs.dropWhile Char.isDigit
  let integer : Int := if negative then -(Literal.value whole : Int) else Literal.value whole
  if allDigits cs && inWord integer then return .int integer
  let (places, rest) := match rest with
    | '.' :: rest => (rest.takeWhile Char.isDigit, rest.dropWhile Char.isDigit)
    | _ => ([], rest)
  if whole.isEmpty && places.isEmpty then none
  let power ← power? rest
  let x := Scaled.read whole places power
  return settled (if negative then -x else x)

def scalar : Json → Option Scalar
  | .bool b => some (.int (if b then 1 else 0))
  | .number (.int n) => some (.int n)
  | .number (.float x) =>
    if Binary64.infinityBits < Binary64.magnitude x then none else some (.number (settled x))
  | .string s => some (((number? s).map Scalar.number).getD (.text s))
  | _ => none

def integer (position : Nat) (v : Json) : Except Fault (Option Scalar) :=
  (text position v).map fun _ => scalar v

def needed {α : Type} (column : String) : Option α → Except Fault α
  | some a => .ok a
  | none => .error (.missingValue column)

end TextMemory.Cell
