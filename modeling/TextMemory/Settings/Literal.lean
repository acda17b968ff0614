import TextMemory.Number
import TextMemory.Text.Blank
import TextMemory.Text.DecimalDigit

/-!
# Numbers in settings

An integer is an optional sign and decimal digits of any script, with single underscores between
digits, at most 4300 of them. A number may also have a point, a power of ten, or be one of the names
of infinity and of what is no number. Blanks around either do not count.
-/
namespace TextMemory.Literal

/-- Blanks around a number; the four separators among the controls are none. -/
def isSpace (c : Char) : Bool := Text.isBlank c && !(0x1c ≤ c.toNat && c.toNat ≤ 0x1f)

def plainDigit (c : Char) : Char :=
  match Text.decimalValue? c with
  | some n => Nat.digitChar n
  | none => c

def plain (s : String) : List Char := (Text.trimChars isSpace s.toList).map plainDigit

def signed (cs : List Char) : Bool × List Char :=
  match cs with
  | '-' :: rest => (true, rest)
  | '+' :: rest => (false, rest)
  | _ => (false, cs)

/-- The leading digits, without the underscores between them, and the rest. It fails where an
underscore does not stand between two digits. -/
def spanDigits (afterDigit : Bool) : List Char → Option (List Char × List Char)
  | [] => some ([], [])
  | c :: cs =>
    if c.isDigit then (spanDigits true cs).map fun (ds, rest) => (c :: ds, rest)
    else if c = '_' then
      if afterDigit && (cs.head?.map Char.isDigit).getD false then spanDigits false cs else none
    else some ([], c :: cs)

def value (ds : List Char) : Nat := ofDigits (ds.map fun c => c.toNat - '0'.toNat)

def digitLimit : Nat := 4300

def int (s : String) : Except Fault Int :=
  let (negative, rest) := signed (plain s)
  match spanDigits false rest with
  | none => .error (.integerText s)
  | some ([], _) => .error (.integerText s)
  | some (ds, rest) =>
    if digitLimit < ds.length then .error (.digitLimit ds.length)
    else if rest.isEmpty then .ok (if negative then -(value ds : Int) else (value ds : Int))
    else .error (.integerText s)

def places? : List Char → Option (List Char × List Char)
  | '.' :: rest => spanDigits false rest
  | rest => some ([], rest)

def power? : List Char → Option Int
  | [] => some 0
  | e :: rest =>
    if e = 'e' || e = 'E' then do
      let (negative, rest) := signed rest
      let (power, rest) ← spanDigits false rest
      if power.isEmpty || !rest.isEmpty then none
      return if negative then -(value power : Int) else (value power : Int)
    else none

def decimal? (cs : List Char) : Option Decimal := do
  let (whole, rest) ← spanDigits false cs
  let (places, rest) ← places? rest
  if whole.isEmpty && places.isEmpty then none
  let power ← power? rest
  return ⟨value (whole ++ places), power - places.length⟩

def named? (cs : List Char) : Option Float :=
  let name := String.ofList (cs.map Char.toLower)
  if name = "inf" || name = "infinity" then some (1.0 / 0.0)
  else if name = "nan" then some (0.0 / 0.0)
  else none

def float? (s : String) : Option Float :=
  let (negative, rest) := signed (plain s)
  match named? rest with
  | some x => some (if negative then -x else x)
  | none => (decimal? rest).map fun d => d.toFloat negative

end TextMemory.Literal
