import TextMemory.Calendar
import TextMemory.Number

/-!
# Points in time

A calendar date, a time of day down to the microsecond, and the offset of the clock that shows them,
if it is known. The written form is `YYYY-MM-DDThh:mm:ss`, with a fraction when the microseconds are
not zero and the offset as hours and minutes.
-/
namespace TextMemory

structure TimeParts where
  year : Nat
  month : Nat
  day : Nat
  hour : Nat
  minute : Nat
  second : Nat
  micro : Nat
  /-- microseconds ahead of universal time -/
  offset : Option Int
deriving DecidableEq, Repr

namespace TimeParts

def microsPerSecond : Nat := 1000000

def offsetInRange : Option Int → Bool
  | none => true
  | some o => o.natAbs < 86400 * microsPerSecond

def InRange (t : TimeParts) : Prop :=
  1 ≤ t.year ∧ t.year ≤ 9999 ∧ 1 ≤ t.month ∧ t.month ≤ 12 ∧ 1 ≤ t.day ∧
    t.day ≤ daysInMonth t.year t.month ∧ t.hour < 24 ∧ t.minute < 60 ∧ t.second < 60 ∧
    t.micro < microsPerSecond ∧ offsetInRange t.offset = true

instance (t : TimeParts) : Decidable t.InRange := by unfold InRange; infer_instance

def padded (width n : Nat) : List Char :=
  let ds := decimalChars n
  zeros (width - ds.length) ++ ds

def fractionChars (micro : Nat) : List Char := if micro = 0 then [] else '.' :: padded 6 micro

def offsetChars : Option Int → List Char
  | none => []
  | some o =>
    let micros := o.natAbs
    let seconds := micros / microsPerSecond
    let rest :=
      if seconds % 60 = 0 ∧ micros % microsPerSecond = 0 then []
      else ':' :: padded 2 (seconds % 60) ++ fractionChars (micros % microsPerSecond)
    (if o < 0 then '-' else '+') :: padded 2 (seconds / 3600) ++
      ':' :: padded 2 (seconds / 60 % 60) ++ rest

def chars (t : TimeParts) : List Char :=
  padded 4 t.year ++ '-' :: padded 2 t.month ++ '-' :: padded 2 t.day ++
    'T' :: padded 2 t.hour ++ ':' :: padded 2 t.minute ++ ':' :: padded 2 t.second ++
    fractionChars t.micro ++ offsetChars t.offset

def spanText (micros : Int) : String :=
  let seconds := Int.fdiv micros microsPerSecond
  let parts := [("days", Int.fdiv seconds 86400), ("seconds", Int.fmod seconds 86400),
    ("microseconds", Int.fmod micros microsPerSecond)].filter fun p => p.2 != 0
  let shown := parts.map fun (name, n) => s!"{name}={n}"
  "datetime.timedelta(" ++ (if shown.isEmpty then "0" else ", ".intercalate shown) ++ ")"

def rangeFault (t : TimeParts) : Fault :=
  .timestampField <|
    if !offsetInRange t.offset then
      "offset must be a timedelta strictly between -timedelta(hours=24) and " ++
        s!"timedelta(hours=24), not {spanText (t.offset.getD 0)}."
    else if t.year < 1 ∨ 9999 < t.year then s!"year {t.year} is out of range"
    else if t.month < 1 ∨ 12 < t.month then "month must be in 1..12"
    else if t.day < 1 ∨ daysInMonth t.year t.month < t.day then "day is out of range for month"
    else if 24 ≤ t.hour then "hour must be in 0..23"
    else if 60 ≤ t.minute then "minute must be in 0..59"
    else "second must be in 0..59"

def dateText (t : TimeParts) : String :=
  toString t.year ++ String.ofList ('-' :: padded 2 t.month ++ '-' :: padded 2 t.day)

end TimeParts

structure Timestamp extends TimeParts where
  inRange : toTimeParts.InRange
deriving DecidableEq, Repr

namespace Timestamp

def text (t : Timestamp) : String := String.ofList t.chars

def ofSeconds? (seconds : Nat) : Option Timestamp :=
  let (y, mo, d) := Date.ofDays (seconds / 86400 + 719468)
  let t : TimeParts :=
    ⟨y, mo, d, seconds / 3600 % 24, seconds / 60 % 60, seconds % 60, 0, some 0⟩
  if h : t.InRange then some ⟨t, h⟩ else none

end Timestamp
end TextMemory
