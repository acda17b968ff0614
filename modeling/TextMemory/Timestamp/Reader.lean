import TextMemory.Text.Utf8
import TextMemory.Timestamp.Basic

/-!
# Reading points in time

Besides the written form, a date may be named by its week, hyphens and colons may be left out, and a
clock may stop after any part. Between date and clock stands any one character. The octets of the
text are read, and a zero octet counts as the end where a clock or an offset may end.
-/
namespace TextMemory
namespace TimeParts

abbrev Octets := List UInt8

def isDigitOctet (b : UInt8) : Bool := 48 ≤ b && b ≤ 57

def octet (c : Char) : UInt8 := c.toUInt8

def atEnd : Octets → Bool
  | [] => true
  | b :: _ => b == 0

def digitsValue (ds : Octets) : Nat := ofDigits (ds.map fun b => b.toNat - 48)

def takeNumber? (n : Nat) (os : Octets) : Option (Nat × Octets) :=
  let ds := os.take n
  if ds.length = n ∧ ds.all isDigitOctet then some (digitsValue ds, os.drop n) else none

def afterHyphen? : Octets → Option Octets
  | b :: rest => if b = octet '-' then some rest else none
  | [] => none

def afterJoint? (hyphens : Bool) (os : Octets) : Option Octets :=
  if hyphens then afterHyphen? os else some os

/-- Whether what follows a week begins with a day. A hyphen may also lead to a clock, which begins
with two digits; a run of digits without a hyphen is a clock if it can be cut into pairs behind
one separator. -/
def hasWeekday (hyphens : Bool) (os : Octets) : Bool :=
  if hyphens then (afterHyphen? os).isSome && !((os[2]?).map isDigitOctet).getD false
  else
    let n := (os.takeWhile isDigitOctet).length
    n = 1 || (n ≠ 0 && n % 2 = 0)

def readWeek? (year : Nat) (hyphens : Bool) (os : Octets) : Option (Date × Octets) := do
  let (week, rest) ← takeNumber? 2 os
  if hasWeekday hyphens rest then
    let (day, rest) ← takeNumber? 1 (← afterJoint? hyphens rest)
    return (← Date.ofWeek? year week day, rest)
  else return (← Date.ofWeek? year week 1, rest)

def readMonth? (year : Nat) (hyphens : Bool) (os : Octets) : Option (Date × Octets) := do
  let (month, rest) ← takeNumber? 2 os
  let (day, rest) ← takeNumber? 2 (← afterJoint? hyphens rest)
  return ((year, month, day), rest)

def readDate? (os : Octets) : Option (Date × Octets) := do
  let (year, rest) ← takeNumber? 4 os
  let hyphens := (afterHyphen? rest).isSome
  let rest := (afterHyphen? rest).getD rest
  if rest.head? = some (octet 'W') then readWeek? year hyphens (rest.drop 1)
  else readMonth? year hyphens rest

structure Clock where
  parts : List Nat
  micro : Nat
  more : Bool
deriving DecidableEq, Repr

def Clock.seconds (c : Clock) : Nat :=
  c.parts.getD 0 0 * 3600 + c.parts.getD 1 0 * 60 + c.parts.getD 2 0

def Clock.cons (n : Nat) (c : Clock) : Clock := { c with parts := n :: c.parts }

def readFraction? (os : Octets) : Option Clock :=
  let ds := os.take 6
  if ds.all isDigitOctet then
    some ⟨[], digitsValue ds * Nat.pow 10 (6 - ds.length),
      !atEnd ((os.drop 6).dropWhile isDigitOctet)⟩
  else none

def beginsFraction (b : UInt8) : Bool := b = octet '.' || b = octet ','

/-- At most `n` parts of two digits and a fraction. Either all parts are joined by colons or none
is, which `colons` tells once it is known; a colon also stands before a fraction after the last
part. -/
def readParts? : Nat → Option Bool → Octets → Option Clock
  | 0, _, os => readFraction? os
  | n + 1, colons, os => do
    let (part, rest) ← takeNumber? 2 os
    match rest with
    | b :: c :: after =>
      let colon := b == octet ':'
      let colons := colons.getD colon
      let clock ←
        if colons && colon then readParts? n (some colons) (c :: after)
        else if beginsFraction b then readFraction? (c :: after)
        else if colons then none
        else readParts? n (some colons) rest
      return clock.cons part
    | short => return ⟨[part], 0, !atEnd short⟩

def readClock? (os : Octets) : Option Clock := readParts? 3 none os

def beginsOffset (b : UInt8) : Bool := b = octet '-' || b = octet '+' || b = octet 'Z'

/-- An offset in microseconds. Less than a second counts as none. -/
def readOffset? : Octets → Option Int
  | [] => none
  | sign :: rest =>
    if sign = octet 'Z' then if atEnd rest then some 0 else none
    else do
      let clock ← readClock? rest
      if clock.more then none
      let micros : Int :=
        if clock.seconds = 0 then 0 else (clock.seconds * microsPerSecond + clock.micro : Nat)
      return if sign = octet '-' then -micros else micros

def readTime? (os : Octets) : Option (Clock × Option Int) := do
  let clock ← readClock? (os.takeWhile fun b => !beginsOffset b)
  match os.dropWhile fun b => !beginsOffset b with
  | [] => if clock.more then none else return (clock, none)
  | offset => return (clock, some (← readOffset? offset))

def continuesChar (b : UInt8) : Bool := 0x80 ≤ b && b < 0xc0

def read? (os : Octets) : Option TimeParts := do
  let ((year, month, day), rest) ← readDate? os
  if rest.isEmpty then return ⟨year, month, day, 0, 0, 0, 0, none⟩
  let (clock, offset) ← readTime? ((rest.drop 1).dropWhile continuesChar)
  return ⟨year, month, day, clock.parts.getD 0 0, clock.parts.getD 1 0, clock.parts.getD 2 0,
    clock.micro, offset⟩

end TimeParts

namespace Timestamp

def read (s : String) : Except Fault Timestamp :=
  match TimeParts.read? (Text.Utf8.encode s) with
  | none => .error (.timestampText s)
  | some t => if h : t.InRange then .ok ⟨t, h⟩ else .error t.rangeFault

end Timestamp
end TextMemory
