import TextMemory.Text.Utf8

/-!
# Request targets

A target is a path and, after a question mark, a query of names with values. Bytes may be written as
a percent sign and two hexadecimal digits, and a plus sign in a query is a space.
-/
namespace TextMemory.Web

def hexValue? (c : Char) : Option Nat :=
  if '0' ≤ c ∧ c ≤ '9' then some (c.toNat - '0'.toNat)
  else if 'a' ≤ c ∧ c ≤ 'f' then some (c.toNat - 'a'.toNat + 10)
  else if 'A' ≤ c ∧ c ≤ 'F' then some (c.toNat - 'A'.toNat + 10)
  else none

def hexByte? (a b : Char) : Option UInt8 := do
  let x ← hexValue? a
  let y ← hexValue? b
  return UInt8.ofNat (16 * x + y)

def percentBytes : List Char → List UInt8
  | [] => []
  | '%' :: a :: b :: cs =>
    match hexByte? a b with
    | some byte => byte :: percentBytes cs
    | none => Text.Utf8.encode "%" ++ percentBytes (a :: b :: cs)
  | c :: cs => Text.Utf8.encode (String.singleton c) ++ percentBytes cs

def percentDecode (cs : List Char) : String := Text.Utf8.decodeLossy (percentBytes cs)

def splitAt (sep : Char) : List Char → List (List Char)
  | [] => [[]]
  | c :: cs =>
    match splitAt sep cs with
    | [] => [[c]]
    | part :: parts => if c = sep then [] :: part :: parts else (c :: part) :: parts

def cutAt (sep : Char) (cs : List Char) : List Char × List Char :=
  (cs.takeWhile (· != sep), (cs.dropWhile (· != sep)).drop 1)

def queryText (cs : List Char) : String :=
  percentDecode (cs.map fun c => if c = '+' then ' ' else c)

def readQuery (cs : List Char) : List (String × String) :=
  ((splitAt '&' cs).filter fun part => !part.isEmpty).map fun part =>
    let (name, value) := cutAt '=' part
    (queryText name, queryText value)

def enterSegment (done : List (List Char)) (segment : List Char) : List (List Char) :=
  if segment = ['.'] then done
  else if segment = ['.', '.'] then if done = [[]] then done else done.dropLast
  else done ++ [segment]

def normalPath (cs : List Char) : List Char :=
  let parts := splitAt '/' cs
  if parts.contains ['.'] || parts.contains ['.', '.'] then
    ['/'].intercalate (parts.foldl enterSegment [])
  else cs

structure Target where
  path : String
  query : List (String × String)
deriving DecidableEq, Repr

/-- A target as it is written. Its path is decoded on both ends of the wire. -/
def Target.read (s : String) : Target :=
  let (written, _) := cutAt '#' s.toList
  let (path, query) := cutAt '?' written
  ⟨percentDecode (percentDecode (normalPath path)).toList, readQuery query⟩

end TextMemory.Web
