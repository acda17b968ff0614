import TextMemory.Json.Basic
import TextMemory.Text.Wide

/-!
# Reading JSON

The strict grammar, with the three names for values that are no finite numbers, and of two members
with one name the later. Trouble is told by its kind and by how many characters are left where it
lies; an integer of more than 4300 digits is refused, and so are lists and objects that stand too
deep in each other.
-/
namespace TextMemory.Json

inductive Trouble
  | at (what : String) (left : Nat)
  | digits (count : Nat)
  | depth (what : String)
deriving DecidableEq, Repr

def isSpace (c : Char) : Bool := c == ' ' || c == '\n' || c == '\r' || c == '\t'

def skipSpace (cs : List Char) : List Char := cs.dropWhile isSpace

def hexValue? (c : Char) : Option Nat :=
  if '0' ≤ c ∧ c ≤ '9' then some (c.toNat - '0'.toNat)
  else if 'a' ≤ c ∧ c ≤ 'f' then some (c.toNat - 'a'.toNat + 10)
  else if 'A' ≤ c ∧ c ≤ 'F' then some (c.toNat - 'A'.toNat + 10)
  else none

def hexQuad? : List Char → Option (Nat × List Char)
  | a :: b :: c :: d :: rest => do
    let ds ← [a, b, c, d].mapM hexValue?
    return (ds.foldl (fun n d => 16 * n + d) 0, rest)
  | _ => none

def lowHalf? (cs : List Char) : Except Trouble (Option (Nat × List Char)) :=
  match cs with
  | '\\' :: 'u' :: rest =>
    if (rest.drop 4).isEmpty then .ok none
    else
      match hexQuad? rest with
      | none => .error (.at "Invalid \\uXXXX escape" (rest.length + 1))
      | some (n, rest) => .ok (if Text.isLowHalf n then some (n, rest) else none)
  | _ => .ok none

def unitEscape (cs : List Char) : Except Trouble (Char × List Char) :=
  if (cs.drop 4).isEmpty then .error (.at "Invalid \\uXXXX escape" (cs.length + 1))
  else
    match hexQuad? cs with
    | none => .error (.at "Invalid \\uXXXX escape" (cs.length + 1))
    | some (n, rest) =>
      if Text.isHighHalf n then do
        match ← lowHalf? rest with
        | some (low, rest) => .ok (Text.pairChar n low, rest)
        | none => .ok (Text.unitChar n, rest)
      else .ok (Text.unitChar n, rest)

def letterEscape? (c : Char) : Option Char :=
  if c = Text.doubleQuote || c = Text.backslash || c = '/' then some c
  else if c = 'b' then some (Char.ofNat 8)
  else if c = 'f' then some (Char.ofNat 12)
  else if c = 'n' then some '\n'
  else if c = 'r' then some '\r'
  else if c = 't' then some '\t'
  else none

def unterminated {α : Type} (start : List Char) : Except Trouble α :=
  .error (.at "Unterminated string starting at" (start.length + 1))

def stringBody (start : List Char) :
    Nat → List Char → List Char → Except Trouble (String × List Char)
  | 0, _, _ => unterminated start
  | _ + 1, _, [] => unterminated start
  | fuel + 1, done, c :: cs =>
    if c = Text.doubleQuote then .ok (String.ofList done.reverse, cs)
    else if c = Text.backslash then
      match cs with
      | [] => unterminated start
      | e :: cs =>
        if e = 'u' then do
          let (u, rest) ← unitEscape cs
          stringBody start fuel (u :: done) rest
        else
          match letterEscape? e with
          | some u => stringBody start fuel (u :: done) cs
          | none => .error (.at "Invalid \\escape" (cs.length + 2))
    else if c.toNat < 0x20 then .error (.at "Invalid control character at" (cs.length + 1))
    else stringBody start fuel (c :: done) cs

def readString (fuel : Nat) (cs : List Char) : Except Trouble (String × List Char) :=
  stringBody cs fuel [] cs

def digitValue (c : Char) : Nat := c.toNat - '0'.toNat

def spanDigits (cs : List Char) : List Char × List Char :=
  (cs.takeWhile Char.isDigit, cs.dropWhile Char.isDigit)

def fraction (cs : List Char) : List Char × List Char :=
  match cs with
  | '.' :: rest => match spanDigits rest with
    | ([], _) => ([], cs)
    | found => found
  | _ => ([], cs)

def power (cs : List Char) : Option Int × List Char :=
  let unsigned (negative : Bool) (rest : List Char) : Option Int × List Char :=
    match spanDigits rest with
    | ([], _) => (none, cs)
    | (ds, rest) =>
      let n : Int := ofDigits (ds.map digitValue)
      (some (if negative then -n else n), rest)
  match cs with
  | e :: rest =>
    if e = 'e' || e = 'E' then
      match rest with
      | '-' :: rest => unsigned true rest
      | '+' :: rest => unsigned false rest
      | _ => unsigned false rest
    else (none, cs)
  | [] => (none, cs)

def magnitudeOf (negative : Bool) (cs : List Char) : Option (Except Trouble (Number × List Char)) :=
  let (whole, rest) := match cs with
    | '0' :: rest => (['0'], rest)
    | _ => spanDigits cs
  if whole.isEmpty then none
  else
    let (places, rest) := fraction rest
    let (exponent, rest) := power rest
    if places.isEmpty && exponent.isNone then
      if 4300 < whole.length then some (.error (.digits whole.length))
      else
        let n : Int := ofDigits (whole.map digitValue)
        some (.ok (.int (if negative then -n else n), rest))
    else
      let d : Decimal :=
        ⟨ofDigits ((whole ++ places).map digitValue), exponent.getD 0 - places.length⟩
      some (.ok (.float (d.toFloat negative), rest))

def afterWord? (word : String) (cs : List Char) : Option (List Char) :=
  let w := word.toList
  if cs.take w.length = w then some (cs.drop w.length) else none

def words : List (String × Json) :=
  [("null", .null), ("true", .bool true), ("false", .bool false), ("NaN", .float (0.0 / 0.0)),
    ("Infinity", .float (1.0 / 0.0)), ("-Infinity", .float (-1.0 / 0.0))]

def readPlain (cs : List Char) : Except Trouble (Json × List Char) :=
  match words.findSome? fun w => (afterWord? w.1 cs).map fun rest => (w.2, rest) with
  | some found => .ok found
  | none =>
    let read := match cs with
      | '-' :: rest => magnitudeOf true rest
      | _ => magnitudeOf false cs
    match read with
    | some r => r.map fun (n, rest) => (.number n, rest)
    | none => .error (.at "Expecting value" cs.length)

mutual

/-- A value at the very start of the text, in which at most `depth` lists and objects stand in each
other. -/
def readValue (depth : Nat) : Nat → List Char → Except Trouble (Json × List Char)
  | 0, cs => .error (.at "Expecting value" cs.length)
  | fuel + 1, cs =>
    match cs with
    | [] => .error (.at "Expecting value" 0)
    | c :: rest =>
      if c = Text.doubleQuote then (readString fuel rest).map fun (s, rest) => (.string s, rest)
      else if c = '[' then
        if depth = 0 then .error (.depth "array")
        else
          match skipSpace rest with
          | ']' :: rest => .ok (.array [], rest)
          | rest => (readItems (depth - 1) fuel rest).map fun (vs, rest) => (.array vs, rest)
      else if c.toNat = 0x7b then
        if depth = 0 then .error (.depth "object")
        else
          let rest := skipSpace rest
          match rest with
          | d :: after =>
            if d.toNat = 0x7d then .ok (.object [], after)
            else (readMembers (depth - 1) fuel [] rest).map fun (ms, rest) => (.object ms, rest)
          | [] => .error (.at "Expecting property name enclosed in double quotes" 0)
      else readPlain cs

def readItems (depth : Nat) : Nat → List Char → Except Trouble (List Json × List Char)
  | 0, cs => .error (.at "Expecting value" cs.length)
  | fuel + 1, cs => do
    let (v, rest) ← readValue depth fuel cs
    match skipSpace rest with
    | ']' :: rest => .ok ([v], rest)
    | ',' :: rest =>
      let (vs, rest) ← readItems depth fuel (skipSpace rest)
      .ok (v :: vs, rest)
    | rest => .error (.at "Expecting ',' delimiter" rest.length)

def readMembers (depth : Nat) :
    Nat → List (String × Json) → List Char → Except Trouble (List (String × Json) × List Char)
  | 0, _, cs => .error (.at "Expecting value" cs.length)
  | fuel + 1, done, cs =>
    match cs with
    | [] => .error (.at "Expecting property name enclosed in double quotes" 0)
    | q :: rest =>
      if q != Text.doubleQuote then
        .error (.at "Expecting property name enclosed in double quotes" cs.length)
      else do
        let (name, rest) ← readString fuel rest
        match skipSpace rest with
        | ':' :: rest =>
          let (v, rest) ← readValue depth fuel (skipSpace rest)
          let done := setMember name v done
          let rest := skipSpace rest
          match rest with
          | [] => .error (.at "Expecting ',' delimiter" 0)
          | c :: after =>
            if c.toNat = 0x7d then .ok (done, after)
            else if c = ',' then readMembers depth fuel done (skipSpace after)
            else .error (.at "Expecting ',' delimiter" rest.length)
        | rest => .error (.at "Expecting ':' delimiter" rest.length)

end

def lineColumn (before : List Char) : Nat × Nat :=
  (before.count '\n' + 1, (before.reverse.takeWhile (· != '\n')).length + 1)

def Trouble.fault (text : List Char) : Trouble → Fault
  | .at what left =>
    let position := text.length - left
    let (line, column) := lineColumn (text.take position)
    .malformedJson what position line column
  | .digits count => .digitLimit count
  | .depth what => .jsonDepth what

def byteOrderMark : Char := Char.ofNat 0xfeff

/-- The one value of a text, with spaces allowed around it; at most `depth` lists and objects stand
in each other. -/
def readWithin (depth : Nat) (text : List Char) : Except Fault Json :=
  let result : Except Trouble Json := do
    if text.head? = some byteOrderMark then
      throw (.at "Unexpected UTF-8 BOM (decode using utf-8-sig)" text.length)
    let (v, rest) ← readValue depth (2 * text.length + 2) (skipSpace text)
    match skipSpace rest with
    | [] => .ok v
    | rest => .error (.at "Extra data" rest.length)
  result.mapError (Trouble.fault text)

def read (text : List Char) : Except Fault Json := readWithin text.length text

end TextMemory.Json
