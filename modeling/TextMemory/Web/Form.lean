import TextMemory.Json.Reader
import TextMemory.Settings.Literal

/-!
# Checking what a request says

Each field of a request is checked on its own, and all complaints are told together, each with the
place of what is wrong.
-/
namespace TextMemory.Web

/-- Where in a request something is wrong. -/
inductive Step
  | name (s : String)
  | position (n : Nat)
deriving DecidableEq, Repr

inductive Complaint
  | missing
  | emptyText
  | notText
  | tooSmall (least : Int)
  | fraction
  | notInteger
  | notIntegerText
  | tooLong
  | notFinite
  | notObject
  | notFields
  | notJson
deriving DecidableEq, Repr

namespace Complaint

def kind : Complaint → String
  | missing => "missing"
  | emptyText => "string_too_short"
  | notText => "string_type"
  | tooSmall _ => "greater_than_equal"
  | fraction => "int_from_float"
  | notInteger => "int_type"
  | notIntegerText => "int_parsing"
  | tooLong => "int_parsing_size"
  | notFinite => "finite_number"
  | notObject => "dict_type"
  | notFields => "model_attributes_type"
  | notJson => "json_invalid"

def message : Complaint → String
  | missing => "Field required"
  | emptyText => "String should have at least 1 character"
  | notText => "Input should be a valid string"
  | tooSmall least => s!"Input should be greater than or equal to {least}"
  | fraction => "Input should be a valid integer, got a number with a fractional part"
  | notInteger => "Input should be a valid integer"
  | notIntegerText => "Input should be a valid integer, unable to parse string as an integer"
  | tooLong => "Unable to parse input string as an integer, exceeded maximum size"
  | notFinite => "Input should be a finite number"
  | notObject => "Input should be a valid dictionary"
  | notFields => "Input should be a valid dictionary or object to extract fields from"
  | notJson => "JSON decode error"

end Complaint

structure Finding where
  place : List Step
  complaint : Complaint
  found : Json
deriving Repr

abbrev Checked (α : Type) := Except (List Finding) α

namespace Checked

def both {α β : Type} : Checked α → Checked β → Checked (α × β)
  | .ok a, .ok b => .ok (a, b)
  | .error fs, .error gs => .error (fs ++ gs)
  | .error fs, .ok _ => .error fs
  | .ok _, .error gs => .error gs

end Checked

structure Field where
  place : List String
  whole : Json
  value : Option Json

namespace Field

def complain {α : Type} (f : Field) (c : Complaint) : Checked α :=
  .error [⟨f.place.map Step.name, c, f.value.getD f.whole⟩]

def filledText (f : Field) : Checked String :=
  match f.value with
  | none => f.complain .missing
  | some (.string s) => if s.isEmpty then f.complain .emptyText else .ok s
  | some _ => f.complain .notText

def optionalText (f : Field) : Checked (Option String) :=
  match f.value with
  | none => .ok none
  | some .null => .ok none
  | some (.string s) => .ok (some s)
  | some _ => f.complain .notText

end Field

def dropZerosAfter (last : Char) : List Char → Option (List Char)
  | [] => some [last]
  | c :: cs =>
    if c = '0' || c = '_' then dropZerosAfter c cs
    else if c.isDigit || c = '-' then some (c :: cs)
    else if c = '.' then some (last :: c :: cs)
    else none

def dropZeros : List Char → Option (List Char)
  | '0' :: cs => dropZerosAfter '0' cs
  | c :: cs => if c.isDigit then some (c :: cs) else none
  | [] => none

def dropStart : List Char → Option (List Char)
  | '+' :: cs => dropZeros cs
  | '-' :: cs => (dropZeros cs).map ('-' :: ·)
  | cs => dropZeros cs

def dropPlaces (cs : List Char) : List Char :=
  let places := (cs.dropWhile (· != '.')).drop 1
  if !places.isEmpty && places.all (· == '0') then cs.takeWhile (· != '.') else cs

def underscoresFit : Bool → List Char → Bool
  | atEdge, [] => !atEdge
  | atEdge, c :: cs =>
    if c = '_' then !atEdge && underscoresFit true cs else underscoresFit false cs

def dropUnderscores (cs : List Char) : List Char :=
  if underscoresFit true cs then cs.filter (· != '_') else cs

def plainInteger? : List Char → Option (Bool × List Char)
  | '-' :: cs => if digits cs then some (true, cs) else none
  | cs => if digits cs then some (false, cs) else none
where
  digits : List Char → Bool
    | [] => false
    | ['0'] => true
    | c :: cs => c != '0' && (c :: cs).all Char.isDigit

def integerLength : List Char → Nat
  | '-' :: cs => (cs.takeWhile Char.isDigit).length + 1
  | cs => (cs.takeWhile Char.isDigit).length

def beginsTooLong (cs : List Char) : Bool :=
  let first := if cs.head? = some '-' then cs[1]? else cs.head?
  first != some '0' && Literal.digitLimit < integerLength cs

/-- The integer that a text names: a sign, zeros in front, underscores between digits and places
that are all zero are allowed. -/
def integerOfText (s : String) : Except Complaint Int :=
  if beginsTooLong s.toList then .error .tooLong else
  let cleaned := do
    let cs ← dropStart (Text.trimChars Literal.isSpace s.toList)
    plainInteger? (dropUnderscores (dropPlaces cs))
  match cleaned with
  | none => .error .notIntegerText
  | some (negative, ds) =>
    if Literal.digitLimit < ds.length + (if negative then 1 else 0) then .error .notIntegerText
    else .ok (if negative then -(Literal.value ds : Int) else (Literal.value ds : Int))

/-- The integer of a binary64 value: it has one if it is whole and below two to the sixty-third. -/
def integerOfFloat (x : Float) : Except Complaint Int :=
  if Binary64.infinityBits ≤ Binary64.magnitude x then .error .notFinite
  else
    let n := Binary64.truncate x
    if Float.ofInt n != x then .error .fraction
    else if -9223372036854775808 < n ∧ n < 9223372036854775808 then .ok n
    else .error .tooLong

def integerOf : Json → Except Complaint Int
  | .bool b => .ok (if b then 1 else 0)
  | .number (.int n) => .ok n
  | .number (.float x) => integerOfFloat x
  | .string s => integerOfText s
  | _ => .error .notInteger

namespace Field

def boundedInteger (least absent : Int) (f : Field) : Checked Int :=
  match f.value with
  | none => .ok absent
  | some v =>
    match integerOf v with
    | .error c => f.complain c
    | .ok n => if n < least then f.complain (.tooSmall least) else .ok n

def objectOrEmpty (f : Field) : Checked Json :=
  match f.value with
  | none => .ok (.object [])
  | some (.object members) => .ok (.object members)
  | some _ => f.complain .notObject

end Field

end TextMemory.Web
