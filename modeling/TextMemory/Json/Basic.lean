import TextMemory.Number

/-!
# JSON values

The members of an object keep the order in which their names were first written, and of two members
of one name the later value counts.
-/
namespace TextMemory

inductive Json
  | null
  | bool (b : Bool)
  | number (n : Number)
  | string (s : String)
  | array (items : List Json)
  | object (members : List (String × Json))
deriving Repr, Inhabited

namespace Json

abbrev int (n : Int) : Json := .number (.int n)

abbrev float (x : Float) : Json := .number (.float x)

def setMember (name : String) (value : Json) : List (String × Json) → List (String × Json)
  | [] => [(name, value)]
  | m :: ms => if m.1 = name then (name, value) :: ms else m :: setMember name value ms

def member? (name : String) : Json → Option Json
  | .object members => members.lookup name
  | _ => none

def text? (j : Json) (name : String) : Option String :=
  match j.member? name with
  | some (.string s) => some s
  | _ => none

def int? (j : Json) (name : String) : Option Int :=
  match j.member? name with
  | some (.number (.int n)) => some n
  | _ => none

def nullableText? (j : Json) (name : String) : Option (Option String) :=
  match j.member? name with
  | some (.string s) => some (some s)
  | some .null => some none
  | _ => none

def textOrNull (s : Option String) : Json := (s.map Json.string).getD .null

def isFilled : Json → Bool
  | .null => false
  | .bool b => b
  | .number (.int n) => n != 0
  | .number (.float x) => x != 0
  | .string s => s != ""
  | .array items => !items.isEmpty
  | .object members => !members.isEmpty

def kind : Json → String
  | .null => "NoneType"
  | .bool _ => "bool"
  | .number (.int _) => "int"
  | .number (.float _) => "float"
  | .string _ => "str"
  | .array _ => "list"
  | .object _ => "dict"

def textFor (operation : String) : Json → Except Fault String
  | .string s => .ok s
  | v => .error (.noMember v.kind operation)

mutual

def inner : Json → String
  | .null => "None"
  | .bool b => if b then "True" else "False"
  | .number n => n.text
  | .string s => Text.quoted s
  | .array items => "[" ++ ", ".intercalate (innerItems items) ++ "]"
  | .object members => "\x7b" ++ ", ".intercalate (innerMembers members) ++ "\x7d"

def innerItems : List Json → List String
  | [] => []
  | v :: vs => inner v :: innerItems vs

def innerMembers : List (String × Json) → List String
  | [] => []
  | (name, v) :: ms => (Text.quoted name ++ ": " ++ inner v) :: innerMembers ms

end

mutual

def mapNumbers (f : Number → Json) : Json → Json
  | .number n => f n
  | .array items => .array (mapItems f items)
  | .object members => .object (mapMembers f members)
  | v => v

def mapItems (f : Number → Json) : List Json → List Json
  | [] => []
  | v :: vs => mapNumbers f v :: mapItems f vs

def mapMembers (f : Number → Json) : List (String × Json) → List (String × Json)
  | [] => []
  | (name, v) :: ms => (name, mapNumbers f v) :: mapMembers f ms

end

mutual

def allNumbers (p : Number → Bool) : Json → Bool
  | .number n => p n
  | .array items => allItems p items
  | .object members => allMembers p members
  | _ => true

def allItems (p : Number → Bool) : List Json → Bool
  | [] => true
  | v :: vs => allNumbers p v && allItems p vs

def allMembers (p : Number → Bool) : List (String × Json) → Bool
  | [] => true
  | (_, v) :: ms => allNumbers p v && allMembers p ms

end

def shown : Json → String
  | .string s => s
  | v => inner v

end Json
end TextMemory
