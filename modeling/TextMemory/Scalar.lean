import TextMemory.Json.Basic

/-!
# Numbers and texts in one column

A column of integers holds integers, and what it is given that cannot be one: a number with a
fraction or out of range, or a text. Numbers come before texts.
-/
namespace TextMemory

inductive Scalar
  | number (n : Number)
  | text (s : String)
deriving DecidableEq, Repr

namespace Scalar

abbrev int (n : Int) : Scalar := .number (.int n)

def canonical : Scalar → Scalar
  | .number n => .number n.canonical
  | .text s => .text s

def atMost : Scalar → Scalar → Bool
  | .number m, .number n => m.atMost n
  | .number _, .text _ => true
  | .text _, .number _ => false
  | .text s, .text t => !(t < s)

def json : Scalar → Json
  | .number n => .number n
  | .text s => .string s

def ofJson? : Json → Option Scalar
  | .number n => some (.number n)
  | .string s => some (.text s)
  | _ => none

def shown (x : Scalar) : String := x.json.shown

end Scalar
end TextMemory
