import TextMemory.Chunking
import TextMemory.Json.Basic

/-!
# Widths in JSON

How much each piece of a text repeats may be told in JSON: one integer for all pieces, or a list
with one value for each. The first value of a list does not count, and null counts as zero.
-/
namespace TextMemory

def widthOf : Json → Except Fault Int
  | .null => .ok 0
  | .bool b => .ok (if b then 1 else 0)
  | .number (.int n) => .ok n
  | _ => .error .widthType

def widthItems : Json → Except Fault (List Json)
  | .array items => .ok items
  | .string s => .ok (s.toList.map fun c => .string (String.singleton c))
  | .object members => .ok (members.map fun m => .string m.1)
  | v => .error (.notWidths v.kind)

def overlapOf (count : Nat) (widths : Json) : Except Fault Overlap :=
  match widths with
  | .bool b => .ok (.uniform (if b then 1 else 0))
  | .number (.int n) => .ok (.uniform n)
  | v => do
    let items ← widthItems v
    if items.length ≠ count then throw .overlapCount
    return .each (0 :: (← items.tail.mapM widthOf))

def mergeBy (widths : Json) (chunks : List String) : Except Fault String := do
  if chunks.isEmpty then return ""
  merge chunks (← overlapOf chunks.length widths)

end TextMemory
