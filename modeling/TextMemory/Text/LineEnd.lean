/-!
# Line ends

A carriage return, alone or before a line feed, ends a line as a line feed does.
-/
namespace TextMemory.Text

def unifyLineEnds : List Char → List Char
  | [] => []
  | '\r' :: '\n' :: cs => '\n' :: unifyLineEnds cs
  | c :: cs => (if c = '\r' then '\n' else c) :: unifyLineEnds cs

end TextMemory.Text
