/-!
# Texts within texts
-/
namespace TextMemory.Text

def occurs (part : List Char) : List Char → Bool
  | [] => part.isEmpty
  | c :: cs => part.isPrefixOf (c :: cs) || occurs part cs

def contains (text part : String) : Bool := occurs part.toList text.toList

end TextMemory.Text
