import TextMemory.Fault
import TextMemory.Text.Blank

/-!
# Keywords and patterns

A query's keywords are its first five words of at least three characters. A text is tested for a
keyword with a pattern in which a percent sign stands for any text and an underscore for any one
character; after a backslash a character stands for itself. Letters of ASCII match in both cases,
U+FFFE and U+FFFF are taken for U+FFFD, and pattern and text both end at their first NUL.
-/
namespace TextMemory.Keyword

def extract (query : String) : List String :=
  ((Text.words query).filter fun w => 3 ≤ w.length).take 5

def escapeChar (c : Char) : List Char :=
  if c = Text.backslash || c = '%' || c = '_' then [Text.backslash, c] else [c]

def pattern (keyword : String) : String :=
  String.ofList ('%' :: keyword.toList.flatMap escapeChar ++ ['%'])

inductive Piece
  | anyText
  | anyOne
  | one (c : Char)
  | nothing
deriving DecidableEq, Repr

def pieces : List Char → List Piece
  | [] => []
  | c :: cs =>
    if c = '%' then .anyText :: pieces cs
    else if c = '_' then .anyOne :: pieces cs
    else if c = Text.backslash then
      match cs with
      | [] => [.nothing]
      | d :: ds => .one d :: pieces ds
    else .one c :: pieces cs

def foldCase (c : Char) : Char := c.toLower

def matchesPieces : List Piece → List Char → Bool
  | [], cs => cs.isEmpty
  | .nothing :: _, _ => false
  | .anyText :: ps, [] => matchesPieces ps []
  | .anyText :: ps, c :: cs => matchesPieces ps (c :: cs) || matchesPieces (.anyText :: ps) cs
  | .anyOne :: _, [] => false
  | .anyOne :: ps, _ :: cs => matchesPieces ps cs
  | .one _ :: _, [] => false
  | .one p :: ps, c :: cs => foldCase p == foldCase c && matchesPieces ps cs
termination_by ps cs => (ps.length, cs.length)

def taken (c : Char) : Char :=
  if c.toNat = 0xfffe || c.toNat = 0xffff then Char.ofNat 0xfffd else c

def takenChars (s : String) : List Char := (s.toList.takeWhile (· != Char.ofNat 0)).map taken

def like (pattern text : String) : Bool :=
  matchesPieces (pieces (takenChars pattern)) (takenChars text)

/-- The longest pattern that is tried, in bytes. -/
def longestPattern : Nat := 50000

def matchCount (patterns : List String) (text : String) : Nat :=
  patterns.countP fun p => like p text

end TextMemory.Keyword
