import TextMemory.Text.Blank
import TextMemory.Text.LetterCase
import TextMemory.Text.Within
import TextMemory.Timestamp.Basic

/-!
# Names of sources

A source whose name speaks of `MEMORY.md`, in letters of either case, is kept for the long term; all
others belong to a day. What is written without a name goes to the source of the day.
-/
namespace TextMemory

inductive SourceKind
  | longterm
  | daily
deriving DecidableEq, Repr

namespace SourceKind

def text : SourceKind → String
  | longterm => "longterm"
  | daily => "daily"

def marker : String := "MEMORY.md"

def of (source : String) : SourceKind :=
  if Text.contains (Text.lower source) (Text.lower marker) then longterm else daily

end SourceKind

def dailySource (now : Timestamp) : String := s!"memory/{now.dateText}.md"

def sourceName (now : Timestamp) (source : Option String) : String :=
  let name := Text.strip (source.getD "")
  if name.isEmpty then dailySource now else name

end TextMemory
