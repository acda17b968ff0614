import TextMemory.CommandLine.Reading

/-!
# Commands

The five commands of the program and the options of each.
-/
namespace TextMemory.CommandLine

inductive Command
  | write (file source title : Option String)
  | search (query : String) (limit : Int)
  | get (source : String)
  | delete (source : String)
  | stats
deriving DecidableEq, Repr

namespace Command

def program : String := "agentmemory"

def names : List String := ["write", "search", "get", "delete", "stats"]

def grammar : Grammar := ⟨program, [helpFlag], some (.command "command" names)⟩

def sourceFlag : Flag := ⟨["--source"], .text⟩

def titleFlag : Flag := ⟨["--title"], .text⟩

def limitFlag : Flag := ⟨["-n", "--max-results"], .integer⟩

def usualHits : Int := 6

def grammarOf (name : String) (flags : List Flag) (place : Option Place) : Grammar :=
  ⟨s!"{program} {name}", helpFlag :: flags, place⟩

def parts (name : String) : Grammar × (Progress → Command) :=
  if name = "write" then
    (grammarOf name [sourceFlag, titleFlag] (some (.optional "file")),
      fun p => write p.word? (p.text? sourceFlag) (p.text? titleFlag))
  else if name = "search" then
    (grammarOf name [limitFlag] (some (.one "query")),
      fun p => search (p.word?.getD "") ((p.integer? limitFlag).getD usualHits))
  else if name = "get" then
    (grammarOf name [] (some (.one "source")), fun p => get (p.word?.getD ""))
  else if name = "delete" then
    (grammarOf name [] (some (.one "source")), fun p => delete (p.word?.getD ""))
  else (grammarOf name [] none, fun _ => stats)

def read (args : List String) : Except Stop Command := do
  let outer ← grammar.read args
  match outer.words.getD [] with
  | [] => grammar.stop "the following arguments are required: command"
  | name :: rest =>
    let (inside, make) := parts name
    let inner ← inside.read rest
    let extras := outer.extras ++ inner.extras
    if !extras.isEmpty then
      let left := " ".intercalate extras
      grammar.stop s!"unrecognized arguments: {left}"
    return make inner

end Command
end TextMemory.CommandLine
