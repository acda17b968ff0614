import TextMemory.Settings.Literal

/-!
# The grammar of a command line

A command takes options, which begin with a hyphen, and at most one place, which takes words. An
option's long name may be cut short as long as one option fits; its value may follow as the next
word, behind an equals sign or, for a name of one letter, at once. After two hyphens all are words.
-/
namespace TextMemory.CommandLine

inductive Arity
  | none
  | text
  | integer
deriving DecidableEq, Repr

structure Flag where
  names : List String
  arity : Arity
deriving DecidableEq, Repr

inductive Place
  | one (name : String)
  | optional (name : String)
  | command (name : String) (choices : List String)
deriving DecidableEq, Repr

structure Grammar where
  program : String
  flags : List Flag
  place : Option Place
deriving DecidableEq, Repr

/-- Why a command line is not followed: it is wrong, or it asks for help. -/
inductive Stop
  | usage (program message : String)
  | help (program : String)
deriving DecidableEq, Repr

structure Mention where
  flag : Flag
  name : String
  joined : Option (List Char)
deriving DecidableEq, Repr

inductive Token
  | word (s : String)
  | divider
  | known (s : String) (m : Mention)
  | unknown (s : String)
deriving DecidableEq, Repr

namespace Token

def text : Token → String
  | word s => s
  | divider => "--"
  | known s _ => s
  | unknown s => s

def isOption : Token → Bool
  | known .. => true
  | unknown _ => true
  | _ => false

def isWord : Token → Bool
  | word _ => true
  | _ => false

def isDivider : Token → Bool
  | divider => true
  | _ => false

end Token

def Flag.title (f : Flag) : String := "/".intercalate f.names

def helpFlag : Flag := ⟨["-h", "--help"], .none⟩

namespace Grammar

def stop {α : Type} (g : Grammar) (message : String) : Except Stop α :=
  .error (.usage g.program message)

def refuse {α : Type} (g : Grammar) (argument message : String) : Except Stop α :=
  g.stop s!"argument {argument}: {message}"

def names (g : Grammar) : List (String × Flag) :=
  g.flags.flatMap fun f => f.names.map fun n => (n, f)

def splitEquals (cs : List Char) : List Char × Option (List Char) :=
  match cs.dropWhile (· != '=') with
  | [] => (cs, none)
  | _ :: value => (cs.takeWhile (· != '='), some value)

def longMentions (g : Grammar) (cs : List Char) : List Mention :=
  let (start, value) := splitEquals cs
  (g.names.filter fun n => start.isPrefixOf n.1.toList).map fun n => ⟨n.2, n.1, value⟩

def shortMentions (g : Grammar) (cs : List Char) : List Mention :=
  g.names.filterMap fun n =>
    if n.1.toList = cs.take 2 then some ⟨n.2, n.1, some (cs.drop 2)⟩
    else if cs.isPrefixOf n.1.toList then some ⟨n.2, n.1, none⟩
    else none

def mentions (g : Grammar) (cs : List Char) : List Mention :=
  if cs[1]? = some '-' then g.longMentions cs else g.shortMentions cs

def isDecimal (c : Char) : Bool := (Text.decimalValue? c).isSome

def areDigits (cs : List Char) : Bool :=
  let rest := cs.dropWhile isDecimal
  !(cs.takeWhile isDecimal).isEmpty && (rest.isEmpty || rest == ['\n'])

def isNegativeNumber : List Char → Bool
  | '-' :: cs =>
    areDigits cs ||
      match cs.dropWhile isDecimal with
      | '.' :: places => areDigits places
      | _ => false
  | _ => false

def token (g : Grammar) (s : String) : Except Stop Token :=
  match s.toList with
  | '-' :: second :: rest =>
    let cs := '-' :: second :: rest
    match g.names.lookup s with
    | some f => .ok (.known s ⟨f, s, none⟩)
    | none =>
      let (start, value) := splitEquals cs
      let name := String.ofList start
      match value, g.names.lookup name with
      | some v, some f => .ok (.known s ⟨f, name, some v⟩)
      | _, _ =>
        match g.mentions cs with
        | [m] => .ok (.known s m)
        | [] => .ok (if isNegativeNumber cs || cs.contains ' ' then .word s else .unknown s)
        | ms =>
          let fitting := ", ".intercalate (ms.map Mention.name)
          g.stop s!"ambiguous option: {s} could match {fitting}"
  | _ => .ok (.word s)

def tokens (g : Grammar) : List String → Except Stop (List Token)
  | [] => .ok []
  | "--" :: rest => .ok (.divider :: rest.map .word)
  | s :: rest => do
    let t ← g.token s
    let ts ← g.tokens rest
    return t :: ts

end Grammar
end TextMemory.CommandLine
