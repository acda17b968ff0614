import TextMemory.CommandLine.Grammar

/-!
# Reading a command line

Words go to the command's place as soon as it can take them, options take what belongs to them, and
what nothing takes is left over. The first fault found counts, and so does a wish for help.
-/
namespace TextMemory.CommandLine

inductive Value
  | text (s : String)
  | integer (n : Int)
deriving DecidableEq, Repr

/-- What has been read: the words at the place, the values of options by their titles, and what is
left over. -/
structure Progress where
  words : Option (List String)
  values : List (String × Value)
  extras : List String
deriving DecidableEq, Repr

namespace Progress

def empty : Progress := ⟨none, [], []⟩

def leave (p : Progress) (extras : List String) : Progress :=
  { p with extras := p.extras ++ extras }

def value? (p : Progress) (f : Flag) : Option Value := p.values.reverse.lookup f.title

def text? (p : Progress) (f : Flag) : Option String :=
  match p.value? f with
  | some (.text s) => some s
  | _ => none

def integer? (p : Progress) (f : Flag) : Option Int :=
  match p.value? f with
  | some (.integer n) => some n
  | _ => none

def word? (p : Progress) : Option String := (p.words.getD []).head?

end Progress

namespace Grammar

def valueOf (g : Grammar) (f : Flag) (s : String) : Except Stop Value :=
  match f.arity with
  | .integer =>
    match Literal.int s with
    | .ok n => .ok (.integer n)
    | .error _ => g.refuse f.title s!"invalid int value: {Text.quoted s}"
  | _ => .ok (.text s)

structure Bundle where
  taken : List (Flag × Option String)
  rest : List Token

def Bundle.cons (f : Flag) (b : Bundle) : Bundle := { b with taken := (f, none) :: b.taken }

def detached (g : Grammar) (f : Flag) (rest : List Token) : Except Stop Bundle :=
  match f.arity, rest with
  | .none, _ => .ok ⟨[(f, none)], rest⟩
  | _, .word s :: rest => .ok ⟨[(f, some s)], rest⟩
  | _, _ => g.refuse f.title "expected one argument"

def ignored {α : Type} (g : Grammar) (f : Flag) (cs : List Char) : Except Stop α :=
  g.refuse f.title s!"ignored explicit argument {Text.quoted (String.ofList cs)}"

def shortName (c : Char) : String := String.ofList ['-', c]

def bundled (g : Grammar) (f : Flag) (rest : List Token) : List Char → Except Stop Bundle
  | [] => g.ignored f []
  | c :: cs =>
    match g.names.lookup (shortName c) with
    | none => g.ignored f (c :: cs)
    | some next =>
      if cs.isEmpty then (g.detached next rest).map (Bundle.cons f)
      else if next.arity = .none then (bundled g next rest cs).map (Bundle.cons f)
      else .ok ⟨[(f, none), (next, some (String.ofList cs))], rest⟩

def bundle (g : Grammar) (m : Mention) (rest : List Token) : Except Stop Bundle :=
  match m.joined with
  | none => g.detached m.flag rest
  | some value =>
    if m.flag.arity ≠ .none then .ok ⟨[(m.flag, some (String.ofList value))], rest⟩
    else if m.name.toList[1]? = some '-' then g.ignored m.flag value
    else g.bundled m.flag rest value

def take (g : Grammar) (p : Progress) : Flag × Option String → Except Stop Progress
  | (_, none) => .error (.help g.program)
  | (f, some s) => do
    let v ← g.valueOf f s
    return { p with values := p.values ++ [(f.title, v)] }

def placeTokens : Place → List Token → Option (List Token × List Token)
  | place, ts =>
    let start := ts.takeWhile Token.isDivider
    let rest := ts.drop start.length
    match place, rest with
    | .command .., .word s :: rest => some (start ++ .word s :: rest, [])
    | .one _, .word s :: rest | .optional _, .word s :: rest =>
      let after := rest.takeWhile Token.isDivider
      some (start ++ .word s :: after, rest.drop after.length)
    | .optional _, rest => some (start, rest)
    | _, _ => none

def wordsOf (g : Grammar) (place : Place) (ts : List Token) : Except Stop (List String) :=
  let all := ts.map Token.text
  match place, all with
  | .command name choices, first :: _ =>
    if choices.contains first then .ok all
    else
      let known := ", ".intercalate (choices.map Text.quoted)
      g.refuse name s!"invalid choice: {Text.quoted first} (choose from {known})"
  | .command .., [] => .ok []
  | _, _ => .ok ((ts.filter Token.isWord).map Token.text)

def fill (g : Grammar) (p : Progress) (ts : List Token) : Except Stop (Progress × List Token) :=
  match p.words, g.place with
  | none, some place =>
    match placeTokens place ts with
    | some (taken, rest) => do
      let words ← g.wordsOf place taken
      return ({ p with words := some words }, rest)
    | none => .ok (p, ts)
  | _, _ => .ok (p, ts)

/-- What has been read when all options have been; each step takes at least one token. -/
def readTokens (g : Grammar) : Nat → Progress → List Token → Except Stop Progress
  | 0, p, _ => .ok p
  | fuel + 1, p, ts =>
    match ts with
    | .unknown s :: rest => readTokens g fuel (p.leave [s]) rest
    | .known _ m :: rest => do
      let b ← g.bundle m rest
      let p ← b.taken.foldlM g.take p
      readTokens g fuel p b.rest
    | ts => do
      let (p, rest) ← g.fill p ts
      if !ts.any Token.isOption then return p.leave (rest.map Token.text)
      if rest.length < ts.length then readTokens g fuel p rest
      else
        let stray := ts.takeWhile fun t => !t.isOption
        readTokens g fuel (p.leave (stray.map Token.text)) (ts.drop stray.length)

def neededName? (g : Grammar) : Option String :=
  match g.place with
  | some (.one name) => some name
  | some (.command name _) => some name
  | _ => none

def read (g : Grammar) (args : List String) : Except Stop Progress := do
  let ts ← g.tokens args
  let p ← g.readTokens (ts.length + 1) Progress.empty ts
  match p.words, g.neededName? with
  | none, some name => g.stop s!"the following arguments are required: {name}"
  | _, _ => return p

end Grammar
end TextMemory.CommandLine
