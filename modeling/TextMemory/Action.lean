import TextMemory.Fault

/-!
# Actions

An action reads and changes a state and either returns a value or fails; what it changed before it
failed stays changed. A log tells what was done.
-/
namespace TextMemory

abbrev Action (σ α : Type) := ExceptT Fault (StateM σ) α

def Action.perform {σ α : Type} (a : Action σ α) (s : σ) : Except Fault α × σ :=
  (ExceptT.run a).run s

def Action.ofExcept {σ α : Type} : Except Fault α → Action σ α
  | .ok a => pure a
  | .error f => throw f

def Action.onPart {σ τ α : Type} (part : σ → τ) (put : τ → σ → σ) (a : Action τ α) : Action σ α :=
  ExceptT.mk fun s =>
    let (answer, t) := a.perform (part s)
    (answer, put t s)

inductive LogLevel
  | debug
  | info
  | warning
deriving DecidableEq, Repr

structure LogLine where
  level : LogLevel
  source : String
  message : String
deriving DecidableEq, Repr

namespace LogLevel

def rank : LogLevel → Nat
  | debug => 10
  | info => 20
  | warning => 30

def name : LogLevel → String
  | debug => "DEBUG"
  | info => "INFO"
  | warning => "WARNING"

end LogLevel

def LogLine.text (l : LogLine) : String := s!"{l.level.name} {l.source}: {l.message}"

end TextMemory
