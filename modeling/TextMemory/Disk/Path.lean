import TextMemory.Fault

/-!
# Paths

A path is a root, which may be absent, and names between slashes. Empty names and single dots do not
count; two slashes at the beginning, but not more, are kept.
-/
namespace TextMemory

structure Path where
  root : String
  names : List String
deriving DecidableEq, Repr

namespace Path

def splitSlashes : List Char → List Char → List (List Char)
  | part, [] => [part.reverse]
  | part, c :: cs =>
    if c = '/' then part.reverse :: splitSlashes [] cs else splitSlashes (c :: part) cs

def rootOf (cs : List Char) : String :=
  match cs.takeWhile (· == '/') with
  | [] => ""
  | [_, _] => "//"
  | _ => "/"

def read (s : String) : Path :=
  let names := (splitSlashes [] s.toList).map String.ofList
  ⟨rootOf s.toList, names.filter fun n => n != "" && n != "."⟩

def text (p : Path) : String :=
  if p.root = "" && p.names.isEmpty then "." else p.root ++ "/".intercalate p.names

def parent (p : Path) : Path := ⟨p.root, p.names.dropLast⟩

def normal (s : String) : String := (read s).text

def enter (place : List String) (name : String) : List String :=
  if name = ".." then
    match place.getLast? with
    | none | some ".." => place ++ [name]
    | some "/" => place
    | some _ => place.dropLast
  else place ++ [name]

def start (p : Path) : List String := if p.root = "" then [] else ["/"]

def place (p : Path) : List String := p.names.foldl enter p.start

def steps (p : Path) : List Path :=
  (List.range p.names.length).map fun i => ⟨p.root, p.names.take (i + 1)⟩

end Path
end TextMemory
