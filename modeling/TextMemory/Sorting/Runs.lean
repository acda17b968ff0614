import TextMemory.Sorting.Merge

/-!
# Sorting by runs

A list is cut into runs that are sorted already, falling ones turned round and short ones extended
by insertion, and neighbouring runs are merged until one is left. Where every two elements compare
this is the stable order. Where some do not, the order hangs on the comparisons that are made, and
they are the ones that are made here.
-/
namespace TextMemory.Sorting

variable {α : Type}

def runLength (p : α → α → Bool) : α → List α → Nat
  | _, [] => 1
  | x, y :: ys => if p y x then runLength p y ys + 1 else 1

def insert (less : α → α → Bool) (xs : List α) (x : α) : List α :=
  let i := halve (holdsAt (fun y => !less x y) xs.toArray) (xs.length + 1) 0 xs.length
  xs.take i ++ x :: xs.drop i

/-- The length that short runs are given: half of sixty-four to sixty-four, so that the number of
runs is about a power of two. A list below sixty-four is one run. -/
def leastRun (n : Nat) : Nat :=
  if n < 64 then n else go n 0
where
  go (n lost : Nat) : Nat :=
    if n < 64 then n + lost else go (n / 2) (max lost (n % 2))
  termination_by n

def firstRun (less : α → α → Bool) (least : Nat) : List α → List α
  | [] => []
  | [x] => [x]
  | x :: y :: rest =>
    let falling := less y x
    let n := if falling then runLength less x (y :: rest)
      else runLength (fun b a => !less b a) x (y :: rest)
    let start := (x :: y :: rest).take n
    let start := if falling then start.reverse else start
    (((x :: y :: rest).take least).drop n).foldl (insert less) start

structure Run (α : Type) where
  start : Nat
  elements : List α
  power : Nat

def runs (less : α → α → Bool) (least : Nat) : Nat → Nat → List α → List (Run α)
  | 0, _, _ => []
  | fuel + 1, start, xs =>
    if xs.isEmpty then []
    else
      let r := firstRun less least xs
      ⟨start, r, 0⟩ :: runs less least fuel (start + r.length) (xs.drop r.length)

/-- How often a list of length `n` is halved until a border lies between the two middles, which are
given twofold. -/
def powerFrom (n : Nat) : Nat → Nat → Nat → Nat
  | 0, _, _ => 0
  | fuel + 1, a, b =>
    if n ≤ a then powerFrom n fuel (2 * (a - n)) (2 * (b - n)) + 1
    else if n ≤ b then 1
    else powerFrom n fuel (2 * a) (2 * b) + 1

def power (n : Nat) (r s : Run α) : Nat :=
  let a := 2 * r.start + r.elements.length
  powerFrom n (n + 1) a (a + r.elements.length + s.elements.length)

structure Pending (α : Type) where
  stack : List (Run α)
  patience : Nat

def Run.join (less : α → α → Bool) (r s : Run α) (patience : Nat) : Run α × Nat :=
  let (elements, patience) := merge less r.elements s.elements patience
  ({ r with elements := elements }, patience)

namespace Pending

/-- The last runs merged as long as the border before the last one has more than `limit` power. -/
def collapse (less : α → α → Bool) (limit : Nat) (patience : Nat) : List (Run α) → Pending α
  | [] => ⟨[], patience⟩
  | [r] => ⟨[r], patience⟩
  | s :: r :: rest =>
    if limit < r.power then
      let (joined, patience) := r.join less s patience
      collapse less limit patience (joined :: rest)
    else ⟨s :: r :: rest, patience⟩
termination_by rs => rs.length

def push (less : α → α → Bool) (n : Nat) (p : Pending α) (s : Run α) : Pending α :=
  match p.stack with
  | [] => { p with stack := [s] }
  | r :: _ =>
    let limit := power n r s
    let p := collapse less limit p.patience p.stack
    match p.stack with
    | r :: rest => { p with stack := s :: { r with power := limit } :: rest }
    | [] => { p with stack := [s] }

def mergeAll (less : α → α → Bool) (patience : Nat) : List (Run α) → List α
  | [] => []
  | [r] => r.elements
  | [s, r] => (r.join less s patience).1.elements
  | t :: s :: r :: rest =>
    if r.elements.length < t.elements.length then
      let (joined, patience) := r.join less s patience
      mergeAll less patience (t :: joined :: rest)
    else
      let (joined, patience) := s.join less t patience
      mergeAll less patience (joined :: r :: rest)
termination_by rs => rs.length

end Pending

def sort (less : α → α → Bool) (xs : List α) : List α :=
  let found := runs less (leastRun xs.length) xs.length 0 xs
  let p := found.foldl (Pending.push less xs.length) ⟨[], longStretch⟩
  Pending.mergeAll less p.patience p.stack

end TextMemory.Sorting
