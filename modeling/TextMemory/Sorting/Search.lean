/-!
# Finding a border

A border parts positions at which `q` holds from those at which it does not. Where `q` holds up to a
border and no further, both searches find that border; where it does not, they still answer with one
position, which hangs on the positions they look at.
-/
namespace TextMemory.Sorting

def halve (q : Nat → Bool) : Nat → Nat → Nat → Nat
  | 0, _, hi => hi
  | fuel + 1, lo, hi =>
    if lo < hi then
      let mid := lo + (hi - lo) / 2
      if q mid then halve q fuel (mid + 1) hi else halve q fuel lo mid
    else hi

/-- The last distance and the next one, of 0, 1, 3, 7, … up to `limit`, between which `p` ceases to
hold. -/
def stride (p : Nat → Bool) (limit : Nat) : Nat → Nat → Nat → Nat × Nat
  | 0, last, next => (last, min next limit)
  | fuel + 1, last, next =>
    if next < limit && p next then stride p limit fuel next (2 * next + 1)
    else (last, min next limit)

def gallop (q : Nat → Bool) (n hint : Nat) : Nat :=
  if q hint then
    let (last, next) := stride (fun o => q (hint + o)) (n - hint) n 0 1
    halve q n (hint + last + 1) (hint + next)
  else
    let (last, next) := stride (fun o => !q (hint - o)) (hint + 1) n 0 1
    halve q n (hint + 1 - next) (hint - last)

end TextMemory.Sorting
