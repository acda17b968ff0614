import TextMemory.Action

/-!
# Transactions

A connection sees what has been committed. While a transaction is open, statements change a copy of
it; the copy takes its place at the end, or is given up if a statement has failed.
-/
namespace TextMemory

structure Connection (δ : Type) where
  committed : δ
  working : Option δ

namespace Connection

variable {δ α : Type}

def current (c : Connection δ) : δ := c.working.getD c.committed

def put (c : Connection δ) (d : δ) : Connection δ :=
  if c.working.isSome then { c with working := some d } else { c with committed := d }

def begin : Action (Connection δ) Unit := modify fun c => { c with working := some c.committed }

def commit : Action (Connection δ) Unit := modify fun c => ⟨c.current, none⟩

def rollback : Action (Connection δ) Unit := do
  let c ← get
  -- the fault of ids that have run out is told in the words of this one, which it leads to
  if c.working.isNone then throw .noIdLeft
  set { c with working := none }

/-- One statement. Where no id is left, the engine gives up the whole transaction by itself. -/
def statement (f : δ → Except Fault (α × δ)) : Action (Connection δ) α := do
  let c ← get
  match f c.current with
  | .ok (a, d) =>
    set (c.put d)
    return a
  | .error .noIdLeft =>
    set { c with working := none }
    throw .noIdLeft
  | .error fault => throw fault

def transaction (block : Action (Connection δ) α) : Action (Connection δ) α := do
  begin
  let a ← tryCatch block fun fault => do
    rollback
    throw fault
  commit
  return a

end Connection
end TextMemory
