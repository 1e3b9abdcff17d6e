/-!
Lookups of field values that finish in any order. Each lookup has a ticket; a result counts only if
its ticket is the last one given out for the field and has been neither used nor cancelled.
-/

namespace Criteria

/-- One lookup for one field. -/
structure Ticket where
  field : String
  /-- The number of the ticket among all that have been given out. -/
  generation : Nat
  deriving DecidableEq

/-- The lookups that are under way, one to a field at most. -/
structure ResolverGate where
  inFlight : List Ticket
  /-- How many tickets have been given out. The count is taken not to wrap around. -/
  issued : Nat

namespace ResolverGate

def empty : ResolverGate := ⟨[], 0⟩

/-- Starts a lookup; an earlier one for the same field counts no longer. -/
def begin (g : ResolverGate) (field : String) : Ticket × ResolverGate :=
  let ticket : Ticket := ⟨field, g.issued + 1⟩
  (ticket, ⟨ticket :: g.inFlight.filter (·.field ≠ field), g.issued + 1⟩)

def isCurrent (g : ResolverGate) (t : Ticket) : Bool := g.inFlight.contains t

/-- Drops the lookup for a field. -/
def cancel (g : ResolverGate) (field : String) : ResolverGate :=
  { g with inFlight := g.inFlight.filter (·.field ≠ field) }

/-- Drops all lookups. -/
def cancelAll (g : ResolverGate) : ResolverGate := { g with inFlight := [] }

/-- Hands a result back if its ticket still counts, and uses the ticket up. -/
def accept {α : Type} (g : ResolverGate) (t : Ticket) (result : α) : Option α × ResolverGate :=
  if g.isCurrent t then (some result, g.cancel t.field) else (none, g)

/-- The number of lookups under way. -/
def pending (g : ResolverGate) : Nat := g.inFlight.length

end ResolverGate

end Criteria
