import RefStability.Program.Place
import RefStability.Program.Scope

/-!
From a document to a placed program.
-/

namespace RefStability

/-- Resolves all names and places all nodes, unless the positions run out. -/
def Document.Program.lower (document : Document.Program) :
    Except LowerError (RefStability.Program Site) := do
  let (program, next) := (← document.resolve).place
  if next ≤ maxPosition then return program else throw .positionsExhausted

end RefStability
