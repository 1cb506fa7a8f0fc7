/-!
# Changes that can fail

A change reads and writes a state of type `σ` and may fail with an error.  The state as it stands at
the failure is kept, so that a change which fails halfway shows what it has written.
-/

namespace Tabula

abbrev Change (ε σ α : Type) :=
  ExceptT ε (StateM σ) α

namespace Change

variable {ε σ τ α : Type}

/-- Run a change of a part of the state, given how to read the part and how to put it back. -/
def within (change : Change ε τ α) (part : τ) (replace : τ -> σ -> σ) : Change ε σ α :=
  ExceptT.mk do
    let (result, part') := change.run.run part
    modify (replace part')
    return result

end Change
end Tabula
