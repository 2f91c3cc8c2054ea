/-! # Changes that may fail

A change of a state ends with a result or a fault, and in both cases with a state: what a failed
change leaves behind is part of it. A change that is made whole leaves the state as it was if it
fails.
-/

namespace Gatehouse.Store

abbrev Change (σ ε α : Type) : Type := ExceptT ε (StateM σ) α

namespace Change

variable {σ ε ε' α : Type}

/-- The end of a change and the state that it leaves. -/
def apply (change : Change σ ε α) (before : σ) : Except ε α × σ := (change.run).run before

def ofApply (f : σ → Except ε α × σ) : Change σ ε α := ExceptT.mk fun s => f s

/-- The change with what it leaves after a fault taken back. -/
def whole (change : Change σ ε α) : Change σ ε α := ofApply fun before =>
  match change.apply before with
  | (.ok a, after) => (.ok a, after)
  | (.error fault, _) => (.error fault, before)

/-- Replace the state, unless that fails. -/
def update (f : σ → Except ε σ) : Change σ ε Unit := ofApply fun before =>
  match f before with
  | .ok after => (.ok (), after)
  | .error fault => (.error fault, before)

/-- The change with its fault told in other words. -/
def mapFault (tell : ε → ε') (change : Change σ ε α) : Change σ ε' α := ofApply fun before =>
  let (ending, after) := change.apply before
  (ending.mapError tell, after)

/-- Take a result that is there already. -/
def ofExcept : Except ε α → Change σ ε α
  | .ok a => return a
  | .error fault => throw fault

theorem apply_ofApply (f : σ → Except ε α × σ) (s : σ) : (ofApply f).apply s = f s := rfl

end Change

end Gatehouse.Store
