import Conform.Options
import Conform.SchemaError

/-!
# Notices

Building a schema leaves notices behind: what was passed over, and what was built.  They are kept
also when the building fails.  This file defines:

* `Notice`, with `Notice.text`;
* `Noted`: a computation that leaves notices and may fail.
-/

namespace Conform

/-- What is worth a line in a log. -/
inductive Notice where
  | ignoredConstraint (key path : String)
  | compiling (fields : Nat) (options : Options)
  | loaded (file : String)

namespace Notice

def boolText (b : Bool) : String := if b then "true" else "false"

/-- The line of a notice, its level first. -/
def text : Notice → String
  | ignoredConstraint key path =>
    "WARN: Ignoring unknown constraint '" ++ key ++ "' on field '" ++ path ++ "'"
  | compiling fields options =>
    "DEBUG: Compiling schema with " ++ toString fields ++ " fields (coerce: " ++
      boolText options.coerce ++ ", partial: " ++ boolText options.partialInput ++ ")"
  | loaded file => "DEBUG: Loaded schema definition from " ++ file

end Notice

/-- The outcome of a computation with the notices that it left. -/
structure Noted (ε α : Type) where
  notices : List Notice
  result : Except ε α

namespace Noted

def note (notice : Notice) : Noted ε Unit := ⟨[notice], .ok ()⟩

def ofExcept (result : Except ε α) : Noted ε α := ⟨[], result⟩

/-- One computation after the other; the second is left out when the first fails. -/
def bind (x : Noted ε α) (f : α → Noted ε β) : Noted ε β :=
  match x.result with
  | .ok a => ⟨x.notices ++ (f a).notices, (f a).result⟩
  | .error e => ⟨x.notices, .error e⟩

instance : Monad (Noted ε) where
  pure a := ⟨[], .ok a⟩
  bind := bind

instance : MonadLift (Except ε) (Noted ε) := ⟨ofExcept⟩

/-- The same computation with its error seen as another. -/
def mapError (f : ε → δ) (x : Noted ε α) : Noted δ α := ⟨x.notices, x.result.mapError f⟩

/-- The outcome of a sequence is the sequence of the outcomes. -/
theorem bind_result (x : Noted ε α) (f : α → Noted ε β) :
    (x >>= f).result = x.result >>= fun a => (f a).result := by
  change (bind x f).result = _
  unfold bind
  cases x.result <;> rfl

end Noted

end Conform
