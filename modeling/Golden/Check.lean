import Golden.Behaviour

/-! # Checks

What units may ask of themselves and of the run: that something holds, that two values are equal,
that a resource is enabled. A check that fails is a signal. -/

namespace Golden

namespace Check

/-- Fails for the given reason unless the condition holds. -/
def verify (condition : Bool) (reason : String) : Except Signal Unit :=
  if condition then .ok () else .error (.failure reason)

/-- Fails unless two values are equal. The reason shows both. -/
def equal {α : Type} [DecidableEq α] (describe : α → String) (a b : α) : Except Signal Unit :=
  verify (a = b) (describe a ++ " == " ++ describe b)

/-- Declines to run. -/
def skip (reason : String) : Except Signal Unit := .error (.skip reason)

end Check

/-- Declines to run unless the resource is enabled. -/
def Context.requires (c : Context) (r : Resource) : Except Signal Unit :=
  if c.resources.contains r then .ok ()
  else .error (.skip ("Use of the \x60" ++ r.name ++ "' resource not enabled"))

end Golden
