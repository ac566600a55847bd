import ServiceStability.Text.Basic
/-!
# StartFailure — why a start action failed

A message and the chain of its causes, outermost first.
-/
namespace ServiceStability

/-- **A recorded start failure.** -/
structure StartFailure where
  message : Text
  causes : List Text
deriving DecidableEq

namespace StartFailure

/-- The failure that an error with these causes is recorded as: its own message, then those of the causes. -/
def ofChain : List Text → StartFailure
  | [] => ⟨[], []⟩
  | message :: causes => ⟨message, causes⟩

/-- **The message, and each cause on a line of its own.** -/
def describe (failure : StartFailure) : Text :=
  failure.message ++ failure.causes.flatMap ("\n    Caused by: ".toList ++ ·)

theorem describe_eq_intercalate (failure : StartFailure) :
    failure.describe = "\n    Caused by: ".toList.intercalate (failure.message :: failure.causes) := by
  obtain ⟨message, causes⟩ := failure
  unfold describe
  induction causes generalizing message with
  | nil => rw [List.flatMap_nil, List.append_nil, List.intercalate_singleton]
  | cons cause rest ih => rw [List.flatMap_cons, List.intercalate_cons_cons, ← ih, List.append_assoc, List.append_assoc]

/-- Two causes take two further lines. -/
example : describe ⟨"outer".toList, ["middle".toList, "root".toList]⟩
    = "outer\n    Caused by: middle\n    Caused by: root".toList := by decide

end StartFailure
end ServiceStability
