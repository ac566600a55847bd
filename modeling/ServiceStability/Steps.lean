/-!
# Steps — steps on a state, each of which may fail

A program that writes as it goes does not take back what it wrote before a step that fails.  So the error is outside
and the state inside: a failure ends the steps and leaves the state as it is.
-/
namespace ServiceStability

/-- **Steps on a state**; what was written before a failure stays written. -/
abbrev Steps (ε σ : Type) := ExceptT ε (StateM σ)

namespace Steps

variable {ε σ α β : Type} {s t : σ} {work : Steps ε σ α}

def on (work : Steps ε σ α) (s : σ) : Except ε α × σ := Id.run (work.run.run s)

/-- A step that has its outcome already. -/
def of : Except ε α → Steps ε σ α
  | .ok a => pure a
  | .error problem => throw problem

theorem on_bind_ok {a : α} (done : on work s = (.ok a, t)) (next : α → Steps ε σ β) :
    on (work >>= next) s = on (next a) t := by
  simp only [on, ExceptT.run_bind, StateT.run_bind, Id.run_bind] at done ⊢
  rw [done]

theorem on_bind_error {problem : ε} (failed : on work s = (.error problem, t)) (next : α → Steps ε σ β) :
    on (work >>= next) s = (.error problem, t) := by
  simp only [on, ExceptT.run_bind, StateT.run_bind, Id.run_bind] at failed ⊢
  rw [failed]
  rfl

theorem on_of_ok (a : α) (s : σ) : on (of (.ok a) : Steps ε σ α) s = (.ok a, s) := rfl

theorem on_of_error (problem : ε) (s : σ) : on (of (.error problem) : Steps ε σ α) s = (.error problem, s) := rfl

end Steps
end ServiceStability
