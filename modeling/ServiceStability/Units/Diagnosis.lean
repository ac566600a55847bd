import ServiceStability.Units.Naming
import ServiceStability.Graph.Basic
import ServiceStability.Verification
/-!
# Units.Diagnosis — which unit another unit is waiting for

When an install service of one unit is stuck on the completion marker of another unit that never came up, the operator
is told which unit to look at.

- `Units.diagnose`: the waiting units among some failed and blocked services.
- `Units.diagnoseAsking`: the same, asking for the status listing when it is needed.
- `Units.examine`: the same for one unit of a graph.
-/
namespace ServiceStability

/-- **One unit that waits for another one.** -/
structure InterUnitDependency where
  dependent : UnitName
  dependentState : Text
  dependency : UnitName
  dependencyState : Text
deriving DecidableEq

def InterUnitDependency.text (d : InterUnitDependency) : Text :=
  "Deployment of [".toList ++ d.dependent.text ++ " (".toList ++ d.dependentState
    ++ ")] failed due to unsatisfied dependency on [".toList ++ d.dependency.text ++ " (".toList ++ d.dependencyState
    ++ ")]".toList

/-- **A status listing**, with states `σ`: whenever it is asked for its rows, they may be others. -/
structure StatusQuery (σ : Type) where
  rows : σ → List ServiceStatus × σ

/-- **The same listing, which remembers its answers.** -/
def StatusQuery.logged {σ : Type} (Q : StatusQuery σ) : StatusQuery (σ × List (List ServiceStatus)) where
  rows s :=
    let (rows, after) := Q.rows s.1
    (rows, after, s.2 ++ [rows])

namespace Units

/-- The state of what has no row in the status listing. -/
def missingState : Text := "MISSING".toList

/-- The row of a name; of several rows the last one counts. -/
def row? (statuses : List ServiceStatus) (canonical : Text) : Option ServiceStatus :=
  statuses.reverse.find? fun s => s.name == canonical

def stateOf (statuses : List ServiceStatus) (canonical : Text) : Text :=
  match row? statuses canonical with
  | none => missingState
  | some s => s.state

/-- What a service depends on: its row tells, or the snapshot if there is no row. -/
def dependenciesOf (statuses : List ServiceStatus) (s : ServiceSnapshot) : List Text :=
  match row? statuses s.name.canonical with
  | none => s.dependencies.toList.map ServiceName.canonical
  | some row => row.dependencies

/-- **The units that one service waits for**: an install service waits for incomplete markers. -/
def waitsOf (naming : UnitNaming) (statuses : List ServiceStatus) (s : ServiceSnapshot) : List InterUnitDependency :=
  if naming.isInstallService s.name.canonical then
    ((dependenciesOf statuses s).filter fun d => naming.isIncompleteMarker d (stateOf statuses d)).map fun d =>
      { dependent := naming.dependentUnit s.name.canonical
        dependentState := s.state.name
        dependency := naming.dependencyUnit d
        dependencyState := stateOf statuses d }
  else []

/-- **The waiting units among some failed and blocked services.** -/
def diagnose (naming : UnitNaming) (statuses : List ServiceStatus) (problems : List ServiceSnapshot) :
    List InterUnitDependency := problems.flatMap (waitsOf naming statuses)

/-- **The diagnosis that asks for the rows itself**, and the listing after it. -/
def diagnoseAsking {σ : Type} (Q : StatusQuery σ) (naming : UnitNaming) (problems : List ServiceSnapshot) (s : σ) :
    List InterUnitDependency × σ :=
  if problems.isEmpty then ([], s)
  else
    let (rows, after) := Q.rows s
    (diagnose naming rows problems, after)

/-- **The listing is asked for at most once**, and not at all when there is nothing to diagnose; the answer is what the
diagnosis goes by. -/
theorem diagnoseAsking_logged {σ : Type} (Q : StatusQuery σ) (naming : UnitNaming) (problems : List ServiceSnapshot)
    (s : σ) (log : List (List ServiceStatus)) :
    let ended := diagnoseAsking Q.logged naming problems (s, log)
    diagnoseAsking Q naming problems s = (ended.1, ended.2.1) ∧
    ∃ answers, ended.2.2 = log ++ answers ∧ answers.length ≤ 1 ∧ (answers = [] ↔ problems = []) ∧
      ∀ rows, (∀ answer ∈ answers, answer = rows) → ended.1 = diagnose naming rows problems := by
  cases problems with
  | nil => exact ⟨rfl, [], (List.append_nil log).symm, Nat.zero_le 1, iff_of_true rfl rfl, fun _ _ => rfl⟩
  | cons s' rest =>
    refine ⟨rfl, [(Q.rows s).1], rfl, Nat.le_refl 1, by simp, ?_⟩
    intro rows same
    rw [← same _ List.mem_cons_self]
    rfl

/-- **What one unit waits for**, given the services at or below it and the status listing. -/
def examine (naming : UnitNaming) (unit : ServiceName) (services : List ServiceSnapshot)
    (statuses : List ServiceStatus) : Except VerifyError (List InterUnitDependency) :=
  match Graph.problemsOfUnit unit services with
  | none => .error (.unknownUnit unit)
  | some problems => .ok (diagnose naming statuses problems)

def examineGraph (naming : UnitNaming) (unit : ServiceName) (g : Graph) :
    Except VerifyError (List InterUnitDependency) :=
  examine naming unit (g.snapshots ⟨0⟩) (g.statuses ⟨0⟩)

section
variable {statuses : List ServiceStatus} {canonical : Text} {row : ServiceStatus}

theorem mem_of_row? (found : row? statuses canonical = some row) : row ∈ statuses ∧ row.name = canonical := by
  rw [row?] at found
  have same := List.find?_some found
  exact ⟨List.mem_reverse.1 (List.mem_of_find?_eq_some found), eq_of_beq same⟩

theorem row?_eq_none_iff : row? statuses canonical = none ↔ ∀ row ∈ statuses, row.name ≠ canonical := by
  simp [row?]

end

end Units
end ServiceStability
