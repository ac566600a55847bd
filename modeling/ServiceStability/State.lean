import ServiceStability.Text.Basic
/-!
# State — the lifecycle of a service

A service has a fine-grained `Substate`, which belongs to one coarse `State`, and a controller `Mode` that says whether
it is meant to run.
-/
namespace ServiceStability

inductive State where
  | down
  | starting
  | up
  | failed
  | removing
  | removed
deriving DecidableEq

namespace State

def all : List State := [.down, .starting, .up, .failed, .removing, .removed]

def name : State → Text
  | .down => "DOWN".toList
  | .starting => "STARTING".toList
  | .up => "UP".toList
  | .failed => "FAILED".toList
  | .removing => "REMOVING".toList
  | .removed => "REMOVED".toList

theorem name_eq_up_iff {s : State} : s.name = State.up.name ↔ s = .up := by cases s <;> decide

end State

inductive Substate where
  /-- Installed, not yet resolved. -/
  | new
  /-- Not running, free to start. -/
  | down
  /-- Not running, blocked by a dependency. -/
  | problem
  | starting
  | startFailed
  | up
  | removing
  | removed
deriving DecidableEq

namespace Substate

def all : List Substate := [.new, .down, .problem, .starting, .startFailed, .up, .removing, .removed]

def name : Substate → Text
  | .new => "NEW".toList
  | .down => "DOWN".toList
  | .problem => "PROBLEM".toList
  | .starting => "STARTING".toList
  | .startFailed => "START_FAILED".toList
  | .up => "UP".toList
  | .removing => "REMOVING".toList
  | .removed => "REMOVED".toList

def state : Substate → State
  | .new | .down | .problem => .down
  | .starting => .starting
  | .startFailed => .failed
  | .up => .up
  | .removing => .removing
  | .removed => .removed

/-- **Whether a service in this sub-state has stopped moving**: it changes no more unless somebody acts. -/
def isRest : Substate → Bool
  | .new | .starting | .removing => false
  | _ => true

/-- **Whether resolution decides between down and blocked** for a service in this sub-state. -/
def isDormant : Substate → Bool
  | .new | .down | .problem => true
  | _ => false

/-- Whether a service in this sub-state blocks those that depend on it. -/
def isBroken : Substate → Bool
  | .startFailed | .problem => true
  | _ => false

def isLeaving : Substate → Bool
  | .removing | .removed => true
  | _ => false

/-- **The moves that a caller may ask for**: the sub-states that each sub-state may change to. -/
def successors : Substate → List Substate
  | .new => [.down, .problem, .removing]
  | .down => [.problem, .starting, .removing]
  | .problem => [.down, .removing]
  | .starting => [.up, .startFailed]
  | .startFailed => [.down, .removing]
  | .up => [.down, .removing]
  | .removing => [.removed]
  | .removed => []

theorem isDormant_iff {s : Substate} : s.isDormant = true ↔ s = .new ∨ s = .down ∨ s = .problem := by
  cases s <;> simp [isDormant]

theorem state_eq_up_iff {s : Substate} : s.state = .up ↔ s = .up := by cases s <;> decide

theorem isBroken_iff {s : Substate} : s.isBroken = true ↔ s = .startFailed ∨ s = .problem := by
  cases s <;> simp [isBroken]

theorem isLeaving_iff {s : Substate} : s.isLeaving = true ↔ s = .removing ∨ s = .removed := by
  cases s <;> simp [isLeaving]

theorem starting_mem_successors_iff {s : Substate} : .starting ∈ s.successors ↔ s = .down := by cases s <;> decide

theorem up_mem_successors_iff {s : Substate} : .up ∈ s.successors ↔ s = .starting := by cases s <;> decide

theorem startFailed_mem_successors_iff {s : Substate} : .startFailed ∈ s.successors ↔ s = .starting := by
  cases s <;> decide

theorem removed_mem_successors_iff {s : Substate} : .removed ∈ s.successors ↔ s = .removing := by cases s <;> decide

theorem isRest_eq_false_iff {s : Substate} : s.isRest = false ↔ s = .new ∨ s = .starting ∨ s = .removing := by
  cases s <;> simp [isRest]

end Substate

/-- **The controller mode**: whether and how a service is meant to run. -/
inductive Mode where
  | active
  | onDemand
  | passive
  | never
  | remove
deriving DecidableEq

namespace Mode

def all : List Mode := [.active, .onDemand, .passive, .never, .remove]

def name : Mode → Text
  | .active => "ACTIVE".toList
  | .onDemand => "ON_DEMAND".toList
  | .passive => "PASSIVE".toList
  | .never => "NEVER".toList
  | .remove => "REMOVE".toList

/-- Whether a service of this mode will not run at all. -/
def isInert : Mode → Bool
  | .never | .remove => true
  | _ => false

theorem isInert_iff {m : Mode} : m.isInert = true ↔ m = .never ∨ m = .remove := by
  cases m <;> simp [isInert]

end Mode
end ServiceStability
