import ServiceStability.Service
import ServiceStability.OrderedMap
/-!
# Quiescence — what is left when a graph stops changing

A wait ends with two sets of services that did not reach their target: those whose own start failed, and those that are
blocked by something they depend on.
-/
namespace ServiceStability

inductive OverlapError where
  | overlap (name : ServiceName)
deriving DecidableEq

def OverlapError.message : OverlapError → Text
  | .overlap name => "service ".toList ++ name.canonical ++ " is both failed and blocked".toList

/-- **The failed and the blocked services**, each in order of capture. -/
structure QuiescenceResult where
  failed : OrderedMap ServiceName ServiceSnapshot
  problem : OrderedMap ServiceName ServiceSnapshot
deriving DecidableEq

namespace QuiescenceResult

def stable : QuiescenceResult := ⟨.empty, .empty⟩

def record (m : OrderedMap ServiceName ServiceSnapshot) (s : ServiceSnapshot) :
    OrderedMap ServiceName ServiceSnapshot := m.insert s.name s

/-- Add the blocked services one by one, until one of them has failed as well. -/
def recordProblems (failed : OrderedMap ServiceName ServiceSnapshot) :
    OrderedMap ServiceName ServiceSnapshot → List ServiceSnapshot →
      Except OverlapError (OrderedMap ServiceName ServiceSnapshot)
  | problem, [] => .ok problem
  | problem, s :: rest =>
    if failed.contains s.name then .error (.overlap s.name) else recordProblems failed (record problem s) rest

/-- **A result from its two sets**; the first blocked service that has failed as well is an error. -/
def new (failed problem : List ServiceSnapshot) : Except OverlapError QuiescenceResult :=
  let failed := failed.foldl record .empty
  (recordProblems failed .empty problem).map (⟨failed, ·⟩)

def sort (result : QuiescenceResult) (s : ServiceSnapshot) : QuiescenceResult :=
  match s.substate with
  | .startFailed => { result with failed := record result.failed s }
  | .problem => { result with problem := record result.problem s }
  | _ => result

/-- **A result from captured snapshots**: `startFailed` services have failed, `problem` services are blocked, and all
others are left out. -/
def partition (snapshots : List ServiceSnapshot) : QuiescenceResult := snapshots.foldl sort stable

def failedServices (result : QuiescenceResult) : List ServiceSnapshot := result.failed.values

def problemServices (result : QuiescenceResult) : List ServiceSnapshot := result.problem.values

/-- **Whether nothing failed and nothing is blocked.** -/
def isStable (result : QuiescenceResult) : Bool := result.failed.isEmpty && result.problem.isEmpty

def contains (result : QuiescenceResult) (name : ServiceName) : Bool :=
  result.failed.contains name || result.problem.contains name

end QuiescenceResult
end ServiceStability
