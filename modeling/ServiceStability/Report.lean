import ServiceStability.Name.SortedSet
import ServiceStability.OrderedSet
import ServiceStability.OrderedMap
/-!
# Report — the diagnosis of an operation

A report has four sections, each present only when it has something to say.

- `DiagnosticReport.isEmpty`: no section is present.
- `DiagnosticReport.text`: the report for a reader at a terminal.
-/
namespace ServiceStability

/-- **Missing dependencies beyond those of the services looked at.** -/
structure TransitiveProblem where
  /-- Blocked services whose own dependencies can all be reached. -/
  dependents : NameSet
  /-- What is missing anywhere in the runtimes of those services. -/
  dependencies : NameSet
deriving DecidableEq

structure DiagnosticReport where
  /-- The failed services, with their start failures in full. -/
  failed : OrderedMap ServiceName Text
  /-- The failed services and what the blocked ones cannot reach. -/
  required : OrderedSet ServiceName
  /-- A line for each blocked service, naming what it cannot reach. -/
  lines : List Text
  transitive : Option TransitiveProblem
deriving DecidableEq

namespace DiagnosticReport

def empty : DiagnosticReport := ⟨.empty, .empty, [], none⟩

/-- **Whether no section is present.** -/
def isEmpty (r : DiagnosticReport) : Bool :=
  r.failed.isEmpty && r.required.isEmpty && r.lines.isEmpty && r.transitive.isNone

def failedTitle : Text := "failed-services".toList
def requiredTitle : Text := "missing-required-services".toList
def linesTitle : Text := "services-missing-dependencies".toList
def transitiveTitle : Text := "missing-transitive-dependency-problem".toList

def dependentsTitle : Text := "missing-transitive-dependents".toList
def dependenciesTitle : Text := "missing-transitive-dependencies".toList

def indented (text : Text) : Text := ' ' :: ' ' :: text

def titledNames (title : Text) (names : List ServiceName) : Text :=
  title ++ ": [".toList ++ ServiceName.listText names ++ "]".toList

def block (title : Text) (entries : List Text) : List Text := (title ++ [':']) :: entries.map indented

def failedSection (r : DiagnosticReport) : List Text :=
  if r.failed.isEmpty then []
  else block failedTitle (r.failed.toList.map fun entry => entry.1.canonical ++ ": ".toList ++ entry.2)

def requiredSection (r : DiagnosticReport) : List Text :=
  if r.required.isEmpty then [] else [titledNames requiredTitle r.required.toList]

def linesSection (r : DiagnosticReport) : List Text := if r.lines.isEmpty then [] else block linesTitle r.lines

def transitiveSection (r : DiagnosticReport) : List Text :=
  match r.transitive with
  | none => []
  | some problem =>
    block transitiveTitle
      [titledNames dependentsTitle problem.dependents.toList, titledNames dependenciesTitle problem.dependencies.toList]

def sections (r : DiagnosticReport) : List Text :=
  r.failedSection ++ r.requiredSection ++ r.linesSection ++ r.transitiveSection

def text (r : DiagnosticReport) : Text := r.sections.flatMap Text.line

theorem isEmpty_iff {r : DiagnosticReport} :
    r.isEmpty = true ↔ r.failed.toList = [] ∧ r.required.toList = [] ∧ r.lines = [] ∧ r.transitive = none := by
  simp [isEmpty, OrderedMap.isEmpty, OrderedSet.isEmpty, and_assoc]

theorem isEmpty_empty : empty.isEmpty = true := rfl

end DiagnosticReport
end ServiceStability
