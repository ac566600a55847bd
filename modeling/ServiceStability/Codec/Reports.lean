import ServiceStability.Codec.Names
import ServiceStability.Units.Naming
import ServiceStability.Verification
/-!
# Codec.Reports — reports and settings as documents

Diagnostic reports, failure descriptions and the settings of verification and of unit names.  The keys of a report are
the titles of its sections, and an empty section is left out.
-/
namespace ServiceStability

open Decode (Decoder record defaulted)

namespace TransitiveProblem

def toJson (p : TransitiveProblem) : Json :=
  .object [(DiagnosticReport.dependentsTitle, ServiceName.listToJson p.dependents.toList),
    (DiagnosticReport.dependenciesTitle, ServiceName.listToJson p.dependencies.toList)]

/-- **The transitive section**; what is left out is empty. -/
def decode : Decoder TransitiveProblem := fun o => do
  let (dependents, dependencies, _) ← record "TransitiveDependencyProblem"
    (.field DiagnosticReport.dependentsTitle (.default .empty) NameSet.decode none <|
      .field DiagnosticReport.dependenciesTitle (.default .empty) NameSet.decode none .done) o
  .ok ⟨dependents, dependencies⟩

end TransitiveProblem

namespace DiagnosticReport

def failedToJson (failed : OrderedMap ServiceName Text) : Json :=
  .object (failed.toList.map fun entry => (entry.1.canonical, .text entry.2))

def transitiveMembers : Option TransitiveProblem → List (Text × Json)
  | none => []
  | some p => [(transitiveTitle, p.toJson)]

def members (r : DiagnosticReport) : List (Text × Json) :=
  Json.memberUnless r.failed.isEmpty failedTitle (failedToJson r.failed)
    ++ Json.memberUnless r.required.isEmpty requiredTitle (ServiceName.listToJson r.required.toList)
    ++ Json.memberUnless r.lines.isEmpty linesTitle (Json.texts r.lines)
    ++ transitiveMembers r.transitive

def toJson (r : DiagnosticReport) : Json := .object r.members

/-- The failed services: each name once, with its last text. -/
def decodeFailed : Decoder (OrderedMap ServiceName Text) := fun o =>
  (Decode.map ServiceName.ofText Decode.text o).map .ofList

/-- **A report**; sections that are left out are empty. -/
def decode : Decoder DiagnosticReport := fun o => do
  let (failed, required, lines, transitive, _) ← record "DiagnosticReport"
    (.field failedTitle (.default .empty) decodeFailed none <|
      .field requiredTitle (.default .empty) ServiceName.decodeSet none <|
      .field linesTitle (.default []) (Decode.list Decode.text) none <|
      .field transitiveTitle (.default none) (Decode.option TransitiveProblem.decode) none .done) o
  .ok ⟨failed, required, lines, transitive⟩

end DiagnosticReport

namespace FailureDescription

def cancelledKey : Text := "cancelled".toList
def reportKey : Text := "report".toList

def toJson : FailureDescription → Json
  | .cancelled text => .object [(cancelledKey, .text text)]
  | .report r => .object [(reportKey, r.toJson)]

def decode : Decoder FailureDescription :=
  Decode.tagged
    [(cancelledKey, fun o => (Decode.text o).map .cancelled),
      (reportKey, fun o => (DiagnosticReport.decode o).map .report)]

end FailureDescription

namespace VerifyConfig

def rollbackKey : Text := "rollback-on-runtime-failure".toList

def toJson (c : VerifyConfig) : Json := .object [(rollbackKey, .bool c.rollbackOnRuntimeFailure)]

def decode : Decoder VerifyConfig := fun o => do
  let (rollback, _) ← record "VerifyConfig"
    (.field rollbackKey (.default VerifyConfig.default.rollbackOnRuntimeFailure) Decode.bool none .done) o
  .ok ⟨rollback⟩

end VerifyConfig

namespace UnitNaming

def toJson (n : UnitNaming) : Json :=
  .object [("namespace".toList, .text n.namespaceText), ("install-suffix".toList, .text n.installSuffix),
    ("completion-suffix".toList, .text n.completionSuffix)]

def decode : Decoder UnitNaming := fun o => do
  let (namespaceText, installSuffix, completionSuffix, _) ← record "UnitNaming"
    (defaulted "namespace" UnitNaming.default.namespaceText Decode.text <|
      defaulted "install-suffix" UnitNaming.default.installSuffix Decode.text <|
      defaulted "completion-suffix" UnitNaming.default.completionSuffix Decode.text .done) o
  .ok ⟨namespaceText, installSuffix, completionSuffix⟩

end UnitNaming
end ServiceStability
