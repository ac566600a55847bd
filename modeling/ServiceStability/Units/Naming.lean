import ServiceStability.State
/-!
# Units.Naming — how the services of composite units are named

A composite unit is installed by a service `<namespace>.<unit>.<install suffix>`, and the marker
`<namespace>.<unit>.<completion suffix>` comes up when it is complete.  The convention is about texts, not segments.
-/
namespace ServiceStability

structure UnitNaming where
  namespaceText : Text
  installSuffix : Text
  completionSuffix : Text
deriving DecidableEq

def UnitNaming.default : UnitNaming where
  namespaceText := "deployment.subunit".toList
  installSuffix := "INSTALL".toList
  completionSuffix := "deploymentCompleteService".toList

/-- **The unit that a service name speaks of.** -/
inductive UnitName where
  | named (unit : Text)
  /-- The name does not follow the convention; it is kept as it is. -/
  | unparseable (raw : Text)
deriving DecidableEq

namespace UnitName

def text : UnitName → Text
  | .named unit => unit
  | .unparseable raw => "<unparseable:".toList ++ raw ++ ">".toList

/-- What stands between a namespace with its dot and a dot with a suffix. -/
def between? (canonical namespaceText suffix : Text) : Option Text := do
  let rest ← namespaceText.isPrefixOf? canonical
  let rest ← ['.'].isPrefixOf? rest
  let rest ← suffix.isSuffixOf? rest
  ['.'].isSuffixOf? rest

/-- **The unit in a canonical name**: what stands between namespace and suffix, unless that is nothing. -/
def parse (canonical namespaceText suffix : Text) : UnitName :=
  match between? canonical namespaceText suffix with
  | none => .unparseable canonical
  | some unit => if unit = [] then .unparseable canonical else .named unit

end UnitName

namespace UnitNaming

def isInstallService (n : UnitNaming) (canonical : Text) : Bool :=
  n.namespaceText.isPrefixOf canonical && n.installSuffix.isSuffixOf canonical

/-- **Whether a name is that of a completion marker, and the marker is not up.** -/
def isIncompleteMarker (n : UnitNaming) (canonical state : Text) : Bool :=
  state != State.up.name && n.completionSuffix.isSuffixOf canonical

def dependentUnit (n : UnitNaming) (canonical : Text) : UnitName :=
  .parse canonical n.namespaceText n.installSuffix

def dependencyUnit (n : UnitNaming) (canonical : Text) : UnitName :=
  .parse canonical n.namespaceText n.completionSuffix

theorem isInstallService_iff {n : UnitNaming} {canonical : Text} :
    n.isInstallService canonical = true ↔ n.namespaceText <+: canonical ∧ n.installSuffix <:+ canonical := by
  rw [isInstallService, Bool.and_eq_true, List.isPrefixOf_iff_prefix, List.isSuffixOf_iff_suffix]

theorem isIncompleteMarker_iff {n : UnitNaming} {canonical state : Text} :
    n.isIncompleteMarker canonical state = true ↔ n.completionSuffix <:+ canonical ∧ state ≠ State.up.name := by
  rw [isIncompleteMarker, Bool.and_eq_true, bne_iff_ne, List.isSuffixOf_iff_suffix, and_comm]

end UnitNaming

/-- The unit stands between the namespace and the suffix. -/
example : UnitName.parse "ns.app1.GO".toList "ns".toList "GO".toList = .named "app1".toList := by decide

/-- Nothing between them is no unit. -/
example : UnitName.parse "ns..GO".toList "ns".toList "GO".toList = .unparseable "ns..GO".toList := by decide

end ServiceStability
