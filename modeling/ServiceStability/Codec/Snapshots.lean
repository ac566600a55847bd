import ServiceStability.Codec.Services
import ServiceStability.Yaml.Decode
/-!
# Codec.Snapshots — reading a whole runtime from a text

A snapshot is written in one of two formats.  The fields are the same in both, and what may be left out is the same too.

- `RuntimeSnapshot.ofText`: the snapshot that a text holds.
-/
namespace ServiceStability

open Yaml (Node Document)

def ServiceName.ofNode : Node.Decoder ServiceName := fun n => do
  match ServiceName.parse (← n.toText) with
  | .ok name => return name
  | .error _ => failure

def Mode.ofNode : Node.Decoder Mode := Node.toVariant (nameTable Mode.name Mode.all)

def RestState.ofNode : Node.Decoder RestState := Node.toVariant (nameTable RestState.name RestState.all)

/-- **A start failure in a node**; causes may be left out. -/
def StartFailure.ofNode : Node.Decoder StartFailure := fun n => do
  let record ← n.toRecord ["message", "causes"]
  let message ← record.required "message" Node.toText
  let causes ← record.defaulted "causes" [] (Node.toList Node.toText)
  return ⟨message, causes⟩

/-- **One service of a runtime in a node**; everything but its name may be left out. -/
def ServiceEntry.ofNode : Node.Decoder ServiceEntry := fun n => do
  let record ← n.toRecord ["name", "mode", "state", "failure", "dependencies"]
  let name ← record.required "name" ServiceName.ofNode
  let mode ← record.defaulted "mode" .active Mode.ofNode
  let state ← record.defaulted "state" .down RestState.ofNode
  let failure ← record.defaulted "failure" none (Node.toOption StartFailure.ofNode)
  let dependencies ← record.defaulted "dependencies" [] (Node.toList ServiceName.ofNode)
  return ⟨name, mode, state, failure, dependencies⟩

namespace RuntimeSnapshot

/-- **A whole runtime in a node**; an absent list of services is empty. -/
def ofNode : Node.Decoder RuntimeSnapshot := fun n => do
  let record ← n.toRecord ["services"]
  return ⟨← record.defaulted "services" [] (Node.toList ServiceEntry.ofNode)⟩

inductive Format where
  | json
  | yaml
deriving DecidableEq

/-- **Why a text holds no snapshot.** -/
inductive ReadError where
  | json (cause : DecodeError)
  | yaml
deriving DecidableEq

def ofYaml (source : Text) : Option RuntimeSnapshot := Document.ofText source >>= Document.decode ofNode

def ofText (format : Format) (source : Text) : Except ReadError RuntimeSnapshot :=
  match format with
  | .json =>
    match Decode.ofText decode source with
    | .ok s => .ok s
    | .error cause => .error (.json cause)
  | .yaml =>
    match ofYaml source with
    | some s => .ok s
    | none => .error .yaml

/-- What the message of an error begins with, before the place where the text does not fit. -/
def ReadError.lead : ReadError → Text
  | .json _ => "invalid JSON snapshot: ".toList
  | .yaml => "invalid YAML snapshot: ".toList

end RuntimeSnapshot
end ServiceStability
