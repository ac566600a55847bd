import ServiceStability.Json.Decode
import ServiceStability.Name.Reader
import ServiceStability.Name.SortedSet
import ServiceStability.OrderedSet
import ServiceStability.RuntimeSnapshot
/-!
# Codec.Names — names and words as documents

A service name is written as its canonical form, a state or mode as its name, and a runtime as its digits.
-/
namespace ServiceStability

def ServiceName.toJson (name : ServiceName) : Json := .text name.canonical

def ServiceName.ofText (text : Text) : Except DecodeError ServiceName :=
  match ServiceName.parse text with
  | .ok name => .ok name
  | .error problem => .error (.data problem.message)

def ServiceName.decode : Decode.Decoder ServiceName := fun o => Decode.text o >>= ServiceName.ofText

def ServiceName.listToJson (names : List ServiceName) : Json := .array (names.map ServiceName.toJson)

/-- A set of names, kept in order of first occurrence. -/
def ServiceName.decodeSet : Decode.Decoder (OrderedSet ServiceName) := fun o =>
  (Decode.orderedSet ServiceName.decode o).map .ofList

def NameSet.decode : Decode.Decoder NameSet := fun o => (Decode.list ServiceName.decode o).map .ofList

def nameTable {α : Type} (name : α → Text) (all : List α) : List (Text × α) := all.map fun value => (name value, value)

def State.decode : Decode.Decoder State := Decode.enumeration (nameTable State.name State.all)
def State.toJson (s : State) : Json := .text s.name

def Substate.decode : Decode.Decoder Substate := Decode.enumeration (nameTable Substate.name Substate.all)
def Substate.toJson (s : Substate) : Json := .text s.name

def Mode.decode : Decode.Decoder Mode := Decode.enumeration (nameTable Mode.name Mode.all)
def Mode.toJson (m : Mode) : Json := .text m.name

def RestState.decode : Decode.Decoder RestState := Decode.enumeration (nameTable RestState.name RestState.all)
def RestState.toJson (s : RestState) : Json := .text s.name

def RuntimeId.decode : Decode.Decoder RuntimeId := fun o => do
  let text ← Decode.textAs "a formatted UUID string".toList o
  match RuntimeId.parse text with
  | .ok id => .ok id
  | .error problem => .error (.data ("UUID parsing failed: ".toList ++ problem.message))
def RuntimeId.toJson (id : RuntimeId) : Json := .text id.text

end ServiceStability
