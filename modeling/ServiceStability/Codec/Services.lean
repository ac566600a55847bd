import ServiceStability.Codec.Names
/-!
# Codec.Services — services and snapshots as documents

Start failures, service snapshots, status rows and whole runtimes, each with the document that it is written as and the
decoder that reads it.  Empty lists of causes and dependencies and absent failures are left out where a reader can do
without them.
-/
namespace ServiceStability

open Decode (Decoder record required optional defaulted)

namespace StartFailure

def toJson (f : StartFailure) : Json :=
  .object (("message".toList, .text f.message) ::
    Json.memberUnless f.causes.isEmpty "causes".toList (Json.texts f.causes))

/-- **A start failure**; causes may be left out. -/
def decode : Decoder StartFailure := fun o => do
  let (message, causes, _) ← record "StartFailure"
    (required "message" Decode.text <| defaulted "causes" [] (Decode.list Decode.text) .done) o
  .ok ⟨message, causes⟩

def optionToJson : Option StartFailure → Json
  | none => .null
  | some f => f.toJson

end StartFailure

namespace ServiceSnapshot

def toJson (s : ServiceSnapshot) : Json :=
  .object
    [("name".toList, s.name.toJson), ("runtime".toList, s.runtime.toJson), ("substate".toList, s.substate.toJson),
     ("mode".toList, s.mode.toJson), ("start_failure".toList, StartFailure.optionToJson s.startFailure),
     ("dependencies".toList, ServiceName.listToJson s.dependencies.toList),
     ("immediately_unavailable".toList, ServiceName.listToJson s.unavailable.toList)]

/-- **A service snapshot**; only the start failure may be left out. -/
def decode : Decoder ServiceSnapshot := fun o => do
  let (name, runtime, substate, mode, startFailure, dependencies, unavailable, _) ← record "ServiceSnapshot"
    (required "name" ServiceName.decode <| required "runtime" RuntimeId.decode <|
      required "substate" Substate.decode <| required "mode" Mode.decode <|
      optional "start_failure" (Decode.option StartFailure.decode) <|
      required "dependencies" ServiceName.decodeSet <|
      required "immediately_unavailable" ServiceName.decodeSet .done) o
  .ok ⟨name, runtime, substate, mode, startFailure, dependencies, unavailable⟩

end ServiceSnapshot

namespace ServiceStatus

def toJson (s : ServiceStatus) : Json :=
  .object [("name".toList, .text s.name), ("state".toList, .text s.state),
    ("dependencies".toList, Json.texts s.dependencies)]

def decode : Decoder ServiceStatus := fun o => do
  let (name, state, dependencies, _) ← record "ServiceStatus"
    (required "name" Decode.text <| required "state" Decode.text <|
      required "dependencies" (Decode.list Decode.text) .done) o
  .ok ⟨name, state, dependencies⟩

end ServiceStatus

namespace ServiceEntry

def failureMembers : Option StartFailure → List (Text × Json)
  | none => []
  | some f => [("failure".toList, f.toJson)]

def toJson (e : ServiceEntry) : Json :=
  .object ([("name".toList, e.name.toJson), ("mode".toList, e.mode.toJson), ("state".toList, e.state.toJson)]
    ++ failureMembers e.failure
    ++ Json.memberUnless e.dependencies.isEmpty "dependencies".toList (ServiceName.listToJson e.dependencies))

/-- **One service of a runtime**; everything but its name may be left out. -/
def decode : Decoder ServiceEntry := fun o => do
  let (name, mode, state, failure, dependencies, _) ← record "ServiceEntry"
    (required "name" ServiceName.decode <| defaulted "mode" .active Mode.decode <|
      defaulted "state" .down RestState.decode <| defaulted "failure" none (Decode.option StartFailure.decode) <|
      defaulted "dependencies" [] (Decode.list ServiceName.decode) .done) o
  .ok ⟨name, mode, state, failure, dependencies⟩

end ServiceEntry

namespace RuntimeSnapshot

def toJson (s : RuntimeSnapshot) : Json := .object [("services".toList, .array (s.services.map ServiceEntry.toJson))]

/-- **A whole runtime**; an absent list of services is empty. -/
def decode : Decoder RuntimeSnapshot := fun o => do
  let (services, _) ← record "RuntimeSnapshot" (defaulted "services" [] (Decode.list ServiceEntry.decode) .done) o
  .ok ⟨services⟩

end RuntimeSnapshot
end ServiceStability
