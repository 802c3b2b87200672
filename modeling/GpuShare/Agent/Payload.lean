import GpuShare.Dictionary
import GpuShare.Json.Decode

/-!
The messages of an allocation call: the devices asked for each container, and what each container
gets for them. All fields of a message have to be there, and unknown ones are passed over.
-/

set_option autoImplicit false

namespace GpuShare.Agent

open Json

abbrev ContainerRequest := List String

structure AllocateRequest where
  containers : List ContainerRequest
  deriving Repr, DecidableEq

structure Mount where
  containerPath : String
  hostPath : String
  readOnly : Bool
  deriving Repr, DecidableEq

structure ContainerResponse where
  environment : Dictionary String := .empty
  mounts : List Mount := []
  deriving Repr, DecidableEq

structure AllocateResponse where
  containers : List ContainerResponse
  deriving Repr, DecidableEq

def singleField? {α : Type} (name : String) (view : Value → Option α) (value : Value) : Option α := do
  match ← value.fields? [name] with
  | [field] => Value.required? view field
  | _ => none

def AllocateRequest.ofJson? (value : Value) : Option AllocateRequest :=
  (singleField? "containerRequests"
    (Value.list? (singleField? "deviceIds" (Value.list? Value.string?))) value).map (⟨·⟩)

def AllocateRequest.toJson (request : AllocateRequest) : Value :=
  .obj [("containerRequests",
    .list (fun ids => .obj [("deviceIds", .list .str ids)]) request.containers)]

def Mount.ofJson? (value : Value) : Option Mount := do
  match ← value.fields? ["containerPath", "hostPath", "readOnly"] with
  | [containerPath, hostPath, readOnly] =>
    return ⟨← Value.required? Value.string? containerPath, ← Value.required? Value.string? hostPath,
      ← Value.required? Value.bool? readOnly⟩
  | _ => none

def Mount.toJson (mount : Mount) : Value :=
  .obj [("containerPath", .str mount.containerPath), ("hostPath", .str mount.hostPath),
    ("readOnly", .bool mount.readOnly)]

def ContainerResponse.ofJson? (value : Value) : Option ContainerResponse := do
  match ← value.fields? ["envs", "mounts"] with
  | [environment, mounts] =>
    return ⟨.ofList (← Value.required? (Value.map? Value.string?) environment),
      ← Value.required? (Value.list? Mount.ofJson?) mounts⟩
  | _ => none

def ContainerResponse.toJson (response : ContainerResponse) : Value :=
  .obj [("envs", .obj (response.environment.entries.map fun entry => (entry.1, .str entry.2))),
    ("mounts", .list Mount.toJson response.mounts)]

def AllocateResponse.ofJson? (value : Value) : Option AllocateResponse :=
  (singleField? "containerResponses" (Value.list? ContainerResponse.ofJson?) value).map (⟨·⟩)

def AllocateResponse.toJson (response : AllocateResponse) : Value :=
  .obj [("containerResponses", .list ContainerResponse.toJson response.containers)]

end GpuShare.Agent
