import GpuShare.Json.Decode
import GpuShare.Cluster.Basic

/-!
Cluster objects as JSON documents. A document may name its kind and version, which then must fit; null
is the same as an absent member, and unknown members are passed over. Only what is set is written.
-/

set_option autoImplicit false

namespace GpuShare.Cluster

open Json

/-- A named member of an object; null is absent. -/
def member? {α : Type} (view : Value → Option α) (name : String)
    (members : List (Option String × Value)) : Option (Option α) :=
  match lookup? name members with
  | none => some none
  | some value => value.nullable? view

def members? : Value → Option (List (Option String × Value))
  | .object members => some members
  | _ => none

def fits (name text : String) (members : List (Option String × Value)) : Option Unit :=
  match lookup? name members with
  | none => some ()
  | some value => if value.string? = some text then some () else none

def labels? (value : Value) : Option Labels := (value.map? Value.string?).map Dictionary.ofList

def apiVersion : String := "v1"

def document? (kind : String) (value : Value) : Option (List (Option String × Value)) := do
  let members ← members? value
  fits "apiVersion" apiVersion members
  fits "kind" kind members
  return members

def Metadata.ofJson? (value : Value) : Option Metadata := do
  let members ← members? value
  return {
    ns := ← member? Value.string? "namespace" members
    name := ← member? Value.string? "name" members
    uid := ← member? Value.string? "uid" members
    resourceVersion := ← member? Value.string? "resourceVersion" members
    annotations := ← member? labels? "annotations" members }

def Metadata.blank : Metadata := ⟨none, none, none, none, none⟩

def metadata? (members : List (Option String × Value)) : Option Metadata := do
  return (← member? Metadata.ofJson? "metadata" members).getD .blank

def Variable.ofJson? (value : Value) : Option Variable := do
  let members ← members? value
  return ⟨(← member? Value.string? "name" members).getD "", ← member? Value.string? "value" members⟩

def limits? (value : Value) : Option Labels := do
  return (← member? labels? "limits" (← members? value)).getD .empty

def Container.ofJson? (value : Value) : Option Container := do
  let members ← members? value
  return {
    name := (← member? Value.string? "name" members).getD ""
    env := (← member? (Value.list? Variable.ofJson?) "env" members).getD []
    limits := (← member? limits? "resources" members).getD .empty }

def PodSpec.ofJson? (value : Value) : Option PodSpec := do
  let members ← members? value
  return {
    nodeName := ← member? Value.string? "nodeName" members
    containers := (← member? (Value.list? Container.ofJson?) "containers" members).getD [] }

def Pod.ofJson? (value : Value) : Option Pod := do
  let members ← document? "Pod" value
  return ⟨← metadata? members, ← member? PodSpec.ofJson? "spec" members⟩

def Node.ofJson? (value : Value) : Option Node := do
  return ⟨← metadata? (← document? "Node" value)⟩

def podList? (value : Value) : Option (List Pod) := do
  (← lookup? "items" (← members? value)).list? Pod.ofJson?

def configData? (value : Value) : Option Labels := do
  return (← member? labels? "data" (← document? "ConfigMap" value)).getD .empty

def written {α : Type} (name : String) (f : α → Value) : Option α → List (String × Value)
  | none => []
  | some a => [(name, f a)]

def labelsToJson (labels : Labels) : Value :=
  .obj (labels.entries.map fun entry => (entry.1, .str entry.2))

def Metadata.toJson (metadata : Metadata) : Value :=
  .obj (written "annotations" labelsToJson metadata.annotations ++
    written "name" .str metadata.name ++ written "namespace" .str metadata.ns ++
    written "resourceVersion" .str metadata.resourceVersion ++ written "uid" .str metadata.uid)

def Variable.toJson (entry : Variable) : Value :=
  .obj (("name", .str entry.name) :: written "value" .str entry.value)

/-- A list as it is written: not at all if it is empty. -/
def nonempty? {α : Type} (items : List α) : Option (List α) :=
  if items.isEmpty then none else some items

def Container.toJson (container : Container) : Value :=
  .obj (written "env" (.list Variable.toJson) (nonempty? container.env) ++
    [("name", .str container.name)] ++
    written "resources" (fun limits => .obj [("limits", labelsToJson limits)])
      (if container.limits.entries.isEmpty then none else some container.limits))

def PodSpec.toJson (spec : PodSpec) : Value :=
  .obj (("containers", .list Container.toJson spec.containers) ::
    written "nodeName" .str spec.nodeName)

def Pod.toJson (pod : Pod) : Value :=
  .obj ([("apiVersion", .str apiVersion), ("kind", .str "Pod"),
    ("metadata", pod.metadata.toJson)] ++ written "spec" PodSpec.toJson pod.spec)

def Node.toJson (node : Node) : Value :=
  .obj [("apiVersion", .str apiVersion), ("kind", .str "Node"), ("metadata", node.metadata.toJson)]

/-- A change of annotations as document: a null stands for a key to remove. -/
def Patch.toJson (patch : Patch) (version : Option String) : Value :=
  let changes := patch.entries.map fun entry => (entry.1, Value.option .str entry.2)
  .obj [("metadata", .obj (("annotations", .obj changes) ::
    written "resourceVersion" .str version))]

end GpuShare.Cluster
