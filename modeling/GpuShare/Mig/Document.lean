import GpuShare.Yaml.Printer
import GpuShare.Mig.Geometry

/-!
Partitions and geometries as YAML documents.
-/

set_option autoImplicit false

namespace GpuShare.Mig

open Yaml Text

/-- Reads a selector: the word `all`, or a list of indices. -/
def Selector.ofNode? : Node → Option Selector
  | .sequence items => (items.mapM Node.uint32?).map .indices
  | .scalar text plain =>
    if text = "all".toList ∧ (!plain || isText text) then some .all else none
  | .mapping _ => none

/-- Reads an entry; its instances may be left out. -/
def PartitionEntry.ofNode? (node : Node) : Option PartitionEntry := do
  match ← node.fields? ["devices", "mig-enabled", "mig-devices"] with
  | [devices, enabled, instances] =>
    return {
      devices := ← devices.bind Selector.ofNode?
      enabled := ← enabled.bind Node.bool?
      instances := ← Node.orElse? .empty (Node.dictionary? Node.int32?) instances }
  | _ => none

def Partition.ofNode? (node : Node) : Option Partition := do
  match ← node.fields? ["version", "mig-configs"] with
  | [version, configs] =>
    return {
      version := ← version.bind Node.string?
      configs := ← configs.bind (Node.dictionary? (Node.list? PartitionEntry.ofNode?)) }
  | _ => none

def Partition.read? (text : String) : Option Partition :=
  (Node.read? text.toList).bind Partition.ofNode?

def textNode (text : String) : Node := .scalar text.toList false

def plainNode (text : List Char) : Node := .scalar text true

def Selector.toNode : Selector → Node
  | all => textNode "all"
  | indices list => .sequence (list.map fun index => plainNode (digits index.toNat))

def dictionaryNode {α : Type} (f : α → Node) (dictionary : Dictionary α) : Node :=
  .mapping (dictionary.entries.map fun entry => (textNode entry.1, f entry.2))

def PartitionEntry.toNode (entry : PartitionEntry) : Node :=
  .mapping [
    (textNode "devices", entry.devices.toNode),
    (textNode "mig-enabled", plainNode (if entry.enabled then "true" else "false").toList),
    (textNode "mig-devices",
      dictionaryNode (fun count => plainNode (signedDigits count.toInt)) entry.instances)]

def Partition.toNode (partition : Partition) : Node :=
  .mapping [
    (textNode "version", textNode partition.version),
    (textNode "mig-configs",
      dictionaryNode (fun entries => .sequence (entries.map (·.toNode))) partition.configs)]

def Partition.render (partition : Partition) : String := partition.toNode.render

def Template.ofNode? (node : Node) : Option Template := do
  match ← node.fields? ["name", "memory", "count"] with
  | [name, memory, count] =>
    return ⟨← name.bind Node.string?, ← memory.bind Node.int32?, ← count.bind Node.int32?⟩
  | _ => none

def Geometry.ofNode? (node : Node) : Option Geometry := do
  match ← node.fields? ["group", "geometries"] with
  | [group, instances] =>
    return ⟨← group.bind Node.string?, ← instances.bind (Node.list? Template.ofNode?)⟩
  | _ => none

def ModelGeometries.ofNode? (node : Node) : Option ModelGeometries := do
  match ← node.fields? ["models", "allowedGeometries"] with
  | [models, geometries] =>
    return ⟨← models.bind (Node.list? Node.string?),
      ← geometries.bind (Node.list? Geometry.ofNode?)⟩
  | _ => none

def Template.toNode (template : Template) : Node :=
  .mapping [(textNode "name", textNode template.name),
    (textNode "memory", plainNode (signedDigits template.memory.toInt)),
    (textNode "count", plainNode (signedDigits template.count.toInt))]

def Geometry.toNode (geometry : Geometry) : Node :=
  .mapping [(textNode "group", textNode geometry.group),
    (textNode "geometries", .sequence (geometry.instances.map (·.toNode)))]

def ModelGeometries.toNode (allowed : ModelGeometries) : Node :=
  .mapping [(textNode "models", .sequence (allowed.models.map textNode)),
    (textNode "allowedGeometries", .sequence (allowed.geometries.map (·.toNode)))]

end GpuShare.Mig
