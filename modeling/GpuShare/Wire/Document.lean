import GpuShare.Json.Decode
import GpuShare.Wire.Basic

/-!
Grants and adverts as JSON documents. A field that is left out is empty.
-/

set_option autoImplicit false

namespace GpuShare.Wire

open Json

def Grant.ofJson? (value : Value) : Option Grant := do
  match ← value.fields? ["uuid", "device_type", "used_mem", "used_cores"] with
  | [uuid, deviceType, memory, cores] =>
    return ⟨← Value.orElse? "" Value.string? uuid, ← Value.orElse? "" Value.string? deviceType,
      ← Value.orElse? 0 Value.int32? memory, ← Value.orElse? 0 Value.int32? cores⟩
  | _ => none

def Grant.toJson (grant : Grant) : Value :=
  .obj [("uuid", .str grant.uuid), ("device_type", .str grant.deviceType),
    ("used_mem", .int grant.memory.toInt), ("used_cores", .int grant.cores.toInt)]

def Grants.ofJson? (value : Value) : Option Grants := value.list? (Value.list? Grant.ofJson?)

def Grants.toJson (grants : Grants) : Value := .list (.list Grant.toJson) grants

def Advert.ofJson? (value : Value) : Option Advert := do
  match ← value.fields? ["id", "count", "devmem", "device_type", "health", "mode"] with
  | [id, count, memory, deviceType, healthy, mode] =>
    return ⟨← Value.orElse? "" Value.string? id, ← Value.orElse? 0 Value.int32? count,
      ← Value.orElse? 0 Value.int32? memory, ← Value.orElse? "" Value.string? deviceType,
      ← Value.orElse? false Value.bool? healthy, ← Value.orElse? "" Value.string? mode⟩
  | _ => none

def Advert.toJson (advert : Advert) : Value :=
  .obj [("id", .str advert.id), ("count", .int advert.count.toInt),
    ("devmem", .int advert.memory.toInt), ("device_type", .str advert.deviceType),
    ("health", .bool advert.healthy), ("mode", .str advert.mode)]

end GpuShare.Wire
