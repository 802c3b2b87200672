import GpuShare.Diagnostic
import GpuShare.Text.Split
import GpuShare.Text.Decimal
import GpuShare.Wire.Basic

/-!
The text form of grants and adverts. A record is its fields with commas between them and a colon
after the last; the containers of a pod stand with semicolons between them. A record without a comma
is no record and is skipped.
-/

set_option autoImplicit false

namespace GpuShare.Wire

open Text

inductive DecodeError where
  -- A record has too few or too many fields.
  | fieldCount (record : String) (expected found : Nat)
  -- A field does not read as its type.
  | invalidField (record field value : String)
  deriving Repr, DecidableEq

namespace DecodeError

def message : DecodeError → String
  | fieldCount record expected found =>
    "record `" ++ record ++ "` has " ++ decimal found ++ " fields, expected " ++ decimal expected
  | invalidField record field value =>
    "invalid " ++ field ++ " `" ++ value ++ "` in record `" ++ record ++ "`"

def code : DecodeError → String
  | fieldCount .. => "FieldCount"
  | invalidField .. => "InvalidField"

instance : Explain DecodeError where
  explain error := [⟨error.code, error.message, []⟩]

end DecodeError

def readField {α : Type} (read? : List Char → Option α) (record : List Char) (field : String)
    (value : List Char) : Except DecodeError α :=
  match read? value with
  | some a => .ok a
  | none => .error (.invalidField (String.ofList record) field (String.ofList value))

/-- Reads every record of a list, in order; the first bad one is the error. -/
def decodeRecords {α : Type} (decode : List Char → Except DecodeError α) (text : List Char) :
    Except DecodeError (List α) :=
  ((splitOn ':' text).filter (·.contains ',')).mapM decode

namespace Grant

def encode (grant : Grant) : List Char :=
  grant.uuid.toList ++ ',' :: grant.deviceType.toList ++ ',' ::
    signedDigits grant.memory.toInt ++ ',' :: signedDigits grant.cores.toInt ++ [':']

/-- Reads a record with exactly four fields, the memory quota before the core quota. -/
def decode (record : List Char) : Except DecodeError Grant :=
  match splitOn ',' record with
  | [uuid, deviceType, memory, cores] => do
    let memory ← readField readInt32? record "usedmem" memory
    let cores ← readField readInt32? record "usedcores" cores
    return ⟨String.ofList uuid, String.ofList deviceType, memory, cores⟩
  | fields => .error (.fieldCount (String.ofList record) 4 fields.length)

def encodeContainer (grants : List Grant) : List Char := grants.flatMap encode

def decodeContainer (text : List Char) : Except DecodeError (List Grant) :=
  decodeRecords decode text

end Grant

namespace Grants

/-- The grants of a pod; one container without grants is written like none. -/
def encode (grants : Grants) : String :=
  String.ofList (joinWith ';' (grants.map Grant.encodeContainer))

/-- Reads the grants of a pod: nothing for an empty text, else one container per part. -/
def decode (text : String) : Except DecodeError Grants :=
  match text.toList with
  | [] => .ok []
  | cs => (splitOn ';' cs).mapM Grant.decodeContainer

end Grants

namespace Advert

def healthText (healthy : Bool) : List Char := (if healthy then "true" else "false").toList

def readHealth? (text : List Char) : Option Bool :=
  if text = "true".toList then some true
  else if text = "false".toList then some false
  else none

def encode (advert : Advert) : List Char :=
  advert.id.toList ++ ',' :: signedDigits advert.count.toInt ++ ',' ::
    signedDigits advert.memory.toInt ++ ',' :: advert.deviceType.toList ++ ',' ::
    healthText advert.healthy ++ ',' :: advert.mode.toList ++ [':']

/-- Reads a record with six fields, or with five from an older publisher, which gives no mode. -/
def decode (record : List Char) : Except DecodeError Advert :=
  let read (id count memory deviceType health mode : List Char) : Except DecodeError Advert := do
    let count ← readField readInt32? record "count" count
    let memory ← readField readInt32? record "devmem" memory
    let healthy ← readField readHealth? record "health" health
    return ⟨String.ofList id, count, memory, String.ofList deviceType, healthy,
      String.ofList mode⟩
  match splitOn ',' record with
  | [id, count, memory, deviceType, health] => read id count memory deviceType health []
  | [id, count, memory, deviceType, health, mode] => read id count memory deviceType health mode
  | fields => .error (.fieldCount (String.ofList record) 6 fields.length)

def encodeAll (adverts : List Advert) : String := String.ofList (adverts.flatMap encode)

def decodeAll (text : String) : Except DecodeError (List Advert) :=
  decodeRecords decode text.toList

end Advert

end GpuShare.Wire
