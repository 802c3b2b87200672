import GpuShare.Proofs.Mig.Listing
import GpuShare.Proofs.Agent.Coherence

/-!
Calls of a resolver on devices that stay as they are. Every partition that is remembered or asked for lists
each device once. A device that was given a geometry keeps it, whatever is done to the other devices, so it is
not partitioned again for that geometry.
-/

set_option autoImplicit false

namespace GpuShare.Agent.MigResolver

open Mig Program

variable {exchanges more : List (Exchange interface)} {allowed : List ModelGeometries}
  {gpus : List Device.Gpu} {remembered now later : Option Partition} {partition changed : Partition}
  {index other : UInt32} {geometry wanted : Geometry} {reference : Reference} {device : Device.Gpu}
  {id : String}

/-- What is told of devices that stay as they are. A request may fail at any time; otherwise the devices are
always the same, and an exported partition lists each device once at most. -/
structure Tells (gpus : List Device.Gpu) (exchanges : List (Exchange interface)) : Prop where
  devices : ∀ told, ⟨.gpus, .ok told⟩ ∈ exchanges → told = gpus
  exported : ∀ partition, ⟨.exportPartition, .ok partition⟩ ∈ exchanges →
    (partition.expand gpus.length).ListsOnce

theorem Tells.of_subset (tells : Tells gpus exchanges) (among : more ⊆ exchanges) : Tells gpus more :=
  ⟨fun told member => tells.devices told (among member),
    fun partition member => tells.exported partition (among member)⟩

structure CallOn (allowed : List ModelGeometries) (gpus : List Device.Gpu) (remembered : Option Partition)
    (id : String) (exchanges : List (Exchange interface)) (now : Option Partition) : Prop where
  ends : ∃ result, (resolve allowed remembered id).Ends exchanges (result, now)
  tells : Tells gpus exchanges

inductive CallsOn (allowed : List ModelGeometries) (gpus : List Device.Gpu) (kind : String → Prop)
    (start : Option Partition) : Option Partition → Prop where
  | none : CallsOn allowed gpus kind start start
  | call {remembered now : Option Partition} {id : String} {exchanges : List (Exchange interface)} :
      CallsOn allowed gpus kind start remembered → kind id →
      CallOn allowed gpus remembered id exchanges now → CallsOn allowed gpus kind start now

/-- An ID that asks for no other group on the device of a reference. -/
def Spares (reference : Reference) (id : String) : Prop :=
  ∀ other, Reference.parse id = .ok other → other.deviceUuid = reference.deviceUuid →
    other.group = reference.group

/-- An instance was looked for, which a call does only after its device was given the geometry. -/
def LooksForInstance (exchanges : List (Exchange interface)) : Prop :=
  ∃ answer, ⟨.migInstances, answer⟩ ∈ exchanges

def AsksForNoChange (exchanges : List (Exchange interface)) : Prop :=
  ∀ partition answer, ⟨.applyPartition partition, answer⟩ ∉ exchanges

/-! ## One device -/

section Devices

theorem tidy_setCurrent {entries : List PartitionEntry} (tidy : AreTidy entries) :
    (partition.setCurrent entries).IsTidy := by
  intro current inForce
  rw [Partition.current?_setCurrent] at inForce
  cases inForce
  exact tidy

theorem Ensures.tidy {outcome : Except MigError Partition}
    (ensures : Ensures partition index geometry exchanges outcome) (tidy : partition.IsTidy) :
    (∀ changed, outcome = .ok changed → changed.IsTidy) ∧
      ∀ asked answer, ⟨.applyPartition asked, answer⟩ ∈ exchanges → asked.IsTidy := by
  apply ensures.preserves Partition.IsTidy tidy
  intro entries position entry located
  obtain ⟨inForce, held, covers⟩ := locate_eq_ok located
  exact tidy_setCurrent ((tidy entries inForce).repartition held covers geometry)

theorem Ensures.suits (ensures : Ensures partition index geometry exchanges (.ok changed))
    (tidy : partition.IsTidy) (distinct : geometry.IsDistinct) : changed.Suits index geometry := by
  cases ensures with
  | already located has =>
    obtain ⟨inForce, held, covers⟩ := locate_eq_ok located
    exact ⟨_, inForce, _, (tidy _ inForce).separate.isEntryOf held covers, has⟩
  | applied located =>
    obtain ⟨inForce, held, covers⟩ := locate_eq_ok located
    exact ⟨_, Partition.current?_setCurrent _ _, (tidy _ inForce).suits_repartition held covers distinct⟩

theorem Ensures.suits_other (ensures : Ensures partition index geometry exchanges (.ok changed))
    (tidy : partition.IsTidy) (differs : other ≠ index) (suits : partition.Suits other wanted) :
    changed.Suits other wanted := by
  cases ensures with
  | already => exact suits
  | applied located =>
    obtain ⟨inForce, held, covers⟩ := locate_eq_ok located
    obtain ⟨entries, also, suits⟩ := suits
    obtain rfl := Option.some.inj (inForce.symm.trans also)
    exact ⟨_, Partition.current?_setCurrent _ _,
      (tidy _ inForce).suits_other held covers geometry differs suits⟩

-- Of a device that has its geometry nothing is asked.
theorem Ensures.idle {outcome : Except MigError Partition}
    (ensures : Ensures partition index geometry exchanges outcome) (suits : partition.Suits index geometry) :
    exchanges = [] ∧ outcome = .ok partition := by
  obtain ⟨entries, inForce, own, is, has⟩ := suits
  have found {current : List PartitionEntry} {position : Nat} {entry : PartitionEntry}
      (located : locate partition index = .ok (current, position, entry)) :
      entry.suits geometry = true := by
    obtain ⟨also, held, covers⟩ := locate_eq_ok located
    obtain rfl := Option.some.inj (inForce.symm.trans also)
    rw [is.alone entry (List.mem_of_getElem? held) covers]
    exact has
  cases ensures with
  | nowhere failed =>
    obtain ⟨_, _, _, located⟩ := locate_of_covers ⟨entries, inForce, own, is.member, is.covers⟩
    cases located.symm.trans failed
  | already => exact ⟨rfl, rfl⟩
  | applied located lacks => cases lacks.symm.trans (found located)
  | refused located lacks => cases lacks.symm.trans (found located)

end Devices

/-! ## One call -/

section Calls

variable {looking telling : List (Exchange interface)}

theorem picks_of_tells (looks : (lookUp allowed reference).run.Ends looking (.ok (device, geometry)))
    (tells : Tells gpus looking) : Device.findGpu gpus reference.deviceUuid = .ok device ∧
      findGeometry allowed device.model reference.group = .ok geometry := by
  obtain ⟨told, member, named, suited⟩ := lookUp_ends looks
  obtain rfl := tells.devices told member
  exact ⟨named, suited⟩

theorem findGpu_eq_ok {uuid : String} (found : Device.findGpu gpus uuid = .ok device) :
    device ∈ gpus ∧ device.uuid = uuid :=
  (findGpu_eq_ok_iff.1 found).mem

def IsTidyIfAny (remembered : Option Partition) : Prop :=
  ∀ partition, remembered = some partition → partition.IsTidy

/-- How far a call comes: it asks for nothing and changes nothing that is remembered, or it reaches the device
of its reference, starting from the partition that is remembered. -/
inductive Turn (allowed : List ModelGeometries) (gpus : List Device.Gpu) (remembered : Option Partition)
    (id : String) (exchanges : List (Exchange interface)) : Option Partition → Prop where
  | away : AsksForNoChange exchanges → ¬ LooksForInstance exchanges →
      Turn allowed gpus remembered id exchanges remembered
  | reaches {reference : Reference} {device : Device.Gpu} {geometry : Geometry} {partition : Partition}
      {ensuring : List (Exchange interface)} {outcome : Except MigError Partition} :
      Reference.parse id = .ok reference → Device.findGpu gpus reference.deviceUuid = .ok device →
      findGeometry allowed device.model reference.group = .ok geometry →
      (∀ held, remembered = some held → partition = held) →
      (IsTidyIfAny remembered → partition.IsTidy) →
      Ensures partition device.index geometry ensuring outcome →
      (∀ asked answer, ⟨.applyPartition asked, answer⟩ ∈ exchanges →
        ⟨.applyPartition asked, answer⟩ ∈ ensuring) →
      (LooksForInstance exchanges → ∃ changed, outcome = .ok changed) →
      Turn allowed gpus remembered id exchanges (heldAfter (some partition) outcome)

theorem isReading_of_ends {found : Except MigError (Device.Gpu × Geometry)}
    {told : Except MigError Partition} (looks : (lookUp allowed reference).run.Ends looking found)
    (tells : (current remembered index).run.Ends telling told) :
    ∀ exchange ∈ looking ++ telling, exchange.request.IsReading := by
  have looked := (lookUp_asks_gpus allowed reference).of_ends looks
  refine List.forall_mem_append.2 ⟨fun exchange member => ?_, (current_asks remembered index).of_ends tells⟩
  rw [looked exchange member]
  trivial

theorem mem_after_reading {exchange : Exchange interface}
    (reading : ∀ exchange ∈ exchanges, exchange.request.IsReading) (among : exchange ∈ exchanges ++ more)
    (other : ¬ exchange.request.IsReading) : exchange ∈ more :=
  (List.mem_append.1 among).resolve_left fun member => other (reading exchange member)

theorem Turn.of_reading (reading : ∀ exchange ∈ exchanges, exchange.request.IsReading) :
    Turn allowed gpus remembered id exchanges remembered :=
  .away (fun _ _ member => reading _ member) fun ⟨_, member⟩ => reading _ member

-- Where the partition in force comes from: it is remembered, or it was exported for these devices.
theorem tidy_of_told (told : (current remembered index).run.Ends telling (.ok partition))
    (tells : Tells gpus telling) (among : device ∈ gpus) (tidy : IsTidyIfAny remembered) :
    partition.IsTidy := by
  cases told_of_ends told with
  | remembered is => exact tidy partition is
  | @exported exported counted =>
    obtain rfl := tells.devices counted (by simp)
    exact Partition.isTidy_expand (Nat.ne_of_gt (List.length_pos_of_mem among))
      (tells.exported exported (by simp))

theorem eq_of_told (told : (current remembered index).run.Ends telling (.ok partition)) :
    ∀ held, remembered = some held → partition = held := by
  rintro held rfl
  exact Except.ok.inj told.2

theorem CallOn.turn (call : CallOn allowed gpus remembered id exchanges now) :
    Turn allowed gpus remembered id exchanges now := by
  obtain ⟨⟨result, ends⟩, tells⟩ := call
  cases stage_of_ends ends with
  | plain => exact .of_reading nofun
  | flawed => exact .of_reading nofun
  | @unknown _ reference _ _ looks =>
    refine .of_reading fun exchange member => ?_
    rw [(lookUp_asks_gpus allowed reference).of_ends looks exchange member]
    trivial
  | untold _ looks told => exact .of_reading (isReading_of_ends looks told)
  | unchanged parsed looks told ensures =>
    have reading := isReading_of_ends looks told
    rw [← List.append_assoc] at tells ⊢
    obtain ⟨named, suited⟩ := picks_of_tells looks (tells.of_subset (by simp))
    refine .reaches parsed named suited (eq_of_told told)
      (tidy_of_told told (tells.of_subset (by simp)) (findGpu_eq_ok named).1) ensures
      (fun _ _ member => mem_after_reading reading member not_false) fun ⟨answer, member⟩ => ?_
    cases ensures <;> simpa using mem_after_reading reading member not_false
  | fitted parsed looks told ensures finds =>
    have reading := isReading_of_ends looks told
    have found := (findInstance_asks _ _).of_ends finds
    rw [← List.append_assoc] at tells ⊢
    obtain ⟨named, suited⟩ := picks_of_tells looks (tells.of_subset (by simp))
    refine .reaches parsed named suited (eq_of_told told)
      (tidy_of_told told (tells.of_subset (by simp)) (findGpu_eq_ok named).1) ensures
      (fun _ _ member => ?_) fun _ => ⟨_, rfl⟩
    exact (List.mem_append.1 (mem_after_reading reading member not_false)).resolve_right fun late => found _ late

end Calls

/-! ## Many calls -/

section Runs

def Has (remembered : Option Partition) (index : UInt32) (geometry : Geometry) : Prop :=
  ∃ partition, remembered = some partition ∧ partition.IsTidy ∧ partition.Suits index geometry

theorem CallOn.tidy (call : CallOn allowed gpus remembered id exchanges now) (tidy : IsTidyIfAny remembered) :
    IsTidyIfAny now ∧ ∀ asked answer, ⟨.applyPartition asked, answer⟩ ∈ exchanges → asked.IsTidy := by
  cases call.turn with
  | away idle => exact ⟨tidy, fun asked answer member => absurd member (idle asked answer)⟩
  | @reaches _ _ _ partition _ outcome _ _ _ _ starts ensures among =>
    obtain ⟨leads, asks⟩ := ensures.tidy (starts tidy)
    refine ⟨?_, fun asked answer member => asks asked answer (among asked answer member)⟩
    rintro held is
    cases outcome with
    | error e => exact Option.some.inj is ▸ starts tidy
    | ok changed => exact Option.some.inj is ▸ leads changed rfl

theorem CallsOn.tidy {kind : String → Prop} (calls : CallsOn allowed gpus kind now later)
    (tidy : IsTidyIfAny now) : IsTidyIfAny later := by
  induction calls with
  | none => exact tidy
  | call _ _ call ih => exact (call.tidy ih).1

-- The call that looked for an instance has given its device the geometry.
theorem CallOn.has (call : CallOn allowed gpus remembered id exchanges now) (tidy : IsTidyIfAny remembered)
    (distinct : ∀ suited ∈ allowed, ∀ geometry ∈ suited.geometries, geometry.IsDistinct)
    (parsed : Reference.parse id = .ok reference) (looks : LooksForInstance exchanges) :
    ∃ device geometry, Device.findGpu gpus reference.deviceUuid = .ok device ∧
      findGeometry allowed device.model reference.group = .ok geometry ∧ Has now device.index geometry := by
  have leads := (call.tidy tidy).1
  cases call.turn with
  | away _ idle => exact absurd looks idle
  | reaches also named suited _ starts ensures _ succeeds =>
    obtain rfl := Except.ok.inj (also.symm.trans parsed)
    obtain ⟨changed, rfl⟩ := succeeds looks
    obtain ⟨choice, member, among⟩ := mem_of_findGeometry suited
    exact ⟨_, _, named, suited, changed, rfl, leads changed rfl,
      ensures.suits (starts tidy) (distinct choice member _ among)⟩

theorem CallOn.keeps (call : CallOn allowed gpus remembered id exchanges now)
    (distinct : (gpus.map (·.index)).Nodup) (named : Device.findGpu gpus reference.deviceUuid = .ok device)
    (suited : findGeometry allowed device.model reference.group = .ok geometry) (spares : Spares reference id)
    (has : Has remembered device.index geometry) : Has now device.index geometry := by
  obtain ⟨partition, rfl, tidy, suits⟩ := has
  have leads := (call.tidy fun _ is => Option.some.inj is ▸ tidy).1
  cases call.turn with
  | away => exact ⟨partition, rfl, tidy, suits⟩
  | @reaches other device' _ _ _ outcome parsed named' suited' held _ ensures =>
    obtain rfl := held partition rfl
    cases outcome with
    | error e => exact ⟨_, rfl, tidy, suits⟩
    | ok changed =>
      refine ⟨changed, rfl, leads changed rfl, ?_⟩
      by_cases same : other.deviceUuid = reference.deviceUuid
      · obtain rfl := Except.ok.inj (named'.symm.trans (same ▸ named))
        obtain rfl := Except.ok.inj (suited'.symm.trans (spares other parsed same ▸ suited))
        obtain ⟨-, still⟩ := ensures.idle suits
        exact Except.ok.inj still ▸ suits
      · refine ensures.suits_other tidy (fun equal => same ?_) suits
        obtain ⟨member, is⟩ := findGpu_eq_ok named
        obtain ⟨member', is'⟩ := findGpu_eq_ok named'
        rw [← is, ← is', List.inj_on_of_nodup_map distinct member member' equal]

theorem CallsOn.keeps (calls : CallsOn allowed gpus (Spares reference) now later)
    (distinct : (gpus.map (·.index)).Nodup) (named : Device.findGpu gpus reference.deviceUuid = .ok device)
    (suited : findGeometry allowed device.model reference.group = .ok geometry)
    (has : Has now device.index geometry) : Has later device.index geometry := by
  induction calls with
  | none => exact has
  | call _ spares call ih => exact call.keeps distinct named suited spares ih

theorem CallOn.asksForNoChange {other : Reference} (call : CallOn allowed gpus remembered id exchanges now)
    (named : Device.findGpu gpus reference.deviceUuid = .ok device)
    (suited : findGeometry allowed device.model reference.group = .ok geometry)
    (has : Has remembered device.index geometry) (parsed : Reference.parse id = .ok other)
    (sameDevice : other.deviceUuid = reference.deviceUuid) (sameGroup : other.group = reference.group) :
    AsksForNoChange exchanges := by
  obtain ⟨partition, rfl, tidy, suits⟩ := has
  cases call.turn with
  | away idle => exact idle
  | reaches also named' suited' held _ ensures among =>
    obtain rfl := held partition rfl
    obtain rfl := Except.ok.inj (also.symm.trans parsed)
    obtain rfl := Except.ok.inj (named'.symm.trans (sameDevice ▸ named))
    obtain rfl := Except.ok.inj (suited'.symm.trans (sameGroup ▸ suited))
    obtain ⟨rfl, -⟩ := ensures.idle suits
    exact fun asked answer member => absurd (among asked answer member) List.not_mem_nil

/-- Some calls after which the device of a reference has the geometry of its group: one call that was for the
reference gave it the geometry, and the calls since then spared it. -/
def Settles (allowed : List ModelGeometries) (gpus : List Device.Gpu) (reference : Reference)
    (later : Option Partition) : Prop :=
  ∃ remembered id exchanges now, CallsOn allowed gpus (fun _ => True) none remembered ∧
    CallOn allowed gpus remembered id exchanges now ∧ Reference.parse id = .ok reference ∧
    LooksForInstance exchanges ∧ CallsOn allowed gpus (Spares reference) now later

/-- On devices that stay as they are, whatever is remembered or asked for after any calls lists each device once
at most and has no entry without devices. Once a call has given a device a geometry, no later call for an
instance of that geometry asks for a change, whatever was resolved on the other devices in between. -/
theorem partitions_once (indices : (gpus.map (·.index)).Nodup)
    (distinct : ∀ suited ∈ allowed, ∀ geometry ∈ suited.geometries, geometry.IsDistinct) :
    (∀ remembered id exchanges now, CallsOn allowed gpus (fun _ => True) none remembered →
      CallOn allowed gpus remembered id exchanges now →
      (∀ partition, now = some partition → partition.IsTidy) ∧
        ∀ asked answer, ⟨.applyPartition asked, answer⟩ ∈ exchanges → asked.IsTidy) ∧
    ∀ reference other remembered id exchanges now, Settles allowed gpus reference remembered →
      CallOn allowed gpus remembered id exchanges now → Reference.parse id = .ok other →
      other.deviceUuid = reference.deviceUuid → other.group = reference.group →
      AsksForNoChange exchanges := by
  constructor
  · intro remembered id exchanges now calls call
    exact call.tidy (calls.tidy nofun)
  · rintro reference other later id exchanges now ⟨remembered, first, more, settled, calls, given, parsed,
      looks, spared⟩ call also sameDevice sameGroup
    obtain ⟨device, geometry, named, suited, has⟩ := given.has (calls.tidy nofun) distinct parsed looks
    exact call.asksForNoChange named suited (spared.keeps indices named suited has) also sameDevice sameGroup

end Runs

/-! ## Worlds -/

section Worlds

variable {world : World} {request : Request} {α : Type} {program : Program interface α}

theorem Tells.append (tells : Tells gpus exchanges) (also : Tells gpus more) :
    Tells gpus (exchanges ++ more) :=
  ⟨fun told member => (List.mem_append.1 member).elim (tells.devices told) (also.devices told),
    fun partition member => (List.mem_append.1 member).elim (tells.exported partition) (also.exported partition)⟩

structure HasDevices (gpus : List Device.Gpu) (world : World) : Prop where
  listed : world.inventory.listGpus = .ok gpus
  once : (world.partitionTool.exported.expand gpus.length).ListsOnce

theorem HasDevices.serve (has : HasDevices gpus world) (asked : request.IsForDevices) :
    HasDevices gpus (World.serve request world).2 := by
  cases request with
  | gpus => exact has
  | migInstances => exact has
  | exportPartition => exact ⟨has.listed, has.once⟩
  | applyPartition partition =>
    simp only [World.serve]
    split
    · exact has
    · exact ⟨has.listed, has.once⟩
  | _ => exact absurd asked not_false

theorem HasDevices.tells_answer (has : HasDevices gpus world) (request : Request) :
    Tells gpus [⟨request, (World.serve request world).1⟩] := by
  constructor
  · intro told member
    have same := Exchange.mk.inj (List.mem_singleton.1 member)
    obtain ⟨rfl, answers⟩ := same
    exact Except.ok.inj ((eq_of_heq answers).trans has.listed)
  · intro partition member
    have same := Exchange.mk.inj (List.mem_singleton.1 member)
    obtain ⟨rfl, answers⟩ := same
    have answers := eq_of_heq answers
    simp only [World.serve] at answers
    split at answers
    · cases answers
    · cases answers
      exact has.once

-- A world tells of its devices and keeps them, whatever is asked of them.
theorem HasDevices.run (has : HasDevices gpus world) (asks : program.Asks Request.IsForDevices) :
    Tells gpus (program.trace World.serve world) ∧ HasDevices gpus (program.run World.serve world).2 := by
  induction program generalizing world with
  | done a => exact ⟨⟨nofun, nofun⟩, has⟩
  | ask request next ih =>
    obtain ⟨tells, kept⟩ := ih _ (has.serve asks.1) (asks.2 _)
    exact ⟨(has.tells_answer request).append tells, kept⟩

def resolveEach (allowed : List ModelGeometries) : List String → Option Partition → World →
    Option Partition × World
  | [], remembered, world => (remembered, world)
  | id :: ids, remembered, world =>
    let ((_, now), after) := (resolve allowed remembered id).run World.serve world
    resolveEach allowed ids now after

theorem HasDevices.callOn (has : HasDevices gpus world) (remembered : Option Partition) (id : String) :
    CallOn allowed gpus remembered id ((resolve allowed remembered id).trace World.serve world)
      ((resolve allowed remembered id).run World.serve world).1.2 :=
  ⟨⟨_, ends_run World.serve (resolve allowed remembered id) world⟩,
    (has.run (resolve_asks allowed remembered id)).1⟩

theorem HasDevices.callsOn {kind : String → Prop} {start : Option Partition} {ids : List String}
    (has : HasDevices gpus world) (among : ∀ id ∈ ids, kind id)
    (calls : CallsOn allowed gpus kind start remembered) :
    CallsOn allowed gpus kind start (resolveEach allowed ids remembered world).1 ∧
      HasDevices gpus (resolveEach allowed ids remembered world).2 := by
  induction ids generalizing remembered world with
  | nil => exact ⟨calls, has⟩
  | cons id ids ih =>
    obtain ⟨first, rest⟩ := List.forall_mem_cons.1 among
    exact ih (has.run (resolve_asks allowed remembered id)).2 rest (calls.call first (has.callOn remembered id))

-- A reference that was resolved has come to its instance.
theorem looksForInstance_of_ok {uuid : String} (encoded : Reference.isEncoded id = true)
    (ends : (resolve allowed remembered id).Ends exchanges (.ok uuid, now)) : LooksForInstance exchanges := by
  cases stage_of_ends ends with
  | plain unencoded => cases encoded.symm.trans unencoded
  | fitted _ _ _ _ finds =>
    obtain ⟨answer, rest, rfl, -⟩ := finds
    exact ⟨answer, by simp⟩

def pair : World where
  inventory := {
    gpus := [⟨0, "GPU-0", "NVIDIA A30", 24576, true, true⟩, ⟨1, "GPU-1", "NVIDIA A30", 24576, true, true⟩]
    instances := [⟨0, "GPU-0", 0, "MIG-0", "1g.6gb"⟩, ⟨0, "GPU-0", 1, "MIG-1", "1g.6gb"⟩,
      ⟨1, "GPU-1", 0, "MIG-2", "1g.6gb"⟩] }
  partitionTool := {
    exported := ⟨"v1", Dictionary.empty.insert currentConfig [⟨.all, true, larger⟩]⟩ }

def smallOnly : List ModelGeometries := [⟨["A30"], [small]⟩]

theorem hasDevices_pair : HasDevices pair.inventory.gpus pair := by
  refine ⟨rfl, ?_⟩
  rintro _ ⟨⟩
  decide

def afterBoth : Option Partition × World := resolveEach smallOnly ["GPU-0[small-0]", "GPU-1[small-0]"] none pair

-- Each device is given the geometry once; the second instance of the first device needs no change.
theorem partitions_once_pair : afterBoth.2.partitionTool.applied.length = 2 ∧
    AsksForNoChange ((resolve smallOnly afterBoth.1 "GPU-0[small-1]").trace World.serve afterBoth.2) := by
  have looks : LooksForInstance ((resolve smallOnly none "GPU-0[small-0]").trace World.serve pair) := by
    have ends := ends_run World.serve (resolve smallOnly none "GPU-0[small-0]") pair
    rw [show ((resolve smallOnly none "GPU-0[small-0]").run World.serve pair).1 = (.ok "MIG-0", _)
      from Prod.ext (by decide +kernel) rfl] at ends
    exact looksForInstance_of_ok (by decide +kernel) ends
  have spares : ∀ id ∈ ["GPU-1[small-0]"], Spares ⟨"GPU-0", "small", 0⟩ id := by
    intro id member other parsed same
    have is : Reference.parse "GPU-1[small-0]" = .ok ⟨"GPU-1", "small", 0⟩ := by decide +kernel
    obtain rfl := List.mem_singleton.1 member
    obtain rfl := Except.ok.inj (is.symm.trans parsed)
    exact absurd same (by decide)
  have later := (hasDevices_pair.run (resolve_asks smallOnly none "GPU-0[small-0]")).2
  obtain ⟨spared, both⟩ := later.callsOn spares (.none : CallsOn smallOnly _ _ _ _)
  have settles : Settles smallOnly pair.inventory.gpus ⟨"GPU-0", "small", 0⟩ afterBoth.1 :=
    ⟨none, "GPU-0[small-0]", _, _, .none, hasDevices_pair.callOn none _, by decide +kernel, looks, spared⟩
  have distinct : ∀ suited ∈ smallOnly, ∀ geometry ∈ suited.geometries, geometry.IsDistinct := by
    simp only [smallOnly, List.mem_singleton, forall_eq]
    exact show (small.instances.map (·.name)).Nodup by decide
  have again := (partitions_once (by decide) distinct).2 ⟨"GPU-0", "small", 0⟩ ⟨"GPU-0", "small", 1⟩ _
    "GPU-0[small-1]" _ _ settles (both.callOn afterBoth.1 "GPU-0[small-1]") (by decide +kernel) rfl rfl
  exact ⟨by decide +kernel, again⟩

end Worlds

end GpuShare.Agent.MigResolver
