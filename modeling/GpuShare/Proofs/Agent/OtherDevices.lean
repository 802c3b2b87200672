import GpuShare.Proofs.Mig.Shares
import GpuShare.Proofs.Agent.Remembered
import GpuShare.Proofs.Agent.Endings
import GpuShare.Proofs.Agent.KeptGeometry

/-!
What calls leave of the devices that they are not for. A call changes what the current configuration says of one
device, so over any calls the partition says of every other device what the tool exported of it.
-/

set_option autoImplicit false

namespace GpuShare

open Mig

namespace Mig.Partition

variable {first second third : Partition} {index : UInt32}

theorem SameBesidesCurrent.refl (partition : Partition) : partition.SameBesidesCurrent partition :=
  ⟨rfl, fun _ _ => rfl⟩

theorem SameBesidesCurrent.trans (left : first.SameBesidesCurrent second)
    (right : second.SameBesidesCurrent third) : first.SameBesidesCurrent third :=
  ⟨left.version.trans right.version, fun name other => (left.configs name other).trans (right.configs name other)⟩

/-- Two partitions say the same of a device, and the same in all configurations but the current. -/
structure AgreesOn (index : UInt32) (first second : Partition) : Prop where
  besides : first.SameBesidesCurrent second
  shares : first.shares? index = second.shares? index

theorem AgreesOn.refl (partition : Partition) : partition.AgreesOn index partition := ⟨.refl partition, rfl⟩

theorem AgreesOn.trans (left : first.AgreesOn index second) (right : second.AgreesOn index third) :
    first.AgreesOn index third :=
  ⟨left.besides.trans right.besides, left.shares.trans right.shares⟩

end Mig.Partition

namespace Agent.MigResolver

open Program

variable {exchanges more : List (Exchange interface)} {allowed : List ModelGeometries}
  {remembered now : Option Partition} {partition held : Partition} {index other : UInt32} {geometry : Geometry}
  {id : String} {result : Except MigError String}

theorem agreesOn_changed {entries : List PartitionEntry} {position : Nat} {entry : PartitionEntry}
    (explicit : held.IsExplicit) (located : locate held index = .ok (entries, position, entry))
    (differs : other ≠ index) :
    (held.setCurrent (repartition entries position index geometry)).AgreesOn other held := by
  obtain ⟨inForce, here, covers⟩ := locate_eq_ok located
  refine ⟨held.sameBesidesCurrent_setCurrent _, ?_⟩
  rw [Partition.shares?, Partition.shares?, Partition.current?_setCurrent, inForce, Option.map_some,
    Option.map_some, shares_repartition (explicit entries inForce) here covers geometry differs]

theorem Ensures.agreesOn {outcome : Except MigError Partition}
    (ensures : Ensures held index geometry exchanges outcome) (explicit : held.IsExplicit)
    (differs : other ≠ index) : (∀ changed, outcome = .ok changed → changed.AgreesOn other held) ∧
      ∀ partition ∈ asked exchanges, partition.AgreesOn other held := by
  obtain ⟨leads, asks⟩ := ensures.preserves (Partition.AgreesOn other · held) (.refl held)
    fun _ _ _ located => agreesOn_changed explicit located differs
  refine ⟨leads, fun partition member => ?_⟩
  obtain ⟨answer, among⟩ := mem_asked.1 member
  exact asks partition answer among

theorem Told.isExplicit (told : Told remembered exchanges (.ok held)) (explicit : IsExplicit remembered) :
    held.IsExplicit := by
  cases told with
  | remembered is => exact explicit held is
  | exported => exact Partition.isExplicit_expand _ _

/-- What is said of all devices but one stays as it was in the partition in force. -/
def ChangesOnly (index : UInt32) (remembered : Option Partition) (exchanges : List (Exchange interface))
    (now : Option Partition) : Prop :=
  ∃ held after, Reads remembered exchanges held ∧ now = some after ∧ ∀ other ≠ index,
    after.AgreesOn other held ∧ ∀ partition ∈ asked exchanges, partition.AgreesOn other held

theorem GoesOn.changesOnly (goesOn : GoesOn remembered index geometry exchanges result now)
    (explicit : IsExplicit remembered) : now = remembered ∧ asked exchanges = [] ∨
      ChangesOnly index remembered exchanges now := by
  cases goesOn with
  | untold _ untold => exact .inl ⟨rfl, untold.asked_eq_nil⟩
  | unchanged tells ensures =>
    refine .inr ⟨_, _, tells.reads.among [] _, rfl, fun other differs => ?_⟩
    rw [tells.asked_append]
    exact ⟨.refl _, (ensures.agreesOn (tells.isExplicit explicit) differs).2⟩
  | fitted tells ensures =>
    refine .inr ⟨_, _, tells.reads.among [] _, rfl, fun other differs => ?_⟩
    obtain ⟨leads, asks⟩ := ensures.agreesOn (tells.isExplicit explicit) differs
    rw [tells.asked_append, asked_append_found]
    exact ⟨leads _ rfl, asks⟩

-- A call changes nothing, or what the partition says of the device that it is for.
theorem changes_one_device (explicit : IsExplicit remembered)
    (ends : (resolve allowed remembered id).Ends exchanges (result, now)) :
    now = remembered ∧ asked exchanges = [] ∨
      ∃ index, IsFor id exchanges index ∧ ChangesOnly index remembered exchanges now := by
  by_cases encoded : Reference.isEncoded id = true
  · cases ending_of_ends encoded ends with
    | malformed => exact .inl ⟨rfl, rfl⟩
    | unlisted => exact .inl ⟨rfl, rfl⟩
    | rejected => exact .inl ⟨rfl, rfl⟩
    | admitted parsed admits goesOn =>
      apply (goesOn.changesOnly explicit).imp_right
      rintro ⟨held, after, reads, is, spares⟩
      exact ⟨_, ⟨_, _, _, _, parsed, rfl, admits.named, rfl⟩, held, after, reads.cons _, is, spares⟩
  · obtain ⟨rfl, -, rfl⟩ := plain_of_ends encoded ends
    exact .inl ⟨rfl, rfl⟩

theorem Resolved.isExplicit (run : Resolved allowed exchanges remembered) : IsExplicit remembered := by
  induction run with
  | start => nofun
  | call _ ends explicit => exact (gives_resolve explicit _ _).of_ends ends

inductive Spared (allowed : List ModelGeometries) (other : UInt32) :
    List (Exchange interface) → Option Partition → Prop where
  | start : Spared allowed other [] none
  | call {exchanges more : List (Exchange interface)} {remembered now : Option Partition} {id : String}
      {result : Except MigError String} : Spared allowed other exchanges remembered →
      (resolve allowed remembered id).Ends more (result, now) → ¬ IsFor id more other →
      Spared allowed other (exchanges ++ more) now

theorem Spared.resolved (run : Spared allowed other exchanges remembered) :
    Resolved allowed exchanges remembered := by
  induction run with
  | start => exact .start
  | call _ ends _ resolved => exact resolved.call ends

-- Whatever is remembered or was asked for says of a spared device what was read.
theorem Spared.agrees (run : Spared allowed other exchanges remembered) :
    ∀ partition, remembered = some partition ∨ partition ∈ asked exchanges →
      ∃ read ∈ readings exchanges, partition.AgreesOn other read := by
  induction run with
  | start => simp [asked]
  | @call exchanges more remembered now id result run ends spares ih =>
    intro partition among
    have earlier (old : remembered = some partition ∨ partition ∈ asked exchanges) :
        ∃ read ∈ readings (exchanges ++ more), partition.AgreesOn other read := by
      obtain ⟨read, member, agrees⟩ := ih partition old
      exact ⟨read, readings_append_left _ _ member, agrees⟩
    rw [asked_append, List.mem_append] at among
    obtain ⟨rfl, nothing⟩ | ⟨index, isFor, held, after, reads, rfl, spared⟩ :=
      changes_one_device run.resolved.isExplicit ends
    · simp only [nothing, List.not_mem_nil, or_false] at among
      exact earlier among
    · have differs : other ≠ index := fun same => spares (same ▸ isFor)
      obtain ⟨leads, asks⟩ := spared other differs
      -- The partition that the call started from says what was read.
      have start : ∃ read ∈ readings (exchanges ++ more), held.AgreesOn other read := by
        obtain is | ⟨-, member⟩ := reads
        · obtain ⟨read, member, agrees⟩ := ih held (.inl is)
          exact ⟨read, readings_append_left _ _ member, agrees⟩
        · exact ⟨held, readings_append_right _ _ member, .refl held⟩
      obtain ⟨read, member, agrees⟩ := start
      rcases among with is | old | new
      · cases is
        exact ⟨read, member, leads.trans agrees⟩
      · exact earlier (.inr old)
      · exact ⟨read, member, (asks partition new).trans agrees⟩

theorem Spared.agrees_once (run : Spared allowed other exchanges remembered) {partition : Partition}
    (among : remembered = some partition ∨ partition ∈ asked exchanges) :
    ∃ read, readings exchanges = [read] ∧ partition.AgreesOn other read := by
  obtain ⟨read, member, agrees⟩ := run.agrees partition among
  exact ⟨read, eq_singleton_of_mem member run.resolved.isCoherent.readsOnce, agrees⟩

/-- Giving a device its geometry leaves what the entries say of all other devices, in whatever entries these are
and however often. So a call asks for no change, or for one in what the current configuration says of the device
that it is for; and over any calls that are not for a device, whatever is remembered or asked for says of it
what the tool exported, with entries of all devices spelled out. -/
theorem repartition_spares_others :
    (∀ entries index geometry, AreExplicit entries → Covers entries index →
      ∃ position, entryPosition? entries index = some position ∧
        ∀ other ≠ index, shares (repartition entries position index geometry) other = shares entries other) ∧
    (∀ allowed exchanges remembered more id result now, Resolved allowed exchanges remembered →
      (resolve allowed remembered id).Ends more (result, now) →
      now = remembered ∧ asked more = [] ∨
        ∃ index, IsFor id more index ∧ ChangesOnly index remembered more now) ∧
    ∀ allowed other exchanges remembered partition, Spared allowed other exchanges remembered →
      remembered = some partition ∨ partition ∈ asked exchanges →
      ∃ read, readings exchanges = [read] ∧ partition.AgreesOn other read := by
  refine ⟨fun entries index geometry explicit covers => ?_, ?_, ?_⟩
  · obtain ⟨position, entry, found, held, here⟩ := entryPosition?_of_covers covers
    exact ⟨position, found, fun other differs => shares_repartition explicit held here geometry differs⟩
  · intro allowed exchanges remembered more id result now run ends
    exact changes_one_device run.isExplicit ends
  · intro allowed other exchanges remembered partition run among
    exact run.agrees_once among

/-- Entries that overlap, and of which one lists a device twice. -/
def overlapping : List PartitionEntry := [⟨.indices [0, 1, 0], true, larger⟩, ⟨.indices [1], false, .empty⟩]

def overlappingPair : World :=
  { pair with partitionTool := { exported := ⟨"v1", Dictionary.empty.insert currentConfig overlapping⟩ } }

def firstOfPair : Program interface (Except MigError String × Option Partition) :=
  resolve smallOnly none "GPU-0[small-0]"

theorem isFor_firstOfPair (isFor : IsFor "GPU-0[small-0]" (firstOfPair.trace World.serve overlappingPair) index) :
    index = 0 := by
  obtain ⟨reference, gpus, rest, device, parsed, begins, named, rfl⟩ := isFor
  have is : Reference.parse "GPU-0[small-0]" = .ok ⟨"GPU-0", "small", 0⟩ := by decide +kernel
  obtain ⟨_, first⟩ := eq_cons_of_listed
    (show (firstOfPair.trace World.serve overlappingPair).head?.bind listed? = some pair.inventory.gpus by
      decide +kernel)
  cases begins.symm.trans first
  obtain rfl := Except.ok.inj (is.symm.trans parsed)
  cases findGpu_eq_ok_iff.2 named
  rfl

-- The first device gets an entry of its own, and the second one stays in both of its entries.
theorem repartition_spares_others_overlapping :
    shares (repartition overlapping 0 0 small) 1 = [(true, larger), (false, .empty)] ∧
    ∃ after, (firstOfPair.run World.serve overlappingPair).1.2 = some after ∧
      after.shares? 0 = some [(true, small.counts)] ∧
      after.AgreesOn 1 overlappingPair.partitionTool.exported ∧
      ∀ partition ∈ asked (firstOfPair.trace World.serve overlappingPair),
        partition.AgreesOn 1 overlappingPair.partitionTool.exported := by
  have explicit : AreExplicit overlapping := by
    intro entry member
    simp only [overlapping, List.mem_cons, List.not_mem_nil, or_false] at member
    rcases member with rfl | rfl <;> nofun
  have covers : Covers overlapping 0 := ⟨_, List.mem_cons_self, by decide⟩
  obtain ⟨position, found, same⟩ := repartition_spares_others.1 overlapping 0 small explicit covers
  obtain rfl : 0 = position := Option.some.inj ((by decide : some 0 = entryPosition? overlapping 0).trans found)
  have ends := ends_run World.serve firstOfPair overlappingPair
  have read : readings (firstOfPair.trace World.serve overlappingPair) =
      [overlappingPair.partitionTool.exported] := by decide +kernel
  have own : (firstOfPair.run World.serve overlappingPair).1.2.bind (·.shares? 0) =
      some [(true, small.counts)] := by decide +kernel
  obtain ⟨after, now, own⟩ := Option.bind_eq_some_iff.1 own
  refine ⟨(same 1 (by decide)).trans (by decide +kernel), after, now, own, ?_, fun partition among => ?_⟩
  · rcases repartition_spares_others.2.1 smallOnly [] none _ "GPU-0[small-0]" _ _ .start ends with
      ⟨nothing, -⟩ | ⟨index, isFor, held, later, reads, is, spares⟩
    · cases nothing.symm.trans now
    · obtain rfl := Option.some.inj (now.symm.trans is)
      obtain rfl := isFor_firstOfPair isFor
      obtain ⟨⟨⟩⟩ | ⟨-, member⟩ := reads
      rw [read, List.mem_singleton] at member
      exact member ▸ (spares 1 (by decide)).1
  · have spares : ¬ IsFor "GPU-0[small-0]" (firstOfPair.trace World.serve overlappingPair) 1 :=
      fun isFor => absurd (isFor_firstOfPair isFor) (by decide)
    have spared := Spared.start.call ends spares
    obtain ⟨only, single, agrees⟩ := repartition_spares_others.2.2 smallOnly 1 _ _ partition spared (.inr among)
    rw [List.nil_append, read] at single
    cases single
    exact agrees

end Agent.MigResolver

end GpuShare
