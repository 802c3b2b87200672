import GpuShare.Proofs.Agent.Endings

/-!
What calls that fail leave behind. A reference that is rejected is rejected before anything is exported or asked
for. Whatever fails later, what is remembered is what was remembered, or the partition that was read first, unless
a change was accepted.
-/

set_option autoImplicit false

namespace GpuShare.Agent.MigResolver

open Mig Program

variable {exchanges more : List (Exchange interface)} {allowed : List ModelGeometries}
  {remembered now : Option Partition} {partition held : Partition} {index : UInt32} {geometry : Geometry}
  {id : String} {result : Except MigError String} {reference : Reference} {gpus : List Device.Gpu}
  {device : Device.Gpu} {rest : List (Exchange interface)}

/-- What is remembered stays as it was, but for a first partition that was read. -/
def Keeps (remembered : Option Partition) (exchanges : List (Exchange interface)) (now : Option Partition) : Prop :=
  now = remembered ∨ remembered = none ∧ ∃ read ∈ readings exchanges, now = some read

/-- What a call leaves behind if it fails, and that it asks for one change at most. -/
structure LeavesNoTrace (allowed : List ModelGeometries) (remembered : Option Partition) (id : String)
    (exchanges : List (Exchange interface)) (result : Except MigError String) (now : Option Partition) : Prop where
  plain : '[' ∉ id.toList → exchanges = [] ∧ result = .ok id ∧ now = remembered
  malformed : ∀ flaw, '[' ∈ id.toList → Reference.parse id = .error flaw →
    exchanges = [] ∧ result = .error (.invalidReference id flaw) ∧ now = remembered
  /-- A reference is checked once the devices are listed, and it is rejected or it passes. -/
  looksFirst : ∀ reference, Reference.parse id = .ok reference →
    ∃ answer rest, exchanges = ⟨.gpus, answer⟩ :: rest
  decided : ∀ reference gpus, (∃ e, Rejects allowed gpus reference e) ∨
    ∃ device geometry, Admits allowed gpus reference device geometry
  rejected : ∀ reference gpus rest e, Reference.parse id = .ok reference →
    exchanges = ⟨.gpus, .ok gpus⟩ :: rest → Rejects allowed gpus reference e →
    rest = [] ∧ result = .error e ∧ now = remembered
  /-- The devices may be listed once more, after an export. -/
  unlisted : ∀ cause, ⟨.gpus, .error cause⟩ ∈ exchanges →
    result = .error (.ofInventory cause) ∧ asked exchanges = [] ∧ now = remembered
  unexported : ∀ cause, ⟨.exportPartition, .error cause⟩ ∈ exchanges → ∃ index, IsFor id exchanges index ∧
    result = .error (.noPartition index (some cause)) ∧ asked exchanges = [] ∧ now = remembered
  uncovered : ∀ reference gpus rest device geometry held, Reference.parse id = .ok reference →
    exchanges = ⟨.gpus, .ok gpus⟩ :: rest → Admits allowed gpus reference device geometry →
    Reads remembered exchanges held → ¬ held.Covers device.index →
    result = .error (.noPartition device.index none) ∧ asked exchanges = [] ∧ Keeps remembered exchanges now
  refused : ∀ partition cause, ⟨.applyPartition partition, .error cause⟩ ∈ exchanges →
    result = .error (.apply cause) ∧ Keeps remembered exchanges now
  /-- Only a change that was accepted changes what is remembered. -/
  unchanged : accepted exchanges = [] → Keeps remembered exchanges now
  once : (asked exchanges).length ≤ 1

theorem Reads.keeps (reads : Reads remembered exchanges held) : Keeps remembered exchanges (some held) := by
  obtain is | ⟨nothing, member⟩ := reads
  · exact .inl is.symm
  · exact .inr ⟨nothing, held, member, rfl⟩

-- One partition is read at most, so the one in force is unique.
theorem Reads.unique {other : Partition} (first : Reads remembered exchanges held)
    (ends : (resolve allowed remembered id).Ends exchanges (result, now))
    (second : Reads remembered exchanges other) : held = other := by
  obtain is | ⟨rfl, member⟩ := first
  · obtain also | ⟨nothing, -⟩ := second
    · exact Option.some.inj (is.symm.trans also)
    · cases is.symm.trans nothing
  · obtain ⟨⟨⟩⟩ | ⟨-, also⟩ := second
    have once := (IsCoherent.start.resolve ends).readsOnce
    rw [List.nil_append] at once
    rw [eq_singleton_of_mem member once, List.mem_singleton] at also
    exact also.symm

/-- Whenever the devices or the partition were asked for, they were told. -/
structure IsTold (exchanges : List (Exchange interface)) : Prop where
  exported : ∀ cause, ⟨.exportPartition, .error cause⟩ ∉ exchanges
  listed : ∀ cause, ⟨.gpus, .error cause⟩ ∉ exchanges

theorem IsTold.append (told : IsTold exchanges) (also : IsTold more) : IsTold (exchanges ++ more) :=
  ⟨fun cause member => (List.mem_append.1 member).elim (told.exported cause) (also.exported cause),
    fun cause member => (List.mem_append.1 member).elim (told.listed cause) (also.listed cause)⟩

theorem isTold_found (answer : Except InventoryError (List Device.MigInstance)) :
    IsTold [⟨.migInstances, answer⟩] := ⟨by simp, by simp⟩

theorem Told.isTold (told : Told remembered exchanges (.ok held)) : IsTold exchanges := by
  cases told with
  | remembered => exact ⟨nofun, nofun⟩
  | exported => exact ⟨by simp, by simp⟩

theorem Ensures.isTold {outcome : Except MigError Partition}
    (ensures : Ensures held index geometry exchanges outcome) : IsTold exchanges := by
  cases ensures with
  | nowhere => exact ⟨nofun, nofun⟩
  | already => exact ⟨nofun, nofun⟩
  | applied => exact ⟨by simp, by simp⟩
  | refused => exact ⟨by simp, by simp⟩

theorem Ensures.of_refused {cause : PartitionToolError} {outcome : Except MigError Partition}
    (ensures : Ensures held index geometry exchanges outcome)
    (failed : ⟨.applyPartition partition, .error cause⟩ ∈ exchanges) : outcome = .error (.apply cause) := by
  cases ensures with
  | nowhere => cases failed
  | already => cases failed
  | applied => cases List.mem_singleton.1 failed
  | refused =>
    cases List.mem_singleton.1 failed
    rfl

theorem Untold.of_unlisted {cause : InventoryError} {e : MigError} (untold : Untold index exchanges e)
    (failed : ⟨.gpus, .error cause⟩ ∈ exchanges) : e = .ofInventory cause := by
  cases untold with
  | unexported => cases List.mem_singleton.1 failed
  | uncounted =>
    rcases List.mem_cons.1 failed with first | second
    · cases first
    · cases List.mem_singleton.1 second
      rfl

theorem Untold.of_unexported {cause : PartitionToolError} {e : MigError} (untold : Untold index exchanges e)
    (failed : ⟨.exportPartition, .error cause⟩ ∈ exchanges) : e = .noPartition index (some cause) := by
  cases untold with
  | unexported =>
    cases List.mem_singleton.1 failed
    rfl
  | uncounted =>
    rcases List.mem_cons.1 failed with first | second
    · cases first
    · cases List.mem_singleton.1 second

theorem Untold.not_reads {e : MigError} (untold : Untold index exchanges e) (gpus : List Device.Gpu) :
    ¬ Reads none (⟨.gpus, .ok gpus⟩ :: exchanges) held := by
  rintro (⟨⟨⟩⟩ | ⟨-, member⟩)
  cases untold with
  | unexported => simp [readings, reading?] at member
  | uncounted => simp [readings, reading?] at member

theorem Keeps.cons (keeps : Keeps remembered exchanges now) (exchange : Exchange interface) :
    Keeps remembered (exchange :: exchanges) now := by
  obtain same | ⟨nothing, read, member, is⟩ := keeps
  · exact .inl same
  · exact .inr ⟨nothing, read, readings_cons exchange exchanges member, is⟩

theorem not_mem_of_asked_eq_nil (nothing : asked exchanges = []) (partition : Partition)
    (answer : Except PartitionToolError Unit) : ⟨.applyPartition partition, answer⟩ ∉ exchanges := by
  intro member
  have among := mem_asked.2 ⟨answer, member⟩
  rw [nothing] at among
  cases among

theorem locate_eq_error {e : MigError} (nowhere : locate held index = .error e) : e = .noPartition index none := by
  unfold locate at nowhere
  split at nowhere
  · cases nowhere
    rfl
  · split at nowhere
    · cases nowhere
      rfl
    · split at nowhere
      · cases nowhere
        rfl
      · cases nowhere

-- A device that no entry covers is not partitioned.
theorem Ensures.of_not_covers {outcome : Except MigError Partition}
    (ensures : Ensures held index geometry exchanges outcome) (uncovered : ¬ held.Covers index) :
    outcome = .error (.noPartition index none) ∧ exchanges = [] := by
  cases ensures with
  | nowhere nowhere => exact ⟨by rw [locate_eq_error nowhere], rfl⟩
  | already located => exact absurd (covers_of_locate located) uncovered
  | applied located => exact absurd (covers_of_locate located) uncovered
  | refused located => exact absurd (covers_of_locate located) uncovered

theorem Rejects.unique {e other : MigError} (first : Rejects allowed gpus reference e)
    (second : Rejects allowed gpus reference other) : e = other :=
  Except.error.inj ((check_eq_error_iff.2 first).symm.trans (check_eq_error_iff.2 second))

theorem Rejects.not_admits {e : MigError} (rejects : Rejects allowed gpus reference e) :
    ¬ Admits allowed gpus reference device geometry := by
  intro admits
  cases (check_eq_error_iff.2 rejects).symm.trans (check_eq_ok_iff.2 admits)

namespace GoesOn

-- Where something was not told, the call ends before any change.
theorem told_or (goesOn : GoesOn remembered index geometry exchanges result now) :
    IsTold exchanges ∨ now = remembered ∧ ∃ e, result = .error e ∧ Untold index exchanges e := by
  cases goesOn with
  | untold nothing untold => exact .inr ⟨rfl, _, rfl, untold⟩
  | unchanged tells ensures => exact .inl (tells.isTold.append ensures.isTold)
  | @fitted _ _ _ _ answer _ tells ensures =>
    exact .inl (tells.isTold.append (ensures.isTold.append (isTold_found answer)))

theorem of_unlisted {cause : InventoryError} (goesOn : GoesOn remembered index geometry exchanges result now)
    (failed : ⟨.gpus, .error cause⟩ ∈ exchanges) :
    result = .error (.ofInventory cause) ∧ asked exchanges = [] ∧ now = remembered := by
  obtain told | ⟨rfl, e, rfl, untold⟩ := goesOn.told_or
  · exact absurd failed (told.listed cause)
  · rw [untold.of_unlisted failed]
    exact ⟨rfl, untold.asked_eq_nil, rfl⟩

theorem of_unexported {cause : PartitionToolError} (goesOn : GoesOn remembered index geometry exchanges result now)
    (failed : ⟨.exportPartition, .error cause⟩ ∈ exchanges) :
    result = .error (.noPartition index (some cause)) ∧ asked exchanges = [] ∧ now = remembered := by
  obtain told | ⟨rfl, e, rfl, untold⟩ := goesOn.told_or
  · exact absurd failed (told.exported cause)
  · rw [untold.of_unexported failed]
    exact ⟨rfl, untold.asked_eq_nil, rfl⟩

theorem of_not_covers (goesOn : GoesOn remembered index geometry exchanges result now) :
    (remembered = none ∧ ∃ e, Untold index exchanges e) ∨ ∃ held, Reads remembered exchanges held ∧
      (¬ held.Covers index →
        result = .error (.noPartition index none) ∧ asked exchanges = [] ∧ now = some held) := by
  cases goesOn with
  | untold nothing untold => exact .inl ⟨nothing, _, untold⟩
  | unchanged tells ensures =>
    refine .inr ⟨_, tells.reads.among [] _, fun uncovered => ?_⟩
    obtain ⟨same, rfl⟩ := ensures.of_not_covers uncovered
    cases same
    rw [List.append_nil]
    exact ⟨rfl, tells.asked_eq_nil, rfl⟩
  | fitted tells ensures =>
    refine .inr ⟨_, tells.reads.among [] _, fun uncovered => ?_⟩
    cases (ensures.of_not_covers uncovered).1

theorem of_refused {cause : PartitionToolError} (goesOn : GoesOn remembered index geometry exchanges result now)
    (failed : ⟨.applyPartition partition, .error cause⟩ ∈ exchanges) :
    result = .error (.apply cause) ∧ Keeps remembered exchanges now := by
  cases goesOn with
  | untold _ untold => exact absurd failed (not_mem_of_asked_eq_nil untold.asked_eq_nil _ _)
  | unchanged tells ensures =>
    have late := (List.mem_append.1 failed).resolve_left (not_mem_of_asked_eq_nil tells.asked_eq_nil _ _)
    cases ensures.of_refused late
    exact ⟨rfl, (tells.reads.among [] _).keeps⟩
  | fitted tells ensures =>
    have late := (List.mem_append.1 failed).resolve_left (not_mem_of_asked_eq_nil tells.asked_eq_nil _ _)
    rcases List.mem_append.1 late with late | found
    · cases ensures.of_refused late
    · cases List.mem_singleton.1 found

theorem keeps (goesOn : GoesOn remembered index geometry exchanges result now)
    (unaccepted : accepted exchanges = []) : Keeps remembered exchanges now := by
  cases goesOn with
  | untold => exact .inl rfl
  | unchanged tells => exact (tells.reads.among [] _).keeps
  | fitted tells ensures =>
    cases ensures with
    | already => exact (tells.reads.among [] _).keeps
    | applied => simp [accepted, accepted?] at unaccepted

theorem asked_length (goesOn : GoesOn remembered index geometry exchanges result now) :
    (asked exchanges).length ≤ 1 := by
  cases goesOn with
  | untold _ untold => simp [untold.asked_eq_nil]
  | unchanged tells ensures =>
    rw [tells.asked_append]
    exact ensures.asked_length
  | fitted tells ensures =>
    rw [tells.asked_append, asked_append_found]
    exact ensures.asked_length

end GoesOn

namespace Ending

theorem of_flaw {flaw : Reference.Flaw} (ending : Ending allowed remembered id exchanges result now)
    (parsed : Reference.parse id = .error flaw) :
    exchanges = [] ∧ result = .error (.invalidReference id flaw) ∧ now = remembered := by
  cases ending with
  | malformed also =>
    cases parsed.symm.trans also
    exact ⟨rfl, rfl, rfl⟩
  | unlisted also => cases parsed.symm.trans also
  | rejected also => cases parsed.symm.trans also
  | admitted also => cases parsed.symm.trans also

theorem looksFirst (ending : Ending allowed remembered id exchanges result now)
    (parsed : Reference.parse id = .ok reference) : ∃ answer rest, exchanges = ⟨.gpus, answer⟩ :: rest := by
  cases ending with
  | malformed also => cases parsed.symm.trans also
  | unlisted => exact ⟨_, _, rfl⟩
  | rejected => exact ⟨_, _, rfl⟩
  | admitted => exact ⟨_, _, rfl⟩

theorem of_rejects {e : MigError} (ending : Ending allowed remembered id exchanges result now)
    (parsed : Reference.parse id = .ok reference) (begins : exchanges = ⟨.gpus, .ok gpus⟩ :: rest)
    (rejects : Rejects allowed gpus reference e) : rest = [] ∧ result = .error e ∧ now = remembered := by
  cases ending with
  | malformed => cases begins
  | unlisted => cases begins
  | rejected also other =>
    cases begins
    cases parsed.symm.trans also
    rw [rejects.unique other]
    exact ⟨rfl, rfl, rfl⟩
  | admitted also admits =>
    cases begins
    cases parsed.symm.trans also
    exact absurd admits rejects.not_admits

theorem of_unlisted {cause : InventoryError} (ending : Ending allowed remembered id exchanges result now)
    (failed : ⟨.gpus, .error cause⟩ ∈ exchanges) :
    result = .error (.ofInventory cause) ∧ asked exchanges = [] ∧ now = remembered := by
  cases ending with
  | malformed => cases failed
  | unlisted =>
    cases List.mem_singleton.1 failed
    exact ⟨rfl, rfl, rfl⟩
  | rejected => cases List.mem_singleton.1 failed
  | admitted _ _ goesOn =>
    rcases List.mem_cons.1 failed with first | later
    · cases first
    · exact goesOn.of_unlisted later

-- Nothing but the devices is asked about before the reference has passed the checks.
theorem goesOn_of_mem {exchange : Exchange interface} (ending : Ending allowed remembered id exchanges result now)
    (among : exchange ∈ exchanges) (other : exchange.request ≠ .gpus) :
    ∃ gpus more index geometry, exchanges = ⟨.gpus, .ok gpus⟩ :: more ∧ exchange ∈ more ∧
      IsFor id exchanges index ∧ GoesOn remembered index geometry more result now := by
  cases ending with
  | malformed => cases among
  | unlisted =>
    rw [List.mem_singleton.1 among] at other
    exact absurd rfl other
  | rejected =>
    rw [List.mem_singleton.1 among] at other
    exact absurd rfl other
  | admitted parsed admits goesOn =>
    have later := (List.mem_cons.1 among).resolve_left fun same => other (by rw [same])
    exact ⟨_, _, _, _, rfl, later, ⟨_, _, _, _, parsed, rfl, admits.named, rfl⟩, goesOn⟩

theorem of_unexported {cause : PartitionToolError} (ending : Ending allowed remembered id exchanges result now)
    (failed : ⟨.exportPartition, .error cause⟩ ∈ exchanges) : ∃ index, IsFor id exchanges index ∧
      result = .error (.noPartition index (some cause)) ∧ asked exchanges = [] ∧ now = remembered := by
  obtain ⟨gpus, more, index, geometry, rfl, later, isFor, goesOn⟩ := ending.goesOn_of_mem failed nofun
  exact ⟨index, isFor, goesOn.of_unexported later⟩

theorem of_refused {cause : PartitionToolError} (ending : Ending allowed remembered id exchanges result now)
    (failed : ⟨.applyPartition partition, .error cause⟩ ∈ exchanges) :
    result = .error (.apply cause) ∧ Keeps remembered exchanges now := by
  obtain ⟨gpus, more, index, geometry, rfl, later, -, goesOn⟩ := ending.goesOn_of_mem failed nofun
  exact (goesOn.of_refused later).imp_right fun keeps => keeps.cons _

theorem keeps (ending : Ending allowed remembered id exchanges result now)
    (unaccepted : accepted exchanges = []) : Keeps remembered exchanges now := by
  cases ending with
  | malformed => exact .inl rfl
  | unlisted => exact .inl rfl
  | rejected => exact .inl rfl
  | admitted _ _ goesOn => exact (goesOn.keeps unaccepted).cons _

theorem asked_length (ending : Ending allowed remembered id exchanges result now) :
    (asked exchanges).length ≤ 1 := by
  cases ending with
  | malformed => exact Nat.zero_le 1
  | unlisted => exact Nat.zero_le 1
  | rejected => exact Nat.zero_le 1
  | admitted _ _ goesOn => exact goesOn.asked_length

theorem of_not_covers (ending : Ending allowed remembered id exchanges result now)
    (ends : (resolve allowed remembered id).Ends exchanges (result, now))
    (parsed : Reference.parse id = .ok reference) (begins : exchanges = ⟨.gpus, .ok gpus⟩ :: rest)
    (admits : Admits allowed gpus reference device geometry) (reads : Reads remembered exchanges held)
    (uncovered : ¬ held.Covers device.index) :
    result = .error (.noPartition device.index none) ∧ asked exchanges = [] ∧ Keeps remembered exchanges now := by
  cases ending with
  | malformed => cases begins
  | unlisted => cases begins
  | rejected also rejects =>
    cases begins
    cases parsed.symm.trans also
    exact absurd admits rejects.not_admits
  | admitted also again goesOn =>
    cases begins
    cases parsed.symm.trans also
    cases (check_eq_ok_iff.2 admits).symm.trans (check_eq_ok_iff.2 again)
    obtain ⟨rfl, e, untold⟩ | ⟨told, telling, ended⟩ := goesOn.of_not_covers
    · exact absurd reads (untold.not_reads gpus)
    · obtain rfl := reads.unique ends (telling.cons _)
      obtain ⟨is, nothing, rfl⟩ := ended uncovered
      exact ⟨is, nothing, reads.keeps⟩

end Ending

/-- A call for a reference that is malformed or lacks something is rejected for the first that it lacks, before
anything is exported or asked for. A call that fails later leaves what is remembered as it was, or remembers the
partition that it was the first to read, and a call asks for one change at most. -/
theorem failure_leaves_no_trace (ends : (resolve allowed remembered id).Ends exchanges (result, now)) :
    LeavesNoTrace allowed remembered id exchanges result now := by
  by_cases encoded : Reference.isEncoded id = true
  · have ending := ending_of_ends encoded ends
    constructor
    · exact fun plain => absurd (Reference.isEncoded_iff.1 encoded) plain
    · exact fun flaw _ parsed => ending.of_flaw parsed
    · exact fun reference parsed => ending.looksFirst parsed
    · exact fun reference gpus => rejects_or_admits allowed gpus reference
    · exact fun reference gpus rest e parsed begins rejects => ending.of_rejects parsed begins rejects
    · exact fun cause failed => ending.of_unlisted failed
    · exact fun cause failed => ending.of_unexported failed
    · intro reference gpus rest device geometry held parsed begins admits reads uncovered
      exact ending.of_not_covers ends parsed begins admits reads uncovered
    · exact fun partition cause failed => ending.of_refused failed
    · exact ending.keeps
    · exact ending.asked_length
  · obtain ⟨rfl, rfl, rfl⟩ := plain_of_ends encoded ends
    have unparsed (reference : Reference) : Reference.parse id ≠ .ok reference :=
      fun parsed => encoded (Reference.isEncoded_of_parse parsed)
    constructor
    · exact fun _ => ⟨rfl, rfl, rfl⟩
    · exact fun _ opens => absurd (Reference.isEncoded_iff.2 opens) encoded
    · exact fun reference parsed => absurd parsed (unparsed reference)
    · exact fun reference gpus => rejects_or_admits allowed gpus reference
    · exact fun reference _ _ _ parsed => absurd parsed (unparsed reference)
    · exact nofun
    · exact nofun
    · exact fun reference _ _ _ _ _ parsed => absurd parsed (unparsed reference)
    · exact nofun
    · exact fun _ => .inl rfl
    · exact Nat.zero_le 1

def huge : Geometry := ⟨"huge", [⟨"1g.6gb", 1, 2147483647⟩, ⟨"2g.12gb", 1, 2147483647⟩]⟩

def beyondHuge : Program interface (Except MigError String × Option Partition) :=
  resolve [⟨["A30"], [huge]⟩] none "GPU-a30[huge-4294967295]"

-- A position beyond all instances is rejected before the partition is exported.
theorem failure_leaves_no_trace_beyond :
    (beyondHuge.run World.serve (a30 larger)).1 =
      (.error (.positionOutOfRange "huge" 4294967295 4294967294), none) ∧
    beyondHuge.trace World.serve (a30 larger) = [⟨.gpus, .ok (a30 larger).inventory.gpus⟩] := by
  have fails := failure_leaves_no_trace (ends_run World.serve beyondHuge (a30 larger))
  obtain ⟨rest, begins⟩ := eq_cons_of_listed
    (show (beyondHuge.trace World.serve (a30 larger)).head?.bind listed? = some (a30 larger).inventory.gpus by
      decide +kernel)
  have rejects : Rejects [⟨["A30"], [huge]⟩] (a30 larger).inventory.gpus ⟨"GPU-a30", "huge", 4294967295⟩
      (.positionOutOfRange "huge" 4294967295 4294967294) := check_eq_error_iff.1 (by decide +kernel)
  obtain ⟨rfl, is, same⟩ := fails.rejected _ _ rest _ (by decide +kernel) begins rejects
  exact ⟨Prod.ext is same, begins⟩

end GpuShare.Agent.MigResolver
