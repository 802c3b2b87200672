import GpuShare.Proofs.Agent.Requests
import GpuShare.Proofs.Agent.Fitting

/-!
What a resolver remembers over many calls. It remembers the partition that the tool accepted last, or the one
that was read as long as none was accepted; a partition that was refused leaves no trace. So every partition it
asks for differs from the one in force in the current configuration only.
-/

set_option autoImplicit false

namespace GpuShare

open Mig

/-- Two partitions that differ at most in the configuration that is in force. -/
structure Mig.Partition.SameBesidesCurrent (first second : Partition) : Prop where
  version : first.version = second.version
  configs : ∀ name, name ≠ currentConfig → first.configs.get? name = second.configs.get? name

theorem Mig.Partition.sameBesidesCurrent_setCurrent (partition : Partition) (entries : List PartitionEntry) :
    (partition.setCurrent entries).SameBesidesCurrent partition := by
  constructor
  · rfl
  · intro name other
    simp [setCurrent, Dictionary.get?_insert, other]

namespace Agent.MigResolver

open Program Attempt

variable {exchanges more : List (Exchange interface)} {allowed : List ModelGeometries}
  {remembered now : Option Partition} {partition held : Partition} {index : UInt32} {geometry : Geometry}
  {id : String}

/-! ## What was read and accepted -/

def accepted? : Exchange interface → Option Partition
  | ⟨.applyPartition partition, .ok ()⟩ => some partition
  | _ => none

def accepted (exchanges : List (Exchange interface)) : List Partition := exchanges.filterMap accepted?

/-- The partition that was accepted last, or else the one that was read. -/
def latest (exchanges : List (Exchange interface)) : Option Partition :=
  (accepted exchanges).getLast?.or (readings exchanges).head?

/-- The last exchange is no export, whose devices would still have to be counted. -/
def IsComplete (exchanges : List (Exchange interface)) : Prop :=
  ∀ exported, exchanges.getLast? ≠ some ⟨.exportPartition, .ok exported⟩

theorem readings_append (complete : IsComplete exchanges) (more : List (Exchange interface)) :
    readings (exchanges ++ more) = readings exchanges ++ readings more := by
  induction exchanges with
  | nil => rfl
  | cons first rest ih =>
    cases rest with
    | cons second rest =>
      have complete : IsComplete (second :: rest) := by simpa [IsComplete] using complete
      have later := ih complete
      simp only [List.cons_append, readings] at later ⊢
      rw [later, List.append_assoc]
    | nil =>
      cases more with
      | nil => rfl
      | cons second more =>
        have unread : reading? first second = none := by
          unfold reading?
          split
          · exact absurd rfl (complete _)
          · rfl
        simp [readings, unread]

structure IsIdle (exchanges : List (Exchange interface)) : Prop where
  reads : readings exchanges = []
  complete : IsComplete exchanges
  applies : ∀ partition answer, ⟨.applyPartition partition, answer⟩ ∉ exchanges

theorem isIdle_nil : IsIdle [] := ⟨rfl, nofun, nofun⟩

theorem isIdle_of_looks (looks : ∀ exchange ∈ exchanges, exchange.request.IsLook) : IsIdle exchanges := by
  constructor
  · induction exchanges with
    | nil => rfl
    | cons first rest ih =>
      have later := ih fun exchange member => looks exchange (List.mem_cons_of_mem _ member)
      have here := looks first List.mem_cons_self
      cases rest with
      | nil => rfl
      | cons second rest =>
        have unread : reading? first second = none := by
          unfold reading?
          split
          · exact absurd here id
          · rfl
        simp [readings, unread, later]
  · intro exported last
    exact looks _ (List.mem_of_getLast? last)
  · intro partition answer member
    exact looks _ member

theorem accepted_of_isIdle (idle : IsIdle exchanges) : accepted exchanges = [] := by
  simp only [accepted, List.filterMap_eq_nil_iff]
  intro exchange member
  unfold accepted?
  split
  · exact absurd member (idle.applies _ _)
  · rfl

/-! ## The parts of a call -/

section Parts

variable {reference : Reference} {outcome : Except MigError Partition}

/-- What is held after a part of a call: the partition that it leads to, unless it fails. -/
def heldAfter (remembered : Option Partition) : Except MigError Partition → Option Partition
  | .ok partition => some partition
  | .error _ => remembered

inductive Told (remembered : Option Partition) : List (Exchange interface) → Except MigError Partition → Prop
  | remembered {partition : Partition} : remembered = some partition → Told remembered [] (.ok partition)
  | exported {exported : Partition} {gpus : List Device.Gpu} : remembered = none →
      Told remembered [⟨.exportPartition, .ok exported⟩, ⟨.gpus, .ok gpus⟩] (.ok (exported.expand gpus.length))
  | failed {exchanges : List (Exchange interface)} {e : MigError} : IsIdle exchanges →
      Told remembered exchanges (.error e)

theorem told_of_ends (ends : (current remembered index).run.Ends exchanges outcome) :
    Told remembered exchanges outcome := by
  cases remembered with
  | some held =>
    obtain ⟨rfl, rfl⟩ := ends
    exact .remembered rfl
  | none =>
    obtain ⟨exporting, rest, rfl, ends⟩ := ends
    cases exporting with
    | error cause =>
      obtain ⟨rfl, rfl⟩ := ends
      exact .failed ⟨rfl, nofun, by simp⟩
    | ok exported =>
      obtain ⟨counting, rest, rfl, ends⟩ := ends
      cases counting with
      | error cause =>
        obtain ⟨rfl, rfl⟩ := ends
        exact .failed ⟨rfl, nofun, by simp⟩
      | ok gpus =>
        obtain ⟨rfl, rfl⟩ := ends
        exact .exported rfl

/-- How a device is given its geometry: it has it already or cannot have it, or a change is asked for. -/
inductive Changes (partition : Partition) : List (Exchange interface) → Except MigError Partition → Prop
  | already : Changes partition [] (.ok partition)
  | nowhere {e : MigError} : Changes partition [] (.error e)
  | accepted {changed : Partition} : changed.SameBesidesCurrent partition →
      Changes partition [⟨.applyPartition changed, .ok ()⟩] (.ok changed)
  | refused {changed : Partition} {cause : PartitionToolError} {e : MigError} :
      changed.SameBesidesCurrent partition →
      Changes partition [⟨.applyPartition changed, .error cause⟩] (.error e)

theorem Ensures.changes (ensures : Ensures partition index geometry exchanges outcome) :
    Changes partition exchanges outcome := by
  cases ensures with
  | nowhere => exact .nowhere
  | already => exact .already
  | applied => exact .accepted (partition.sameBesidesCurrent_setCurrent _)
  | refused => exact .refused (partition.sameBesidesCurrent_setCurrent _)

end Parts

/-! ## Coherence -/

def AsksForChanges (exchanges : List (Exchange interface)) : Prop :=
  ∀ before partition answer after, exchanges = before ++ ⟨.applyPartition partition, answer⟩ :: after →
    ∃ held, latest before = some held ∧ partition.SameBesidesCurrent held

theorem AsksForChanges.append (asks : AsksForChanges exchanges)
    (rest : ∀ before partition answer after, more = before ++ ⟨.applyPartition partition, answer⟩ :: after →
      ∃ held, latest (exchanges ++ before) = some held ∧ partition.SameBesidesCurrent held) :
    AsksForChanges (exchanges ++ more) := by
  intro before partition answer after split
  rcases List.append_eq_append_iff.1 split with ⟨middle, rfl, inMore⟩ | ⟨middle, inFirst, tail⟩
  · exact rest middle partition answer after inMore
  · cases middle with
    | nil =>
      rw [List.append_nil] at inFirst
      subst inFirst
      simpa using rest [] partition answer after (by simpa using tail.symm)
    | cons first middle =>
      obtain ⟨rfl, -⟩ := List.cons.inj tail
      exact asks before partition answer middle inFirst

/-- What is remembered is the latest partition. One is read at most, and before any other is accepted. -/
structure IsCoherent (exchanges : List (Exchange interface)) (remembered : Option Partition) : Prop where
  remembers : remembered = latest exchanges
  readsOnce : (readings exchanges).length ≤ 1
  readsFirst : readings exchanges = [] → accepted exchanges = []
  complete : IsComplete exchanges
  asks : AsksForChanges exchanges

namespace IsCoherent

theorem start : IsCoherent [] none := ⟨rfl, by simp [readings], fun _ => rfl, nofun, by simp [AsksForChanges]⟩

theorem isComplete_append (complete : IsComplete exchanges) (also : IsComplete more) :
    IsComplete (exchanges ++ more) := by
  intro exported
  have before := complete exported
  have after := also exported
  rw [List.getLast?_append]
  cases last : more.getLast? with
  | none => exact before
  | some exchange => rwa [last] at after

theorem idle (coherent : IsCoherent exchanges remembered) (idle : IsIdle more) :
    IsCoherent (exchanges ++ more) remembered := by
  have reads : readings (exchanges ++ more) = readings exchanges := by
    simp [readings_append coherent.complete, idle.reads]
  have accepts : accepted (exchanges ++ more) = accepted exchanges := by
    simpa [accepted] using accepted_of_isIdle idle
  constructor
  · rw [coherent.remembers, latest, latest, reads, accepts]
  · rw [reads]
    exact coherent.readsOnce
  · rw [reads, accepts]
    exact coherent.readsFirst
  · exact isComplete_append coherent.complete idle.complete
  · apply coherent.asks.append
    rintro before partition answer after rfl
    exact absurd (by simp) (idle.applies partition answer)

theorem readings_eq_nil (coherent : IsCoherent exchanges none) : readings exchanges = [] := by
  have nothing := coherent.remembers
  simp only [latest, eq_comm (a := none), Option.or_eq_none_iff, List.head?_eq_none_iff] at nothing
  exact nothing.2

theorem exported (coherent : IsCoherent exchanges none) (exported : Partition) (gpus : List Device.Gpu) :
    IsCoherent (exchanges ++ [⟨.exportPartition, .ok exported⟩, ⟨.gpus, .ok gpus⟩])
      (some (exported.expand gpus.length)) := by
  have unread := coherent.readings_eq_nil
  have reads : readings (exchanges ++ [⟨.exportPartition, .ok exported⟩, ⟨.gpus, .ok gpus⟩]) =
      [exported.expand gpus.length] := by
    simp [readings_append coherent.complete, unread, readings, reading?]
  have accepts : accepted (exchanges ++ [⟨.exportPartition, .ok exported⟩, ⟨.gpus, .ok gpus⟩]) = [] := by
    simpa [accepted, accepted?] using coherent.readsFirst unread
  constructor
  · simp [latest, reads, accepts]
  · simp [reads]
  · simp [accepts]
  · exact isComplete_append coherent.complete nofun
  · apply coherent.asks.append
    intro before partition answer after split
    have member : (⟨.applyPartition partition, answer⟩ : Exchange interface) ∈
        ([⟨.exportPartition, .ok exported⟩, ⟨.gpus, .ok gpus⟩] : List (Exchange interface)) := by simp [split]
    simp at member

section Applying

variable {answer : Except PartitionToolError Unit} {changed : Partition}

theorem readings_applied (coherent : IsCoherent exchanges remembered) :
    readings (exchanges ++ [⟨.applyPartition changed, answer⟩]) = readings exchanges := by
  simp [readings_append coherent.complete, readings]

theorem asks_applied (coherent : IsCoherent exchanges (some partition))
    (same : changed.SameBesidesCurrent partition) :
    AsksForChanges (exchanges ++ [⟨.applyPartition changed, answer⟩]) := by
  apply coherent.asks.append
  intro before other answer' after split
  cases before with
  | nil =>
    cases split
    exact ⟨partition, by simp [coherent.remembers], same⟩
  | cons first before => simp at split

theorem accepted (coherent : IsCoherent exchanges (some partition))
    (same : changed.SameBesidesCurrent partition) :
    IsCoherent (exchanges ++ [⟨.applyPartition changed, .ok ()⟩]) (some changed) := by
  have reads : readings (exchanges ++ [⟨.applyPartition changed, .ok ()⟩]) = readings exchanges :=
    coherent.readings_applied
  constructor
  · simp [latest, MigResolver.accepted, accepted?]
  · rw [reads]
    exact coherent.readsOnce
  · intro unread
    have nothing := coherent.readsFirst (reads ▸ unread)
    have inForce := coherent.remembers
    simp [latest, nothing, reads ▸ unread] at inForce
  · exact isComplete_append coherent.complete nofun
  · exact coherent.asks_applied same

theorem refused {cause : PartitionToolError} (coherent : IsCoherent exchanges (some partition))
    (same : changed.SameBesidesCurrent partition) :
    IsCoherent (exchanges ++ [⟨.applyPartition changed, .error cause⟩]) (some partition) := by
  have reads : readings (exchanges ++ [⟨.applyPartition changed, .error cause⟩]) = readings exchanges :=
    coherent.readings_applied
  have accepts : MigResolver.accepted (exchanges ++ [⟨.applyPartition changed, .error cause⟩]) =
      MigResolver.accepted exchanges := by
    simp [MigResolver.accepted, accepted?]
  constructor
  · rw [coherent.remembers, latest, latest, reads, accepts]
  · rw [reads]
    exact coherent.readsOnce
  · rw [reads, accepts]
    exact coherent.readsFirst
  · exact isComplete_append coherent.complete nofun
  · exact coherent.asks_applied same

end Applying

theorem told {outcome : Except MigError Partition} (coherent : IsCoherent exchanges remembered)
    (told : Told remembered more outcome) :
    IsCoherent (exchanges ++ more) (heldAfter remembered outcome) := by
  cases told with
  | remembered is => simpa [heldAfter, ← is] using coherent
  | exported nothing =>
    subst nothing
    exact coherent.exported _ _
  | failed idle => exact coherent.idle idle

theorem changes {outcome : Except MigError Partition} (coherent : IsCoherent exchanges (some partition))
    (changes : Changes partition more outcome) :
    IsCoherent (exchanges ++ more) (heldAfter (some partition) outcome) := by
  cases changes with
  | already => simpa [heldAfter] using coherent
  | nowhere => simpa [heldAfter] using coherent
  | accepted same => exact coherent.accepted same
  | refused same => exact coherent.refused same

-- Coherence is kept part by part, in the order in which a call goes through them.
theorem resolve {result : Except MigError String} (coherent : IsCoherent exchanges remembered)
    (ends : (resolve allowed remembered id).Ends more (result, now)) : IsCoherent (exchanges ++ more) now := by
  have looked {reference : Reference} {outcome : Except MigError (Device.Gpu × Geometry)}
      {looking : List (Exchange interface)} (looks : (lookUp allowed reference).run.Ends looking outcome) :
      IsCoherent (exchanges ++ looking) remembered :=
    coherent.idle (isIdle_of_looks ((lookUp_asks allowed reference).of_ends looks))
  cases stage_of_ends ends with
  | plain => exact coherent.idle isIdle_nil
  | flawed => exact coherent.idle isIdle_nil
  | unknown _ looks => exact looked looks
  | untold _ looks tells =>
    rw [← List.append_assoc]
    exact (looked looks).told (told_of_ends tells)
  | unchanged _ looks tells ensures =>
    have known := (looked looks).told (told_of_ends tells)
    rw [← List.append_assoc, ← List.append_assoc]
    exact known.changes ensures.changes
  | fitted _ looks tells ensures finds =>
    have known := (looked looks).told (told_of_ends tells)
    have changed := known.changes ensures.changes
    rw [← List.append_assoc, ← List.append_assoc, ← List.append_assoc]
    exact changed.idle (isIdle_of_looks ((findInstance_asks _ _).of_ends finds))

end IsCoherent

/-- The exchanges of some calls of a resolver, one call after the other, and what it remembers then. -/
inductive Resolved (allowed : List ModelGeometries) : List (Exchange interface) → Option Partition → Prop where
  | start : Resolved allowed [] none
  | call {exchanges more : List (Exchange interface)} {remembered now : Option Partition} {id : String}
      {result : Except MigError String} : Resolved allowed exchanges remembered →
      (resolve allowed remembered id).Ends more (result, now) → Resolved allowed (exchanges ++ more) now

theorem Resolved.isCoherent (run : Resolved allowed exchanges remembered) :
    IsCoherent exchanges remembered := by
  induction run with
  | start => exact .start
  | call _ ends coherent => exact coherent.resolve ends

-- The one partition that is read stays the latest as long as none is accepted, and so does an accepted one.
theorem latest_of_none_accepted {before rest : List (Exchange interface)}
    (once : (readings (before ++ rest)).length ≤ 1) (refused : accepted rest = [])
    (is : latest before = some held) : latest (before ++ rest) = some held := by
  have accepts : accepted (before ++ rest) = accepted before := by
    simpa [accepted] using refused
  unfold latest at is ⊢
  rw [accepts]
  cases last : (accepted before).getLast? with
  | some partition => simpa [last] using is
  | none =>
    have first : (readings before).head? = some held := by simpa [last] using is
    have member := readings_append_left before rest (List.mem_of_head? first)
    simp [eq_singleton_of_mem member once]

/-- A resolver remembers nothing until a partition and then the devices were read, which happens once at most.
From then on it remembers the partition that was accepted last, or the one that was read. Whatever it asks
for differs from that in the current configuration only, and if it is refused it leaves no trace. -/
theorem remembers_latest (run : Resolved allowed exchanges remembered) :
    (remembered = none ↔ readings exchanges = []) ∧ (readings exchanges).length ≤ 1 ∧
    remembered = latest exchanges ∧
    ∀ before partition answer after, exchanges = before ++ ⟨.applyPartition partition, answer⟩ :: after →
      ∃ held, latest before = some held ∧ partition.SameBesidesCurrent held ∧
        (answer ≠ .ok () → accepted after = [] → remembered = some held) := by
  have coherent := run.isCoherent
  refine ⟨⟨?_, ?_⟩, coherent.readsOnce, coherent.remembers, ?_⟩
  · rintro rfl
    exact coherent.readings_eq_nil
  · intro unread
    simp [coherent.remembers, latest, unread, coherent.readsFirst unread]
  · intro before partition answer after split
    obtain ⟨held, is, same⟩ := coherent.asks before partition answer after split
    refine ⟨held, is, same, fun failed nothing => ?_⟩
    have refused : accepted (⟨.applyPartition partition, answer⟩ :: after) = [] := by
      cases answer with
      | ok done => exact absurd rfl failed
      | error cause => simpa [accepted, accepted?] using nothing
    have once := coherent.readsOnce
    subst split
    rw [coherent.remembers]
    exact latest_of_none_accepted once refused is

def larger : Dictionary Int32 := Dictionary.empty.insert "2g.12gb" 2

def refusing : World :=
  { a30 larger with partitionTool := {
    exported := single larger
    applyFailure := some (.failed "nvidia-mig-parted apply" "exit status: 1" none) } }

def secondSmall : Program interface (Except MigError String × Option Partition) :=
  resolve [⟨["A30"], [small]⟩] (some (single larger)) "GPU-a30[small-0]"

-- The refused change is forgotten, and the next call asks for it again.
theorem remembers_latest_refused :
    (firstSmall.run World.serve refusing).1.2 = some (single larger) ∧
    (secondSmall.run World.serve (a30 larger)).1.2 = some ((single larger).setCurrent [small.entry 0]) := by
  have first := Resolved.call .start (ends_run World.serve firstSmall refusing)
  have kept : (firstSmall.run World.serve refusing).1.2 = some (single larger) :=
    (remembers_latest first).2.2.1.trans (by decide +kernel)
  have second := Resolved.call (kept ▸ first) (ends_run World.serve secondSmall (a30 larger))
  exact ⟨kept, (remembers_latest second).2.2.1.trans (by decide +kernel)⟩

end Agent.MigResolver

end GpuShare
