import GpuShare.Proofs.Mig.Coverage
import GpuShare.Proofs.Agent.Alone

/-!
Resolving in a world whose devices stay as they are. What a device ID resolves to depends on the devices
alone; whether it resolves depends on the partition in force too. A device that can be given its geometry
can be given it after others were given theirs.
-/

set_option autoImplicit false

namespace GpuShare.Agent

open Mig

def World.Refitted (before after : World) : Prop :=
  ∃ exports applied, after = { before with
    partitionTool := { before.partitionTool with exports := exports, applied := applied } }

theorem World.Refitted.refl (world : World) : world.Refitted world := ⟨_, _, rfl⟩

theorem World.Refitted.trans {world middle after : World} (first : world.Refitted middle)
    (second : middle.Refitted after) : world.Refitted after := by
  obtain ⟨_, _, rfl⟩ := first
  obtain ⟨exports, applied, rfl⟩ := second
  exact ⟨exports, applied, rfl⟩

section Refitted

variable {world after : World}

theorem World.Refitted.inventory (refitted : world.Refitted after) :
    after.inventory = world.inventory := by
  obtain ⟨_, _, rfl⟩ := refitted
  rfl

theorem World.Refitted.applyFailure (refitted : world.Refitted after) :
    after.partitionTool.applyFailure = world.partitionTool.applyFailure := by
  obtain ⟨_, _, rfl⟩ := refitted
  rfl

end Refitted

namespace MigResolver

variable {allowed : List ModelGeometries} {remembered now : Option Partition} {world after : World}
  {reference : Reference} {device : Device.Gpu} {geometry : Geometry}
  {partition changed : Partition} {id resolved : String} {index : UInt32}

/-- A partition is in force: the remembered one, or else the one that the tool exports. -/
def InForce (remembered : Option Partition) (world : World) (partition : Partition) : Prop :=
  match remembered with
  | some held => partition = held
  | none => world.partitionTool.exportFailure = none ∧ ∃ gpus, world.inventory.listGpus = .ok gpus ∧
      partition = world.partitionTool.exported.expand gpus.length

theorem InForce.unique {other : Partition} (first : InForce remembered world partition)
    (second : InForce remembered world other) : partition = other := by
  cases remembered with
  | some held => exact first.trans second.symm
  | none =>
    obtain ⟨-, gpus, listed, rfl⟩ := first
    obtain ⟨-, also, listed', rfl⟩ := second
    rw [Except.ok.inj (listed.symm.trans listed')]

def IsExplicit (remembered : Option Partition) : Prop :=
  ∀ partition, remembered = some partition → partition.IsExplicit

theorem InForce.isExplicit (explicit : IsExplicit remembered)
    (inForce : InForce remembered world partition) : partition.IsExplicit := by
  cases remembered with
  | some held =>
    obtain rfl : partition = held := inForce
    exact explicit partition rfl
  | none =>
    obtain ⟨-, gpus, -, rfl⟩ := inForce
    exact Partition.isExplicit_expand _ _

theorem run_exportCurrent (index : UInt32) (exports : world.partitionTool.exportFailure = none)
    {gpus : List Device.Gpu} (listed : world.inventory.listGpus = .ok gpus) :
    ∃ after, world.run (exportCurrent index) =
      (.ok (world.partitionTool.exported.expand gpus.length), after) ∧ world.Refitted after := by
  have exported : (World.serve .exportPartition world).1 = .ok world.partitionTool.exported := by
    simp only [World.serve, exports]
  have counted : (World.serve .gpus (World.serve .exportPartition world).2).1 = .ok gpus := listed
  unfold exportCurrent
  rw [World.run_ask_bind, World.run_orFail_bind _ _ exported, World.run_ask_bind,
    World.run_orFail_bind _ _ counted]
  exact ⟨_, rfl, _, _, rfl⟩

theorem run_current (inForce : InForce remembered world partition) (index : UInt32) :
    ∃ after, world.run (current remembered index) = (.ok partition, after) ∧ world.Refitted after := by
  cases remembered with
  | some held =>
    obtain rfl : partition = held := inForce
    exact ⟨world, rfl, .refl world⟩
  | none =>
    obtain ⟨exports, gpus, listed, rfl⟩ := inForce
    exact run_exportCurrent index exports listed

theorem inForce_of_run (ran : (world.run (current remembered index)).1 = .ok partition) :
    InForce remembered world partition := by
  cases remembered with
  | some held =>
    cases ran
    rfl
  | none =>
    replace ran : (world.run (exportCurrent index)).1 = .ok partition := ran
    cases exports : world.partitionTool.exportFailure with
    | some error =>
      have failed : (World.serve .exportPartition world).1 = .error error := by
        simp only [World.serve, exports]
      unfold exportCurrent at ran
      rw [World.run_ask_bind, failed] at ran
      cases ran
    | none =>
      cases listed : world.inventory.listGpus with
      | error error =>
        have exported : (World.serve .exportPartition world).1 = .ok world.partitionTool.exported := by
          simp only [World.serve, exports]
        have failed : (World.serve .gpus (World.serve .exportPartition world).2).1 = .error error :=
          listed
        unfold exportCurrent at ran
        rw [World.run_ask_bind, World.run_orFail_bind _ _ exported, World.run_ask_bind, failed] at ran
        cases ran
      | ok gpus =>
        obtain ⟨after, ends, -⟩ := run_exportCurrent index exports listed
        rw [ends] at ran
        exact ⟨exports, gpus, listed, (Except.ok.inj ran).symm⟩

def Fits (world : World) (partition : Partition) (index : UInt32) (geometry : Geometry) : Prop :=
  ∃ entries position entry, locate partition index = .ok (entries, position, entry) ∧
    (entry.suits geometry = true ∨ world.partitionTool.applyFailure = none)

theorem Fits.earlier (fits : Fits after partition index geometry) (refitted : world.Refitted after) :
    Fits world partition index geometry := by
  obtain ⟨entries, position, entry, located, able⟩ := fits
  rw [refitted.applyFailure] at able
  exact ⟨entries, position, entry, located, able⟩

theorem Fits.later (fits : Fits world partition index geometry) (refitted : world.Refitted after) :
    Fits after partition index geometry := by
  obtain ⟨entries, position, entry, located, able⟩ := fits
  rw [← refitted.applyFailure] at able
  exact ⟨entries, position, entry, located, able⟩

inductive Becomes (world : World) (partition : Partition) (index : UInt32) (geometry : Geometry) :
    Partition → Prop where
  | same : Becomes world partition index geometry partition
  | changed {entries : List PartitionEntry} {position : Nat} {entry : PartitionEntry} :
      locate partition index = .ok (entries, position, entry) →
      world.partitionTool.applyFailure = none →
      Becomes world partition index geometry
        (partition.setCurrent (repartition entries position index geometry))

theorem Becomes.earlier (becomes : Becomes after partition index geometry changed)
    (refitted : world.Refitted after) : Becomes world partition index geometry changed := by
  cases becomes with
  | same => exact .same
  | changed located applies =>
    rw [refitted.applyFailure] at applies
    exact .changed located applies

theorem run_ensureGeometry (fits : Fits world partition index geometry) :
    ∃ changed after, world.run (ensureGeometry partition index geometry) = (.ok changed, after) ∧
      world.Refitted after ∧ Becomes world partition index geometry changed := by
  obtain ⟨entries, position, entry, located, able⟩ := fits
  have found : world.run (ExceptT.mk (.done (locate partition index))) =
      (.ok (entries, position, entry), world) := by
    rw [located]
    rfl
  unfold ensureGeometry
  rw [World.run_bind_ok found]
  dsimp only
  split
  · exact ⟨partition, world, rfl, .refl world, .same⟩
  · next other =>
    have applies := able.resolve_left other
    have applied : (World.serve (.applyPartition
        (partition.setCurrent (repartition entries position index geometry))) world).1 = .ok () := by
      simp only [World.serve, applies]
    have served : (World.serve (.applyPartition
        (partition.setCurrent (repartition entries position index geometry))) world).2 =
        { world with partitionTool := { world.partitionTool with
          applied := partition.setCurrent (repartition entries position index geometry) ::
            world.partitionTool.applied } } := by
      simp only [World.serve, applies]
    rw [World.run_ask_bind, World.run_orFail_bind _ _ applied, served]
    exact ⟨_, _, rfl, ⟨_, _, rfl⟩, .changed located applies⟩

theorem fits_of_run (ran : (world.run (ensureGeometry partition index geometry)).1 = .ok changed) :
    Fits world partition index geometry := by
  cases located : locate partition index with
  | error error =>
    have failed : world.run (ExceptT.mk (.done (locate partition index))) = (.error error, world) := by
      rw [located]
      rfl
    unfold ensureGeometry at ran
    rw [World.run_bind_error failed] at ran
    cases ran
  | ok found =>
    obtain ⟨entries, position, entry⟩ := found
    refine ⟨entries, position, entry, located, ?_⟩
    by_cases suits : entry.suits geometry = true
    · exact .inl suits
    have looked : world.run (ExceptT.mk (.done (locate partition index))) =
        (.ok (entries, position, entry), world) := by
      rw [located]
      rfl
    unfold ensureGeometry at ran
    rw [World.run_bind_ok looked] at ran
    dsimp only at ran
    rw [if_neg suits] at ran
    cases applies : world.partitionTool.applyFailure with
    | none => exact .inr rfl
    | some error =>
      have failed : (World.serve (.applyPartition
          (partition.setCurrent (repartition entries position index geometry))) world).1 =
          .error error := by
        simp only [World.serve, applies]
      rw [World.run_ask_bind, failed] at ran
      cases ran

/-- A device ID resolves in a world, and why. -/
inductive Resolvable (allowed : List ModelGeometries) (remembered : Option Partition) (world : World) :
    String → String → Prop where
  | plain {id : String} : Reference.isEncoded id = false →
      Resolvable allowed remembered world id id
  | encoded {id resolved : String} {reference : Reference} {device : Device.Gpu} {geometry : Geometry}
      {partition : Partition} : Reference.isEncoded id = true → Reference.parse id = .ok reference →
      (world.run (lookUp allowed reference)).1 = .ok (device, geometry) →
      InForce remembered world partition → Fits world partition device.index geometry →
      (world.run (findInstance reference device)).1 = .ok resolved →
      Resolvable allowed remembered world id resolved

def resolveIn (allowed : List ModelGeometries) (remembered : Option Partition) (world : World)
    (id : String) : (Except MigError String × Option Partition) × World :=
  (resolve allowed remembered id).run World.serve world

theorem resolvable_of_resolveIn
    (ends : (resolveIn allowed remembered world id).1.1 = .ok resolved) :
    Resolvable allowed remembered world id resolved := by
  -- Every step before the last one must have gone well, or the end would be its failure.
  unfold resolveIn resolve at ends
  by_cases encoded : Reference.isEncoded id = true
  · rw [if_pos encoded] at ends
    cases parsed : Reference.parse id with
    | error flaw =>
      rw [parsed] at ends
      cases ends
    | ok reference =>
      rw [parsed] at ends
      dsimp only at ends
      have looked := World.run_of_looks (lookUp_asks allowed reference) (rfl : world.inventory = _)
      rw [World.run_program_bind looked] at ends
      cases found : (world.run (lookUp allowed reference)).1 with
      | error error =>
        rw [found] at ends
        cases ends
      | ok pair =>
        obtain ⟨device, geometry⟩ := pair
        rw [found] at ends
        dsimp only at ends
        cases outcome : (world.run (current remembered device.index)).1 with
        | error error =>
          rw [World.run_program_bind (Prod.ext outcome rfl)] at ends
          cases ends
        | ok partition =>
          have inForce := inForce_of_run outcome
          obtain ⟨middle, ran, refitted⟩ := run_current inForce device.index
          rw [World.run_program_bind ran] at ends
          dsimp only at ends
          cases outcome : (middle.run (ensureGeometry partition device.index geometry)).1 with
          | error error =>
            rw [World.run_program_bind (Prod.ext outcome rfl)] at ends
            cases ends
          | ok changed =>
            have fits := fits_of_run outcome
            obtain ⟨changed, after, ran, more, -⟩ := run_ensureGeometry fits
            rw [World.run_program_bind ran] at ends
            dsimp only at ends
            have last := World.run_of_looks (findInstance_asks reference device)
              (refitted.trans more).inventory
            rw [World.run_program_bind last] at ends
            exact .encoded encoded parsed found inForce (fits.earlier refitted) ends
  · rw [if_neg encoded] at ends
    cases ends
    exact .plain (Bool.eq_false_iff.2 encoded)

theorem Becomes.fits {other : UInt32} {wanted : Geometry} (explicit : partition.IsExplicit)
    (becomes : Becomes world partition index geometry changed)
    (fits : Fits world partition other wanted) : Fits world changed other wanted := by
  cases becomes with
  | same => exact fits
  | changed located applies =>
    obtain ⟨_, _, _, also, -⟩ := fits
    obtain ⟨entries, position, entry, found⟩ :=
      locate_of_covers (covers_changed explicit (covers_of_locate also) located geometry)
    exact ⟨entries, position, entry, found, .inr applies⟩

theorem Becomes.isExplicit (explicit : partition.IsExplicit)
    (becomes : Becomes world partition index geometry changed) : changed.IsExplicit := by
  cases becomes with
  | same => exact explicit
  | changed located applies => exact explicit_changed explicit located geometry

/-- Resolving leaves everything else resolvable as it was. -/
structure Leaves (allowed : List ModelGeometries) (remembered : Option Partition) (world : World)
    (now : Option Partition) (after : World) : Prop where
  refitted : world.Refitted after
  explicit : IsExplicit now
  resolvable : ∀ id resolved, Resolvable allowed remembered world id resolved →
    Resolvable allowed now after id resolved

theorem Leaves.refl (explicit : IsExplicit remembered) (world : World) :
    Leaves allowed remembered world remembered world :=
  ⟨.refl world, explicit, fun _ _ resolvable => resolvable⟩

theorem Leaves.trans {later : Option Partition} {last : World}
    (first : Leaves allowed remembered world now after) (second : Leaves allowed now after later last) :
    Leaves allowed remembered world later last :=
  ⟨first.refitted.trans second.refitted, second.explicit,
    fun id resolved resolvable => second.resolvable id resolved (first.resolvable id resolved resolvable)⟩

theorem leaves_changed (explicit : IsExplicit remembered)
    (inForce : InForce remembered world partition)
    (becomes : Becomes world partition index geometry changed) (refitted : world.Refitted after) :
    Leaves allowed remembered world (some changed) after := by
  have named := inForce.isExplicit explicit
  refine ⟨refitted, ?_, fun id resolved resolvable => ?_⟩
  · rintro _ ⟨⟩
    exact becomes.isExplicit named
  · cases resolvable with
    | plain other => exact .plain other
    | @encoded _ reference device _ _ encoded parsed found also fits instance_ =>
      -- What another ID needs of the old partition, the new one has too.
      obtain rfl := also.unique inForce
      have looked := World.run_of_looks (lookUp_asks allowed reference) refitted.inventory
      have last := World.run_of_looks (findInstance_asks reference device) refitted.inventory
      refine .encoded encoded parsed ?_ (rfl : InForce (some changed) after changed)
        ((becomes.fits named fits).later refitted) ?_
      · rw [looked]
        exact found
      · rw [last]
        exact instance_

theorem Resolvable.ends (explicit : IsExplicit remembered)
    (resolvable : Resolvable allowed remembered world id resolved) :
    ∃ now after, resolveIn allowed remembered world id = ((.ok resolved, now), after) ∧
      Leaves allowed remembered world now after := by
  unfold resolveIn resolve
  cases resolvable with
  | plain other =>
    rw [if_neg (by rw [other]; nofun)]
    exact ⟨remembered, world, rfl, .refl explicit world⟩
  | @encoded _ reference device geometry partition encoded parsed found inForce fits instance_ =>
    rw [if_pos encoded, parsed]
    dsimp only
    have looked := World.run_of_looks (lookUp_asks allowed reference) (rfl : world.inventory = _)
    rw [found] at looked
    rw [World.run_program_bind looked]
    dsimp only
    obtain ⟨middle, ran, refitted⟩ := run_current inForce device.index
    rw [World.run_program_bind ran]
    dsimp only
    obtain ⟨changed, after, ran, more, becomes⟩ := run_ensureGeometry (fits.later refitted)
    rw [World.run_program_bind ran]
    dsimp only
    have last := World.run_of_looks (findInstance_asks reference device) (refitted.trans more).inventory
    rw [instance_] at last
    rw [World.run_program_bind last]
    -- Exporting came before the change, so the change can be seen from the first world.
    have becomes := becomes.earlier refitted
    exact ⟨some changed, after, rfl, leaves_changed explicit inForce becomes (refitted.trans more)⟩

-- Resolving depends on the devices and their partition alone.
theorem Resolvable.congr (resolvable : Resolvable allowed remembered world id resolved)
    (inventory : after.inventory = world.inventory) (tool : after.partitionTool = world.partitionTool) :
    Resolvable allowed remembered after id resolved := by
  cases resolvable with
  | plain other => exact .plain other
  | @encoded _ reference device geometry partition encoded parsed found inForce fits instance_ =>
    have looked := World.run_of_looks (lookUp_asks allowed reference) inventory
    have last := World.run_of_looks (findInstance_asks reference device) inventory
    have still : InForce remembered after partition := by
      unfold InForce at inForce ⊢
      rw [tool, inventory]
      exact inForce
    have fitsStill : Fits after partition device.index geometry := by
      unfold Fits at fits ⊢
      rw [tool]
      exact fits
    refine .encoded encoded parsed ?_ still fitsStill ?_
    · rw [looked]
      exact found
    · rw [last]
      exact instance_

end MigResolver

open MigResolver in
-- The devices of grants resolve, in order, and everything else resolves as it did.
theorem run_resolveAll {allowed : List ModelGeometries} {remembered : Option Partition} {world : World}
    {resolved : String → String} (explicit : IsExplicit remembered) {grants : List Wire.Grant}
    (resolvable : ∀ grant ∈ grants, Resolvable allowed remembered world grant.uuid (resolved grant.uuid)) :
    ∃ now after, (resolveAll allowed remembered grants).run World.serve world =
      ((.ok (grants.map fun grant => resolved grant.uuid), now), after) ∧
        Leaves allowed remembered world now after := by
  -- The first grant may change the partition, which leaves the others resolvable as they were.
  induction grants generalizing remembered world with
  | nil => exact ⟨remembered, world, rfl, .refl explicit world⟩
  | cons grant grants ih =>
    obtain ⟨now, middle, first, left⟩ := (resolvable grant List.mem_cons_self).ends explicit
    obtain ⟨later, after, rest, more⟩ := ih left.explicit fun other member =>
      left.resolvable _ _ (resolvable other (List.mem_cons_of_mem _ member))
    refine ⟨later, after, ?_, left.trans more⟩
    unfold resolveIn at first
    unfold resolveAll
    rw [World.run_program_bind first]
    dsimp only
    rw [World.run_program_bind rest]
    rfl

end GpuShare.Agent
