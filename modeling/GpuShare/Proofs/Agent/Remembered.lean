import GpuShare.Proofs.Agent.Resolution

/-!
What an agent can come to remember of the partition of its devices. Whatever calls it is asked and whatever
they are answered, the entries of the partition name their devices.
-/

set_option autoImplicit false

namespace GpuShare.Agent

open Mig MigResolver Program

inductive CanRemember (config : AgentConfig) : Option Partition → Prop where
  | nothing : CanRemember config none
  | called {remembered now : Option Partition} {resource : Resource} {request : AllocateRequest}
      {exchanges : List (Exchange interface)} {answer : Except AllocationError AllocateResponse} :
      CanRemember config remembered →
      (allocate config remembered resource request).Ends exchanges (answer, now) →
      CanRemember config now

namespace MigResolver

variable {remembered : Option Partition} {partition : Partition}

theorem isExplicit_some (explicit : partition.IsExplicit) : IsExplicit (some partition) := by
  rintro _ ⟨⟩
  exact explicit

theorem gives_exportCurrent (index : UInt32) :
    (exportCurrent index).Gives Partition.IsExplicit := by
  refine Attempt.gives_of_rest fun _ => ?_
  refine Attempt.gives_of_rest fun exported => ?_
  refine Attempt.gives_of_rest fun _ => ?_
  refine Attempt.gives_of_rest fun gpus => ?_
  exact Attempt.gives_pure (Partition.isExplicit_expand exported gpus.length)

theorem gives_current (explicit : IsExplicit remembered) (index : UInt32) :
    (current remembered index).Gives Partition.IsExplicit := by
  cases remembered with
  | none => exact gives_exportCurrent index
  | some partition => exact Attempt.gives_pure (explicit partition rfl)

theorem gives_ensureGeometry (explicit : partition.IsExplicit) (index : UInt32) (geometry : Geometry) :
    (ensureGeometry partition index geometry).Gives Partition.IsExplicit := by
  have first : Attempt.Gives (fun found => locate partition index = .ok found)
      (ExceptT.mk (.done (locate partition index)) : Action MigError _) := fun found located => located
  refine Attempt.gives_bind first fun found located => ?_
  obtain ⟨entries, position, entry⟩ := found
  dsimp only
  split
  · exact Attempt.gives_pure explicit
  · refine Attempt.gives_of_rest fun _ => ?_
    refine Attempt.gives_of_rest fun _ => ?_
    exact Attempt.gives_pure (explicit_changed explicit located geometry)

theorem gives_resolve (explicit : IsExplicit remembered) (allowed : List ModelGeometries) (id : String) :
    (resolve allowed remembered id).Gives fun answer => IsExplicit answer.2 := by
  unfold resolve
  split
  · split
    · exact explicit
    refine gives_of_rest fun found => ?_
    split
    · exact explicit
    next device geometry =>
    refine gives_bind (gives_current explicit device.index) fun outcome named => ?_
    split
    · exact explicit
    next partition =>
    have named := named partition rfl
    refine gives_bind (gives_ensureGeometry named device.index geometry) fun outcome still => ?_
    split
    · exact isExplicit_some named
    next changed =>
    have still := still changed rfl
    exact gives_of_rest fun _ => isExplicit_some still
  · exact explicit

end MigResolver

variable {config : AgentConfig} {remembered : Option Partition}

theorem gives_resolveAll (explicit : IsExplicit remembered) (allowed : List ModelGeometries)
    (grants : List Wire.Grant) :
    (resolveAll allowed remembered grants).Gives fun answer => IsExplicit answer.2 := by
  induction grants generalizing remembered with
  | nil => exact explicit
  | cons grant grants ih =>
    refine gives_bind (gives_resolve explicit allowed grant.uuid) fun answer now => ?_
    obtain ⟨outcome, remembered⟩ := answer
    dsimp only
    split
    · exact now
    · exact gives_bind (ih now) fun answer later => later

theorem gives_consume (explicit : IsExplicit remembered) (claim : Claim) (ids : List String) :
    (claim.consume config remembered ids).Gives fun answer => IsExplicit answer.2 := by
  unfold Claim.consume
  split
  · exact explicit
  · next demand _ =>
    refine gives_bind (gives_resolveAll explicit config.geometries demand.request) fun answer now => ?_
    obtain ⟨outcome, remembered⟩ := answer
    dsimp only
    split
    · exact now
    · exact gives_of_rest fun _ => now

theorem gives_serveQueue (explicit : IsExplicit remembered) (ids : List String) :
    (serveQueue config remembered ids).Gives fun answer => IsExplicit answer.2 := by
  refine gives_of_rest fun claimed => ?_
  split
  · exact explicit
  · next claim =>
    refine gives_bind (gives_consume explicit claim ids) fun answer now => ?_
    obtain ⟨outcome, remembered⟩ := answer
    cases outcome with
    | ok response => exact now
    | error error => exact gives_of_rest fun _ => now

theorem gives_serveLocked (explicit : IsExplicit remembered) (ids : List String) :
    (serveLocked config remembered ids).Gives fun answer => IsExplicit answer.2 := by
  refine gives_of_rest fun acquired => ?_
  split
  · exact explicit
  · refine gives_bind (gives_serveQueue explicit ids) fun answer now => ?_
    exact gives_of_rest fun _ => now

theorem gives_allocate (explicit : IsExplicit remembered) (resource : Resource)
    (request : AllocateRequest) :
    (allocate config remembered resource request).Gives fun answer => IsExplicit answer.2 := by
  have passes : ((passThrough config resource request).run >>= fun answer =>
      (pure (answer, remembered) : Program interface _)).Gives fun answer => IsExplicit answer.2 :=
    gives_of_rest fun _ => explicit
  unfold allocate
  split
  · exact explicit
  split
  · exact passes
  split
  · exact explicit
  · exact explicit
  · exact passes
  · split
    · exact explicit
    · exact gives_bind (gives_serveLocked explicit _) fun answer now => now

-- Whatever happened before, what is remembered names its devices.
theorem CanRemember.isExplicit (can : CanRemember config remembered) : IsExplicit remembered := by
  induction can with
  | nothing => nofun
  | called _ ends explicit => exact (gives_allocate explicit _ _).of_ends ends

end GpuShare.Agent
