import GpuShare.Proofs.Execution
import GpuShare.Proofs.Agent.Requests

/-!
The parts of a call. A call for shares that is for one container takes the lock, serves the queue and gives
the lock back; between the two it writes to no node. Every other call looks at the devices at most.
-/

set_option autoImplicit false

namespace GpuShare.Agent

open Cluster Wire Program Attempt

variable {ε : Type} {exchanges : List (Exchange interface)} {kind : Request → Prop}

theorem callOr_asks (f : ClusterError → ε) {call : Call} (asked : kind (.cluster call)) :
    (callOr f call).run.Asks kind :=
  askOr_asks _ asked fun _ => orFail_asks _ _

theorem callOr_ends {f : ClusterError → ε} {call : Call} {outcome : Except ε call.Reply}
    (ends : (callOr f call).run.Ends exchanges outcome) :
    ∃ answer, exchanges = [⟨.cluster call, answer⟩] ∧ outcome = answer.mapError f := by
  obtain ⟨answer, rest, rfl, ends⟩ := ends
  cases answer with
  | ok reply =>
    obtain ⟨rfl, rfl⟩ := ends
    exact ⟨.ok reply, rfl, rfl⟩
  | error error =>
    obtain ⟨rfl, rfl⟩ := ends
    exact ⟨.error error, rfl, rfl⟩

theorem prepareDirectory_asks (path : Path) : (prepareDirectory path).run.Asks Request.IsLocal :=
  askOr_asks _ trivial fun _ => orFail_asks _ _

theorem containerResponse_asks (config : AgentConfig) (pod : Pod) (container : Container)
    (request : List Grant) (resolved : List String) :
    (containerResponse config pod container request resolved).run.Asks Request.IsLocal := by
  rw [containerResponse]
  split
  · trivial
  · refine askOr_asks _ trivial fun id => Attempt.asks_bind (prepareDirectory_asks _) fun _ => ?_
    exact Attempt.asks_bind (prepareDirectory_asks _) fun _ => trivial

section Nodes

theorem patch_asks {claim : Claim} {changes : Patch} {guard : Option String} :
    (claim.patch changes guard).run.Asks Request.SparesNodes :=
  Attempt.asks_bind (callOr_asks _ id) fun _ => trivial

theorem claimIn_asks (node : String) (attempts : Nat) (contended : String) :
    (claimIn node attempts contended).run.Asks Request.SparesNodes := by
  induction attempts generalizing contended with
  | zero => trivial
  | succ attempts ih =>
    refine Attempt.asks_bind (callOr_asks _ id) fun pods => ?_
    split
    · trivial
    · refine askOr_asks _ id fun answer => ?_
      cases answer with
      | ok claimed => trivial
      | error error =>
        show Asks _ (ExceptT.run (if error.isConflict then _ else _))
        split
        · exact ih _
        · trivial

theorem finish_asks (claim : Claim) : claim.finish.run.Asks Request.SparesNodes := by
  refine Attempt.asks_bind (callOr_asks _ id) fun fresh => ?_
  refine Attempt.asks_bind (orFail_asks _ _) fun grants => ?_
  show Asks _ (ExceptT.run (if _ then _ else _))
  split
  · exact patch_asks
  · exact patch_asks

theorem settle_asks (claim : Claim) (config : AgentConfig) (demand : Demand) (resolved : List String) :
    (claim.settle config demand resolved).run.Asks Request.SparesNodes := by
  have answers := (containerResponse_asks config claim.pod demand.container demand.request resolved).mono
    fun _ => Request.IsLocal.sparesNodes
  refine Attempt.asks_bind patch_asks fun _ => Attempt.asks_bind answers fun response => ?_
  exact Attempt.asks_bind (finish_asks claim) fun _ => trivial

theorem consume_asks (claim : Claim) (config : AgentConfig) (remembered : Option Mig.Partition)
    (ids : List String) : (claim.consume config remembered ids).Asks Request.SparesNodes := by
  unfold Claim.consume
  split
  · trivial
  · next demand _ =>
    have resolves := (resolveAll_asks config.geometries demand.request remembered).mono
      fun _ asked => asked.isLocal.sparesNodes
    refine Program.asks_bind resolves fun result => ?_
    obtain ⟨resolved, remembered⟩ := result
    cases resolved with
    | error e => trivial
    | ok resolved => exact Program.asks_bind (settle_asks ..) fun _ => trivial

theorem serveQueue_asks (config : AgentConfig) (remembered : Option Mig.Partition)
    (ids : List String) : (serveQueue config remembered ids).Asks Request.SparesNodes := by
  refine Program.asks_bind (claimIn_asks ..) fun claimed => ?_
  cases claimed with
  | error e => trivial
  | ok claim =>
    refine Program.asks_bind (consume_asks ..) fun result => ?_
    obtain ⟨outcome, remembered⟩ := result
    cases outcome with
    | ok response => trivial
    | error e => exact Program.asks_bind (Program.asks_bind patch_asks fun _ => trivial) fun _ => trivial

end Nodes

section Calls

variable {config : AgentConfig} {remembered now : Option Mig.Partition} {resource : Resource}
  {request : AllocateRequest} {ids : List String}

def UsesQueue (resource : Resource) (request : AllocateRequest) (ids : List String) : Prop :=
  resource.kind = .count ∧ resource.strategy ≠ .mixed ∧ request.containers = [ids]

theorem UsesQueue.unique {others : List String} (uses : UsesQueue resource request ids)
    (also : UsesQueue resource request others) : ids = others :=
  (List.cons.inj (uses.2.2.symm.trans also.2.2)).1

theorem deviceIds_asks (config : AgentConfig) (resource : Resource) :
    (resource.deviceIds config).run.Asks Request.IsLook := by
  refine askOr_asks _ trivial fun gpus => Attempt.asks_bind (orFail_asks _ _) fun gpus => ?_
  split
  · trivial
  · trivial
  · trivial
  · exact askOr_asks _ trivial fun instances => Attempt.asks_bind (orFail_asks _ _) fun _ => trivial

theorem passThrough_asks (config : AgentConfig) (resource : Resource) (request : AllocateRequest) :
    (passThrough config resource request).run.Asks Request.IsLook := by
  refine Attempt.asks_bind ?_ fun served => Attempt.asks_bind (orFail_asks _ _) fun _ => trivial
  refine Program.asks_bind (deviceIds_asks config resource) fun outcome => ?_
  cases outcome with
  | ok served => trivial
  | error e => trivial

theorem serveLocked_ends {outcome : Except AllocationError ContainerResponse}
    (ends : (serveLocked config remembered ids).Ends exchanges (outcome, now)) :
    (∃ cause, outcome = .error (.lockUnavailable cause) ∧
        (queueLock config).acquire.run.Ends exchanges (.error cause)) ∨
      ∃ taking serving releasing stamp freed, exchanges = taking ++ (serving ++ releasing) ∧
        (queueLock config).acquire.run.Ends taking (.ok stamp) ∧
        (serveQueue config remembered ids).Ends serving (outcome, now) ∧
        ((queueLock config).release stamp).run.Ends releasing freed := by
  obtain ⟨taken, taking, rest, rfl, takes, goes⟩ := Program.ends_bind.1 ends
  cases taken with
  | error cause =>
    obtain ⟨rfl, same⟩ := goes
    cases same
    exact .inl ⟨cause, rfl, by rwa [List.append_nil]⟩
  | ok stamp =>
    obtain ⟨result, serving, rest, rfl, serves, goes⟩ := Program.ends_bind.1 goes
    obtain ⟨freed, releasing, rest, rfl, releases, rfl, rfl⟩ := Program.ends_bind.1 goes
    rw [List.append_nil]
    exact .inr ⟨taking, serving, releasing, stamp, freed, rfl, takes, serves, releases⟩

theorem allocate_ends {outcome : Except AllocationError AllocateResponse}
    (ends : (allocate config remembered resource request).Ends exchanges (outcome, now)) :
    (∃ ids served, UsesQueue resource request ids ∧
        (serveLocked config remembered ids).Ends exchanges (served, now) ∧
        outcome = served.map fun response => ⟨[response]⟩) ∨
      (∀ ids, ¬ UsesQueue resource request ids) ∧
        ∀ exchange ∈ exchanges, exchange.request.IsLook := by
  have looks : ∀ {exchanges outcome}, ((passThrough config resource request).run >>= fun result =>
      pure (result, remembered)).Ends exchanges (outcome, now) →
        ∀ exchange ∈ exchanges, exchange.request.IsLook :=
    (Program.asks_bind (passThrough_asks config resource request) fun _ => by trivial).of_ends
  have other : ∀ {kind}, resource.kind = kind → kind ≠ .count → ∀ ids, ¬ UsesQueue resource request ids :=
    fun is differs ids uses => differs (is.symm.trans uses.1)
  unfold allocate at ends
  split at ends
  · next several =>
    obtain ⟨rfl, -⟩ := ends
    refine .inr ⟨fun ids uses => ?_, List.forall_mem_nil _⟩
    rw [uses.2.2] at several
    exact Nat.lt_irrefl 1 several
  next single =>
  split at ends
  · next mixed => exact .inr ⟨fun ids uses => uses.2.1 mixed, looks ends⟩
  next strategy =>
  split at ends
  · next is =>
    obtain ⟨rfl, -⟩ := ends
    exact .inr ⟨other is nofun, List.forall_mem_nil _⟩
  · next is =>
    obtain ⟨rfl, -⟩ := ends
    exact .inr ⟨other is nofun, List.forall_mem_nil _⟩
  · next is => exact .inr ⟨other is nofun, looks ends⟩
  · next count =>
    split at ends
    · next idle =>
      obtain ⟨rfl, -⟩ := ends
      refine .inr ⟨fun ids uses => ?_, List.forall_mem_nil _⟩
      cases idle.symm.trans uses.2.2
    · next ids others asked =>
      obtain ⟨⟨served, _⟩, serving, rest, rfl, serves, rfl, same⟩ := Program.ends_bind.1 ends
      cases same
      obtain rfl : others = [] := by
        rw [asked] at single
        exact List.length_eq_zero_iff.1 (by simpa using single)
      rw [List.append_nil]
      exact .inl ⟨ids, served, ⟨count, strategy, asked⟩, serves, rfl⟩

end Calls

end GpuShare.Agent
