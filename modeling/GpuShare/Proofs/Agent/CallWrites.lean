import GpuShare.Proofs.Agent.CallParts
import GpuShare.Proofs.Agent.ClaimSharing

/-!
What a call writes to the pods, as its exchanges show it. A call that claims no pod writes to none. A call
that claims one writes to this pod only: it may erase a request, and at last it gives the pod back, binds it
or marks it failed.
-/

set_option autoImplicit false

namespace GpuShare.Agent

open Cluster Wire Claiming Program Attempt

namespace Claim

def key (claim : Claim) : Key := (claim.ns, claim.name)

/-- The claim of a pod as it was listed, which the write has left as `claimed`. -/
def ofListed (listed claimed : Pod) : Claim :=
  ⟨claimed, (keyOf listed).1, (keyOf listed).2, listed.annotation? assignedTime⟩

def failedPatch (claim : Claim) : Patch :=
  (Patch.one bindPhase (some Phase.failed.text)).insert assignedTime claim.originalTime

inductive SettlesBy (claim : Claim) : Patch → Prop where
  | givenBack : SettlesBy claim (.one assignedTime claim.originalTime)
  | bound : SettlesBy claim (.one bindPhase (some Phase.success.text))

end Claim

namespace Unreliable

def written? : Exchange interface → Option (Key × Patch)
  | ⟨.cluster (.patchPod ns name patch _), .ok _⟩ => some ((ns, name), patch)
  | _ => none

def writes (exchanges : List (Exchange interface)) : List (Key × Patch) := exchanges.filterMap written?

/-- The write that marks a pod failed does not go through. -/
def losesMark : Exchange interface → Bool
  | ⟨.cluster (.patchPod _ _ patch _), .error _⟩ => patch.get? bindPhase == some (some Phase.failed.text)
  | _ => false

variable {α ε : Type} {exchanges : List (Exchange interface)} {claim : Claim}

@[simp] theorem writes_append (first rest : List (Exchange interface)) :
    writes (first ++ rest) = writes first ++ writes rest :=
  List.filterMap_append

theorem written?_of_claims {key : Key} {exchange : Exchange interface} (claims : Claims key exchange) :
    written? exchange = some (key, claimPatch) := by
  obtain ⟨guard, pod, rfl⟩ := claims
  rfl

theorem written?_of_not_writesPod {exchange : Exchange interface} (other : ¬ exchange.request.WritesPod) :
    written? exchange = none := by
  obtain ⟨request, answer⟩ := exchange
  cases request with
  | cluster call =>
    cases call with
    | patchPod ns name patch guard => exact absurd trivial other
    | _ => rfl
  | _ => rfl

theorem writes_of_asks {kind : Request → Prop} {program : Program interface α} {a : α}
    (asks : program.Asks kind) (other : ∀ request, kind request → ¬ request.WritesPod)
    (ends : program.Ends exchanges a) : writes exchanges = [] := by
  refine List.filterMap_eq_nil_iff.2 fun exchange member => ?_
  exact written?_of_not_writesPod (other _ (asks.of_ends ends exchange member))

theorem not_claims_of_writes (none_written : writes exchanges = []) (key : Key) :
    ∀ exchange ∈ exchanges, ¬ Claims key exchange := by
  intro exchange member claims
  have nothing := List.filterMap_eq_nil_iff.1 none_written exchange member
  rw [written?_of_claims claims] at nothing
  cases nothing

theorem key_eq_of_claims {key other : Key} {patches : List Patch} {exchange : Exchange interface}
    (wrote : writes exchanges = patches.map (other, ·)) (member : exchange ∈ exchanges)
    (claims : Claims key exchange) : key = other := by
  have listed : (key, claimPatch) ∈ writes exchanges :=
    List.mem_filterMap.2 ⟨exchange, member, written?_of_claims claims⟩
  rw [wrote] at listed
  obtain ⟨patch, -, same⟩ := List.mem_map.1 listed
  exact (congrArg Prod.fst same).symm

theorem exists_claims {key : Key} (written : (key, claimPatch) ∈ writes exchanges) :
    ∃ exchange ∈ exchanges, Claims key exchange := by
  obtain ⟨⟨request, answer⟩, member, written⟩ := List.mem_filterMap.1 written
  refine ⟨_, member, ?_⟩
  by_cases writing : request.WritesPod
  · obtain ⟨ns, name, patch, guard, rfl⟩ := writing.eq_patchPod
    cases answer with
    | ok pod =>
      cases written
      exact ⟨guard, pod, rfl⟩
    | error error => cases written
  · rw [written?_of_not_writesPod writing] at written
    cases written

theorem patch_ends {changes : Patch} {guard : Option String} {outcome : Except AllocationError Unit}
    (ends : (claim.patch changes guard).run.Ends exchanges outcome) :
    outcome = .ok () ∧ writes exchanges = [(claim.key, changes)] ∨
      (∃ e, outcome = .error e) ∧ ∃ error, exchanges =
        [⟨.cluster (.patchPod claim.ns claim.name changes guard), .error error⟩] := by
  obtain ⟨answer, rest, rfl, ends⟩ := ends
  cases answer with
  | ok pod =>
    obtain ⟨rfl, rfl⟩ := ends
    exact .inl ⟨rfl, rfl⟩
  | error error =>
    obtain ⟨rfl, rfl⟩ := ends
    exact .inr ⟨⟨_, rfl⟩, error, rfl⟩

theorem settling_ends {last : Patch} {outcome : Except AllocationError Unit} (settles : claim.SettlesBy last)
    (ends : (claim.patch last none).run.Ends exchanges outcome) :
    (∃ last, outcome = .ok () ∧ claim.SettlesBy last ∧ writes exchanges = [(claim.key, last)]) ∨
      (∃ e, outcome = .error e) ∧ writes exchanges = [] := by
  obtain ⟨rfl, wrote⟩ | ⟨failed, error, rfl⟩ := patch_ends ends
  · exact .inl ⟨last, rfl, settles, wrote⟩
  · exact .inr ⟨failed, rfl⟩

theorem finish_ends {outcome : Except AllocationError Unit}
    (ends : claim.finish.run.Ends exchanges outcome) :
    (∃ last, outcome = .ok () ∧ claim.SettlesBy last ∧ writes exchanges = [(claim.key, last)]) ∨
      (∃ e, outcome = .error e) ∧ writes exchanges = [] := by
  obtain ⟨e, rfl, stopped⟩ | ⟨fresh, first, rest, rfl, begins, goes⟩ := Attempt.ends_bind.1 ends
  · obtain ⟨answer, rfl, -⟩ := callOr_ends stopped
    exact .inr ⟨⟨e, rfl⟩, rfl⟩
  obtain ⟨answer, rfl, -⟩ := callOr_ends begins
  rw [writes_append, show writes [_] = [] from rfl, List.nil_append]
  cases decoded : grantsOf claim.display fresh with
  | error e =>
    rw [decoded] at goes
    obtain ⟨rfl, rfl⟩ := goes
    exact .inr ⟨⟨e, rfl⟩, rfl⟩
  | ok grants =>
    rw [decoded] at goes
    change Program.Ends (ExceptT.run (if _ then _ else _)) _ _ at goes
    split at goes
    · exact settling_ends .givenBack goes
    · exact settling_ends .bound goes

/-- The writes to a claimed pod until its call is served or fails. -/
inductive Serves (claim : Claim) : (isOk : Bool) → List Patch → Prop where
  | served {demand : Demand} {last : Patch} : Wants claim.pod demand → claim.SettlesBy last →
      Serves claim true [erasePatch demand, last]
  | failed : Serves claim false []
  | failedLate {demand : Demand} : Wants claim.pod demand → Serves claim false [erasePatch demand]

theorem settle_ends {config : AgentConfig} {demand : Demand} {resolved : List String}
    {outcome : Except AllocationError ContainerResponse} (wants : Wants claim.pod demand)
    (ends : (claim.settle config demand resolved).run.Ends exchanges outcome) :
    ∃ patches, Serves claim outcome.isOk patches ∧ writes exchanges = patches.map (claim.key, ·) := by
  have responding : ∀ {exchanges response}, (containerResponse config claim.pod demand.container
      demand.request resolved).run.Ends exchanges response → writes exchanges = [] :=
    writes_of_asks (containerResponse_asks ..) fun _ seen => seen.not_writesPod
  obtain ⟨e, rfl, stopped⟩ | ⟨_, erasing, rest, rfl, begins, goes⟩ := Attempt.ends_bind.1 ends
  · obtain ⟨⟨⟩, -⟩ | ⟨-, error, rfl⟩ := patch_ends stopped
    exact ⟨[], .failed, rfl⟩
  obtain ⟨-, erased⟩ | ⟨⟨_, ⟨⟩⟩, -⟩ := patch_ends begins
  rw [writes_append, erased]
  obtain ⟨e, rfl, stopped⟩ | ⟨response, answering, rest, rfl, begins, goes⟩ := Attempt.ends_bind.1 goes
  · exact ⟨_, .failedLate wants, by rw [responding stopped]; rfl⟩
  rw [writes_append, responding begins]
  obtain ⟨e, rfl, stopped⟩ | ⟨_, finishing, rest, rfl, begins, rfl, rfl⟩ := Attempt.ends_bind.1 goes
  · obtain ⟨_, ⟨⟩, -⟩ | ⟨-, wrote⟩ := finish_ends stopped
    exact ⟨_, .failedLate wants, by rw [wrote]; rfl⟩
  · obtain ⟨last, -, settles, wrote⟩ | ⟨⟨_, ⟨⟩⟩, -⟩ := finish_ends begins
    exact ⟨_, .served wants settles, by rw [writes_append, wrote]; rfl⟩

theorem consume_ends {config : AgentConfig} {remembered now : Option Mig.Partition} {ids : List String}
    {outcome : Except AllocationError ContainerResponse}
    (ends : (claim.consume config remembered ids).Ends exchanges (outcome, now)) :
    ∃ patches, Serves claim outcome.isOk patches ∧ writes exchanges = patches.map (claim.key, ·) := by
  unfold Claim.consume at ends
  split at ends
  · obtain ⟨rfl, same⟩ := ends
    cases same
    exact ⟨[], .failed, rfl⟩
  · next demand fits =>
    obtain ⟨⟨resolved, _⟩, first, rest, rfl, begins, goes⟩ := Program.ends_bind.1 ends
    have quiet : writes first = [] :=
      writes_of_asks (resolveAll_asks ..) (fun _ asked => asked.isQuiet.not_writesPod) begins
    rw [writes_append, quiet, List.nil_append]
    cases resolved with
    | error e =>
      obtain ⟨rfl, same⟩ := goes
      cases same
      exact ⟨[], .failed, rfl⟩
    | ok resolved =>
      obtain ⟨_, settling, rest, rfl, settles, rfl, same⟩ := Program.ends_bind.1 goes
      cases same
      rw [List.append_nil]
      exact settle_ends (wants_of_demand fits) settles

theorem abandon_ends {done : Unit} (ends : claim.abandon.Ends exchanges done) :
    writes exchanges = [(claim.key, claim.failedPatch)] ∨
      writes exchanges = [] ∧ ∃ exchange ∈ exchanges, losesMark exchange := by
  obtain ⟨outcome, first, rest, rfl, begins, rfl, -⟩ := Program.ends_bind.1 ends
  rw [List.append_nil]
  obtain ⟨-, wrote⟩ | ⟨-, error, rfl⟩ := patch_ends begins
  · exact .inl wrote
  · refine .inr ⟨rfl, _, List.mem_singleton_self _, ?_⟩
    rw [losesMark, Dictionary.get?_insert, if_neg (by decide), Patch.get?_one, if_pos rfl]
    exact beq_self_eq_true _

/-- A call claims the next of the pods that it has listed, and has written to none before. -/
inductive Takes (node : String) : Claim → List (Exchange interface) → Prop where
  | claimed (before : List (Exchange interface)) {pods : List Pod} {listed pod : Pod} {position : Nat} :
      writes before = [] → nextPod? pods node = some (listed, position) →
      Takes node (.ofListed listed pod) (before ++ [⟨.cluster .listPods, .ok pods⟩,
        ⟨.cluster (.patchPod (keyOf listed).1 (keyOf listed).2 claimPatch
          listed.metadata.resourceVersion), .ok pod⟩])

theorem Takes.after {node : String} (takes : Takes node claim exchanges)
    (earlier : List (Exchange interface)) (quiet : writes earlier = []) :
    Takes node claim (earlier ++ exchanges) := by
  obtain ⟨before, nothing, next⟩ := takes
  rw [← List.append_assoc]
  exact .claimed _ (by rw [writes_append, quiet, nothing, List.append_nil]) next

theorem claimIn_ends {node : String} {attempts : Nat} {contended : String}
    {outcome : Except AllocationError Claim}
    (ends : (claimIn node attempts contended).run.Ends exchanges outcome) :
    (∃ e, outcome = .error e) ∧ writes exchanges = [] ∨
      ∃ claim, outcome = .ok claim ∧ Takes node claim exchanges := by
  induction attempts generalizing contended exchanges with
  | zero =>
    obtain ⟨rfl, rfl⟩ := ends
    exact .inl ⟨⟨_, rfl⟩, rfl⟩
  | succ attempts ih =>
    obtain ⟨e, rfl, stopped⟩ | ⟨pods, first, rest, rfl, begins, goes⟩ := Attempt.ends_bind.1 ends
    · obtain ⟨answer, rfl, -⟩ := callOr_ends stopped
      exact .inl ⟨⟨e, rfl⟩, rfl⟩
    obtain ⟨answer, rfl, listed⟩ := callOr_ends begins
    cases answer with
    | error error => cases listed
    | ok read =>
      cases listed
      split at goes
      · obtain ⟨rfl, rfl⟩ := goes
        exact .inl ⟨⟨_, rfl⟩, rfl⟩
      · next listed position next =>
        obtain ⟨answer, rest, rfl, goes⟩ := goes
        cases answer with
        | ok claimed =>
          obtain ⟨rfl, rfl⟩ := goes
          exact .inr ⟨_, rfl, .claimed [] rfl next⟩
        | error error =>
          change Program.Ends (ExceptT.run (if error.isConflict then _ else _)) _ _ at goes
          split at goes
          · -- Nothing was written in this attempt, so the later ones decide.
            obtain ⟨failed, nothing⟩ | ⟨claim, rfl, takes⟩ := ih goes
            · exact .inl ⟨failed, nothing⟩
            · exact .inr ⟨claim, rfl, takes.after [_, _] rfl⟩
          · obtain ⟨rfl, rfl⟩ := goes
            exact .inl ⟨⟨_, rfl⟩, rfl⟩

inductive Course (claim : Claim) (exchanges : List (Exchange interface)) :
    Except AllocationError α → List Patch → Prop where
  | served {a : α} {patches : List Patch} : Serves claim true patches → Course claim exchanges (.ok a) patches
  | marked {e : AllocationError} {patches : List Patch} : Serves claim false patches →
      Course claim exchanges (.error e) (patches ++ [claim.failedPatch])
  | unmarked {e : AllocationError} {patches : List Patch} {exchange : Exchange interface} :
      Serves claim false patches → exchange ∈ exchanges → losesMark exchange →
      Course claim exchanges (.error e) patches

/-- A call claims a pod and writes to no other. -/
def ServesOne (node : String) (claim : Claim) (exchanges : List (Exchange interface))
    (outcome : Except AllocationError α) (patches : List Patch) : Prop :=
  ∃ claiming rest, exchanges = claiming ++ rest ∧ Takes node claim claiming ∧
    writes rest = patches.map (claim.key, ·) ∧ Course claim exchanges outcome patches

theorem serveQueue_ends {config : AgentConfig} {remembered now : Option Mig.Partition}
    {ids : List String} {outcome : Except AllocationError ContainerResponse}
    (ends : (serveQueue config remembered ids).Ends exchanges (outcome, now)) :
    writes exchanges = [] ∨ ∃ claim patches, ServesOne config.node claim exchanges outcome patches := by
  obtain ⟨claimed, first, rest, rfl, begins, goes⟩ := Program.ends_bind.1 ends
  obtain ⟨⟨e, rfl⟩, nothing⟩ | ⟨claim, rfl, takes⟩ := claimIn_ends begins
  · obtain ⟨rfl, -⟩ := goes
    rw [List.append_nil]
    exact .inl nothing
  refine .inr ⟨claim, ?_⟩
  obtain ⟨⟨consumed, _⟩, consuming, rest, rfl, begins, goes⟩ := Program.ends_bind.1 goes
  obtain ⟨patches, serves, wrote⟩ := consume_ends begins
  cases consumed with
  | ok response =>
    obtain ⟨rfl, same⟩ := goes
    cases same
    exact ⟨patches, first, _, rfl, takes, by rw [List.append_nil, wrote], .served serves⟩
  | error e =>
    obtain ⟨_, marking, rest, rfl, abandons, rfl, same⟩ := Program.ends_bind.1 goes
    cases same
    rw [List.append_nil]
    obtain marked | ⟨nothing, exchange, member, lost⟩ := abandon_ends abandons
    · refine ⟨_, first, _, rfl, takes, ?_, .marked serves⟩
      rw [writes_append, wrote, marked, List.map_append]
      rfl
    · refine ⟨patches, first, _, rfl, takes, ?_,
        .unmarked serves (List.mem_append_right _ (List.mem_append_right _ member)) lost⟩
      rw [writes_append, wrote, nothing, List.append_nil]

theorem Course.map {β : Type} {outcome : Except AllocationError α} {patches : List Patch}
    (course : Course claim exchanges outcome patches) {more : List (Exchange interface)}
    (among : exchanges ⊆ more) (f : α → β) : Course claim more (outcome.map f) patches := by
  cases course with
  | served serves => exact .served serves
  | marked serves => exact .marked serves
  | unmarked serves member lost => exact .unmarked serves (among member) lost

-- Taking the lock and giving it back write to no pod, so the pods are those of serving the queue.
theorem allocate_writes {config : AgentConfig} {remembered now : Option Mig.Partition}
    {resource : Resource} {request : AllocateRequest} {outcome : Except AllocationError AllocateResponse}
    (ends : (allocate config remembered resource request).Ends exchanges (outcome, now)) :
    writes exchanges = [] ∨ ∃ claim patches, ServesOne config.node claim exchanges outcome patches := by
  have locks : ∀ request : Request, request.IsForLock → ¬ request.WritesPod :=
    fun _ asked => asked.isQuiet.not_writesPod
  obtain ⟨ids, served, -, shares, rfl⟩ | ⟨-, looks⟩ := allocate_ends ends
  · obtain ⟨cause, rfl, takes⟩ | ⟨taking, serving, releasing, stamp, freed, rfl, takes, serves, releases⟩ :=
      serveLocked_ends shares
    · exact .inl (writes_of_asks NodeLock.acquire_asks locks takes)
    have before := writes_of_asks NodeLock.acquire_asks locks takes
    have after := writes_of_asks (NodeLock.release_asks stamp) locks releases
    obtain nothing | ⟨claim, patches, claiming, rest, rfl, takes, wrote, course⟩ := serveQueue_ends serves
    · exact .inl (by rw [writes_append, writes_append, before, nothing, after]; rfl)
    · have among : claiming ++ rest ⊆ taking ++ (claiming ++ rest ++ releasing) :=
        fun _ member => List.mem_append_right _ (List.mem_append_left _ member)
      refine .inr ⟨claim, patches, taking ++ claiming, rest ++ releasing, ?_, takes.after _ before, ?_,
        course.map among _⟩
      · simp only [List.append_assoc]
      · rw [writes_append, wrote, after, List.append_nil]
  · refine .inl (List.filterMap_eq_nil_iff.2 fun exchange member => ?_)
    exact written?_of_not_writesPod (looks exchange member).isForDevices.isLocal.not_writesPod

end Unreliable

end GpuShare.Agent
