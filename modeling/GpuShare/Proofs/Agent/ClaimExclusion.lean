import GpuShare.Proofs.Agent.ClaimInvariant
import GpuShare.Proofs.Agent.ClaimSchedule

/-!
Calls that serve the same pods keep out of each other's way, in any order of their requests and without the
lock of the node.
-/

set_option autoImplicit false

namespace GpuShare.Agent.Claiming

open Cluster Wire Program

variable {ι : Type} [DecidableEq ι] {orders : ι → Order} {trace : List (Transition (Scene ι) ι)}
  {scene : Scene ι}

omit [DecidableEq ι] in
/-- How calls that serve the same pods get on. -/
structure Orderly (orders : ι → Order) (trace : List (Transition (Scene ι) ι)) (scene : Scene ι) :
    Prop where
  -- At most one call is between its claim of a pod and its last write to it.
  alone : ∀ key i j, Holds scene i key → Holds scene j key → i = j
  -- Grants stay as they are, but for the entries that the holder of a pod erases.
  kept : ∀ transition ∈ trace, transition.after.grants = transition.before.grants ∨
    ∃ i key position, Erases transition i key position ∧ Holds transition.before i key
  -- The entries of a container are erased once.
  once : trace.Pairwise fun later earlier => ∀ i j key position,
    Erases later i key position → ¬ Erases earlier j key position
  -- A call that erased entries and returns a response has made it of these.
  made : ∀ transition ∈ trace, ∀ i key position, Erases transition i key position →
    ∀ response remembered, (scene.calls i).rest = .done (.ok response, remembered) →
      IsMadeOf (orders i) (scene.calls i).asked response transition key position
  -- A call that returns a response has erased entries.
  erased : ∀ i response remembered, (scene.calls i).rest = .done (.ok response, remembered) →
    ∃ transition ∈ trace, ∃ key position, Erases transition i key position

theorem orderly_of_run {start : Scene ι} (run : Run Step start trace scene)
    (initial : start.IsInitial orders) : Orderly orders trace scene := by
  obtain ⟨stages, steady, traced⟩ := sound_of_run run initial
  -- A response comes from a stage that has settled what it served.
  have served : ∀ i response remembered,
      (scene.calls i).rest = .done (.ok response, remembered) →
        Served (orders i) (stages i) response := by
    intro i response remembered ended
    have follows := steady.follows i
    rw [ended] at follows
    exact follows response remembered rfl
  refine ⟨fun key i j first second => steady.alone i j key (steady.holds first) (steady.holds second),
    traced.kept, traced.once, ?_, ?_⟩
  · intro transition member i key position erases response remembered ended
    obtain ⟨-, service, has, demand, wants, by_, current, entries⟩ :=
      traced.erased transition member i key position erases
    obtain ⟨other, found, ids, settled, also, resolves, answers⟩ := served i response remembered ended
    rw [settled] at has
    obtain rfl := Option.some.inj has
    obtain rfl := wants.unique also
    obtain ⟨-, rfl, rfl⟩ := erases.unique by_
    have fits := steady.fits i
    rw [settled] at fits
    rw [← entries] at resolves answers
    exact ⟨other.pod, demand.container, other.events, ids, current, wants.container,
      fits other rfl, resolves, answers⟩
  · intro i response remembered ended
    obtain ⟨service, demand, ids, settled, -⟩ := served i response remembered ended
    have has : (stages i).served? = some service := by
      rw [settled]
      rfl
    obtain ⟨transition, member, other, -, erases, -⟩ := traced.served i service has
    exact ⟨transition, member, service.key, other.position, erases⟩

def oneShare : Order where
  config := {
    node := "node-a", countName := "", memoryName := "", coreName := "", priorityName := "",
    splitCount := 10, memoryScaling := 1, memoryFactor := 1, mode := .mig, strategy := .none,
    geometries := [], filter := {}, paths := {} }
  remembered := none
  ids := ["GPU-1-0"]

def waitingPod : Pod where
  metadata := {
    ns := some "default", name := some "training", uid := none, resourceVersion := some "first"
    annotations := some (.ofList [(assignedNode, "node-a"), (assignedTime, "1"),
      (devicesToAllocate, "GPU-1,NVIDIA,1000,30:")]) }
  spec := some ⟨none, [⟨"main", [], .empty⟩]⟩

def opening : Scene Bool where
  history key := if key = ("default", "training") then [waitingPod] else []
  calls _ := ⟨[], oneShare.program⟩

def race : Scene Bool :=
  opening.play [("default", "training")]
    [false, false, false, false, true, true, true, true, false, true, true, false, false, false,
      false, true]

def returned (progress : Progress) : Option ContainerResponse :=
  match progress.rest with
  | .done (.ok response, _) => some response
  | _ => none

theorem orderly_race : ∃ trace, Orderly (fun _ => oneShare) trace race ∧
    returned (race.calls false) = some (visibleDevices ["GPU-1"]) ∧
      returned (race.calls true) = none := by
  have initial : opening.IsInitial fun _ => oneShare := by
    refine ⟨fun key => ?_, fun _ => rfl⟩
    by_cases here : key = ("default", "training")
    · subst here
      have one : opening.history ("default", "training") = [waitingPod] := rfl
      rw [one]
      exact ⟨by decide, List.forall_mem_singleton.2 ⟨"first", rfl⟩, List.pairwise_singleton ..⟩
    · have none : opening.history key = [] := if_neg here
      rw [none]
      exact ⟨nofun, nofun, .nil⟩
  obtain ⟨trace, run⟩ : ∃ trace, Run Step opening trace race := run_play _ .start
  exact ⟨trace, orderly_of_run run initial, by decide +kernel, by decide +kernel⟩

end GpuShare.Agent.Claiming
