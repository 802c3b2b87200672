import GpuShare.Proofs.Agent.Schedule

/-!
Pods on their way through the queue. A pod is ready as long as it has requests, and bound afterwards; the
pod of the first request of the schedule is the one that is selected next.
-/

set_option autoImplicit false

namespace GpuShare.Agent.Serving

open Cluster Wire Claiming

structure IsReady (node : String) (pod : Pod) : Prop where
  assigned : pod.annotation? assignedNode = some node
  unclaimed : pod.isClaimed = false
  unsettled : pod.isSettled = false
  reads : ∃ grants, Grants.decode ((pod.annotation? devicesToAllocate).getD "") = .ok grants
  wants : HasRequest pod
  -- Every request is of a container that the pod has.
  fits : ∀ container, requestAt pod container ≠ [] → container < pod.containers.length

structure IsBound (pod : Pod) : Prop where
  phase : pod.annotation? bindPhase = some Phase.success.text
  empty : ∀ container, requestAt pod container = []

variable {node : String} {pod served : Pod} {pods : List Pod} {turn : Turn} {rest : List Turn}

theorem requestAt_of_reads {grants : Grants}
    (reads : Grants.decode ((pod.annotation? devicesToAllocate).getD "") = .ok grants)
    (container : Nat) : requestAt pod container = (grants.atContainer container).filter (·.isOf nvidia) := by
  rw [requestAt, grantsAt, reads]

theorem not_hasRequest : ¬ HasRequest pod ↔ ∀ container, requestAt pod container = [] := by
  simp [HasRequest]

theorem hasPending_iff {grants : Grants}
    (reads : Grants.decode ((pod.annotation? devicesToAllocate).getD "") = .ok grants) :
    grants.hasPending handledTypes = true ↔ HasRequest pod := by
  rw [handledTypes, Grants.hasPending_iff, HasRequest]
  simp only [requestAt_of_reads reads]

theorem IsReady.waitsOn (ready : IsReady node pod) : pod.waitsOn node = true := by
  obtain ⟨grants, reads⟩ := ready.reads
  obtain ⟨container, some_grant⟩ := ready.wants
  have pending : pod.hasPendingEntries = true := by
    rw [requestAt_of_reads reads] at some_grant
    rw [Pod.hasPendingEntries]
    cases written : pod.annotation? devicesToAllocate with
    | none =>
      -- Without the annotation there would be no request.
      rw [written] at reads
      cases reads
      exact absurd rfl some_grant
    | some text =>
      rw [written, Option.getD_some] at reads
      obtain ⟨grant, member⟩ := List.exists_mem_of_ne_nil _ some_grant
      have inside := (List.mem_filter.1 member).1
      rw [Grants.atContainer] at inside
      cases here : grants[container]? with
      | none =>
        rw [here] at inside
        cases inside
      | some entries =>
        rw [here] at inside
        rw [Option.any_some, Pod.asksForDevices, reads]
        refine List.any_eq_true.2 ⟨entries, List.mem_of_getElem? here, ?_⟩
        rw [Bool.not_eq_true', List.isEmpty_eq_false_iff_exists_mem]
        exact ⟨grant, inside⟩
  rw [Pod.waitsOn, ready.assigned, ready.unsettled, ready.unclaimed, pending]
  simp

theorem IsBound.waitsOn (bound : IsBound pod) (node : String) : pod.waitsOn node = false := by
  have settled : pod.isSettled = true := by
    rw [Pod.isSettled, bound.phase]
    decide
  rw [Pod.waitsOn, settled]
  simp

-- The next request of a pod, read off its grants.
theorem IsReady.next? (ready : IsReady node pod) {container : Nat}
    (some_grant : requestAt pod container ≠ [])
    (before : ∀ earlier < container, requestAt pod earlier = []) :
    ∃ demand, Wants pod demand ∧ demand.position = container ∧
      demand.request = requestAt pod container := by
  obtain ⟨grants, reads⟩ := ready.reads
  have inside := ready.fits container some_grant
  rw [requestAt_of_reads reads] at some_grant
  have next := Grants.next?_of_first some_grant fun earlier lower => by
    rw [← requestAt_of_reads reads]
    exact before earlier lower
  rw [← requestAt_of_reads reads] at next
  exact ⟨⟨grants, container, pod.containers[container], requestAt pod container⟩,
    ⟨reads, next, List.getElem?_eq_getElem inside⟩, rfl, rfl⟩

structure IsFirst (node : String) (pods : List Pod) (turn : Turn) (pod : Pod) : Prop where
  held : pods[turn.pod]? = some pod
  ready : IsReady node pod
  leads : ∀ other place, pods[place]? = some other → other.waitsOn node = true →
    ComesFirst (pod, turn.pod) (other, place)
  wants : ∃ demand, Wants pod demand ∧ demand.position = turn.container ∧ demand.request = turn.request

theorem IsFirst.selected (is : IsFirst node pods turn pod) :
    nextPod? pods node = some (pod, turn.pod) := nextPod?_eq_some is.held is.ready.waitsOn is.leads

theorem isFirst_of_schedule (all : ∀ pod ∈ pods, IsReady node pod ∨ IsBound pod)
    (first : schedule pods = turn :: rest) : ∃ pod, IsFirst node pods turn pod := by
  have member : turn ∈ turns pods := by
    rw [← mem_schedule, first]
    exact List.mem_cons_self
  obtain ⟨pod, held, time, request, some_grant⟩ := mem_turns.1 member
  rw [request] at some_grant
  have ready : IsReady node pod := by
    rcases all pod (List.mem_of_getElem? held) with ready | bound
    · exact ready
    · exact absurd (bound.empty _) some_grant
  -- A request of a pod at a place comes no earlier than the first one.
  have least : ∀ (other : Pod) (place container : Nat), pods[place]? = some other →
      requestAt other container ≠ [] →
        turn.key ≤ Turn.key ⟨other.assignedTime, place, container, requestAt other container⟩ := by
    intro other place container there wants
    exact key_le_of_schedule first (mem_turns.2 ⟨other, there, rfl, rfl, wants⟩)
  refine ⟨pod, held, ready, ?_, ?_⟩
  · intro other place there waits
    rcases all other (List.mem_of_getElem? there) with alsoReady | bound
    · obtain ⟨container, wants⟩ := alsoReady.wants
      rcases key_le_iff.1 (least other place container there wants) with sooner | ⟨same, behind⟩
      · rw [time] at sooner
        exact .inl sooner
      · rw [time] at same
        exact .inr ⟨same, behind.elim Nat.le_of_lt fun here => Nat.le_of_eq here.1⟩
    · rw [bound.waitsOn] at waits
      cases waits
  · rw [request]
    refine ready.next? some_grant fun earlier lower => ?_
    by_contra wants
    rcases key_le_iff.1 (least pod turn.pod earlier held wants) with sooner | ⟨-, behind | ⟨-, behind⟩⟩
    · rw [time] at sooner
      exact absurd sooner (UInt64.lt_irrefl _)
    · exact absurd behind (Nat.lt_irrefl _)
    · exact absurd behind (Nat.not_le_of_lt lower)

/-- A pod after its request is served: the request is gone, and the pod is given back or bound. -/
structure IsServed (turn : Turn) (pod served : Pod) : Prop where
  spec : served.spec = pod.spec
  named : served.metadata.ns = pod.metadata.ns ∧ served.metadata.name = pod.metadata.name
  uid : served.metadata.uid = pod.metadata.uid
  assigned : served.annotation? assignedNode = pod.annotation? assignedNode
  reads : ∃ grants, Grants.decode ((served.annotation? devicesToAllocate).getD "") = .ok grants
  grants : ∀ container, grantsAt served container =
    if container = turn.container then (grantsAt pod container).filter (!·.isOf nvidia)
    else grantsAt pod container
  left : HasRequest served →
    served.annotation? assignedTime = pod.annotation? assignedTime ∧
      served.annotation? bindPhase = pod.annotation? bindPhase
  done : (∀ container, requestAt served container = []) →
    served.annotation? bindPhase = some Phase.success.text

theorem IsServed.requestAt_eq (is : IsServed turn pod served) (container : Nat) :
    requestAt served container = if container = turn.container then [] else requestAt pod container := by
  rw [requestAt, is.grants]
  split
  · rw [List.filter_filter, List.filter_eq_nil_iff]
    intro grant _
    simp
  · rfl

theorem IsServed.requestAt_subset (is : IsServed turn pod served) (container : Nat) :
    requestAt served container ⊆ requestAt pod container := by
  rw [is.requestAt_eq]
  split
  · exact List.nil_subset _
  · exact List.Subset.refl _

theorem IsServed.containers_eq (is : IsServed turn pod served) : served.containers = pod.containers := by
  rw [Pod.containers, is.spec]
  rfl

theorem IsServed.ready (is : IsServed turn pod served) (ready : IsReady node pod) :
    IsReady node served ∨ IsBound served := by
  by_cases wants : HasRequest served
  · obtain ⟨time, phase⟩ := is.left wants
    refine .inl ⟨is.assigned.trans ready.assigned, ?_, ?_, is.reads, wants, fun container some_grant => ?_⟩
    · rw [Pod.isClaimed, time]
      exact ready.unclaimed
    · rw [Pod.isSettled, phase]
      exact ready.unsettled
    · rw [is.containers_eq]
      rw [is.requestAt_eq] at some_grant
      split at some_grant
      · exact absurd rfl some_grant
      · exact ready.fits container some_grant
  · have empty := not_hasRequest.1 wants
    exact .inr ⟨is.done empty, empty⟩

-- Serving a request takes it from those that are to be served, and no other.
theorem IsServed.mem_turns_set (is : IsServed turn pod served) (held : pods[turn.pod]? = some pod)
    (member : turn ∈ turns pods) (other : Turn) :
    other ∈ turns (pods.set turn.pod served) ↔ other ∈ turns pods ∧ other ≠ turn := by
  obtain ⟨below, -⟩ := List.getElem?_eq_some_iff.1 held
  have now : (pods.set turn.pod served)[turn.pod]? = some served := List.getElem?_set_self below
  obtain ⟨also, held', time, request, -⟩ := mem_turns.1 member
  obtain rfl := Option.some.inj (held.symm.trans held')
  rw [mem_turns, mem_turns]
  by_cases here : other.pod = turn.pod
  · rw [here, now, held]
    constructor
    · rintro ⟨_, ⟨⟩, sameTime, wanted, some_grant⟩
      rw [wanted, is.requestAt_eq] at some_grant
      split at some_grant
      · exact absurd rfl some_grant
      next differs =>
      rw [is.requestAt_eq, if_neg differs] at wanted
      have stillLeft : HasRequest served :=
        ⟨other.container, by rwa [is.requestAt_eq, if_neg differs]⟩
      refine ⟨⟨pod, rfl, ?_, wanted, by rwa [wanted]⟩, fun same => differs (by rw [same])⟩
      rw [sameTime, Pod.assignedTime, (is.left stillLeft).1]
      rfl
    · rintro ⟨⟨_, ⟨⟩, sameTime, wanted, some_grant⟩, differs⟩
      -- Two requests of one pod differ in their containers.
      have elsewhere : other.container ≠ turn.container := by
        intro same
        refine differs ?_
        obtain ⟨_, _, _, _⟩ := other
        obtain ⟨_, _, _, _⟩ := turn
        simp only at here same sameTime wanted time request
        rw [sameTime, time, here, same, wanted, request, same]
      have stillLeft : HasRequest served :=
        ⟨other.container, by rwa [is.requestAt_eq, if_neg elsewhere, ← wanted]⟩
      refine ⟨served, rfl, ?_, ?_, some_grant⟩
      · rw [sameTime, Pod.assignedTime, Pod.assignedTime, (is.left stillLeft).1]
      · rw [is.requestAt_eq, if_neg elsewhere, wanted]
  · rw [List.getElem?_set_ne (Ne.symm here)]
    exact ⟨fun listed => ⟨listed, fun same => here (by rw [same])⟩, fun listed => listed.1⟩

-- A pod that is given back is the next one again.
theorem IsFirst.selected_again (first : IsFirst node pods turn pod) (is : IsServed turn pod served)
    (wants : HasRequest served) :
    nextPod? (pods.set turn.pod served) node = some (served, turn.pod) := by
  obtain ⟨below, -⟩ := List.getElem?_eq_some_iff.1 first.held
  have now : (pods.set turn.pod served)[turn.pod]? = some served := List.getElem?_set_self below
  have ready : IsReady node served := by
    rcases is.ready first.ready with ready | bound
    · exact ready
    · obtain ⟨container, some_grant⟩ := wants
      exact absurd (bound.empty container) some_grant
  refine nextPod?_eq_some now ready.waitsOn fun other place there waits => ?_
  by_cases here : place = turn.pod
  · subst here
    obtain rfl := Option.some.inj (now.symm.trans there)
    exact .inr ⟨rfl, Nat.le_refl _⟩
  · rw [List.getElem?_set_ne (Ne.symm here)] at there
    have leads := first.leads other place there waits
    rw [ComesFirst, Pod.assignedTime] at leads ⊢
    rw [(is.left wants).1]
    exact leads

end GpuShare.Agent.Serving
