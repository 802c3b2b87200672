import GpuShare.Proofs.Agent.ClaimSharing

/-!
What the writes of a call do to a pod, and to the pods that are known: which grants are left, whether the pod
is marked as claimed, and that no two pods under a name have the same version.
-/

set_option autoImplicit false

namespace GpuShare.Agent.Claiming

open Cluster Wire Program

section Pods

variable {pod changed : Pod} {patch : Patch} {version : String} {demand : Demand}

theorem annotation?_patchedPod (pod : Pod) (patch : Patch) (version key : String) :
    (patchedPod pod patch version).annotation? key =
      (patch.get? key).getD (pod.annotation? key) :=
  annotation?_patched pod.metadata patch version key

theorem grantsAt_congr
    (same : changed.annotation? devicesToAllocate = pod.annotation? devicesToAllocate) :
    grantsAt changed = grantsAt pod := by
  funext position
  rw [grantsAt, grantsAt, same]

theorem grantsAt_of_leaves (leaves : LeavesGrants patch) :
    grantsAt (patchedPod pod patch version) = grantsAt pod := by
  apply grantsAt_congr
  rw [annotation?_patchedPod, show patch.get? devicesToAllocate = none from leaves]
  rfl

theorem Wants.grantsAt_eq (wants : Wants pod demand) (position : Nat) :
    grantsAt pod position = demand.grants.atContainer position := by
  rw [grantsAt, wants.grants]

theorem Wants.request_eq (wants : Wants pod demand) :
    demand.request = (grantsAt pod demand.position).filter (·.isOf nvidia) ∧ demand.request ≠ [] := by
  obtain ⟨all, some_grant, -⟩ := Grants.next?_eq_some wants.next
  rw [wants.grantsAt_eq]
  exact ⟨all, some_grant⟩

theorem Wants.unique {other : Demand} (wants : Wants pod demand) (also : Wants pod other) :
    demand = other := by
  obtain ⟨grants, position, container, request⟩ := demand
  obtain ⟨grants', position', container', request'⟩ := other
  obtain rfl : grants = grants' := Except.ok.inj (wants.grants.symm.trans also.grants)
  have next := Option.some.inj (wants.next.symm.trans also.next)
  obtain ⟨rfl, rfl⟩ : position = position' ∧ request = request' := Prod.mk.inj next
  obtain rfl : container = container' := Option.some.inj (wants.container.symm.trans also.container)
  rfl

-- After an erasing write a pod has all its grants but those of the request.
theorem Wants.grantsAt_erased (wants : Wants pod demand) (version : String) (position : Nat) :
    grantsAt (patchedPod pod (erasePatch demand) version) position =
      if position = demand.position then (grantsAt pod position).filter (!·.isOf nvidia)
      else grantsAt pod position := by
  have plain := (Grants.isPlain_of_decode wants.grants).erase demand.position nvidia
  obtain ⟨read, decoded, same⟩ := Grants.atContainer_decode_encode plain
  have written : (patchedPod pod (erasePatch demand) version).annotation? devicesToAllocate =
      some (demand.grants.erase demand.position nvidia).encode := by
    rw [annotation?_patchedPod, erasePatch, Patch.get?_one, if_pos rfl]
    rfl
  rw [wants.grantsAt_eq, grantsAt, written, Option.getD_some, decoded]
  show read.atContainer position = _
  rw [same, Grants.erase_atContainer]

theorem isClaimed_congr (same : changed.annotation? assignedTime = pod.annotation? assignedTime) :
    changed.isClaimed = pod.isClaimed := by
  rw [Pod.isClaimed, Pod.isClaimed, same]

theorem isClaimed_claimPatch : (patchedPod pod claimPatch version).isClaimed = true := by
  rw [Pod.isClaimed, annotation?_patchedPod, claimPatch, Patch.get?_one, if_pos rfl]
  exact beq_self_eq_true _

theorem isClaimed_erasePatch :
    (patchedPod pod (erasePatch demand) version).isClaimed = pod.isClaimed := by
  apply isClaimed_congr
  rw [annotation?_patchedPod, erasePatch, Patch.get?_one, if_neg (by decide)]
  rfl

theorem leavesGrants_claimPatch : LeavesGrants claimPatch := leavesGrants_one (by decide) _

end Pods

variable {ι : Type} {scene after : Scene ι} {key : Key} {pod changed : Pod}

theorem history_write (scene : Scene ι) (key : Key) (pod : Pod) (other : Key) :
    (scene.write key pod).history other =
      if other = key then pod :: scene.history other else scene.history other := by
  by_cases same : other = key
  · subst same
    rw [if_pos rfl]
    exact Function.update_self ..
  · rw [if_neg same]
    exact Function.update_of_ne same ..

theorem current_write (scene : Scene ι) (key : Key) (pod : Pod) (other : Key) :
    (scene.write key pod).current other = if other = key then some pod else scene.current other := by
  rw [Scene.current, history_write]
  split
  · rfl
  · rfl

theorem grants_of_current {grants : Nat → List Grant} (current : scene.current key = some pod)
    (same : grantsAt pod = grants) : scene.grants key = grants := by
  funext position
  rw [Scene.grants, current, ← same]

theorem mem_of_current (current : scene.current key = some pod) : pod ∈ scene.history key :=
  List.mem_of_head? current

-- Of the pods a name has had, only the last one passes a guard with its version.
theorem Recorded.eq_of_version {history : List Pod} (recorded : Recorded key history)
    {last : Pod} (head : history.head? = some last) (member : pod ∈ history)
    (same : last.metadata.resourceVersion = pod.metadata.resourceVersion) : last = pod := by
  cases history with
  | nil => cases head
  | cons first others =>
    cases head
    rcases List.mem_cons.1 member with equal | earlier
    · exact equal.symm
    · exact absurd same ((List.pairwise_cons.1 recorded.distinct).1 pod earlier)

theorem Recorded.cons {history : List Pod} {version : String} (recorded : Recorded key history)
    (named : keyOf pod = key) (has : pod.metadata.resourceVersion = some version)
    (new : IsNew history version) : Recorded key (pod :: history) := by
  refine ⟨?_, ?_, List.pairwise_cons.2 ⟨fun old member => ?_, recorded.distinct⟩⟩
  · exact List.forall_mem_cons.2 ⟨named, recorded.named⟩
  · exact List.forall_mem_cons.2 ⟨⟨version, has⟩, recorded.versioned⟩
  · rw [has]
    exact Ne.symm (new old member)

theorem history_subset_write (scene : Scene ι) (key : Key) (pod : Pod) (other : Key) :
    scene.history other ⊆ (scene.write key pod).history other := by
  rw [history_write]
  split
  · exact List.subset_cons_self ..
  · exact List.Subset.refl _

-- Grants that a write leaves on its pod are left everywhere.
theorem grants_write (current : scene.current key = some pod)
    (same : grantsAt changed = grantsAt pod) : (scene.write key changed).grants = scene.grants := by
  funext other position
  rw [Scene.grants, Scene.grants, current_write]
  by_cases here : other = key
  · subst here
    rw [if_pos rfl, current]
    exact congrFun same position
  · rw [if_neg here]

theorem Recorded.write {version : String}
    (recorded : ∀ key, Recorded key (scene.history key)) (named : keyOf changed = key)
    (has : changed.metadata.resourceVersion = some version) (new : IsNew (scene.history key) version)
    (other : Key) : Recorded other ((scene.write key changed).history other) := by
  rw [history_write]
  split
  · next here =>
    subst here
    exact (recorded other).cons named has new
  · exact recorded other

theorem Claims.key_eq {other : Key} {patch : Patch} {guard : Option String} {written : Pod}
    (claims : Claims other ⟨.cluster (.patchPod key.1 key.2 patch guard), .ok written⟩) :
    other = key := by
  obtain ⟨_, _, same⟩ := claims
  have requests := congrArg Exchange.request same
  simp only [Request.cluster.injEq, Call.patchPod.injEq] at requests
  exact (Prod.ext requests.1 requests.2.1).symm

end GpuShare.Agent.Claiming
