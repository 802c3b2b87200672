import GpuShare.Proofs.File.Directories
import GpuShare.Proofs.Agent.Calm
import GpuShare.Proofs.Agent.ContainerResponse
import GpuShare.Proofs.Agent.Waiting

/-!
The parts of a call on a calm cluster: claiming the pod that is selected, erasing its request, preparing the
directories of the response, and giving the pod back or binding it.
-/

set_option autoImplicit false

namespace GpuShare.Agent.Serving

open Cluster Wire Claiming

structure AreNamed (pods : List Pod) : Prop where
  named : ∀ pod ∈ pods, pod.metadata.ns.isSome ∧ pod.metadata.name.isSome
  distinct : (pods.map keyOf).Nodup

variable {pods : List Pod} {pod changed fresh : Pod} {index : Nat} {key : Key}

theorem keyOf_of_isNamed {ns name : String} (named : pod.isNamed ns name = true) :
    keyOf pod = (ns, name) := by
  rw [Pod.isNamed, Bool.and_eq_true, beq_iff_eq, beq_iff_eq] at named
  rw [keyOf, named.1, named.2]
  rfl

theorem isNamed_keyOf (named : pod.metadata.ns.isSome ∧ pod.metadata.name.isSome) :
    pod.isNamed (keyOf pod).1 (keyOf pod).2 = true := by
  obtain ⟨ns, hasNs⟩ := Option.isSome_iff_exists.1 named.1
  obtain ⟨name, hasName⟩ := Option.isSome_iff_exists.1 named.2
  simp [Pod.isNamed, keyOf, hasNs, hasName]

theorem AreNamed.tail (are : AreNamed (pod :: pods)) : AreNamed pods :=
  ⟨fun other member => are.named other (List.mem_cons_of_mem _ member),
    (List.nodup_cons.1 are.distinct).2⟩

theorem AreNamed.other (are : AreNamed (pod :: pods)) {fresh : Pod} (held : pods[index]? = some fresh)
    (keyed : keyOf fresh = key) : ¬ pod.isNamed key.1 key.2 = true := by
  intro named
  refine (List.nodup_cons.1 are.distinct).1 (List.mem_map.2 ⟨fresh, List.mem_of_getElem? held, ?_⟩)
  rw [keyOf_of_isNamed named, keyed]

theorem AreNamed.find? (are : AreNamed pods) (held : pods[index]? = some pod)
    (keyed : keyOf pod = key) : pods.find? (·.isNamed key.1 key.2) = some pod := by
  induction pods generalizing index with
  | nil => cases held
  | cons first pods ih =>
    rw [List.find?_cons]
    cases index with
    | zero =>
      cases held
      have named := isNamed_keyOf (are.named pod List.mem_cons_self)
      rw [keyed] at named
      rw [named]
    | succ index =>
      have held : pods[index]? = some pod := held
      rw [Bool.eq_false_iff.2 (are.other held keyed)]
      exact ih are.tail held

theorem AreNamed.replacePod (are : AreNamed pods) (held : pods[index]? = some pod)
    (keyed : keyOf pod = key) (changed : Pod) :
    Store.replacePod key.1 key.2 changed pods = pods.set index changed := by
  induction pods generalizing index with
  | nil => rfl
  | cons first pods ih =>
    rw [Store.replacePod]
    cases index with
    | zero =>
      cases held
      have named := isNamed_keyOf (are.named pod List.mem_cons_self)
      rw [keyed] at named
      rw [if_pos named]
      rfl
    | succ index =>
      have held : pods[index]? = some pod := held
      rw [if_neg (are.other held keyed), ih are.tail held]
      rfl

theorem AreNamed.set (are : AreNamed pods) (held : pods[index]? = some pod)
    (same : changed.metadata.ns = pod.metadata.ns ∧ changed.metadata.name = pod.metadata.name) :
    AreNamed (pods.set index changed) := by
  have key : keyOf changed = keyOf pod := by
    rw [keyOf, keyOf, same.1, same.2]
  refine ⟨fun other member => ?_, ?_⟩
  · rcases List.mem_or_eq_of_mem_set member with old | rfl
    · exact are.named other old
    · rw [same.1, same.2]
      exact are.named pod (List.mem_of_getElem? held)
  · have keys : (pods.set index changed).map keyOf = pods.map keyOf := by
      obtain ⟨below, is⟩ := List.getElem?_eq_some_iff.1 held
      rw [List.map_set, key, ← is, ← List.getElem_map keyOf (h := by rwa [List.length_map])]
      exact List.set_getElem_self _
    rw [keys]
    exact are.distinct

section Writes

variable {world : World} {node : String} {claim : Claim} {guard : Option String}

-- A write to a pod under the name that a call has for it.
theorem serve_patchPod (calm : world.IsCalm) (are : AreNamed world.view.pods)
    (held : world.view.pods[index]? = some pod) (keyed : keyOf pod = key) (patch : Patch)
    (holds : Store.guardHolds pod.metadata guard = true) :
    ∃ version after, World.serve (.cluster (.patchPod key.1 key.2 patch guard)) world =
        (.ok (patchedPod pod patch version), after) ∧ after.IsCalm ∧
      after.view = { world.view with
        pods := world.view.pods.set index (patchedPod pod patch version) } := by
  obtain ⟨version, after, served, calm, view⟩ := calm.patchPod (are.find? held keyed) patch holds
  rw [are.replacePod held keyed] at view
  exact ⟨version, after, served, calm, view⟩

theorem run_patch (claim : Claim) (calm : world.IsCalm) (are : AreNamed world.view.pods)
    (held : world.view.pods[index]? = some pod) (keyed : keyOf pod = (claim.ns, claim.name))
    (patch : Patch) (holds : Store.guardHolds pod.metadata guard = true) :
    ∃ version after, world.run (claim.patch patch guard) = (.ok (), after) ∧ after.IsCalm ∧
      after.view = { world.view with
        pods := world.view.pods.set index (patchedPod pod patch version) } := by
  obtain ⟨version, after, served, calm, view⟩ := serve_patchPod calm are held keyed patch holds
  refine ⟨version, after, ?_, calm, view⟩
  unfold Claim.patch
  rw [World.run_bind_ok (World.run_callOr served _)]
  rfl

def claimOf (pod : Pod) (version : String) : Claim :=
  ⟨patchedPod pod claimPatch version, (keyOf pod).1, (keyOf pod).2, pod.annotation? assignedTime⟩

-- The pod that is selected is claimed at the first attempt.
theorem run_claimNext (calm : world.IsCalm) (are : AreNamed world.view.pods)
    (held : world.view.pods[index]? = some pod)
    (selected : nextPod? world.view.pods node = some (pod, index)) :
    ∃ version after, world.run (claimNext node) = (.ok (claimOf pod version), after) ∧
      after.IsCalm ∧ after.view = { world.view with
        pods := world.view.pods.set index (claimOf pod version).pod } := by
  obtain ⟨listed, asked, calm, view⟩ := calm.listPods
  rw [← view] at are held
  obtain ⟨version, after, served, calm, written⟩ := serve_patchPod calm are held rfl claimPatch
    (NodeLock.guardHolds_self pod.metadata)
  rw [view] at written
  refine ⟨version, after, ?_, calm, written⟩
  show world.run (claimIn node 3 "") = _
  rw [claimIn, World.run_bind_ok (World.run_callOr asked _), selected]
  dsimp only
  rw [World.run_ask_bind]
  have wrote : World.serve (.cluster (.patchPod (pod.metadata.ns.getD "") (pod.metadata.name.getD "")
    (.one assignedTime (some Pod.claimedText)) pod.metadata.resourceVersion)) listed = _ := served
  rw [wrote]
  rfl

inductive Finishes (claim : Claim) (pod : Pod) : Patch → Prop where
  | givenBack : HasRequest pod →
      Finishes claim pod (.one assignedTime claim.originalTime)
  | bound : (∀ container, requestAt pod container = []) →
      Finishes claim pod (.one bindPhase (some Phase.success.text))

theorem run_finish (calm : world.IsCalm) (are : AreNamed world.view.pods)
    (held : world.view.pods[index]? = some pod) (keyed : keyOf pod = (claim.ns, claim.name))
    {grants : Grants}
    (reads : Grants.decode ((pod.annotation? devicesToAllocate).getD "") = .ok grants) :
    ∃ patch version after, world.run claim.finish = (.ok (), after) ∧ after.IsCalm ∧
      Finishes claim pod patch ∧ after.view = { world.view with
        pods := world.view.pods.set index (patchedPod pod patch version) } := by
  obtain ⟨got, asked, calm, view⟩ := calm.getPod (are.find? held keyed)
  rw [← view] at are held
  have read : grantsOf claim.display pod = .ok grants := by
    rw [grantsOf, reads]
  unfold Claim.finish
  rw [World.run_bind_ok (World.run_callOr asked _), World.run_orFail_bind _ _ read]
  split
  · next more =>
    obtain ⟨version, after, ran, calm, written⟩ := run_patch claim calm are held keyed
      (.one assignedTime claim.originalTime) (rfl : Store.guardHolds pod.metadata none = true)
    rw [view] at written
    exact ⟨_, version, after, ran, calm, .givenBack ((hasPending_iff reads).1 more), written⟩
  · next none_left =>
    obtain ⟨version, after, ran, calm, written⟩ := run_patch claim calm are held keyed
      (.one bindPhase (some Phase.success.text)) (rfl : Store.guardHolds pod.metadata none = true)
    rw [view] at written
    rw [hasPending_iff reads] at none_left
    exact ⟨_, version, after, ran, calm, .bound (not_hasRequest.1 none_left), written⟩

end Writes

section Responses

variable {world : World} {config : AgentConfig} {container : Container} {path : Path}

theorem run_prepareDirectory (calm : world.IsCalm) (can : world.view.disk.CanMake path) :
    ∃ disk after, world.run (prepareDirectory path) = (.ok (), after) ∧ after.IsCalm ∧
      world.view.disk.Becomes disk ∧ after.view = { world.view with disk := disk } := by
  have grown := (world.disk.makeDirectories_becomes path).trans
    (Disk.setMode_becomes _ path World.sharedMode)
  have made : world.disk.makeDirectories path = (.ok (), (world.disk.makeDirectories path).2) :=
    Prod.ext can rfl
  have served : World.serve (.makeSharedDirectory path) world = (.ok (), { world with
      disk := (world.disk.makeDirectories path).2.setMode path World.sharedMode }) := by
    rw [World.serve, made]
  unfold prepareDirectory
  rw [World.run_ask_bind, served]
  exact ⟨_, _, rfl, ⟨calm.faults, calm.podConflicts, calm.podConflictAfter, calm.nodeConflicts⟩,
    grown, rfl⟩

def CanPrepare (config : AgentConfig) (disk : Disk) (pod : Pod) (container : Container) : Prop :=
  config.mode = .hamiCore →
    disk.CanMake (stateDirectory config pod container) ∧ disk.CanMake config.paths.lock

theorem CanPrepare.becomes {disk after : Disk} (can : CanPrepare config disk pod container)
    (becomes : disk.Becomes after) : CanPrepare config after pod container := fun shared =>
  ⟨(can shared).1.becomes becomes, (can shared).2.becomes becomes⟩

theorem IsServed.canPrepare {disk : Disk} {turn : Turn} {served : Pod} (is : IsServed turn pod served)
    (can : CanPrepare config disk pod container) : CanPrepare config disk served container := by
  unfold CanPrepare stateDirectory at can ⊢
  rw [is.uid]
  exact can

theorem run_containerResponse (calm : world.IsCalm)
    (can : CanPrepare config world.view.disk pod container) (request : List Grant)
    (resolved : List String) :
    ∃ response disk after,
      world.run (containerResponse config pod container request resolved) = (.ok response, after) ∧
        Answers config pod container request resolved response ∧ after.IsCalm ∧
          world.view.disk.Becomes disk ∧ after.view = { world.view with disk := disk } := by
  unfold containerResponse Answers
  cases mode : config.mode with
  | mig => exact ⟨_, _, world, rfl, onlyShows_visibleDevices resolved, calm, .refl _, rfl⟩
  | hamiCore =>
    obtain ⟨state, lock⟩ := can mode
    dsimp only
    rw [World.run_ask_bind]
    have counted : (World.serve .freshId world).2.IsCalm :=
      ⟨calm.faults, calm.podConflicts, calm.podConflictAfter, calm.nodeConflicts⟩
    have same : (World.serve .freshId world).2.view = world.view := rfl
    rw [← same] at state lock
    obtain ⟨first, middle, made, calm, grown, view⟩ := run_prepareDirectory counted state
    have lock : middle.view.disk.CanMake config.paths.lock := by
      rw [view]
      exact lock.becomes grown
    obtain ⟨second, after, also, calm, more, last⟩ := run_prepareDirectory calm lock
    rw [World.run_bind_ok made, World.run_bind_ok also]
    rw [view] at more last
    exact ⟨_, second, after, rfl, ⟨_, limits_shares ..⟩, calm, grown.trans more, last⟩

theorem shows_of_answers {request : List Grant} {ids : List String} {response : ContainerResponse}
    (answers : Answers config pod container request ids response) :
    response.environment.get? visibleDevicesName = some (",".intercalate ids) := by
  unfold Answers at answers
  split at answers
  · exact (answers.environment _ _).2 ⟨rfl, rfl⟩
  · obtain ⟨id, limits⟩ := answers
    exact (limits.environment _ _).2 .visibleDevices

end Responses

theorem reads_erased {demand : Demand} (wants : Wants pod demand) (version : String) :
    ∃ grants, Grants.decode (((patchedPod pod (erasePatch demand) version).annotation?
      devicesToAllocate).getD "") = .ok grants := by
  have plain := (Grants.isPlain_of_decode wants.grants).erase demand.position nvidia
  obtain ⟨read, decoded, -⟩ := Grants.atContainer_decode_encode plain
  refine ⟨read, ?_⟩
  rw [annotation?_patchedPod, erasePatch, Patch.get?_one, if_pos rfl]
  exact decoded

-- What is left of a call once the devices of its request are resolved.
theorem run_settle (claim : Claim) {world : World} {config : AgentConfig} {demand : Demand}
    (calm : world.IsCalm) (are : AreNamed world.view.pods)
    (held : world.view.pods[index]? = some claim.pod)
    (keyed : keyOf claim.pod = (claim.ns, claim.name)) (wants : Wants claim.pod demand)
    (can : CanPrepare config world.view.disk claim.pod demand.container) (resolved : List String) :
    ∃ response erased patch version last disk after,
      world.run (claim.settle config demand resolved) = (.ok response, after) ∧
        Answers config claim.pod demand.container demand.request resolved response ∧
        Finishes claim (patchedPod claim.pod (erasePatch demand) erased) patch ∧ after.IsCalm ∧
        world.view.disk.Becomes disk ∧
        last = patchedPod (patchedPod claim.pod (erasePatch demand) erased) patch version ∧
        after.view = { world.view with pods := world.view.pods.set index last, disk := disk } := by
  -- The pod is as it was claimed, so the guard on its version holds.
  obtain ⟨erased, written, wrote, calm, view⟩ := run_patch claim calm are held keyed
    (erasePatch demand) (NodeLock.guardHolds_self claim.pod.metadata)
  have canStill : CanPrepare config written.view.disk claim.pod demand.container := by
    rw [view]
    exact can
  obtain ⟨response, disk, answered, responds, answers, calm, grown, prepared⟩ :=
    run_containerResponse calm canStill demand.request resolved
  rw [view] at grown prepared
  -- What was written is read again to see whether requests are left.
  obtain ⟨grants, reads⟩ := reads_erased wants erased
  obtain ⟨below, -⟩ := List.getElem?_eq_some_iff.1 held
  have now : answered.view.pods[index]? =
      some (patchedPod claim.pod (erasePatch demand) erased) := by
    rw [prepared]
    exact List.getElem?_set_self below
  have areStill : AreNamed answered.view.pods := by
    rw [prepared]
    exact are.set held ⟨rfl, rfl⟩
  obtain ⟨patch, version, after, finished, calm, finishes, last⟩ :=
    run_finish calm areStill now keyed reads
  rw [prepared] at last
  refine ⟨response, erased, patch, version, _, disk, after, ?_, answers, finishes, calm, grown, rfl, ?_⟩
  · rw [erasePatch] at wrote
    unfold Claim.settle
    dsimp only
    rw [World.run_bind_ok wrote, World.run_bind_ok responds, World.run_bind_ok finished]
    rfl
  · rw [last]
    dsimp only
    rw [List.set_set]

end GpuShare.Agent.Serving
