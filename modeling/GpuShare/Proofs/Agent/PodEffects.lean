import GpuShare.Proofs.Agent.CallWrites
import GpuShare.Proofs.Agent.Unreliable

/-!
What a call leaves of the pods, whatever fails. The writes that went through tell it: the pod that was claimed
has them in their order, and the other pods are as they were.
-/

set_option autoImplicit false

namespace GpuShare.Agent.Unreliable

open Cluster Wire Claiming Program

section Rewriting

variable {pod changed : Pod} {patches : List Patch}

def Rewritten : Pod → List Patch → Pod → Prop
  | pod, [], changed => changed = pod
  | pod, patch :: patches, changed => ∃ version, Rewritten (patchedPod pod patch version) patches changed

def valueAfter (key : String) : List Patch → Option String → Option String
  | [], value => value
  | patch :: patches, value => valueAfter key patches ((patch.get? key).getD value)

theorem Rewritten.annotation? (rewritten : Rewritten pod patches changed) (key : String) :
    changed.annotation? key = valueAfter key patches (pod.annotation? key) := by
  induction patches generalizing pod with
  | nil =>
    obtain rfl : changed = pod := rewritten
    rfl
  | cons patch patches ih =>
    obtain ⟨version, later⟩ := rewritten
    rw [ih later, annotation?_patchedPod]
    rfl

theorem valueAfter_of_absent {key : String} (absent : ∀ patch ∈ patches, patch.get? key = none)
    (value : Option String) : valueAfter key patches value = value := by
  induction patches generalizing value with
  | nil => rfl
  | cons patch patches ih =>
    rw [valueAfter, absent patch List.mem_cons_self]
    exact ih (fun other member => absent other (List.mem_cons_of_mem _ member)) value

def SameBesides (pod changed : Pod) : Prop :=
  changed = { pod with metadata := { pod.metadata with
    annotations := changed.metadata.annotations
    resourceVersion := changed.metadata.resourceVersion } }

theorem Rewritten.sameBesides (rewritten : Rewritten pod patches changed) : SameBesides pod changed := by
  induction patches generalizing pod with
  | nil =>
    obtain rfl : changed = pod := rewritten
    rfl
  | cons patch patches ih =>
    obtain ⟨version, later⟩ := rewritten
    have same := ih later
    exact same

end Rewriting

section Passing

variable {store after : Store} {exchanges : List (Exchange interface)} {key : Key} {place : Nat}
  {pod : Pod} {patches : List Patch}

theorem pods_of_unwritten {exchange : Exchange interface} (unwritten : written? exchange = none)
    (replied : Replies store exchange.request exchange.answer after) : after.pods = store.pods := by
  obtain ⟨request, answer⟩ := exchange
  by_cases writing : request.WritesPod
  · obtain ⟨ns, name, patch, guard, rfl⟩ := writing.eq_patchPod
    obtain ⟨-, same⟩ | ⟨pod, version, -, rfl, -⟩ := patchPod_cases replied
    · exact same
    · cases unwritten
  · exact pods_eq replied writing

theorem pods_of_written {exchange : Exchange interface} {patch : Patch}
    (written : written? exchange = some (key, patch))
    (replied : Replies store exchange.request exchange.answer after) (at_ : IsAt store.pods key place)
    (held : store.pods[place]? = some pod) :
    ∃ version, after.pods = store.pods.set place (patchedPod pod patch version) := by
  obtain ⟨request, answer⟩ := exchange
  by_cases writing : request.WritesPod
  · obtain ⟨ns, name, patch, guard, rfl⟩ := writing.eq_patchPod
    obtain ⟨⟨error, rfl⟩, -⟩ | ⟨found, version, named, rfl, replaced⟩ := patchPod_cases replied
    · cases written
    · cases written
      have same : found = pod := Option.some.inj (named.symm.trans (at_.find?.trans held))
      exact ⟨version, by rw [replaced, same, at_.replacePod]⟩
  · rw [written?_of_not_writesPod writing] at written
    cases written

theorem pods_of_passes (passes : Passes Replies store exchanges after) (nothing : writes exchanges = []) :
    after.pods = store.pods := by
  refine passes.keeps fun exchange member store after replied => ?_
  exact pods_of_unwritten (List.filterMap_eq_nil_iff.1 nothing exchange member) replied

-- The writes that go through reach the first pod of their name, one after the other.
theorem rewritten_of_passes (passes : Passes Replies store exchanges after)
    (wrote : writes exchanges = patches.map (key, ·)) (at_ : IsAt store.pods key place)
    (held : store.pods[place]? = some pod) :
    ∃ changed, Rewritten pod patches changed ∧ after.pods = store.pods.set place changed := by
  induction exchanges generalizing store pod patches with
  | nil =>
    obtain rfl : patches = [] := List.map_eq_nil_iff.1 wrote.symm
    obtain rfl : after = store := passes
    obtain ⟨below, is⟩ := List.getElem?_eq_some_iff.1 held
    exact ⟨pod, rfl, by rw [← is, List.set_getElem_self]⟩
  | cons exchange rest ih =>
    obtain ⟨middle, replied, later⟩ := passes
    rw [writes, List.filterMap_cons] at wrote
    cases written : written? exchange with
    | none =>
      rw [written] at wrote
      have same := pods_of_unwritten written replied
      rw [← same] at at_ held ⊢
      exact ih later wrote at_ held
    | some write =>
      rw [written] at wrote
      cases patches with
      | nil => cases wrote
      | cons patch patches =>
        obtain ⟨rfl, others⟩ := List.cons.inj wrote
        obtain ⟨version, changed⟩ := pods_of_written written replied at_ held
        have named := at_.named held
        have below := (List.getElem?_eq_some_iff.1 held).1
        have still : IsAt middle.pods key place := by
          rw [changed]
          exact at_.set named
        have now : middle.pods[place]? = some (patchedPod pod patch version) := by
          rw [changed, List.getElem?_set_self below]
        obtain ⟨last, rewritten, pods⟩ := ih later others still now
        exact ⟨last, ⟨version, rewritten⟩, by rw [pods, changed, List.set_set]⟩

structure Touches {α : Type} (node : String) (store : Store) (exchanges : List (Exchange interface))
    (outcome : Except AllocationError α) (after : Store) (claim : Claim) (place : Nat)
    (pod changed : Pod) (patches : List Patch) : Prop where
  at_ : IsAt store.pods claim.key place
  held : store.pods[place]? = some pod
  claimed : ∃ version, claim.pod = patchedPod pod claimPatch version
  listed : ∃ listed ∈ store.pods, listed.waitsOn node = true ∧ keyOf listed = claim.key ∧
    claim.originalTime = listed.annotation? assignedTime
  wrote : writes exchanges = (claimPatch :: patches).map (claim.key, ·)
  course : Course claim exchanges outcome patches
  rewritten : Rewritten pod (claimPatch :: patches) changed
  pods : after.pods = store.pods.set place changed

theorem ServesOne.touches {α : Type} {node : String} {claim : Claim}
    {outcome : Except AllocationError α} (serves : ServesOne node claim exchanges outcome patches)
    (passes : Passes Replies store exchanges after) :
    ∃ place pod changed, Touches node store exchanges outcome after claim place pod changed patches := by
  obtain ⟨claiming, rest, rfl, takes, wrote, course⟩ := serves
  have all : writes (claiming ++ rest) = (claimPatch :: patches).map (claim.key, ·) := by
    obtain ⟨before, nothing, -⟩ := takes
    rw [writes_append, writes_append, nothing, wrote]
    rfl
  obtain ⟨middle, claims, -⟩ := passes_append.1 passes
  cases takes with
  | @claimed before pods listed claimed position nothing next =>
    obtain ⟨here, quiet, _, looked, _, written, -⟩ := passes_append.1 claims
    have same := pods_of_passes quiet nothing
    obtain ⟨rfl, answered⟩ := listPods_cases looked
    obtain ⟨⟨error, ⟨⟩⟩, -⟩ | ⟨pod, version, named, is, -⟩ := patchPod_cases written
    obtain ⟨place, at_, held⟩ := exists_isAt named
    rw [same] at at_ held
    obtain ⟨changed, rewritten, replaced⟩ := rewritten_of_passes passes all at_ held
    obtain ⟨⟨⟩⟩ | ⟨error, ⟨⟩⟩ := answered
    obtain ⟨member, waits⟩ := nextPod?_mem next
    rw [same] at member
    exact ⟨place, pod, changed, at_, held, ⟨version, Except.ok.inj is⟩, ⟨listed, member, waits, rfl, rfl⟩,
      all, course, rewritten, replaced⟩

end Passing

end GpuShare.Agent.Unreliable
