import GpuShare.Agent.World
import GpuShare.Proofs.Execution
import GpuShare.Proofs.Agent.ClaimEffects

/-!
A cluster whose calls may fail at any time, each for itself. A call that fails has no effect, and one that
does not is answered from the store. Whatever else the agent asks may be answered in any way.
-/

set_option autoImplicit false

namespace GpuShare.Agent

open Cluster

namespace Unreliable

open Claiming Program

def Replies (store : Store) : (request : Request) → Answer request → Store → Prop
  | .cluster call, answer, after =>
    store.serve call = (answer, after) ∨ (∃ error, answer = .error error) ∧ after = store
  | _, _, after => after = store

section Places

variable {pods : List Pod} {key : Key} {place : Nat} {pod changed : Pod}

def IsAt (pods : List Pod) (key : Key) (place : Nat) : Prop :=
  pods.findIdx? (·.isNamed key.1 key.2) = some place

theorem isAt_cons {first : Pod} : IsAt (first :: pods) key place ↔
    if first.isNamed key.1 key.2 then place = 0 else ∃ below, place = below + 1 ∧ IsAt pods key below := by
  rw [IsAt, List.findIdx?_cons]
  split
  · simp [eq_comm]
  · rw [Option.map_eq_some_iff]
    constructor
    · rintro ⟨below, at_, rfl⟩
      exact ⟨below, rfl, at_⟩
    · rintro ⟨below, rfl, at_⟩
      exact ⟨below, at_, rfl⟩

theorem IsAt.find? (at_ : IsAt pods key place) :
    pods.find? (·.isNamed key.1 key.2) = pods[place]? := by
  induction pods generalizing place with
  | nil => simp [IsAt] at at_
  | cons first pods ih =>
    rw [isAt_cons] at at_
    rw [List.find?_cons]
    split at at_
    · next named =>
      subst at_
      rw [named]
      rfl
    · next other =>
      obtain ⟨below, rfl, at_⟩ := at_
      rw [Bool.eq_false_iff.2 other]
      exact ih at_

theorem exists_isAt (found : pods.find? (·.isNamed key.1 key.2) = some pod) :
    ∃ place, IsAt pods key place ∧ pods[place]? = some pod := by
  cases at_ : pods.findIdx? (·.isNamed key.1 key.2) with
  | none =>
    have absent := List.findIdx?_eq_none_iff.1 at_ pod (List.mem_of_find?_eq_some found)
    rw [List.find?_some found] at absent
    cases absent
  | some place => exact ⟨place, at_, (IsAt.find? at_).symm.trans found⟩

theorem IsAt.replacePod (at_ : IsAt pods key place) (changed : Pod) :
    Store.replacePod key.1 key.2 changed pods = pods.set place changed := by
  induction pods generalizing place with
  | nil => rfl
  | cons first pods ih =>
    rw [isAt_cons] at at_
    rw [Store.replacePod]
    split at at_
    · next named =>
      subst at_
      rw [if_pos named]
      rfl
    · next other =>
      obtain ⟨below, rfl, at_⟩ := at_
      rw [if_neg other, ih at_]
      rfl

theorem IsAt.named (at_ : IsAt pods key place) (held : pods[place]? = some pod) :
    pod.isNamed key.1 key.2 = true :=
  List.find?_some (at_.find?.trans held)

theorem IsAt.set (at_ : IsAt pods key place) (named : changed.isNamed key.1 key.2 = true) :
    IsAt (pods.set place changed) key place := by
  induction pods generalizing place with
  | nil => exact at_
  | cons first pods ih =>
    rw [isAt_cons] at at_
    split at at_
    · subst at_
      rw [List.set_cons_zero, isAt_cons, if_pos named]
    · next other =>
      obtain ⟨below, rfl, at_⟩ := at_
      rw [List.set_cons_succ, isAt_cons, if_neg other]
      exact ⟨below, rfl, ih at_⟩

end Places

section Calls

variable {store after : Store} {request : Request} {ns name : String} {patch : Patch}
  {guard : Option String}

theorem listPods_cases {answer : Except ClusterError (List Pod)}
    (replied : Replies store (.cluster .listPods) answer after) :
    after = store ∧ (answer = .ok store.pods ∨ ∃ error, answer = .error error) := by
  rcases replied with served | ⟨failed, rfl⟩
  · cases served
    exact ⟨rfl, .inl rfl⟩
  · exact ⟨rfl, .inr failed⟩

theorem getNode_cases {answer : Except ClusterError Node}
    (replied : Replies store (.cluster (.getNode name)) answer after) :
    after = store ∧ ((∃ node, store.nodes.get? name = some node ∧ answer = .ok node) ∨
      ∃ error, answer = .error error) := by
  rcases replied with served | ⟨failed, rfl⟩
  · rw [Store.serve] at served
    cases found : store.nodes.get? name with
    | none =>
      rw [found] at served
      cases served
      exact ⟨rfl, .inr ⟨_, rfl⟩⟩
    | some node =>
      rw [found] at served
      cases served
      exact ⟨rfl, .inl ⟨node, rfl, rfl⟩⟩
  · exact ⟨rfl, .inr failed⟩

theorem takePodConflict_keeps (store : Store) :
    store.takePodConflict.2.pods = store.pods ∧ store.takePodConflict.2.nodes = store.nodes := by
  unfold Store.takePodConflict
  split
  · exact ⟨rfl, rfl⟩
  · split <;> exact ⟨rfl, rfl⟩

theorem takeNodeConflict_keeps (store : Store) :
    store.takeNodeConflict.2.pods = store.pods ∧ store.takeNodeConflict.2.nodes = store.nodes := by
  unfold Store.takeNodeConflict
  split <;> exact ⟨rfl, rfl⟩

-- A write to a pod does nothing, or what it says to the first pod of the name.
theorem serve_patchPod (store : Store) (ns name : String) (patch : Patch) (guard : Option String) :
    (store.patchPod ns name patch guard).2.nodes = store.nodes ∧
      ((∃ error, (store.patchPod ns name patch guard).1 = .error error) ∧
          (store.patchPod ns name patch guard).2.pods = store.pods ∨
        ∃ pod version, store.findPod? ns name = some pod ∧
          (store.patchPod ns name patch guard).1 = .ok (patchedPod pod patch version) ∧
          (store.patchPod ns name patch guard).2.pods =
            Store.replacePod ns name (patchedPod pod patch version) store.pods) := by
  have taken : (if guard.isSome then store.takePodConflict else (false, store)).2.pods = store.pods ∧
      (if guard.isSome then store.takePodConflict else (false, store)).2.nodes = store.nodes := by
    split
    · exact takePodConflict_keeps store
    · exact ⟨rfl, rfl⟩
  unfold Store.patchPod
  generalize (if guard.isSome then store.takePodConflict else (false, store)) = taking at taken
  obtain ⟨conflicting, counted⟩ := taking
  obtain ⟨pods, nodes⟩ := taken
  dsimp only at pods nodes ⊢
  have same : counted.findPod? ns name = store.findPod? ns name := by
    rw [Store.findPod?, Store.findPod?, pods]
  cases conflicting with
  | true => exact ⟨nodes, .inl ⟨⟨_, rfl⟩, pods⟩⟩
  | false =>
    rw [if_neg Bool.false_ne_true]
    change _ ∧ _
    split
    · exact ⟨nodes, .inl ⟨⟨_, rfl⟩, pods⟩⟩
    · next pod found =>
      have found : counted.findPod? ns name = some pod := found
      split
      · refine ⟨nodes, .inr ⟨pod, _, same.symm.trans found, rfl, ?_⟩⟩
        rw [← pods]
        rfl
      · exact ⟨nodes, .inl ⟨⟨_, rfl⟩, pods⟩⟩

theorem patchPod_cases {answer : Except ClusterError Pod}
    (replied : Replies store (.cluster (.patchPod ns name patch guard)) answer after) :
    (∃ error, answer = .error error) ∧ after.pods = store.pods ∨
      ∃ pod version, store.findPod? ns name = some pod ∧
        answer = .ok (patchedPod pod patch version) ∧
        after.pods = Store.replacePod ns name (patchedPod pod patch version) store.pods := by
  rcases replied with served | ⟨failed, rfl⟩
  · have cases := (serve_patchPod store ns name patch guard).2
    rw [Store.serve] at served
    rwa [served] at cases
  · exact .inl ⟨failed, rfl⟩

-- A write to a node does nothing, or what it says.
theorem serve_patchNode (store : Store) (name : String) (patch : Patch) (guard : Option String) :
    (store.patchNode name patch guard).2.pods = store.pods ∧
      ((∃ error, (store.patchNode name patch guard).1 = .error error) ∧
          (store.patchNode name patch guard).2.nodes = store.nodes ∨
        ∃ node version, store.nodes.get? name = some node ∧
          (store.patchNode name patch guard).1 = .ok ⟨node.metadata.patched patch version⟩ ∧
          (store.patchNode name patch guard).2.nodes =
            store.nodes.insert name ⟨node.metadata.patched patch version⟩) := by
  have taken : (if guard.isSome then store.takeNodeConflict else (false, store)).2.pods = store.pods ∧
      (if guard.isSome then store.takeNodeConflict else (false, store)).2.nodes = store.nodes := by
    split
    · exact takeNodeConflict_keeps store
    · exact ⟨rfl, rfl⟩
  unfold Store.patchNode
  generalize (if guard.isSome then store.takeNodeConflict else (false, store)) = taking at taken
  obtain ⟨conflicting, counted⟩ := taking
  obtain ⟨pods, nodes⟩ := taken
  dsimp only at pods nodes ⊢
  cases conflicting with
  | true => exact ⟨pods, .inl ⟨⟨_, rfl⟩, nodes⟩⟩
  | false =>
    rw [if_neg Bool.false_ne_true]
    change _ ∧ _
    split
    · exact ⟨pods, .inl ⟨⟨_, rfl⟩, nodes⟩⟩
    · next node found =>
      split
      · refine ⟨pods, .inr ⟨node, _, nodes ▸ found, rfl, ?_⟩⟩
        rw [← nodes]
      · exact ⟨pods, .inl ⟨⟨_, rfl⟩, nodes⟩⟩

theorem patchNode_cases {answer : Except ClusterError Node}
    (replied : Replies store (.cluster (.patchNode name patch guard)) answer after) :
    (∃ error, answer = .error error) ∧ after.nodes = store.nodes ∨
      ∃ node version, store.nodes.get? name = some node ∧
        answer = .ok ⟨node.metadata.patched patch version⟩ ∧
        after.nodes = store.nodes.insert name ⟨node.metadata.patched patch version⟩ := by
  rcases replied with served | ⟨failed, rfl⟩
  · have cases := (serve_patchNode store name patch guard).2
    rw [Store.serve] at served
    rwa [served] at cases
  · exact .inl ⟨failed, rfl⟩

theorem pods_eq {answer : Answer request} (replied : Replies store request answer after)
    (other : ¬ request.WritesPod) : after.pods = store.pods := by
  cases request with
  | cluster call =>
    rcases replied with served | ⟨-, rfl⟩
    · cases call with
      | patchPod ns name patch guard => exact absurd trivial other
      | patchNode name patch guard =>
        have same := (serve_patchNode store name patch guard).1
        rw [Store.serve] at served
        rwa [served] at same
      | _ =>
        cases served
        rfl
    · rfl
  | _ => rw [show after = store from replied]

theorem nodes_eq {answer : Answer request} (replied : Replies store request answer after)
    (other : ¬ request.WritesNode) : after.nodes = store.nodes := by
  cases request with
  | cluster call =>
    rcases replied with served | ⟨-, rfl⟩
    · cases call with
      | patchNode name patch guard => exact absurd trivial other
      | patchPod ns name patch guard =>
        have same := (serve_patchPod store ns name patch guard).1
        rw [Store.serve] at served
        rwa [served] at same
      | _ =>
        cases served
        rfl
    · rfl
  | _ => rw [show after = store from replied]

end Calls

section Worlds

variable {α : Type}

theorem replies_serve (request : Request) (world : World) :
    Replies world.connection.store request (World.serve request world).1
      (World.serve request world).2.connection.store := by
  cases request with
  | cluster call =>
    cases failure : (takeFault call world.connection.faults).1 with
    | some error =>
      refine .inr ⟨⟨error, ?_⟩, ?_⟩
      · simp only [World.serve, Connection.serve, failure]
      · simp only [World.serve, Connection.serve, failure]
    | none =>
      refine .inl ?_
      simp only [World.serve, Connection.serve, failure]
  | exportPartition => rfl
  | applyPartition partition =>
    show _ = _
    rw [World.serve]
    split <;> rfl
  | makeSharedDirectory path =>
    show _ = _
    rw [World.serve]
    split <;> rfl
  | _ => rfl

-- Whatever is made to fail in a world, a run there is an execution.
theorem executes_world (program : Program interface α) (world : World) :
    program.Executes Replies world.connection.store (program.trace World.serve world)
      (program.run World.serve world).1 (program.run World.serve world).2.connection.store :=
  executes_run (fun world : World => world.connection.store) replies_serve program world

end Worlds

end Unreliable

end GpuShare.Agent
