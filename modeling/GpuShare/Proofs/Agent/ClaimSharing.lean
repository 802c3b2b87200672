import Mathlib.Logic.Function.Basic
import GpuShare.Cluster.Store
import GpuShare.Proofs.Run
import GpuShare.Proofs.Agent.ClaimProtocol

/-!
Calls for shares of devices that serve the same pods. Each asks one request at a time and the others go on
in between. A call on the cluster is answered at once, from the pods as they are; it may also fail, and
then has no effect. Everything else a call asks may be answered in any way, so the lock of the node keeps
nobody out.
-/

set_option autoImplicit false

namespace GpuShare.Agent.Claiming

open Cluster Wire Program

/-- What a call has asked and was answered, in order, and what is left of it. -/
structure Progress where
  asked : List (Exchange interface)
  rest : Program interface Result

/-- What each pod has been, the latest first, and the calls. -/
structure Scene (ι : Type) where
  history : Key → List Pod
  calls : ι → Progress

def patchedPod (pod : Pod) (patch : Patch) (version : String) : Pod :=
  { pod with metadata := pod.metadata.patched patch version }

def grantsAt (pod : Pod) (position : Nat) : List Grant :=
  match Grants.decode ((pod.annotation? devicesToAllocate).getD "") with
  | .ok grants => grants.atContainer position
  | .error _ => []

variable {ι : Type}

namespace Scene

def current (scene : Scene ι) (key : Key) : Option Pod := (scene.history key).head?

def grants (scene : Scene ι) (key : Key) (position : Nat) : List Grant :=
  match scene.current key with
  | some pod => grantsAt pod position
  | none => []

def entries (scene : Scene ι) (key : Key) (position : Nat) : List Grant :=
  (scene.grants key position).filter (·.isOf nvidia)

def write (scene : Scene ι) (key : Key) (pod : Pod) : Scene ι :=
  { scene with history := Function.update scene.history key (pod :: scene.history key) }

def setCall [DecidableEq ι] (scene : Scene ι) (i : ι) (progress : Progress) : Scene ι :=
  { scene with calls := Function.update scene.calls i progress }

end Scene

def IsNew (history : List Pod) (version : String) : Prop :=
  ∀ old ∈ history, old.metadata.resourceVersion ≠ some version

inductive Reply (scene : Scene ι) : (request : Request) → Answer request → Scene ι → Prop where
  | listed (pods : List Pod) : (∀ pod ∈ pods, ∃ key, scene.current key = some pod) →
      Reply scene (.cluster .listPods) (.ok pods) scene
  | got (key : Key) (pod : Pod) : scene.current key = some pod →
      Reply scene (.cluster (.getPod key.1 key.2)) (.ok pod) scene
  | written (key : Key) (pod : Pod) (patch : Patch) (guard : Option String) (version : String) :
      scene.current key = some pod → Store.guardHolds pod.metadata guard →
      IsNew (scene.history key) version →
      Reply scene (.cluster (.patchPod key.1 key.2 patch guard)) (.ok (patchedPod pod patch version))
        (scene.write key (patchedPod pod patch version))
  | failed (call : Call) (error : ClusterError) : Reply scene (.cluster call) (.error error) scene
  | other (request : Request) (answer : Answer request) : request.IsQuiet →
      Reply scene request answer scene

/-- One step of a call, or a change of a pod that leaves its annotations alone. -/
inductive Step [DecidableEq ι] (scene : Scene ι) : Option ι → Scene ι → Prop where
  | call (i : ι) (request : Request) (next : Answer request → Program interface Result)
      (answer : Answer request) (after : Scene ι) :
      (scene.calls i).rest = .ask request next → Reply scene request answer after →
      Step scene (some i)
        (after.setCall i ⟨(scene.calls i).asked ++ [⟨request, answer⟩], next answer⟩)
  | foreign (key : Key) (pod changed : Pod) (version : String) : scene.current key = some pod →
      keyOf changed = key → changed.metadata.annotations = pod.metadata.annotations →
      changed.metadata.resourceVersion = some version → IsNew (scene.history key) version →
      Step scene none (scene.write key changed)

structure Recorded (key : Key) (history : List Pod) : Prop where
  named : ∀ pod ∈ history, keyOf pod = key
  versioned : ∀ pod ∈ history, ∃ version, pod.metadata.resourceVersion = some version
  distinct : history.Pairwise fun later earlier =>
    later.metadata.resourceVersion ≠ earlier.metadata.resourceVersion

structure Scene.IsInitial (orders : ι → Order) (scene : Scene ι) : Prop where
  recorded : ∀ key, Recorded key (scene.history key)
  calls : ∀ i, scene.calls i = ⟨[], (orders i).program⟩

def Claims (key : Key) (exchange : Exchange interface) : Prop :=
  ∃ guard pod, exchange = ⟨.cluster (.patchPod key.1 key.2 claimPatch guard), .ok pod⟩

def Writes (key : Key) (request : Request) : Prop :=
  ∃ patch guard, request = .cluster (.patchPod key.1 key.2 patch guard)

/-- A call is between its claim of a pod and its last write to it. -/
def Holds (scene : Scene ι) (i : ι) (key : Key) : Prop :=
  (∃ exchange ∈ (scene.calls i).asked, Claims key exchange) ∧
    (scene.calls i).rest.MayAsk (Writes key)

/-- A step of a call that takes all entries of a container from its pod, and nothing else. -/
structure Erases (transition : Transition (Scene ι) ι) (i : ι) (key : Key) (position : Nat) : Prop where
  actor : transition.actor = some i
  entries : transition.before.entries key position ≠ []
  rest : ∀ other place, transition.after.grants other place =
    if other = key ∧ place = position then
      (transition.before.grants key position).filter (!·.isOf nvidia)
    else transition.before.grants other place

/-- A response is made of the entries that a step erased, with the devices that the call resolved for
them. -/
def IsMadeOf (order : Order) (asked : List (Exchange interface)) (response : ContainerResponse)
    (transition : Transition (Scene ι) ι) (key : Key) (position : Nat) : Prop :=
  ∃ pod container events ids, transition.before.current key = some pod ∧
    pod.containers[position]? = some container ∧ events <:+: asked ∧
    Resolves order (transition.before.entries key position) events ids ∧
    Answers order.config pod container (transition.before.entries key position) ids response

end GpuShare.Agent.Claiming
