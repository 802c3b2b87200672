import GpuShare.Proofs.Agent.ClaimSharing

/-!
Calls that serve the same pods, played in a given order. Nothing fails but guarded writes of pods that have
changed, and everything besides the pods is empty.
-/

set_option autoImplicit false

namespace GpuShare.Agent.Claiming

open Cluster Program

def emptyAnswer : (request : Request) → Answer request
  | .cluster .listPods => .ok []
  | .cluster (.getPod ns name) => .error (.notFound (Store.podResource ns name))
  | .cluster (.patchPod ns name _ _) => .error (.notFound (Store.podResource ns name))
  | .cluster (.getNode _) => .ok default
  | .cluster (.patchNode _ _ _) => .ok default
  | .cluster (.getConfigMap _ _) => .ok none
  | .now => 0
  | .sleep _ => ()
  | .gpus => .ok []
  | .migInstances => .ok []
  | .exportPartition => .ok default
  | .applyPartition _ => .ok ()
  | .freshId => ""
  | .makeSharedDirectory _ => .ok ()
  | .readFile _ => .ok []
  | .pathExists _ => false
  | .isDirectory _ => false
  | .readDirectory _ => .ok []
  | .removeTree _ => .ok ()
  | .mapRegion _ => .ok 0

variable {ι : Type} [DecidableEq ι]

omit [DecidableEq ι] in
def Scene.respond (names : List Key) (scene : Scene ι) :
    (request : Request) → Answer request × Scene ι
  | .cluster .listPods => (.ok (names.filterMap scene.current), scene)
  | .cluster (.getPod ns name) =>
    match scene.current (ns, name) with
    | some pod => (.ok pod, scene)
    | none => (emptyAnswer _, scene)
  | .cluster (.patchPod ns name patch guard) =>
    let version := Text.decimal (scene.history (ns, name)).length
    match scene.current (ns, name) with
    | some pod =>
      if Store.guardHolds pod.metadata guard = true ∧
          ∀ old ∈ scene.history (ns, name), old.metadata.resourceVersion ≠ some version then
        (.ok (patchedPod pod patch version), scene.write (ns, name) (patchedPod pod patch version))
      else (.error (.conflict (Store.podResource ns name)), scene)
    | none => (emptyAnswer _, scene)
  | request => (emptyAnswer request, scene)

/-- The scene after each call of a schedule has asked one request in its turn. -/
def Scene.play (names : List Key) : List ι → Scene ι → Scene ι
  | [], scene => scene
  | i :: schedule, scene =>
    match (scene.calls i).rest with
    | .done _ => Scene.play names schedule scene
    | .ask request next =>
      let (answer, after) := scene.respond names request
      Scene.play names schedule
        (after.setCall i ⟨(scene.calls i).asked ++ [⟨request, answer⟩], next answer⟩)

variable {names : List Key} {start scene : Scene ι} {trace : List (Transition (Scene ι) ι)}

omit [DecidableEq ι] in
theorem respond_reply (scene : Scene ι) (request : Request) :
    Reply scene request (scene.respond names request).1 (scene.respond names request).2 := by
  cases request with
  | cluster call =>
    cases call with
    | listPods =>
      refine .listed _ fun pod member => ?_
      obtain ⟨key, -, current⟩ := List.mem_filterMap.1 member
      exact ⟨key, current⟩
    | getPod ns name =>
      cases current : scene.current (ns, name) with
      | none =>
        simp only [Scene.respond, current]
        exact .failed _ _
      | some pod =>
        simp only [Scene.respond, current]
        exact .got (ns, name) pod current
    | patchPod ns name patch guard =>
      cases current : scene.current (ns, name) with
      | none =>
        simp only [Scene.respond, current]
        exact .failed _ _
      | some pod =>
        simp only [Scene.respond, current]
        split
        · next allowed => exact .written (ns, name) pod patch guard _ current allowed.1 allowed.2
        · exact .failed _ _
    | getNode name => exact .other _ _ id
    | patchNode name patch guard => exact .other _ _ id
    | getConfigMap ns name => exact .other _ _ id
  | _ => exact .other _ _ id

-- Playing a schedule is a run.
theorem run_play (schedule : List ι) (run : Run Step start trace scene) :
    ∃ trace, Run Step start trace (scene.play names schedule) := by
  induction schedule generalizing trace scene with
  | nil => exact ⟨trace, run⟩
  | cons i schedule ih =>
    unfold Scene.play
    split
    · exact ih run
    · next request next busy =>
      exact ih (run.step (.call i request next _ _ busy (respond_reply scene request)))

end GpuShare.Agent.Claiming
