import GpuShare.Agent.Allocation
import GpuShare.Agent.Lister
import GpuShare.Agent.World
import GpuShare.Proofs.File.Names
import GpuShare.Proofs.Run

/-!
An update of a lister among others: between two of its requests pods come to the node, and allocations
make the directories of their containers.
-/

set_option autoImplicit false

namespace GpuShare.Agent

open Cluster

/-- A UID and the name of a container as a cluster gives them. -/
structure NamesContainer (uid container : String) : Prop where
  plain : '_' ∉ uid.toList
  isName : IsName (uid ++ "_" ++ container)
  some_uid : uid ≠ ""
  some_container : container ≠ ""

namespace Lister

def directoryOf (lister : Lister) (uid container : String) : Path :=
  lister.directory.join (uid ++ "_" ++ container)

structure Scene where
  world : World
  rest : Program interface (Except ListerError Unit × Mapped)

def Scene.live (lister : Lister) (scene : Scene) : List String :=
  lister.podUids scene.world.connection.store.pods

inductive Step (lister : Lister) (scene : Scene) : Option Unit → Scene → Prop where
  -- Pods come to the node; whatever else there is in the cluster changes.
  | schedule (connection : Connection) :
      scene.live lister ⊆ lister.podUids connection.store.pods →
      Step lister scene none ⟨{ scene.world with connection := connection }, scene.rest⟩
  -- An allocation makes the directory of a container of a pod on the node.
  | allocate (config : AgentConfig) (pod : Pod) (container : Container) :
      config.paths.containers = lister.directory →
      pod ∈ scene.world.connection.store.pods → pod.nodeName = some lister.node →
      Step lister scene none
        ⟨(World.serve (.makeSharedDirectory (stateDirectory config pod container)) scene.world).2,
          scene.rest⟩
  | update (request : Request)
      (next : Answer request → Program interface (Except ListerError Unit × Mapped)) :
      scene.rest = .ask request next →
      Step lister scene (some ())
        ⟨(World.serve request scene.world).2, next (World.serve request scene.world).1⟩

section Transitions

def Asks (transition : Transition Scene Unit) (request : Request) : Prop :=
  transition.actor = some () ∧ ∃ next, transition.before.rest = .ask request next

def Lists (transition : Transition Scene Unit) : Prop :=
  Asks transition (.cluster .listPods) ∧
    ∃ pods, (World.serve (.cluster .listPods) transition.before.world).1 = .ok pods

def Finds (transition : Transition Scene Unit) (path : Path) : Prop :=
  Asks transition (.isDirectory path) ∧ transition.before.world.disk.isDirectory path = true

def Removes (transition : Transition Scene Unit) (path : Path) : Prop :=
  Asks transition (.removeTree path)

/-- No pod of a UID was on the node when the pods were told. -/
def WasGone (lister : Lister) (trace : List (Transition Scene Unit)) (uid : String) : Prop :=
  ∃ listing ∈ trace, Lists listing ∧ uid ∉ listing.before.live lister

/-- What a step of an update does to the directory of a container: it removes it only if the pod was gone
when the pods were told, and having found it goes on to remove it exactly then. -/
structure Clears (lister : Lister) (uid container : String)
    (earlier : List (Transition Scene Unit)) (transition : Transition Scene Unit) : Prop where
  removed : Removes transition (lister.directoryOf uid container) → WasGone lister earlier uid
  found : Finds transition (lister.directoryOf uid container) →
    ((∃ next, transition.after.rest = .ask (.removeTree (lister.directoryOf uid container)) next) ↔
      WasGone lister earlier uid)

structure RemovesLive (lister : Lister) (uid container : String)
    (transition : Transition Scene Unit) : Prop where
  removes : Removes transition (lister.directoryOf uid container)
  live : uid ∈ transition.before.live lister
  there : transition.before.world.disk.isDirectory (lister.directoryOf uid container) = true
  gone : transition.after.world.disk.isDirectory (lister.directoryOf uid container) = false

end Transitions

end Lister

end GpuShare.Agent
