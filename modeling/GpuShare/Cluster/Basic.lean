import GpuShare.Dictionary

/-!
The objects of the cluster as far as the agent looks at them: pods, nodes, and patches of their
annotations.
-/

set_option autoImplicit false

namespace GpuShare.Cluster

abbrev Labels := Dictionary String

structure Metadata where
  ns : Option String
  name : Option String
  uid : Option String
  resourceVersion : Option String
  annotations : Option Labels
  deriving Repr, DecidableEq, Inhabited

def Metadata.annotation? (metadata : Metadata) (key : String) : Option String :=
  metadata.annotations.bind (·.get? key)

structure Variable where
  name : String
  value : Option String
  deriving Repr, DecidableEq

structure Container where
  name : String
  env : List Variable
  -- Resource limits by resource name, as quantities are written.
  limits : Labels
  deriving Repr, DecidableEq

structure PodSpec where
  nodeName : Option String
  containers : List Container
  deriving Repr, DecidableEq

structure Pod where
  metadata : Metadata
  spec : Option PodSpec
  deriving Repr, DecidableEq, Inhabited

structure Node where
  metadata : Metadata
  deriving Repr, DecidableEq, Inhabited

def Pod.nodeName (pod : Pod) : Option String := pod.spec.bind (·.nodeName)

def Pod.containers (pod : Pod) : List Container :=
  match pod.spec with
  | none => []
  | some spec => spec.containers

def Pod.isNamed (ns name : String) (pod : Pod) : Bool :=
  pod.metadata.ns == some ns && pod.metadata.name == some name

/-- Changes of annotations: a value to set, or none for a key to remove. -/
abbrev Patch := Dictionary (Option String)

def Patch.one (key : String) (value : Option String) : Patch := Dictionary.empty.insert key value

def applyChange (labels : Labels) (change : String × Option String) : Labels :=
  match change.2 with
  | some value => labels.insert change.1 value
  | none => labels.erase change.1

def Patch.apply (patch : Patch) (labels : Labels) : Labels :=
  patch.entries.foldl applyChange labels

def Metadata.patched (metadata : Metadata) (patch : Patch) (version : String) : Metadata :=
  { metadata with
    annotations := some (patch.apply (metadata.annotations.getD .empty))
    resourceVersion := some version }

end GpuShare.Cluster
