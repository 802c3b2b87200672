import GpuShare.Config.Basic
import GpuShare.CommandLine.Grammar

/-!
The commands of the agent and their arguments.
-/

set_option autoImplicit false

namespace GpuShare.CommandLine

open Text

structure ClusterOptions where
  node : String
  kubeconfig : Option Path
  deriving Repr, DecidableEq

structure ConfigOptions where
  clusterFile : Option Path
  nodeFile : Path
  deriving Repr, DecidableEq

structure MonitorOptions where
  cluster : ClusterOptions
  containers : Path
  -- Seconds from one round to the next.
  interval : UInt64
  -- Whether the directories of pods that are gone are cleared away.
  asksCluster : Bool
  deriving Repr, DecidableEq

structure RegisterOptions where
  cluster : ClusterOptions
  config : ConfigOptions
  deriving Repr, DecidableEq

structure AllocateOptions where
  cluster : ClusterOptions
  config : ConfigOptions
  paths : HostPaths
  resource : String
  ids : List String
  deriving Repr, DecidableEq

structure ShowOptions where
  path : Path
  processes : Bool
  deriving Repr, DecidableEq

inductive Command where
  | monitor (options : MonitorOptions)
  | register (options : RegisterOptions)
  | allocate (options : AllocateOptions)
  | showRegion (options : ShowOptions)
  deriving Repr, DecidableEq

def defaultNodeFile : Path := ⟨"/config/config.json"⟩

/-- Seconds from one round of the monitor to the next by default. -/
def defaultInterval : UInt64 := 5

def clusterArguments : List Argument :=
  [⟨"node-name", .text, some "NODE_NAME"⟩, ⟨"kubeconfig", .path, some "KUBECONFIG"⟩]

def configArguments : List Argument :=
  [⟨"config-file", .path, some "VGPU_CONFIG_FILE"⟩,
    ⟨"node-config-file", .path, some "VGPU_NODE_CONFIG_FILE"⟩]

def containersArgument : Argument := ⟨"containers-dir", .path, some "VGPU_CONTAINERS_DIR"⟩

def monitorGrammar : Grammar :=
  { options := clusterArguments ++
      [containersArgument, ⟨"interval-secs", .number, none⟩, ⟨"enable-k8s", .truth, none⟩] }

def registerGrammar : Grammar := { options := clusterArguments ++ configArguments }

def allocateGrammar : Grammar :=
  { options := clusterArguments ++ configArguments ++
      [⟨"hook-path", .path, some "HOOK_PATH"⟩, containersArgument, ⟨"lock-dir", .path, none⟩,
        ⟨"mig-config-path", .path, none⟩, ⟨"resource", .text, none⟩, ⟨"device-ids", .list, none⟩] }

def showGrammar : Grammar :=
  { options := [⟨"processes", .switch, none⟩], places := [⟨"path", .path, none⟩] }

namespace Given

def required (given : Given) (name : String) : Except UsageError String :=
  match given.value? name with
  | some value => .ok value
  | none => .error .missingArgument

def path? (given : Given) (name : String) : Option Path := (given.value? name).map (⟨·⟩)

def cluster (given : Given) : Except UsageError ClusterOptions := do
  return ⟨← given.required "node-name", given.path? "kubeconfig"⟩

def config (given : Given) : ConfigOptions :=
  ⟨given.path? "config-file", (given.path? "node-config-file").getD defaultNodeFile⟩

def hostPaths (given : Given) : HostPaths :=
  let usual : HostPaths := {}
  { hook := (given.path? "hook-path").getD usual.hook
    containers := (given.path? "containers-dir").getD usual.containers
    lock := (given.path? "lock-dir").getD usual.lock
    migConfig := (given.path? "mig-config-path").getD usual.migConfig }

def monitor (given : Given) : Except UsageError Command := do
  return .monitor {
    cluster := ← given.cluster
    containers := given.hostPaths.containers
    interval := ((given.value? "interval-secs").bind fun word => readUInt64? word.toList).getD
      defaultInterval
    asksCluster := given.value? "enable-k8s" ≠ some "false" }

def register (given : Given) : Except UsageError Command := do
  return .register ⟨← given.cluster, given.config⟩

def allocate (given : Given) : Except UsageError Command := do
  return .allocate {
    cluster := ← given.cluster
    config := given.config
    paths := given.hostPaths
    resource := ← given.required "resource"
    ids := (given.values? "device-ids").getD [] }

def showRegion (given : Given) : Except UsageError Command := do
  return .showRegion ⟨⟨← given.required "path"⟩, (given.values? "processes").isSome⟩

end Given

inductive CommandName where
  | monitor
  | register
  | allocate
  | showRegion
  | help
  deriving Repr, DecidableEq

def CommandName.read? (word : String) : Option CommandName :=
  if word = "monitor" then some monitor
  else if word = "register" then some register
  else if word = "allocate" then some allocate
  else if word = "show-shm" then some showRegion
  else if word = "help" then some help
  else none

/-- What asking for help on a command by its name comes to. No command has commands below it. -/
def helpOn : List String → UsageError
  | [] => .help
  | [word] => if (CommandName.read? word).isSome then .help else .unknownCommand
  | _ => .unknownCommand

def CommandName.readArguments (name : CommandName) (environment : String → Option String)
    (words : List String) : Except UsageError Command :=
  match name with
  | monitor => (monitorGrammar.read environment words).bind Given.monitor
  | register => (registerGrammar.read environment words).bind Given.register
  | allocate => (allocateGrammar.read environment words).bind Given.allocate
  | showRegion => (showGrammar.read environment words).bind Given.showRegion
  | help => .error (helpOn words)

def leadingOption : List Char → UsageError
  | '-' :: rest =>
    let (name, attached) := Reading.splitOption rest
    if name = Reading.helpName then if attached.isSome then .unneededValue else .help
    else if name = "version" then if attached.isSome then .unneededValue else .version
    else .unknownArgument
  | letter :: _ =>
    if letter = Reading.helpLetter then .help else if letter = 'V' then .version
    else .unknownArgument
  | [] => .unknownCommand

def read (environment : String → Option String) (words : List String) :
    Except UsageError Command :=
  match words with
  | [] | ["--"] => .error .noCommand
  | "--" :: word :: _ =>
    .error (if (CommandName.read? word).isSome then .unknownArgument else .unknownCommand)
  | word :: rest =>
    match CommandName.read? word with
    | some name => name.readArguments environment rest
    | none =>
      match word.toList with
      | '-' :: option => .error (leadingOption option)
      | _ => .error .unknownCommand

end GpuShare.CommandLine
