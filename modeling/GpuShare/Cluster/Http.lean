import GpuShare.Json.Reader
import GpuShare.Cluster.Call
import GpuShare.Cluster.Document

/-!
Calls on the API server as HTTP: the request that a call becomes, and what a response to it says.
-/

set_option autoImplicit false

namespace GpuShare.Cluster.Http

open Json

structure Request where
  method : String
  path : String
  contentType : Option String
  body : Option Value

structure Response where
  status : Nat
  body : String

def get (path : String) : Request := ⟨"GET", path, none, none⟩

def mergePatch (path : String) (patch : Patch) (version : Option String) : Request :=
  ⟨"PATCH", path, some "application/merge-patch+json", some (patch.toJson version)⟩

def podsPath (ns : String) : String := "/api/v1/namespaces/" ++ ns ++ "/pods/"

def nodesPath : String := "/api/v1/nodes/"

def configMapsPath (ns : String) : String := "/api/v1/namespaces/" ++ ns ++ "/configmaps/"

def objectName? : Call → Option String
  | .listPods => none
  | .getPod _ name | .patchPod _ name _ _ | .getNode name | .patchNode name _ _
  | .getConfigMap _ name => some name

def Request.ofCall : Call → Request
  | .listPods => get "/api/v1/pods"
  | .getPod ns name => get (podsPath ns ++ name)
  | .patchPod ns name patch version => mergePatch (podsPath ns ++ name) patch version
  | .getNode name => get (nodesPath ++ name)
  | .patchNode name patch version => mergePatch (nodesPath ++ name) patch version
  | .getConfigMap ns name => get (configMapsPath ns ++ name)

def isPathChar (c : Char) : Bool := '!' ≤ c && c ≤ '~' && !(['<', '>', '\x60'].contains c)

/-- The part of a target that is its path: what comes before a query or a fragment. -/
def pathOf (target : String) : List Char := target.toList.takeWhile fun c => c != '?' && c != '#'

/-- The request of a call, if it can be sent: an object needs a name, and the path may only hold
characters that stand for themselves. -/
def request? (call : Call) : Option Request :=
  let request := Request.ofCall call
  if objectName? call = some "" then none
  else if (pathOf request.path).all isPathChar then
    some { request with path := String.ofList (pathOf request.path) }
  else none

def resource (call : Call) : String :=
  match call with
  | .listPods => "pods"
  | .getPod .. | .patchPod .. => "pod " ++ call.target
  | .getNode .. | .patchNode .. => "node " ++ call.target
  | .getConfigMap .. => "configmap " ++ call.target

structure Refusal where
  code : Nat
  reason : String
  deriving Repr, DecidableEq

def Refusal.ofJson? (value : Value) : Option Refusal := do
  let fields ← value.fields? ["status", "message", "reason", "code"]
  match fields with
  | [status, message, reason, code] =>
    let _ ← Value.required? Value.string? status
    let _ ← Value.orElse? "" Value.string? message
    let reason ← Value.orElse? "" Value.string? reason
    let code ← Value.required? Value.int? code
    if 0 ≤ code ∧ code < 65536 then return ⟨code.toNat, reason⟩ else none
  | _ => none

/-- The refusal that a response is, if its status says that it is one. A body of another form leaves
only the status. -/
def refusal? (response : Response) : Option Refusal :=
  if 400 ≤ response.status ∧ response.status < 600 then
    some (((parse? response.body).bind Refusal.ofJson?).getD
      ⟨response.status, "Failed to parse error data"⟩)
  else none

def Refusal.error (refusal : Refusal) (call : Call) : ClusterError :=
  if refusal.code = 404 then .notFound (resource call)
  else if refusal.code = 409 then .conflict (resource call)
  else .requestFailed ("request on " ++ resource call ++ " failed")

def unusable (call : Call) : ClusterError :=
  .requestFailed ("request on " ++ resource call ++ " failed")

def reply? : (call : Call) → Value → Option call.Reply
  | .listPods, body => podList? body
  | .getPod .., body => Pod.ofJson? body
  | .patchPod .., body => Pod.ofJson? body
  | .getNode .., body => Node.ofJson? body
  | .patchNode .., body => Node.ofJson? body
  | .getConfigMap .., body => (configData? body).map some

/-- What a refusal means for a call: a ConfigMap that is refused as not found does not exist. -/
def refused (refusal : Refusal) : (call : Call) → call.Answer
  | .getConfigMap ns name =>
    if refusal.reason = "NotFound" then .ok none
    else .error (refusal.error (.getConfigMap ns name))
  | .listPods => .error (refusal.error .listPods)
  | .getPod ns name => .error (refusal.error (.getPod ns name))
  | .patchPod ns name patch version => .error (refusal.error (.patchPod ns name patch version))
  | .getNode name => .error (refusal.error (.getNode name))
  | .patchNode name patch version => .error (refusal.error (.patchNode name patch version))

/-- The answer to a call, given the response; none if the server could not be reached. -/
def answer (call : Call) : Option Response → call.Answer
  | none => .error (unusable call)
  | some response =>
    match refusal? response with
    | some refusal => refused refusal call
    | none =>
      match (parse? response.body).bind (reply? call) with
      | some reply => .ok reply
      | none => .error (unusable call)

end GpuShare.Cluster.Http
