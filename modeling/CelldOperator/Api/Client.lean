/-
  CelldOperator.Api.Client

  **EVERYTHING A RECONCILE PASS ASKS THE OUTSIDE WORLD.**

  A pass is a program over the operations `Op`: reads of the API server through
  the cache (`get`) and past it (`getLive`, `listPods`, `listHPAs`), conditional
  writes (`update`, `delete`), the pods' `/state` endpoint, the object store, the
  process-wide deploy-tracker cache, the clock, and the orders Go leaves open
  (completion of concurrent polls, iteration over a map).

  What is library code to this repository is a field of `Lib`: hashes, time
  formats, URL parsing, quoting.  Every result holds for all of them.
-/
import CelldOperator.Api.Objects
import CelldOperator.Effect.Prog

namespace CelldOperator

open Effect

/-! ## §1. Errors. -/

/-- An error of the client, by what the `apierrors` and `meta` predicates see, with its text. -/
inductive Err where
  | notFound (text : String)
  | conflict (text : String)
  | noMatch (text : String)
  | other (text : String)
  deriving DecidableEq

namespace Err

/-- `err.Error()`. -/
def text : Err → String
  | .notFound t | .conflict t | .noMatch t | .other t => t

/-- `fmt.Errorf("…: %w", err)`: the kind of a wrapped error is kept. -/
def wrap (pre : String) : Err → Err
  | .notFound t => .notFound (pre ++ t)
  | .conflict t => .conflict (pre ++ t)
  | .noMatch t => .noMatch (pre ++ t)
  | .other t => .other (pre ++ t)

/-- `apierrors.IsNotFound`. -/
def isNotFound : Err → Bool
  | .notFound _ => true
  | _ => false

/-- `apierrors.IsConflict`. -/
def isConflict : Err → Bool
  | .conflict _ => true
  | _ => false

/-- `meta.IsNoMatchError`. -/
def isNoMatch : Err → Bool
  | .noMatch _ => true
  | _ => false

/-- `client.IgnoreNotFound`. -/
def ignoreNotFound (e : Err) : Option Err := if e.isNotFound then none else some e

end Err

/-- `%v` of an error value that may be nil. -/
def errorText : Option Err → String
  | none => "<nil>"
  | some e => e.text

/-! ## §2. What is read besides the child objects. -/

/-- A Secret; its entries are listed in key order. -/
structure Secret where
  uid : String
  resourceVersion : Nat
  data : List (String × List UInt8)
  deriving DecidableEq

/-- `secret.Data[key]`. -/
def Secret.get (s : Secret) (key : String) : List UInt8 :=
  ((s.data.find? (·.1 == key)).map Prod.snd).getD []

/-- The scale target of a HorizontalPodAutoscaler. -/
structure HPA where
  targetKind : String
  targetName : String
  deriving DecidableEq

/-- A Gateway: its generation and the conditions of its status. -/
structure Gateway where
  generation : Nat
  conditions : List RouteCondition

/-- A complete HTTP response; `body` is the JSON value it holds, if it is one. -/
structure HttpResponse where
  status : Nat
  size : Nat
  body : Option Json

/-- A `GetObject` of the tracking client. -/
structure ObjectRequest where
  bucket : String
  key : String
  region : String
  endpoint : String
  accessKeyID : List UInt8
  secretAccessKey : List UInt8
  sessionToken : List UInt8

/-- The object it read. -/
structure StoredObject where
  size : Nat
  body : Option Json

/-- `DeploymentState`; of the draining generations only their number is used. -/
structure DeploymentState where
  version : String
  generation : Int
  draining : Nat
  swapping : Int
  deriving DecidableEq

/-- `PodState`, one `/state` sample. -/
structure PodState where
  deployment : Option DeploymentState := none
  occupied : Int := 0
  evicting : Int := 0
  restoring : Int := 0
  activating : Int := 0
  activationWaiting : Int := 0
  capacityWaiting : Int := 0
  shedding : Option String := none
  rssBytes : Int := 0
  inUseBytes : Int := 0
  cgroupWorkingSetBytes : Option Int := none
  cgroupCurrentBytes : Option Int := none
  deriving DecidableEq

/-- What the identity digest of a cache entry is taken of. -/
structure TrackerIdentity where
  appUID : String
  bucket : BucketSpec
  secretRef : String
  secretUID : String
  secretResourceVersion : Nat
  deriving DecidableEq

/-- `trackedVersion`. -/
structure TrackedVersion where
  version : String
  fetchedAt : Time
  identity : TrackerIdentity
  failure : Option Err
  deriving DecidableEq

/-- `types.NamespacedName`. -/
structure NamespacedName where
  namespace_ : String
  name : String
  deriving DecidableEq

/-- A list answer of the API server; a page count fits an `int32`. -/
abbrev PodList := { pods : List Pod // pods.length < 2 ^ 31 }

/-! ## §3. The operations. -/

/-- The operations of a pass and of the poller.  Objects are addressed in the WorkerApp's
namespace. -/
inductive Op where
  /-- `time.Now`. -/
  | now
  /-- `r.Get` of the WorkerApp. -/
  | getApp (key : NamespacedName)
  /-- `List` of the WorkerApps of all namespaces, by the poller. -/
  | listApps
  /-- `r.Status().Update`. -/
  | updateStatus (app : WorkerApp)
  /-- `Get` of a Secret; never cached. -/
  | getSecret (name : String)
  /-- `r.Get`: through the cache, unless that is disabled for the kind. -/
  | get (k : Kind) (name : String)
  /-- `r.Reader.Get`: uncached. -/
  | getLive (k : Kind) (name : String)
  | create (k : Kind) (o : Obj k)
  | update (k : Kind) (o : Obj k)
  /-- `r.Delete` with UID and resource-version preconditions. -/
  | delete (k : Kind) (name uid : String) (resourceVersion : Nat)
  /-- `r.Reader.List` of pods by labels. -/
  | listPods (labels : StrMap)
  /-- `r.Get` of a pod. -/
  | getPod (name : String)
  | listHPAs
  | getGateway (namespace_ name : String)
  /-- GET `/state` of the pod with this IP. -/
  | getState (podIP : String)
  | getObject (request : ObjectRequest)
  /-- The order in which concurrent polls complete. -/
  | completionOrder (pods : List Pod)
  /-- The iteration order over the sampled states. -/
  | rangeStates (states : List (String × PodState))
  /-- The iteration order over the route kinds. -/
  | rangeKinds (kinds : List Kind)
  | trackerLoad (key : NamespacedName)
  /-- Evict under the tracker's lock, at this poll interval, and store the entry. -/
  | trackerStore (interval : Time) (key : NamespacedName) (entry : TrackedVersion)
  | trackerForget (key : NamespacedName)

/-- The response to each operation. -/
@[reducible] def Resp : Op → Type
  | .now => Time
  | .getApp _ => Except Err WorkerApp
  | .listApps => Except Err (List WorkerApp)
  | .updateStatus _ => Except Err Unit
  | .getSecret _ => Except Err Secret
  | .get k _ | .getLive k _ | .create k _ | .update k _ => Except Err (Obj k)
  | .delete _ _ _ _ => Except Err Unit
  | .listPods _ => Except Err PodList
  | .getPod _ => Except Err Pod
  | .listHPAs => Except Err (List HPA)
  | .getGateway _ _ => Except Err Gateway
  | .getState _ => Except Err HttpResponse
  | .getObject _ => Except Err StoredObject
  | .completionOrder pods => { l : List Pod // l.Perm pods }
  | .rangeStates states => { l : List (String × PodState) // l.Perm states }
  | .rangeKinds kinds => { l : List Kind // l.Perm kinds }
  | .trackerLoad _ => Option TrackedVersion
  | .trackerStore _ _ _ | .trackerForget _ => Unit

/-- The signature of a pass. -/
@[reducible] def Api : Sig := ⟨Op, Resp⟩

/-- A program of the operator. -/
abbrev P (α : Type) := Prog Api α

/-- What a pass has exchanged so far. -/
abbrev Trace := List (Event Api)

/-- Issue one operation. -/
abbrev ask (o : Op) : P (Resp o) := Prog.req (S := Api) o

/-- `if err != nil { return …, err }`. -/
def check {α β : Type} (p : P (Except Err α)) (f : α → P (Except Err β)) : P (Except Err β) := do
  match ← p with
  | .error e => pure (.error e)
  | .ok a => f a

/-! ## §4. The operator's configuration. -/

/-- A parsed URL, as far as `validateTrust` looks. -/
structure ParsedURL where
  scheme : String
  hostname : String
  hasUser : Bool
  rawQuery : String
  fragment : String

/-- Library functions the repository calls. -/
structure Lib where
  /-- `templateHash`: hex of a SHA-256 prefix over the JSON of the template. -/
  templateHash : PodTemplate → String
  /-- The first 16 hex digits of the SHA-256 of a byte stream. -/
  digest : List UInt8 → String
  /-- `t.UTC().Format(time.RFC3339Nano)`. -/
  formatTime : Time → String
  /-- `time.Parse(time.RFC3339Nano, s)`. -/
  parseTime : String → Option Time
  /-- `url.Parse`. -/
  parseURL : String → Option ParsedURL
  /-- `%q`. -/
  quote : String → String
  /-- `json.Marshal` of a list of strings. -/
  marshalKeys : List String → String
  /-- `json.Unmarshal` into a list of strings; what was decoded when it fails. -/
  unmarshalKeys : String → List String

inductive IngressMode where
  | unset | httpRoute | virtualService | ingress | none
  deriving DecidableEq

/-- `WorkerAppReconciler`: the flags of the operator, and its libraries. -/
structure Reconciler where
  lib : Lib
  allowedImagePrefixes : List String := []
  allowedIAMRoles : List String := []
  allowedAzureClientIDs : List String := []
  allowedBucketEndpoints : List String := []
  httpRouteRetries : Bool := false
  ingressMode : IngressMode := .httpRoute
  gatewayName : String := ""
  gatewayNamespace : String := ""
  istioGateways : List String := []
  ingressClassName : String := ""
  clusterIssuer : String := ""
  prometheusURL : String := ""
  operatorNamespace : String := ""
  operatorPrincipal : String := ""
  /-- `Deploys.Interval`; `NewDeployTracker` and `main` make it positive. -/
  interval : Time := minute
  interval_pos : 0 < interval := by decide

end CelldOperator
