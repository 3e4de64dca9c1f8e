/-
  CelldOperator.Controller.Ensure

  **WRITING CHILD OBJECTS** (`workerapp_controller.go`).

  Two helpers carry almost every write: `ensureObject` for typed objects, which
  mutates a read copy and skips the write when nothing changed, and
  `ensureUnstructured` for CRDs, which merges metadata and replaces the spec.
  Deletions (`removeObsoleteRoutes`, the disabled scaler) name the UID and the
  resource version of the copy they were decided on.
-/
import CelldOperator.Api.Receiver
import CelldOperator.Build.Resources
import Mathlib.Data.Finset.Sort
import Mathlib.Data.String.Basic

namespace CelldOperator

open Effect Prog

/-! ## §1. Ownership. -/

/-- `%T` of a child object. -/
def Kind.goType : Kind → String
  | .serviceAccount => "*v1.ServiceAccount"
  | .internalService | .publicService => "*v1.Service"
  | .networkPolicy => "*v1.NetworkPolicy"
  | .podDisruptionBudget => "*v1.PodDisruptionBudget"
  | .statefulSet => "*v1.StatefulSet"
  | .ingress => "*v1.Ingress"
  | .httpRoute => "*v1.HTTPRoute"
  | .virtualService | .authorizationPolicy | .scaledObject => "*unstructured.Unstructured"

/-- `requireOwnership`: a name collision must not modify another workload. -/
def requireOwnership {k : Kind} (app : WorkerApp) (o : Obj k) : Except Err Unit :=
  if isControlledBy o.metadata.ownerReferences app.uid then .ok ()
  else .error (.other ("refusing to modify " ++ k.goType ++ " " ++ app.namespace_ ++ "/" ++
    o.metadata.name ++ ": not controlled by WorkerApp " ++ app.namespace_ ++ "/" ++ app.name))

/-! ## §2. Managed annotations. -/

def managedAnnotationsKey : String := "celld-operator.io/managed-annotations"

/-- Ingress keys of releases that kept no inventory. -/
def legacyIngressKeys : List String :=
  ["nginx.ingress.kubernetes.io/proxy-read-timeout",
   "nginx.ingress.kubernetes.io/proxy-send-timeout", "cert-manager.io/cluster-issuer"]

/-- `reconcileAnnotations`: drop the keys of the last inventory that are no longer desired, set
the desired ones, and write the new inventory. -/
def reconcileAnnotations (lib : Lib) (k : Kind) (annotations desired : StrMap) : StrMap :=
  let keys := lib.unmarshalKeys (annotations.get managedAnnotationsKey) ++
    (if k = .ingress then legacyIngressKeys else [])
  let kept := (keys.filter (fun key => !decide (key ∈ desired))).foldl
    (fun m key => m.erase key) annotations
  let owned := desired.erase managedAnnotationsKey
  (mergeStringMaps kept owned).insert managedAnnotationsKey
    (lib.marshalKeys (owned.keys.sort (· ≤ ·)))

/-! ## §3. The two write helpers. -/

/-- The kinds whose annotations carry an inventory. -/
def Kind.hasInventory : Kind → Bool
  | .internalService | .publicService | .ingress => true
  | _ => false

/-- The object `ensureObject` wants: inventory and owner filled in. -/
def prepare {k : Kind} (r : Reconciler) (app : WorkerApp) (desired : Obj k) : Obj k :=
  setControllerReference app
    (if k.hasInventory then
      { desired with metadata := { desired.metadata with
          annotations := reconcileAnnotations r.lib k desired.metadata.annotations
            desired.metadata.annotations } }
    else desired)

/-- The copy `ensureObject` would write: the caller's mutation, then the labels. -/
def mutated {k : Kind} (mutate : Obj k → Obj k → Obj k) (live desired : Obj k) : Obj k :=
  let o := mutate live desired
  { o with metadata := { o.metadata with
      labels := mergeStringMaps o.metadata.labels desired.metadata.labels } }

/-- `ensureObject`; it returns `desired` as the call leaves it.  Both the read and the creation
write into an object that is filled already: the read into a copy of `desired`, owner
included, the creation into `desired` itself. -/
def ensureObject {k : Kind} (r : Reconciler) (app : WorkerApp) (desired : Obj k)
    (mutate : Obj k → Obj k → Obj k) : P (Except Err (Obj k)) := do
  let desired := prepare r app desired
  match ← ask (.get k desired.metadata.name) with
  | .error e =>
    if e.isNotFound then
      check (ask (.create k desired)) fun stored => pure (.ok (receive desired stored))
    else pure (.error e)
  | .ok found =>
    let live := receive desired found
    match requireOwnership app live with
    | .error e => pure (.error e)
    | .ok () =>
      if mutated mutate live desired = live then pure (.ok desired)
      else check (ask (.update k (mutated mutate live desired))) fun _ => pure (.ok desired)

/-- The live object already carries our spec and metadata. -/
def inPlace {k : Kind} (live desired : Obj k) : Bool :=
  decide (live.spec = desired.spec) &&
    stringMapSubset desired.metadata.labels live.metadata.labels &&
    stringMapSubset desired.metadata.annotations live.metadata.annotations

/-- The copy `ensureUnstructured` writes. -/
def overlaid {k : Kind} (live desired : Obj k) : Obj k :=
  { live with
    spec := desired.spec
    metadata := { live.metadata with
      labels := mergeStringMaps live.metadata.labels desired.metadata.labels
      annotations := mergeStringMaps live.metadata.annotations desired.metadata.annotations } }

/-- `ensureUnstructured`. -/
def ensureUnstructured {k : Kind} (app : WorkerApp) (desired : Obj k) : P (Except Err Unit) := do
  let desired := setControllerReference app desired
  match ← ask (.get k desired.metadata.name) with
  | .error e =>
    if e.isNotFound then check (ask (.create k desired)) fun _ => pure (.ok ())
    else pure (.error e)
  | .ok live =>
    match requireOwnership app live with
    | .error e => pure (.error e)
    | .ok () =>
      if inPlace live desired then pure (.ok ())
      else check (ask (.update k (overlaid live desired))) fun _ => pure (.ok ())

/-! ## §4. Foundation objects. -/

/-- The service account's mutation: foreign annotations survive, an identity that is no longer
wanted does not, unless provisioning is left to others (`iamRole: auto`). -/
def mutateServiceAccount (app : WorkerApp) (live desired : Obj .serviceAccount) :
    Obj .serviceAccount :=
  let merged := mergeStringMaps live.metadata.annotations desired.metadata.annotations
  let dropped := [ roleArnAnnotation, azureClientIDAnnotation].filter fun key =>
    !decide (key ∈ desired.metadata.annotations) &&
      app.spec.bucket.credentialsFrom.iamRole != iamRoleAuto
  { live with metadata := { live.metadata with
      annotations := dropped.foldl (fun m key => m.erase key) merged } }

/-- The internal service's mutation. -/
def mutateInternalService (live desired : Obj .internalService) : Obj .internalService :=
  let l : ServiceSpec := live.spec
  let d : ServiceSpec := desired.spec
  { live with spec := ({ l with
      selector := d.selector
      ports := d.ports
      publishNotReadyAddresses := d.publishNotReadyAddresses } : ServiceSpec) }

/-- Keep the node port the API server allocated for the port of this name. -/
def keepNodePort (livePorts : List ServicePort) (port : ServicePort) : ServicePort :=
  livePorts.foldl (fun d l => if l.name = port.name then { d with nodePort := l.nodePort } else d)
    port

/-- The public service's mutation. -/
def mutatePublicService (lib : Lib) (live desired : Obj .publicService) : Obj .publicService :=
  let l : ServiceSpec := live.spec
  let d : ServiceSpec := desired.spec
  let ports := if d.type = .nodePort ∨ d.type = .loadBalancer then
    d.ports.map (keepNodePort l.ports) else d.ports
  { live with
    spec := ({ l with selector := d.selector, ports := ports, type := d.type } : ServiceSpec)
    metadata := { live.metadata with
      annotations := reconcileAnnotations lib .publicService live.metadata.annotations
        desired.metadata.annotations } }

/-- The mutations that take the whole desired spec: network policy, disruption budget and
HTTPRoute. -/
def replaceSpec {k : Kind} (live desired : Obj k) : Obj k := { live with spec := desired.spec }

/-- The credentials condition. -/
def credentialsCondition (app : WorkerApp) : Condition :=
  if app.spec.bucket.credentialsFrom.iamRole = iamRoleAuto then
    { type := "BucketCredentialsReady", status := .false_
      reason := "ProvisioningNotImplemented"
      message := "iamRole: auto is not implemented; annotate ServiceAccount " ++ fleetName app ++
        " with the role for prefix " ++ app.spec.bucket.name }
  else { type := "BucketCredentialsReady", status := .true_, reason := "Configured" }

/-- An error of one of the ensure calls, under its heading. -/
def headed {α : Type} (heading : String) (p : P (Except Err α)) : P (Except Err α) := do
  match ← p with
  | .error e => pure (.error (e.wrap (heading ++ ": ")))
  | .ok a => pure (.ok a)

/-- `ensureFoundation`; it returns the conditions it appends. -/
def ensureFoundation (r : Reconciler) (app : WorkerApp) : P (Except Err (List Condition)) :=
  check (headed "service account"
    (ensureObject r app (buildServiceAccount app) (mutateServiceAccount app))) fun _ =>
  check (headed "internal service"
    (ensureObject r app (buildInternalService app) mutateInternalService)) fun _ =>
  check (headed "public service"
    (ensureObject r app (buildPublicService app) (mutatePublicService r.lib))) fun _ =>
  check (headed "network policy"
    (ensureObject r app (buildNetworkPolicy app r.operatorNamespace) replaceSpec)) fun _ =>
  check (headed "pod disruption budget"
    (ensureObject r app (buildPDB app) replaceSpec)) fun _ =>
  pure (.ok [credentialsCondition app])

/-! ## §5. Routes. -/

/-- A failed ensure call as a condition: the CRD is missing, or something transient. -/
def failedCondition (type unavailable unavailableText failed : String) (e : Err) :
    Bool × List Condition :=
  if e.isNoMatch then
    (false, [{ type := type, status := .false_, reason := unavailable
               message := unavailableText }])
  else (true, [{ type := type, status := .false_, reason := failed, message := e.text }])

/-- `removeObsoleteRoutes`, the loop over the route kinds in some order. -/
def removeRoutes (app : WorkerApp) (mode : Option Kind) : List Kind → P (Except Err Unit)
  | [] => pure (.ok ())
  | kind :: kinds =>
    if some kind = mode then removeRoutes app mode kinds
    else do
      match ← ask (.getLive kind (fleetName app)) with
      | .error e =>
        if e.isNotFound || e.isNoMatch then removeRoutes app mode kinds else pure (.error e)
      | .ok o =>
        if !isControlledBy o.metadata.ownerReferences app.uid then
          removeRoutes app mode kinds
        else
          match ← ask (.delete kind (fleetName app) o.metadata.uid
            o.metadata.resourceVersion) with
          | .ok () => removeRoutes app mode kinds
          | .error e =>
            if e.isNotFound then removeRoutes app mode kinds else pure (.error e)

/-- The route kind the flags and the spec ask for. -/
def routeKind (r : Reconciler) (app : WorkerApp) : Option Kind :=
  if app.spec.hostnames.isEmpty then none
  else
    match r.ingressMode with
    | .unset | .httpRoute => some .httpRoute
    | .virtualService => some .virtualService
    | .ingress => some .ingress
    | .none => none

/-- `removeObsoleteRoutes`. -/
def removeObsoleteRoutes (r : Reconciler) (app : WorkerApp) : P (Except Err Unit) := do
  let kinds ← ask (.rangeKinds [.ingress, .httpRoute, .virtualService])
  removeRoutes app (routeKind r app) kinds.val

/-- `ensureV1Ingress`. -/
def ensureV1Ingress (r : Reconciler) (app : WorkerApp) : P (Bool × List Condition) := do
  let result ← ensureObject r app (buildIngress app r.ingressClassName r.clusterIssuer)
    (fun live desired =>
      { live with
        spec := desired.spec
        metadata := { live.metadata with
          annotations := reconcileAnnotations r.lib .ingress live.metadata.annotations
            desired.metadata.annotations } })
  match result with
  | .error e =>
    pure (true, [{ type := "IngressReady", status := .false_, reason := "RouteError"
                   message := e.text }])
  | .ok _ =>
    pure (false, [{ type := "IngressReady", status := .unknown, reason := "IngressReconciled"
                    message := "Ingress configuration reconciled; check ingress controller " ++
                      "readiness" }])

/-- `ensureVirtualService`. -/
def ensureVirtualService (r : Reconciler) (app : WorkerApp) : P (Bool × List Condition) := do
  match ← ensureUnstructured app (buildVirtualService app r.istioGateways) with
  | .ok () =>
    pure (false, [{ type := "IngressReady", status := .unknown
                    reason := "VirtualServiceReconciled"
                    message := "VirtualService reconciled; verify gateway programming" }])
  | .error e =>
    pure (failedCondition "IngressReady" "IstioUnavailable"
      "networking.istio.io CRDs are not installed; hostnames are not routed" "RouteError" e)

end CelldOperator
