/-
  CelldOperator.Controller.Edge

  Routes, mesh policy and autoscaler (`workerapp_controller.go`).  Each ensure
  function returns whether it hit a transient error, and the conditions it
  appends; a missing CRD is reported, not retried.
-/
import CelldOperator.Controller.Ensure

namespace CelldOperator

open Effect Prog

/-! ## §1. The Gateway API route. -/

def retryRequestedAnnotation : String := "celld-operator.io/retry-requested"

def retryRecheckAnnotation : String := "celld-operator.io/retry-recheck-after"

/-- The live route has a rule, and its first rule has lost the retry. -/
def firstRetryMissing (route : Obj .httpRoute) : Bool :=
  match (show HTTPRouteSpec from route.spec).rules with
  | rule :: _ => rule.retry.isNone
  | [] => false

/-- The route without any retry. -/
def withoutRetries (route : Obj .httpRoute) : Obj .httpRoute :=
  let spec : HTTPRouteSpec := route.spec
  { route with spec := ({ spec with
      rules := spec.rules.map (fun rule => { rule with retry := none }) } : HTTPRouteSpec) }

/-- The route with its annotations changed. -/
def annotate {k : Kind} (o : Obj k) (f : StrMap → StrMap) : Obj k :=
  { o with metadata := { o.metadata with annotations := f o.metadata.annotations } }

/-- The part of `configureHTTPRouteRetries` behind a pruned retry: keep the latch until the
persisted deadline, then clear it. -/
def latchRetries (lib : Lib) (live route : Obj .httpRoute) : P (Obj .httpRoute) := do
  let deadline ← match lib.parseTime
      (live.metadata.annotations.get retryRecheckAnnotation) with
    | some deadline => pure deadline
    | none => do
      let now ← ask .now
      pure (now + 5 * minute)
  let now ← ask .now
  if now < deadline then
    pure (annotate route (·.insert retryRecheckAnnotation (lib.formatTime deadline)))
  else pure (annotate route (·.erase retryRequestedAnnotation))

/-- `configureHTTPRouteRetries`: the route to ensure, and whether the retry was pruned. -/
def configureHTTPRouteRetries (r : Reconciler) (route : Obj .httpRoute) :
    P (Obj .httpRoute × Bool) :=
  if !r.httpRouteRetries then pure (withoutRetries route, false)
  else do
    let route := annotate route (·.insert retryRequestedAnnotation annotationTrue)
    match ← ask (.get .httpRoute route.metadata.name) with
    | .error _ => pure (route, false)
    | .ok live =>
      if live.metadata.annotations.get retryRequestedAnnotation = annotationTrue ∧
          firstRetryMissing live then do
        let latched ← latchRetries r.lib live route
        pure (withoutRetries latched, true)
      else pure (route, false)

/-- `httpRouteRetryDropped`; an error of the check counts as "not dropped" with its caller. -/
def httpRouteRetryDropped (desired : Obj .httpRoute) : P Bool :=
  match (show HTTPRouteSpec from desired.spec).rules with
  | [] => pure false
  | rule :: _ =>
    if rule.retry.isNone then pure false
    else do
      match ← ask (.get .httpRoute desired.metadata.name) with
      | .error _ => pure false
      | .ok live => pure (firstRetryMissing live)

/-- The last condition of a type that was observed at this generation is True. -/
def observedTrue (conditions : List RouteCondition) (generation : Nat) (type : String) : Bool :=
  match (conditions.filter
      (fun c => c.observedGeneration == generation && c.type == type)).getLast? with
  | some c => c.status == .true_
  | none => false

/-- The loop of `httpRouteReady` over the parents of the live route. -/
def parentsReady (r : Reconciler) (namespace_ : String) (generation : Nat) :
    List RouteParentStatus → P ConditionStatus
  | [] => pure .false_
  | parent :: parents =>
    let parentNamespace := parent.namespace_.getD namespace_
    if parent.name ≠ r.gatewayName ∨ parentNamespace ≠ r.gatewayNamespace then
      parentsReady r namespace_ generation parents
    else if observedTrue parent.conditions generation "Accepted" &&
        observedTrue parent.conditions generation "ResolvedRefs" then do
      match ← ask (.getGateway parentNamespace parent.name) with
      | .error _ => pure .unknown
      | .ok gateway =>
        if gateway.conditions.any (fun c => c.type == "Programmed" &&
            c.observedGeneration == gateway.generation && c.status == .true_) then
          pure .true_
        else parentsReady r namespace_ generation parents
    else parentsReady r namespace_ generation parents

/-- `httpRouteReady`. -/
def httpRouteReady (r : Reconciler) (app : WorkerApp) (desired : Obj .httpRoute) :
    P ConditionStatus := do
  match ← ask (.getLive .httpRoute desired.metadata.name) with
  | .error _ => pure .unknown
  | .ok live => parentsReady r app.namespace_ live.metadata.generation live.status

/-- `ensureHTTPRoute`. -/
def ensureHTTPRoute (r : Reconciler) (app : WorkerApp) : P (Bool × List Condition) := do
  let (route, retryDropped) ← configureHTTPRouteRetries r
    (buildHTTPRoute app r.gatewayName r.gatewayNamespace)
  match ← ensureObject r app route replaceSpec with
  | .ok route =>
    let dropped ← httpRouteRetryDropped route
    if retryDropped || dropped then
      pure (true, [{ type := "IngressReady", status := .false_
                     reason := "RouteReconciledRetryDropped"
                     message := "cluster Gateway API CRDs dropped the retry field (standard " ++
                       "channel); drain 503s are not retried at the gateway" }])
    else
      let status ← httpRouteReady r app route
      pure (false, [{ type := "IngressReady", status := status, reason := "RouteObserved" }])
  | .error e =>
    pure (failedCondition "IngressReady" "GatewayAPIUnavailable"
      "gateway.networking.k8s.io CRDs are not installed; hostnames are not routed"
      "RouteError" e)

/-- `ensureIngress`. -/
def ensureIngress (r : Reconciler) (app : WorkerApp) : P (Bool × List Condition) := do
  match ← removeObsoleteRoutes r app with
  | .error e =>
    pure (true, [{ type := "IngressReady", status := .false_, reason := "RouteError"
                   message := e.text }])
  | .ok () =>
    if app.spec.hostnames.isEmpty then pure (false, [])
    else
      match r.ingressMode with
      | .none => pure (false, [])
      | .virtualService => ensureVirtualService r app
      | .ingress => ensureV1Ingress r app
      | .unset | .httpRoute => ensureHTTPRoute r app

/-! ## §2. Mesh policy. -/

/-- `ensureAuthorizationPolicy`. -/
def ensureAuthorizationPolicy (r : Reconciler) (app : WorkerApp) :
    P (Bool × List Condition) := do
  match ← ensureUnstructured app (buildAuthorizationPolicy app r.operatorPrincipal) with
  | .ok () =>
    pure (false, [{ type := "MeshPolicyReady", status := .true_, reason := "PolicyReconciled" }])
  | .error e =>
    pure (failedCondition "MeshPolicyReady" "IstioUnavailable"
      ("security.istio.io CRDs are not installed; NetworkPolicy alone guards the internal " ++
        "listener") "PolicyError" e)

/-! ## §3. Autoscaler. -/

/-- The scaler error condition. -/
def scalerError (e : Err) : Bool × List Condition :=
  (true, [{ type := "AutoscalingReady", status := .false_, reason := "ScaledObjectError"
            message := e.text }])

/-- The branch of `ensureScaledObject` for a fleet without autoscaling: remove our scaler. -/
def removeScaledObject (app : WorkerApp) : P (Bool × List Condition) := do
  match ← ask (.get .scaledObject (fleetName app)) with
  | .error e => if e.isNotFound || e.isNoMatch then pure (false, []) else pure (scalerError e)
  | .ok o =>
    match requireOwnership app o with
    | .error e => pure (scalerError e)
    | .ok () =>
      match ← ask (.delete .scaledObject (fleetName app) o.metadata.uid
        o.metadata.resourceVersion) with
      | .ok () => pure (false, [])
      | .error e => if e.isNotFound then pure (false, []) else pure (scalerError e)

/-- `ensureScaledObject`; of the outcome it reads the phase.  The scaler is paused whenever the
fleet is not Ready. -/
def ensureScaledObject (r : Reconciler) (app : WorkerApp) (phase : Phase) :
    P (Bool × List Condition) :=
  if !autoscalingEnabled app then removeScaledObject app
  else do
    let paused := decide (phase ≠ .ready)
    match ← ensureUnstructured app (buildScaledObject r.lib app r.prometheusURL paused) with
    | .ok () =>
      pure (false, [{ type := "AutoscalingReady", status := .true_
                      reason := "ScaledObjectReconciled" }])
    | .error e =>
      pure (failedCondition "AutoscalingReady" "KEDAUnavailable"
        "keda.sh CRDs are not installed; spec.autoscaling has no effect" "ScaledObjectError" e)

end CelldOperator
