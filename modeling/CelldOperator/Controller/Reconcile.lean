/-
  CelldOperator.Controller.Reconcile

  **ONE RECONCILE PASS** (`workerapp_controller.go`): validate, foundation
  objects, resolve the version, drive the fleet, then edge, mesh, autoscaler and
  status.
-/
import CelldOperator.Controller.DeployTracker
import CelldOperator.Runtime.Validation
import Mathlib.Data.List.Sort

namespace CelldOperator

open Effect Prog

/-! ## §1. Conditions. -/

/-- `meta.SetStatusCondition`: replace the condition of this type, or append it. -/
def setStatusCondition : List Condition → Condition → List Condition
  | [], c => [c]
  | old :: rest, c => if old.type = c.type then c :: rest else old :: setStatusCondition rest c

/-- `meta.RemoveStatusCondition`. -/
def removeStatusCondition (conditions : List Condition) (type : String) : List Condition :=
  conditions.filter (·.type != type)

/-- The conditions that are removed when a pass does not report them. -/
def optionalConditions : List String :=
  ["IngressReady", "AutoscalingReady", "DeployTrackingReady"]

/-- The three summary conditions of an outcome. -/
def summaryConditions (outcome : FleetOutcome) : List Condition :=
  let progressing := outcome.phase == .pending || outcome.phase == .rollingOut ||
    outcome.phase == .recreating
  [ { type := "Available", status := boolToCondition (outcome.phase == .ready)
      reason := outcome.phase.text },
    { type := "Progressing", status := boolToCondition progressing
      reason := outcome.phase.text, message := outcome.waitingOn },
    { type := "Degraded", status := boolToCondition (outcome.phase == .degraded)
      reason := outcome.phase.text, message := outcome.waitingOn } ]

/-- The status conditions after a pass that reports `reported`. -/
def mergeConditions (generation : Nat) (stored reported : List Condition) : List Condition :=
  let absent := optionalConditions.filter (fun type => !reported.any (·.type == type))
  (reported.map (fun c => { c with observedGeneration := generation })).foldl setStatusCondition
    (absent.foldl removeStatusCondition stored)

/-! ## §2. Status. -/

/-- The deployment one sampled pod reports. -/
def podDeployment (sample : String × PodState) : Option PodDeployment :=
  sample.2.deployment.map fun d =>
    { name := sample.1, version := d.version, generation := d.generation
      draining := int32 d.draining, swapping := d.swapping }

/-- The status the outcome itself determines. -/
def outcomeStatus (status : WorkerAppStatus) (outcome : FleetOutcome) (appVersion : String) :
    WorkerAppStatus :=
  { status with
    phase := outcome.phase
    expectedAppVersion := appVersion
    deployments := []
    rollout := ⟨outcome.partition, outcome.waitingOn⟩
    rolledOutAppVersion := if outcome.rolledOut then appVersion else "" }

/-- The StatefulSet variable of `updateStatus` when its read failed. -/
def zeroStatefulSet : StatefulSet where
  metadata := { name := "" }
  spec := ({ template := { spec := { containers := [] } } } : StatefulSetSpec)
  status := ({} : StatefulSetStatus)

/-- The observed part of `updateStatus`: fleet numbers, deployments, and the condition about
them. -/
def observedStatus (app : WorkerApp) (status : WorkerAppStatus) :
    P (WorkerAppStatus × Condition) := do
  let read ← ask (.get .statefulSet (fleetName app))
  let (sts, status) := match read with
    | .ok sts => (sts, { status with fleet :=
        { status.fleet with ready := sts.sstatus.readyReplicas } })
    | .error _ => (zeroStatefulSet, status)
  let sweep ← observeFleet app sts
  match sweep.err with
  | none =>
    let order ← ask (.rangeStates sweep.states)
    pure ({ status with
      fleet := { status.fleet with restoring := int32 sweep.restoring }
      deployments := (order.val.filterMap podDeployment).insertionSort
        (fun a b => a.name ≤ b.name) },
      { type := "FleetStateReady", status := .true_, reason := "Observed" })
  | some e =>
    pure ({ status with fleet := { status.fleet with restoring := 0 } },
      { type := "FleetStateReady", status := .false_, reason := "Unavailable"
        message := e.text })

/-- `updateStatus`. -/
def updateStatus (app : WorkerApp) (outcome : FleetOutcome) (appVersion : String)
    (conditions : List Condition) : P (Except Err Unit) := do
  let (status, fleetState) ← observedStatus app (outcomeStatus app.status outcome appVersion)
  let reported := conditions ++ [fleetState] ++ summaryConditions outcome
  let status := { status with
    conditions := mergeConditions app.generation app.status.conditions reported }
  if status = app.status then pure (.ok ())
  else ask (.updateStatus { app with status := status })

/-! ## §3. The pass. -/

/-- `ctrl.Result`. -/
structure Result where
  requeue : Bool := false
  requeueAfter : Time := 0
  deriving DecidableEq

/-- The status of a WorkerApp whose spec is refused. -/
def invalidStatus (app : WorkerApp) (text : String) : WorkerAppStatus :=
  let stored := optionalConditions.foldl removeStatusCondition app.status.conditions
  { app.status with
    phase := .degraded
    rolledOutAppVersion := ""
    conditions := setStatusCondition
      (setStatusCondition stored
        { type := "SpecValid", status := .false_, reason := "InvalidConfiguration"
          message := text, observedGeneration := app.generation })
      { type := "Available", status := .false_, reason := "InvalidConfiguration"
        observedGeneration := app.generation } }

/-- The exit of `Reconcile` for a refused spec: no child is touched. -/
def rejectSpec (app : WorkerApp) (text : String) : P (Except Err Result) :=
  let status := invalidStatus app text
  if status = app.status then pure (.ok { requeueAfter := minute })
  else check (ask (.updateStatus { app with status := status })) fun _ => pure (.ok {})

/-- The requeue after `Reconcile` lowered it to `bound`: zero means none was asked for. -/
def capRequeue (requeue bound : Time) : Time :=
  if requeue = 0 ∨ bound < requeue then bound else requeue

/-- `Reconcile` behind the fleet step: edge, mesh, autoscaler, status. -/
def finishPass (r : Reconciler) (app : WorkerApp) (resolved : ResolvedVersion)
    (conditions : List Condition) (outcome : FleetOutcome) : P (Except Err Result) := do
  let requeue := if resolved.tracking then capRequeue outcome.requeue r.interval
    else outcome.requeue
  let (ingressTransient, ingress) ← ensureIngress r app
  let (policyTransient, policy) ← ensureAuthorizationPolicy r app
  let (scalerTransient, scaler) ← ensureScaledObject r app outcome.phase
  let requeue := if ingressTransient || policyTransient || scalerTransient then
    capRequeue requeue (15 * second) else requeue
  match ← updateStatus app outcome resolved.version
      (conditions ++ ingress ++ policy ++ scaler) with
  | .ok () => pure (.ok { requeueAfter := requeue })
  | .error e => if e.isConflict then pure (.ok { requeue := true }) else pure (.error e)

/-- `Reconcile` for a WorkerApp with an accepted spec. -/
def reconcileValid (r : Reconciler) (app : WorkerApp) : P (Except Err Result) :=
  check (ensureFoundation r app) fun foundation => do
    let resolved ← resolveAppVersion r app
    check (reconcileFleet r app resolved.version) fun outcome =>
      finishPass r app resolved
        ([{ type := "SpecValid", status := .true_, reason := "Validated" }] ++ foundation ++
          resolved.conditions) outcome

/-- `Reconcile` for a WorkerApp that exists. -/
def reconcileApp (r : Reconciler) (key : NamespacedName) (app : WorkerApp) :
    P (Except Err Result) :=
  if app.deleting then do
    let _ ← ask (.trackerForget key)
    pure (.ok {})
  else
    match validateApp r app with
    | .error text => rejectSpec app text
    | .ok () => reconcileValid r app

/-- `Reconcile`. -/
def reconcile (r : Reconciler) (key : NamespacedName) : P (Except Err Result) := do
  match ← ask (.getApp key) with
  | .error e =>
    if e.isNotFound then do
      let _ ← ask (.trackerForget key)
      pure (.ok {})
    else pure (.error e)
  | .ok app => reconcileApp r key app

end CelldOperator
