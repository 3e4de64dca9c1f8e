/-
  CelldOperator.Controller.Rollout

  **THE ROLLOUT STATE MACHINE** (`internal/controller/rollout.go`).

  The operator owns the partition counter of the StatefulSet and moves it one
  ordinal at a time.  `reconcileFleet` decides from one uncached read which of
  the six writes comes next, if any:

    • `startRolling`     — a new template, frozen at partition = replicas,
    • `clampPartition`   — the fleet was scaled down under the partition,
    • `releaseOrdinal`   — one more ordinal may move,
    • `scaleToZero`      — Recreate, phase A: drain the old template,
    • `startRecreated`   — Recreate, phase B: the new template, scaled up,
    • `scaleTo`          — steady scaling when no autoscaler owns the count.

  Each is the source's assignment block as a function of the object it mutates.
-/
import CelldOperator.Controller.Edge
import CelldOperator.Controller.FleetState

namespace CelldOperator

open Effect Prog

/-! ## §1. Outcomes. -/

/-- `fleetOutcome`: what one pass concluded about the fleet. -/
structure FleetOutcome where
  phase : Phase
  partition : Nat := 0
  waitingOn : String := ""
  requeue : Time := 0
  /-- Every pod serves the resolved version. -/
  rolledOut : Bool := false
  deriving DecidableEq

/-- `conflictOutcome`: keep the stored phase and retry shortly. -/
def conflictOutcome (app : WorkerApp) : FleetOutcome where
  phase := if app.status.phase = .unset then .pending else app.status.phase
  waitingOn := "statefulset write conflicted; retrying"
  requeue := 3 * second

/-! ## §2. Reading and changing the StatefulSet. -/

def settleAnnotation : String := "celld-operator.io/settle-until"

def recreateAnnotation : String := "celld-operator.io/recreating"

/-- `stsPartition`. -/
def stsPartition (sts : StatefulSet) : Nat := sts.sspec.partition.getD 0

/-- `ptr.Deref(sts.Spec.Replicas, 0)`. -/
def stsReplicas (sts : StatefulSet) : Nat := sts.sspec.replicas.getD 0

/-- An annotation of the StatefulSet. -/
def annotationOf (sts : StatefulSet) (key : String) : String := sts.metadata.annotations.get key

/-- The recreate annotation is set. -/
def recreating (sts : StatefulSet) : Bool := annotationOf sts recreateAnnotation == annotationTrue

/-- The spec changed, the rest kept. -/
def withSpec (sts : StatefulSet) (f : StatefulSetSpec → StatefulSetSpec) : StatefulSet :=
  { sts with spec := f sts.sspec }

/-- `setStsPartition`. -/
def setStsPartition (sts : StatefulSet) (partition : Nat) : StatefulSet :=
  withSpec sts fun spec => { spec with partition := some partition }

/-- The start of a gated rolling update: the new template, no pod moves yet. -/
def startRolling (existing desired : StatefulSet) (settle : String) : StatefulSet :=
  annotate
    (withSpec existing fun spec =>
      { spec with template := desired.sspec.template, partition := some (stsReplicas existing) })
    (fun m => (m.insert templateHashAnnotation
      (annotationOf desired templateHashAnnotation)).insert settleAnnotation settle)

/-- The clamp to the live replica count. -/
def clampPartition (sts : StatefulSet) : StatefulSet := setStsPartition sts (stsReplicas sts)

/-- The release of one ordinal. -/
def releaseOrdinal (sts : StatefulSet) (partition : Nat) (settle : String) : StatefulSet :=
  setStsPartition (annotate sts (·.insert settleAnnotation settle)) partition

/-- Recreate, phase A. -/
def scaleToZero (existing : StatefulSet) : StatefulSet :=
  annotate (withSpec existing fun spec => { spec with replicas := some 0 })
    (·.insert recreateAnnotation annotationTrue)

/-- Recreate, phase B. -/
def startRecreated (app : WorkerApp) (existing desired : StatefulSet) : StatefulSet :=
  annotate
    (withSpec existing fun spec =>
      { spec with
        template := desired.sspec.template
        replicas := some (desiredReplicas app).toNat
        partition := some 0 })
    (fun m => (m.insert templateHashAnnotation
      (annotationOf desired templateHashAnnotation)).erase recreateAnnotation)

/-- Steady scaling. -/
def scaleTo (existing : StatefulSet) (replicas : Nat) : StatefulSet :=
  withSpec existing fun spec => { spec with replicas := some replicas }

/-- `updateFleet`: the server's copy, or `none` on a conflict. -/
def updateFleet (sts : StatefulSet) : P (Except Err (Option StatefulSet)) := do
  match ← ask (.update .statefulSet sts) with
  | .ok stored => pure (.ok (some stored))
  | .error e => if e.isConflict then pure (.ok none) else pure (.error e)

/-- What every caller of `updateFleet` does with its result: return the error, report a
conflict, or go on with the server's copy. -/
def writeFleet (app : WorkerApp) (sts : StatefulSet)
    (next : StatefulSet → P (Except Err FleetOutcome)) : P (Except Err FleetOutcome) :=
  check (updateFleet sts) fun
    | some stored => next stored
    | none => pure (.ok (conflictOutcome app))

/-! ## §3. The config hash. -/

/-- The Secrets the pod template references. -/
def secretRefs (app : WorkerApp) : List String :=
  (match app.spec.vars with
    | some vars => [vars.secretRef].filter (· != "")
    | none => []) ++
  [app.spec.bucket.credentialsFrom.secretRef].filter (· != "")

/-- The UTF-8 bytes of a string. -/
def bytes (s : String) : List UInt8 := s.toUTF8.toList

/-- What one call of the digest writer feeds to SHA-256: each part, then a zero byte. -/
def digestParts (parts : List (List UInt8)) : List UInt8 := parts.flatMap (· ++ [0])

/-- The bytes for one referenced Secret, missing or read. -/
def secretStream (name : String) : Option Secret → List UInt8
  | none => digestParts [bytes "missing", bytes name]
  | some secret => digestParts [bytes "secret", bytes name] ++
      secret.data.flatMap (fun entry => digestParts [bytes entry.1, entry.2])

/-- The loop of `configHash` over the references. -/
def readSecrets : List String → List UInt8 → P (Except Err (List UInt8))
  | [], stream => pure (.ok stream)
  | name :: names, stream => do
    match ← ask (.getSecret name) with
    | .ok secret => readSecrets names (stream ++ secretStream name (some secret))
    | .error e =>
      if e.isNotFound then readSecrets names (stream ++ secretStream name none)
      else pure (.error (e.wrap ("reading secret " ++ name ++ ": ")))

/-- `configHash`. -/
def configHash (r : Reconciler) (app : WorkerApp) : P (Except Err String) :=
  if (secretRefs app).isEmpty then pure (.ok "")
  else check (readSecrets (secretRefs app) []) fun stream => pure (.ok (r.lib.digest stream))

/-! ## §4. The KEDA pause. -/

/-- The HPA scales this fleet. -/
def HPA.targets (hpa : HPA) (app : WorkerApp) : Bool :=
  hpa.targetKind == "StatefulSet" && hpa.targetName == fleetName app

/-- The tail of `pauseScaling`: no HPA may still target the fleet. -/
def noFleetHPA (app : WorkerApp) : P (Except Err Bool) :=
  check (ask .listHPAs) fun hpas => pure (.ok (!hpas.any (·.targets app)))

/-- KEDA's acknowledgement: some condition reads Paused=True. -/
def acknowledgesPause (o : Obj .scaledObject) : Bool :=
  (show List ScalerCondition from o.status).any
    (fun c => c.type == "Paused" && c.status == "True")

/-- Ask for the pause; the answer is for a later pass. -/
def requestPause (r : Reconciler) (app : WorkerApp) : P (Except Err Bool) :=
  check (ensureUnstructured app (buildScaledObject r.lib app r.prometheusURL true)) fun _ =>
    pure (.ok false)

/-- `pauseScaling`. -/
def pauseScaling (r : Reconciler) (app : WorkerApp) : P (Except Err Bool) := do
  let read ← ask (.getLive .scaledObject (fleetName app))
  if !autoscalingEnabled app then
    match read with
    | .ok _ =>
      let (transient, _) ← ensureScaledObject r app .unset
      if transient then pure (.error (.other "could not remove disabled scaler"))
      else pure (.ok false)
    | .error e => if e.isNotFound || e.isNoMatch then noFleetHPA app else pure (.error e)
  else
    match read with
    | .error e =>
      if e.isNoMatch then noFleetHPA app
      else if e.isNotFound then requestPause r app
      else pure (.error e)
    | .ok o =>
      if o.metadata.annotations.get kedaPausedAnnotation ≠ annotationTrue then requestPause r app
      else
        match requireOwnership app o with
        | .error e => pure (.error e)
        | .ok () => if acknowledgesPause o then noFleetHPA app else pure (.ok false)

/-! ## §5. The mixed-fleet check. -/

/-- The loop of `liveFleetBreakingReason` over the listed pods. -/
def podsBreakingReason (existing desired : StatefulSet) : List Pod → String
  | [] => ""
  | pod :: pods =>
    if !isControlledBy pod.ownerReferences existing.metadata.uid then
      podsBreakingReason existing desired pods
    else
      let reason := fleetBreakingReason pod.spec desired.sspec.template.spec
      if reason ≠ "" then "pod " ++ pod.name ++ ": " ++ reason
      else podsBreakingReason existing desired pods

/-- `liveFleetBreakingReason`: the template being replaced, then every listed pod of the
fleet. -/
def liveFleetBreakingReason (app : WorkerApp) (existing desired : StatefulSet) :
    P (Except Err String) :=
  let reason := fleetBreakingReason existing.sspec.template.spec desired.sspec.template.spec
  if reason ≠ "" then pure (.ok reason)
  else
    check (ask (.listPods (selectorLabels app))) fun pods =>
      pure (.ok (podsBreakingReason existing desired pods.val))

/-! ## §6. The gated rolling update. -/

/-- The settle gate: how long is left of the persisted interval.  An unreadable deadline does
not hold the rollout. -/
def settleWait (lib : Lib) (sts : StatefulSet) : P (Option Time) :=
  match lib.parseTime (annotationOf sts settleAnnotation) with
  | none => pure none
  | some deadline => do
    let now ← ask .now
    if now < deadline then
      let later ← ask .now
      pure (some (deadline - later))
    else pure none

/-- Gate 1: every released ordinal runs the new revision and is Ready.  `none` when it does,
else what the rollout waits on and the error to return. -/
def checkReleased (app : WorkerApp) (revision : String) :
    List Nat → P (Option (String × Option Err))
  | [] => pure none
  | ord :: ords => do
    let name := ordinalName (fleetName app) ord
    match ← ask (.getPod name) with
    | .error e => pure (some (name ++ ": missing", e.ignoreNotFound))
    | .ok pod =>
      if pod.labels.get "controller-revision-hash" ≠ revision then
        pure (some (name ++ ": updating", none))
      else if !podReady pod then pure (some (name ++ ": not ready", none))
      else checkReleased app revision ords

/-- The ordinals at or above the partition. -/
def releasedOrdinals (partition replicas : Nat) : List Nat :=
  List.range' partition (replicas - partition)

/-- The gates and the release of `rolloutStep`, at the partition it works with. -/
def releaseNext (r : Reconciler) (app : WorkerApp) (sts : StatefulSet)
    (partition liveReplicas : Nat) : P (Except Err FleetOutcome) :=
  let out : FleetOutcome :=
    { phase := .rollingOut, partition := partition, requeue := 10 * second }
  if partition = 0 ∨ sts.sstatus.observedGeneration ≠ sts.metadata.generation then
    pure (.ok { out with waitingOn := "waiting for StatefulSet observation" })
  else do
    match ← settleWait r.lib sts with
    | some left =>
      pure (.ok { out with waitingOn := "waiting for rollout settle interval"
                           requeue := left })
    | none =>
      if sts.sstatus.updateRevision = "" then
        pure (.ok { out with waitingOn := "statefulset: update revision pending" })
      else
        match ← checkReleased app sts.sstatus.updateRevision
            (releasedOrdinals partition liveReplicas) with
        | some (_, some e) => pure (.error e)
        | some (waitingOn, none) => pure (.ok { out with waitingOn := waitingOn })
        | none =>
          let sweep ← observeFleet app sts
          if sweep.err ≠ none ∨ sweep.restoring ≠ 0 then
            pure (.ok { out with
              waitingOn := "fleet state: restoring=" ++ decimalInt sweep.restoring ++
                ", error=" ++ errorText sweep.err })
          else
            let now ← ask .now
            writeFleet app
              (releaseOrdinal sts (partition - 1) (r.lib.formatTime (now + 10 * second)))
              fun _ => pure (.ok { out with
                partition := partition - 1
                waitingOn := ordinalName (fleetName app) (partition - 1) ++ ": updating" })

/-- `rolloutStep`.  The clamp falls through to the gates with the server's copy. -/
def rolloutStep (r : Reconciler) (app : WorkerApp) (sts : StatefulSet) :
    P (Except Err FleetOutcome) :=
  if stsReplicas sts < stsPartition sts then
    writeFleet app (clampPartition sts) fun stored =>
      releaseNext r app stored (stsReplicas sts) (stsReplicas sts)
  else releaseNext r app sts (stsPartition sts) (stsReplicas sts)

/-! ## §7. Stop all, then start. -/

/-- `recreateStep`. -/
def recreateStep (app : WorkerApp) (existing desired : StatefulSet) (hazard : String) :
    P (Except Err FleetOutcome) :=
  let out : FleetOutcome := { phase := .recreating, requeue := 10 * second }
  if stsReplicas existing ≠ 0 then
    writeFleet app (scaleToZero existing) fun _ =>
      pure (.ok { out with
        waitingOn := "scaling to zero for non-rolling celld change" ++
          (if hazard ≠ "" then ": " ++ hazard else "") })
  else
    check (ask (.listPods (selectorLabels app))) fun oldPods =>
      if existing.sstatus.observedGeneration ≠ existing.metadata.generation ∨
          oldPods.val ≠ [] ∨ 0 < existing.sstatus.replicas then
        pure (.ok { out with
          waitingOn := decimal existing.sstatus.replicas ++ " pods draining" })
      else
        writeFleet app (startRecreated app existing desired) fun _ =>
          pure (.ok { out with waitingOn := "starting new fleet" })

/-! ## §8. Steady state. -/

/-- The StatefulSet status reports every replica ready and updated at this generation. -/
def statusConverged (sts : StatefulSet) : Bool :=
  sts.sstatus.readyReplicas == stsReplicas sts && sts.sstatus.updatedReplicas == stsReplicas sts &&
    sts.sstatus.observedGeneration == sts.metadata.generation

/-- A pod serves the version, with nothing draining or swapping. -/
def deploymentConverged (appVersion : String) (state : PodState) : Bool :=
  match state.deployment with
  | none => false
  | some d => d.version == appVersion && d.draining == 0 && d.swapping == 0

/-- The replica count is the operator's to set, and it is off. -/
def replicasDrifted (app : WorkerApp) (sts : StatefulSet) : Bool :=
  !autoscalingEnabled app && decide ((stsReplicas sts : Int) ≠ desiredReplicas app)

/-- `steadyFleet`. -/
def steadyFleet (app : WorkerApp) (existing : StatefulSet) (appVersion : String) :
    P (Except Err FleetOutcome) :=
  if replicasDrifted app existing then
    writeFleet app (scaleTo existing (desiredReplicas app).toNat) fun _ =>
      pure (.ok { phase := .pending, requeue := 10 * second })
  else if !statusConverged existing then
    pure (.ok { phase := .pending
                waitingOn := "fleet: " ++ decimal existing.sstatus.readyReplicas ++ "/" ++
                  decimal (stsReplicas existing) ++ " ready"
                requeue := 15 * second })
  else do
    let sweep ← observeFleet app existing
    if sweep.err ≠ none ∨ sweep.restoring ≠ 0 then
      pure (.ok { phase := .pending
                  waitingOn := "waiting for complete fleet state: restoring=" ++
                    decimalInt sweep.restoring ++ ", error=" ++ errorText sweep.err
                  requeue := 15 * second })
    else
      let states ← ask (.rangeStates sweep.states)
      match states.val.find? (fun s => !deploymentConverged appVersion s.2) with
      | some (name, _) =>
        pure (.ok { phase := .pending
                    waitingOn := name ++ ": deployment not converged"
                    requeue := 15 * second })
      | none => pure (.ok { phase := .ready, rolledOut := true, requeue := 30 * second })

/-! ## §9. One pass over the fleet. -/

/-- The StatefulSet a pass drives toward. -/
def desiredFleet (r : Reconciler) (app : WorkerApp) (hash appVersion : String) : StatefulSet :=
  setControllerReference app (buildStatefulSet r.lib app hash appVersion)

/-- Its annotation is the hash of its template. -/
theorem desiredFleet_hashed {r : Reconciler} {app : WorkerApp} {hash appVersion : String} :
    annotationOf (desiredFleet r app hash appVersion) templateHashAnnotation =
      r.lib.templateHash (buildPodTemplate app hash appVersion) :=
  StrMap.get_insert_self ∅ templateHashAnnotation _

/-- `templateChanged`. -/
def templateChanged (existing desired : StatefulSet) : Bool :=
  annotationOf existing templateHashAnnotation != annotationOf desired templateHashAnnotation

/-- The condition under which a pass may write the StatefulSet, so the scaler must be paused
first. -/
def needsPause (app : WorkerApp) (existing desired : StatefulSet) : Bool :=
  templateChanged existing desired || decide (0 < stsPartition existing) ||
    recreating existing || replicasDrifted app existing

/-- The branch of `reconcileFleet` for a changed template. -/
def changeTemplate (r : Reconciler) (app : WorkerApp) (existing desired : StatefulSet) :
    P (Except Err FleetOutcome) :=
  check (liveFleetBreakingReason app existing desired) fun breaking => do
    if breaking ≠ "" ∧ app.spec.celld.updateStrategy ≠ .recreate then
      pure (.ok { phase := .degraded
                  waitingOn := "celld " ++ stsContainerImage existing.sspec.template.spec ++
                    " -> " ++ app.spec.celld.image ++ " is not rolling-safe: " ++ breaking ++
                    "; set celld.updateStrategy: Recreate" })
    else if app.spec.celld.updateStrategy = .recreate then
      recreateStep app existing desired breaking
    else
      let now ← ask .now
      writeFleet app
        (startRolling existing desired (r.lib.formatTime (now + 10 * second))) fun _ =>
        pure (.ok { phase := .rollingOut, partition := stsReplicas existing
                    requeue := 10 * second })

/-- The part of `reconcileFleet` behind the pause. -/
def driveFleet (r : Reconciler) (app : WorkerApp) (existing desired : StatefulSet)
    (appVersion : String) : P (Except Err FleetOutcome) :=
  let refusal := runtimeChangeRefusal app (stsContainerImage existing.sspec.template.spec)
  if refusal ≠ "" then
    pure (.ok { phase := .degraded, waitingOn := refusal, requeue := minute })
  else if recreating existing then recreateStep app existing desired ""
  else if templateChanged existing desired then changeTemplate r app existing desired
  else if 0 < stsPartition existing then rolloutStep r app existing
  else steadyFleet app existing appVersion

/-- `reconcileFleet` on an existing StatefulSet. -/
def reconcileExisting (r : Reconciler) (app : WorkerApp) (existing desired : StatefulSet)
    (appVersion : String) : P (Except Err FleetOutcome) :=
  match requireOwnership app existing with
  | .error e => pure (.error e)
  | .ok () =>
    if needsPause app existing desired then
      check (pauseScaling r app) fun paused =>
        if paused then driveFleet r app existing desired appVersion
        else
          pure (.ok { phase := .rollingOut
                      waitingOn := "waiting for KEDA pause and HPA removal"
                      requeue := 5 * second })
    else driveFleet r app existing desired appVersion

/-- `reconcileFleet`: drive the StatefulSet toward the spec at the resolved version. -/
def reconcileFleet (r : Reconciler) (app : WorkerApp) (appVersion : String) :
    P (Except Err FleetOutcome) :=
  check (configHash r app) fun hash => do
    let desired := desiredFleet r app hash appVersion
    match ← ask (.getLive .statefulSet (fleetName app)) with
    | .error e =>
      if e.isNotFound then
        check (ask (.create .statefulSet desired)) fun _ =>
          pure (.ok { phase := .pending, requeue := 10 * second })
      else pure (.error e)
    | .ok existing => reconcileExisting r app existing desired appVersion

end CelldOperator
