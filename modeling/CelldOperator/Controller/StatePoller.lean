/-
  CelldOperator.Controller.StatePoller

  `StatePoller.sweep` (`fleetstate.go`): the WorkerApps are listed, and for each the
  samples of its fleet are exported.  The scaling queries of the ScaledObject count
  only while the sample `celld_fleet_complete` is 1.

  A value is exported as a `float64`; it is kept here as the integer, or the pair
  of integers, it is computed from.
-/
import CelldOperator.Controller.FleetState

namespace CelldOperator

open Effect Prog

/-- `selfFenceExitCode`. -/
def selfFenceExitCode : Int := 3

/-- The value of a gauge. -/
inductive Gauge where
  /-- `float64(n)`. -/
  | int (n : Int)
  /-- `float64(num) / float64(den)`. -/
  | ratio (num den : Int)
  deriving DecidableEq

/-- One exported sample; the labels are namespace, WorkerApp and, where there is one, pod. -/
structure Sample where
  name : String
  value : Gauge
  labels : List String
  deriving DecidableEq

/-- `boolToGauge`. -/
def boolToGauge (b : Bool) : Gauge := .int (if b then 1 else 0)

/-- `celldRestarts`: the restart count of the celld container, and whether its last termination
was a self-fence. -/
def celldRestarts (pod : Pod) : Int × Bool :=
  match pod.containerStatuses.find? (·.name == celldContainerName) with
  | some cs => (cs.restartCount, cs.lastExitCode == some selfFenceExitCode)
  | none => (0, false)

/-- The samples of a pod that answered; they stand in a map, so their order is open. -/
def stateSamples (app : WorkerApp) (labels : List String) (state : PodState) : List Sample :=
  [ ⟨"celld_resident_cells", .int state.occupied, labels⟩,
    ⟨"celld_evicting", .int state.evicting, labels⟩,
    ⟨"celld_restoring", .int state.restoring, labels⟩,
    ⟨"celld_shedding", boolToGauge state.shedding.isSome, labels⟩,
    ⟨"celld_resident_cell_utilization", .ratio state.occupied (maxResidentCells app), labels⟩,
    ⟨"celld_rss_bytes", .int state.rssBytes, labels⟩,
    ⟨"celld_in_use_bytes", .int state.inUseBytes, labels⟩ ] ++
  (match state.cgroupCurrentBytes with
    | some n => [⟨"celld_cgroup_current_bytes", .int n, labels⟩]
    | none => []) ++
  (match state.cgroupWorkingSetBytes with
    | some n => [⟨"celld_cgroup_working_set_bytes", .int n, labels⟩]
    | none => [])

/-- The samples of one pod. -/
def podSamples (app : WorkerApp) (states : List (String × PodState)) (pod : Pod) : List Sample :=
  let labels := [app.namespace_, app.name, pod.name]
  let (restarts, fenced) := celldRestarts pod
  let state := (states.find? (·.1 == pod.name)).map Prod.snd
  [ ⟨"celld_container_restarts", .int restarts, labels⟩,
    ⟨"celld_self_fenced", boolToGauge fenced, labels⟩,
    ⟨"celld_state_up", boolToGauge state.isSome, labels⟩ ] ++
  (match state with
    | some state => stateSamples app labels state
    | none => [])

/-- The poller's census of the listed pods: the expected number, the generation observed, every
pod owned and Ready. -/
def listComplete (sts : StatefulSet) (pods : List Pod) : Bool :=
  let replicas := sts.sspec.replicas.getD 0
  decide (0 < replicas) && decide (int32 pods.length = replicas) &&
    decide (sts.sstatus.observedGeneration = sts.metadata.generation) &&
    pods.all fun pod => isControlledBy pod.ownerReferences sts.metadata.uid && podReady pod

/-- The StatefulSet and its labelled pods, or nothing when either read fails. -/
def readFleet (app : WorkerApp) : P (Option (StatefulSet × List Pod)) := do
  match ← ask (.get .statefulSet (fleetName app)) with
  | .error _ => pure none
  | .ok sts =>
    match ← ask (.listPods (selectorLabels app)) with
    | .error _ => pure none
    | .ok pods => pure (some (sts, pods.val))

/-- The body of the loop of `StatePoller.sweep`: the samples of one WorkerApp. -/
def sampleFleet (app : WorkerApp) : P (List Sample) := do
  let sampledAt ← ask .now
  let fleet ← readFleet app
  let pods := (fleet.map Prod.snd).getD []
  let sweep ← fleetSweep pods
  let complete := (fleet.any fun f => listComplete f.1 f.2) && sweep.err.isNone &&
    sweep.states.length == pods.length
  pure ([ ⟨"celld_fleet_complete", boolToGauge complete, [app.namespace_, app.name]⟩,
      ⟨"celld_fleet_sample_timestamp_seconds", .int (sampledAt / second),
        [app.namespace_, app.name]⟩ ] ++
    pods.flatMap (podSamples app sweep.states))

/-- The loop of `StatePoller.sweep`; the requests of each turn are made in the namespace of its
WorkerApp. -/
def sweepApps : List WorkerApp → P (List Sample)
  | [] => pure []
  | app :: apps => do
    let samples ← sampleFleet app
    let rest ← sweepApps apps
    pure (samples ++ rest)

/-- `StatePoller.sweep`: what it publishes. -/
def StatePoller.sweep : P (Except Err (List Sample)) := do
  match ← ask .listApps with
  | .error e => pure (.error e)
  | .ok apps =>
    let samples ← sweepApps apps
    pure (.ok samples)

end CelldOperator
