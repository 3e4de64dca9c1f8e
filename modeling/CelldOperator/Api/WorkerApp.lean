/-
  CelldOperator.Api.WorkerApp

  The `WorkerApp` custom resource (`api/v1alpha1/workerapp_types.go`): its spec,
  its status and the enumerations both use.  A string enumeration of the source
  is an inductive type here; its constructor `unset` is the empty string an
  object admitted by an older CRD may carry.  Integers keep the sign the CRD
  schema would exclude, because `validateApp` checks it again.
-/
import CelldOperator.Go.Basic

namespace CelldOperator

/-! ## §1. Enumerations. -/

/-- How a celld version change rolls through the fleet. -/
inductive UpdateStrategy where
  | unset | rolling | recreate
  deriving DecidableEq, Repr

/-- celld's write-acknowledgement proof. -/
inductive Durability where
  | unset | fleet | bucket
  deriving DecidableEq, Repr

/-- The value of `CELLD_DURABILITY`. -/
def Durability.text : Durability → String
  | .unset => ""
  | .fleet => "fleet"
  | .bucket => "bucket"

/-- Adoption of a new deployment in place, or by an additional gated restart. -/
inductive DeploymentPolicy where
  | unset | restart | inPlace
  deriving DecidableEq, Repr

inductive ServiceType where
  | unset | clusterIP | nodePort | loadBalancer
  deriving DecidableEq, Repr

inductive TelemetrySink where
  | unset | bucket | otlp
  deriving DecidableEq, Repr

/-- `WorkerAppPhase`; `unset` is the phase of an object that never had a status. -/
inductive Phase where
  | unset | pending | ready | rollingOut | recreating | degraded
  deriving DecidableEq, Repr

/-- The text of a phase, which the summary conditions carry as their reason. -/
def Phase.text : Phase → String
  | .unset => ""
  | .pending => "Pending"
  | .ready => "Ready"
  | .rollingOut => "RollingOut"
  | .recreating => "Recreating"
  | .degraded => "Degraded"

inductive ConditionStatus where
  | true_ | false_ | unknown
  deriving DecidableEq, Repr

/-- `boolToCondition`. -/
def boolToCondition (b : Bool) : ConditionStatus := if b then .true_ else .false_

/-! ## §2. The spec. -/

structure CelldSpec where
  image : String := ""
  updateStrategy : UpdateStrategy := .unset
  deriving DecidableEq

structure BucketCredentials where
  iamRole : String := ""
  secretRef : String := ""
  azureClientID : String := ""
  deriving DecidableEq

structure BucketSpec where
  name : String := ""
  endpoint : String := ""
  storageAccount : String := ""
  region : String := ""
  credentialsFrom : BucketCredentials := {}
  deriving DecidableEq

structure ResourcesSpec where
  cpuMillis : Int := 0
  ephemeralStorageGi : Int := 0
  memoryGi : Int := 0
  maxResidentCells : Int := 0
  deriving DecidableEq

structure VarsSpec where
  secretRef : String := ""
  deriving DecidableEq

structure ServiceShape where
  type : ServiceType := .unset
  annotations : StrMap := ∅
  deriving DecidableEq

structure AutoscalingTargets where
  residentCellUtilization : Option Int := none
  p95LatencyMs : Option Int := none
  deriving DecidableEq

structure AutoscalingSpec where
  enabled : Bool := false
  minReplicas : Int := 0
  maxReplicas : Int := 0
  targets : AutoscalingTargets := {}
  deriving DecidableEq

structure TelemetrySpec where
  enabled : Option Bool := none
  sink : TelemetrySink := .unset
  otlpEndpoint : String := ""
  retention : String := ""
  deriving DecidableEq

/-- `ResolvedSink`: otlp when selected or implied by the endpoint, bucket otherwise. -/
def TelemetrySpec.resolvedSink (t : TelemetrySpec) : TelemetrySink :=
  if t.sink = .otlp ∨ (t.sink = .unset ∧ t.otlpEndpoint ≠ "") then .otlp else .bucket

structure StorageSpec where
  sizeGi : Int
  storageClassName : Option String := none
  deriving DecidableEq

structure Toleration where
  key : String
  operator : String
  value : String
  effect : String
  deriving DecidableEq

structure SchedulingSpec where
  nodeSelector : StrMap := ∅
  tolerations : List Toleration := []
  spreadAcrossZones : Bool := false
  deriving DecidableEq

structure WorkerAppSpec where
  deployTrackingSecretRef : String := ""
  deploymentPolicy : DeploymentPolicy := .unset
  clusterDomain : String := ""
  storage : Option StorageSpec := none
  scheduling : SchedulingSpec := {}
  hostnames : List String := []
  appVersion : String := ""
  celld : CelldSpec := {}
  replicas : Option Int := none
  bucket : BucketSpec := {}
  resources : ResourcesSpec := {}
  service : ServiceShape := {}
  vars : Option VarsSpec := none
  webSockets : Bool := false
  autoscaling : Option AutoscalingSpec := none
  telemetry : TelemetrySpec := {}
  durability : Durability := .unset
  trustForwardedHeaders : Bool := false
  deriving DecidableEq

/-! ## §3. The status. -/

/-- `metav1.Condition` without its transition time, which only `SetStatusCondition` itself
reads. -/
structure Condition where
  type : String
  status : ConditionStatus
  reason : String
  message : String := ""
  observedGeneration : Nat := 0
  deriving DecidableEq

structure RolloutStatus where
  partition : Nat := 0
  waitingOn : String := ""
  deriving DecidableEq

structure FleetStatus where
  ready : Nat := 0
  restoring : Int := 0
  deriving DecidableEq

structure PodDeployment where
  name : String
  version : String
  generation : Int
  draining : Int
  swapping : Int
  deriving DecidableEq

structure WorkerAppStatus where
  expectedAppVersion : String := ""
  deployments : List PodDeployment := []
  phase : Phase := .unset
  rolledOutAppVersion : String := ""
  rollout : RolloutStatus := {}
  fleet : FleetStatus := {}
  conditions : List Condition := []
  deriving DecidableEq

structure WorkerApp where
  name : String
  namespace_ : String
  uid : String
  resourceVersion : Nat := 0
  generation : Nat := 0
  /-- `DeletionTimestamp` is set. -/
  deleting : Bool := false
  spec : WorkerAppSpec
  status : WorkerAppStatus := {}
  deriving DecidableEq

/-! ## §4. Reading the spec. -/

/-- `autoscalingEnabled`. -/
def autoscalingEnabled (app : WorkerApp) : Bool :=
  match app.spec.autoscaling with
  | some autoscaling => autoscaling.enabled
  | none => false

/-- `desiredReplicas`: `spec.replicas`, defaulting to 3. -/
def desiredReplicas (app : WorkerApp) : Int := app.spec.replicas.getD 3

/-- `defaultPositive`. -/
def defaultPositive (value fallback : Int) : Int := if value > 0 then value else fallback

/-- `memoryGi`. -/
def memoryGi (app : WorkerApp) : Int := defaultPositive app.spec.resources.memoryGi 8

/-- `maxResidentCells`. -/
def maxResidentCells (app : WorkerApp) : Int :=
  defaultPositive app.spec.resources.maxResidentCells 1000

/-- `clusterDomain`. -/
def clusterDomain (app : WorkerApp) : String :=
  if app.spec.clusterDomain ≠ "" then app.spec.clusterDomain else "cluster.local"

/-- `isAzureBucket`. -/
def isAzureBucket (app : WorkerApp) : Bool := hasPrefix app.spec.bucket.name "az://"

/-- `trackableBucket`: the operator reads the deploy pointer over the S3 API only. -/
def trackableBucket (app : WorkerApp) : Bool := hasPrefix app.spec.bucket.name "s3://"

/-- The `appVersion` that asks for deploy tracking. -/
def appVersionAuto : String := "auto"

/-- The `iamRole` that asks the operator to provision the role. -/
def iamRoleAuto : String := "auto"

/-- `fleetName`: every child object is called this, the two exceptions aside. -/
def fleetName (app : WorkerApp) : String := app.name ++ "-celld"

/-- `internalServiceName`. -/
def internalServiceName (app : WorkerApp) : String := app.name ++ "-celld-internal"

/-- `fleetLabels`. -/
def fleetLabels (app : WorkerApp) : StrMap :=
  StrMap.ofList [("celld-operator.io/workerapp", app.name), ("app.kubernetes.io/name", "celld"),
    ("app.kubernetes.io/instance", app.name)]

/-- `selectorLabels`. -/
def selectorLabels (app : WorkerApp) : StrMap :=
  StrMap.ofList [("celld-operator.io/workerapp", app.name)]

end CelldOperator
