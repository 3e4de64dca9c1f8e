/-
  CelldOperator.Api.Objects

  **THE KUBERNETES OBJECTS A FLEET IS MADE OF.**

  One WorkerApp owns one object of each `Kind`; an object is its metadata, a
  spec and a status (`Obj k`), the types of the last two depending on the kind.
  The CRDs the operator links no types for (Istio, KEDA) have a JSON spec.

  Replica counts, partitions and generations are natural numbers: the API
  server rejects negative ones.  A resource version is an opaque token that is
  only ever compared for equality.
-/
import CelldOperator.Api.WorkerApp

namespace CelldOperator

/-! ## §1. Metadata. -/

structure OwnerReference where
  uid : String
  /-- A pointer: a reference need not say whether it is the controller's. -/
  controller : Option Bool
  deriving DecidableEq

structure ObjectMeta where
  name : String
  uid : String := ""
  resourceVersion : Nat := 0
  generation : Nat := 0
  labels : StrMap := ∅
  annotations : StrMap := ∅
  ownerReferences : List OwnerReference := []
  finalizers : List String := []
  /-- `DeletionTimestamp` is set. -/
  deleting : Bool := false
  deriving DecidableEq

/-- `metav1.IsControlledBy`: the first controller reference names this UID. -/
def isControlledBy (refs : List OwnerReference) (uid : String) : Bool :=
  match refs.find? (·.controller == some true) with
  | some ref => ref.uid == uid
  | none => false

/-! ## §2. Pods and pod templates. -/

structure EnvVar where
  name : String
  value : String := ""
  /-- `ValueFrom.FieldRef.FieldPath`. -/
  fieldPath : Option String := none
  deriving DecidableEq

structure VolumeMount where
  name : String
  mountPath : String
  readOnly : Bool := false
  deriving DecidableEq

inductive VolumeSource where
  | emptyDir
  | secret (name : String)
  deriving DecidableEq

structure Volume where
  name : String
  source : VolumeSource
  deriving DecidableEq

structure Container where
  name : String
  image : String
  args : List String := []
  env : List EnvVar := []
  /-- The Secrets injected whole (`EnvFrom`). -/
  envFrom : List String := []
  cpuMillis : Int := 0
  memoryGi : Int := 0
  ephemeralStorageGi : Int := 0
  volumeMounts : List VolumeMount := []
  deriving DecidableEq

structure PodSpec where
  containers : List Container
  volumes : List Volume := []
  nodeSelector : StrMap := ∅
  tolerations : List Toleration := []
  /-- Topology keys of the required pod anti-affinity. -/
  affinityKeys : List String := []
  serviceAccountName : String := ""
  deriving DecidableEq

structure PodTemplate where
  labels : StrMap := ∅
  annotations : StrMap := ∅
  spec : PodSpec
  deriving DecidableEq

inductive PodPhase where
  | pending | running | succeeded | failed | unknown
  deriving DecidableEq

structure PodCondition where
  type : String
  status : ConditionStatus
  deriving DecidableEq

/-- A container status, as far as the restarts of celld are read from it. -/
structure ContainerStatus where
  name : String
  restartCount : Int
  /-- `LastTerminationState.Terminated.ExitCode`. -/
  lastExitCode : Option Int := none
  deriving DecidableEq

structure Pod where
  name : String
  labels : StrMap := ∅
  ownerReferences : List OwnerReference := []
  /-- `DeletionTimestamp` is set. -/
  deleting : Bool := false
  spec : PodSpec
  podIP : String := ""
  phase : PodPhase := .pending
  conditions : List PodCondition := []
  containerStatuses : List ContainerStatus := []
  deriving DecidableEq

/-- `podReady`: not terminating, and the Ready condition is True. -/
def podReady (pod : Pod) : Bool :=
  if pod.deleting then false
  else
    match pod.conditions.find? (·.type == "Ready") with
    | some cond => cond.status == .true_
    | none => false

/-! ## §3. Specs and statuses by kind. -/

structure PersistentVolumeClaim where
  name : String
  sizeGi : Int
  storageClassName : Option String
  deriving DecidableEq

structure StatefulSetSpec where
  replicas : Option Nat := none
  template : PodTemplate
  /-- `UpdateStrategy.RollingUpdate.Partition`; `none` when either pointer is nil. -/
  partition : Option Nat := none
  serviceName : String := ""
  selector : StrMap := ∅
  volumeClaimTemplates : List PersistentVolumeClaim := []
  deriving DecidableEq

structure StatefulSetStatus where
  observedGeneration : Nat := 0
  replicas : Nat := 0
  readyReplicas : Nat := 0
  updatedReplicas : Nat := 0
  updateRevision : String := ""
  deriving DecidableEq

structure ServicePort where
  name : String
  port : Nat
  targetPort : Nat
  nodePort : Nat := 0
  protocol : String := ""
  deriving DecidableEq

structure ServiceSpec where
  type : ServiceType := .unset
  clusterIP : String := ""
  selector : StrMap := ∅
  ports : List ServicePort := []
  publishNotReadyAddresses : Bool := false
  deriving DecidableEq

structure NetworkPolicyPeer where
  podSelector : StrMap
  namespaceSelector : Option StrMap := none
  deriving DecidableEq

structure NetworkPolicyIngressRule where
  protocol : String
  port : Nat
  peers : List NetworkPolicyPeer
  deriving DecidableEq

structure NetworkPolicySpec where
  podSelector : StrMap
  policyTypes : List String
  ingress : List NetworkPolicyIngressRule
  deriving DecidableEq

structure PodDisruptionBudgetSpec where
  maxUnavailable : Nat
  selector : StrMap
  deriving DecidableEq

structure IngressRule where
  host : String
  path : String
  pathType : String
  serviceName : String
  servicePort : Nat
  deriving DecidableEq

structure IngressTLS where
  hosts : List String
  secretName : String
  deriving DecidableEq

structure IngressSpec where
  ingressClassName : Option String := none
  rules : List IngressRule := []
  tls : List IngressTLS := []
  deriving DecidableEq

structure HTTPRouteRetry where
  codes : List Nat
  attempts : Nat
  deriving DecidableEq

structure HTTPRouteRule where
  backendName : String
  backendPort : Nat
  retry : Option HTTPRouteRetry := none
  requestTimeout : Option String := none
  deriving DecidableEq

structure HTTPRouteSpec where
  parentName : String
  parentNamespace : String
  hostnames : List String
  rules : List HTTPRouteRule
  deriving DecidableEq

structure RouteCondition where
  type : String
  status : ConditionStatus
  observedGeneration : Nat
  deriving DecidableEq

structure RouteParentStatus where
  name : String
  namespace_ : Option String
  conditions : List RouteCondition
  deriving DecidableEq

/-- An entry of `status.conditions` of a ScaledObject. -/
structure ScalerCondition where
  type : String
  status : String
  deriving DecidableEq

/-- The child objects of a WorkerApp. -/
inductive Kind where
  | serviceAccount | internalService | publicService | networkPolicy | podDisruptionBudget
  | statefulSet | ingress | httpRoute | virtualService | authorizationPolicy | scaledObject
  deriving DecidableEq, Repr

/-- The spec of an object, by kind. -/
def Spec : Kind → Type
  | .serviceAccount => Unit
  | .internalService | .publicService => ServiceSpec
  | .networkPolicy => NetworkPolicySpec
  | .podDisruptionBudget => PodDisruptionBudgetSpec
  | .statefulSet => StatefulSetSpec
  | .ingress => IngressSpec
  | .httpRoute => HTTPRouteSpec
  | .virtualService | .authorizationPolicy | .scaledObject => Json

/-- The part of an object's status some function reads, by kind. -/
def Status : Kind → Type
  | .statefulSet => StatefulSetStatus
  | .httpRoute => List RouteParentStatus
  | .scaledObject => List ScalerCondition
  | _ => Unit

instance (k : Kind) : DecidableEq (Spec k) := by
  cases k <;> unfold Spec <;> infer_instance

instance (k : Kind) : DecidableEq (Status k) := by
  cases k <;> unfold Status <;> infer_instance

instance (k : Kind) : Inhabited (Status k) :=
  match k with
  | .statefulSet => ⟨({} : StatefulSetStatus)⟩
  | .httpRoute => ⟨([] : List RouteParentStatus)⟩
  | .scaledObject => ⟨([] : List ScalerCondition)⟩
  | .serviceAccount | .internalService | .publicService | .networkPolicy
  | .podDisruptionBudget | .ingress | .virtualService | .authorizationPolicy => ⟨()⟩

/-- A child object. -/
structure Obj (k : Kind) where
  metadata : ObjectMeta
  spec : Spec k
  status : Status k

instance (k : Kind) : DecidableEq (Obj k) := fun a b =>
  decidable_of_iff (a.metadata = b.metadata ∧ a.spec = b.spec ∧ a.status = b.status) (by
    cases a; cases b; simp)

abbrev StatefulSet := Obj .statefulSet

/-- The spec of a StatefulSet, at its own type. -/
abbrev Obj.sspec (s : Obj .statefulSet) : StatefulSetSpec := s.spec

/-- The status of a StatefulSet, at its own type. -/
abbrev Obj.sstatus (s : Obj .statefulSet) : StatefulSetStatus := s.status

/-- The object name of each kind of child. -/
def childName (app : WorkerApp) : Kind → String
  | .internalService => internalServiceName app
  | .authorizationPolicy => fleetName app ++ "-internal"
  | _ => fleetName app

/-- `ctrl.SetControllerReference` on an object that has no owner yet. -/
def setControllerReference {k : Kind} (app : WorkerApp) (o : Obj k) : Obj k :=
  { o with metadata := { o.metadata with ownerReferences := [⟨app.uid, some true⟩] } }

end CelldOperator
