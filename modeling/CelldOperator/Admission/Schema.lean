/-
  CelldOperator.Admission.Schema

  **WHAT THE API SERVER LETS IN** (`config/crd/bases/celld-operator.io_workerapps.yaml`,
  generated from the markers of `api/v1alpha1/workerapp_types.go`).

  A manifest is what a user writes: a field may be absent, which a Go struct cannot say.
  The API server fills in the defaults, checks the schema and its rules, and on an update
  the rules that compare with the object it holds.

    • `SpecManifest.withDefaults` — the defaults, inside the objects that are there,
    • `SpecManifest.Conforms`     — types, bounds, patterns and rules, decidable,
    • `StoredSpec`                — a conforming manifest; `create` and `update` make them,
    • `SpecManifest.decode`       — the spec the operator reads,
    • `UpdatedTo.keeps`           — what no sequence of updates changes.
-/
import CelldOperator.Runtime.Validation
import Mathlib.Logic.Relation
import Mathlib.Tactic.MkIffOfInductiveProp

namespace CelldOperator.Admission

/-! ## §1. Manifests.

Where the schema has an enumeration the manifest has its type; `unset`, the empty string, is
refused like every other text outside of it. -/

structure CredentialsManifest where
  iamRole : Option String := none
  secretRef : Option String := none
  azureClientID : Option String := none
  deriving DecidableEq

structure BucketManifest where
  name : String
  endpoint : Option String := none
  storageAccount : Option String := none
  region : Option String := none
  credentialsFrom : Option CredentialsManifest := none
  deriving DecidableEq

structure CelldManifest where
  image : String
  updateStrategy : Option UpdateStrategy := none
  deriving DecidableEq

structure ResourcesManifest where
  cpuMillis : Option Int := none
  ephemeralStorageGi : Option Int := none
  memoryGi : Option Int := none
  maxResidentCells : Option Int := none
  deriving DecidableEq

structure ServiceManifest where
  type : Option ServiceType := none
  annotations : StrMap := ∅
  deriving DecidableEq

structure AutoscalingManifest where
  enabled : Option Bool := none
  minReplicas : Option Int := none
  maxReplicas : Option Int := none
  targets : Option AutoscalingTargets := none
  deriving DecidableEq

structure TelemetryManifest where
  enabled : Option Bool := none
  sink : Option TelemetrySink := none
  otlpEndpoint : Option String := none
  retention : Option String := none
  deriving DecidableEq

structure SpecManifest where
  deployTrackingSecretRef : Option String := none
  deploymentPolicy : Option DeploymentPolicy := none
  clusterDomain : Option String := none
  storage : Option StorageSpec := none
  scheduling : SchedulingSpec := {}
  hostnames : List String := []
  appVersion : String
  celld : CelldManifest
  replicas : Option Int := none
  bucket : BucketManifest
  resources : Option ResourcesManifest := none
  service : Option ServiceManifest := none
  vars : Option VarsSpec := none
  webSockets : Bool := false
  autoscaling : Option AutoscalingManifest := none
  telemetry : Option TelemetryManifest := none
  durability : Option Durability := none
  trustForwardedHeaders : Bool := false
  deriving DecidableEq

/-! ## §2. Defaults. -/

/-- An absent field takes its default. -/
def orDefault {α : Type} (field : Option α) (value : α) : Option α := some (field.getD value)

def CelldManifest.withDefaults (m : CelldManifest) : CelldManifest :=
  { m with updateStrategy := orDefault m.updateStrategy .rolling }

def ResourcesManifest.withDefaults (m : ResourcesManifest) : ResourcesManifest :=
  { cpuMillis := orDefault m.cpuMillis 500
    ephemeralStorageGi := orDefault m.ephemeralStorageGi 10
    memoryGi := orDefault m.memoryGi 8
    maxResidentCells := orDefault m.maxResidentCells 1000 }

def ServiceManifest.withDefaults (m : ServiceManifest) : ServiceManifest :=
  { m with type := orDefault m.type .clusterIP }

def targetsWithDefaults (m : AutoscalingTargets) : AutoscalingTargets :=
  { m with residentCellUtilization := orDefault m.residentCellUtilization 70 }

def AutoscalingManifest.withDefaults (m : AutoscalingManifest) : AutoscalingManifest :=
  { enabled := orDefault m.enabled false
    minReplicas := orDefault m.minReplicas 2
    maxReplicas := orDefault m.maxReplicas 10
    targets := m.targets.map targetsWithDefaults }

def TelemetryManifest.withDefaults (m : TelemetryManifest) : TelemetryManifest :=
  { m with
    enabled := orDefault m.enabled true
    retention := orDefault m.retention "30d" }

/-- The defaults of the schema.  An object that is absent stays absent, with the defaults of its
fields. -/
def SpecManifest.withDefaults (m : SpecManifest) : SpecManifest :=
  { m with
    deploymentPolicy := orDefault m.deploymentPolicy .restart
    clusterDomain := orDefault m.clusterDomain "cluster.local"
    celld := m.celld.withDefaults
    replicas := orDefault m.replicas 3
    resources := m.resources.map ResourcesManifest.withDefaults
    service := m.service.map ServiceManifest.withDefaults
    autoscaling := m.autoscaling.map AutoscalingManifest.withDefaults
    telemetry := m.telemetry.map TelemetryManifest.withDefaults
    durability := orDefault m.durability .bucket }

/-! ## §3. The schema. -/

/-- The largest number of format `int32`. -/
def maxInt32 : Int := 2147483647

/-- `minimum` and `maximum`. -/
def InRange (lo hi n : Int) : Prop := lo ≤ n ∧ n ≤ hi

/-- `minLength` and `maxLength`, in characters. -/
def HasLength (lo hi : Nat) (s : String) : Prop := lo ≤ s.length ∧ s.length ≤ hi

instance (lo hi n : Int) : Decidable (InRange lo hi n) := inferInstanceAs (Decidable (_ ∧ _))

instance (lo hi : Nat) (s : String) : Decidable (HasLength lo hi s) :=
  inferInstanceAs (Decidable (_ ∧ _))

/-- `has(field) && field.size() > 0`. -/
def given (field : Option String) : Bool := field.any (fun s => 0 < s.length)

/-- `[a-zA-Z0-9._-]`. -/
def isBucketChar (c : Char) : Bool := c.isAlphanum || c == '.' || c == '_' || c == '-'

/-- `[a-zA-Z0-9][a-zA-Z0-9._-]*`, then nothing, or a slash and some of these characters and
slashes. -/
def isBucketPath : List Char → Bool
  | [] => false
  | c :: cs =>
    c.isAlphanum &&
      match cs.dropWhile isBucketChar with
      | [] => true
      | slash :: path =>
        slash == '/' && !path.isEmpty && path.all (fun c => isBucketChar c || c == '/')

/-- The pattern of a bucket: one of the schemes `s3`, `gs` and `az`, and the path. -/
def isBucketName (name : String) : Bool :=
  ["s3://", "gs://", "az://"].any (fun scheme => hasPrefix name scheme) &&
    isBucketPath (name.toList.drop 5)

/-- `^[a-z0-9]+$`. -/
def isAccountName (name : String) : Bool := !name.toList.isEmpty && name.toList.all isLowerAlnum

/-- `^[a-z0-9]([a-z0-9-]{0,61}[a-z0-9])?(\.[a-z0-9]([a-z0-9-]{0,61}[a-z0-9])?)*$`. -/
def isDomainName (name : String) : Bool :=
  (splitOnChar '.' name.toList).all (fun label => isLabelText label && label.length ≤ 63)

@[mk_iff]
structure CredentialsManifest.Conforms (m : CredentialsManifest) : Prop where
  secretRef : ∀ s ∈ m.secretRef, 1 ≤ s.length
  oneFamily : ([given m.iamRole, given m.secretRef, given m.azureClientID].filter id).length ≤ 1

instance (m : CredentialsManifest) : Decidable m.Conforms :=
  decidable_of_iff _ m.conforms_iff.symm

@[mk_iff]
structure BucketManifest.Conforms (m : BucketManifest) : Prop where
  name : isBucketName m.name = true ∧ m.name.length ≤ 1024
  endpoint : ∀ s ∈ m.endpoint, s.length ≤ 2048
  storageAccount : ∀ s ∈ m.storageAccount, HasLength 3 24 s ∧ isAccountName s = true
  credentialsFrom : ∀ c ∈ m.credentialsFrom, c.Conforms
  azureAccount : hasPrefix m.name "az://" = false ∨ given m.storageAccount = true
  s3Endpoint : m.endpoint = none ∨ m.endpoint = some "" ∨ hasPrefix m.name "s3://" = true

instance (m : BucketManifest) : Decidable m.Conforms := decidable_of_iff _ m.conforms_iff.symm

@[mk_iff]
structure ResourcesManifest.Conforms (m : ResourcesManifest) : Prop where
  cpuMillis : ∀ n ∈ m.cpuMillis, InRange 1 maxInt32 n
  ephemeralStorageGi : ∀ n ∈ m.ephemeralStorageGi, InRange 1 maxInt32 n
  memoryGi : ∀ n ∈ m.memoryGi, InRange 1 65536 n
  maxResidentCells : ∀ n ∈ m.maxResidentCells, InRange 1 maxInt32 n

instance (m : ResourcesManifest) : Decidable m.Conforms := decidable_of_iff _ m.conforms_iff.symm

/-- The bounds on the scale signals. -/
def TargetsConform (m : AutoscalingTargets) : Prop :=
  (∀ n ∈ m.residentCellUtilization, InRange 1 100 n) ∧ ∀ n ∈ m.p95LatencyMs, InRange 1 maxInt32 n

instance (m : AutoscalingTargets) : Decidable (TargetsConform m) :=
  inferInstanceAs (Decidable (_ ∧ _))

@[mk_iff]
structure AutoscalingManifest.Conforms (m : AutoscalingManifest) : Prop where
  minReplicas : ∀ n ∈ m.minReplicas, InRange 1 maxInt32 n
  maxReplicas : ∀ n ∈ m.maxReplicas, InRange 1 maxInt32 n
  targets : ∀ t ∈ m.targets, TargetsConform t
  -- a rule that reads an absent field fails
  ordered : m.minReplicas.any (fun lo => m.maxReplicas.any (fun hi => lo ≤ hi)) = true

instance (m : AutoscalingManifest) : Decidable m.Conforms := decidable_of_iff _ m.conforms_iff.symm

/-- **The schema of a spec**: its fields first, then its rules. -/
@[mk_iff]
structure SpecManifest.Conforms (m : SpecManifest) : Prop where
  deployTrackingSecretRef : ∀ s ∈ m.deployTrackingSecretRef, 1 ≤ s.length
  deploymentPolicy : m.deploymentPolicy ≠ some .unset
  clusterDomain : ∀ s ∈ m.clusterDomain, isDomainName s = true ∧ s.length ≤ 253
  storage : ∀ s ∈ m.storage, InRange 1 65536 s.sizeGi
  hostnames : m.hostnames.Nodup
  appVersion : 1 ≤ m.appVersion.length
  image : 1 ≤ m.celld.image.length
  updateStrategy : m.celld.updateStrategy ≠ some .unset
  replicas : ∀ n ∈ m.replicas, InRange 1 maxInt32 n
  bucket : m.bucket.Conforms
  resources : ∀ r ∈ m.resources, r.Conforms
  service : ∀ s ∈ m.service, s.type ≠ some .unset
  vars : ∀ v ∈ m.vars, 1 ≤ v.secretRef.length
  autoscaling : ∀ a ∈ m.autoscaling, a.Conforms
  sink : ∀ t ∈ m.telemetry, t.sink ≠ some .unset
  durability : m.durability ≠ some .unset
  tracking : m.appVersion ≠ "auto" ∨
    hasPrefix m.bucket.name "s3://" = true ∧ m.deployTrackingSecretRef.isSome = true
  fleetDurability : m.durability ≠ some .fleet ∨
    m.storage.isSome = true ∧ m.replicas.any (fun n => 3 ≤ n) = true ∧
      ∀ a ∈ m.autoscaling, a.enabled ≠ some true ∨ a.minReplicas.any (fun n => 3 ≤ n) = true

instance (m : SpecManifest) : Decidable m.Conforms := decidable_of_iff _ m.conforms_iff.symm

/-- **A name the API server takes** for a WorkerApp. -/
def NameAdmitted (name : String) : Prop := isDNS1123Subdomain name = true ∧ name.length ≤ 48

/-! ## §4. The object it holds. -/

/-- **A spec the API server holds.** -/
structure StoredSpec where
  manifest : SpecManifest
  conforms : manifest.Conforms

/-- Create a WorkerApp with this spec. -/
def create (m : SpecManifest) : Option StoredSpec :=
  if h : m.withDefaults.Conforms then some ⟨m.withDefaults, h⟩ else none

/-- `has(self.f) == has(oldSelf.f) && (!has(self.f) || self.f == oldSelf.f)`. -/
def sameField {α : Type} [DecidableEq α] (new old : Option α) : Bool :=
  new.isSome == old.isSome && (!new.isSome || decide (new = old))

/-- The rules that compare an update with the object it replaces. -/
def transitionAllowed (old new : SpecManifest) : Bool :=
  decide (new.bucket.name = old.bucket.name) &&
    sameField new.bucket.storageAccount old.bucket.storageAccount &&
    sameField new.bucket.endpoint old.bucket.endpoint &&
    sameField new.storage old.storage

/-- Replace the spec. -/
def StoredSpec.update (old : StoredSpec) (m : SpecManifest) : Option StoredSpec :=
  if transitionAllowed old.manifest m.withDefaults then create m else none

/-! ## §5. What the operator reads. -/

def CredentialsManifest.decode (m : CredentialsManifest) : BucketCredentials where
  iamRole := m.iamRole.getD ""
  secretRef := m.secretRef.getD ""
  azureClientID := m.azureClientID.getD ""

def BucketManifest.decode (m : BucketManifest) : BucketSpec where
  name := m.name
  endpoint := m.endpoint.getD ""
  storageAccount := m.storageAccount.getD ""
  region := m.region.getD ""
  credentialsFrom := m.credentialsFrom.elim {} CredentialsManifest.decode

def ResourcesManifest.decode (m : ResourcesManifest) : ResourcesSpec where
  cpuMillis := m.cpuMillis.getD 0
  ephemeralStorageGi := m.ephemeralStorageGi.getD 0
  memoryGi := m.memoryGi.getD 0
  maxResidentCells := m.maxResidentCells.getD 0

def ServiceManifest.decode (m : ServiceManifest) : ServiceShape where
  type := m.type.getD .unset
  annotations := m.annotations

def AutoscalingManifest.decode (m : AutoscalingManifest) : AutoscalingSpec where
  enabled := m.enabled.getD false
  minReplicas := m.minReplicas.getD 0
  maxReplicas := m.maxReplicas.getD 0
  targets := m.targets.getD {}

def TelemetryManifest.decode (m : TelemetryManifest) : TelemetrySpec where
  enabled := m.enabled
  sink := m.sink.getD .unset
  otlpEndpoint := m.otlpEndpoint.getD ""
  retention := m.retention.getD ""

/-- The Go value of a manifest: an absent field is the zero value of its type. -/
def SpecManifest.decode (m : SpecManifest) : WorkerAppSpec where
  deployTrackingSecretRef := m.deployTrackingSecretRef.getD ""
  deploymentPolicy := m.deploymentPolicy.getD .unset
  clusterDomain := m.clusterDomain.getD ""
  storage := m.storage
  scheduling := m.scheduling
  hostnames := m.hostnames
  appVersion := m.appVersion
  celld := { image := m.celld.image, updateStrategy := m.celld.updateStrategy.getD .unset }
  replicas := m.replicas
  bucket := m.bucket.decode
  resources := m.resources.elim {} ResourcesManifest.decode
  service := m.service.elim {} ServiceManifest.decode
  vars := m.vars
  webSockets := m.webSockets
  autoscaling := m.autoscaling.map AutoscalingManifest.decode
  telemetry := m.telemetry.elim {} TelemetryManifest.decode
  durability := m.durability.getD .unset
  trustForwardedHeaders := m.trustForwardedHeaders

/-! ## §6. Updates. -/

/-- Some updates lead from one object to the other. -/
def UpdatedTo : StoredSpec → StoredSpec → Prop :=
  Relation.ReflTransGen fun old new => ∃ m, old.update m = some new

/-- **Where the data of a WorkerApp is**: the claims and the place in the object store. -/
structure SameData (old new : WorkerAppSpec) : Prop where
  storage : new.storage = old.storage
  bucket : new.bucket.name = old.bucket.name
  endpoint : new.bucket.endpoint = old.bucket.endpoint
  account : new.bucket.storageAccount = old.bucket.storageAccount

theorem sameField_iff {α : Type} [DecidableEq α] {new old : Option α} :
    sameField new old = true ↔ new = old := by
  unfold sameField
  cases new <;> cases old <;> simp

theorem create_manifest {m : SpecManifest} {stored : StoredSpec} (h : create m = some stored) :
    stored.manifest = m.withDefaults := by
  unfold create at h
  split at h
  · cases h
    rfl
  · cases h

/-- One update leaves the data where it is. -/
theorem update_keeps {old new : StoredSpec} {m : SpecManifest} (h : old.update m = some new) :
    SameData old.manifest.decode new.manifest.decode := by
  unfold StoredSpec.update at h
  split at h
  · next hallowed =>
    have hnew := create_manifest h
    simp only [transitionAllowed, Bool.and_eq_true, decide_eq_true_eq, sameField_iff] at hallowed
    obtain ⟨⟨⟨hname, haccount⟩, hendpoint⟩, hstorage⟩ := hallowed
    rw [← hnew] at hname haccount hendpoint hstorage
    refine ⟨hstorage, hname, ?_, ?_⟩
    · show new.manifest.bucket.endpoint.getD "" = old.manifest.bucket.endpoint.getD ""
      rw [hendpoint]
    · show new.manifest.bucket.storageAccount.getD "" = old.manifest.bucket.storageAccount.getD ""
      rw [haccount]
  · cases h

/-- **No sequence of updates moves the data.** -/
theorem UpdatedTo.keeps {old new : StoredSpec} (h : UpdatedTo old new) :
    SameData old.manifest.decode new.manifest.decode := by
  induction h with
  | refl => exact ⟨rfl, rfl, rfl, rfl⟩
  | tail _ hupdate ih =>
    obtain ⟨m, hm⟩ := hupdate
    have hlast := update_keeps hm
    exact ⟨hlast.storage.trans ih.storage, hlast.bucket.trans ih.bucket,
      hlast.endpoint.trans ih.endpoint, hlast.account.trans ih.account⟩

end CelldOperator.Admission
