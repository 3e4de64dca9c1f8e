/-
  CelldOperator.Build.PodTemplate

  The desired StatefulSet and its pod template
  (`internal/controller/fleet_resources.go`).

  Probes, security contexts, ports, the topology spread and the termination
  grace are constants of the template that no other function reads; they are
  left out.  Everything that depends on the WorkerApp, the config hash or the
  resolved version is kept.
-/
import CelldOperator.Api.Client
import CelldOperator.Runtime.Version

namespace CelldOperator

/-! ## §1. Names and keys. -/

def appVersionAnnotation : String := "celld-operator.io/app-version"

def templateHashAnnotation : String := "celld-operator.io/template-hash"

def configHashAnnotation : String := "celld-operator.io/config-hash"

def azureWorkloadIdentityUseLabel : String := "azure.workload.identity/use"

/-- `annotationTrue`. -/
def annotationTrue : String := "true"

def publicPort : Nat := 8080

def internalPort : Nat := 8081

def watchVolumeName : String := "watch"

def varsVolumeName : String := "vars"

def watchDir : String := "/var/lib/celld"

def varsDir : String := "/etc/celld/vars"

/-- `fmt.Sprintf("%d", n)`. -/
def decimalInt (n : Int) : String := n.repr

/-! ## §2. The environment of the celld container. -/

/-- The variables every fleet pod has. -/
def baseEnv (app : WorkerApp) : List EnvVar :=
  [ { name := "HOME", value := "/tmp" },
    { name := "POD_NAME", fieldPath := some "metadata.name" },
    { name := "CELLD_BUCKET", value := app.spec.bucket.name },
    { name := "CELLD_INTERNAL_ADDR", value := "0.0.0.0:" ++ decimal internalPort },
    { name := "CELLD_ADVERTISE",
      value := "$(POD_NAME)." ++ internalServiceName app ++ "." ++ app.namespace_ ++ ".svc." ++
        clusterDomain app ++ ":" ++ decimal internalPort },
    { name := "CELLD_WATCH", value := watchDir },
    { name := "CELLD_SHUTDOWN_TOTAL_MS", value := "40000" },
    { name := "CELLD_MAX_RESIDENT_CELLS", value := decimalInt (maxResidentCells app) },
    { name := "CELLD_MAX_RSS_MB", value := decimalInt (memoryGi app * 1024 * 4 / 5) } ]

/-- The object-store variables. -/
def bucketEnv (app : WorkerApp) : List EnvVar :=
  (if app.spec.bucket.endpoint ≠ "" then
    [{ name := "S3_ENDPOINT", value := app.spec.bucket.endpoint }] else []) ++
  (if app.spec.bucket.region ≠ "" then
    [{ name := "AWS_REGION", value := app.spec.bucket.region }] else []) ++
  (if isAzureBucket app && app.spec.bucket.storageAccount != "" then
    [{ name := "AZURE_STORAGE_ACCOUNT_NAME", value := app.spec.bucket.storageAccount }] else [])

/-- The proof a fleet runs with: bucket when the CR pins none. -/
def resolvedDurability (app : WorkerApp) : Durability :=
  if app.spec.durability = .unset then .bucket else app.spec.durability

/-- Tags before v0.5 keep the old telemetry contract. -/
def legacyTelemetry (app : WorkerApp) : Bool :=
  match minorOf app.spec.celld.image with
  | some version => decide (version.cmp ⟨0, 5⟩ < 0)
  | none => false

/-- The telemetry variables. -/
def telemetryEnv (app : WorkerApp) : List EnvVar :=
  let telemetry := app.spec.telemetry
  let otlp := telemetry.resolvedSink == .otlp
  if telemetry.enabled.getD true then
    let otelValue :=
      if otlp && !legacyTelemetry app then
        if telemetry.otlpEndpoint = "" then "http://localhost:4318" else telemetry.otlpEndpoint
      else "1"
    [{ name := "CELLD_OTEL", value := otelValue },
     { name := "OTEL_SERVICE_NAME", value := app.name }] ++
    (if otlp then
      (if legacyTelemetry app then [{ name := "CELLD_OTEL_SINK", value := "otlp" }] else []) ++
      (if legacyTelemetry app && telemetry.otlpEndpoint != "" then
        [{ name := "OTEL_EXPORTER_OTLP_ENDPOINT", value := telemetry.otlpEndpoint }] else [])
    else if telemetry.retention ≠ "" then
      [{ name := "CELLD_OTEL_RETENTION", value := telemetry.retention }]
    else [])
  else [{ name := "CELLD_OTEL", value := "0" }]

/-- The whole environment, in the source's order. -/
def fleetEnv (app : WorkerApp) : List EnvVar :=
  baseEnv app ++ bucketEnv app ++
  [{ name := "CELLD_DURABILITY", value := (resolvedDurability app).text }] ++
  (if app.spec.trustForwardedHeaders then
    [{ name := "CELLD_TRUST_FORWARDED_HEADERS", value := "1" }] else []) ++
  telemetryEnv app ++
  (if app.spec.vars.isSome then
    [{ name := "CELLD_VARS_FILE", value := varsDir ++ "/vars.env" }] else [])

/-! ## §3. The pod spec. -/

/-- `fleetAffinity`: the topology keys of the required anti-affinity. -/
def fleetAffinity (app : WorkerApp) : List String :=
  if app.spec.storage.isNone then []
  else "kubernetes.io/hostname" ::
    (if app.spec.scheduling.spreadAcrossZones then ["topology.kubernetes.io/zone"] else [])

/-- The pod's volumes; a fleet with storage gets its watch volume from a claim. -/
def fleetVolumes (app : WorkerApp) : List Volume :=
  (if app.spec.storage.isSome then [] else [⟨watchVolumeName, .emptyDir⟩]) ++
  (match app.spec.vars with
    | some vars => [⟨varsVolumeName, .secret vars.secretRef⟩]
    | none => []) ++
  [⟨"tmp", .emptyDir⟩]

/-- The container's mounts. -/
def fleetMounts (app : WorkerApp) : List VolumeMount :=
  [{ name := watchVolumeName, mountPath := watchDir }] ++
  (if app.spec.vars.isSome then
    [{ name := varsVolumeName, mountPath := varsDir, readOnly := true }] else []) ++
  [{ name := "tmp", mountPath := "/tmp" }]

/-- The celld container. -/
def celldContainer (app : WorkerApp) : Container where
  name := celldContainerName
  image := app.spec.celld.image
  args := ["--bucket", app.spec.bucket.name, "--listen", "0.0.0.0:" ++ decimal publicPort]
  env := fleetEnv app
  envFrom := if app.spec.bucket.credentialsFrom.secretRef ≠ "" then
    [app.spec.bucket.credentialsFrom.secretRef] else []
  cpuMillis := defaultPositive app.spec.resources.cpuMillis 500
  memoryGi := memoryGi app
  ephemeralStorageGi := defaultPositive app.spec.resources.ephemeralStorageGi 10
  volumeMounts := fleetMounts app

/-- The pod spec of `buildPodTemplate`: it depends on neither the config hash nor the
version. -/
def fleetPodSpec (app : WorkerApp) : PodSpec where
  containers := [celldContainer app]
  volumes := fleetVolumes app
  nodeSelector := app.spec.scheduling.nodeSelector
  tolerations := app.spec.scheduling.tolerations
  affinityKeys := fleetAffinity app
  serviceAccountName := fleetName app

/-- The annotations of the pod template: the declarative restart triggers. -/
def templateAnnotations (app : WorkerApp) (configHash appVersion : String) : StrMap :=
  StrMap.ofList (
    (if appVersion ≠ "" ∧ app.spec.deploymentPolicy ≠ .inPlace then
      [( appVersionAnnotation, appVersion)] else []) ++
    (if configHash ≠ "" then [( configHashAnnotation, configHash)] else []))

/-- `buildPodTemplate`. -/
def buildPodTemplate (app : WorkerApp) (configHash appVersion : String) : PodTemplate where
  labels := if app.spec.bucket.credentialsFrom.azureClientID ≠ "" then
    (fleetLabels app).insert azureWorkloadIdentityUseLabel annotationTrue else fleetLabels app
  annotations := templateAnnotations app configHash appVersion
  spec := fleetPodSpec app

/-! ## §4. The StatefulSet. -/

/-- `fleetClaims`. -/
def fleetClaims (app : WorkerApp) : List PersistentVolumeClaim :=
  match app.spec.storage with
  | some storage => [⟨watchVolumeName, storage.sizeGi, storage.storageClassName⟩]
  | none => []

/-- `buildStatefulSet`. -/
def buildStatefulSet (lib : Lib) (app : WorkerApp) (configHash appVersion : String) :
    StatefulSet :=
  let template := buildPodTemplate app configHash appVersion
  { metadata :=
      { name := fleetName app
        labels := fleetLabels app
        annotations := StrMap.ofList [( templateHashAnnotation, lib.templateHash template)] }
    spec := ({ volumeClaimTemplates := fleetClaims app
               serviceName := internalServiceName app
               replicas := some (desiredReplicas app).toNat
               selector := selectorLabels app
               template := template
               partition := some 0 } : StatefulSetSpec)
    status := ({} : StatefulSetStatus) }

/-- A fleet pod runs the image the spec names. -/
@[simp] theorem stsContainerImage_fleetPodSpec (app : WorkerApp) :
    stsContainerImage (fleetPodSpec app) = app.spec.celld.image := rfl

/-- And with the durability it names. -/
theorem durabilityEnv_fleetPodSpec (app : WorkerApp) :
    durabilityEnv (fleetPodSpec app) =
      some { name := "CELLD_DURABILITY", value := (resolvedDurability app).text } := by
  -- no variable in front of it has the name
  have hbase : (baseEnv app).find? (·.name == "CELLD_DURABILITY") = none := by
    simp [baseEnv]
  have hbucket : (bucketEnv app).find? (·.name == "CELLD_DURABILITY") = none := by
    unfold bucketEnv
    rw [List.find?_append, List.find?_append]
    split <;> split <;> split <;> simp
  have hfind : (fleetEnv app).find? (·.name == "CELLD_DURABILITY") =
      some { name := "CELLD_DURABILITY", value := (resolvedDurability app).text } := by
    unfold fleetEnv
    simp [List.find?_append, hbase, hbucket]
  simp [durabilityEnv, fleetPodSpec, celldContainer, hfind]

@[simp] theorem buildStatefulSet_template (lib : Lib) (app : WorkerApp)
    (configHash appVersion : String) :
    (buildStatefulSet lib app configHash appVersion).sspec.template =
      buildPodTemplate app configHash appVersion := rfl

end CelldOperator
