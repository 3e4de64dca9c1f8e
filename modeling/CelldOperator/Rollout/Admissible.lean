/-
  CelldOperator.Rollout.Admissible

  **EVERY WRITE OF A FLEET FITS ITSELF AND WHAT IS STORED.**

  Beside resource versions the API server validates.  Of its checks the model has
  those that compare parts of a StatefulSet with each other (the selector with the
  labels, the mounts with the volumes, the names of containers, volumes, mount paths
  and variables among themselves) and with the stored one (an update leaves the
  selector, the service and the claim templates alone); the format of single fields
  is not among them.  The template of a fleet is rebuilt from the spec of the day
  while the claims stay, so this rests on the storage of a WorkerApp being immutable,
  as the CRD has it.

    • `wellFormed_build`       — the claims and the template of one storage fit,
    • `FleetWrite.builtFor`    — each of the six writes, over what the pass has read,
    • `storageRule`            — what every run keeps,
    • `fleet_admissible`       — every write at every point of every run.
-/
import CelldOperator.Rollout.Provenance

namespace CelldOperator

open Effect Prog

/-! ## §1. What the API server asks for. -/

/-- The volumes of a pod: one for each claim template, then those of the pod template. -/
def podVolumes (spec : StatefulSetSpec) : List String :=
  spec.volumeClaimTemplates.map (·.name) ++ spec.template.spec.volumes.map (·.name)

/-- **A well-formed StatefulSet**: it selects its own pods, and each pod can be built. -/
structure WellFormed (spec : StatefulSetSpec) : Prop where
  selects : stringMapSubset spec.selector spec.template.labels = true
  bounded : spec.selector ≠ ∅
  runs : spec.template.spec.containers ≠ []
  named : (spec.template.spec.containers.map (·.name)).Nodup
  volumes : (podVolumes spec).Nodup
  mounted : ∀ container ∈ spec.template.spec.containers, ∀ mount ∈ container.volumeMounts,
    mount.name ∈ podVolumes spec
  paths : ∀ container ∈ spec.template.spec.containers,
    (container.volumeMounts.map (·.mountPath)).Nodup
  env : ∀ container ∈ spec.template.spec.containers, (container.env.map (·.name)).Nodup

/-- What an update may not touch. -/
structure KeepsFixed (cur sent : StatefulSetSpec) : Prop where
  selector : sent.selector = cur.selector
  service : sent.serviceName = cur.serviceName
  claims : sent.volumeClaimTemplates = cur.volumeClaimTemplates

/-- **Admission** of a write, by what is stored under the name. -/
def Admissible (n : String) (w : World) : Op → Prop
  | .create .statefulSet sent => WellFormed sent.sspec
  | .update .statefulSet sent =>
    ∀ cur, w.cluster.live .statefulSet n = some cur → cur.rv = sent.rv →
      KeepsFixed cur.sspec sent.sspec ∧ WellFormed sent.sspec
  | _ => True

/-! ## §2. What the operator builds. -/

/-- Every variable a fleet may have, in the source's order. -/
def envNames : List String :=
  ["HOME", "POD_NAME", "CELLD_BUCKET", "CELLD_INTERNAL_ADDR", "CELLD_ADVERTISE", "CELLD_WATCH",
    "CELLD_SHUTDOWN_TOTAL_MS", "CELLD_MAX_RESIDENT_CELLS", "CELLD_MAX_RSS_MB"] ++
  (["S3_ENDPOINT"] ++ ["AWS_REGION"] ++ ["AZURE_STORAGE_ACCOUNT_NAME"]) ++
  ["CELLD_DURABILITY"] ++ ["CELLD_TRUST_FORWARDED_HEADERS"] ++
  (["CELLD_OTEL", "OTEL_SERVICE_NAME"] ++ ["CELLD_OTEL_SINK", "OTEL_EXPORTER_OTLP_ENDPOINT",
    "CELLD_OTEL_RETENTION"]) ++ ["CELLD_VARS_FILE"]

section

variable {app : WorkerApp} {hash v : String}

/-- A variable that is there or not. -/
theorem optional_names {c : Prop} [Decidable c] (var : EnvVar) :
    ((if c then [var] else []).map (·.name)).Sublist [var.name] := by
  split
  · exact List.Sublist.refl _
  · exact List.nil_sublist _

theorem telemetryEnv_names :
    ((telemetryEnv app).map (·.name)).Sublist (["CELLD_OTEL", "OTEL_SERVICE_NAME"] ++
      ["CELLD_OTEL_SINK", "OTEL_EXPORTER_OTLP_ENDPOINT", "CELLD_OTEL_RETENTION"]) := by
  unfold telemetryEnv
  dsimp only
  split
  · rw [List.map_append]
    refine List.Sublist.append (List.Sublist.refl _) ?_
    split
    · -- one of the sinks at most
      rw [List.map_append]
      exact (List.Sublist.append (optional_names _) (optional_names _)).trans
        (List.sublist_append_left ["CELLD_OTEL_SINK", "OTEL_EXPORTER_OTLP_ENDPOINT"]
          ["CELLD_OTEL_RETENTION"])
    · exact (optional_names _).trans
        (List.sublist_append_right ["CELLD_OTEL_SINK", "OTEL_EXPORTER_OTLP_ENDPOINT"]
          ["CELLD_OTEL_RETENTION"])
  · decide

/-- No variable is set twice. -/
theorem fleetEnv_names : ((fleetEnv app).map (·.name)).Nodup := by
  have hsub : ((fleetEnv app).map (·.name)).Sublist envNames := by
    unfold fleetEnv envNames bucketEnv
    simp only [List.map_append]
    refine List.Sublist.append (List.Sublist.append (List.Sublist.append (List.Sublist.append
      (List.Sublist.append (List.Sublist.refl _) ?_) (List.Sublist.refl _)) (optional_names _))
      telemetryEnv_names) (optional_names _)
    exact List.Sublist.append (List.Sublist.append (optional_names _) (optional_names _))
      (optional_names _)
  exact hsub.nodup (by decide)

/-- The volumes of a fleet, by name: the data, the variables if there are any, the scratch space. -/
def volumeNames (app : WorkerApp) : List String :=
  watchVolumeName :: ((if app.spec.vars.isSome then [varsVolumeName] else []) ++ ["tmp"])

theorem volumeNames_nodup : (volumeNames app).Nodup := by
  unfold volumeNames
  generalize app.spec.vars.isSome = hasVars
  cases hasVars <;> decide

/-- The data is on a claim or on an empty volume, never on both. -/
theorem podVolumes_build {spec : StatefulSetSpec}
    (htemplate : spec.template = buildPodTemplate app hash v)
    (hclaims : spec.volumeClaimTemplates = fleetClaims app) : podVolumes spec = volumeNames app := by
  unfold podVolumes volumeNames
  rw [htemplate, hclaims]
  show (fleetClaims app).map (·.name) ++ (fleetVolumes app).map (·.name) = _
  unfold fleetClaims fleetVolumes
  cases app.spec.storage <;> cases app.spec.vars <;> rfl

/-- Each volume is mounted, once. -/
theorem fleetMounts_names : (fleetMounts app).map (·.name) = volumeNames app := by
  unfold fleetMounts volumeNames
  cases app.spec.vars <;> rfl

theorem fleetMounts_paths : ((fleetMounts app).map (·.mountPath)).Nodup := by
  unfold fleetMounts
  generalize app.spec.vars.isSome = hasVars
  cases hasVars <;> decide

/-- **The claims and the template of one storage fit together.** -/
theorem wellFormed_build {spec : StatefulSetSpec}
    (htemplate : spec.template = buildPodTemplate app hash v)
    (hselector : spec.selector = selectorLabels app)
    (hclaims : spec.volumeClaimTemplates = fleetClaims app) : WellFormed spec := by
  have hvolumes := podVolumes_build htemplate hclaims
  have hcontainers : spec.template.spec.containers = [celldContainer app] := by rw [htemplate]; rfl
  have hcelld : ∀ container ∈ spec.template.spec.containers, container = celldContainer app := by
    intro container hmem
    rw [hcontainers] at hmem
    exact List.mem_singleton.mp hmem
  constructor
  · rw [hselector, htemplate]
    exact selectorFor_subset app hash v
  · rw [hselector]
    intro hempty
    have hlookup : (selectorLabels app).lookup "celld-operator.io/workerapp" = some app.name :=
      Finmap.lookup_insert _
    rw [hempty] at hlookup
    cases hlookup
  · rw [hcontainers]
    exact List.cons_ne_nil _ _
  · rw [hcontainers]
    exact List.nodup_singleton _
  · rw [hvolumes]
    exact volumeNames_nodup
  · intro container hmem mount hmount
    cases hcelld container hmem
    rw [hvolumes, ← fleetMounts_names]
    exact List.mem_map_of_mem hmount
  · intro container hmem
    cases hcelld container hmem
    exact fleetMounts_paths
  · intro container hmem
    cases hcelld container hmem
    exact fleetEnv_names

end

/-! ## §3. What the writes keep. -/

/-- **Built for this WorkerApp**: the template comes from some spec of it with this storage, the
rest from its name and the storage. -/
def BuiltFor (name : String) (storage : Option StorageSpec) (spec : StatefulSetSpec) : Prop :=
  ∃ app hash v, app.name = name ∧ app.spec.storage = storage ∧
    spec.template = buildPodTemplate app hash v ∧ spec.selector = selectorLabels app ∧
    spec.serviceName = internalServiceName app ∧ spec.volumeClaimTemplates = fleetClaims app

section

variable {r : Reconciler} {app : WorkerApp} {h : Trace} {c c' : Cluster} {n name hash v : String}
  {storage : Option StorageSpec} {existing desired o : StatefulSet} {spec spec' : StatefulSetSpec}

theorem BuiltFor.wellFormed (hb : BuiltFor name storage spec) : WellFormed spec := by
  obtain ⟨app, hash, v, -, -, htemplate, hselector, -, hclaims⟩ := hb
  exact wellFormed_build htemplate hselector hclaims

theorem builtFor_desiredFleet :
    BuiltFor app.name app.spec.storage (desiredFleet r app hash v).sspec :=
  ⟨app, hash, v, rfl, rfl, rfl, rfl, rfl, rfl⟩

/-- Counts and partitions do not matter. -/
theorem BuiltFor.congr (hb : BuiltFor name storage spec) (hid : KeepsFixed spec spec')
    (htemplate : spec'.template = spec.template) : BuiltFor name storage spec' := by
  obtain ⟨app, hash, v, hname, hstorage, ht, hs, hsvc, hc⟩ := hb
  exact ⟨app, hash, v, hname, hstorage, htemplate.trans ht, hid.selector.trans hs,
    hid.service.trans hsvc, hid.claims.trans hc⟩

/-- A template of another spec, on the same storage. -/
theorem BuiltFor.rebuilt (hb : BuiltFor app.name app.spec.storage spec)
    (hid : KeepsFixed spec spec') (htemplate : spec'.template = buildPodTemplate app hash v) :
    BuiltFor app.name app.spec.storage spec' := by
  obtain ⟨app₀, -, -, hname, hstorage, -, hs, hsvc, hc⟩ := hb
  refine ⟨app, hash, v, rfl, rfl, htemplate, ?_, ?_, ?_⟩
  · rw [hid.selector, hs]
    unfold selectorLabels
    rw [hname]
  · rw [hid.service, hsvc]
    unfold internalServiceName
    rw [hname]
  · rw [hid.claims, hc]
    unfold fleetClaims
    rw [hstorage]

/-- No write of a pass touches what is immutable. -/
theorem FleetWrite.keepsFixed (hk : Knows h c) (hmem : existing ∈ c.past .statefulSet n)
    (hw : FleetWrite r app existing desired h o) : KeepsFixed existing.sspec o.sspec := by
  cases hw with
  | rollingStart | scaleDown | recreateStart | scale => exact ⟨rfl, rfl, rfl⟩
  | rollout idle same write =>
    cases write with
    | clamp high => exact ⟨rfl, rfl, rfl⟩
    | release base partition now start gates clock =>
      obtain ⟨rfl, -, -⟩ := start.exact hk hmem gates.observed
      exact ⟨rfl, rfl, rfl⟩

/-- **What a write sends is built for the WorkerApp**, if what it replaces is. -/
theorem FleetWrite.builtFor (hk : Knows h c) (hmem : existing ∈ c.past .statefulSet n)
    (hw : FleetWrite r app existing (desiredFleet r app hash v) h o)
    (hb : BuiltFor app.name app.spec.storage existing.sspec) :
    BuiltFor app.name app.spec.storage o.sspec := by
  have hid := hw.keepsFixed hk hmem
  rcases hw.template_cases hk hmem with hold | hnew
  · exact hb.congr hid hold
  · exact hb.rebuilt hid hnew

end

/-! ## §4. Whole runs. -/

/-- The passes that keep this storage. -/
def OnStorage (name : String) (storage : Option StorageSpec) (j : FleetPass) : Prop :=
  j.app.name = name ∧ j.app.spec.storage = storage

/-- **What the passes over one storage keep.** -/
theorem storageRule (name : String) (storage : Option StorageSpec) :
    SpecRule (OnStorage name storage) (BuiltFor name storage) (fun _ => True) where
  created := by
    rintro j hash ⟨rfl, rfl⟩
    exact builtFor_desiredFleet
  scaled := fun _ _ hb => hb.congr ⟨rfl, rfl, rfl⟩ rfl
  written := by
    rintro j h c n hash existing sent ⟨rfl, rfl⟩ hk hmem hw hb
    exact hw.builtFor hk hmem hb
  template := fun _ _ => trivial

/-- **What is sent next is admissible.** -/
theorem HasPass.admissible {j : FleetPass} {h : Trace} {w : World} {o : Op} {res : Resp o}
    (hp : HasPass (BuiltFor j.app.name j.app.spec.storage) (fun _ => True) j h w)
    (he : FleetEvent j.r j.app j.appVersion h ⟨o, res⟩) : Admissible (fleetName j.app) w o := by
  unfold Admissible
  split
  · obtain ⟨hash, e', -, heq, -, -⟩ := he
    rw [heq]
    exact builtFor_desiredFleet.wellFormed
  · next sent =>
    intro cur hlive hrv
    obtain ⟨hash, existing, guards, hw, -⟩ := he
    -- a write of another version than the live one is a conflict
    have hmem := hp.knows.read _ _ _ guards.toBasis.read
    have hcur : cur = existing :=
      Versioned.token_inj (Cluster.mem_past_of_live hlive) hmem
        (hrv.trans (hw.identity hp.knows hmem).2)
    subst hcur
    exact ⟨hw.keepsFixed hp.knows hmem,
      (hw.builtFor hp.knows hmem (hp.has.stored cur hlive)).wellFormed⟩
  · trivial

/-- **Every write is admissible.**  From any state that passes over one WorkerApp and its storage
reach, whatever its other fields become, whatever Kubernetes and the autoscaler do, at any point of
any further pass: the StatefulSet the pass asks to create is well formed, and the one it asks to
store, unless it loses to a concurrent write, keeps the selector, the service and the claim
templates and is well formed again. -/
theorem fleet_admissible (name : String) (storage : Option StorageSpec) (w w' : World)
    (hr : (fleetRuns name (OnStorage name storage)).Reachable (NoFleetYet (fun _ => True) name) w)
    (j : FleetPass) (hj : OnStorage name storage j) (t : Trace) (o : Op)
    (next : Resp o → P (Except Err FleetOutcome))
    (hx : Exec ServeWorld (ScaleMove (name ++ "-celld") fun _ _ => True) w
      (reconcileFleet j.r j.app j.appVersion) t w' (.call o next)) :
    Admissible (name ++ "-celld") w' o := by
  have hrule := storageRule name storage
  have hstart := worldHas_reachable hrule hr
  obtain ⟨rfl, rfl⟩ := hj
  obtain ⟨hp, hv⟩ := hx.rely_guarantee
    (H := fun h w => HasPass (BuiltFor j.app.name j.app.spec.storage) (fun _ => True) j h w)
    (fun _ _ _ hp hmove => hp.move hrule hmove)
    (fun _ _ _ _ _ hp he hs => hp.call hrule ⟨rfl, rfl⟩ he hs)
    (reconcileFleet_valid j.r j.app j.appVersion) ⟨knows_nil _, hstart⟩
  cases o with
  | create k sent => exact hp.admissible (valid_call.mp hv (.error (.other ""))).1
  | update k sent => exact hp.admissible (valid_call.mp hv (.error (.other ""))).1
  | _ => trivial

/-- The WorkerApp with this many replicas, on its storage. -/
def countedApp (count : Int) : WorkerApp :=
  let app := sampleApp "ghcr.io/denoland/celld:v0.5.1" .rolling
  { app with spec := { app.spec with replicas := some count } }

/-- A pass for it over the world, with every call answered. -/
def countedPass (count : Int) (w : World) : Trace × World × Except Err FleetOutcome :=
  runWith (S := Api) (answerWorld {}) (reconcileFleet sampleReconciler (countedApp count) "1") w

/-- The StatefulSets updated along a trace. -/
def updatedFleets (t : Trace) : List StatefulSet :=
  t.filterMap fun e => match e.op with
    | .update .statefulSet o => some o
    | _ => none

/-- A fleet is created and then scaled: the update is admissible. -/
theorem fleet_admissible_scaled :
    ∃ w' sent, Admissible "shop-celld" w' (.update .statefulSet sent) := by
  have hupdated : updatedFleets (countedPass 4 (countedPass 3 emptyWorld).2.1).1 ≠ [] := by
    decide +kernel
  obtain ⟨sent, hsent⟩ := List.exists_mem_of_ne_nil _ hupdated
  obtain ⟨⟨o, res⟩, hmem, heq⟩ := List.mem_filterMap.mp hsent
  obtain ⟨h, rest, hsplit⟩ := List.append_of_mem hmem
  have hr : (fleetRuns "shop" (OnStorage "shop" (countedApp 3).spec.storage)).Reachable
      (NoFleetYet (fun _ => True) "shop") (countedPass 3 emptyWorld).2.1 :=
    ⟨emptyWorld, ⟨rfl, nofun⟩, .single (.job (j := ⟨sampleReconciler, countedApp 3, "1"⟩)
      ⟨rfl, rfl, rfl⟩ (exec_runWith (serve_answerWorld {}) _ _))⟩
  obtain ⟨w', -, next, hx, -, -⟩ := (exec_runWith (serve_answerWorld {})
    (reconcileFleet sampleReconciler (countedApp 4) "1") (countedPass 3 emptyWorld).2.1).split hsplit
  refine ⟨w', sent, ?_⟩
  cases o with
  | update k obj =>
    cases k with
    | statefulSet =>
      cases heq
      exact fleet_admissible "shop" (countedApp 3).spec.storage _ w' hr
        ⟨sampleReconciler, countedApp 4, "1"⟩ ⟨rfl, rfl⟩ h _ next hx
    | _ => cases heq
  | _ => cases heq

end CelldOperator
