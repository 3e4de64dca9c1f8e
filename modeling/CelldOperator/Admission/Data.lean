/-
  CelldOperator.Admission.Data

  **WHICH EDITS CAN MOVE THE DATA.**

  The rules of the CRD compare an update with the object it replaces.  The operator
  reads WorkerApps from a cache, so a pass may work from any version there ever was.
  No rule protects the reference to the credential Secret, which is injected whole and may
  bring a variable that the spec does not set.  Shown over every run from the first
  version on:

    • `told_celldContainer` — where a node is told to keep its cells follows from the
      fields the rules protect,
    • `data_stays`          — the claims of the StatefulSet, and the place in the object
      store that every template and every pod is told, are those of the first version.
-/
import CelldOperator.Admission.Refusal
import CelldOperator.Startup.Trust

namespace CelldOperator

open Effect Prog Admission

/-! ## §1. Where a node keeps its cells. -/

/-- The variables the operator says with where the object store is. -/
def storeNames : List String := ["CELLD_BUCKET", "S3_ENDPOINT", "AZURE_STORAGE_ACCOUNT_NAME"]

section

variable {app app' : WorkerApp}

theorem storeEnv_telemetryEnv :
    (telemetryEnv app).filter (fun var => storeNames.contains var.name) = [] := by
  rw [List.filter_eq_nil_iff]
  intro var hmem hstore
  have hname := telemetryEnv_names.subset (List.mem_map_of_mem hmem)
  have hdisjoint : ∀ name ∈ ["CELLD_OTEL", "OTEL_SERVICE_NAME"] ++ ["CELLD_OTEL_SINK",
      "OTEL_EXPORTER_OTLP_ENDPOINT", "CELLD_OTEL_RETENTION"], storeNames.contains name = false := by
    decide
  rw [hdisjoint _ hname] at hstore
  cases hstore

/-- Of the environment, these variables are left. -/
theorem storeEnv_fleetEnv :
    (fleetEnv app).filter (fun var => storeNames.contains var.name) =
      [{ name := "CELLD_BUCKET", value := app.spec.bucket.name }] ++
      (if app.spec.bucket.endpoint ≠ "" then
        [{ name := "S3_ENDPOINT", value := app.spec.bucket.endpoint }] else []) ++
      (if isAzureBucket app && app.spec.bucket.storageAccount != "" then
        [{ name := "AZURE_STORAGE_ACCOUNT_NAME", value := app.spec.bucket.storageAccount }]
        else []) := by
  have hone : ∀ (c : Prop) [Decidable c] (var : EnvVar),
      (if c then [var] else []).filter (fun var => storeNames.contains var.name) =
        if c ∧ storeNames.contains var.name = true then [var] else [] := by
    intro c _ var
    by_cases hc : c
    · simp only [hc, if_true, true_and, List.filter_cons, List.filter_nil]
    · simp only [hc, if_false, false_and, List.filter_nil]
  have hbase : (baseEnv app).filter (fun var => storeNames.contains var.name) =
      [{ name := "CELLD_BUCKET", value := app.spec.bucket.name }] := rfl
  have hdurability : [({ name := "CELLD_DURABILITY", value := (resolvedDurability app).text } :
      EnvVar)].filter (fun var => storeNames.contains var.name) = [] := rfl
  have hstore : storeNames.contains "S3_ENDPOINT" = true ∧
      storeNames.contains "AZURE_STORAGE_ACCOUNT_NAME" = true := by decide
  have hother : storeNames.contains "AWS_REGION" = false ∧
      storeNames.contains "CELLD_TRUST_FORWARDED_HEADERS" = false ∧
      storeNames.contains "CELLD_VARS_FILE" = false := by decide
  unfold fleetEnv bucketEnv
  simp only [List.filter_append, hone, hbase, hdurability, storeEnv_telemetryEnv, hstore, hother,
    and_true, Bool.false_eq_true, and_false, if_false, List.append_nil, List.nil_append,
    List.append_assoc]

/-- Only the entries of these variables matter to them. -/
theorem told_of_filter {container container' : Container} {name : String} (hname : name ∈ storeNames)
    (h : container.env.filter (fun var => storeNames.contains var.name) =
      container'.env.filter (fun var => storeNames.contains var.name)) :
    container.told name = container'.told name := by
  have hfind : ∀ env : List EnvVar, env.reverse.find? (·.name == name) =
      (env.filter (fun var => storeNames.contains var.name)).reverse.find? (·.name == name) := by
    intro env
    rw [← List.filter_reverse, List.find?_filter]
    refine congrArg (List.find? · env.reverse) (funext fun var => ?_)
    by_cases hvar : var.name = name
    · simp [hvar, hname]
    · simp [hvar]
  unfold Container.told
  rw [hfind, h, ← hfind]

/-- **The place follows from the protected fields.** -/
theorem told_celldContainer (h : SameData app.spec app'.spec) {name : String}
    (hname : name ∈ storeNames) :
    (celldContainer app').told name = (celldContainer app).told name := by
  refine told_of_filter hname ?_
  show (fleetEnv app').filter (fun var => storeNames.contains var.name) =
    (fleetEnv app).filter (fun var => storeNames.contains var.name)
  rw [storeEnv_fleetEnv, storeEnv_fleetEnv]
  unfold isAzureBucket
  rw [h.bucket, h.endpoint, h.account]

end

/-! ## §2. Whole runs. -/

/-- A pass over a version of the WorkerApp that updates lead to. -/
def EditedFrom (name : String) (first : StoredSpec) (j : FleetPass) : Prop :=
  j.app.name = name ∧ ∃ stored, UpdatedTo first stored ∧ j.app.spec = stored.manifest.decode

/-- **Every container of the pod spec has its cells where `app` has them**: it has the arguments,
and sees the variables as `app` sets them.  One that `app` does not set it does not see, unless a
Secret that is injected whole brings it. -/
structure KeptWith (app : WorkerApp) (spec : PodSpec) : Prop where
  args : ∀ container ∈ spec.containers, container.args = (celldContainer app).args
  sees : ∀ container ∈ spec.containers, ∀ secrets, ∀ name ∈ storeNames,
    ((celldContainer app).told name ≠ none ∨ ∀ ref ∈ container.envFrom, secrets ref name = none) →
      container.sees secrets name = ((celldContainer app).told name).map bytes

section

variable {name : String} {first : StoredSpec} {app : WorkerApp} {j : FleetPass}

theorem EditedFrom.sameData (hj : EditedFrom name first j)
    (happ : app.spec = first.manifest.decode) : SameData app.spec j.app.spec := by
  obtain ⟨-, stored, hedited, hspec⟩ := hj
  rw [happ, hspec]
  exact hedited.keeps

theorem keptWith_of_builtBy (happ : app.spec = first.manifest.decode) {template : PodTemplate}
    (h : BuiltBy (EditedFrom name first) template) : KeptWith app template.spec := by
  obtain ⟨j, hash, hj, rfl⟩ := h
  have hsame := hj.sameData happ
  constructor
  · intro container hmem
    obtain rfl : container = celldContainer j.app := List.mem_singleton.mp hmem
    show ["--bucket", j.app.spec.bucket.name, _, _] = ["--bucket", app.spec.bucket.name, _, _]
    rw [hsame.bucket]
  · intro container hmem secrets name hname hset
    obtain rfl : container = celldContainer j.app := List.mem_singleton.mp hmem
    have htold := told_celldContainer hsame hname
    cases hfirst : (celldContainer app).told name with
    | some value =>
      rw [hfirst] at htold
      exact Container.sees_of_told htold
    | none =>
      rw [hfirst] at htold
      have hnone := hset.resolve_left (not_not_intro hfirst)
      rw [Container.sees_of_untold htold]
      exact List.findSome?_eq_none_iff.mpr fun ref href => hnone ref (List.mem_reverse.mp href)

/-- The passes over the versions of one WorkerApp are passes over one storage. -/
theorem EditedFrom.onStorage (hj : EditedFrom name first j)
    (happ : app.spec = first.manifest.decode) : OnStorage name app.spec.storage j :=
  ⟨hj.1, (hj.sameData happ).storage⟩

end

/-- **No edit tells a node another place.**  Operators make any number of passes over a WorkerApp,
each from any version that updates of the first one have led to, while Kubernetes and the autoscaler
do what they do: the claims of the StatefulSet stay those of the first version, and the stored
template, the current revision and every pod keep their cells where the first version has them,
as long as no credential Secret brings a variable that version does not set. -/
theorem data_stays (app : WorkerApp) (first : StoredSpec)
    (happ : app.spec = first.manifest.decode) (w : World)
    (hr : (fleetRuns app.name (EditedFrom app.name first)).Reachable
      (fun w => NoFleet app.name w ∧ w.cluster.pods = []) w) :
    (∀ sts, w.cluster.live .statefulSet (fleetName app) = some sts →
        sts.sspec.volumeClaimTemplates = fleetClaims app ∧
        KeptWith app sts.sspec.template.spec ∧ KeptWith app w.current.spec) ∧
      ∀ pod ∈ w.cluster.pods, KeptWith app pod.spec := by
  have hstart : ∀ T : PodTemplate → Prop, (fleetRuns app.name (EditedFrom app.name first)).Reachable
      (NoFleetYet T app.name) w := by
    intro T
    obtain ⟨w₀, ⟨hnone, hpods⟩, hsteps⟩ := hr
    refine ⟨w₀, ⟨hnone, ?_⟩, hsteps⟩
    rw [hpods]
    exact nofun
  -- templates are built by the passes; the claims are those of the one storage they share
  have hplace := worldHas_reachable (templateRule (EditedFrom app.name first)) (hstart _)
  have hclaims := worldHas_reachable
    ((storageRule app.name app.spec.storage).mono fun j hj => hj.onStorage happ) (hstart _)
  refine ⟨fun sts hlive => ⟨?_, keptWith_of_builtBy happ (hplace.stored sts hlive),
    keptWith_of_builtBy happ (hplace.current sts hlive)⟩, fun pod hpod => ?_⟩
  · obtain ⟨app', -, -, -, hstorage, -, -, -, hbuilt⟩ := hclaims.stored sts hlive
    rw [hbuilt]
    unfold fleetClaims
    rw [hstorage]
  · obtain ⟨template, hbuilt, hspec⟩ := hplace.pods pod hpod
    rw [hspec]
    exact keptWith_of_builtBy happ hbuilt

/-- Another runtime and another region, in the same place. -/
def movedManifest : SpecManifest :=
  { hostedManifest [] with
    celld := { image := "ghcr.io/denoland/celld:v0.5.2" }
    bucket := { name := "s3://cells/shop", region := some "eu-west-1" } }

def firstSpec : StoredSpec := hostedSpec [] (by decide +kernel)

/-- The update is admitted. -/
def movedSpec : StoredSpec := (firstSpec.update movedManifest).get (by decide +kernel)

/-- The pass over a version. -/
def versionPass (stored : StoredSpec) (w : World) : Trace × World × Except Err FleetOutcome :=
  runWith (S := Api) (answerWorld {}) (reconcileFleet sampleReconciler (storedApp stored) "7") w

/-- The first version is created and edited before a pod of the fleet comes up: its cells are where
the first version has them. -/
theorem data_stays_edited :
    ∃ pod ∈ (createPod "shop-celld" 0
        (versionPass movedSpec (versionPass firstSpec emptyWorld).2.1).2.1).cluster.pods,
      KeptWith (storedApp firstSpec) pod.spec := by
  have hpods : (createPod "shop-celld" 0
      (versionPass movedSpec (versionPass firstSpec emptyWorld).2.1).2.1).cluster.pods.length = 1 := by
    decide +kernel
  obtain ⟨pod, hpod⟩ := List.exists_mem_of_length_pos (by rw [hpods]; exact Nat.one_pos)
  refine ⟨pod, hpod, ?_⟩
  have hupdate : firstSpec.update movedManifest = some movedSpec := (Option.some_get _).symm
  have hpass : ∀ stored w, UpdatedTo firstSpec stored →
      (fleetRuns "shop" (EditedFrom "shop" firstSpec)).Step w (versionPass stored w).2.1 := by
    intro stored w hedited
    exact .job (j := ⟨sampleReconciler, storedApp stored, "7"⟩) ⟨rfl, rfl, stored, hedited, rfl⟩
      (exec_runWith (serve_answerWorld {}) _ _)
  have hr : (fleetRuns "shop" (EditedFrom "shop" firstSpec)).Reachable
      (fun w => NoFleet "shop" w ∧ w.cluster.pods = [])
      (versionPass movedSpec (versionPass firstSpec emptyWorld).2.1).2.1 :=
    ⟨emptyWorld, ⟨rfl, rfl⟩, .tail (.single (hpass firstSpec _ .refl))
      (hpass movedSpec _ (.single ⟨movedManifest, hupdate⟩))⟩
  refine (data_stays (storedApp firstSpec) firstSpec rfl _ ?_).2 pod hpod
  rcases kubeMove_createPod "shop-celld" 0 (versionPass movedSpec
    (versionPass firstSpec emptyWorld).2.1).2.1 with hsame | hmove
  · rw [hsame]
    exact hr
  · exact hr.step (.others (.kube hmove))

end CelldOperator
