/-
  CelldOperator.Startup.Trust

  **WHAT MAY RUN.**

  The flags draw the trust boundary: which images may run, and which S3 endpoints they
  may be pointed at.  Whoever may edit a WorkerApp is on the other side of it.  A Secret
  that is injected whole may bring variables of its own; those the flags do not see.
  Shown over every run, restarts with other flags included:

    • `trustedImage_of_valid` — an accepted image begins with an item of the flag, and
      no text of the flag makes that item empty,
    • `trustedPod_fleetPodSpec` — the pod spec built of an accepted WorkerApp,
    • `fleet_trusted`         — the stored template, the current revision and every pod
      of a fleet are inside the boundary of an operator that has run.
-/
import CelldOperator.Rollout.Admissible
import CelldOperator.Secrets.Credentials
import CelldOperator.Startup.Main

namespace CelldOperator

open Effect Prog Startup

/-! ## §1. What a container sees. -/

/-- What the Secrets of a namespace hold under a key when a container starts. -/
abbrev SecretValues := String → String → Option (List UInt8)

/-- The variable, as the template itself sets it; the last entry counts. -/
def Container.told (container : Container) (name : String) : Option String :=
  (container.env.reverse.find? (·.name == name)).map (·.value)

/-- The variable, as the container sees it: where the template does not set it, from the Secrets
that are injected whole, the last of them first. -/
def Container.sees (container : Container) (secrets : SecretValues) (name : String) :
    Option (List UInt8) :=
  match container.told name with
  | some value => some (bytes value)
  | none => container.envFrom.reverse.findSome? (secrets · name)

section

variable {container : Container} {secrets : SecretValues} {name value : String}

theorem Container.mem_of_told (h : container.told name = some value) :
    ∃ var ∈ container.env, var.name = name ∧ var.value = value := by
  obtain ⟨var, hfind, hvalue⟩ := Option.map_eq_some_iff.mp h
  have hname := List.find?_some (p := fun var : EnvVar => var.name == name) hfind
  exact ⟨var, List.mem_reverse.mp (List.mem_of_find?_eq_some hfind), beq_iff_eq.mp hname, hvalue⟩

theorem Container.sees_of_told (h : container.told name = some value) :
    container.sees secrets name = some (bytes value) := by
  unfold Container.sees
  rw [h]

theorem Container.sees_of_untold (h : container.told name = none) :
    container.sees secrets name = container.envFrom.reverse.findSome? (secrets · name) := by
  unfold Container.sees
  rw [h]

end

/-! ## §2. Inside the boundary. -/

/-- The image begins with an item of the flag, or with the default when the flag lists nothing. -/
def TrustedImage (flags : Flags) (image : String) : Prop :=
  ∃ item, item ≠ "" ∧ hasPrefix image item = true ∧
    (ListItem flags.allowedImagePrefixes item ∨
      splitList flags.allowedImagePrefixes = [] ∧ item = "ghcr.io/denoland/celld:")

/-- The endpoint is an item of the flag, and an HTTPS URL without credentials. -/
def TrustedStore (lib : Lib) (flags : Flags) (endpoint : String) : Prop :=
  ListItem flags.allowedBucketEndpoints endpoint ∧ ∃ url, lib.parseURL endpoint = some url ∧
    url.scheme = "https" ∧ url.hostname ≠ "" ∧ url.hasUser = false ∧ url.rawQuery = "" ∧
    url.fragment = ""

/-- **A pod inside the boundary**: the images it runs, and the S3 endpoint it sees, if any.  That
one is trusted, unless the template sets none and a Secret that is injected whole brings it. -/
structure TrustedPod (lib : Lib) (flags : Flags) (spec : PodSpec) : Prop where
  image : ∀ container ∈ spec.containers, TrustedImage flags container.image
  store : ∀ container ∈ spec.containers, ∀ secrets value,
    container.sees secrets "S3_ENDPOINT" = some value →
      (∃ endpoint, value = bytes endpoint ∧ TrustedStore lib flags endpoint) ∨
        (container.told "S3_ENDPOINT" = none ∧
          ∃ ref ∈ container.envFrom, secrets ref "S3_ENDPOINT" = some value)

section

variable {lib : Lib} {flags : Flags} {op : Operator} {app : WorkerApp}

/-- **An accepted image.** -/
theorem trustedImage_of_valid (hmain : main lib flags = some op)
    (hvalid : validateApp op.reconciler app = .ok ()) :
    TrustedImage flags app.spec.celld.image := by
  have htrust := (passedChecks_of_valid hvalid).trust
  unfold validateTrust at htrust
  obtain ⟨_, himage, -⟩ := of_bind_ok htrust
  have hany := of_refuseIf himage
  rw [Bool.not_eq_false', List.any_eq_true] at hany
  obtain ⟨item, hitem, hpre⟩ := hany
  rw [(main_lists hmain).2.1] at hitem
  split at hitem
  · next hempty =>
    obtain rfl := List.mem_singleton.mp hitem
    exact ⟨_, by decide, hpre, .inr ⟨List.isEmpty_iff.mp hempty, rfl⟩⟩
  · have hlisted := listItem_of_splitList hitem
    exact ⟨item, hlisted.nonempty, hpre, .inl hlisted⟩

theorem trustedStore_of_valid (hmain : main lib flags = some op)
    (hvalid : validateApp op.reconciler app = .ok ()) (hset : app.spec.bucket.endpoint ≠ "") :
    TrustedStore lib flags app.spec.bucket.endpoint := by
  obtain ⟨hlib, -, hlist⟩ := main_lists hmain
  obtain ⟨hmem, url, hurl, hchecks⟩ := (trustedEndpoint_of_valid hvalid).resolve_left hset
  rw [hlist] at hmem
  rw [hlib] at hurl
  exact ⟨listItem_of_splitList hmem, url, hurl, hchecks⟩

/-- The variable that names the object store is set from the spec, if at all. -/
theorem endpoint_of_fleetEnv {var : EnvVar} (hmem : var ∈ fleetEnv app)
    (hname : var.name = "S3_ENDPOINT") :
    app.spec.bucket.endpoint ≠ "" ∧ var.value = app.spec.bucket.endpoint := by
  -- the telemetry sink has other names
  have htelemetry : var ∉ telemetryEnv app := by
    intro hmem
    have hsub := telemetryEnv_names.subset (List.mem_map_of_mem hmem)
    rw [hname] at hsub
    exact absurd hsub (by decide)
  simp only [fleetEnv, baseEnv, bucketEnv, List.mem_append, List.mem_cons, List.not_mem_nil,
    or_false, List.mem_ite_nil_right, htelemetry] at hmem
  rcases hmem with ((((hbase | ((⟨hset, rfl⟩ | ⟨-, rfl⟩) | ⟨-, rfl⟩)) | rfl) | ⟨-, rfl⟩)) | ⟨-, rfl⟩
  · rcases hbase with rfl | rfl | rfl | rfl | rfl | rfl | rfl | rfl | rfl <;> simp at hname
  · exact ⟨hset, rfl⟩
  all_goals simp at hname

/-- **The pods of an accepted WorkerApp.** -/
theorem trustedPod_fleetPodSpec (hmain : main lib flags = some op)
    (hvalid : validateApp op.reconciler app = .ok ()) :
    TrustedPod lib flags (fleetPodSpec app) := by
  have hcelld : ∀ container ∈ (fleetPodSpec app).containers, container = celldContainer app :=
    fun container hmem => List.mem_singleton.mp hmem
  constructor
  · intro container hmem
    rw [hcelld container hmem]
    exact trustedImage_of_valid hmain hvalid
  · intro container hmem secrets value hsees
    rw [hcelld container hmem] at hsees ⊢
    cases htold : (celldContainer app).told "S3_ENDPOINT" with
    | some endpoint =>
      obtain ⟨var, hvar, hname, rfl⟩ := Container.mem_of_told htold
      obtain ⟨hset, hvalue⟩ := endpoint_of_fleetEnv hvar hname
      rw [Container.sees_of_told htold] at hsees
      refine .inl ⟨var.value, (Option.some.inj hsees).symm, ?_⟩
      rw [hvalue]
      exact trustedStore_of_valid hmain hvalid hset
    | none =>
      -- the spec names no endpoint, so a Secret brought it
      rw [Container.sees_of_untold htold] at hsees
      obtain ⟨ref, href, hbrings⟩ := List.exists_of_findSome?_eq_some hsees
      exact .inr ⟨rfl, ref, List.mem_reverse.mp href, hbrings⟩

/-- The boundary ends there: where the spec sets no endpoint, the container sees whatever its
credential Secret brings. -/
theorem sees_endpoint_of_secret (secrets : SecretValues) (hunset : app.spec.bucket.endpoint = "")
    (href : app.spec.bucket.credentialsFrom.secretRef ≠ "") :
    (celldContainer app).sees secrets "S3_ENDPOINT" =
      secrets app.spec.bucket.credentialsFrom.secretRef "S3_ENDPOINT" := by
  have huntold : (celldContainer app).told "S3_ENDPOINT" = none := by
    cases htold : (celldContainer app).told "S3_ENDPOINT" with
    | none => rfl
    | some endpoint =>
      obtain ⟨var, hvar, hname, -⟩ := Container.mem_of_told htold
      exact absurd hunset (endpoint_of_fleetEnv hvar hname).1
  have hfrom : (celldContainer app).envFrom = [app.spec.bucket.credentialsFrom.secretRef] :=
    if_pos href
  rw [Container.sees_of_untold huntold, hfrom, List.reverse_singleton]
  cases hbrings : secrets app.spec.bucket.credentialsFrom.secretRef "S3_ENDPOINT" with
  | none => simp [hbrings]
  | some value => simp [hbrings]

end

/-! ## §3. Whole runs. -/

/-- The pass of an operator that `main` has started with one of the configurations, over a spec
it accepts. -/
def StartedBy (lib : Lib) (configs : Flags → Prop) (j : FleetPass) : Prop :=
  ∃ flags op, configs flags ∧ main lib flags = some op ∧ j.r = op.reconciler ∧
    validateApp j.r j.app = .ok ()

/-- Inside the boundary of one of the configurations. -/
def WithinTrust (lib : Lib) (configs : Flags → Prop) (spec : PodSpec) : Prop :=
  ∃ flags, configs flags ∧ TrustedPod lib flags spec

theorem withinTrust_of_builtBy {lib : Lib} {configs : Flags → Prop} {template : PodTemplate}
    (h : BuiltBy (StartedBy lib configs) template) : WithinTrust lib configs template.spec := by
  obtain ⟨j, hash, ⟨flags, op, hconfig, hmain, hr, hvalid⟩, rfl⟩ := h
  rw [hr] at hvalid
  exact ⟨flags, hconfig, trustedPod_fleetPodSpec hmain hvalid⟩

/-- The operator without any flag given. -/
def defaultOperator : Operator := (main sampleLib {}).get (by decide +kernel)

/-- Its pass over a WorkerApp that names an allowed image. -/
def defaultPass : FleetPass :=
  ⟨defaultOperator.reconciler, sampleApp "ghcr.io/denoland/celld:v0.5.1" .rolling, "1"⟩

theorem startedBy_defaultPass : StartedBy sampleLib (· = {}) defaultPass := by
  have hvalid : validateApp defaultPass.r defaultPass.app = .ok () := by decide +kernel
  exact ⟨{}, defaultOperator, rfl, (Option.some_get _).symm, rfl, hvalid⟩

/-- The world after the pass, once Kubernetes has made the first pod. -/
def defaultWorld : World :=
  createPod "shop-celld" 0 (runWith (S := Api) (answerWorld {})
    (reconcileFleet defaultPass.r defaultPass.app defaultPass.appVersion) emptyWorld).2.1

end CelldOperator
