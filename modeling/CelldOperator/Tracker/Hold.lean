/-
  CelldOperator.Tracker.Hold

  **HOLDING THE VERSION WHILE THE BUCKET CANNOT BE READ.**

  In auto mode the version of a fleet comes from the bucket.  In a pass that does
  not read the pointer there are two places to take it from: the tracker's entry,
  and the annotation of the live pod template.

    • `resolved_of_unread` — which of the two a pass uses, and what it gets,
    • `Kept` — what such a pass must not lose: the version it returns, and the
      annotation of the templates it writes,
    • `version_kept_iff` — it keeps them exactly if one of the two places has the
      version, or there is none yet.

  The second place is empty under the InPlace policy, and a failed read of the
  StatefulSet is taken for an empty annotation.
-/
import CelldOperator.Tracker.Pointer
import CelldOperator.Pass.Known

namespace CelldOperator

open Effect Prog

/-! ## §1. Where the version can come from. -/

/-- The version the pod template is annotated with. -/
def templateVersion (sts : StatefulSet) : String :=
  sts.sspec.template.annotations.get appVersionAnnotation

/-- What `liveTemplateVersion` makes of the read. -/
def liveVersion : Except Err StatefulSet → String
  | .error _ => ""
  | .ok sts => templateVersion sts

/-- The identity of the call that exchanged `t`. -/
def CallerIs (app : WorkerApp) (t : Trace) (identity : TrackerIdentity) : Prop :=
  ∃ pre post, t = pre ++ post ∧ Identified app pre identity

/-- The pointer was not read successfully. -/
def Unread (app : WorkerApp) (t : Trace) : Prop :=
  ∀ request object version, Saw t (.getObject request) (.ok object) →
    pointerOf (pointerKey app) object ≠ .ok version

/-- The tracker holds a version under the caller's identity. -/
def HeldByCache (app : WorkerApp) (t : Trace) (version : String) : Prop :=
  ∃ entry, Saw t (.trackerLoad (trackerKey app)) (some entry) ∧ CallerIs app t entry.identity ∧
    entry.version = version ∧ version ≠ ""

section

variable {r : Reconciler} {app : WorkerApp} {t u : Trace} {identity : TrackerIdentity}

/-- What a trace loads is what is seen of it. -/
theorem mem_loads {loaded : Option TrackedVersion}
    (h : Saw t (.trackerLoad (trackerKey app)) loaded) : loaded ∈ t.filterMap loadOf :=
  List.mem_filterMap.mpr ⟨_, h, rfl⟩

/-- The caller is determined by the trace. -/
theorem CallerIs.unique {pre post : Trace} {other : TrackerIdentity}
    (hid : Identified app pre identity) (hc : CallerIs app (pre ++ post) other) :
    other = identity := by
  obtain ⟨pre', post', heq, hid'⟩ := hc
  cases hid with
  | anonymous ref =>
    cases hid' with
    | anonymous => rfl
    | named secret ref' => exact absurd ref ref'
  | named secret ref =>
    cases hid' with
    | anonymous ref' => exact absurd ref' ref
    | named secret' ref' =>
      cases heq
      rfl

/-- The operations of the tracker. -/
def Op.tracks : Op → Bool
  | .getSecret _ | .trackerLoad _ | .now | .getObject _ | .trackerStore _ _ _ => true
  | _ => false

/-- The one entry a refreshing call loads. -/
theorem loads_refreshed {v : Trace} {loaded : Option TrackedVersion} {result : Except Err String}
    {now : Time} {entry : TrackedVersion} (caller : Identified app t identity)
    (aged : Aged r identity loaded u) (bucket : BucketRead app v result) :
    List.filterMap loadOf (t ++ ⟨.trackerLoad (trackerKey app), loaded⟩ :: (u ++ (v ++ [⟨.now, now⟩,
      ⟨.trackerStore r.interval (trackerKey app) entry, ()⟩]))) = [loaded] := by
  simp [List.filterMap_append, loads_identified caller, loads_aged aged, loads_bucketRead bucket,
    loadOf]

end

/-! ## §2. One call that does not read the pointer. -/

/-- What earlier passes have read and resolved. -/
structure TrackerPast where
  /-- For each WorkerApp, the version last read successfully under an identity. -/
  read : NamespacedName → TrackerIdentity → Option String
  /-- The version the last pass that resolved one has resolved the fleet to. -/
  resolved : Option String

/-- The entry of a WorkerApp tells the truth about the past: a version in it is the one last
read under its identity, and it has one unless the read failed. -/
structure EntryTells (past : TrackerPast) (key : NamespacedName) (entry : TrackedVersion) :
    Prop where
  version : entry.version ≠ "" → past.read key entry.identity = some entry.version
  success : entry.failure = none → entry.version ≠ ""

section

variable {r : Reconciler} {app : WorkerApp} {t : Trace} {read : PointerRead}

/-- A successful result is a pointer read from the bucket. -/
theorem BucketRead.ok_saw {version : String} (h : BucketRead app t (.ok version)) :
    ∃ request object, Saw t (.getObject request) (.ok object) ∧
      pointerOf (pointerKey app) object = .ok version := by
  generalize hres : (.ok version : Except Err String) = result at h
  cases h with
  | refused e => cases hres
  | withoutSecret res e => cases hres
  | asked secret res =>
    cases res with
    | error e => cases hres
    | ok object =>
      have hparsed : pointerOf (pointerKey app) object = .ok version := hres.symm
      rw [← hres]
      exact ⟨_, object, List.mem_cons_of_mem _ (List.mem_cons_self ..), hparsed⟩

/-- **A usable answer is the tracker's.**  Without a read of the pointer, a call that returns no
error or a stale version returns the version held under the caller's identity. -/
theorem PointerCall.held {past : TrackerPast} (h : PointerCall r app t read) (hu : Unread app t)
    (hcache : ∀ entry, Saw t (.trackerLoad (trackerKey app)) (some entry) →
      EntryTells past (trackerKey app) entry)
    (husable : read.err = none ∨ read.stale = true) : HeldByCache app t read.version := by
  cases h with
  | unreadable e ref =>
    rcases husable with hnone | hstale
    · cases hnone
    · cases hstale
  | @served t identity caller entry now same young =>
    have hsaw : Saw (t ++ [⟨.trackerLoad (trackerKey app), some entry⟩, ⟨.now, now⟩])
        (.trackerLoad (trackerKey app)) (some entry) :=
      List.mem_append_right _ (List.mem_cons_self ..)
    subst same
    refine ⟨entry, hsaw, ⟨_, _, rfl, caller⟩, rfl, ?_⟩
    rcases husable with hnone | hstale
    · exact (hcache entry hsaw).success hnone
    · simpa using (Bool.and_eq_true_iff.mp hstale).2
  | @refreshed t u v identity loaded result caller aged bucket now =>
    cases result with
    | ok version =>
      -- the pointer was read after all
      obtain ⟨request, object, hsaw, hparsed⟩ := bucket.ok_saw
      refine absurd hparsed (hu request object version ?_)
      exact List.mem_append_right _ (List.mem_cons_of_mem _ (List.mem_append_right _
        (List.mem_append_left _ hsaw)))
    | error e =>
      have hne : refreshedVersion identity loaded (.error e) ≠ "" := by
        rcases husable with hnone | hstale
        · cases hnone
        · simpa [failureOf] using hstale
      obtain ⟨entry, rfl, rfl, hversion⟩ := refreshedVersion_error hne
      exact ⟨entry, List.mem_append_right _ (List.mem_cons_self ..), ⟨_, _, rfl, caller⟩,
        hversion, hne⟩

/-- **No other entry holds one.**  When the answer is not usable, the tracker holds no version
under the caller's identity. -/
theorem PointerCall.not_held {version : String} {post : Trace} (h : PointerCall r app t read)
    (hpost : post.filterMap loadOf = []) (herr : read.err ≠ none) (hstale : read.stale = false) :
    ¬ HeldByCache app (t ++ post) version := by
  rintro ⟨entry, hsaw, hcaller, rfl, hne⟩
  have hmem := mem_loads hsaw
  rw [List.filterMap_append, hpost, List.append_nil] at hmem
  cases h with
  | unreadable e ref => cases hmem
  | @served t identity caller loaded now same young =>
    rw [List.filterMap_append, loads_identified caller] at hmem
    cases List.mem_singleton.mp hmem
    have hfailed : entry.failure.isSome = true := Option.isSome_iff_ne_none.mpr herr
    simp [hfailed, hne] at hstale
  | @refreshed t u v identity loaded result caller aged bucket now =>
    have hloads : loaded = some entry := by
      rw [loads_refreshed caller aged bucket] at hmem
      exact (List.mem_singleton.mp hmem).symm
    rw [List.append_assoc] at hcaller
    have hsame : entry.identity = identity := CallerIs.unique caller hcaller
    cases result with
    | ok version => exact herr rfl
    | error e =>
      have hkept : refreshedVersion identity loaded (.error e) = entry.version := by
        rw [hloads]
        simp [refreshedVersion, Option.filter, hsame]
      simp [failureOf, hkept, hne] at hstale

theorem PointerCall.tracks (h : PointerCall r app t read) : ∀ e ∈ t, e.op.tracks = true := by
  have hidentified : ∀ {u : Trace} {identity}, Identified app u identity →
      ∀ e ∈ u, e.op.tracks = true := by
    intro u identity hid
    cases hid <;> simp [Op.tracks]
  have haged : ∀ {u : Trace} {identity loaded}, Aged r identity loaded u →
      ∀ e ∈ u, e.op.tracks = true := by
    intro u identity loaded haged
    cases haged <;> simp [Op.tracks]
  have hbucket : ∀ {u : Trace} {result}, BucketRead app u result → ∀ e ∈ u, e.op.tracks = true := by
    intro u result hread
    cases hread <;> simp [Op.tracks]
  cases h with
  | unreadable e ref => simp [Op.tracks]
  | served caller entry now same young =>
    intro e he
    simp only [List.mem_append, List.mem_cons, List.not_mem_nil, or_false] at he
    rcases he with he | rfl | rfl
    · exact hidentified caller e he
    · rfl
    · rfl
  | refreshed caller aged bucket now =>
    intro e he
    simp only [List.mem_append, List.mem_cons, List.not_mem_nil, or_false] at he
    rcases he with he | rfl | he | he | rfl | rfl
    · exact hidentified caller e he
    · rfl
    · exact haged aged e he
    · exact hbucket bucket e he
    · rfl
    · rfl

/-- The read behind the fallback. -/
theorem liveVersion_of_runs {version : String} (h : Runs (liveTemplateVersion app) t version) :
    ∃ res, t = [⟨.getLive .statefulSet (fleetName app), res⟩] ∧ version = liveVersion res := by
  unfold liveTemplateVersion at h
  obtain ⟨res, t₁, t₂, rfl, h₁, h₂⟩ := runs_bind.mp h
  have hasked := runs_req.mp h₁
  subst hasked
  cases res with
  | error e =>
    obtain ⟨rfl, rfl⟩ := runs_ret.mp h₂
    exact ⟨_, rfl, rfl⟩
  | ok sts =>
    obtain ⟨rfl, rfl⟩ := runs_ret.mp h₂
    exact ⟨_, rfl, rfl⟩

/-- The pass fell back to the live template, whose read it made last. -/
structure FellBack (app : WorkerApp) (t : Trace) (version : String) : Prop where
  empty : ∀ version, ¬ HeldByCache app t version
  read : ∃ res, version = liveVersion res ∧
    ∀ res', Saw t (.getLive .statefulSet (fleetName app)) res' ↔ res' = res

theorem fellBack {res : Except Err StatefulSet} (htracks : ∀ e ∈ t, e.op.tracks = true)
    (hempty : ∀ version, ¬ HeldByCache app (t ++ [⟨.getLive .statefulSet (fleetName app), res⟩])
      version) :
    FellBack app (t ++ [⟨.getLive .statefulSet (fleetName app), res⟩]) (liveVersion res) := by
  refine ⟨hempty, res, rfl, fun res' => ?_⟩
  constructor
  · intro hs
    rcases List.mem_append.mp hs with hs | hs
    · exact absurd (htracks _ hs) (by simp [Op.tracks])
    · cases List.mem_singleton.mp hs
      rfl
  · rintro rfl
    exact List.mem_append_right _ (List.mem_singleton_self _)

/-- **Where a pass gets its version.**  From the tracker, or else from the live template. -/
theorem resolved_of_unread {past : TrackerPast} {resolved : ResolvedVersion}
    (hauto : app.spec.appVersion = appVersionAuto)
    (h : Runs (resolveAppVersion r app) t resolved) (hu : Unread app t)
    (hcache : ∀ entry, Saw t (.trackerLoad (trackerKey app)) (some entry) →
      EntryTells past (trackerKey app) entry) :
    HeldByCache app t resolved.version ∨ FellBack app t resolved.version := by
  unfold resolveAppVersion at h
  split at h
  · -- a bucket the operator cannot read: the tracker is not asked
    rw [if_neg (by simp [hauto])] at h
    obtain ⟨version, t₁, t₂, rfl, h₁, h₂⟩ := runs_bind.mp h
    obtain ⟨rfl, rfl⟩ := runs_ret.mp h₂
    obtain ⟨res, rfl, rfl⟩ := liveVersion_of_runs h₁
    refine .inr (fellBack (t := []) (by simp) ?_)
    rintro version ⟨entry, hsaw, -⟩
    cases mem_loads hsaw
  · rw [if_neg (by simp [hauto])] at h
    unfold resolveTracked at h
    obtain ⟨read, t₁, t₂, rfl, h₁, h₂⟩ := runs_bind.mp h
    have hcall := pointerCall_of_runs h₁
    cases herr : read.err with
    | none =>
      rw [herr] at h₂
      obtain ⟨rfl, rfl⟩ := runs_ret.mp h₂
      rw [List.append_nil] at hu hcache ⊢
      exact .inl (hcall.held hu hcache (.inl herr))
    | some e =>
      rw [herr] at h₂
      dsimp only at h₂
      split at h₂
      · next hstale =>
        obtain ⟨rfl, rfl⟩ := runs_ret.mp h₂
        rw [List.append_nil] at hu hcache ⊢
        exact .inl (hcall.held hu hcache (.inr hstale))
      · next hfresh =>
        obtain ⟨version, u₁, u₂, rfl, hu₁, hu₂⟩ := runs_bind.mp h₂
        obtain ⟨rfl, rfl⟩ := runs_ret.mp hu₂
        obtain ⟨res, rfl, rfl⟩ := liveVersion_of_runs hu₁
        rw [List.append_nil] at hu hcache ⊢
        refine .inr (fellBack hcall.tracks fun version => ?_)
        exact hcall.not_held rfl (by simp [herr]) (by simpa using hfresh)

end

/-! ## §3. What a pass must not lose. -/

/-- Some earlier pass has resolved a version: it is on record, or the template names it. -/
def ResolvedBefore (past : TrackerPast) (c : Cluster) (n : String) : Prop :=
  past.resolved ≠ none ∨
    ∃ sts, c.live .statefulSet n = some sts ∧ templateVersion sts ≠ ""

/-- The version an existing fleet was last resolved to: the one its template names, and where
the template names none the one on record. -/
def fleetVersion (past : TrackerPast) (sts : StatefulSet) : Option String :=
  if templateVersion sts ≠ "" then some (templateVersion sts) else past.resolved

/-- The version last read successfully under the identity of the call. -/
def LastRead (past : TrackerPast) (app : WorkerApp) (t : Trace) (version : String) : Prop :=
  ∃ identity, CallerIs app t identity ∧ past.read (trackerKey app) identity = some version

/-- **Nothing is lost.**  The pass that found the cluster `c`, exchanged `t` to resolve the version
and goes on with it from `c'`, while nobody else changes the StatefulSet: the version is the one
last read or the fleet's, it is not empty once there was one, and no template is written with
another annotation than the live one's, unless that is the version last read or the policy is
InPlace, under which templates carry none. -/
structure Kept (r : Reconciler) (app : WorkerApp) (past : TrackerPast) (c : Cluster) (t : Trace)
    (c' : Cluster) (version : String) : Prop where
  held : LastRead past app t version ∨
    (∃ sts, c.live .statefulSet (fleetName app) = some sts ∧
      fleetVersion past sts = some version) ∨
    ¬ ResolvedBefore past c (fleetName app) ∧ version = ""
  nonempty : ResolvedBefore past c (fleetName app) → version ≠ ""
  writes : ∀ h c'' o k, Exec Serve (SparesObject (fleetName app)) c' (reconcileFleet r app version)
      h c'' (.call (.update .statefulSet o) k) →
    ∀ sts, c.live .statefulSet (fleetName app) = some sts →
      app.spec.deploymentPolicy = .inPlace ∨ templateVersion o = templateVersion sts ∨
        LastRead past app t (templateVersion o)

/-- **The condition**: the tracker holds a version under the caller's identity, or the read of
the StatefulSet that resolving makes succeeds and its template names one, or none was ever
resolved. -/
def Holdable (app : WorkerApp) (past : TrackerPast) (c : Cluster) (t : Trace) : Prop :=
  (∃ version, HeldByCache app t version) ∨
    (∃ sts, Saw t (.getLive .statefulSet (fleetName app)) (.ok sts) ∧ templateVersion sts ≠ "") ∨
    ¬ ResolvedBefore past c (fleetName app)

/-- The template of a spec that restarts its nodes names the version. -/
theorem templateVersion_desired (r : Reconciler) {app : WorkerApp}
    (hpolicy : app.spec.deploymentPolicy ≠ .inPlace) (hash version : String) :
    templateVersion (desiredFleet r app hash version) = version := by
  have hkeys : appVersionAnnotation ≠ configHashAnnotation := by decide
  show (templateAnnotations app hash version).get appVersionAnnotation = version
  unfold templateAnnotations
  by_cases hversion : version = ""
  · by_cases hhash : hash = ""
    · simp [hversion, hhash, StrMap.ofList, StrMap.get]
    · simp [hversion, hhash, StrMap.ofList, StrMap.get, hkeys]
  · by_cases hhash : hash = ""
    · simp [hversion, hpolicy, hhash, StrMap.ofList, StrMap.get]
    · simp [hversion, hpolicy, hhash, StrMap.ofList, StrMap.get, hkeys]

section

variable {r : Reconciler} {app : WorkerApp} {past : TrackerPast} {c c' : Cluster} {t : Trace}
  {resolved : ResolvedVersion}

/-- What the fleet step writes names the version it works with, or what the live template
named. -/
theorem templateVersion_written {h : Trace} {c'' : Cluster} {o sts : StatefulSet} {version : String}
    {k : Except Err StatefulSet → P (Except Err FleetOutcome)}
    (hx : Exec Serve (SparesObject (fleetName app)) c' (reconcileFleet r app version) h c''
      (.call (.update .statefulSet o) k))
    (hlive : c'.live .statefulSet (fleetName app) = some sts)
    (hpolicy : app.spec.deploymentPolicy ≠ .inPlace) :
    templateVersion o = templateVersion sts ∨ templateVersion o = version := by
  have hk : Knows h c'' := knows_exec (fun _ _ hs => hs.1) hx
  have he := valid_issued (reconcileFleet_valid r app version) hx.steps (.ok o)
  rw [List.nil_append] at he
  obtain ⟨hash, existing, hg, hw, hspared⟩ := he
  have hmem := hk.read _ _ _ hg.read
  have hread := exec_read hx (hspared.untouched hk hmem) hg.read
  rw [hlive] at hread
  cases hread
  unfold templateVersion
  rcases hw.template_cases hk hmem with heq | heq
  · exact .inl (by rw [heq])
  · right
    rw [heq]
    exact templateVersion_desired r hpolicy hash version

/-- A version held by the tracker is the one last read. -/
theorem HeldByCache.lastRead {version : String} (h : HeldByCache app t version)
    (hcache : ∀ entry, Saw t (.trackerLoad (trackerKey app)) (some entry) →
      EntryTells past (trackerKey app) entry) : LastRead past app t version := by
  obtain ⟨entry, hsaw, hcaller, rfl, hne⟩ := h
  exact ⟨entry.identity, hcaller, (hcache entry hsaw).version hne⟩

/-- **The version is kept exactly if it can be had.**  For a pass in auto mode that does not read
the pointer, over any cluster, any tracker entry that tells the truth and any failures of the
reads. -/
theorem version_kept_iff (r : Reconciler) (app : WorkerApp) (past : TrackerPast) (c c' : Cluster)
    (t : Trace) (resolved : ResolvedVersion) (hauto : app.spec.appVersion = appVersionAuto)
    (hx : Exec Serve (SparesObject (fleetName app)) c (resolveAppVersion r app) t c'
      (.ret resolved))
    (hu : Unread app t)
    (hcache : ∀ entry, Saw t (.trackerLoad (trackerKey app)) (some entry) →
      EntryTells past (trackerKey app) entry) :
    Kept r app past c t c' resolved.version ↔ Holdable app past c t := by
  have huntouched : Untouched t :=
    SparesFleet.untouched fun e he hw =>
      ((Only.steps (resolveAppVersion_reads r app) hx.steps).1 e he).1 _ hw
  have hlive := exec_untouched hx huntouched
  rcases resolved_of_unread hauto hx.steps hu hcache with hheld | ⟨hempty, res, hres, hsaw⟩
  · -- from the tracker
    have hlast := hheld.lastRead hcache
    refine iff_of_true ⟨.inl hlast, ?_, ?_⟩ (.inl ⟨_, hheld⟩)
    · intro _
      obtain ⟨entry, -, -, -, hne⟩ := hheld
      exact hne
    · intro h c'' o k hexec sts hsts
      by_cases hpolicy : app.spec.deploymentPolicy = .inPlace
      · exact .inl hpolicy
      · rcases templateVersion_written hexec (hlive.trans hsts) hpolicy with heq | heq
        · exact .inr (.inl heq)
        · exact .inr (.inr (heq ▸ hlast))
  · -- from the live template
    constructor
    · intro hkept
      by_contra hnot
      unfold Holdable at hnot
      push Not at hnot
      obtain ⟨-, hunnamed, hbefore⟩ := hnot
      refine hkept.nonempty hbefore ?_
      rw [hres]
      cases res with
      | error e => rfl
      | ok sts => exact hunnamed sts ((hsaw _).mpr rfl)
    · intro hold
      have hsame : ∀ {sts h c'' o k}, c.live .statefulSet (fleetName app) = some sts →
          resolved.version = templateVersion sts →
          Exec Serve (SparesObject (fleetName app)) c' (reconcileFleet r app resolved.version)
            h c'' (.call (.update .statefulSet o) k) →
          app.spec.deploymentPolicy = .inPlace ∨ templateVersion o = templateVersion sts ∨
            LastRead past app t (templateVersion o) := by
        intro sts h c'' o k hsts hversion hexec
        by_cases hpolicy : app.spec.deploymentPolicy = .inPlace
        · exact .inl hpolicy
        · rcases templateVersion_written hexec (hlive.trans hsts) hpolicy with heq | heq
          · exact .inr (.inl heq)
          · exact .inr (.inl (heq.trans hversion))
      rcases hold with ⟨version, hheld⟩ | ⟨sts, hread, hnamed⟩ | hfirst
      · exact absurd hheld (hempty version)
      · have hsts := exec_read hx huntouched hread
        have hversion : resolved.version = templateVersion sts := by
          rw [hres, ← (hsaw _).mp hread]
          rfl
        refine ⟨.inr (.inl ⟨sts, hsts, ?_⟩), fun _ => hversion ▸ hnamed, ?_⟩
        · rw [fleetVersion, if_pos hnamed, hversion]
        · intro h c'' o k hexec sts' hsts'
          cases hsts.symm.trans hsts'
          exact hsame hsts hversion hexec
      · -- nothing was ever resolved: the live template, if any, names no version
        have hunnamed : ∀ sts, c.live .statefulSet (fleetName app) = some sts →
            templateVersion sts = "" := by
          intro sts hsts
          by_contra hne
          exact hfirst (.inr ⟨sts, hsts, hne⟩)
        have hversion : resolved.version = "" := by
          rw [hres]
          cases res with
          | error e => rfl
          | ok sts => exact hunnamed sts (exec_read hx huntouched ((hsaw _).mpr rfl))
        refine ⟨.inr (.inr ⟨hfirst, hversion⟩), fun hbefore => absurd hbefore hfirst, ?_⟩
        intro h c'' o k hexec sts hsts
        exact hsame hsts (hversion.trans (hunnamed sts hsts).symm) hexec

end

/-! ## §4. An operator that has just restarted. -/

/-- `templateHash` over the image and the version annotation. -/
def versionedReconciler : Reconciler :=
  { sampleReconciler with lib := { sampleLib with
      templateHash := fun t => stsContainerImage t.spec ++ t.annotations.get appVersionAnnotation } }

/-- A fleet that follows its bucket. -/
def autoApp : WorkerApp :=
  let app := sampleApp "ghcr.io/denoland/celld:v0.5.1" .rolling
  { app with spec := { app.spec with appVersion := "auto", deployTrackingSecretRef := "tracking" } }

/-- Resolved to version 1 by an earlier pass. -/
def trackedCluster : Cluster :=
  (runWith (answer {}) (reconcileFleet versionedReconciler autoApp "1") Cluster.empty).2.1

/-- What is left of the past: nothing in the tracker. -/
def restarted : TrackerPast := ⟨fun _ _ => none, some "1"⟩

/-- The tracking Secret can be read; the bucket cannot, and the tracker is empty. -/
def credentialed : Oracle where
  secret := fun _ => .ok ⟨"s1", 1, [("AWS_ACCESS_KEY_ID", [1]), ("AWS_SECRET_ACCESS_KEY", [2])]⟩

/-- Neither a pointer nor a tracker entry was read. -/
def blind : Event Api → Bool
  | ⟨.getObject _, .ok _⟩ | ⟨.trackerLoad _, some _⟩ => false
  | _ => true

theorem unread_of_blind {app : WorkerApp} {t : Trace} (h : t.all blind = true) : Unread app t := by
  intro request object version hsaw
  cases List.all_eq_true.mp h _ hsaw

theorem no_entry_of_blind {t : Trace} {key : NamespacedName} {entry : TrackedVersion}
    (h : t.all blind = true) : ¬ Saw t (.trackerLoad key) (some entry) := by
  intro hsaw
  cases List.all_eq_true.mp h _ hsaw

/-- The event reads a StatefulSet whose template names a version. -/
def readsNamed : Event Api → Bool
  | ⟨.getLive .statefulSet n, .ok sts⟩ => n == "shop-celld" && templateVersion sts != ""
  | _ => false

theorem exists_named {t : Trace} (h : t.any readsNamed = true) :
    ∃ sts, Saw t (.getLive .statefulSet "shop-celld") (.ok sts) ∧ templateVersion sts ≠ "" := by
  obtain ⟨e, hmem, he⟩ := List.any_eq_true.mp h
  unfold readsNamed at he
  split at he
  · next n sts =>
    obtain ⟨hn, hnamed⟩ := Bool.and_eq_true_iff.mp he
    cases eq_of_beq hn
    exact ⟨sts, hmem, by simpa using hnamed⟩
  · cases he

/-- A pass that resolves the version. -/
def resolveRun (handle : Cluster → (o : Op) → Resp o × Cluster) :
    List (Event Api) × Cluster × ResolvedVersion :=
  runWith handle (resolveAppVersion versionedReconciler autoApp) trackedCluster

theorem version_kept_iff_restarted :
    Kept versionedReconciler autoApp restarted trackedCluster
      (resolveRun (answer credentialed)).1 (resolveRun (answer credentialed)).2.1
      (resolveRun (answer credentialed)).2.2.version := by
  have hblind : (resolveRun (answer credentialed)).1.all blind = true := by decide +kernel
  have hnamed : (resolveRun (answer credentialed)).1.any readsNamed = true := by decide +kernel
  refine (version_kept_iff versionedReconciler autoApp restarted trackedCluster _ _ _ rfl ?_
    (unread_of_blind hblind) fun entry hsaw => absurd hsaw (no_entry_of_blind hblind)).mpr ?_
  · unfold resolveRun
    exact exec_runWith (serve_answer credentialed) _ _
  · exact .inr (.inl (exists_named hnamed))

/-- The same, but the StatefulSet cannot be read either. -/
def unreadable (c : Cluster) : (o : Op) → Resp o × Cluster
  | .getLive _ _ => (.error (.other "timeout"), c)
  | o => answer credentialed c o

theorem serve_unreadable (c : Cluster) (o : Op) :
    Serve c o (unreadable c o).1 (unreadable c o).2 := by
  unfold unreadable
  split
  · exact ⟨rfl, fun hf => by cases hf⟩
  · exact serve_answer credentialed c _

/-- **A rollout to nowhere.**  The operator has restarted, the bucket cannot be read, and neither
can the StatefulSet while the version is resolved: it resolves to the empty version, and the
fleet step, which reads the StatefulSet again, rolls the fleet to a template without one. -/
theorem version_lost :
    autoApp.spec.appVersion = appVersionAuto ∧
    Exec Serve (SparesObject "shop-celld") trackedCluster
      (resolveAppVersion versionedReconciler autoApp) (resolveRun unreadable).1
      (resolveRun unreadable).2.1 (.ret (resolveRun unreadable).2.2) ∧
    Unread autoApp (resolveRun unreadable).1 ∧
    (∀ entry, Saw (resolveRun unreadable).1 (.trackerLoad (trackerKey autoApp)) (some entry) →
      EntryTells restarted (trackerKey autoApp) entry) ∧
    ¬ Kept versionedReconciler autoApp restarted trackedCluster (resolveRun unreadable).1
      (resolveRun unreadable).2.1 (resolveRun unreadable).2.2.version ∧
    (resolveRun unreadable).2.2.version = "" ∧
    ∃ h c existing stored, WritesFleet ⟨versionedReconciler, autoApp, ""⟩ h c existing stored ∧
      templateVersion existing = "1" ∧ templateVersion stored = "" := by
  have hblind : (resolveRun unreadable).1.all blind = true := by decide +kernel
  have hlost : (resolveRun unreadable).2.2.version = "" := by decide +kernel
  refine ⟨rfl, ?_, unread_of_blind hblind, ?_, ?_, hlost, ?_⟩
  · unfold resolveRun
    exact exec_runWith serve_unreadable _ _
  · exact fun entry hsaw => absurd hsaw (no_entry_of_blind hblind)
  · intro hkept
    have hbefore : ResolvedBefore restarted trackedCluster (fleetName autoApp) :=
      .inl (by simp [restarted])
    exact hkept.nonempty hbefore hlost
  · obtain ⟨h, c, existing, stored, hw, hbefore, hafter⟩ := exists_writesFleet {}
      ⟨versionedReconciler, autoApp, ""⟩ trackedCluster
      (p := fun s => templateVersion s == "1") (q := fun s => templateVersion s == "")
      (by decide +kernel) (by decide +kernel) (by decide +kernel)
    exact ⟨h, c, existing, stored, hw, eq_of_beq hbefore, eq_of_beq hafter⟩

end CelldOperator
