/-
  CelldOperator.Tracker.Pointer

  **WHAT ONE CALL OF THE TRACKER CAN DO.**

  `pointerVersion` makes up to five fallible reads around one cache entry.  It is
  taken apart once (`pointerVersion_valid`): into the points at which it issues an
  operation (`PointerPoint`), and into the three ways a call goes (`PointerCall`).

    • `unreadable` — the tracking Secret cannot be read,
    • `served`     — the cached entry is of the caller's identity and young,
    • `refreshed`  — the bucket is asked and the entry replaced, whatever came
      of it; a failure inherits the version of an entry of the same identity.
-/
import CelldOperator.Controller.DeployTracker

namespace CelldOperator

open Effect Prog

/-! ## §1. The parts of a call. -/

/-- The first reads of a call, and the identity they make up. -/
inductive Identified (app : WorkerApp) : Trace → TrackerIdentity → Prop where
  | anonymous (ref : app.spec.deployTrackingSecretRef = "") :
      Identified app [] (trackerIdentity app "" 0)
  | named (secret : Secret) (ref : app.spec.deployTrackingSecretRef ≠ "") :
      Identified app [⟨.getSecret app.spec.deployTrackingSecretRef, .ok secret⟩]
        (trackerIdentity app secret.uid secret.resourceVersion)

/-- No entry of the identity was loaded, or it is past the poll interval. -/
inductive Aged (r : Reconciler) (identity : TrackerIdentity) :
    Option TrackedVersion → Trace → Prop where
  | absent {loaded : Option TrackedVersion}
      (other : ∀ entry, loaded = some entry → entry.identity ≠ identity) :
      Aged r identity loaded []
  | expired (entry : TrackedVersion) (now : Time) (same : entry.identity = identity)
      (old : ¬ now - entry.fetchedAt < r.interval) :
      Aged r identity (some entry) [⟨.now, now⟩]

/-- The object key of the pointer. -/
def pointerKey (app : WorkerApp) : String := (pointerLocation app.spec.bucket.name).2

/-- What the tracking client asks with the credentials of this Secret. -/
def pointerRequest (app : WorkerApp) (secret : Secret) : ObjectRequest where
  bucket := (pointerLocation app.spec.bucket.name).1
  key := pointerKey app
  region := trackingRegion app.spec.bucket
  endpoint := app.spec.bucket.endpoint
  accessKeyID := secret.get "AWS_ACCESS_KEY_ID"
  secretAccessKey := secret.get "AWS_SECRET_ACCESS_KEY"
  sessionToken := secret.get "AWS_SESSION_TOKEN"

/-- The version in the bucket's answer. -/
def answered (app : WorkerApp) : Except Err StoredObject → Except Err String
  | .error e => .error (e.wrap ("reading " ++ pointerKey app ++ ": "))
  | .ok object => pointerOf (pointerKey app) object

/-- The runs of `currentBucketVersion`: given up before the bucket, or one request with the
credentials of the Secret it reads for itself. -/
inductive BucketRead (app : WorkerApp) : Trace → Except Err String → Prop where
  | refused (e : Err) : BucketRead app [] (.error e)
  | withoutSecret (res : Except Err Secret) (e : Err) :
      BucketRead app [⟨.getSecret app.spec.deployTrackingSecretRef, res⟩] (.error e)
  | asked (secret : Secret) (res : Except Err StoredObject) :
      BucketRead app [⟨.getSecret app.spec.deployTrackingSecretRef, .ok secret⟩,
        ⟨.getObject (pointerRequest app secret), res⟩] (answered app res)

/-- What a refresh stores and returns. -/
def refreshedVersion (identity : TrackerIdentity) (loaded : Option TrackedVersion) :
    Except Err String → String
  | .ok version => version
  | .error _ =>
    ((loaded.filter fun entry => decide (entry.identity = identity)).map (·.version)).getD ""

/-- The error part of a result. -/
def failureOf : Except Err String → Option Err
  | .ok _ => none
  | .error e => some e

/-- **The calls of the tracker.** -/
inductive PointerCall (r : Reconciler) (app : WorkerApp) : Trace → PointerRead → Prop where
  | unreadable (e : Err) (ref : app.spec.deployTrackingSecretRef ≠ "") :
      PointerCall r app [⟨.getSecret app.spec.deployTrackingSecretRef, .error e⟩]
        { err := some e }
  | served {t : Trace} {identity : TrackerIdentity} (caller : Identified app t identity)
      (entry : TrackedVersion) (now : Time) (same : entry.identity = identity)
      (young : now - entry.fetchedAt < r.interval) :
      PointerCall r app (t ++ [⟨.trackerLoad (trackerKey app), some entry⟩, ⟨.now, now⟩])
        ⟨entry.version, entry.failure.isSome && entry.version != "", entry.failure⟩
  | refreshed {t u v : Trace} {identity : TrackerIdentity} {loaded : Option TrackedVersion}
      {result : Except Err String} (caller : Identified app t identity)
      (aged : Aged r identity loaded u) (read : BucketRead app v result) (now : Time) :
      PointerCall r app
        (t ++ ⟨.trackerLoad (trackerKey app), loaded⟩ :: (u ++ (v ++ [⟨.now, now⟩,
          ⟨.trackerStore r.interval (trackerKey app)
            ⟨refreshedVersion identity loaded result, now, identity, failureOf result⟩, ()⟩])))
        ⟨refreshedVersion identity loaded result,
          (failureOf result).isSome && refreshedVersion identity loaded result != "",
          failureOf result⟩

/-- **The operations of a call**, each with what was exchanged before it. -/
inductive PointerPoint (r : Reconciler) (app : WorkerApp) : Trace → Op → Prop where
  | secret (ref : app.spec.deployTrackingSecretRef ≠ "") :
      PointerPoint r app [] (.getSecret app.spec.deployTrackingSecretRef)
  | load {t : Trace} {identity : TrackerIdentity} (caller : Identified app t identity) :
      PointerPoint r app t (.trackerLoad (trackerKey app))
  | check {t : Trace} {identity : TrackerIdentity} (caller : Identified app t identity)
      (entry : TrackedVersion) (same : entry.identity = identity) :
      PointerPoint r app (t ++ [⟨.trackerLoad (trackerKey app), some entry⟩]) .now
  | credentials {t u : Trace} {identity : TrackerIdentity} {loaded : Option TrackedVersion}
      (caller : Identified app t identity) (aged : Aged r identity loaded u)
      (ref : app.spec.deployTrackingSecretRef ≠ "") :
      PointerPoint r app (t ++ ⟨.trackerLoad (trackerKey app), loaded⟩ :: u)
        (.getSecret app.spec.deployTrackingSecretRef)
  | request {t u : Trace} {identity : TrackerIdentity} {loaded : Option TrackedVersion}
      (caller : Identified app t identity) (aged : Aged r identity loaded u) (secret : Secret)
      (ref : app.spec.deployTrackingSecretRef ≠ "") :
      PointerPoint r app (t ++ ⟨.trackerLoad (trackerKey app), loaded⟩ ::
          (u ++ [⟨.getSecret app.spec.deployTrackingSecretRef, .ok secret⟩]))
        (.getObject (pointerRequest app secret))
  | stamp {t u v : Trace} {identity : TrackerIdentity} {loaded : Option TrackedVersion}
      {result : Except Err String} (caller : Identified app t identity)
      (aged : Aged r identity loaded u) (read : BucketRead app v result) :
      PointerPoint r app (t ++ ⟨.trackerLoad (trackerKey app), loaded⟩ :: (u ++ v)) .now
  | store {t u v : Trace} {identity : TrackerIdentity} {loaded : Option TrackedVersion}
      {result : Except Err String} (caller : Identified app t identity)
      (aged : Aged r identity loaded u) (read : BucketRead app v result) (now : Time) :
      PointerPoint r app
        (t ++ ⟨.trackerLoad (trackerKey app), loaded⟩ :: (u ++ (v ++ [⟨.now, now⟩])))
        (.trackerStore r.interval (trackerKey app)
          ⟨refreshedVersion identity loaded result, now, identity, failureOf result⟩)

/-! ## §2. Every run is such a call. -/

/-- The event predicate of a call. -/
abbrev AtPoint (r : Reconciler) (app : WorkerApp) (h : Trace) (e : Event Api) : Prop :=
  PointerPoint r app h e.op

section

variable {r : Reconciler} {app : WorkerApp} {t u : Trace} {identity : TrackerIdentity}
  {loaded : Option TrackedVersion}

theorem currentBucketVersion_valid (caller : Identified app t identity)
    (aged : Aged r identity loaded u) :
    Valid (AtPoint r app) (t ++ ⟨.trackerLoad (trackerKey app), loaded⟩ :: u)
      (currentBucketVersion app) (fun h result =>
        ∃ v, h = t ++ ⟨.trackerLoad (trackerKey app), loaded⟩ :: (u ++ v) ∧
          BucketRead app v result) := by
  unfold currentBucketVersion
  dsimp only
  split
  · exact valid_pure.mpr ⟨[], by simp, .refused _⟩
  · split
    · exact valid_pure.mpr ⟨[], by simp, .refused _⟩
    · next href =>
      rw [valid_bind, valid_req]
      intro res
      refine ⟨.credentials caller aged href, ?_⟩
      cases res with
      | error e => exact valid_pure.mpr ⟨_, by simp, .withoutSecret (.error e) _⟩
      | ok secret =>
        dsimp only
        split
        · exact valid_pure.mpr ⟨_, by simp, .withoutSecret (.ok secret) _⟩
        · rw [valid_bind, valid_req]
          intro answer
          refine ⟨?_, ?_⟩
          · have hpoint : PointerPoint r app _ _ := .request caller aged secret href
            simpa [pointerRequest, pointerKey] using hpoint
          · cases answer with
            | error e =>
              exact valid_pure.mpr ⟨_, by simp [pointerRequest, pointerKey],
                .asked secret (.error e)⟩
            | ok object =>
              exact valid_pure.mpr ⟨_, by simp [pointerRequest, pointerKey],
                .asked secret (.ok object)⟩

theorem refreshPointer_valid (caller : Identified app t identity)
    (aged : Aged r identity loaded u) :
    Valid (AtPoint r app) (t ++ ⟨.trackerLoad (trackerKey app), loaded⟩ :: u)
      (refreshPointer r app identity
        (loaded.filter fun entry => decide (entry.identity = identity)))
      (PointerCall r app) := by
  -- the two results differ in what they store only
  have hrest : ∀ {v : Trace} {result : Except Err String}, BucketRead app v result →
      Valid (AtPoint r app) (t ++ ⟨.trackerLoad (trackerKey app), loaded⟩ :: (u ++ v))
        (do
          let now ← ask .now
          let _ ← ask (.trackerStore r.interval (trackerKey app)
            ⟨refreshedVersion identity loaded result, now, identity, failureOf result⟩)
          pure (⟨refreshedVersion identity loaded result,
            (failureOf result).isSome && refreshedVersion identity loaded result != "",
            failureOf result⟩ : PointerRead))
        (PointerCall r app) := by
    intro v result hread
    rw [valid_bind, valid_req]
    intro now
    refine ⟨.stamp caller aged hread, ?_⟩
    rw [valid_bind, valid_req]
    intro stored
    refine ⟨?_, valid_pure.mpr ?_⟩
    · have hpoint : PointerPoint r app _ _ := .store caller aged hread now
      simpa using hpoint
    · have hcall : PointerCall r app _ _ := .refreshed caller aged hread now
      simpa using hcall
  unfold refreshPointer
  rw [valid_bind]
  refine (currentBucketVersion_valid caller aged).post ?_
  rintro h result ⟨v, rfl, hread⟩
  cases result with
  | ok version => exact hrest hread
  | error e => exact hrest hread

/-- The cached entry answers, or the bucket is asked. -/
theorem cachedOrRefreshed_valid (caller : Identified app t identity) :
    Valid (AtPoint r app) (t ++ [⟨.trackerLoad (trackerKey app), loaded⟩])
      (freshEntry r (loaded.filter fun entry => decide (entry.identity = identity)) >>=
        fun answer => match answer with
          | some read => (pure read : P PointerRead)
          | none => refreshPointer r app identity
              (loaded.filter fun entry => decide (entry.identity = identity)))
      (PointerCall r app) := by
  have hnone : loaded.filter (fun entry => decide (entry.identity = identity)) = none →
      ∀ entry, loaded = some entry → entry.identity ≠ identity := by
    rintro hfilter entry rfl hsame
    simp [Option.filter, hsame] at hfilter
  cases hcase : loaded.filter (fun entry => decide (entry.identity = identity)) with
  | none =>
    have haged : Aged r identity loaded [] := .absent (hnone hcase)
    have hrefresh := refreshPointer_valid caller haged
    rw [hcase] at hrefresh
    exact hrefresh
  | some entry =>
    obtain ⟨hloaded, hsame⟩ := Option.filter_eq_some_iff.mp hcase
    have hsame : entry.identity = identity := of_decide_eq_true hsame
    rw [valid_bind]
    unfold freshEntry
    rw [valid_bind, valid_req]
    intro now
    subst hloaded
    refine ⟨.check caller entry hsame, ?_⟩
    split
    · next hyoung =>
      refine valid_pure.mpr (valid_pure.mpr ?_)
      have hcall : PointerCall r app _ _ := .served caller entry now hsame hyoung
      simpa using hcall
    · next hold =>
      refine valid_pure.mpr ?_
      have hrefresh := refreshPointer_valid caller (.expired entry now hsame hold)
      rw [hcase] at hrefresh
      simpa using hrefresh

/-- **Call inversion.**  Every operation is issued at one of the points, and every result is that
of one of the calls. -/
theorem pointerVersion_valid (r : Reconciler) (app : WorkerApp) :
    Valid (AtPoint r app) [] (pointerVersion r app) (PointerCall r app) := by
  -- what follows the Secret, whose answer makes up the identity
  have hrest : ∀ {t : Trace} {identity : TrackerIdentity}, Identified app t identity →
      Valid (AtPoint r app) t
        (ask (.trackerLoad (trackerKey app)) >>= fun loaded =>
          freshEntry r (loaded.filter fun entry => decide (entry.identity = identity)) >>=
            fun answer => match answer with
              | some read => (pure read : P PointerRead)
              | none => refreshPointer r app identity
                  (loaded.filter fun entry => decide (entry.identity = identity)))
        (PointerCall r app) := by
    intro t identity hid
    rw [valid_bind, valid_req]
    intro loaded
    exact ⟨.load hid, cachedOrRefreshed_valid hid⟩
  unfold pointerVersion
  rw [valid_bind]
  unfold readTrackingSecret
  split
  · next href => exact valid_pure.mpr (hrest (.anonymous href))
  · next href =>
    unfold check
    rw [valid_bind, valid_req]
    intro answer
    refine ⟨.secret href, ?_⟩
    cases answer with
    | error e => exact valid_pure.mpr (valid_pure.mpr (.unreadable e href))
    | ok secret => exact valid_pure.mpr (hrest (.named secret href))

end

theorem pointerCall_of_runs {r : Reconciler} {app : WorkerApp} {t : Trace} {read : PointerRead}
    (h : Runs (pointerVersion r app) t read) : PointerCall r app t read := by
  have hcall := valid_runs (pointerVersion_valid r app) h
  rwa [List.nil_append] at hcall

/-! ## §3. What the parts load. -/

/-- The tracker entry an event loads. -/
def loadOf : Event Api → Option (Option TrackedVersion)
  | ⟨.trackerLoad _, loaded⟩ => some loaded
  | _ => none

section

variable {r : Reconciler} {app : WorkerApp} {t u : Trace} {identity : TrackerIdentity}

theorem loads_identified (h : Identified app t identity) : t.filterMap loadOf = [] := by
  cases h <;> rfl

theorem loads_aged {loaded : Option TrackedVersion} (h : Aged r identity loaded t) :
    t.filterMap loadOf = [] := by
  cases h <;> rfl

theorem loads_bucketRead {result : Except Err String} (h : BucketRead app t result) :
    t.filterMap loadOf = [] := by
  cases h <;> rfl

end

/-- A version found in the loaded entry. -/
theorem refreshedVersion_error {identity : TrackerIdentity} {loaded : Option TrackedVersion}
    {e : Err} (hne : refreshedVersion identity loaded (.error e) ≠ "") :
    ∃ entry, loaded = some entry ∧ entry.identity = identity ∧
      entry.version = refreshedVersion identity loaded (.error e) := by
  unfold refreshedVersion at hne ⊢
  dsimp only at hne ⊢
  cases hcase : loaded.filter (fun entry => decide (entry.identity = identity)) with
  | none =>
    rw [hcase] at hne
    exact absurd rfl hne
  | some entry =>
    obtain ⟨hloaded, hsame⟩ := Option.filter_eq_some_iff.mp hcase
    exact ⟨entry, hloaded, of_decide_eq_true hsame, rfl⟩

end CelldOperator
