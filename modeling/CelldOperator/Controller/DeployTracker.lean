/-
  CelldOperator.Controller.DeployTracker

  **WHICH APPLICATION VERSION A FLEET SHOULD SERVE** (`deploytracker.go`).

  With `appVersion: auto` the operator follows the bucket's
  `deploy/current.json`, read through a process-wide cache:

    • `currentBucketVersion` — one read of the pointer, with the tracking Secret,
    • `pointerVersion`       — the same through the cache; past the poll interval
      a failed read serves the version read before under the same identity,
    • `resolveAppVersion`    — the version a pass works with, and what it reports.
-/
import CelldOperator.Controller.Rollout

namespace CelldOperator

open Effect Prog

/-! ## §1. The cache. -/

/-- `tracker.cache`: at most one entry for a key. -/
abbrev TrackerCache := List (NamespacedName × TrackedVersion)

namespace TrackerCache

/-- `tracker.cache[key]`. -/
def lookup (cache : TrackerCache) (key : NamespacedName) : Option TrackedVersion :=
  (cache.find? (·.1 == key)).map Prod.snd

/-- The entries that are not expired, each by the time it is looked at. -/
def young (interval : Time) (now : NamespacedName → Time) (cache : TrackerCache) : TrackerCache :=
  cache.filter (fun e => decide (now e.1 - e.2.fetchedAt < interval))

/-- The eviction `pointerVersion` makes before it stores: at 1024 entries drop the expired
ones, and if that is not enough the one the map iteration happens to start with. -/
def evict (interval : Time) (now : NamespacedName → Time) (victim : NamespacedName)
    (cache : TrackerCache) : TrackerCache :=
  if cache.length < 1024 then cache
  else if (cache.young interval now).length < 1024 then cache.young interval now
  else (cache.young interval now).filter (·.1 != victim)

/-- `tracker.cache[key] = entry`. -/
def put (cache : TrackerCache) (key : NamespacedName) (entry : TrackedVersion) : TrackerCache :=
  (key, entry) :: cache.filter (·.1 != key)

/-- `Forget`. -/
def forget (cache : TrackerCache) (key : NamespacedName) : TrackerCache :=
  cache.filter (·.1 != key)

@[simp] theorem lookup_put_self (cache : TrackerCache) (key : NamespacedName)
    (entry : TrackedVersion) : (cache.put key entry).lookup key = some entry := by
  simp [lookup, put]

end TrackerCache

/-- The cache key of a WorkerApp. -/
def trackerKey (app : WorkerApp) : NamespacedName := ⟨app.namespace_, app.name⟩

/-! ## §2. Reading the pointer. -/

/-- The bucket and the object key of `deploy/current.json`, for an `s3://` name. -/
def pointerLocation (name : String) : String × String :=
  let rest := name.toList.drop "s3://".length
  let (bucket, path, _) := cut '/' rest
  let trimmed := if path.getLast? = some '/' then path.dropLast else path
  (String.ofList bucket,
    (if path = [] then "" else String.ofList trimmed ++ "/") ++ "deploy/current.json")

/-- The region the tracking client signs for. -/
def trackingRegion (spec : BucketSpec) : String :=
  if spec.region ≠ "" then spec.region
  else if spec.endpoint ≠ "" then "auto" else "us-east-1"

/-- What `currentBucketVersion` makes of the object it read. -/
def pointerOf (key : String) (object : StoredObject) : Except Err String :=
  if 64 * 2 ^ 10 < object.size then .error (.other "deploy pointer exceeds 64 KiB")
  else
    match object.body with
    | some (.obj members) =>
      match Json.member? (.obj members) "version" with
      | some (.str version) =>
        if version = "" then .error (.other (key ++ " has no version")) else .ok version
      | none | some .null => .error (.other (key ++ " has no version"))
      | some _ => .error (.other ("decoding " ++ key ++ ": cannot unmarshal value"))
    | some .null => .error (.other (key ++ " has no version"))
    | _ => .error (.other ("decoding " ++ key ++ ": cannot unmarshal value"))

/-- `currentBucketVersion`. -/
def currentBucketVersion (app : WorkerApp) : P (Except Err String) :=
  let spec := app.spec.bucket
  let ref := app.spec.deployTrackingSecretRef
  let (bucket, key) := pointerLocation spec.name
  if !trackableBucket app then
    pure (.error (.other ("deploy tracking supports s3:// buckets only (got " ++ spec.name ++ ")")))
  else if ref = "" then
    pure (.error (.other ("deployTrackingSecretRef is required; ambient cloud credentials are " ++
      "never used")))
  else do
    match ← ask (.getSecret ref) with
    | .error e => pure (.error (e.wrap "reading tracking credentials: "))
    | .ok secret =>
      if secret.get "AWS_ACCESS_KEY_ID" = [] ∨ secret.get "AWS_SECRET_ACCESS_KEY" = [] then
        pure (.error (.other ("tracking Secret requires AWS_ACCESS_KEY_ID and " ++
          "AWS_SECRET_ACCESS_KEY")))
      else
        match ← ask (.getObject
          { bucket := bucket, key := key
            region := trackingRegion spec
            endpoint := spec.endpoint
            accessKeyID := secret.get "AWS_ACCESS_KEY_ID"
            secretAccessKey := secret.get "AWS_SECRET_ACCESS_KEY"
            sessionToken := secret.get "AWS_SESSION_TOKEN" }) with
        | .error e => pure (.error (e.wrap ("reading " ++ key ++ ": ")))
        | .ok object => pure (pointerOf key object)

/-- The result of `pointerVersion`: a version, whether it is a previous read served past its
time, and the error of the read. -/
structure PointerRead where
  version : String := ""
  stale : Bool := false
  err : Option Err := none

/-- The identity a cache entry is bound to. -/
def trackerIdentity (app : WorkerApp) (secretUID : String) (secretResourceVersion : Nat) :
    TrackerIdentity :=
  ⟨app.uid, app.spec.bucket, app.spec.deployTrackingSecretRef, secretUID, secretResourceVersion⟩

/-- The read the cache entry answers, if it is still within the poll interval. -/
def freshEntry (r : Reconciler) (cached : Option TrackedVersion) : P (Option PointerRead) :=
  match cached with
  | none => pure none
  | some entry => do
    let now ← ask .now
    if now - entry.fetchedAt < r.interval then
      pure (some ⟨entry.version, entry.failure.isSome && entry.version != "", entry.failure⟩)
    else pure none

/-- The part of `pointerVersion` behind the cache: read the bucket, fall back to the cached
version, and store what came of it. -/
def refreshPointer (r : Reconciler) (app : WorkerApp) (identity : TrackerIdentity)
    (cached : Option TrackedVersion) : P PointerRead := do
  let result ← currentBucketVersion app
  let (version, failure) := match result with
    | .ok version => (version, none)
    | .error e => ((cached.map (·.version)).getD "", some e)
  let now ← ask .now
  let _ ← ask (.trackerStore r.interval (trackerKey app) ⟨version, now, identity, failure⟩)
  pure ⟨version, failure.isSome && version != "", failure⟩

/-- The Secret part of the identity: zero values when no Secret is named. -/
def readTrackingSecret (app : WorkerApp) : P (Except Err (String × Nat)) :=
  if app.spec.deployTrackingSecretRef = "" then pure (.ok ("", 0))
  else check (ask (.getSecret app.spec.deployTrackingSecretRef)) fun secret =>
    pure (.ok (secret.uid, secret.resourceVersion))

/-- `pointerVersion`. -/
def pointerVersion (r : Reconciler) (app : WorkerApp) : P PointerRead := do
  match ← readTrackingSecret app with
  | .error e => pure { err := some e }
  | .ok (uid, resourceVersion) =>
    let identity := trackerIdentity app uid resourceVersion
    let loaded ← ask (.trackerLoad (trackerKey app))
    let cached := loaded.filter (fun entry => decide (entry.identity = identity))
    match ← freshEntry r cached with
    | some read => pure read
    | none => refreshPointer r app identity cached

/-! ## §3. Resolving the version. -/

/-- The version the live template carries.  A failed read gives the empty text. -/
def liveTemplateVersion (app : WorkerApp) : P String := do
  match ← ask (.getLive .statefulSet (fleetName app)) with
  | .error _ => pure ""
  | .ok sts => pure (sts.sspec.template.annotations.get appVersionAnnotation)

/-- What `resolveAppVersion` returns. -/
structure ResolvedVersion where
  version : String
  tracking : Bool
  conditions : List Condition

/-- A deploy-tracking condition. -/
def trackingCondition (status : ConditionStatus) (reason message : String) : Condition :=
  { type := "DeployTrackingReady", status := status, reason := reason, message := message }

/-- `resolveAppVersion` for a pinned version: a best-effort drift warning. -/
def resolvePinned (r : Reconciler) (app : WorkerApp) : P ResolvedVersion :=
  let pinned := app.spec.appVersion
  if app.spec.deployTrackingSecretRef = "" then pure ⟨pinned, false, []⟩
  else do
    let read ← pointerVersion r app
    if read.err = none ∧ read.version ≠ pinned then
      pure ⟨pinned, false, [trackingCondition .false_ "VersionMismatch"
        ("bucket deploy/current.json is " ++ read.version ++ " but spec.appVersion is " ++ pinned ++
          "; nodes load the bucket's version")]⟩
    else pure ⟨pinned, false, []⟩

/-- `resolveAppVersion` in auto mode on a bucket the operator can read. -/
def resolveTracked (r : Reconciler) (app : WorkerApp) : P ResolvedVersion := do
  let read ← pointerVersion r app
  match read.err with
  | none =>
    pure ⟨read.version, true, [trackingCondition .true_ "Tracking"
      ("following " ++ read.version)]⟩
  | some e =>
    if read.stale then
      pure ⟨read.version, true, [trackingCondition .false_ "BucketUnreachable"
        ("holding last known version " ++ read.version ++ ": " ++ e.text)]⟩
    else
      let live ← liveTemplateVersion app
      pure ⟨live, true, [trackingCondition .false_ "BucketUnreachable" e.text]⟩

/-- `resolveAppVersion`. -/
def resolveAppVersion (r : Reconciler) (app : WorkerApp) : P ResolvedVersion :=
  if !trackableBucket app then
    if app.spec.appVersion ≠ appVersionAuto then pure ⟨app.spec.appVersion, false, []⟩
    else do
      let live ← liveTemplateVersion app
      pure ⟨live, false, [trackingCondition .false_ "UnsupportedStore"
        ("appVersion \"auto\" reads deploy/current.json over the S3 API only; pin appVersion for " ++
          app.spec.bucket.name)]⟩
  else if app.spec.appVersion ≠ appVersionAuto then resolvePinned r app
  else resolveTracked r app

end CelldOperator
