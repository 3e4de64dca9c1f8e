/-
  CelldOperator.Secrets.Sealed

  **WHAT A PASS LETS OUT OF THE SECRETS.**

  A pass reads the Secrets a WorkerApp refers to, for the config hash, and the
  tracking Secret, for the credentials of one object-store request.  Two states of the
  Secrets with the same face — the same errors, UIDs and resource versions, the same
  config digest, credentials present in both or in neither — lead to the same pass:
  the same objects, status, tracker entries, errors and requeue, in the same order.
  The contents themselves appear in the credentials of that one request alone.

    • `secretView`     — an observer who sees everything but Secret contents,
    • `configHash_mirrors`, `pointerVersion_mirrors` — the two readers,
    • `reconcileApp_mirrors` — a pass mirrors itself,
    • `secrets_sealed` — for every environment that answers from what it can see.
-/
import CelldOperator.Cluster.Server
import CelldOperator.Effect.Mirror
import CelldOperator.Pass.Footprint
import CelldOperator.Tracker.Pointer

namespace CelldOperator

open Effect Prog

/-! ## §1. The face of the Secrets. -/

/-- The Secrets of a namespace, as a pass finds them. -/
abbrev Secrets := String → Except Err Secret

/-- The bytes of the references, or the error of the first that cannot be read. -/
def streamOf (secrets : Secrets) : List String → List UInt8 → Except Err (List UInt8)
  | [], stream => .ok stream
  | name :: names, stream =>
    match secrets name with
    | .ok secret => streamOf secrets names (stream ++ secretStream name (some secret))
    | .error e =>
      if e.isNotFound then streamOf secrets names (stream ++ secretStream name none)
      else .error (e.wrap ("reading secret " ++ name ++ ": "))

/-- The config digest of a WorkerApp. -/
def digestOf (r : Reconciler) (app : WorkerApp) (secrets : Secrets) : Except Err String :=
  (streamOf secrets (secretRefs app) []).map r.lib.digest

/-- Both parts of the credentials are there. -/
def Secret.credentialed (s : Secret) : Bool :=
  s.get "AWS_ACCESS_KEY_ID" != [] && s.get "AWS_SECRET_ACCESS_KEY" != []

/-- The two reads fail alike, or find Secrets that differ in their contents only. -/
inductive SameRead : Except Err Secret → Except Err Secret → Prop where
  | error (e : Err) : SameRead (.error e) (.error e)
  | ok {s s' : Secret} (uid : s.uid = s'.uid) (version : s.resourceVersion = s'.resourceVersion) :
      SameRead (.ok s) (.ok s')

/-- **The two states show the same face** to a pass over this WorkerApp. -/
structure SameFace (r : Reconciler) (app : WorkerApp) (secrets secrets' : Secrets) : Prop where
  read : ∀ name ∈ secretRefs app ++ [app.spec.deployTrackingSecretRef],
    SameRead (secrets name) (secrets' name)
  digest : digestOf r app secrets = digestOf r app secrets'
  credentials : ∀ s s', secrets app.spec.deployTrackingSecretRef = .ok s →
    secrets' app.spec.deployTrackingSecretRef = .ok s' → s.credentialed = s'.credentialed

/-- A request without its credentials. -/
def ObjectRequest.redact (q : ObjectRequest) : ObjectRequest :=
  { q with accessKeyID := [], secretAccessKey := [], sessionToken := [] }

/-- **An observer who sees everything but Secret contents.** -/
def secretView (secrets secrets' : Secrets) : View Api where
  alike
    | .getObject q, .getObject q' => q.redact = q'.redact
    | o, o' => o = o'
  answered
    | .getSecret name, .getSecret name', res, res' => res = secrets name ∧ res' = secrets' name'
    | .getObject _, .getObject _, res, res' => res = res'
    | _, _, res, res' => HEq res res'

/-- The event as that observer sees it. -/
def redacted : Event Api → Event Api
  | ⟨.getSecret name, _⟩ => ⟨.getSecret name, .error (.other "")⟩
  | ⟨.getObject q, res⟩ => ⟨.getObject q.redact, res⟩
  | e => e

/-- Everything but the Secrets is answered by `env`, which is not shown any credentials. -/
def withSecrets {τ : Type} (secrets : Secrets) (env : τ → (o : Op) → Resp o × τ) :
    τ → (o : Op) → Resp o × τ
  | s, .getSecret name => (secrets name, s)
  | s, .getObject q => env s (.getObject q.redact)
  | s, o => env s o

section view

variable {α β : Type} {secrets secrets' : Secrets}

/-- What is neither a Secret nor an object is in plain sight. -/
theorem plain_of_topic {o : Op} (hs : o.topic ≠ .secret) (ho : o.topic ≠ .object) :
    (secretView secrets secrets').Plain o := by
  cases o with
  | getSecret name => exact absurd rfl hs
  | getObject q => exact absurd rfl ho
  | _ => exact ⟨rfl, fun _ _ h => eq_of_heq h⟩

theorem Asks.mirrors {T : List Topic} {p : P α} (h : Asks T p)
    (hT : T.contains .secret = false ∧ T.contains .object = false) :
    Mirrors (secretView secrets secrets') Eq p p := by
  refine mirrors_refl (Only.mono (fun o ho => plain_of_topic ?_ ?_) h)
  · intro htopic
    rw [htopic, hT.1] at ho
    cases ho
  · intro htopic
    rw [htopic, hT.2] at ho
    cases ho

theorem mirrors_bind_eq {p : P α} {f g : α → P β} {R : β → β → Prop}
    (hp : Mirrors (secretView secrets secrets') Eq p p)
    (hf : ∀ a, Mirrors (secretView secrets secrets') R (f a) (g a)) :
    Mirrors (secretView secrets secrets') R (p >>= f) (p >>= g) :=
  mirrors_bind hp fun a _ hab => hab ▸ hf a

theorem mirrors_check {p : P (Except Err α)} {f : α → P (Except Err β)}
    (hp : Mirrors (secretView secrets secrets') Eq p p)
    (hf : ∀ a, Mirrors (secretView secrets secrets') Eq (f a) (f a)) :
    Mirrors (secretView secrets secrets') Eq (check p f) (check p f) := by
  refine mirrors_bind_eq hp fun res => ?_
  cases res with
  | error e => exact mirrors_pure rfl
  | ok a => exact hf a

/-- A Secret is read from the state it is in. -/
theorem mirrors_getSecret (name : String) :
    Mirrors (secretView secrets secrets')
      (fun res res' => res = secrets name ∧ res' = secrets' name)
      (ask (.getSecret name)) (ask (.getSecret name)) :=
  mirrors_req (S := Api) (show (secretView secrets secrets').alike (.getSecret name)
    (.getSecret name) from rfl)

theorem redacted_of_event {e e' : Event Api} (h : (secretView secrets secrets').event e e') :
    redacted e = redacted e' := by
  obtain ⟨o, res⟩ := e
  obtain ⟨o', res'⟩ := e'
  obtain ⟨halike, hres⟩ := h
  by_cases hobject : o.topic = .object
  · cases o with
    | getObject q =>
      cases o' with
      | getObject q' =>
        have hq : q.redact = q'.redact := halike
        have hr : res = res' := hres
        rw [redacted, redacted, hq, hr]
      | _ => cases halike
    | _ => cases hobject
  · -- the same operation on both sides
    have hsame : o = o' := by
      cases o with
      | getObject q => exact absurd rfl hobject
      | _ => exact halike
    subst hsame
    by_cases hsecret : o.topic = .secret
    · cases o with
      | getSecret name => rfl
      | _ => cases hsecret
    · rw [(plain_of_topic hsecret hobject).2 res res' hres]

theorem map_redacted {t t' : Trace} (h : List.Forall₂ (secretView secrets secrets').event t t') :
    t.map redacted = t'.map redacted := by
  induction h with
  | nil => rfl
  | cons he _ ih => rw [List.map_cons, List.map_cons, redacted_of_event he, ih]

end view

/-! ## §2. The two readers. -/

section readers

variable {r : Reconciler} {app : WorkerApp} {secrets secrets' : Secrets}

/-- The loop over the references reads on alike, whatever bytes it has collected. -/
theorem readSecrets_mirrors {names : List String}
    (hread : ∀ name ∈ names, SameRead (secrets name) (secrets' name)) :
    ∀ {stream stream' : List UInt8}, Mirrors (secretView secrets secrets')
      (fun res res' => res = streamOf secrets names stream ∧ res' = streamOf secrets' names stream')
      (readSecrets names stream) (readSecrets names stream') := by
  induction names with
  | nil => exact mirrors_pure ⟨rfl, rfl⟩
  | cons name names ih =>
    intro stream stream'
    have ih := @ih fun name' hname => hread name' (List.mem_cons_of_mem _ hname)
    have hface := hread name (List.mem_cons_self ..)
    unfold readSecrets streamOf
    refine mirrors_bind (mirrors_getSecret name) ?_
    rintro res res' ⟨rfl, rfl⟩
    revert hface
    cases secrets name with
    | error e =>
      cases secrets' name with
      | ok s' => exact fun hface => by cases hface
      | error e' =>
        intro hface
        cases hface
        dsimp only
        split
        · exact ih
        · exact mirrors_pure ⟨rfl, rfl⟩
    | ok s =>
      cases secrets' name with
      | ok s' => exact fun _ => ih
      | error e' => exact fun hface => by cases hface

/-- **The config hash.** -/
theorem configHash_mirrors (hface : SameFace r app secrets secrets') :
    Mirrors (secretView secrets secrets') Eq (configHash r app) (configHash r app) := by
  unfold configHash
  split
  · exact mirrors_pure rfl
  · refine mirrors_bind (readSecrets_mirrors fun name hname =>
      hface.read name (List.mem_append_left _ hname)) ?_
    rintro res res' ⟨rfl, rfl⟩
    have hdigest := hface.digest
    unfold digestOf at hdigest
    revert hdigest
    cases streamOf secrets (secretRefs app) [] with
    | error e =>
      cases streamOf secrets' (secretRefs app) [] with
      | error e' =>
        intro hdigest
        cases hdigest
        exact mirrors_pure rfl
      | ok stream' => exact fun hdigest => by cases hdigest
    | ok stream =>
      cases streamOf secrets' (secretRefs app) [] with
      | error e' => exact fun hdigest => by cases hdigest
      | ok stream' => exact fun hdigest => mirrors_pure hdigest

/-- Two reads of the tracking Secret. -/
theorem SameFace.tracking (hface : SameFace r app secrets secrets') :
    SameRead (secrets app.spec.deployTrackingSecretRef)
      (secrets' app.spec.deployTrackingSecretRef) :=
  hface.read _ (List.mem_append_right _ (List.mem_singleton_self _))

theorem readTrackingSecret_mirrors (hface : SameFace r app secrets secrets') :
    Mirrors (secretView secrets secrets') Eq (readTrackingSecret app) (readTrackingSecret app) := by
  unfold readTrackingSecret
  split
  · exact mirrors_pure rfl
  · refine mirrors_bind (mirrors_getSecret _) ?_
    rintro res res' ⟨rfl, rfl⟩
    have htracking := hface.tracking
    revert htracking
    cases secrets app.spec.deployTrackingSecretRef with
    | error e =>
      cases secrets' app.spec.deployTrackingSecretRef with
      | ok s' => exact fun h => by cases h
      | error e' =>
        intro h
        cases h
        exact mirrors_pure rfl
    | ok s =>
      cases secrets' app.spec.deployTrackingSecretRef with
      | error e' => exact fun h => by cases h
      | ok s' =>
        intro h
        cases h with
        | ok huid hversion => exact mirrors_pure (by rw [huid, hversion])

theorem credentialed_iff {s : Secret} : s.credentialed = true ↔
    ¬ (s.get "AWS_ACCESS_KEY_ID" = [] ∨ s.get "AWS_SECRET_ACCESS_KEY" = []) := by
  simp [Secret.credentialed]

/-- **The object-store request**: the credentials go in, nothing of them comes out. -/
theorem currentBucketVersion_mirrors (hface : SameFace r app secrets secrets') :
    Mirrors (secretView secrets secrets') Eq (currentBucketVersion app)
      (currentBucketVersion app) := by
  unfold currentBucketVersion
  dsimp only
  split
  · exact mirrors_pure rfl
  · split
    · exact mirrors_pure rfl
    · refine mirrors_bind (mirrors_getSecret _) ?_
      rintro res res' ⟨hres, hres'⟩
      have htracking := hface.tracking
      rw [← hres, ← hres'] at htracking
      cases htracking with
      | error e => exact mirrors_pure rfl
      | @ok s s' _ _ =>
        have hcred := hface.credentials s s' hres.symm hres'.symm
        dsimp only
        by_cases hthere : s.credentialed = true
        · rw [if_neg (credentialed_iff.mp hthere),
            if_neg (credentialed_iff.mp (hcred ▸ hthere))]
          -- the same request but for the credentials
          have hrequest := mirrors_req (S := Api) (show (secretView secrets secrets').alike
            (.getObject (pointerRequest app s)) (.getObject (pointerRequest app s')) from rfl)
          refine mirrors_bind hrequest fun res res' hsame => ?_
          have hsame : res = res' := hsame
          subst hsame
          cases res <;> exact mirrors_pure rfl
        · have hmissing : s.get "AWS_ACCESS_KEY_ID" = [] ∨ s.get "AWS_SECRET_ACCESS_KEY" = [] :=
            not_not.mp fun hn => hthere (credentialed_iff.mpr hn)
          have hmissing' : s'.get "AWS_ACCESS_KEY_ID" = [] ∨
              s'.get "AWS_SECRET_ACCESS_KEY" = [] :=
            not_not.mp fun hn => hthere (hcred ▸ credentialed_iff.mpr hn)
          rw [if_pos hmissing, if_pos hmissing']
          exact mirrors_pure rfl

theorem pointerVersion_mirrors (hface : SameFace r app secrets secrets') :
    Mirrors (secretView secrets secrets') Eq (pointerVersion r app) (pointerVersion r app) := by
  unfold pointerVersion
  refine mirrors_bind_eq (readTrackingSecret_mirrors hface) fun res => ?_
  cases res with
  | error e => exact mirrors_pure rfl
  | ok identity =>
    dsimp only
    refine mirrors_bind_eq (Asks.mirrors (T := [.tracker]) (asks_ask rfl) ⟨rfl, rfl⟩)
      fun loaded => ?_
    refine mirrors_bind_eq ((freshEntry_topics r _).mirrors ⟨rfl, rfl⟩) fun fresh => ?_
    cases fresh with
    | some read => exact mirrors_pure rfl
    | none =>
      unfold refreshPointer
      refine mirrors_bind_eq (currentBucketVersion_mirrors hface) fun result => ?_
      exact Asks.mirrors (T := [.clock, .tracker])
        (asks_bind (asks_ask rfl) fun _ => asks_bind (asks_ask rfl) fun _ => asks_pure _)
        ⟨rfl, rfl⟩

end readers

/-! ## §3. A whole pass. -/

section pass

variable {r : Reconciler} {key : NamespacedName} {app : WorkerApp} {secrets secrets' : Secrets}

theorem resolveAppVersion_mirrors (hface : SameFace r app secrets secrets') :
    Mirrors (secretView secrets secrets') Eq (resolveAppVersion r app)
      (resolveAppVersion r app) := by
  have hlive : Mirrors (secretView secrets secrets') Eq (liveTemplateVersion app)
      (liveTemplateVersion app) := (liveTemplateVersion_topics app).mirrors ⟨rfl, rfl⟩
  unfold resolveAppVersion
  split
  · split
    · exact mirrors_pure rfl
    · exact mirrors_bind_eq hlive fun _ => mirrors_pure rfl
  · split
    · unfold resolvePinned
      dsimp only
      split
      · exact mirrors_pure rfl
      · refine mirrors_bind_eq (pointerVersion_mirrors hface) fun read => ?_
        split <;> exact mirrors_pure rfl
    · unfold resolveTracked
      refine mirrors_bind_eq (pointerVersion_mirrors hface) fun read => ?_
      split
      · exact mirrors_pure rfl
      · split
        · exact mirrors_pure rfl
        · exact mirrors_bind_eq hlive fun _ => mirrors_pure rfl

theorem reconcileFleet_mirrors (hface : SameFace r app secrets secrets') (appVersion : String) :
    Mirrors (secretView secrets secrets') Eq (reconcileFleet r app appVersion)
      (reconcileFleet r app appVersion) := by
  rw [reconcileFleet_eq]
  exact mirrors_check (configHash_mirrors hface) fun hash =>
    (placeFleet_topics ..).mirrors ⟨rfl, rfl⟩

/-- **A pass mirrors itself.** -/
theorem reconcileApp_mirrors (hface : SameFace r app secrets secrets') :
    Mirrors (secretView secrets secrets') Eq (reconcileApp r key app) (reconcileApp r key app) := by
  unfold reconcileApp
  split
  · exact Asks.mirrors (T := [.tracker]) (asks_bind (asks_ask rfl) fun _ => asks_pure _) ⟨rfl, rfl⟩
  · split
    · exact (rejectSpec_topics ..).mirrors ⟨rfl, rfl⟩
    · unfold reconcileValid
      refine mirrors_check ((ensureFoundation_topics r app).mirrors ⟨rfl, rfl⟩) fun foundation => ?_
      refine mirrors_bind_eq (resolveAppVersion_mirrors hface) fun resolved => ?_
      refine mirrors_check (reconcileFleet_mirrors hface _) fun outcome => ?_
      exact (finishPass_topics ..).mirrors ⟨rfl, rfl⟩

theorem reconcileRead_mirrors {read : Except Err WorkerApp}
    (hface : ∀ app, read = .ok app → SameFace r app secrets secrets') :
    Mirrors (secretView secrets secrets') Eq (reconcileRead r key read)
      (reconcileRead r key read) := by
  cases read with
  | error e =>
    unfold reconcileRead
    dsimp only
    split
    · exact Asks.mirrors (T := [.tracker]) (asks_bind (asks_ask rfl) fun _ => asks_pure _)
        ⟨rfl, rfl⟩
    · exact mirrors_pure rfl
  | ok app => exact reconcileApp_mirrors (hface app rfl)

end pass

/-- The two environments answer alike. -/
theorem withSecrets_answers {τ : Type} {secrets secrets' : Secrets}
    (env : τ → (o : Op) → Resp o × τ) (s : τ) {o o' : Op}
    (halike : (secretView secrets secrets').alike o o') :
    (secretView secrets secrets').answered o o' (withSecrets secrets env s o).1
        (withSecrets secrets' env s o').1 ∧
      (withSecrets secrets env s o).2 = (withSecrets secrets' env s o').2 := by
  by_cases hobject : o.topic = .object
  · cases o with
    | getObject q =>
      cases o' with
      | getObject q' =>
        have hq : q.redact = q'.redact := halike
        show (env s (.getObject q.redact)).1 = (env s (.getObject q'.redact)).1 ∧
          (env s (.getObject q.redact)).2 = (env s (.getObject q'.redact)).2
        rw [hq]
        exact ⟨rfl, rfl⟩
      | _ => cases halike
    | _ => cases hobject
  · have hsame : o = o' := by
      cases o with
      | getObject q => exact absurd rfl hobject
      | _ => exact halike
    subst hsame
    cases o with
    | getObject q => exact absurd rfl hobject
    | getSecret name => exact ⟨⟨rfl, rfl⟩, rfl⟩
    | _ => exact ⟨HEq.rfl, rfl⟩

/-- **Secret contents stay sealed.**  Two passes over Secrets with the same face, in the same
environment, exchange the same events but for the Secrets read and the credentials of the
object-store request, and return the same. -/
theorem secrets_sealed (r : Reconciler) (key : NamespacedName) (secrets secrets' : Secrets)
    {τ : Type} (env : τ → (o : Op) → Resp o × τ) (s : τ)
    (hface : ∀ app, (env s (.getApp key)).1 = .ok app → SameFace r app secrets secrets') :
    let run := runWith (S := Api) (withSecrets secrets env) (reconcile r key) s
    let run' := runWith (S := Api) (withSecrets secrets' env) (reconcile r key) s
    run.1.map redacted = run'.1.map redacted ∧ run.2 = run'.2 := by
  -- the WorkerApp is read first, by both passes alike
  have hread : Mirrors (secretView secrets secrets') Eq
      (reconcileRead r key (env s (.getApp key)).1) (reconcileRead r key (env s (.getApp key)).1) :=
    reconcileRead_mirrors hface
  have hserve : ∀ s s' o o', s = s' → (secretView secrets secrets').alike o o' →
      (secretView secrets secrets').answered o o' (withSecrets secrets env s o).1
        (withSecrets secrets' env s' o').1 ∧
      (withSecrets secrets env s o).2 = (withSecrets secrets' env s' o').2 :=
    fun s s' o o' hs halike => hs ▸ withSecrets_answers env s halike
  obtain ⟨hevents, hstate, hresult⟩ :=
    hread.runWith (I := Eq) hserve (s := (env s (.getApp key)).2) rfl
  rw [reconcile_eq]
  refine ⟨?_, Prod.ext hstate hresult⟩
  exact congrArg (redacted ⟨.getApp key, (env s (.getApp key)).1⟩ :: ·) (map_redacted hevents)

/-- An app that follows its bucket, with one Secret for the fleet and the tracker. -/
def keyedApp : WorkerApp :=
  let app := sampleApp "ghcr.io/denoland/celld:v0.5.1" .rolling
  { app with spec := { app.spec with
      appVersion := "auto"
      deployTrackingSecretRef := "aws"
      bucket := { app.spec.bucket with credentialsFrom := { secretRef := "aws" } } } }

/-- The Secret with this key. -/
def keyedSecrets (key : List UInt8) : Secrets := fun name =>
  if name = "aws" then
    .ok ⟨"uid", 7, [("AWS_ACCESS_KEY_ID", [65]), ("AWS_SECRET_ACCESS_KEY", key)]⟩
  else .error (.notFound name)

/-- The operator finds the app; the rest is answered by a server that never fails. -/
def keyedEnv (c : Cluster) : (o : Op) → Resp o × Cluster
  | .getApp _ => (.ok keyedApp, c)
  | o => answer {} c o

/-- The credentials an event carries. -/
def sentKey : Event Api → Option (List UInt8)
  | ⟨.getObject q, _⟩ => some q.secretAccessKey
  | _ => none

/-- Two keys with the same digest: the request carries the one or the other, and nothing else
differs. -/
theorem secrets_sealed_keys :
    let run := fun key => runWith (S := Api) (withSecrets (keyedSecrets key) keyedEnv)
      (reconcile sampleReconciler ⟨"prod", "shop"⟩) Cluster.empty
    (run [1]).1.filterMap sentKey = [[1]] ∧ (run [2]).1.filterMap sentKey = [[2]] ∧
      (run [1]).1.map redacted = (run [2]).1.map redacted ∧ (run [1]).2 = (run [2]).2 := by
  have hface : ∀ app, (keyedEnv Cluster.empty (.getApp ⟨"prod", "shop"⟩)).1 = .ok app →
      SameFace sampleReconciler app (keyedSecrets [1]) (keyedSecrets [2]) := by
    intro app happ
    cases happ
    refine ⟨fun name hname => ?_, rfl, fun s s' hs hs' => ?_⟩
    · have hname : name = "aws" := by
        simpa [keyedApp, sampleApp, secretRefs] using hname
      subst hname
      exact .ok rfl rfl
    · cases hs
      cases hs'
      decide
  have hsealed := secrets_sealed sampleReconciler ⟨"prod", "shop"⟩ (keyedSecrets [1])
    (keyedSecrets [2]) keyedEnv Cluster.empty hface
  exact ⟨by decide +kernel, by decide +kernel, hsealed.1, hsealed.2⟩

end CelldOperator
