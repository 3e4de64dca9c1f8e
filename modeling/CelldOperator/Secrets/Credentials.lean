/-
  CelldOperator.Secrets.Credentials

  **WHERE THE TRACKING CREDENTIALS GO.**

  A pass makes at most one request to the object store.  It carries credentials that
  were read by the operation before it, from the tracking Secret of an accepted spec;
  it asks for the deploy pointer of that spec's bucket, at AWS or at an endpoint the
  operator was told to trust.

    • `trustedEndpoint_of_valid` — what an accepted spec says of its endpoint,
    • `currentBucketVersion_grounded` — the one place the request is made,
    • `credentials_confined` — at every point of every pass.
-/
import CelldOperator.Pass.FleetSpec
import CelldOperator.Secrets.Sealed

namespace CelldOperator

open Effect Prog

/-! ## §1. What a request rests on. -/

/-- AWS itself, or a listed HTTPS URL that carries no credentials of its own. -/
def TrustedEndpoint (r : Reconciler) (endpoint : String) : Prop :=
  endpoint = "" ∨ (endpoint ∈ r.allowedBucketEndpoints ∧ ∃ url, r.lib.parseURL endpoint = some url ∧
    url.scheme = "https" ∧ url.hostname ≠ "" ∧ url.hasUser = false ∧ url.rawQuery = "" ∧
    url.fragment = "")

theorem trustedEndpoint_of_valid {r : Reconciler} {app : WorkerApp}
    (h : validateApp r app = .ok ()) : TrustedEndpoint r app.spec.bucket.endpoint := by
  have h := (passedChecks_of_valid h).trust
  unfold validateTrust at h
  obtain ⟨-, -, h⟩ := of_bind_ok h
  obtain ⟨-, -, h⟩ := of_bind_ok h
  obtain ⟨-, -, h⟩ := of_bind_ok h
  obtain ⟨-, -, h⟩ := of_bind_ok h
  have hendpoint := of_refuseIf h
  by_cases hempty : app.spec.bucket.endpoint = ""
  · exact .inl hempty
  · rw [Bool.and_eq_false_iff] at hendpoint
    have hparsed := hendpoint.resolve_left (by simpa using hempty)
    split at hparsed
    · cases hparsed
    · next url hurl =>
      simp only [Bool.or_eq_false_iff, bne_eq_false_iff_eq, beq_eq_false_iff_ne,
        Bool.not_eq_false', List.contains_iff_mem] at hparsed
      obtain ⟨⟨⟨⟨⟨hscheme, hhost⟩, huser⟩, hquery⟩, hfragment⟩, hlisted⟩ := hparsed
      exact .inr ⟨hlisted, url, hurl, hscheme, hhost, huser, hquery, hfragment⟩

/-- **The request rests on** an accepted WorkerApp of this key and on its tracking Secret, read by
the operation right before; it is the first of the pass. -/
def Grounded (r : Reconciler) (key : NamespacedName) (h : Trace) (q : ObjectRequest) : Prop :=
  ∃ app secret pre, h = pre ++ [⟨.getSecret app.spec.deployTrackingSecretRef, .ok secret⟩] ∧
    Saw pre (.getApp key) (.ok app) ∧ validateApp r app = .ok () ∧
    app.spec.deployTrackingSecretRef ≠ "" ∧ secret.credentialed = true ∧
    q = pointerRequest app secret ∧ TrustedEndpoint r q.endpoint ∧
    ∀ e ∈ h, e.op.topic ≠ .object

/-- The requests of a pass are grounded. -/
def RequestEvent (r : Reconciler) (key : NamespacedName) (h : Trace) (e : Event Api) : Prop :=
  ∀ q, e.op = .getObject q → Grounded r key h q

/-! ## §2. The place it is made. -/

section

variable {α β : Type} {r : Reconciler} {key : NamespacedName} {app : WorkerApp} {h : Trace}

/-- The pass is over this WorkerApp, and has made no request yet. -/
structure Unasked (key : NamespacedName) (app : WorkerApp) (h : Trace) : Prop where
  app : Saw h (.getApp key) (.ok app)
  none : ∀ e ∈ h, e.op.topic ≠ .object

theorem requestEvent_of_topic {e : Event Api} (he : e.op.topic ≠ .object) :
    RequestEvent r key h e := by
  intro q hq
  rw [hq] at he
  exact absurd rfl he

/-- Step over a function that makes no request. -/
theorem Asks.unasked {T : List Topic} {p : P α} (hp : Asks T p) (hT : T.contains .object = false)
    (hh : Unasked key app h) :
    Valid (RequestEvent r key) h p (fun h' _ => Unasked key app h') := by
  have hno : Only (fun o : Op => o.topic ≠ .object) p := by
    refine Only.mono (fun o ho htopic => ?_) hp
    rw [htopic, hT] at ho
    cases ho
  refine (Only.valid hno fun h e he => requestEvent_of_topic he).post ?_
  rintro h' a ⟨t, rfl, -, ht⟩
  refine ⟨List.mem_append_left _ hh.app, fun e he => ?_⟩
  rcases List.mem_append.mp he with he | he
  · exact hh.none e he
  · exact ht e he

/-- The same, once nothing depends on it any more. -/
theorem Asks.unrequested {T : List Topic} {p : P α} (hp : Asks T p)
    (hT : T.contains .object = false) : Valid (RequestEvent r key) h p (fun _ _ => True) := by
  refine (Only.valid (P := fun o : Op => o.topic ≠ .object) (Only.mono (fun o ho htopic => ?_) hp)
    fun h e he => requestEvent_of_topic he).post fun _ _ _ => trivial
  rw [htopic, hT] at ho
  cases ho

theorem currentBucketVersion_grounded (hvalid : validateApp r app = .ok ())
    (hh : Unasked key app h) :
    Valid (RequestEvent r key) h (currentBucketVersion app) (fun _ _ => True) := by
  unfold currentBucketVersion
  dsimp only
  split
  · exact valid_exit trivial
  · split
    · exact valid_exit trivial
    · next href =>
      rw [valid_bind, valid_req]
      refine fun res => ⟨requestEvent_of_topic (by simp [Op.topic]), ?_⟩
      cases res with
      | error e => exact valid_exit trivial
      | ok secret =>
        dsimp only
        split
        · exact valid_exit trivial
        · next hkeys =>
          rw [valid_bind, valid_req]
          refine fun res => ⟨fun q hq => ?_, ?_⟩
          · cases hq
            refine ⟨app, secret, h, rfl, hh.app, hvalid, href, credentialed_iff.mpr hkeys,
              rfl, trustedEndpoint_of_valid hvalid, fun e he => ?_⟩
            rcases List.mem_append.mp he with he | he
            · exact hh.none e he
            · rw [List.mem_singleton.mp he]
              simp [Op.topic]
          · cases res <;> exact valid_exit trivial

theorem pointerVersion_grounded (hvalid : validateApp r app = .ok ()) (hh : Unasked key app h) :
    Valid (RequestEvent r key) h (pointerVersion r app) (fun _ _ => True) := by
  unfold pointerVersion
  rw [valid_bind]
  refine ((readTrackingSecret_topics app).unasked rfl hh).post fun h res hh => ?_
  cases res with
  | error e => exact valid_exit trivial
  | ok identity =>
    dsimp only
    rw [valid_bind]
    refine (Asks.unasked (T := [.tracker]) (asks_ask rfl) rfl hh).post fun h loaded hh => ?_
    rw [valid_bind]
    refine ((freshEntry_topics r _).unasked rfl hh).post fun h fresh hh => ?_
    cases fresh with
    | some read => exact valid_exit trivial
    | none =>
      unfold refreshPointer
      dsimp only
      rw [valid_bind]
      refine (currentBucketVersion_grounded hvalid hh).post fun h result _ => ?_
      exact Asks.unrequested (T := [.clock, .tracker])
        (asks_bind (asks_ask rfl) fun _ => asks_bind (asks_ask rfl) fun _ => asks_pure _) rfl

/-! ## §3. A whole pass. -/

theorem resolveAppVersion_grounded (hvalid : validateApp r app = .ok ()) (hh : Unasked key app h) :
    Valid (RequestEvent r key) h (resolveAppVersion r app) (fun _ _ => True) := by
  have hlive : ∀ {h : Trace}, Valid (RequestEvent r key) h (liveTemplateVersion app)
      (fun _ _ => True) := (liveTemplateVersion_topics app).unrequested rfl
  unfold resolveAppVersion
  split
  · split
    · exact valid_exit trivial
    · rw [valid_bind]
      exact hlive.post fun _ _ _ => valid_exit trivial
  · split
    · unfold resolvePinned
      dsimp only
      split
      · exact valid_exit trivial
      · rw [valid_bind]
        refine (pointerVersion_grounded hvalid hh).post fun _ read _ => ?_
        split <;> exact valid_exit trivial
    · unfold resolveTracked
      rw [valid_bind]
      refine (pointerVersion_grounded hvalid hh).post fun _ read _ => ?_
      split
      · exact valid_exit trivial
      · split
        · exact valid_exit trivial
        · rw [valid_bind]
          exact hlive.post fun _ _ _ => valid_exit trivial

theorem reconcileFleet_unrequested (appVersion : String) :
    Valid (RequestEvent r key) h (reconcileFleet r app appVersion) (fun _ _ => True) := by
  refine Asks.unrequested (T := .secret :: placeTopics) ?_ rfl
  rw [reconcileFleet_eq]
  exact asks_check ((configHash_topics r app).mono (by decide)) fun hash =>
    (placeFleet_topics ..).mono (by decide)

theorem reconcileApp_grounded (hh : Unasked key app h) :
    Valid (RequestEvent r key) h (reconcileApp r key app) (fun _ _ => True) := by
  unfold reconcileApp
  split
  · exact Asks.unrequested (T := [.tracker]) (asks_bind (asks_ask rfl) fun _ => asks_pure _) rfl
  · split
    · exact (rejectSpec_topics ..).unrequested rfl
    · next hvalid =>
      unfold reconcileValid
      refine valid_check (((ensureFoundation_topics r app).unasked rfl hh).post fun h res hh => ?_)
      cases res with
      | error e => trivial
      | ok foundation =>
        dsimp only
        rw [valid_bind]
        refine (resolveAppVersion_grounded hvalid hh).post fun h resolved _ => ?_
        refine valid_check ((reconcileFleet_unrequested _).post fun h res _ => ?_)
        cases res with
        | error e => trivial
        | ok outcome => exact (finishPass_topics ..).unrequested rfl

end

/-- **The tracking credentials go to one place.**  Whenever a pass asks the object store, it does
so for the first time, with the credentials its last operation read from the tracking Secret of an
accepted spec, for the deploy pointer of that spec, and at an endpoint that is trusted. -/
theorem credentials_confined (r : Reconciler) (key : NamespacedName) (h : Trace)
    (q : ObjectRequest) (next : Resp (.getObject q) → P (Except Err Result))
    (hsteps : Steps (reconcile r key) h (.call (.getObject q) next)) : Grounded r key h q := by
  have hvalid : Valid (RequestEvent r key) [] (reconcile r key) (fun _ _ => True) := by
    rw [reconcile_eq, valid_bind, valid_req]
    refine fun read => ⟨requestEvent_of_topic (by simp [Op.topic]), ?_⟩
    cases read with
    | error e =>
      unfold reconcileRead
      dsimp only
      split
      · exact Asks.unrequested (T := [.tracker]) (asks_bind (asks_ask rfl) fun _ => asks_pure _) rfl
      · exact valid_exit trivial
    | ok app =>
      refine reconcileApp_grounded ⟨List.mem_singleton_self _, fun e he => ?_⟩
      rw [List.mem_singleton.mp he]
      simp [Op.topic]
  exact valid_issued hvalid hsteps (.error (.other "")) q rfl

/-- A key that was sent was sent in a request. -/
theorem of_sentKey {t : Trace} {key : List UInt8} (h : key ∈ t.filterMap sentKey) :
    ∃ (q : ObjectRequest) (res : Resp (.getObject q)),
      Saw t (.getObject q) res ∧ q.secretAccessKey = key := by
  obtain ⟨⟨o, res⟩, hmem, hkey⟩ := List.mem_filterMap.mp h
  cases o with
  | getObject q => exact ⟨q, res, hmem, Option.some.inj hkey⟩
  | _ => cases hkey

/-- The pass over the app of the last section sends its key once, and with good reason. -/
theorem credentials_confined_keyed :
    ∃ h q, q.secretAccessKey = [1] ∧ Grounded sampleReconciler ⟨"prod", "shop"⟩ h q := by
  have hsent : ([1] : List UInt8) ∈ (runWith (S := Api) (withSecrets (keyedSecrets [1]) keyedEnv)
      (reconcile sampleReconciler ⟨"prod", "shop"⟩) Cluster.empty).1.filterMap sentKey := by
    decide +kernel
  obtain ⟨q, res, hsaw, hkey⟩ := of_sentKey hsent
  obtain ⟨h, next, hsteps⟩ := steps_of_mem_runWith hsaw
  exact ⟨h, q, hkey, credentials_confined sampleReconciler ⟨"prod", "shop"⟩ h q next hsteps⟩

end CelldOperator
