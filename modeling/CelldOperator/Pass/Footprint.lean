/-
  CelldOperator.Pass.Footprint

  **WHOM EACH FUNCTION ASKS.**

  `Asks T p` says that every operation the program `p` issues is about one of the
  topics `T`: a request to the API server, by verb and kind; a Secret, the object
  store, the pods' `/state`; the clock, the tracker cache, or an order Go leaves open.
  One lemma per function.  Secrets are read in two places only, `configHash` and
  `pointerVersion`, the object store in one, and pods are polled by `observeFleet` alone.
-/
import CelldOperator.Controller.Reconcile

namespace CelldOperator

open Effect Prog

/-! ## §1. Topics. -/

/-- Whom an operation asks, and for what. -/
inductive Topic where
  | app
  | status
  | read (k : Kind)
  | create (k : Kind)
  | update (k : Kind)
  | delete (k : Kind)
  | pods
  | hpas
  | gateway
  | secret
  | object
  | state
  | clock
  | tracker
  | order
  deriving DecidableEq

/-- The topic of an operation. -/
def Op.topic : Op → Topic
  | .now => .clock
  | .getApp _ | .listApps => .app
  | .updateStatus _ => .status
  | .getSecret _ => .secret
  | .get k _ | .getLive k _ => .read k
  | .create k _ => .create k
  | .update k _ => .update k
  | .delete k _ _ _ => .delete k
  | .listPods _ | .getPod _ => .pods
  | .listHPAs => .hpas
  | .getGateway _ _ => .gateway
  | .getState _ => .state
  | .getObject _ => .object
  | .completionOrder _ | .rangeStates _ | .rangeKinds _ => .order
  | .trackerLoad _ | .trackerStore _ _ _ | .trackerForget _ => .tracker

/-- A child that is created or brought up to date. -/
def ensured (k : Kind) : List Topic := [.read k, .create k, .update k]

/-- A child that is removed. -/
def removed (k : Kind) : List Topic := [.read k, .delete k]

/-- What a look at the fleet takes. -/
def observed : List Topic := [.pods, .order, .state]

def foundationTopics : List Topic :=
  [Kind.serviceAccount, .internalService, .publicService, .networkPolicy,
    .podDisruptionBudget].flatMap ensured

/-- A pause is asked for, or the scaler of a fleet without autoscaling removed. -/
def scalerTopics : List Topic := ensured .scaledObject ++ removed .scaledObject

def routeKinds : List Kind := [.ingress, .httpRoute, .virtualService]

def ingressTopics : List Topic :=
  routeKinds.flatMap (fun k => ensured k ++ removed k) ++ [.gateway, .clock, .order]

/-- What a change of the template takes. -/
def changeTopics : List Topic := [.update .statefulSet, .pods, .clock]

/-- What drives a fleet behind its pause. -/
def fleetTopics : List Topic := changeTopics ++ observed

def existingTopics : List Topic := fleetTopics ++ .hpas :: scalerTopics

/-- Every operation of `p` is about one of these topics. -/
def Asks {α : Type} (T : List Topic) (p : P α) : Prop :=
  Only (fun o : Op => T.contains o.topic = true) p

variable {α β : Type} {T T' : List Topic}

theorem only_check {Q : Op → Prop} {p : P (Except Err α)} {f : α → P (Except Err β)}
    (hp : Only Q p) (hf : ∀ a, Only Q (f a)) : Only Q (check p f) := by
  unfold check
  refine only_bind hp fun res => ?_
  cases res with
  | error e => exact only_pure _ _
  | ok a => exact hf a

theorem only_ask {Q : Op → Prop} {o : Op} (h : Q o) : Only Q (ask o) :=
  (only_req (S := Api) Q o).mpr h

theorem Asks.mono {p : P α} (h : Asks T p) (hT : T ⊆ T') : Asks T' p :=
  Only.mono (fun _ ho => by simpa using hT (by simpa using ho)) h

theorem Asks.only {p : P α} {Q : Op → Prop} (h : Asks T p) (hQ : ∀ o : Op, o.topic ∈ T → Q o) :
    Only Q p :=
  Only.mono (fun o ho => hQ o (by simpa using ho)) h

@[simp] theorem asks_pure (a : α) : Asks T (pure a : P α) := only_pure _ a

theorem asks_ask {o : Op} (h : T.contains o.topic = true) : Asks T (ask o) :=
  (only_req (S := Api) _ o).mpr h

theorem asks_bind {p : P α} {f : α → P β} (hp : Asks T p) (hf : ∀ a, Asks T (f a)) :
    Asks T (p >>= f) := only_bind hp hf

theorem asks_check {p : P (Except Err α)} {f : α → P (Except Err β)} (hp : Asks T p)
    (hf : ∀ a, Asks T (f a)) : Asks T (check p f) := only_check hp hf

/-! ## §2. Observing the fleet. -/

theorem pollPod_topics (pod : Pod) : Asks [.state] (pollPod pod) := by
  unfold pollPod fetch
  split
  · exact asks_pure _
  · refine asks_bind (asks_bind (asks_ask rfl) fun res => ?_) fun res => ?_
    · cases res <;> exact asks_pure _
    · cases res <;> exact asks_pure _

theorem pollAll_topics (pods : List Pod) (s : Sweep) : Asks [.state] (pollAll pods s) := by
  induction pods generalizing s with
  | nil => exact asks_pure _
  | cons pod pods ih => exact asks_bind (pollPod_topics pod) fun _ => ih _

theorem observeFleet_topics (app : WorkerApp) (sts : StatefulSet) :
    Asks observed (observeFleet app sts) := by
  unfold observeFleet fleetSweep
  refine asks_bind (asks_ask rfl) fun res => ?_
  split
  · exact asks_pure _
  · split
    · exact asks_pure _
    · exact asks_bind (asks_ask rfl) fun _ => (pollAll_topics _ _).mono (by decide)

theorem settleWait_topics (lib : Lib) (sts : StatefulSet) : Asks [.clock] (settleWait lib sts) := by
  unfold settleWait
  split
  · exact asks_pure _
  · refine asks_bind (asks_ask rfl) fun now => ?_
    split
    · exact asks_bind (asks_ask rfl) fun _ => asks_pure _
    · exact asks_pure _

theorem checkReleased_topics (app : WorkerApp) (revision : String) (ords : List Nat) :
    Asks [.pods] (checkReleased app revision ords) := by
  induction ords with
  | nil => exact asks_pure _
  | cons ord ords ih =>
    unfold checkReleased
    refine asks_bind (asks_ask rfl) fun res => ?_
    split
    · exact asks_pure _
    · split
      · exact asks_pure _
      · split
        · exact asks_pure _
        · exact ih

theorem noFleetHPA_topics (app : WorkerApp) : Asks [.hpas] (noFleetHPA app) :=
  asks_check (asks_ask rfl) fun _ => asks_pure _

theorem liveFleetBreakingReason_topics (app : WorkerApp) (existing desired : StatefulSet) :
    Asks [.pods] (liveFleetBreakingReason app existing desired) := by
  unfold liveFleetBreakingReason
  dsimp only
  split
  · exact asks_pure _
  · exact asks_check (asks_ask rfl) fun _ => asks_pure _

theorem configHash_topics (r : Reconciler) (app : WorkerApp) : Asks [.secret] (configHash r app) := by
  have hread : ∀ names stream, Asks [.secret] (readSecrets names stream) := by
    intro names
    induction names with
    | nil => exact fun _ => asks_pure _
    | cons name names ih =>
      intro stream
      unfold readSecrets
      refine asks_bind (asks_ask rfl) fun res => ?_
      split
      · exact ih _
      · split
        · exact ih _
        · exact asks_pure _
  unfold configHash
  split
  · exact asks_pure _
  · exact asks_check (hread _ _) fun _ => asks_pure _

/-! ## §3. Children. -/

theorem ensureObject_topics {k : Kind} (r : Reconciler) (app : WorkerApp) (desired : Obj k)
    (mutate : Obj k → Obj k → Obj k) : Asks (ensured k) (ensureObject r app desired mutate) := by
  unfold ensureObject
  refine asks_bind (asks_ask (by simp [ensured, Op.topic])) fun res => ?_
  split
  · split
    · exact asks_check (asks_ask (by simp [ensured, Op.topic])) fun _ => asks_pure _
    · exact asks_pure _
  · dsimp only
    split
    · exact asks_pure _
    · split
      · exact asks_pure _
      · exact asks_check (asks_ask (by simp [ensured, Op.topic])) fun _ => asks_pure _

theorem ensureUnstructured_topics {k : Kind} (app : WorkerApp) (desired : Obj k) :
    Asks (ensured k) (ensureUnstructured app desired) := by
  unfold ensureUnstructured
  refine asks_bind (asks_ask (by simp [ensured, Op.topic])) fun res => ?_
  split
  · split
    · exact asks_check (asks_ask (by simp [ensured, Op.topic])) fun _ => asks_pure _
    · exact asks_pure _
  · split
    · exact asks_pure _
    · split
      · exact asks_pure _
      · exact asks_check (asks_ask (by simp [ensured, Op.topic])) fun _ => asks_pure _

theorem ensureScaledObject_topics (r : Reconciler) (app : WorkerApp) (phase : Phase) :
    Asks scalerTopics (ensureScaledObject r app phase) := by
  unfold ensureScaledObject removeScaledObject
  split
  · refine asks_bind (asks_ask rfl) fun res => ?_
    split
    · split <;> exact asks_pure _
    · split
      · exact asks_pure _
      · refine asks_bind (asks_ask rfl) fun res => ?_
        split
        · exact asks_pure _
        · split <;> exact asks_pure _
  · refine asks_bind ((ensureUnstructured_topics _ _).mono (by decide)) fun res => ?_
    split <;> exact asks_pure _

theorem pauseScaling_topics (r : Reconciler) (app : WorkerApp) :
    Asks (.hpas :: scalerTopics) (pauseScaling r app) := by
  have hrequest : Asks (.hpas :: scalerTopics) (requestPause r app) :=
    asks_check ((ensureUnstructured_topics _ _).mono (by decide)) fun _ => asks_pure _
  unfold pauseScaling
  refine asks_bind (asks_ask rfl) fun read => ?_
  split
  · split
    · refine asks_bind ((ensureScaledObject_topics _ _ _).mono (by decide)) fun res => ?_
      dsimp only
      split <;> exact asks_pure _
    · split
      · exact (noFleetHPA_topics app).mono (by decide)
      · exact asks_pure _
  · split
    · split
      · exact (noFleetHPA_topics app).mono (by decide)
      · split
        · exact hrequest
        · exact asks_pure _
    · split
      · exact hrequest
      · split
        · exact asks_pure _
        · split
          · exact (noFleetHPA_topics app).mono (by decide)
          · exact asks_pure _

theorem headed_topics {heading : String} {p : P (Except Err α)} (h : Asks T p) :
    Asks T (headed heading p) := by
  unfold headed
  refine asks_bind h fun res => ?_
  split <;> exact asks_pure _

theorem ensureFoundation_topics (r : Reconciler) (app : WorkerApp) :
    Asks foundationTopics (ensureFoundation r app) := by
  unfold ensureFoundation
  refine asks_check (headed_topics ((ensureObject_topics ..).mono (by decide))) fun _ => ?_
  refine asks_check (headed_topics ((ensureObject_topics ..).mono (by decide))) fun _ => ?_
  refine asks_check (headed_topics ((ensureObject_topics ..).mono (by decide))) fun _ => ?_
  refine asks_check (headed_topics ((ensureObject_topics ..).mono (by decide))) fun _ => ?_
  exact asks_check (headed_topics ((ensureObject_topics ..).mono (by decide))) fun _ => asks_pure _

theorem removeRoutes_topics (app : WorkerApp) (mode : Option Kind) {kinds : List Kind}
    (hkinds : ∀ k ∈ kinds, removed k ⊆ T) : Asks T (removeRoutes app mode kinds) := by
  induction kinds with
  | nil => exact asks_pure _
  | cons kind kinds ih =>
    obtain ⟨hkind, hrest⟩ := List.forall_mem_cons.mp hkinds
    have ih := ih hrest
    have hread : T.contains (.read kind) = true := by simpa using hkind (by simp [removed])
    have hdelete : T.contains (.delete kind) = true := by simpa using hkind (by simp [removed])
    unfold removeRoutes
    split
    · exact ih
    · refine asks_bind (asks_ask hread) fun res => ?_
      split
      · split
        · exact ih
        · exact asks_pure _
      · split
        · exact ih
        · refine asks_bind (asks_ask hdelete) fun res => ?_
          split
          · exact ih
          · split
            · exact ih
            · exact asks_pure _

theorem latchRetries_topics (lib : Lib) (live route : Obj .httpRoute) :
    Asks [.clock] (latchRetries lib live route) := by
  have hrest : ∀ deadline : Time, Asks [.clock] (do
      let now ← ask .now
      if now < deadline then
        pure (annotate route (·.insert retryRecheckAnnotation (lib.formatTime deadline)))
      else pure (annotate route (·.erase retryRequestedAnnotation))) := by
    intro deadline
    refine asks_bind (asks_ask rfl) fun now => ?_
    split <;> exact asks_pure _
  unfold latchRetries
  split
  · exact asks_bind (asks_pure _) fun deadline => hrest deadline
  · exact asks_bind (asks_ask rfl) fun now => asks_bind (asks_pure _) fun deadline => hrest deadline

theorem configureHTTPRouteRetries_topics (r : Reconciler) (route : Obj .httpRoute) :
    Asks [.read .httpRoute, .clock] (configureHTTPRouteRetries r route) := by
  unfold configureHTTPRouteRetries
  split
  · exact asks_pure _
  · dsimp only
    refine asks_bind (asks_ask rfl) fun res => ?_
    split
    · exact asks_pure _
    · split
      · exact asks_bind ((latchRetries_topics ..).mono (by decide)) fun _ => asks_pure _
      · exact asks_pure _

theorem httpRouteReady_topics (r : Reconciler) (app : WorkerApp) (desired : Obj .httpRoute) :
    Asks [.read .httpRoute, .gateway] (httpRouteReady r app desired) := by
  have hparents : ∀ generation parents,
      Asks [.read .httpRoute, .gateway] (parentsReady r app.namespace_ generation parents) := by
    intro generation parents
    induction parents with
    | nil => exact asks_pure _
    | cons parent parents ih =>
      unfold parentsReady
      dsimp only
      split
      · exact ih
      · split
        · refine asks_bind (asks_ask rfl) fun res => ?_
          split
          · exact asks_pure _
          · split
            · exact asks_pure _
            · exact ih
        · exact ih
  unfold httpRouteReady
  refine asks_bind (asks_ask rfl) fun res => ?_
  split
  · exact asks_pure _
  · exact hparents _ _

theorem httpRouteRetryDropped_topics (route : Obj .httpRoute) :
    Asks [.read .httpRoute] (httpRouteRetryDropped route) := by
  unfold httpRouteRetryDropped
  split
  · exact asks_pure _
  · split
    · exact asks_pure _
    · refine asks_bind (asks_ask rfl) fun res => ?_
      split <;> exact asks_pure _

theorem ensureHTTPRoute_topics (r : Reconciler) (app : WorkerApp) :
    Asks (.gateway :: .clock :: ensured .httpRoute) (ensureHTTPRoute r app) := by
  unfold ensureHTTPRoute
  refine asks_bind ((configureHTTPRouteRetries_topics _ _).mono (by decide)) fun res => ?_
  refine asks_bind ((ensureObject_topics ..).mono (by decide)) fun res => ?_
  split
  · refine asks_bind ((httpRouteRetryDropped_topics _).mono (by decide)) fun dropped => ?_
    split
    · exact asks_pure _
    · exact asks_bind ((httpRouteReady_topics ..).mono (by decide)) fun _ => asks_pure _
  · exact asks_pure _

theorem ensureIngress_topics (r : Reconciler) (app : WorkerApp) :
    Asks ingressTopics (ensureIngress r app) := by
  have hkinds : ∀ k ∈ routeKinds, removed k ⊆ ingressTopics := by decide
  unfold ensureIngress removeObsoleteRoutes
  refine asks_bind (asks_bind (asks_ask rfl) fun order => removeRoutes_topics _ _ fun k hk =>
    hkinds k (order.property.mem_iff.mp hk)) fun res => ?_
  split
  · exact asks_pure _
  · split
    · exact asks_pure _
    · split
      · exact asks_pure _
      · unfold ensureVirtualService
        refine asks_bind ((ensureUnstructured_topics ..).mono (by decide)) fun res => ?_
        split <;> exact asks_pure _
      · unfold ensureV1Ingress
        refine asks_bind ((ensureObject_topics ..).mono (by decide)) fun res => ?_
        split <;> exact asks_pure _
      · exact (ensureHTTPRoute_topics r app).mono (by decide)
      · exact (ensureHTTPRoute_topics r app).mono (by decide)

theorem ensureAuthorizationPolicy_topics (r : Reconciler) (app : WorkerApp) :
    Asks (ensured .authorizationPolicy) (ensureAuthorizationPolicy r app) := by
  unfold ensureAuthorizationPolicy
  refine asks_bind (ensureUnstructured_topics _ _) fun res => ?_
  split <;> exact asks_pure _

/-! ## §4. The fleet. -/

theorem writeFleet_topics {app : WorkerApp} {o : StatefulSet}
    {next : StatefulSet → P (Except Err FleetOutcome)} (hT : T.contains (.update .statefulSet) = true)
    (hnext : ∀ stored, Asks T (next stored)) : Asks T (writeFleet app o next) := by
  unfold writeFleet updateFleet
  refine asks_check (asks_bind (asks_ask hT) fun res => ?_) fun res => ?_
  · split
    · exact asks_pure _
    · split <;> exact asks_pure _
  · split
    · exact hnext _
    · exact asks_pure _

theorem releaseNext_topics (r : Reconciler) (app : WorkerApp) (sts : StatefulSet)
    (partition replicas : Nat) :
    Asks fleetTopics (releaseNext r app sts partition replicas) := by
  unfold releaseNext
  dsimp only
  split
  · exact asks_pure _
  · refine asks_bind ((settleWait_topics ..).mono (by decide)) fun wait => ?_
    split
    · exact asks_pure _
    · split
      · exact asks_pure _
      · refine asks_bind ((checkReleased_topics ..).mono (by decide)) fun wait => ?_
        split
        · exact asks_pure _
        · exact asks_pure _
        · refine asks_bind ((observeFleet_topics ..).mono (by decide)) fun sweep => ?_
          split
          · exact asks_pure _
          · exact asks_bind (asks_ask rfl) fun now =>
              writeFleet_topics rfl fun _ => asks_pure _

theorem recreateStep_topics (app : WorkerApp) (existing desired : StatefulSet) (hazard : String) :
    Asks changeTopics (recreateStep app existing desired hazard) := by
  unfold recreateStep
  dsimp only
  split
  · exact writeFleet_topics rfl fun _ => asks_pure _
  · refine asks_check (asks_ask rfl) fun pods => ?_
    split
    · exact asks_pure _
    · exact writeFleet_topics rfl fun _ => asks_pure _

theorem changeTemplate_topics (r : Reconciler) (app : WorkerApp) (existing desired : StatefulSet) :
    Asks changeTopics (changeTemplate r app existing desired) := by
  unfold changeTemplate
  refine asks_check ((liveFleetBreakingReason_topics ..).mono (by decide)) fun breaking => ?_
  split
  · exact asks_pure _
  · split
    · exact (recreateStep_topics ..).mono (by decide)
    · exact asks_bind (asks_ask rfl) fun now => writeFleet_topics rfl fun _ => asks_pure _

theorem steadyFleet_topics (app : WorkerApp) (existing : StatefulSet) (appVersion : String) :
    Asks fleetTopics (steadyFleet app existing appVersion) := by
  unfold steadyFleet
  split
  · exact writeFleet_topics rfl fun _ => asks_pure _
  · split
    · exact asks_pure _
    · refine asks_bind ((observeFleet_topics _ _).mono (by decide)) fun sweep => ?_
      split
      · exact asks_pure _
      · refine asks_bind (asks_ask rfl) fun states => ?_
        split <;> exact asks_pure _

theorem driveFleet_topics (r : Reconciler) (app : WorkerApp) (existing desired : StatefulSet)
    (appVersion : String) :
    Asks fleetTopics (driveFleet r app existing desired appVersion) := by
  unfold driveFleet
  dsimp only
  split
  · exact asks_pure _
  · split
    · exact (recreateStep_topics ..).mono (by decide)
    · split
      · exact (changeTemplate_topics ..).mono (by decide)
      · split
        · unfold rolloutStep
          split
          · exact writeFleet_topics rfl fun _ => releaseNext_topics ..
          · exact releaseNext_topics ..
        · exact (steadyFleet_topics ..).mono (by decide)

theorem reconcileExisting_topics (r : Reconciler) (app : WorkerApp) (existing desired : StatefulSet)
    (appVersion : String) :
    Asks existingTopics (reconcileExisting r app existing desired appVersion) := by
  unfold reconcileExisting
  split
  · exact asks_pure _
  · split
    · refine asks_check ((pauseScaling_topics r app).mono (by decide)) fun paused => ?_
      split
      · exact (driveFleet_topics ..).mono (by decide)
      · exact asks_pure _
    · exact (driveFleet_topics ..).mono (by decide)

/-- `reconcileFleet` behind the config hash. -/
def placeFleet (r : Reconciler) (app : WorkerApp) (desired : StatefulSet) (appVersion : String) :
    P (Except Err FleetOutcome) := do
  match ← ask (.getLive .statefulSet (fleetName app)) with
  | .error e =>
    if e.isNotFound then
      check (ask (.create .statefulSet desired)) fun _ =>
        pure (.ok { phase := .pending, requeue := 10 * second })
    else pure (.error e)
  | .ok existing => reconcileExisting r app existing desired appVersion

theorem reconcileFleet_eq (r : Reconciler) (app : WorkerApp) (appVersion : String) :
    reconcileFleet r app appVersion = check (configHash r app) fun hash =>
      placeFleet r app (desiredFleet r app hash appVersion) appVersion := rfl

def placeTopics : List Topic := .read .statefulSet :: .create .statefulSet :: existingTopics

theorem placeFleet_topics (r : Reconciler) (app : WorkerApp) (desired : StatefulSet)
    (appVersion : String) : Asks placeTopics (placeFleet r app desired appVersion) := by
  unfold placeFleet
  refine asks_bind (asks_ask rfl) fun read => ?_
  split
  · split
    · exact asks_check (asks_ask rfl) fun _ => asks_pure _
    · exact asks_pure _
  · exact (reconcileExisting_topics ..).mono (by decide)

theorem reconcileFleet_topics (r : Reconciler) (app : WorkerApp) (appVersion : String) :
    Asks (.secret :: placeTopics) (reconcileFleet r app appVersion) := by
  rw [reconcileFleet_eq]
  exact asks_check ((configHash_topics r app).mono (by decide)) fun hash =>
    (placeFleet_topics ..).mono (by decide)

/-! ## §5. Status and the rest of a pass. -/

theorem observedStatus_topics (app : WorkerApp) (status : WorkerAppStatus) :
    Asks (.read .statefulSet :: observed) (observedStatus app status) := by
  unfold observedStatus
  refine asks_bind (asks_ask rfl) fun read => ?_
  dsimp only
  refine asks_bind ((observeFleet_topics _ _).mono (by decide)) fun sweep => ?_
  split
  · exact asks_bind (asks_ask rfl) fun _ => asks_pure _
  · exact asks_pure _

theorem updateStatus_topics (app : WorkerApp) (outcome : FleetOutcome) (appVersion : String)
    (conditions : List Condition) :
    Asks (.status :: .read .statefulSet :: observed)
      (updateStatus app outcome appVersion conditions) := by
  unfold updateStatus
  refine asks_bind ((observedStatus_topics ..).mono (by decide)) fun seen => ?_
  dsimp only
  split
  · exact asks_pure _
  · exact asks_ask rfl

/-- What follows the fleet step: edge, mesh, scaler, status. -/
def finishTopics : List Topic :=
  ingressTopics ++ ensured .authorizationPolicy ++ scalerTopics ++
    .status :: .read .statefulSet :: observed

theorem finishPass_topics (r : Reconciler) (app : WorkerApp) (resolved : ResolvedVersion)
    (conditions : List Condition) (outcome : FleetOutcome) :
    Asks finishTopics (finishPass r app resolved conditions outcome) := by
  unfold finishPass
  dsimp only
  refine asks_bind ((ensureIngress_topics r app).mono (by decide)) fun _ => ?_
  refine asks_bind ((ensureAuthorizationPolicy_topics r app).mono (by decide)) fun _ => ?_
  refine asks_bind ((ensureScaledObject_topics ..).mono (by decide)) fun _ => ?_
  refine asks_bind ((updateStatus_topics ..).mono (by decide)) fun res => ?_
  split
  · exact asks_pure _
  · split <;> exact asks_pure _

theorem rejectSpec_topics (app : WorkerApp) (text : String) :
    Asks [.status] (rejectSpec app text) := by
  unfold rejectSpec
  dsimp only
  split
  · exact asks_pure _
  · exact asks_check (asks_ask rfl) fun _ => asks_pure _

theorem liveTemplateVersion_topics (app : WorkerApp) :
    Asks [.read .statefulSet] (liveTemplateVersion app) := by
  unfold liveTemplateVersion
  refine asks_bind (asks_ask rfl) fun res => ?_
  split <;> exact asks_pure _

theorem readTrackingSecret_topics (app : WorkerApp) : Asks [.secret] (readTrackingSecret app) := by
  unfold readTrackingSecret
  split
  · exact asks_pure _
  · exact asks_check (asks_ask rfl) fun _ => asks_pure _

theorem freshEntry_topics (r : Reconciler) (cached : Option TrackedVersion) :
    Asks [.clock] (freshEntry r cached) := by
  unfold freshEntry
  split
  · exact asks_pure _
  · refine asks_bind (asks_ask rfl) fun now => ?_
    split <;> exact asks_pure _

theorem currentBucketVersion_topics (app : WorkerApp) :
    Asks [.secret, .object] (currentBucketVersion app) := by
  unfold currentBucketVersion
  dsimp only
  split
  · exact asks_pure _
  · split
    · exact asks_pure _
    · refine asks_bind (asks_ask rfl) fun read => ?_
      split
      · exact asks_pure _
      · split
        · exact asks_pure _
        · refine asks_bind (asks_ask rfl) fun read => ?_
          split <;> exact asks_pure _

/-- What the deploy pointer takes. -/
def pointerTopics : List Topic := [.secret, .tracker, .clock, .object]

theorem pointerVersion_topics (r : Reconciler) (app : WorkerApp) :
    Asks pointerTopics (pointerVersion r app) := by
  unfold pointerVersion
  refine asks_bind ((readTrackingSecret_topics app).mono (by decide)) fun res => ?_
  split
  · exact asks_pure _
  · refine asks_bind (asks_ask rfl) fun loaded => ?_
    refine asks_bind ((freshEntry_topics r _).mono (by decide)) fun fresh => ?_
    split
    · exact asks_pure _
    · exact asks_bind ((currentBucketVersion_topics app).mono (by decide)) fun _ =>
        asks_bind (asks_ask rfl) fun _ => asks_bind (asks_ask rfl) fun _ => asks_pure _

theorem resolveAppVersion_topics (r : Reconciler) (app : WorkerApp) :
    Asks (.read .statefulSet :: pointerTopics) (resolveAppVersion r app) := by
  have hpointer := (pointerVersion_topics r app).mono
    (show pointerTopics ⊆ .read .statefulSet :: pointerTopics by decide)
  have hlive := (liveTemplateVersion_topics app).mono
    (show [.read .statefulSet] ⊆ .read .statefulSet :: pointerTopics by decide)
  unfold resolveAppVersion
  split
  · split
    · exact asks_pure _
    · exact asks_bind hlive fun _ => asks_pure _
  · split
    · unfold resolvePinned
      dsimp only
      split
      · exact asks_pure _
      · refine asks_bind hpointer fun read => ?_
        split <;> exact asks_pure _
    · unfold resolveTracked
      refine asks_bind hpointer fun read => ?_
      split
      · exact asks_pure _
      · split
        · exact asks_pure _
        · exact asks_bind hlive fun _ => asks_pure _

/-! ## §6. A whole pass. -/

/-- Everything a pass may ask. -/
def passTopics : List Topic :=
  .app :: foundationTopics ++ pointerTopics ++ placeTopics ++ finishTopics

theorem reconcileApp_topics (r : Reconciler) (key : NamespacedName) (app : WorkerApp) :
    Asks passTopics (reconcileApp r key app) := by
  unfold reconcileApp
  split
  · exact asks_bind (asks_ask rfl) fun _ => asks_pure _
  · split
    · exact (rejectSpec_topics ..).mono (by decide)
    · unfold reconcileValid
      refine asks_check ((ensureFoundation_topics r app).mono (by decide)) fun foundation => ?_
      refine asks_bind ((resolveAppVersion_topics r app).mono (by decide)) fun resolved => ?_
      refine asks_check ((reconcileFleet_topics ..).mono (by decide)) fun outcome => ?_
      exact (finishPass_topics ..).mono (by decide)

/-- `Reconcile` behind the read of the WorkerApp. -/
def reconcileRead (r : Reconciler) (key : NamespacedName) :
    Except Err WorkerApp → P (Except Err Result)
  | .error e =>
    if e.isNotFound then do
      let _ ← ask (.trackerForget key)
      pure (.ok {})
    else pure (.error e)
  | .ok app => reconcileApp r key app

theorem reconcile_eq (r : Reconciler) (key : NamespacedName) :
    reconcile r key = ask (.getApp key) >>= reconcileRead r key := by
  unfold reconcile
  congr 1
  funext read
  cases read <;> rfl

theorem reconcile_topics (r : Reconciler) (key : NamespacedName) :
    Asks passTopics (reconcile r key) := by
  rw [reconcile_eq]
  refine asks_bind (asks_ask rfl) fun read => ?_
  unfold reconcileRead
  split
  · split
    · exact asks_bind (asks_ask rfl) fun _ => asks_pure _
    · exact asks_pure _
  · exact reconcileApp_topics r key _

end CelldOperator
