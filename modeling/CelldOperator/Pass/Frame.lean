/-
  CelldOperator.Pass.Frame
  **WHAT EACH FUNCTION CAN WRITE.**

  `Confined K p` says that every create, update or delete the program `p` issues
  is of a kind in `K`, and that it does not write the WorkerApp's status; a pure
  reader is confined to no kind.  It follows from the topics of the function
  (`Asks.confined`).  The specs of a pass use it to step over the functions that
  leave an object alone.
-/
import CelldOperator.Pass.Footprint

namespace CelldOperator

open Effect Prog

/-! ## §1. Kinds written. -/

/-- The kind of the child object an operation writes, if it writes one. -/
def Op.writes : Op → Option Kind
  | .create k _ | .update k _ | .delete k _ _ _ => some k
  | _ => none

/-- The operation writes the WorkerApp's status. -/
def Op.reports : Op → Bool
  | .updateStatus _ => true
  | _ => false

/-- Every child object `p` writes is of a kind in `K`; it writes no status. -/
def Confined {α : Type} (K : Kind → Prop) (p : P α) : Prop :=
  Only (fun o : Op => (∀ k, o.writes = some k → K k) ∧ o.reports = false) p

/-- `p` writes no child object. -/
abbrev ReadsOnly {α : Type} (p : P α) : Prop := Confined (fun _ => False) p

variable {α β : Type} {K K' : Kind → Prop}

theorem Confined.mono {p : P α} (h : Confined K p) (hK : ∀ k, K k → K' k) : Confined K' p :=
  Only.mono (fun _ ho => ⟨fun k hk => hK k (ho.1 k hk), ho.2⟩) h

@[simp] theorem confined_pure (a : α) : Confined K (pure a : P α) := only_pure _ a

theorem confined_ask {o : Op} (h : ∀ k, o.writes = some k → K k) (hr : o.reports = false) :
    Confined K (ask o) :=
  (only_req (S := Api) _ o).mpr ⟨h, hr⟩

/-- An operation that writes no child object. -/
theorem confined_read {o : Op} (h : o.writes = none) (hr : o.reports = false) :
    Confined K (ask o) :=
  confined_ask (by simp [h]) hr

theorem confined_bind {p : P α} {f : α → P β} (hp : Confined K p) (hf : ∀ a, Confined K (f a)) :
    Confined K (p >>= f) :=
  only_bind hp hf

theorem confined_check {p : P (Except Err α)} {f : α → P (Except Err β)} (hp : Confined K p)
    (hf : ∀ a, Confined K (f a)) : Confined K (check p f) :=
  only_check hp hf

theorem headed_confined {heading : String} {p : P (Except Err α)} (h : Confined K p) :
    Confined K (headed heading p) := by
  unfold headed
  refine confined_bind h fun res => ?_
  split <;> exact confined_pure _

/-- The kind a topic writes, if it writes one. -/
def Topic.writes : Topic → Option Kind
  | .create k | .update k | .delete k => some k
  | _ => none

theorem Op.writes_topic (o : Op) : o.topic.writes = o.writes := by
  cases o <;> rfl

theorem Op.reports_of_topic {o : Op} (h : o.topic ≠ .status) : o.reports = false := by
  cases o <;> first | rfl | exact absurd rfl h

/-- **From topics to kinds.** -/
theorem Asks.confined {T : List Topic} {p : P α} (h : Asks T p)
    (hT : ∀ x ∈ T, x ≠ .status ∧ ∀ k ∈ x.writes, K k) : Confined K p := by
  refine h.only fun o ho => ?_
  obtain ⟨hstatus, hkinds⟩ := hT o.topic ho
  refine ⟨fun k hk => hkinds k ?_, Op.reports_of_topic hstatus⟩
  rw [Op.writes_topic]
  exact hk

theorem Asks.writesNone {T : List Topic} {p : P α} (h : Asks T p)
    (hT : ∀ x ∈ T, x.writes = none) : Only (fun o : Op => o.writes = none) p :=
  h.only fun o ho => o.writes_topic.symm.trans (hT o.topic ho)

/-! ## §2. Readers. -/

theorem observeFleet_reads (app : WorkerApp) (sts : StatefulSet) :
    ReadsOnly (observeFleet app sts) :=
  (observeFleet_topics app sts).confined (by decide)

theorem configHash_reads (r : Reconciler) (app : WorkerApp) : ReadsOnly (configHash r app) :=
  (configHash_topics r app).confined (by decide)

theorem noFleetHPA_reads (app : WorkerApp) : ReadsOnly (noFleetHPA app) :=
  (noFleetHPA_topics app).confined (by decide)

theorem liveFleetBreakingReason_reads (app : WorkerApp) (existing desired : StatefulSet) :
    ReadsOnly (liveFleetBreakingReason app existing desired) :=
  (liveFleetBreakingReason_topics app existing desired).confined (by decide)

theorem settleWait_reads (lib : Lib) (sts : StatefulSet) : ReadsOnly (settleWait lib sts) :=
  (settleWait_topics lib sts).confined (by decide)

theorem checkReleased_reads (app : WorkerApp) (revision : String) (ords : List Nat) :
    ReadsOnly (checkReleased app revision ords) :=
  (checkReleased_topics app revision ords).confined (by decide)

theorem resolveAppVersion_reads (r : Reconciler) (app : WorkerApp) :
    ReadsOnly (resolveAppVersion r app) :=
  (resolveAppVersion_topics r app).confined (by decide)

theorem configureHTTPRouteRetries_reads (r : Reconciler) (route : Obj .httpRoute) :
    ReadsOnly (configureHTTPRouteRetries r route) :=
  (configureHTTPRouteRetries_topics r route).confined (by decide)

theorem httpRouteReady_reads (r : Reconciler) (app : WorkerApp) (desired : Obj .httpRoute) :
    ReadsOnly (httpRouteReady r app desired) :=
  (httpRouteReady_topics r app desired).confined (by decide)

theorem httpRouteRetryDropped_reads (route : Obj .httpRoute) :
    ReadsOnly (httpRouteRetryDropped route) :=
  (httpRouteRetryDropped_topics route).confined (by decide)

/-- What a pass over a deleted WorkerApp does. -/
theorem forget_reads (key : NamespacedName) :
    ReadsOnly (do
      let _ ← ask (.trackerForget key)
      pure (.ok {}) : P (Except Err Result)) :=
  confined_bind (confined_read rfl rfl) fun _ => confined_pure _

theorem observedStatus_reads (app : WorkerApp) (status : WorkerAppStatus) :
    ReadsOnly (observedStatus app status) :=
  (observedStatus_topics app status).confined (by decide)

/-! ## §3. Writers. -/

theorem prepare_name {k : Kind} (r : Reconciler) (app : WorkerApp) (desired : Obj k) :
    (prepare r app desired).metadata.name = desired.metadata.name := by
  unfold prepare setControllerReference
  split <;> rfl

theorem ensureObject_confined {k : Kind} (r : Reconciler) (app : WorkerApp) (desired : Obj k)
    (mutate : Obj k → Obj k → Obj k) : Confined (· = k) (ensureObject r app desired mutate) :=
  (ensureObject_topics r app desired mutate).confined (by simp [ensured, Topic.writes])

theorem ensureScaledObject_confined (r : Reconciler) (app : WorkerApp) (phase : Phase) :
    Confined (· = .scaledObject) (ensureScaledObject r app phase) :=
  (ensureScaledObject_topics r app phase).confined (by decide)

theorem pauseScaling_confined (r : Reconciler) (app : WorkerApp) :
    Confined (· = .scaledObject) (pauseScaling r app) :=
  (pauseScaling_topics r app).confined (by decide)

theorem driveFleet_confined (r : Reconciler) (app : WorkerApp) (existing desired : StatefulSet)
    (appVersion : String) :
    Confined (· = .statefulSet) (driveFleet r app existing desired appVersion) :=
  (driveFleet_topics r app existing desired appVersion).confined (by decide)

theorem reconcileFleet_confined (r : Reconciler) (app : WorkerApp) (appVersion : String) :
    Confined (fun k => k = .statefulSet ∨ k = .scaledObject) (reconcileFleet r app appVersion) :=
  (reconcileFleet_topics r app appVersion).confined (by decide)

/-- The kinds of the foundation objects. -/
def Kind.foundation : Kind → Prop
  | .serviceAccount | .internalService | .publicService | .networkPolicy
  | .podDisruptionBudget => True
  | _ => False

instance : DecidablePred Kind.foundation := fun k => by
  unfold Kind.foundation
  split <;> infer_instance

theorem ensureFoundation_confined (r : Reconciler) (app : WorkerApp) :
    Confined Kind.foundation (ensureFoundation r app) :=
  (ensureFoundation_topics r app).confined (by decide)

/-- The kinds of the routes. -/
def Kind.route : Kind → Prop
  | .ingress | .httpRoute | .virtualService => True
  | _ => False

instance : DecidablePred Kind.route := fun k => by
  unfold Kind.route
  split <;> infer_instance

theorem ensureIngress_confined (r : Reconciler) (app : WorkerApp) :
    Confined Kind.route (ensureIngress r app) :=
  (ensureIngress_topics r app).confined (by decide)

theorem ensureAuthorizationPolicy_confined (r : Reconciler) (app : WorkerApp) :
    Confined (· = .authorizationPolicy) (ensureAuthorizationPolicy r app) :=
  (ensureAuthorizationPolicy_topics r app).confined (by decide)

/-! ## §4. The latch. -/

/-- The latch lives in the annotations. -/
theorem latchRetries_annotates {lib : Lib} {live route latched : Obj .httpRoute} {t : Trace}
    (hr : Runs (latchRetries lib live route) t latched) : ∃ f, latched = annotate route f := by
  have hvalid : Valid (fun _ _ => True) [] (latchRetries lib live route)
      (fun _ latched => ∃ f, latched = annotate route f) := by
    have hrest : ∀ (h : Trace) (deadline : Time), Valid (fun _ _ => True) h (do
        let now ← ask .now
        if now < deadline then
          pure (annotate route (·.insert retryRecheckAnnotation (lib.formatTime deadline)))
        else pure (annotate route (·.erase retryRequestedAnnotation)))
        (fun _ latched => ∃ f, latched = annotate route f) := by
      intro h deadline
      rw [valid_bind, valid_req]
      refine fun now => ⟨trivial, ?_⟩
      split
      · exact valid_pure.mpr ⟨_, rfl⟩
      · exact valid_pure.mpr ⟨_, rfl⟩
    unfold latchRetries
    split
    · exact valid_bind.mpr (valid_pure.mpr (hrest _ _))
    · rw [valid_bind, valid_req]
      exact fun now => ⟨trivial, valid_bind.mpr (valid_pure.mpr (hrest _ _))⟩
  exact valid_runs hvalid hr

/-- The route that is ensured is the built one, perhaps without its retries. -/
theorem configureHTTPRouteRetries_runs {r : Reconciler} {route : Obj .httpRoute}
    {res : Obj .httpRoute × Bool} {t : Trace}
    (hr : Runs (configureHTTPRouteRetries r route) t res) :
    res.1.metadata.name = route.metadata.name ∧
      (res.1.spec = route.spec ∨ res.1.spec = (withoutRetries route).spec) := by
  unfold configureHTTPRouteRetries at hr
  split at hr
  · obtain ⟨-, rfl⟩ := runs_ret.mp hr
    exact ⟨rfl, .inr rfl⟩
  · obtain ⟨read, t₁, t₂, rfl, -, hr⟩ := runs_bind.mp hr
    cases read with
    | error e =>
      obtain ⟨-, rfl⟩ := runs_ret.mp hr
      exact ⟨rfl, .inl rfl⟩
    | ok live =>
      dsimp only at hr
      split at hr
      · -- the latch is kept or cleared, in the annotations only
        obtain ⟨latched, t₃, t₄, rfl, hlatch, hr⟩ := runs_bind.mp hr
        obtain ⟨-, rfl⟩ := runs_ret.mp hr
        obtain ⟨f, rfl⟩ := latchRetries_annotates hlatch
        exact ⟨rfl, .inr rfl⟩
      · obtain ⟨-, rfl⟩ := runs_ret.mp hr
        exact ⟨rfl, .inl rfl⟩

end CelldOperator
