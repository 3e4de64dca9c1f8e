/-
  CelldOperator.Keda.Load

  **WHAT LOAD DOES TO THE AUTOSCALER.**

  The fleet is at rest: nothing is rolling out, every pod is Ready and serves the
  version.  All that varies is the load the pods report in `/state`.

    • `observeFleet_ok` — the pass sees every pod's report, and their 64-bit sum,
    • `NoRollout.ready_iff` — its phase is Ready exactly if that sum is zero,
    • `Shown.live` — the ScaledObject is left with the annotation of the phase.

  So a backlog of activations (`restoring`) pauses the very scaler that should
  relieve it.
-/
import CelldOperator.Pass.Known
import CelldOperator.Pass.Sweep
import CelldOperator.Status.Ready

namespace CelldOperator

open Effect Prog

/-! ## §1. The phase of a pass over a fleet at rest. -/

/-- **No rollout in progress.**  Whenever the pass reads the StatefulSet it is `existing`, with
the current template hash, partition 0, no recreate annotation and a converged status; whenever
it lists the pods they are `pods`, whole; and each serves the version and reports `state`. -/
structure NoRollout (r : Reconciler) (app : WorkerApp) (appVersion : String) (h : Trace)
    (existing : StatefulSet) (pods : List Pod) (state : String → PodState) : Prop where
  read : ∀ res, Saw h (.getLive .statefulSet (fleetName app)) res → res = .ok existing
  owned : requireOwnership app existing = .ok ()
  current : ∀ hash, Ran (configHash r app) (.ok hash) h →
    templateChanged existing (desiredFleet r app hash appVersion) = false
  still : stsPartition existing = 0
  idle : recreating existing = false
  converged : statusConverged existing = true
  listed : ∀ res, Saw h (.listPods (selectorLabels app)) res →
    ∃ l : PodList, res = .ok l ∧ l.val.Perm pods
  whole : Whole existing pods
  reports : Report state pods h
  serving : ∀ pod ∈ pods, deploymentConverged appVersion (state pod.podIP) = true

section

variable {r : Reconciler} {app : WorkerApp} {v : String} {t : Trace} {existing : StatefulSet}
  {pods : List Pod} {state : String → PodState} {out : FleetOutcome}

/-- The steady branch: Ready exactly without a backlog. -/
theorem NoRollout.steady {u : Trace} (hn : NoRollout r app v t existing pods state)
    (henabled : autoscalingEnabled app = true) (hsub : ∀ e ∈ u, e ∈ t)
    (hr : Runs (steadyFleet app existing v) u (.ok out)) :
    out.phase = .ready ↔ backlog state pods = 0 := by
  unfold steadyFleet at hr
  rw [if_neg (by simp [replicasDrifted, henabled]), if_neg (by simp [hn.converged])] at hr
  obtain ⟨sweep, u₁, u₂, rfl, hu₁, hu₂⟩ := runs_bind.mp hr
  have hsub₁ : ∀ e ∈ u₁, e ∈ t := fun e he => hsub e (List.mem_append_left _ he)
  obtain ⟨herr, hsum, hstates⟩ := observeFleet_ok hn.whole (hn.reports.sub (fun _ hp => hp) hsub₁)
    (fun res hs => hn.listed res (hsub₁ _ hs)) hu₁
  rw [herr, hsum] at hu₂
  split at hu₂
  · next hbusy =>
    obtain ⟨-, hout⟩ := runs_ret.mp hu₂
    cases hout
    have hne : backlog state pods ≠ 0 := by simpa using hbusy
    simp [hne]
  · next hwarm =>
    have hzero : backlog state pods = 0 := by simpa using hwarm
    obtain ⟨order, w₁, w₂, rfl, -, hw₂⟩ := runs_bind.mp hu₂
    have hall : order.val.find? (fun s => !deploymentConverged v s.2) = none := by
      rw [List.find?_eq_none]
      intro s hs
      obtain ⟨pod, hpod, heq⟩ := hstates s (order.property.mem_iff.mp hs)
      simp [heq, hn.serving pod hpod]
    rw [hall] at hw₂
    obtain ⟨-, hout⟩ := runs_ret.mp hw₂
    cases hout
    simp [hzero]

/-- **The phase of the pass.** -/
theorem NoRollout.ready_iff (hn : NoRollout r app v t existing pods state)
    (henabled : autoscalingEnabled app = true)
    (hr : Runs (reconcileFleet r app v) t (.ok out)) :
    out.phase = .ready ↔
      runtimeChangeRefusal app (stsContainerImage existing.sspec.template.spec) = "" ∧
        backlog state pods = 0 := by
  unfold reconcileFleet at hr
  rcases runs_check hr with ⟨e, he, -⟩ | ⟨hash, t₁, t₂, rfl, ht₁, ht₂⟩
  · cases he
  have hsame := hn.current hash ⟨[], t₁, t₂, by simp, ht₁⟩
  obtain ⟨read, u₁, u₂, rfl, hu₁, hu₂⟩ := runs_bind.mp ht₂
  have hasked := runs_req.mp hu₁
  subst hasked
  have hread := hn.read read (List.mem_append_right _ (List.mem_cons_self ..))
  subst hread
  dsimp only at hu₂
  have hpause : needsPause app existing (desiredFleet r app hash v) = false := by
    simp [needsPause, hsame, hn.still, hn.idle, replicasDrifted, henabled]
  unfold reconcileExisting at hu₂
  rw [hn.owned] at hu₂
  dsimp only at hu₂
  rw [if_neg (by simp [hpause])] at hu₂
  unfold driveFleet at hu₂
  dsimp only at hu₂
  split at hu₂
  · next hrefused =>
    obtain ⟨-, hout⟩ := runs_ret.mp hu₂
    cases hout
    simp [hrefused]
  · next hpermitted =>
    rw [if_neg (by simp [hn.idle]), if_neg (by simp [hsame]), if_neg (by simp [hn.still])] at hu₂
    rw [hn.steady henabled (fun e he => List.mem_append_right _ (List.mem_append_right _ he)) hu₂]
    simp [not_not.mp hpermitted]

end

/-! ## §2. The annotation the scaler is left with. -/

/-- The event shows the paused annotation of the ScaledObject `n` to be `x`. -/
def shows (n x : String) : Event Api → Prop
  | ⟨.get .scaledObject m, .ok o⟩ =>
    m = n ∧ o.metadata.annotations.get kedaPausedAnnotation = x
  | ⟨.create .scaledObject sent, .ok _⟩ | ⟨.update .scaledObject sent, .ok _⟩ =>
    sent.metadata.name = n ∧ sent.metadata.annotations.get kedaPausedAnnotation = x
  | _ => False

/-- It was shown, and the pass has not written the ScaledObject since. -/
def Shown (n x : String) (h : Trace) : Prop :=
  ∃ pre e post, h = pre ++ e :: post ∧ shows n x e ∧
    ∀ e' ∈ post, e'.op.writes ≠ some .scaledObject

theorem Shown.append {n x : String} {h t : Trace} (hs : Shown n x h)
    (ht : ∀ e ∈ t, e.op.writes ≠ some .scaledObject) : Shown n x (h ++ t) := by
  obtain ⟨pre, e, post, rfl, he, hpost⟩ := hs
  refine ⟨pre, e, post ++ t, by simp, he, ?_⟩
  intro e' he'
  rcases List.mem_append.mp he' with h' | h'
  · exact hpost e' h'
  · exact ht e' h'

theorem Shown.append_left {n x : String} {h : Trace} (hs : Shown n x h) (t : Trace) :
    Shown n x (t ++ h) := by
  obtain ⟨pre, e, post, rfl, he, hpost⟩ := hs
  exact ⟨t ++ pre, e, post, by simp, he, hpost⟩

/-- What `ensureScaledObject` reports when it has succeeded. -/
def scalerReconciled : Bool × List Condition :=
  (false, [{ type := "AutoscalingReady", status := .true_, reason := "ScaledObjectReconciled" }])

theorem get_of_subset {m m' : StrMap} {key : String} (hkey : key ∈ m)
    (hsub : stringMapSubset m m' = true) : m'.get key = m.get key := by
  have hall : ∀ k ∈ m.keys, m'.lookup k = m.lookup k := of_decide_eq_true hsub
  unfold StrMap.get
  rw [hall key (Finmap.mem_keys.mpr hkey)]

/-- An `ensureUnstructured` call that succeeds has shown the annotation it wants. -/
theorem ensureUnstructured_shown {app : WorkerApp} {desired : Obj .scaledObject} {t : Trace}
    (hkey : kedaPausedAnnotation ∈ desired.metadata.annotations)
    (hname : ∀ o, Saw t (.get .scaledObject desired.metadata.name) (.ok o) →
      o.metadata.name = desired.metadata.name)
    (ht : Runs (ensureUnstructured app desired) t (.ok ())) :
    Shown desired.metadata.name (desired.metadata.annotations.get kedaPausedAnnotation) t := by
  unfold ensureUnstructured at ht
  obtain ⟨read, t₁, t₂, rfl, ht₁, ht₂⟩ := runs_bind.mp ht
  have hasked := runs_req.mp ht₁
  subst hasked
  cases read with
  | error e =>
    dsimp only at ht₂
    split at ht₂
    · rcases runs_check ht₂ with ⟨e, he, -⟩ | ⟨made, u₁, u₂, rfl, hu₁, hu₂⟩
      · cases he
      · have hsent := runs_req.mp hu₁
        subst hsent
        obtain ⟨rfl, -⟩ := runs_ret.mp hu₂
        exact ⟨[_], _, [], rfl, ⟨rfl, rfl⟩, by simp⟩
    · obtain ⟨-, he⟩ := runs_ret.mp ht₂
      cases he
  | ok live =>
    have hlive := hname live (List.mem_append_left _ (List.mem_singleton_self _))
    dsimp only at ht₂
    split at ht₂
    · obtain ⟨-, he⟩ := runs_ret.mp ht₂
      cases he
    · split at ht₂
      · next hplace =>
        -- nothing to write: the object read has the annotation
        obtain ⟨rfl, -⟩ := runs_ret.mp ht₂
        have hsub := (Bool.and_eq_true_iff.mp hplace).2
        exact ⟨[], _, [], rfl, ⟨rfl, get_of_subset hkey hsub⟩, by simp⟩
      · rcases runs_check ht₂ with ⟨e, he, -⟩ | ⟨stored, u₁, u₂, rfl, hu₁, hu₂⟩
        · cases he
        · have hsent := runs_req.mp hu₁
          subst hsent
          obtain ⟨rfl, -⟩ := runs_ret.mp hu₂
          exact ⟨[_], _, [], rfl, ⟨hlive, get_mergeStringMaps hkey⟩, by simp⟩

/-- So has the scaler step that succeeds. -/
theorem ensureScaledObject_shown {r : Reconciler} {app : WorkerApp} {phase : Phase} {t : Trace}
    (henabled : autoscalingEnabled app = true)
    (hname : ∀ o, Saw t (.get .scaledObject (fleetName app)) (.ok o) →
      o.metadata.name = fleetName app)
    (ht : Runs (ensureScaledObject r app phase) t scalerReconciled) :
    Shown (fleetName app) (pausedIn phase) t := by
  unfold ensureScaledObject at ht
  rw [if_neg (by simp [henabled])] at ht
  obtain ⟨res, t₁, t₂, rfl, ht₁, ht₂⟩ := runs_bind.mp ht
  cases res with
  | error e =>
    dsimp only at ht₂
    obtain ⟨-, he⟩ := runs_ret.mp ht₂
    unfold failedCondition at he
    split at he <;> simp [scalerReconciled] at he
  | ok _ =>
    obtain ⟨rfl, -⟩ := runs_ret.mp ht₂
    have hshown := ensureUnstructured_shown
      (kedaPaused_mem r.lib app r.prometheusURL (decide (phase ≠ .ready)))
      (fun o ho => hname o (List.mem_append_left _ ho)) ht₁
    rw [buildScaledObject_paused] at hshown
    have hvalue : (if decide (phase ≠ .ready) = true then "true" else "false") =
        pausedIn phase := by
      unfold pausedIn
      by_cases h : phase = .ready <;> simp [h]
    rw [hvalue] at hshown
    rw [List.append_nil]
    exact hshown

/-- A read of the cached ScaledObject is up to date. -/
def FreshCache (c : Cluster) : (o : Op) → Resp o → Prop
  | .get .scaledObject n, .ok o => c.live .scaledObject n = some o
  | _, _ => True

/-- The API server, with a cache of the ScaledObject that is up to date. -/
def ServeFresh (c : Cluster) (o : Op) (res : Resp o) (c' : Cluster) : Prop :=
  Serve c o res c' ∧ FreshCache c o res

/-- Nobody else writes the ScaledObject `n`. -/
def SparesScaler (n : String) (c c' : Cluster) : Prop :=
  c.Later c' ∧ c'.live .scaledObject n = c.live .scaledObject n

/-- The live ScaledObject has this paused annotation. -/
def PausedText (n x : String) (c : Cluster) : Prop :=
  ∃ o, c.live .scaledObject n = some o ∧ o.metadata.annotations.get kedaPausedAnnotation = x

instance (n x : String) (c : Cluster) : Decidable (PausedText n x c) :=
  decidable_of_iff ((c.live .scaledObject n).map
    (fun o => o.metadata.annotations.get kedaPausedAnnotation) = some x) Option.map_eq_some_iff

/-- What an event shows holds when it has been answered. -/
theorem shows_live {n x : String} {c c' : Cluster} {o : Op} {res : Resp o}
    (hs : ServeFresh c o res c') (he : shows n x ⟨o, res⟩) : PausedText n x c' := by
  unfold shows at he
  split at he
  · next heq =>
    cases heq
    obtain ⟨rfl, hx⟩ := he
    obtain ⟨⟨rfl, -⟩, hlive⟩ := hs
    exact ⟨_, hlive, hx⟩
  · next sent v heq =>
    cases heq
    obtain ⟨rfl, hx⟩ := he
    obtain ⟨⟨-, hmade, hp, rfl⟩, -⟩ := hs
    have hmeta := hmade.metadata
    refine ⟨v, live_of_put ⟨hp, rfl⟩ (by rw [hmeta]), ?_⟩
    rw [hmeta]
    exact hx
  · next sent v heq =>
    cases heq
    obtain ⟨rfl, hx⟩ := he
    obtain ⟨⟨cur, -, -, hacc, hp, rfl⟩, -⟩ := hs
    have hmeta := hacc.metadata
    refine ⟨v, live_of_put ⟨hp, rfl⟩ (by rw [hmeta]), ?_⟩
    rw [hmeta]
    exact hx
  · exact he.elim

/-- **What was shown last is live**, in every execution with such a cache. -/
theorem Shown.live {α : Type} {n x : String} {c c' : Cluster} {p q : P α} {t : Trace}
    (hx : Exec ServeFresh (SparesScaler n) c p t c' q) (hs : Shown n x t) : PausedText n x c' := by
  have hmain := (hx.rely_guarantee
    (H := fun h c => ∀ x, Shown n x h → PausedText n x c) ?_ ?_ (valid_trivial [] p) ?_).1
  · exact hmain x hs
  · intro h c c' hh he x hs
    obtain ⟨o, hlive, htext⟩ := hh x hs
    exact ⟨o, he.2.trans hlive, htext⟩
  · intro h c o res c' hh _ hserve x hs
    obtain ⟨pre, e, post, heq, he, hpost⟩ := hs
    rcases List.eq_nil_or_concat post with rfl | ⟨post', e', rfl⟩
    · obtain ⟨rfl, he'⟩ := List.append_inj' heq rfl
      rw [← List.singleton_inj.mp he'] at he
      exact shows_live hserve he
    · -- the last event writes no scaler, and it was shown before
      rw [List.concat_eq_append] at heq hpost
      rw [← List.cons_append, ← List.append_assoc] at heq
      obtain ⟨rfl, he'⟩ := List.append_inj' heq rfl
      have hlast := hpost e' (List.mem_append_right _ (List.mem_singleton_self _))
      rw [← List.singleton_inj.mp he'] at hlast
      obtain ⟨obj, hlive, htext⟩ := hh x ⟨pre, e, post', rfl, he, fun e' h' =>
        hpost e' (List.mem_append_left _ h')⟩
      exact ⟨obj, (hserve.1.live_of_writes hlast n).trans hlive, htext⟩
  · rintro x ⟨pre, e, post, heq, -⟩
    simp at heq

/-! ## §3. Load and the scaler. -/

/-- In the pass with the events `t` the fleet step exchanged `t₂` and returned `out`, and the
scaler step behind it succeeded. -/
def ScalerDriven (r : Reconciler) (app : WorkerApp) (t : Trace) (resolved : ResolvedVersion)
    (t₂ : Trace) (out : FleetOutcome) : Prop :=
  ∃ t₀ t₁ u₀ u₁ u₂ u₃ foundation ingress policy conditions status,
    t = t₀ ++ t₁ ++ t₂ ++ (u₀ ++ (u₁ ++ (u₂ ++ u₃))) ∧
    Runs (ensureFoundation r app) t₀ (.ok foundation) ∧
    Runs (resolveAppVersion r app) t₁ resolved ∧
    Runs (reconcileFleet r app resolved.version) t₂ (.ok out) ∧
    Runs (ensureIngress r app) u₀ ingress ∧
    Runs (ensureAuthorizationPolicy r app) u₁ policy ∧
    Runs (ensureScaledObject r app out.phase) u₂ scalerReconciled ∧
    Runs (updateStatus app out resolved.version conditions) u₃ status

/-- Such a pass has shown the annotation of its phase, and written no scaler since. -/
theorem ScalerDriven.shown {r : Reconciler} {app : WorkerApp} {t t₂ : Trace}
    {resolved : ResolvedVersion} {out : FleetOutcome} (henabled : autoscalingEnabled app = true)
    (hname : ∀ o, Saw t (.get .scaledObject (fleetName app)) (.ok o) →
      o.metadata.name = fleetName app)
    (hd : ScalerDriven r app t resolved t₂ out) : Shown (fleetName app) (pausedIn out.phase) t := by
  obtain ⟨t₀, t₁, u₀, u₁, u₂, u₃, _, _, _, conditions, _, rfl, -, -, -, -, -, hu₂, hu₃⟩ := hd
  have hquiet : ∀ e ∈ u₃, e.op.writes ≠ some .scaledObject := by
    intro e he hw
    rw [(Only.steps (updateStatus_writes app conditions out _) hu₃).1 e he] at hw
    cases hw
  have hshown := (ensureScaledObject_shown henabled (fun o ho => hname o ?_) hu₂).append hquiet
  · exact ((hshown.append_left u₁).append_left u₀).append_left _
  · exact List.mem_append_right _ (List.mem_append_right _ (List.mem_append_right _
      (List.mem_append_left _ ho)))

/-- **Load and the scaler.**  In a pass over a fleet with no rollout in progress whose scaler
step succeeds, the scaler is left running exactly if the live image is not refused and the pods
report no backlog in sum. -/
theorem scaler_running_iff_no_backlog (r : Reconciler) (key : NamespacedName) (app : WorkerApp)
    (c c' : Cluster) (t t₂ : Trace) (res : Except Err Result) (resolved : ResolvedVersion)
    (out : FleetOutcome) (existing : StatefulSet) (pods : List Pod) (state : String → PodState)
    (henabled : autoscalingEnabled app = true)
    (hx : Exec ServeFresh (SparesScaler (fleetName app)) c (reconcileApp r key app) t c' (.ret res))
    (hd : ScalerDriven r app t resolved t₂ out)
    (hn : NoRollout r app resolved.version t₂ existing pods state) :
    PausedText (fleetName app) "false" c' ↔
      runtimeChangeRefusal app (stsContainerImage existing.sspec.template.spec) = "" ∧
        backlog state pods = 0 := by
  have hk : Knows t c' := knows_exec (fun _ _ he => he.1)
    (hx.mono (fun _ _ _ _ hs => hs.1) fun _ _ he => he)
  have hname : ∀ o, Saw t (.get .scaledObject (fleetName app)) (.ok o) →
      o.metadata.name = fleetName app :=
    fun o ho => Cluster.name_of_mem_past (hk.cached _ _ _ ho)
  obtain ⟨o, hlive, htext⟩ := (hd.shown henabled hname).live hx
  have hfleet : Runs (reconcileFleet r app resolved.version) t₂ (.ok out) := by
    obtain ⟨_, _, _, _, _, _, _, _, _, _, _, -, -, -, hfleet, -⟩ := hd
    exact hfleet
  rw [← hn.ready_iff henabled hfleet]
  constructor
  · rintro ⟨o', hlive', htext'⟩
    cases hlive.symm.trans hlive'
    by_contra hne
    rw [htext] at htext'
    simp [pausedIn, hne] at htext'
  · intro hready
    refine ⟨o, hlive, htext.trans ?_⟩
    simp [pausedIn, hready]

/-! ## §4. The same fleet, idle and loaded. -/

section runs

variable (handle : Cluster → (o : Op) → Resp o × Cluster) (r : Reconciler) (app : WorkerApp)
  (c : Cluster)

/-- The parts of a concrete pass behind the fleet step. -/
def ingressRun : List (Event Api) × Cluster × (Bool × List Condition) :=
  runWith handle (ensureIngress r app) (fleetRun handle r app c).2.1

def policyRun : List (Event Api) × Cluster × (Bool × List Condition) :=
  runWith handle (ensureAuthorizationPolicy r app) (ingressRun handle r app c).2.1

def scalerRun (out : FleetOutcome) : List (Event Api) × Cluster × (Bool × List Condition) :=
  runWith handle (ensureScaledObject r app out.phase) (policyRun handle r app c).2.1

/-- The conditions such a pass reports. -/
def reportedConditions (foundation : List Condition) (out : FleetOutcome) : List Condition :=
  passConditions foundation (versionRun handle r app c).2.2 ++
    (ingressRun handle r app c).2.2.2 ++ (policyRun handle r app c).2.2.2 ++
    (scalerRun handle r app c out).2.2.2

def statusRun (foundation : List Condition) (out : FleetOutcome) :
    List (Event Api) × Cluster × Except Err Unit :=
  runWith handle (updateStatus app out (versionRun handle r app c).2.2.version
    (reportedConditions handle r app c foundation out)) (scalerRun handle r app c out).2.1

variable {handle r app c} {foundation : List Condition} {out : FleetOutcome}

theorem finishRun_events : (finishRun handle r app c foundation out).1 =
    (ingressRun handle r app c).1 ++ ((policyRun handle r app c).1 ++
      ((scalerRun handle r app c out).1 ++ (statusRun handle r app c foundation out).1)) := by
  unfold finishRun finishPass
  rw [runWith_bind]
  dsimp only
  rw [runWith_bind]
  dsimp only
  rw [runWith_bind]
  dsimp only
  rw [runWith_bind]
  -- what is left behind the status update only returns
  refine congrArg (_ ++ ·) (congrArg (_ ++ ·) (congrArg (_ ++ ·) ?_))
  refine (congrArg (_ ++ ·) ?_).trans (List.append_nil _)
  split
  · rfl
  · split <;> rfl

theorem scalerDriven_run (key : NamespacedName) (hlive : app.deleting = false)
    (hvalid : validateApp r app = .ok ())
    (hfoundation : (foundationRun handle r app c).2.2 = .ok foundation)
    (hfleet : (fleetRun handle r app c).2.2 = .ok out)
    (hscaler : (scalerRun handle r app c out).2.2 = scalerReconciled) :
    ScalerDriven r app (runWith handle (reconcileApp r key app) c).1
      (versionRun handle r app c).2.2 (fleetRun handle r app c).1 out := by
  have hevents := congrArg Prod.fst (runWith_reconcileApp key hlive hvalid hfoundation hfleet)
  dsimp only at hevents
  rw [finishRun_events] at hevents
  refine ⟨_, _, _, _, _, _, foundation, (ingressRun handle r app c).2.2,
    (policyRun handle r app c).2.2, reportedConditions handle r app c foundation out,
    (statusRun handle r app c foundation out).2.2, hevents, ?_, ?_, ?_, ?_, ?_, ?_, ?_⟩
  · rw [← hfoundation]
    exact runs_runWith (foundationRun handle r app c) rfl
  · exact runs_runWith (versionRun handle r app c) rfl
  · rw [← hfleet]
    exact runs_runWith (fleetRun handle r app c) rfl
  · exact runs_runWith (ingressRun handle r app c) rfl
  · exact runs_runWith (policyRun handle r app c) rfl
  · rw [← hscaler]
    exact runs_runWith (scalerRun handle r app c out) rfl
  · exact runs_runWith (statusRun handle r app c foundation out) rfl

end runs

/-- A server on which every pod serves version 1 and reports this backlog. -/
def loaded (restoring : Int) : Cluster → (o : Op) → Resp o × Cluster :=
  answer { state := fun _ => .ok (sampleState "1" restoring) }

/-- What such a pod reports. -/
def loadedState (restoring : Int) (_ip : String) : PodState :=
  { deployment := some ⟨"1", 1, 0, 0⟩, occupied := 0, restoring := restoring }

/-- The answers a fleet at rest gives. -/
def restful (restoring : Int) : Event Api → Bool
  | ⟨.getLive .statefulSet _, .ok sts⟩ => sts == settledFleet servingApp
  | ⟨.getLive .statefulSet _, .error _⟩ => false
  | ⟨.listPods _, .ok pods⟩ => pods.val == threePods
  | ⟨.listPods _, .error _⟩ => false
  | ⟨.getState ip, .ok response⟩ =>
    match readState response with
    | .ok state => state == loadedState restoring ip
    | .error _ => false
  | ⟨.getState _, .error _⟩ => false
  | _ => true

/-- The scaler runs, and a pass comes by. -/
def loadPass (restoring : Int) : List (Event Api) × Cluster × Except Err Result :=
  runWith (loaded restoring) (reconcileApp sampleReconciler ⟨"prod", "shop"⟩ servingApp)
    (settledCluster servingApp false "False")

theorem serveFresh_answer (ora : Oracle) (c : Cluster) (o : Op) :
    ServeFresh c o (answer ora c o).1 (answer ora c o).2 := by
  refine ⟨serve_answer ora c o, ?_⟩
  unfold FreshCache
  split
  · next n obj heq =>
    simp only [answer, answerGet] at heq
    split at heq
    · cases heq
    · next v hlive =>
      cases heq
      exact hlive
  · trivial

/-- A pass that gets such answers sees no rollout in progress. -/
theorem noRollout_of_restful {restoring : Int} {t : Trace} (h : t.all (restful restoring) = true) :
    NoRollout sampleReconciler servingApp "1" t (settledFleet servingApp) threePods
      (loadedState restoring) := by
  have hall : ∀ e ∈ t, restful restoring e = true := List.all_eq_true.mp h
  refine ⟨?_, by decide, fun _ _ => rfl, rfl, by decide, by decide, ?_, ?_, ?_, ?_⟩
  · intro res hs
    have hrest := hall _ hs
    cases res with
    | error e => cases hrest
    | ok sts => exact congrArg _ (eq_of_beq hrest)
  · intro res hs
    have hrest := hall _ hs
    cases res with
    | error e => cases hrest
    | ok pods => exact ⟨pods, rfl, .of_eq (eq_of_beq hrest)⟩
  · exact ⟨by decide, .of_eq (by decide), by decide, by decide, by decide⟩
  · intro pod _ res hs
    have hrest := hall _ hs
    cases res with
    | error e => cases hrest
    | ok response =>
      refine ⟨response, rfl, ?_⟩
      unfold restful at hrest
      dsimp only at hrest
      split at hrest
      · next state heq => rw [heq, eq_of_beq hrest]
      · cases hrest
  · exact fun _ _ => rfl

/-- The fleet step of that pass. -/
def loadFleet (restoring : Int) : List (Event Api) × Cluster × Except Err FleetOutcome :=
  fleetRun (loaded restoring) sampleReconciler servingApp (settledCluster servingApp false "False")

def loadVersion (restoring : Int) : ResolvedVersion :=
  (versionRun (loaded restoring) sampleReconciler servingApp
    (settledCluster servingApp false "False")).2.2

theorem exec_loadPass (restoring : Int) : Exec ServeFresh (SparesScaler "shop-celld")
    (settledCluster servingApp false "False")
    (reconcileApp sampleReconciler ⟨"prod", "shop"⟩ servingApp) (loadPass restoring).1
    (loadPass restoring).2.1 (.ret (loadPass restoring).2.2) := by
  unfold loadPass
  exact exec_runWith (serveFresh_answer _) _ _

theorem scalerDriven_loadPass {restoring : Int} {out : FleetOutcome}
    (hfoundation : (foundationRun (loaded restoring) sampleReconciler servingApp
      (settledCluster servingApp false "False")).2.2 = .ok [credentialsCondition servingApp])
    (hfleet : (loadFleet restoring).2.2 = .ok out)
    (hscaler : (scalerRun (loaded restoring) sampleReconciler servingApp
      (settledCluster servingApp false "False") out).2.2 = scalerReconciled) :
    ScalerDriven sampleReconciler servingApp (loadPass restoring).1 (loadVersion restoring)
      (loadFleet restoring).1 out := by
  unfold loadFleet at hfleet ⊢
  unfold loadPass loadVersion
  exact scalerDriven_run ⟨"prod", "shop"⟩ rfl (by decide) hfoundation hfleet hscaler

theorem noRollout_loadFleet {restoring : Int} (hversion : (loadVersion restoring).version = "1")
    (h : (loadFleet restoring).1.all (restful restoring) = true) :
    NoRollout sampleReconciler servingApp (loadVersion restoring).version (loadFleet restoring).1
      (settledFleet servingApp) threePods (loadedState restoring) := by
  rw [hversion]
  exact noRollout_of_restful h

theorem scaler_running_iff_no_backlog_idle : PausedText "shop-celld" "false" (loadPass 0).2.1 :=
  (scaler_running_iff_no_backlog sampleReconciler ⟨"prod", "shop"⟩ servingApp _ _ _ _ _ _
    readyOutcome (settledFleet servingApp) threePods (loadedState 0) rfl (exec_loadPass 0)
    (scalerDriven_loadPass (by decide +kernel) (by decide +kernel) (by decide +kernel))
    (noRollout_loadFleet (by decide +kernel) (by decide +kernel))).mpr (by decide)

/-- **Load pauses the scaler.**  Each of the three pods reports five activations in progress;
nothing is rolling out, and the pass turns the scaler that was running off. -/
theorem scaler_paused_by_load :
    PausedText "shop-celld" "false" (settledCluster servingApp false "False") ∧
    Exec ServeFresh (SparesScaler "shop-celld") (settledCluster servingApp false "False")
      (reconcileApp sampleReconciler ⟨"prod", "shop"⟩ servingApp) (loadPass 5).1
      (loadPass 5).2.1 (.ret (loadPass 5).2.2) ∧
    (∃ out, ScalerDriven sampleReconciler servingApp (loadPass 5).1 (loadVersion 5)
      (loadFleet 5).1 out) ∧
    NoRollout sampleReconciler servingApp (loadVersion 5).version (loadFleet 5).1
      (settledFleet servingApp) threePods (loadedState 5) ∧
    PausedText "shop-celld" "true" (loadPass 5).2.1 :=
  ⟨by decide, exec_loadPass 5,
    ⟨{ phase := .pending
       waitingOn := "waiting for complete fleet state: restoring=15, error=<nil>"
       requeue := 15 * second },
      scalerDriven_loadPass (by decide +kernel) (by decide +kernel) (by decide +kernel)⟩,
    noRollout_loadFleet (by decide +kernel) (by decide +kernel), by decide +kernel⟩

end CelldOperator
