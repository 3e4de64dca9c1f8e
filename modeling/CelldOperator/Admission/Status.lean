/-
  CelldOperator.Admission.Status

  **THE STATUS AGAINST ITS SCHEMA.**

  The schema of the CRD covers the status too: conditions are keyed by their type, types
  and reasons follow patterns, messages are bounded, deployments are keyed by the pod.  A
  status outside of it is refused as a whole, and a WorkerApp then shows its last one
  for as long as the cause lasts.

    • `setStatusCondition_types` — one condition for each type, kept by every merge,
    • `…_named`                  — the types and reasons of each part of a pass,
    • `outcome_phase`            — every fleet step ends in a phase, so the reason of the
      summary conditions is never empty,
    • `status_conforms_iff`      — of what a pass sends, the schema refuses exactly what
      carries a message that is too long.
-/
import CelldOperator.Admission.Schema
import CelldOperator.Status.Backed
import CelldOperator.Status.Exporter

namespace CelldOperator

open Effect Prog Admission

/-! ## §1. The schema of a status. -/

/-- `[A-Za-z0-9]([-A-Za-z0-9_.]*[A-Za-z0-9])?`. -/
def isQualifiedName (cs : List Char) : Bool :=
  cs.head?.any Char.isAlphanum && cs.getLast?.any Char.isAlphanum &&
    cs.all (fun c => c.isAlphanum || c == '-' || c == '_' || c == '.')

/-- The pattern of a condition type: a name, behind a DNS subdomain and a slash or not. -/
def isConditionType (type : String) : Bool :=
  match cut '/' type.toList with
  | (domain, name, true) => (splitOnChar '.' domain).all isLabelText && isQualifiedName name
  | (_, _, false) => isQualifiedName type.toList

/-- `^[A-Za-z]([A-Za-z0-9_,:]*[A-Za-z0-9_])?$`. -/
def isReason (reason : String) : Bool :=
  reason.toList.head?.any Char.isAlpha &&
    reason.toList.getLast?.any (fun c => c.isAlphanum || c == '_') &&
    reason.toList.all (fun c => c.isAlphanum || c == '_' || c == ',' || c == ':')

/-- A type and a reason the schema takes. -/
def Names (type reason : String) : Prop :=
  (isConditionType type = true ∧ type.length ≤ 316) ∧ isReason reason = true ∧
    HasLength 1 1024 reason

instance (type reason : String) : Decidable (Names type reason) :=
  inferInstanceAs (Decidable (_ ∧ _))

/-- The condition is under such names. -/
def Named (c : Condition) : Prop := Names c.type c.reason

instance (c : Condition) : Decidable (Named c) := inferInstanceAs (Decidable (Names _ _))

/-- A message within its bound. -/
def Brief (c : Condition) : Prop := c.message.length ≤ 32768

instance (c : Condition) : Decidable (Brief c) := inferInstanceAs (Decidable (_ ≤ _))

/-- **The schema of a status.**  Phases and condition statuses are enumerations already. -/
@[mk_iff]
structure StatusConforms (status : WorkerAppStatus) : Prop where
  types : (status.conditions.map (·.type)).Nodup
  named : ∀ c ∈ status.conditions, Named c
  brief : ∀ c ∈ status.conditions, Brief c
  deployments : (status.deployments.map (·.name)).Nodup

instance (status : WorkerAppStatus) : Decidable (StatusConforms status) :=
  decidable_of_iff _ (statusConforms_iff status).symm

/-! ## §2. Merging conditions. -/

section

variable {l stored reported : List Condition} {c : Condition} {generation : Nat}

/-- Setting a condition adds its type at most. -/
theorem setStatusCondition_types :
    (setStatusCondition l c).map (·.type) =
      if c.type ∈ l.map (·.type) then l.map (·.type) else l.map (·.type) ++ [c.type] := by
  induction l with
  | nil => rfl
  | cons old rest ih =>
    unfold setStatusCondition
    by_cases heq : old.type = c.type
    · rw [if_pos heq, if_pos (by simp [heq])]
      simp [heq]
    · rw [if_neg heq, List.map_cons, ih]
      by_cases hmem : c.type ∈ rest.map (·.type)
      · rw [if_pos hmem, if_pos (by simpa using .inr (by simpa using hmem))]
        rfl
      · rw [if_neg hmem, if_neg (by simpa [Ne.symm heq] using hmem)]
        rfl

theorem setStatusCondition_nodup (h : (l.map (·.type)).Nodup) :
    ((setStatusCondition l c).map (·.type)).Nodup := by
  rw [setStatusCondition_types]
  split
  · exact h
  · next hnew =>
    rw [List.nodup_append]
    refine ⟨h, List.nodup_singleton _, fun a ha b hb => ?_⟩
    rw [List.mem_singleton.mp hb]
    rintro rfl
    exact hnew ha

theorem removeStatusCondition_nodup {type : String} (h : (l.map (·.type)).Nodup) :
    ((removeStatusCondition l type).map (·.type)).Nodup :=
  (List.filter_sublist.map _).nodup h

/-- A fold of changes that each keep it. -/
theorem foldl_nodup {α : Type} {f : List Condition → α → List Condition}
    (hf : ∀ l a, (l.map (·.type)).Nodup → ((f l a).map (·.type)).Nodup) :
    ∀ {changes : List α} {l : List Condition}, (l.map (·.type)).Nodup →
      ((changes.foldl f l).map (·.type)).Nodup := by
  intro changes
  induction changes with
  | nil => exact fun h => h
  | cons change rest ih => exact fun h => ih (hf _ _ h)

theorem mergeConditions_nodup (h : (stored.map (·.type)).Nodup) :
    ((mergeConditions generation stored reported).map (·.type)).Nodup :=
  foldl_nodup (fun _ _ => setStatusCondition_nodup)
    (foldl_nodup (fun _ _ => removeStatusCondition_nodup) h)

theorem mem_foldl_setStatusCondition : ∀ {l : List Condition},
    c ∈ reported.foldl setStatusCondition l → c ∈ l ∨ c ∈ reported := by
  induction reported with
  | nil => exact fun h => .inl h
  | cons first rest ih =>
    intro l h
    rcases ih h with hset | hrest
    · rcases mem_setStatusCondition hset with hold | rfl
      · exact .inl hold
      · exact .inr (List.mem_cons_self ..)
    · exact .inr (List.mem_cons_of_mem _ hrest)

/-- A merged condition was stored or reported. -/
theorem named_mergeConditions (hstored : ∀ c ∈ stored, Named c)
    (hreported : ∀ c ∈ reported, Named c) :
    ∀ c ∈ mergeConditions generation stored reported, Named c := by
  intro c hc
  unfold mergeConditions at hc
  rcases mem_foldl_setStatusCondition hc with hold | hnew
  · exact hstored c (mem_foldl_remove.mp hold).1
  · obtain ⟨d, hd, rfl⟩ := List.mem_map.mp hnew
    exact hreported d hd

end

/-! ## §3. Types and reasons. -/

section

variable {r : Reconciler} {app : WorkerApp} {t : Trace}

/-- One condition, under these names. -/
theorem named_one {c : Condition} (type reason : String) (h : Names type reason)
    (htype : c.type = type) (hreason : c.reason = reason) : ∀ d ∈ [c], Named d := by
  subst htype hreason
  exact List.forall_mem_singleton.mpr h

theorem named_append {l l' : List Condition} (h : ∀ c ∈ l, Named c) (h' : ∀ c ∈ l', Named c) :
    ∀ c ∈ l ++ l', Named c := List.forall_mem_append.mpr ⟨h, h'⟩

theorem failedCondition_named {type unavailable text failed : String} {e : Err}
    (hunavailable : Names type unavailable) (hfailed : Names type failed) :
    ∀ c ∈ (failedCondition type unavailable text failed e).2, Named c := by
  unfold failedCondition
  split
  · exact named_one type unavailable hunavailable rfl rfl
  · exact named_one type failed hfailed rfl rfl

theorem credentialsCondition_named : ∀ c ∈ [credentialsCondition app], Named c := by
  unfold credentialsCondition
  split
  · exact named_one "BucketCredentialsReady" "ProvisioningNotImplemented" (by decide) rfl rfl
  · exact named_one "BucketCredentialsReady" "Configured" (by decide) rfl rfl

theorem trackingCondition_named {status : ConditionStatus} {reason message : String}
    (h : Names "DeployTrackingReady" reason) :
    ∀ c ∈ [trackingCondition status reason message], Named c :=
  named_one "DeployTrackingReady" reason h rfl rfl

theorem resolveAppVersion_named {resolved : ResolvedVersion}
    (hr : Runs (resolveAppVersion r app) t resolved) : ∀ c ∈ resolved.conditions, Named c := by
  unfold resolveAppVersion at hr
  split at hr
  · split at hr
    · obtain ⟨-, rfl⟩ := runs_ret.mp hr
      exact nofun
    · obtain ⟨live, t₁, t₂, rfl, -, hr⟩ := runs_bind.mp hr
      obtain ⟨-, rfl⟩ := runs_ret.mp hr
      exact trackingCondition_named (by decide)
  · split at hr
    · unfold resolvePinned at hr
      dsimp only at hr
      split at hr
      · obtain ⟨-, rfl⟩ := runs_ret.mp hr
        exact nofun
      · obtain ⟨read, t₁, t₂, rfl, -, hr⟩ := runs_bind.mp hr
        split at hr
        · obtain ⟨-, rfl⟩ := runs_ret.mp hr
          exact trackingCondition_named (by decide)
        · obtain ⟨-, rfl⟩ := runs_ret.mp hr
          exact nofun
    · unfold resolveTracked at hr
      obtain ⟨read, t₁, t₂, rfl, -, hr⟩ := runs_bind.mp hr
      split at hr
      · obtain ⟨-, rfl⟩ := runs_ret.mp hr
        exact trackingCondition_named (by decide)
      · split at hr
        · obtain ⟨-, rfl⟩ := runs_ret.mp hr
          exact trackingCondition_named (by decide)
        · obtain ⟨live, t₃, t₄, rfl, -, hr⟩ := runs_bind.mp hr
          obtain ⟨-, rfl⟩ := runs_ret.mp hr
          exact trackingCondition_named (by decide)

theorem ensureHTTPRoute_named {res : Bool × List Condition}
    (hr : Runs (ensureHTTPRoute r app) t res) : ∀ c ∈ res.2, Named c := by
  unfold ensureHTTPRoute at hr
  obtain ⟨⟨route, retryDropped⟩, t₁, t₂, rfl, -, hr⟩ := runs_bind.mp hr
  obtain ⟨ensured, t₃, t₄, rfl, -, hr⟩ := runs_bind.mp hr
  cases ensured with
  | ok route' =>
    obtain ⟨dropped, t₅, t₆, rfl, -, hr⟩ := runs_bind.mp hr
    split at hr
    · obtain ⟨-, rfl⟩ := runs_ret.mp hr
      exact named_one "IngressReady" "RouteReconciledRetryDropped" (by decide) rfl rfl
    · obtain ⟨status, t₇, t₈, rfl, -, hr⟩ := runs_bind.mp hr
      obtain ⟨-, rfl⟩ := runs_ret.mp hr
      exact named_one "IngressReady" "RouteObserved" (by decide) rfl rfl
  | error e =>
    obtain ⟨-, rfl⟩ := runs_ret.mp hr
    exact failedCondition_named (by decide) (by decide)

theorem ensureV1Ingress_named {res : Bool × List Condition}
    (hr : Runs (ensureV1Ingress r app) t res) : ∀ c ∈ res.2, Named c := by
  unfold ensureV1Ingress at hr
  obtain ⟨ensured, t₁, t₂, rfl, -, hr⟩ := runs_bind.mp hr
  cases ensured with
  | ok _ =>
    obtain ⟨-, rfl⟩ := runs_ret.mp hr
    exact named_one "IngressReady" "IngressReconciled" (by decide) rfl rfl
  | error e =>
    obtain ⟨-, rfl⟩ := runs_ret.mp hr
    exact named_one "IngressReady" "RouteError" (by decide) rfl rfl

theorem ensureVirtualService_named {res : Bool × List Condition}
    (hr : Runs (ensureVirtualService r app) t res) : ∀ c ∈ res.2, Named c := by
  unfold ensureVirtualService at hr
  obtain ⟨ensured, t₁, t₂, rfl, -, hr⟩ := runs_bind.mp hr
  cases ensured with
  | ok _ =>
    obtain ⟨-, rfl⟩ := runs_ret.mp hr
    exact named_one "IngressReady" "VirtualServiceReconciled" (by decide) rfl rfl
  | error e =>
    obtain ⟨-, rfl⟩ := runs_ret.mp hr
    exact failedCondition_named (by decide) (by decide)

theorem ensureIngress_named {res : Bool × List Condition}
    (hr : Runs (ensureIngress r app) t res) : ∀ c ∈ res.2, Named c := by
  unfold ensureIngress at hr
  obtain ⟨removed, t₁, t₂, rfl, -, hr⟩ := runs_bind.mp hr
  cases removed with
  | error e =>
    obtain ⟨-, rfl⟩ := runs_ret.mp hr
    exact named_one "IngressReady" "RouteError" (by decide) rfl rfl
  | ok _ =>
    dsimp only at hr
    split at hr
    · obtain ⟨-, rfl⟩ := runs_ret.mp hr
      exact nofun
    · cases hmode : r.ingressMode <;> rw [hmode] at hr <;> dsimp only at hr
      case none =>
        obtain ⟨-, rfl⟩ := runs_ret.mp hr
        exact nofun
      case virtualService => exact ensureVirtualService_named hr
      case ingress => exact ensureV1Ingress_named hr
      all_goals exact ensureHTTPRoute_named hr

theorem ensureAuthorizationPolicy_named {res : Bool × List Condition}
    (hr : Runs (ensureAuthorizationPolicy r app) t res) : ∀ c ∈ res.2, Named c := by
  unfold ensureAuthorizationPolicy at hr
  obtain ⟨ensured, t₁, t₂, rfl, -, hr⟩ := runs_bind.mp hr
  cases ensured with
  | ok _ =>
    obtain ⟨-, rfl⟩ := runs_ret.mp hr
    exact named_one "MeshPolicyReady" "PolicyReconciled" (by decide) rfl rfl
  | error e =>
    obtain ⟨-, rfl⟩ := runs_ret.mp hr
    exact failedCondition_named (by decide) (by decide)

theorem scalerError_named (e : Err) : ∀ c ∈ (scalerError e).2, Named c :=
  named_one "AutoscalingReady" "ScaledObjectError" (by decide) rfl rfl

theorem removeScaledObject_named {res : Bool × List Condition}
    (hr : Runs (removeScaledObject app) t res) : ∀ c ∈ res.2, Named c := by
  unfold removeScaledObject at hr
  obtain ⟨read, t₁, t₂, rfl, -, hr⟩ := runs_bind.mp hr
  cases read with
  | error e =>
    dsimp only at hr
    split at hr
    · obtain ⟨-, rfl⟩ := runs_ret.mp hr
      exact nofun
    · obtain ⟨-, rfl⟩ := runs_ret.mp hr
      exact scalerError_named e
  | ok o =>
    dsimp only at hr
    split at hr
    · obtain ⟨-, rfl⟩ := runs_ret.mp hr
      exact scalerError_named _
    · obtain ⟨deleted, t₃, t₄, rfl, -, hr⟩ := runs_bind.mp hr
      cases deleted with
      | ok _ =>
        obtain ⟨-, rfl⟩ := runs_ret.mp hr
        exact nofun
      | error e =>
        dsimp only at hr
        split at hr
        · obtain ⟨-, rfl⟩ := runs_ret.mp hr
          exact nofun
        · obtain ⟨-, rfl⟩ := runs_ret.mp hr
          exact scalerError_named e

theorem ensureScaledObject_named {phase : Phase} {res : Bool × List Condition}
    (hr : Runs (ensureScaledObject r app phase) t res) : ∀ c ∈ res.2, Named c := by
  unfold ensureScaledObject at hr
  split at hr
  · exact removeScaledObject_named hr
  · obtain ⟨ensured, t₁, t₂, rfl, -, hr⟩ := runs_bind.mp hr
    cases ensured with
    | ok _ =>
      obtain ⟨-, rfl⟩ := runs_ret.mp hr
      exact named_one "AutoscalingReady" "ScaledObjectReconciled" (by decide) rfl rfl
    | error e =>
      obtain ⟨-, rfl⟩ := runs_ret.mp hr
      exact failedCondition_named (by decide) (by decide)

theorem fleetStateCondition_named (err : Option Err) : ∀ c ∈ [fleetStateCondition err], Named c := by
  cases err with
  | none => exact named_one "FleetStateReady" "Observed" (by decide) rfl rfl
  | some e => exact named_one "FleetStateReady" "Unavailable" (by decide) rfl rfl

/-- **Every fleet step ends in a phase.**  A conflict before the first status reports Pending. -/
theorem outcome_phase {version : String} {out : FleetOutcome}
    (hr : Runs (reconcileFleet r app version) t (.ok out)) : out.phase ≠ .unset := by
  have hexit := valid_runs (reconcileFleet_valid r app version) hr
  rw [List.nil_append] at hexit
  intro hunset
  cases hexit with
  | degraded | pauseWait | ready => cases hunset
  | moving out hmoving other calm =>
    rw [hunset] at hmoving
    exact hmoving.elim
  | conflicted o e hsaw hc spared =>
    unfold conflictOutcome at hunset
    dsimp only at hunset
    split at hunset
    · cases hunset
    · next hset => exact hset hunset

theorem summaryConditions_named {out : FleetOutcome} (h : out.phase ≠ .unset) :
    ∀ c ∈ summaryConditions out, Named c := by
  have hnames : ∀ type ∈ ["Available", "Progressing", "Degraded"], Names type out.phase.text := by
    cases hphase : out.phase with
    | unset => exact absurd hphase h
    | _ => decide
  intro c hc
  simp only [summaryConditions, List.mem_cons, List.not_mem_nil, or_false] at hc
  rcases hc with rfl | rfl | rfl
  · exact hnames "Available" (by decide)
  · exact hnames "Progressing" (by decide)
  · exact hnames "Degraded" (by decide)

/-! ## §4. Deployments. -/

/-- A sweep has one state under each name. -/
theorem observeFleet_keys {sts : StatefulSet} {sweep : Sweep}
    (hr : Runs (observeFleet app sts) t sweep) : (sweep.states.map Prod.fst).Nodup := by
  unfold observeFleet at hr
  obtain ⟨listed, t₁, t₂, rfl, -, hr⟩ := runs_bind.mp hr
  cases listed with
  | error e =>
    obtain ⟨-, rfl⟩ := runs_ret.mp hr
    exact List.nodup_nil
  | ok pods =>
    dsimp only at hr
    split at hr
    · obtain ⟨-, rfl⟩ := runs_ret.mp hr
      exact List.nodup_nil
    · unfold fleetSweep at hr
      obtain ⟨order, t₃, t₄, rfl, -, hr⟩ := runs_bind.mp hr
      exact (pollAll_keys hr List.nodup_nil).1

theorem deploymentList_nodup {samples : List (String × PodState)}
    (h : (samples.map Prod.fst).Nodup) : ((deploymentList samples).map (·.name)).Nodup := by
  have hperm : (deploymentList samples).Perm (samples.filterMap podDeployment) :=
    List.perm_insertionSort _ _
  rw [(hperm.map _).nodup_iff]
  have hsub : ((samples.filterMap podDeployment).map (·.name)).Sublist (samples.map Prod.fst) := by
    clear h hperm
    induction samples with
    | nil => exact List.Sublist.refl _
    | cons sample rest ih =>
      rw [List.filterMap_cons]
      split
      · exact ih.cons _
      · next d hd =>
        rw [List.map_cons, List.map_cons, podDeployment_name hd]
        exact ih.cons_cons _
  exact hsub.nodup h

theorem observedStatus_deployments {status : WorkerAppStatus} {seen : WorkerAppStatus × Condition}
    (hstatus : (status.deployments.map (·.name)).Nodup)
    (hr : Runs (observedStatus app status) t seen) : (seen.1.deployments.map (·.name)).Nodup := by
  obtain ⟨read, w, sweep, tail, rfl, hsweep, -, hcases⟩ := observedStatus_cases hr
  rcases hcases with ⟨e, -, -, heq⟩ | ⟨order, -, -, heq⟩
  · rw [heq]
    exact hstatus
  · rw [heq]
    have hkeys : (order.val.map Prod.fst).Nodup :=
      ((order.property.map Prod.fst).nodup_iff).mpr (observeFleet_keys hsweep)
    exact deploymentList_nodup hkeys

end

/-! ## §5. Every status a pass sends. -/

/-- A refused spec. -/
theorem invalidStatus_conforms {app : WorkerApp} {text : String} (hstored : StatusConforms app.status)
    (hbrief : ∀ c ∈ (invalidStatus app text).conditions, Brief c) :
    StatusConforms (invalidStatus app text) where
  types := setStatusCondition_nodup (setStatusCondition_nodup
    (foldl_nodup (fun _ _ => removeStatusCondition_nodup) hstored.types))
  named := by
    intro c hc
    rcases mem_setStatusCondition hc with hc | rfl
    · rcases mem_setStatusCondition hc with hc | rfl
      · exact hstored.named c (mem_foldl_remove.mp hc).1
      · exact (by decide : Names "SpecValid" "InvalidConfiguration")
    · exact (by decide : Names "Available" "InvalidConfiguration")
  brief := hbrief
  deployments := hstored.deployments

theorem SentStatus.conforms {r : Reconciler} {app sent : WorkerApp} {t : Trace}
    {answer : Except Err Unit} (h : SentStatus r app sent answer t)
    (hstored : StatusConforms app.status)
    (hbrief : ∀ c ∈ sent.status.conditions, Brief c) : StatusConforms sent.status := by
  cases h with
  | @intro t₀ t₁ t₂ u₁ u₂ u₃ v foundation resolved out ingress policy scaler seen founded
      versioned driven routed guarded scaled observed hstatus =>
  obtain ⟨rfl, -⟩ := ensureFoundation_vouched founded
  have hseen : ∀ c ∈ [seen.2], Named c := by
    obtain ⟨_, _, sweep, _, -, -, hcondition, -⟩ := observedStatus_cases observed
    rw [hcondition]
    exact fleetStateCondition_named sweep.err
  have hfirst : ∀ c ∈ passConditions [credentialsCondition app] resolved, Named c :=
    named_append (named_append (named_one "SpecValid" "Validated" (by decide) rfl rfl)
      credentialsCondition_named) (resolveAppVersion_named versioned)
  have htail : ∀ c ∈ ingress.2 ++ policy.2 ++ scaler.2, Named c :=
    named_append (named_append (ensureIngress_named routed)
      (ensureAuthorizationPolicy_named guarded)) (ensureScaledObject_named scaled)
  refine ⟨?_, ?_, hbrief, ?_⟩
  · rw [hstatus]
    exact mergeConditions_nodup hstored.types
  · rw [hstatus]
    exact named_mergeConditions hstored.named
      (named_append (named_append (named_append hfirst htail) hseen)
        (summaryConditions_named (outcome_phase driven)))
  · rw [hstatus]
    refine observedStatus_deployments ?_ observed
    exact List.nodup_nil

/-- **What a pass sends conforms**, unless a message is too long: over any stored status that
conforms, whatever the spec and whatever the pass meets. -/
theorem status_conforms_iff (r : Reconciler) (key : NamespacedName) (app sent : WorkerApp)
    (t : Trace) (res : Except Err Result) (answer : Except Err Unit)
    (hrun : Runs (reconcileApp r key app) t res) (hsent : Saw t (.updateStatus sent) answer)
    (hstored : StatusConforms app.status) :
    StatusConforms sent.status ↔ ∀ c ∈ sent.status.conditions, c.message.length ≤ 32768 := by
  refine ⟨fun h => h.brief, fun hbrief => ?_⟩
  rcases reconcileApp_reported hrun hsent with ⟨text, -, hstatus⟩ | ⟨-, hreported⟩
  · rw [hstatus] at hbrief ⊢
    exact invalidStatus_conforms hstored hbrief
  · exact hreported.conforms hstored hbrief

/-- The first status of a WorkerApp conforms. -/
theorem status_conforms_first :
    ∃ sent, Saw (statusPass firstApp).1 (.updateStatus sent) (.ok ()) ∧
      StatusConforms sent.status := by
  have hwritten : (writtenStatus (statusPass firstApp).1).any (fun sent =>
      sent.status.conditions.all fun c => decide (c.message.length ≤ 32768)) = true := by
    decide +kernel
  obtain ⟨sent, hsent, hbrief⟩ := (Option.any_eq_true _ _).mp hwritten
  have hruns := runs_runWith (statusPass firstApp) rfl
  refine ⟨sent, saw_writtenStatus hsent, ?_⟩
  refine (status_conforms_iff sampleReconciler ⟨"prod", "shop"⟩ firstApp sent _ _ (.ok ()) hruns
    (saw_writtenStatus hsent) (by decide)).mpr fun c hc => ?_
  exact of_decide_eq_true (List.all_eq_true.mp hbrief c hc)

end CelldOperator
