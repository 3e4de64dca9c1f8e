/-
  CelldOperator.Status.Written

  **THE END OF A PASS.**

  Behind the fleet step a pass cares for edge, mesh and scaler, writes one status
  and returns one result.  The inversion lemmas of that tail:

    • `observedStatus_cases` — what the last look at the fleet puts into the
      status,
    • `finishPass_parts`      — the tail is three silent functions, then
      `updateStatus`, and its result is `endResult` of the requeue,
    • `SentStatus`            — a status write as the end of the parts of a pass,
    • `reconcileApp_reported` — a status a pass writes is that of a refused spec, or
      `nextStatus` of the outcome and of what was observed last.
-/
import CelldOperator.Status.OrderFree
import CelldOperator.Status.Summary
import CelldOperator.Status.Ready

namespace CelldOperator

open Effect Prog

/-! ## §1. The observation. -/

/-- The StatefulSet the last look goes by. -/
def lookedUp : Except Err StatefulSet → StatefulSet
  | .ok sts => sts
  | .error _ => zeroStatefulSet

/-- The number of ready pods it brings, if the read succeeded. -/
def lookedUpReady : Except Err StatefulSet → Option Nat
  | .ok sts => some sts.sstatus.readyReplicas
  | .error _ => none

/-- The deployments of the samples, as the status shows them. -/
def deploymentList (samples : List (String × PodState)) : List PodDeployment :=
  (samples.filterMap podDeployment).insertionSort (fun a b => a.name ≤ b.name)

def fleetStateCondition : Option Err → Condition
  | none => { type := "FleetStateReady", status := .true_, reason := "Observed" }
  | some e => { type := "FleetStateReady", status := .false_, reason := "Unavailable"
                message := e.text }

/-- **What the last look puts into the status.** -/
theorem observedStatus_cases {app : WorkerApp} {status : WorkerAppStatus}
    {seen : WorkerAppStatus × Condition} {u : Trace} (hu : Runs (observedStatus app status) u seen) :
    ∃ read w sweep tail, u = ⟨.get .statefulSet (fleetName app), read⟩ :: (w ++ tail) ∧
      Runs (observeFleet app (lookedUp read)) w sweep ∧
      seen.2 = fleetStateCondition sweep.err ∧
      ((∃ e, sweep.err = some e ∧ tail = [] ∧
          seen.1 = renew (lookedUpReady read) 0 none status) ∨
        ∃ order, sweep.err = none ∧ tail = [⟨.rangeStates sweep.states, order⟩] ∧
          seen.1 = renew (lookedUpReady read) (int32 sweep.restoring)
            (some (deploymentList order.val)) status) := by
  rw [observedStatus_eq] at hu
  obtain ⟨read, t₁, t₂, rfl, ht₁, ht₂⟩ := runs_bind.mp hu
  obtain rfl := runs_req.mp ht₁
  -- the two answers to the read differ in the StatefulSet and in `ready` only
  cases read
  all_goals
    unfold statusOf at ht₂
    obtain ⟨sweep, w, tail, rfl, hw, htail⟩ := runs_bind.mp ht₂
    cases herr : sweep.err with
    | some e =>
      rw [herr] at htail
      obtain ⟨rfl, rfl⟩ := runs_ret.mp htail
      exact ⟨_, w, sweep, [], rfl, hw, by rw [herr]; rfl, .inl ⟨e, herr, rfl, rfl⟩⟩
    | none =>
      rw [herr] at htail
      obtain ⟨order, v₁, v₂, rfl, hv₁, hv₂⟩ := runs_bind.mp htail
      obtain rfl := runs_req.mp hv₁
      obtain ⟨rfl, rfl⟩ := runs_ret.mp hv₂
      exact ⟨_, w, sweep, _, rfl, hw, by rw [herr]; rfl, .inr ⟨order, herr, rfl, rfl⟩⟩

/-! ## §2. The tail. -/

/-- The requeue `finishPass` has arrived at when it writes the status. -/
def passRequeue (r : Reconciler) (resolved : ResolvedVersion) (out : FleetOutcome)
    (transient : Bool) : Time :=
  let requeue := if resolved.tracking then capRequeue out.requeue r.interval else out.requeue
  if transient then capRequeue requeue (15 * second) else requeue

/-- The result of a pass, from the answer to its status write. -/
def endResult (requeue : Time) : Except Err Unit → Except Err Result
  | .ok () => .ok { requeueAfter := requeue }
  | .error e => if e.isConflict then .ok { requeue := true } else .error e

/-- No status is written along these events. -/
def Unreported (t : Trace) : Prop := ∀ a answer, ¬ Saw t (.updateStatus a) answer

theorem Unreported.append {t u : Trace} (ht : Unreported t) (hu : Unreported u) :
    Unreported (t ++ u) := by
  intro a answer hsaw
  rcases List.mem_append.mp hsaw with hsaw | hsaw
  · exact ht a answer hsaw
  · exact hu a answer hsaw

theorem Confined.unreported {α : Type} {K : Kind → Prop} {p : P α} (h : Confined K p) {t : Trace}
    {x : α} (ht : Runs p t x) : Unreported t := by
  intro a answer hsaw
  cases ((Only.steps h ht).1 _ hsaw).2

section

variable {r : Reconciler} {app : WorkerApp} {resolved : ResolvedVersion}
  {conditions : List Condition} {out : FleetOutcome} {t : Trace} {res : Except Err Result}

/-- **The tail of a pass**, in its parts. -/
theorem finishPass_parts (ht : Runs (finishPass r app resolved conditions out) t res) :
    ∃ u₁ u₂ u₃ u₄ ingress policy scaler written, t = u₁ ++ u₂ ++ u₃ ++ u₄ ∧
      Runs (ensureIngress r app) u₁ ingress ∧ Runs (ensureAuthorizationPolicy r app) u₂ policy ∧
      Runs (ensureScaledObject r app out.phase) u₃ scaler ∧
      Runs (updateStatus app out resolved.version
        (conditions ++ (ingress.2 ++ policy.2 ++ scaler.2))) u₄ written ∧
      res = endResult (passRequeue r resolved out (ingress.1 || policy.1 || scaler.1)) written := by
  unfold finishPass at ht
  dsimp only at ht
  obtain ⟨ingress, u₁, v₁, rfl, hu₁, ht⟩ := runs_bind.mp ht
  obtain ⟨policy, u₂, v₂, rfl, hu₂, ht⟩ := runs_bind.mp ht
  obtain ⟨scaler, u₃, v₃, rfl, hu₃, ht⟩ := runs_bind.mp ht
  obtain ⟨written, u₄, v₄, rfl, hu₄, ht⟩ := runs_bind.mp ht
  -- nothing is exchanged behind the status write
  have hend : v₄ = [] ∧ endResult (passRequeue r resolved out
      (ingress.1 || policy.1 || scaler.1)) written = res := by
    cases written with
    | ok _ => exact runs_ret.mp ht
    | error e =>
      unfold endResult
      dsimp only at ht ⊢
      split at ht
      · next hc => rw [if_pos hc]; exact runs_ret.mp ht
      · next hc => rw [if_neg hc]; exact runs_ret.mp ht
  obtain ⟨rfl, rfl⟩ := hend
  exact ⟨u₁, u₂, u₃, u₄, ingress, policy, scaler, written, by simp, hu₁, hu₂, hu₃,
    by simpa only [List.append_assoc] using hu₄, rfl⟩

/-- Up to the status write it is silent. -/
theorem finishPass_runs (ht : Runs (finishPass r app resolved conditions out) t res) :
    ∃ t₁ t₂ transient reported written, t = t₁ ++ t₂ ∧ Unreported t₁ ∧
      Runs (updateStatus app out resolved.version reported) t₂ written ∧
      res = endResult (passRequeue r resolved out transient) written := by
  obtain ⟨u₁, u₂, u₃, u₄, _, _, _, written, rfl, hu₁, hu₂, hu₃, hu₄, rfl⟩ := finishPass_parts ht
  refine ⟨u₁ ++ u₂ ++ u₃, u₄, _, _, written, rfl, ?_, hu₄, rfl⟩
  exact (((ensureIngress_confined r app).unreported hu₁).append
    ((ensureAuthorizationPolicy_confined r app).unreported hu₂)).append
    ((ensureScaledObject_confined r app out.phase).unreported hu₃)

end

/-! ## §3. The pass. -/

/-- **A status write**, and the parts of the pass it is the end of. -/
inductive SentStatus (r : Reconciler) (app sent : WorkerApp) (answer : Except Err Unit) :
    Trace → Prop where
  | intro {t₀ t₁ t₂ u₁ u₂ u₃ v : Trace} {foundation : List Condition} {resolved : ResolvedVersion}
      {out : FleetOutcome} {ingress policy scaler : Bool × List Condition}
      {seen : WorkerAppStatus × Condition}
      (founded : Runs (ensureFoundation r app) t₀ (.ok foundation))
      (versioned : Runs (resolveAppVersion r app) t₁ resolved)
      (driven : Runs (reconcileFleet r app resolved.version) t₂ (.ok out))
      (routed : Runs (ensureIngress r app) u₁ ingress)
      (guarded : Runs (ensureAuthorizationPolicy r app) u₂ policy)
      (scaled : Runs (ensureScaledObject r app out.phase) u₃ scaler)
      (observed : Runs (observedStatus app (outcomeStatus app.status out resolved.version)) v seen)
      (status : sent.status = nextStatus app out
        (passConditions foundation resolved ++ (ingress.2 ++ policy.2 ++ scaler.2)) seen) :
      SentStatus r app sent answer
        (t₀ ++ (t₁ ++ (t₂ ++ (u₁ ++ (u₂ ++ (u₃ ++ (v ++ [⟨.updateStatus sent, answer⟩])))))))

/-- A pass over an accepted spec writes its status last, if at all. -/
theorem reconcileValid_reported {r : Reconciler} {app sent : WorkerApp} {t : Trace}
    {res : Except Err Result} {answer : Except Err Unit} (hrun : Runs (reconcileValid r app) t res)
    (hsent : Saw t (.updateStatus sent) answer) : SentStatus r app sent answer t := by
  have hfoundation := ensureFoundation_confined r app
  have hversion := resolveAppVersion_reads r app
  rcases reconcileValid_parts hrun with ⟨e, rfl, ht₀⟩ | ⟨t₀, t₁, u, foundation, resolved, rfl, ht₀,
    ht₁, hrest⟩
  · exact absurd hsent (hfoundation.unreported ht₀ sent answer)
  have hquiet := (hfoundation.unreported ht₀).append (hversion.unreported ht₁)
  rcases hrest with ⟨e, rfl, ht₂⟩ | ⟨t₂, t₃, out, rfl, ht₂, ht₃⟩
  · exact absurd hsent ((hquiet.append ((reconcileFleet_confined r app _).unreported ht₂)) sent
      answer)
  obtain ⟨u₁, u₂, u₃, u₄, ingress, policy, scaler, written, rfl, hu₁, hu₂, hu₃, hu₄, -⟩ :=
    finishPass_parts ht₃
  obtain ⟨v, seen, hv, hlast⟩ := updateStatus_runs hu₄
  have hall := (hquiet.append ((reconcileFleet_confined r app _).unreported ht₂)).append
    (((((ensureIngress_confined r app).unreported hu₁).append
      ((ensureAuthorizationPolicy_confined r app).unreported hu₂)).append
      ((ensureScaledObject_confined r app out.phase).unreported hu₃)).append
      (observedStatus_quiet hv))
  rcases hlast with ⟨-, rfl, -⟩ | ⟨-, rfl⟩
  · exact absurd (by simpa only [List.append_assoc] using hsent) (hall sent answer)
  -- the write is the last event
  rw [← List.append_assoc, ← List.append_assoc, ← List.append_assoc] at hsent
  rcases List.mem_append.mp hsent with hmem | hmem
  · have hearlier : Saw (t₀ ++ t₁ ++ t₂ ++ (u₁ ++ u₂ ++ u₃ ++ v)) (.updateStatus sent) answer := by
      simpa only [Saw, List.append_assoc] using hmem
    exact absurd hearlier (hall sent answer)
  · cases List.mem_singleton.mp hmem
    have hassoc : ∀ w : Trace, t₀ ++ t₁ ++ (t₂ ++ (u₁ ++ u₂ ++ u₃ ++ w)) =
        t₀ ++ (t₁ ++ (t₂ ++ (u₁ ++ (u₂ ++ (u₃ ++ w))))) := fun w => by
      simp only [List.append_assoc]
    rw [hassoc]
    exact .intro ht₀ ht₁ ht₂ hu₁ hu₂ hu₃ hv rfl

/-- **The status writes of a pass.** -/
theorem reconcileApp_reported {r : Reconciler} {key : NamespacedName} {app sent : WorkerApp}
    {t : Trace} {res : Except Err Result} {answer : Except Err Unit}
    (hrun : Runs (reconcileApp r key app) t res) (hsent : Saw t (.updateStatus sent) answer) :
    (∃ text, validateApp r app = .error text ∧ sent.status = invalidStatus app text) ∨
      (validateApp r app = .ok () ∧ SentStatus r app sent answer t) := by
  unfold reconcileApp at hrun
  split at hrun
  · -- a deleted WorkerApp gets no status
    exact absurd hsent ((forget_reads key).unreported hrun sent answer)
  · cases hvalid : validateApp r app with
    | error text =>
      rw [hvalid] at hrun
      exact .inl ⟨text, rfl, (Only.steps (rejectSpec_sends app text) hrun).1 _ hsent sent rfl⟩
    | ok _ =>
      rw [hvalid] at hrun
      exact .inr ⟨rfl, reconcileValid_reported hrun hsent⟩

end CelldOperator
