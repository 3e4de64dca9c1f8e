/-
  CelldOperator.Status.OrderFree

  **DOES THE ORDER OF THE POLLS SHOW?**

  The cluster is fixed (`Pass.FixedCluster`); completion and iteration orders
  are not.  Every sweep, every outcome and every status is compared over all of
  them.

    • `SameSweep`    — the same map, sum and error,
    • `Unambiguous`  — there is one error to return, and one pod to wait for,
    • `nextStatus_settled` — a status computed twice from the same observations
      is the stored one,
    • `order_free_iff` — the orders show exactly where a choice is left.

  The error of a sweep is the one of the poll that completes first, and the pod
  a steady pass waits for is the first one the iteration meets: both reach
  `waitingOn` and the conditions.
-/
import CelldOperator.Cluster.Server
import CelldOperator.Pass.FixedCluster
import CelldOperator.Status.Conditions

namespace CelldOperator

open Effect Prog

variable {env : Answers}

/-! ## §1. One sweep. -/

/-- The same map, sum and error. -/
structure SameSweep (sweep sweep' : Sweep) : Prop where
  states : sweep.states.Perm sweep'.states
  restoring : sweep.restoring = sweep'.restoring
  err : sweep.err = sweep'.err

/-- Every poll that fails, fails with the same error. -/
def OneError (env : Answers) (pods : List Pod) : Prop :=
  ∀ e ∈ failures env pods, ∀ e' ∈ failures env pods, e = e'

/-- Pods of one name report one sample. -/
def OneSample (env : Answers) (pods : List Pod) : Prop :=
  ∀ x ∈ samples env pods, ∀ y ∈ samples env pods, x.1 = y.1 → x = y

instance (pods : List Pod) : Decidable (OneError env pods) :=
  inferInstanceAs (Decidable (∀ _ ∈ _, _))

instance (pods : List Pod) : Decidable (OneSample env pods) :=
  inferInstanceAs (Decidable (∀ _ ∈ _, _))

/-- Lists with the same members, all equal, have the same head. -/
theorem head?_eq_of_perm {α : Type} {l l' : List α} (hperm : l.Perm l')
    (hone : ∀ x ∈ l, ∀ y ∈ l, x = y) : l.head? = l'.head? := by
  cases l with
  | nil => rw [List.nil_perm.mp hperm]
  | cons x l =>
    cases l' with
    | nil => exact absurd hperm (by simp)
    | cons y l' =>
      have hy : y ∈ x :: l := hperm.mem_iff.mpr (List.mem_cons_self ..)
      show some x = some y
      rw [hone x (List.mem_cons_self ..) y hy]

theorem mem_samples {pods : List Pod} {pod : Pod} {state : PodState} (hpod : pod ∈ pods)
    (hres : polled env pod = .ok state) : (pod.name, state) ∈ samples env pods :=
  List.mem_filterMap.mpr ⟨pod, hpod, by rw [hres]⟩

theorem mem_samples_iff {pods : List Pod} {x : String × PodState} :
    x ∈ samples env pods ↔ ∃ pod ∈ pods, polled env pod = .ok x.2 ∧ pod.name = x.1 := by
  constructor
  · intro hx
    obtain ⟨pod, hpod, hres⟩ := List.mem_filterMap.mp hx
    cases hp : polled env pod with
    | error e => simp [hp] at hres
    | ok state =>
      simp only [hp, Option.some.injEq] at hres
      subst hres
      exact ⟨pod, hpod, hp, rfl⟩
  · rintro ⟨pod, hpod, hres, hname⟩
    have := mem_samples hpod hres
    rwa [hname] at this

theorem mem_failures_iff {pods : List Pod} {e : Err} :
    e ∈ failures env pods ↔ ∃ pod ∈ pods, polled env pod = .error e := by
  constructor
  · intro he
    obtain ⟨pod, hpod, hres⟩ := List.mem_filterMap.mp he
    cases hp : polled env pod with
    | ok state => simp [hp] at hres
    | error e' =>
      simp only [hp, Option.some.injEq] at hres
      subst hres
      exact ⟨pod, hpod, hp⟩
  · rintro ⟨pod, hpod, hres⟩
    exact List.mem_filterMap.mpr ⟨pod, hpod, by rw [hres]⟩

section

variable {pods order order' : List Pod}

/-- The states of a sweep are the samples. -/
theorem mem_states_iff (hone : OneSample env pods) (horder : order.Perm pods)
    {x : String × PodState} : x ∈ (recordAll env {} order).states ↔ x ∈ samples env pods := by
  have hmem : ∀ x, x ∈ samples env order ↔ x ∈ samples env pods :=
    fun _ => (horder.filterMap _).mem_iff
  rw [recordAll_eq]
  show x ∈ putAll [] (samples env order) ↔ _
  rw [mem_putAll]
  · simp [hmem]
  · intro x hx y hy
    exact hone x ((hmem x).mp hx) y ((hmem y).mp hy)

theorem keys_states : ((recordAll env {} order).states.map Prod.fst).Nodup := by
  rw [recordAll_eq]
  exact keys_putAll List.nodup_nil

/-- **One sweep**, where there is one error to return and one sample for a name. -/
theorem sameSweep_of_one (herr : OneError env pods) (hone : OneSample env pods)
    (horder : order.Perm pods) (horder' : order'.Perm pods) :
    SameSweep (recordAll env {} order) (recordAll env {} order') := by
  have hperm : order.Perm order' := horder.trans horder'.symm
  have hsamples : (samples env order).Perm (samples env order') := hperm.filterMap _
  refine ⟨?_, ?_, ?_⟩
  · rw [List.perm_ext_iff_of_nodup (List.Nodup.of_map _ keys_states)
      (List.Nodup.of_map _ keys_states)]
    intro x
    rw [mem_states_iff hone horder, mem_states_iff hone horder']
  · rw [recordAll_eq, recordAll_eq]
    show wrapSum 0 _ = wrapSum 0 _
    rw [wrapSum_eq _ (by decide), wrapSum_eq _ (by decide), (hsamples.map _).sum_eq]
  · rw [recordAll_eq, recordAll_eq]
    show (failures env order).head? = (failures env order').head?
    refine head?_eq_of_perm (hperm.filterMap _) ?_
    intro e he e' he'
    exact herr e ((horder.filterMap _).mem_iff.mp he) e' ((horder.filterMap _).mem_iff.mp he')

/-- The poll of a failing pod may complete first. -/
theorem exists_first_error {e : Err} (he : e ∈ failures env pods) :
    ∃ order : List Pod, order.Perm pods ∧ (recordAll env {} order).err = some e := by
  obtain ⟨pod, hpod, hres⟩ := mem_failures_iff.mp he
  refine ⟨pod :: pods.erase pod, (List.perm_cons_erase hpod).symm, ?_⟩
  rw [recordAll_eq]
  simp [failures, hres]

/-- The poll of a pod may complete last, and its sample stays in the map. -/
theorem exists_last_sample {x : String × PodState} (hx : x ∈ samples env pods) :
    ∃ order : List Pod, order.Perm pods ∧ x ∈ (recordAll env {} order).states := by
  obtain ⟨pod, hpod, hres, hname⟩ := mem_samples_iff.mp hx
  refine ⟨pods.erase pod ++ [pod], ?_, ?_⟩
  · exact List.perm_append_comm.trans (List.perm_cons_erase hpod).symm
  · have hlast : samples env (pods.erase pod ++ [pod]) = samples env (pods.erase pod) ++ [x] := by
      unfold samples
      rw [List.filterMap_append]
      simp [hres, hname]
    rw [recordAll_eq, hlast]
    show x ∈ putAll [] (_ ++ [x])
    unfold putAll
    rw [List.foldl_append]
    show x ∈ putState _ x.1 x.2
    simp [putState]

end

/-- **The sweep shows no order** exactly where no choice is left. -/
theorem fleetSweep_agree_iff {pods : List Pod} :
    Agree (Fixed env) SameSweep (fleetSweep pods) (fleetSweep pods) ↔
      OneError env pods ∧ OneSample env pods := by
  constructor
  · intro h
    have hsame : ∀ {order order' : List Pod}, order.Perm pods → order'.Perm pods →
        SameSweep (recordAll env {} order) (recordAll env {} order') :=
      fun hl hl' => h _ _ (allowed_fleetSweep.mpr ⟨_, hl, rfl⟩)
        (allowed_fleetSweep.mpr ⟨_, hl', rfl⟩)
    constructor
    · intro e he e' he'
      obtain ⟨order, hl, hfirst⟩ := exists_first_error he
      obtain ⟨order', hl', hfirst'⟩ := exists_first_error he'
      exact Option.some.inj (hfirst.symm.trans ((hsame hl hl').err.trans hfirst'))
    · intro x hx y hy hname
      obtain ⟨order, hl, hlast⟩ := exists_last_sample hx
      obtain ⟨order', hl', hlast'⟩ := exists_last_sample hy
      have hlast := (hsame hl hl').states.mem_iff.mp hlast
      exact List.inj_on_of_nodup_map keys_states hlast hlast' hname
  · rintro ⟨herr, hone⟩ sweep sweep' h h'
    obtain ⟨order, hl, rfl⟩ := allowed_fleetSweep.mp h
    obtain ⟨order', hl', rfl⟩ := allowed_fleetSweep.mp h'
    exact sameSweep_of_one herr hone hl hl'

section

variable {app : WorkerApp} {sts : StatefulSet} {sweep sweep' : Sweep}

theorem Observation.same (herr : OneError env (listed env app))
    (hone : OneSample env (listed env app)) (h : Observation env app sts sweep)
    (h' : Observation env app sts sweep') : SameSweep sweep sweep' := by
  unfold Observation at h h'
  cases hun : unswept env app sts with
  | some e =>
    rw [hun] at h h'
    rw [h, h']
    exact ⟨.refl _, rfl, rfl⟩
  | none =>
    rw [hun] at h h'
    obtain ⟨order, hl, rfl⟩ := h
    obtain ⟨order', hl', rfl⟩ := h'
    exact sameSweep_of_one herr hone hl hl'

theorem Observation.keys (h : Observation env app sts sweep) :
    (sweep.states.map Prod.fst).Nodup := by
  unfold Observation at h
  split at h
  · rw [h]
    exact List.nodup_nil
  · obtain ⟨order, -, rfl⟩ := h
    exact keys_states

end

/-! ## §2. The outcome of a rollout step. -/

section

variable {α : Type}

theorem updateFleet_unordered (sts : StatefulSet) : Unordered (updateFleet sts) := by
  unfold updateFleet
  refine only_bind (only_ask rfl) fun res => ?_
  split
  · exact only_pure _ _
  · split <;> exact only_pure _ _

theorem agree_check {R : Except Err FleetOutcome → Except Err FleetOutcome → Prop}
    (hR : ∀ e, R (.error e) (.error e)) {p : P (Except Err α)} (hp : Unordered p)
    {f g : α → P (Except Err FleetOutcome)} (hf : ∀ a, Agree (Fixed env) R (f a) (g a)) :
    Agree (Fixed env) R (check p f) (check p g) := by
  unfold check
  refine agree_bind (agree_unordered hp) fun res res' hres => ?_
  subst hres
  cases res with
  | error e => exact agree_pure (hR e)
  | ok a => exact hf a

theorem agree_writeFleet (app : WorkerApp) (sts : StatefulSet)
    {next : StatefulSet → P (Except Err FleetOutcome)}
    (hnext : ∀ stored, Agree (Fixed env) Eq (next stored) (next stored)) :
    Agree (Fixed env) Eq (writeFleet app sts next) (writeFleet app sts next) := by
  unfold writeFleet
  refine agree_check (fun _ => rfl) (updateFleet_unordered sts) fun stored => ?_
  cases stored with
  | none => exact agree_pure rfl
  | some stored => exact hnext stored

theorem settleWait_unordered (lib : Lib) (sts : StatefulSet) : Unordered (settleWait lib sts) :=
  (settleWait_topics lib sts).unordered (by decide)

theorem checkReleased_unordered (app : WorkerApp) (revision : String) (ords : List Nat) :
    Unordered (checkReleased app revision ords) :=
  (checkReleased_topics app revision ords).unordered (by decide)

end

section

variable {app : WorkerApp} {sts : StatefulSet}

/-- Two observations of the fixed cluster. -/
theorem observeFleet_agree (herr : OneError env (listed env app))
    (hone : OneSample env (listed env app)) :
    Agree (Fixed env) (fun sweep sweep' => SameSweep sweep sweep' ∧
        Observation env app sts sweep ∧ Observation env app sts sweep')
      (observeFleet app sts) (observeFleet app sts) := by
  intro sweep sweep' h h'
  have h := observeFleet_fixed.mp h
  have h' := observeFleet_fixed.mp h'
  exact ⟨h.same herr hone h', h, h'⟩

theorem releaseNext_agree (r : Reconciler) (herr : OneError env (listed env app))
    (hone : OneSample env (listed env app)) (partition replicas : Nat) :
    Agree (Fixed env) Eq (releaseNext r app sts partition replicas)
      (releaseNext r app sts partition replicas) := by
  unfold releaseNext
  dsimp only
  split
  · exact agree_pure rfl
  · refine agree_bind (agree_unordered (settleWait_unordered _ _)) fun left left' hleft => ?_
    subst hleft
    cases left with
    | some left => exact agree_pure rfl
    | none =>
      dsimp only
      split
      · exact agree_pure rfl
      · refine agree_bind (agree_unordered (checkReleased_unordered _ _ _))
          fun blocked blocked' hblocked => ?_
        subst hblocked
        rcases blocked with _ | ⟨waitingOn, _ | e⟩
        · -- gate 2: the one place where an order could show
          refine agree_bind (observeFleet_agree herr hone) fun sweep sweep' hsame => ?_
          rw [← hsame.1.err, ← hsame.1.restoring]
          split
          · exact agree_pure rfl
          · refine agree_bind (agree_unordered (only_ask rfl)) fun now now' hnow => ?_
            subst hnow
            exact agree_writeFleet _ _ fun _ => agree_pure rfl
        · exact agree_pure rfl
        · exact agree_pure rfl

theorem rolloutStep_agree (r : Reconciler) (herr : OneError env (listed env app))
    (hone : OneSample env (listed env app)) :
    Agree (Fixed env) Eq (rolloutStep r app sts) (rolloutStep r app sts) := by
  unfold rolloutStep
  split
  · exact agree_writeFleet _ _ fun stored => releaseNext_agree r herr hone _ _
  · exact releaseNext_agree r herr hone _ _

end

/-! ## §3. The outcome of a steady pass. -/

/-- The pass gets as far as looking at the samples. -/
structure ReachesSamples (env : Answers) (app : WorkerApp) (sts : StatefulSet) : Prop where
  scaled : replicasDrifted app sts = false
  converged : statusConverged sts = true
  swept : unswept env app sts = none
  complete : failures env (listed env app) = []
  idle : wrapSum 0 ((samples env (listed env app)).map (·.2.restoring)) = 0

/-- At most one pod does not serve the version. -/
def OneStraggler (env : Answers) (app : WorkerApp) (appVersion : String) : Prop :=
  ∀ x ∈ samples env (listed env app), ∀ y ∈ samples env (listed env app),
    deploymentConverged appVersion x.2 = false → deploymentConverged appVersion y.2 = false →
    x.1 = y.1

/-- The first entry that meets the test has the same name in every order, where all that meet
it have one name. -/
theorem find?_name_of_perm {l l' : List (String × PodState)} {test : String × PodState → Bool}
    (hperm : l.Perm l')
    (hone : ∀ x ∈ l, ∀ y ∈ l, test x = true → test y = true → x.1 = y.1) :
    (l.find? test).map Prod.fst = (l'.find? test).map Prod.fst := by
  cases h : l.find? test with
  | none =>
    have hnone : l'.find? test = none := by
      rw [List.find?_eq_none] at h ⊢
      exact fun x hx => h x (hperm.mem_iff.mpr hx)
    rw [hnone]
  | some x =>
    cases h' : l'.find? test with
    | none =>
      rw [List.find?_eq_none] at h'
      exact absurd (List.find?_some h) (h' x (hperm.mem_iff.mp (List.mem_of_find?_eq_some h)))
    | some y =>
      have hname := hone x (List.mem_of_find?_eq_some h) y
        (hperm.mem_iff.mpr (List.mem_of_find?_eq_some h')) (List.find?_some h)
        (List.find?_some h')
      simp [hname]

/-- The outcome the loop of `steadyFleet` returns, from the name it stops at. -/
def steadyOutcome : Option String → FleetOutcome
  | some name =>
    { phase := .pending, waitingOn := name ++ ": deployment not converged"
      requeue := 15 * second }
  | none => { phase := .ready, rolledOut := true, requeue := 30 * second }

section

variable {app : WorkerApp} {sts : StatefulSet} {appVersion : String}

/-- The loop over the samples. -/
theorem allowed_loop {states : List (String × PodState)} {res : Except Err FleetOutcome} :
    Allowed (Fixed env) (do
      let order ← ask (.rangeStates states)
      match order.val.find? (fun s => !deploymentConverged appVersion s.2) with
      | some (name, _) =>
        pure (.ok { phase := .pending
                    waitingOn := name ++ ": deployment not converged"
                    requeue := 15 * second })
      | none => pure (.ok { phase := .ready, rolledOut := true, requeue := 30 * second })) res ↔
      ∃ order : List (String × PodState), order.Perm states ∧ res = .ok (steadyOutcome
        ((order.find? fun s => !deploymentConverged appVersion s.2).map Prod.fst)) := by
  rw [allowed_bind]
  constructor
  · rintro ⟨order, -, h⟩
    refine ⟨order.val, order.property, ?_⟩
    cases hfind : order.val.find? (fun s => !deploymentConverged appVersion s.2) with
    | none =>
      rw [hfind] at h
      exact (allowed_pure.mp h).symm
    | some x =>
      rw [hfind] at h
      exact (allowed_pure.mp h).symm
  · rintro ⟨order, hperm, rfl⟩
    refine ⟨⟨order, hperm⟩, allowed_req.mpr fun hordering => ?_, ?_⟩
    · cases hordering
    · dsimp only
      cases order.find? (fun s => !deploymentConverged appVersion s.2) with
      | none => exact allowed_pure.mpr rfl
      | some x => exact allowed_pure.mpr rfl

/-- A sweep without error and without backlog is one of a pass that reaches the samples. -/
theorem Observation.reaches {sweep : Sweep} (herr : OneError env (listed env app))
    (hone : OneSample env (listed env app)) (h : Observation env app sts sweep)
    (hdrift : replicasDrifted app sts = false) (hstatus : statusConverged sts = true)
    (hclear : ¬ (sweep.err ≠ none ∨ sweep.restoring ≠ 0)) :
    ReachesSamples env app sts ∧ ∀ x ∈ sweep.states, x ∈ samples env (listed env app) := by
  simp only [not_or, ne_eq, not_not] at hclear
  unfold Observation at h
  split at h
  · rw [h] at hclear
    cases hclear.1
  · next hun =>
    obtain ⟨order, hl, rfl⟩ := h
    have hsame := sameSweep_of_one herr hone hl (List.Perm.refl _)
    rw [hsame.err, hsame.restoring, recordAll_eq] at hclear
    refine ⟨⟨hdrift, hstatus, hun, ?_, hclear.2⟩, ?_⟩
    · exact List.head?_eq_none_iff.mp hclear.1
    · exact fun x hx => (mem_states_iff hone hl).mp hx

theorem steadyFleet_agree (herr : OneError env (listed env app))
    (hone : OneSample env (listed env app))
    (hstraggler : ReachesSamples env app sts → OneStraggler env app appVersion) :
    Agree (Fixed env) Eq (steadyFleet app sts appVersion) (steadyFleet app sts appVersion) := by
  unfold steadyFleet
  split
  · exact agree_writeFleet _ _ fun _ => agree_pure rfl
  · next hdrift =>
    split
    · exact agree_pure rfl
    · next hstatus =>
      refine agree_bind (observeFleet_agree herr hone) fun sweep sweep' hsame => ?_
      obtain ⟨hsame, hobs, -⟩ := hsame
      rw [← hsame.err, ← hsame.restoring]
      split
      · exact agree_pure rfl
      · next hclear =>
        obtain ⟨hreaches, hsub⟩ := hobs.reaches herr hone (by simpa using hdrift)
          (by simpa using hstatus) hclear
        intro res res' h h'
        obtain ⟨order, hl, rfl⟩ := allowed_loop.mp h
        obtain ⟨order', hl', rfl⟩ := allowed_loop.mp h'
        have hperm := hl.trans (hsame.states.trans hl'.symm)
        rw [find?_name_of_perm hperm fun x hx y hy hx' hy' =>
          hstraggler hreaches x (hsub x (hl.mem_iff.mp hx)) y (hsub y (hl.mem_iff.mp hy))
            (by simpa using hx') (by simpa using hy')]

/-- The iteration may meet any of the pods that do not serve the version first. -/
theorem exists_first_straggler (hone : OneSample env (listed env app))
    (hreaches : ReachesSamples env app sts) {x : String × PodState}
    (hx : x ∈ samples env (listed env app)) (hconv : deploymentConverged appVersion x.2 = false) :
    Allowed (Fixed env) (steadyFleet app sts appVersion) (.ok (steadyOutcome (some x.1))) := by
  unfold steadyFleet
  rw [if_neg (by simp [hreaches.scaled]), if_neg (by simp [hreaches.converged])]
  refine allowed_bind.mpr ⟨recordAll env {} (listed env app), ?_, ?_⟩
  · rw [observeFleet_fixed]
    unfold Observation
    rw [hreaches.swept]
    exact ⟨_, .refl _, rfl⟩
  · have hclear : ¬ ((recordAll env {} (listed env app)).err ≠ none ∨
        (recordAll env {} (listed env app)).restoring ≠ 0) := by
      rw [recordAll_eq]
      simp [hreaches.complete, hreaches.idle]
    have hstate : x ∈ (recordAll env {} (listed env app)).states :=
      (mem_states_iff hone (.refl _)).mpr hx
    rw [if_neg hclear]
    refine allowed_loop.mpr ⟨x :: (recordAll env {} (listed env app)).states.erase x,
      (List.perm_cons_erase hstate).symm, ?_⟩
    simp [hconv]

theorem oneStraggler_of_agree (hone : OneSample env (listed env app))
    (h : Agree (Fixed env) Eq (steadyFleet app sts appVersion) (steadyFleet app sts appVersion))
    (hreaches : ReachesSamples env app sts) : OneStraggler env app appVersion := by
  intro x hx y hy hconv hconv'
  have heq := h _ _ (exists_first_straggler hone hreaches hx hconv)
    (exists_first_straggler hone hreaches hy hconv')
  have hwait := congrArg FleetOutcome.waitingOn (Except.ok.inj heq)
  exact (String.append_left_inj _).mp hwait

end

/-! ## §4. The status of two passes. -/

section

variable {app : WorkerApp} {outcome : FleetOutcome} {appVersion : String}
  {conditions : List Condition}

/-- What an observation renews in a status. -/
def renew (ready : Option Nat) (restoring : Int) (deployments : Option (List PodDeployment))
    (status : WorkerAppStatus) : WorkerAppStatus :=
  { status with
    fleet := { ready := ready.getD status.fleet.ready, restoring := restoring }
    deployments := deployments.getD status.deployments }

theorem podDeployment_name {x : String × PodState} {d : PodDeployment}
    (h : podDeployment x = some d) : d.name = x.1 := by
  unfold podDeployment at h
  obtain ⟨state, -, rfl⟩ := Option.map_eq_some_iff.mp h
  rfl

/-- The deployments, sorted by pod name, are the same for every iteration order. -/
theorem deployments_of_perm {states states' : List (String × PodState)}
    (hperm : states.Perm states') (hkeys : (states.map Prod.fst).Nodup) :
    (states.filterMap podDeployment).insertionSort (fun a b => a.name ≤ b.name) =
      (states'.filterMap podDeployment).insertionSort (fun a b => a.name ≤ b.name) := by
  have htotal : Std.Total (fun a b : PodDeployment => a.name ≤ b.name) :=
    ⟨fun a b => le_total a.name b.name⟩
  have htrans : IsTrans PodDeployment (fun a b => a.name ≤ b.name) :=
    ⟨fun _ _ _ => le_trans⟩
  refine List.Perm.eq_of_pairwise ?_ (List.pairwise_insertionSort _ _)
    (List.pairwise_insertionSort _ _) ((List.perm_insertionSort _ _).trans
      ((hperm.filterMap _).trans (List.perm_insertionSort _ _).symm))
  -- two deployments of one pod come from one sample
  intro a b ha hb hab hba
  obtain ⟨x, hx, hxa⟩ := List.mem_filterMap.mp ((List.perm_insertionSort _ _).mem_iff.mp ha)
  obtain ⟨y, hy, hyb⟩ := List.mem_filterMap.mp ((List.perm_insertionSort _ _).mem_iff.mp hb)
  have hname : x.1 = y.1 := by
    rw [← podDeployment_name hxa, ← podDeployment_name hyb]
    exact le_antisymm hab hba
  have hxy := List.inj_on_of_nodup_map hkeys hx (hperm.mem_iff.mpr hy) hname
  rw [← hxy] at hyb
  exact Option.some.inj (hxa.symm.trans hyb)

/-- `observedStatus`, behind its read of the StatefulSet. -/
def statusOf (app : WorkerApp) (sts : StatefulSet) (status : WorkerAppStatus) :
    P (WorkerAppStatus × Condition) := do
  let sweep ← observeFleet app sts
  match sweep.err with
  | none =>
    let order ← ask (.rangeStates sweep.states)
    pure ({ status with
      fleet := { status.fleet with restoring := int32 sweep.restoring }
      deployments := (order.val.filterMap podDeployment).insertionSort
        (fun a b => a.name ≤ b.name) },
      { type := "FleetStateReady", status := .true_, reason := "Observed" })
  | some e =>
    pure ({ status with fleet := { status.fleet with restoring := 0 } },
      { type := "FleetStateReady", status := .false_, reason := "Unavailable"
        message := e.text })

theorem statusOf_agree (herr : OneError env (listed env app))
    (hone : OneSample env (listed env app)) (sts : StatefulSet) (status : WorkerAppStatus) :
    Agree (Fixed env) Eq (statusOf app sts status) (statusOf app sts status) := by
  unfold statusOf
  refine agree_bind (observeFleet_agree herr hone) fun sweep sweep' hsame => ?_
  obtain ⟨hsame, hobs, -⟩ := hsame
  rw [← hsame.err, ← hsame.restoring]
  cases sweep.err with
  | some e => exact agree_pure rfl
  | none =>
    refine agree_bind (R := fun _ _ => True) (fun _ _ _ _ => trivial) fun order order' _ => ?_
    have hperm := order.property.trans (hsame.states.trans order'.property.symm)
    have hkeys : (order.val.map Prod.fst).Nodup :=
      (order.property.map _).nodup_iff.mpr hobs.keys
    rw [deployments_of_perm hperm hkeys]
    exact agree_pure rfl

/-- What an observation finds does not depend on the status it renews. -/
theorem allowed_statusOf {sts : StatefulSet} {status : WorkerAppStatus}
    {seen : WorkerAppStatus × Condition} (h : Allowed (Fixed env) (statusOf app sts status) seen) :
    ∃ restoring deployments, seen.1 = renew none restoring deployments status ∧
      ∀ status', Allowed (Fixed env) (statusOf app sts status')
        (renew none restoring deployments status', seen.2) := by
  unfold statusOf at h ⊢
  obtain ⟨sweep, hsweep, h⟩ := allowed_bind.mp h
  cases herr : sweep.err with
  | some e =>
    rw [herr] at h
    obtain rfl := allowed_pure.mp h
    refine ⟨0, none, rfl, fun status' => allowed_bind.mpr ⟨sweep, hsweep, ?_⟩⟩
    rw [herr]
    exact allowed_pure.mpr rfl
  | none =>
    rw [herr] at h
    obtain ⟨order, horder, h⟩ := allowed_bind.mp h
    obtain rfl := allowed_pure.mp h
    refine ⟨int32 sweep.restoring, some ((order.val.filterMap podDeployment).insertionSort
      (fun a b => a.name ≤ b.name)), rfl, fun status' => allowed_bind.mpr ⟨sweep, hsweep, ?_⟩⟩
    rw [herr]
    exact allowed_bind.mpr ⟨order, horder, allowed_pure.mpr rfl⟩

theorem observedStatus_eq (app : WorkerApp) (status : WorkerAppStatus) :
    observedStatus app status = (do
      match ← ask (.get .statefulSet (fleetName app)) with
      | .ok sts => statusOf app sts { status with fleet :=
          { status.fleet with ready := StatefulSetStatus.readyReplicas sts.sstatus } }
      | .error _ => statusOf app zeroStatefulSet status) := by
  unfold observedStatus
  refine congrArg _ (funext fun read => ?_)
  cases read <;> rfl

theorem observedStatus_agree (herr : OneError env (listed env app))
    (hone : OneSample env (listed env app)) (status : WorkerAppStatus) :
    Agree (Fixed env) Eq (observedStatus app status) (observedStatus app status) := by
  rw [observedStatus_eq]
  refine agree_bind (agree_unordered (only_ask rfl)) fun read read' hread => ?_
  subst hread
  cases read with
  | ok sts => exact statusOf_agree herr hone _ _
  | error e => exact statusOf_agree herr hone _ _

theorem allowed_observedStatus {status : WorkerAppStatus} {seen : WorkerAppStatus × Condition}
    (h : Allowed (Fixed env) (observedStatus app status) seen) :
    ∃ ready restoring deployments, seen.1 = renew ready restoring deployments status ∧
      ∀ status', Allowed (Fixed env) (observedStatus app status')
        (renew ready restoring deployments status', seen.2) := by
  rw [observedStatus_eq] at h
  obtain ⟨read, hread, h⟩ := allowed_bind.mp h
  cases read with
  | error e =>
    obtain ⟨restoring, deployments, hseen, hshift⟩ := allowed_statusOf h
    refine ⟨none, restoring, deployments, hseen, fun status' => ?_⟩
    rw [observedStatus_eq]
    exact allowed_bind.mpr ⟨_, hread, hshift status'⟩
  | ok sts =>
    obtain ⟨restoring, deployments, hseen, hshift⟩ := allowed_statusOf h
    refine ⟨some sts.sstatus.readyReplicas, restoring, deployments, hseen, fun status' => ?_⟩
    rw [observedStatus_eq]
    exact allowed_bind.mpr ⟨_, hread, hshift _⟩

/-- The status `updateStatus` computes from what it observed. -/
def nextStatus (app : WorkerApp) (outcome : FleetOutcome) (conditions : List Condition)
    (seen : WorkerAppStatus × Condition) : WorkerAppStatus :=
  { seen.1 with
    conditions := mergeConditions app.generation app.status.conditions
      (conditions ++ [seen.2] ++ summaryConditions outcome) }

theorem nextStatus_rollout {stored : WorkerAppStatus} {seen : WorkerAppStatus × Condition}
    (h : Allowed (Fixed env) (observedStatus app (outcomeStatus stored outcome appVersion)) seen) :
    (nextStatus app outcome conditions seen).rollout = ⟨outcome.partition, outcome.waitingOn⟩ := by
  obtain ⟨ready, restoring, deployments, hseen, -⟩ := allowed_observedStatus h
  unfold nextStatus
  rw [hseen]
  rfl

/-- What is observed does not depend on the stored status. -/
theorem observedStatus_stored (app : WorkerApp) (stored status : WorkerAppStatus) :
    observedStatus { app with status := stored } status = observedStatus app status := by
  have hobserve : ∀ sts, observeFleet { app with status := stored } sts = observeFleet app sts := by
    intro sts
    unfold observeFleet
    refine congrArg _ (funext fun res => ?_)
    cases res <;> rfl
  have hstatus : ∀ sts status,
      statusOf { app with status := stored } sts status = statusOf app sts status := by
    intro sts status
    unfold statusOf
    rw [hobserve]
  rw [observedStatus_eq, observedStatus_eq]
  refine congrArg _ (funext fun read => ?_)
  cases read with
  | ok sts => exact hstatus _ _
  | error e => exact hstatus _ _

/-- **A status computed twice from the same observations is the stored one.** -/
theorem nextStatus_settled (herr : OneError env (listed env app))
    (hone : OneSample env (listed env app)) {seen seen' : WorkerAppStatus × Condition}
    (h : Allowed (Fixed env) (observedStatus app (outcomeStatus app.status outcome appVersion)) seen)
    (h' : Allowed (Fixed env) (observedStatus app
      (outcomeStatus (nextStatus app outcome conditions seen) outcome appVersion)) seen') :
    nextStatus { app with status := nextStatus app outcome conditions seen } outcome conditions
      seen' = nextStatus app outcome conditions seen := by
  obtain ⟨ready, restoring, deployments, hseen, hshift⟩ := allowed_observedStatus h
  -- the first observation, made from the stored status
  have hsame := observedStatus_agree herr hone _ _ _ h' (hshift _)
  obtain ⟨status, condition⟩ := seen
  dsimp only at hseen
  subst hseen hsame
  unfold nextStatus
  dsimp only
  rw [mergeConditions_settled]
  cases ready <;> cases deployments <;> rfl

/-- `updateStatus` observes, and writes what it computed unless that is the stored status. -/
theorem updateStatus_runs {t : Trace} {res : Except Err Unit}
    (ht : Runs (updateStatus app outcome appVersion conditions) t res) :
    ∃ u seen, Runs (observedStatus app (outcomeStatus app.status outcome appVersion)) u seen ∧
      ((nextStatus app outcome conditions seen = app.status ∧ t = u ∧ res = .ok ()) ∨
        (nextStatus app outcome conditions seen ≠ app.status ∧ t = u ++
          [⟨.updateStatus { app with status := nextStatus app outcome conditions seen }, res⟩])) := by
  unfold updateStatus at ht
  obtain ⟨seen, u, t₂, rfl, hu, ht₂⟩ := runs_bind.mp ht
  refine ⟨u, seen, hu, ?_⟩
  change Runs (if nextStatus app outcome conditions seen = app.status then pure (.ok ())
    else ask (.updateStatus { app with status := nextStatus app outcome conditions seen })) t₂ res
    at ht₂
  split at ht₂
  · next heq =>
    obtain ⟨rfl, rfl⟩ := runs_ret.mp ht₂
    exact .inl ⟨heq, List.append_nil u, rfl⟩
  · next hne =>
    obtain rfl := runs_req.mp ht₂
    exact .inr ⟨hne, rfl⟩

/-- An observation writes no status. -/
theorem observedStatus_quiet {status : WorkerAppStatus} {seen : WorkerAppStatus × Condition}
    {u : Trace} (hu : Runs (observedStatus app status) u seen) (a : WorkerApp)
    (answer : Except Err Unit) : ¬ Saw u (.updateStatus a) answer := by
  intro hsaw
  cases ((Only.steps (observedStatus_reads _ _) hu).1 _ hsaw).2

/-- The writes of `updateStatus`: the status it computed, when that is not the stored one. -/
theorem updateStatus_cases {t : Trace} {res : Except Err Unit}
    (ht : Runs (updateStatus app outcome appVersion conditions) t res)
    (hfixed : ∀ e ∈ t, Fixed env e) :
    ∃ seen, Allowed (Fixed env)
        (observedStatus app (outcomeStatus app.status outcome appVersion)) seen ∧
      (∀ a answer, Saw t (.updateStatus a) answer →
        nextStatus app outcome conditions seen ≠ app.status ∧
          a = { app with status := nextStatus app outcome conditions seen }) ∧
      (nextStatus app outcome conditions seen ≠ app.status →
        ∃ answer, Saw t (.updateStatus { app with status := nextStatus app outcome conditions seen })
          answer) := by
  obtain ⟨u, seen, hu, ⟨heq, rfl, rfl⟩ | ⟨hne, rfl⟩⟩ := updateStatus_runs ht
  · refine ⟨seen, ⟨_, hu, hfixed⟩, ?_, fun hne => absurd heq hne⟩
    intro a answer hsaw
    exact absurd hsaw (observedStatus_quiet hu a answer)
  · refine ⟨seen, ⟨u, hu, fun e he => hfixed e (List.mem_append_left _ he)⟩, ?_, fun _ => ⟨res, ?_⟩⟩
    · intro a answer hsaw
      rcases List.mem_append.mp hsaw with hsaw | hsaw
      · exact absurd hsaw (observedStatus_quiet hu a answer)
      · cases List.mem_singleton.mp hsaw
        exact ⟨hne, rfl⟩
    · exact List.mem_append_right _ (List.mem_singleton_self _)

/-- The status an `updateStatus` over the fixed cluster computes: the one it writes, and the
stored one when it writes none. -/
def Computed (env : Answers) (app : WorkerApp) (outcome : FleetOutcome) (appVersion : String)
    (conditions : List Condition) (status : WorkerAppStatus) : Prop :=
  ∃ t res, Runs (updateStatus app outcome appVersion conditions) t res ∧
    (∀ e ∈ t, Fixed env e) ∧
    ((∃ answer, Saw t (.updateStatus { app with status := status }) answer) ∨
      status = app.status ∧ ∀ a answer, ¬ Saw t (.updateStatus a) answer)

theorem Computed.next {status : WorkerAppStatus}
    (h : Computed env app outcome appVersion conditions status) :
    ∃ seen, Allowed (Fixed env)
        (observedStatus app (outcomeStatus app.status outcome appVersion)) seen ∧
      status = nextStatus app outcome conditions seen := by
  obtain ⟨t, res, ht, hfixed, hwrite⟩ := h
  obtain ⟨seen, hseen, hwritten, hwrites⟩ := updateStatus_cases ht hfixed
  refine ⟨seen, hseen, ?_⟩
  rcases hwrite with ⟨answer, hsaw⟩ | ⟨hstored, hnone⟩
  · exact congrArg WorkerApp.status (hwritten _ answer hsaw).2
  · by_contra hne
    obtain ⟨answer, hsaw⟩ := hwrites fun heq => hne (hstored.trans heq.symm)
    exact hnone _ answer hsaw

theorem exists_computed (env : Answers) (app : WorkerApp) (outcome : FleetOutcome)
    (appVersion : String) (conditions : List Condition) :
    ∃ status, Computed env app outcome appVersion conditions status := by
  have hfixed : ∀ e ∈ (runAnswers env (updateStatus app outcome appVersion conditions)).1,
      Fixed env e := runAnswers_fixed fun _ _ => rfl
  obtain ⟨seen, -, hwritten, hwrites⟩ := updateStatus_cases (runAnswers_runs _ _) hfixed
  refine ⟨nextStatus app outcome conditions seen, _, _, runAnswers_runs _ _, hfixed, ?_⟩
  by_cases heq : nextStatus app outcome conditions seen = app.status
  · exact .inr ⟨heq, fun a answer hsaw => (hwritten a answer hsaw).1 heq⟩
  · exact .inl (hwrites heq)

/-- A pass with another outcome to report writes the status. -/
theorem exists_write {outcome' : FleetOutcome} {status : WorkerAppStatus}
    (h : Computed env app outcome appVersion conditions status)
    (hne : outcome.waitingOn ≠ outcome'.waitingOn) :
    ∃ t res a answer,
      Runs (updateStatus { app with status := status } outcome' appVersion conditions) t res ∧
        (∀ e ∈ t, Fixed env e) ∧ Saw t (.updateStatus a) answer := by
  obtain ⟨seen, hseen, rfl⟩ := h.next
  have hfixed : ∀ e ∈ (runAnswers env (updateStatus
      { app with status := nextStatus app outcome conditions seen } outcome' appVersion
      conditions)).1, Fixed env e := runAnswers_fixed fun _ _ => rfl
  obtain ⟨seen', hseen', -, hwrites⟩ := updateStatus_cases (runAnswers_runs _ _) hfixed
  obtain ⟨answer, hsaw⟩ := hwrites fun heq => by
    have hrollout := congrArg WorkerAppStatus.rollout heq
    rw [nextStatus_rollout hseen'] at hrollout
    have hwaiting := congrArg RolloutStatus.waitingOn (hrollout.trans (nextStatus_rollout hseen))
    exact hne hwaiting.symm
  exact ⟨_, _, _, answer, runAnswers_runs _ _, hfixed, hsaw⟩

/-- **A second pass over the unchanged cluster writes nothing.** -/
theorem second_pass_quiet (herr : OneError env (listed env app))
    (hone : OneSample env (listed env app)) {status : WorkerAppStatus}
    (h : Computed env app outcome appVersion conditions status) {t : Trace}
    {res : Except Err Unit}
    (ht : Runs (updateStatus { app with status := status } outcome appVersion conditions) t res)
    (hfixed : ∀ e ∈ t, Fixed env e) (a : WorkerApp) (answer : Except Err Unit) :
    ¬ Saw t (.updateStatus a) answer := by
  intro hsaw
  obtain ⟨seen, hseen, rfl⟩ := h.next
  obtain ⟨seen', hseen', hwritten, -⟩ := updateStatus_cases ht hfixed
  rw [observedStatus_stored] at hseen'
  exact (hwritten a answer hsaw).1 (nextStatus_settled herr hone hseen hseen')

end

/-! ## §5. Whether the order shows. -/

/-- **No order shows** in what a pass over the fixed cluster returns, computes and writes. -/
structure OrderFree (r : Reconciler) (env : Answers) (app : WorkerApp) (sts : StatefulSet)
    (appVersion : String) : Prop where
  sweep : Agree (Fixed env) SameSweep (fleetSweep (listed env app)) (fleetSweep (listed env app))
  rollout : Agree (Fixed env) Eq (rolloutStep r app sts) (rolloutStep r app sts)
  steady : Agree (Fixed env) Eq (steadyFleet app sts appVersion) (steadyFleet app sts appVersion)
  status : ∀ outcome conditions status status',
    Computed env app outcome appVersion conditions status →
    Computed env app outcome appVersion conditions status' → status = status'
  quiet : ∀ outcome conditions status, Computed env app outcome appVersion conditions status →
    ∀ t res, Runs (updateStatus { app with status := status } outcome appVersion conditions) t res →
    (∀ e ∈ t, Fixed env e) → ∀ a answer, ¬ Saw t (.updateStatus a) answer

/-- **The condition**: no choice is left to an order. -/
structure Unambiguous (env : Answers) (app : WorkerApp) (sts : StatefulSet) (appVersion : String) :
    Prop where
  errors : OneError env (listed env app)
  samples : OneSample env (listed env app)
  stragglers : ReachesSamples env app sts → OneStraggler env app appVersion

theorem orderFree_of_unambiguous (r : Reconciler) {app : WorkerApp} {sts : StatefulSet}
    {appVersion : String} (h : Unambiguous env app sts appVersion) :
    OrderFree r env app sts appVersion where
  sweep := fleetSweep_agree_iff.mpr ⟨h.errors, h.samples⟩
  rollout := rolloutStep_agree r h.errors h.samples
  steady := steadyFleet_agree h.errors h.samples h.stragglers
  status := by
    intro outcome conditions status status' hs hs'
    obtain ⟨seen, hseen, rfl⟩ := hs.next
    obtain ⟨seen', hseen', rfl⟩ := hs'.next
    rw [observedStatus_agree h.errors h.samples _ _ _ hseen hseen']
  quiet := fun _ _ _ hs _ _ ht hfixed => second_pass_quiet h.errors h.samples hs ht hfixed

/-- **Observation is order independent** exactly if no choice is left to an order: one error to
return, one sample for a name, and one pod to wait for when a steady pass looks at the samples. -/
theorem order_free_iff (r : Reconciler) (env : Answers) (app : WorkerApp) (sts : StatefulSet)
    (appVersion : String) :
    OrderFree r env app sts appVersion ↔ Unambiguous env app sts appVersion := by
  constructor
  · intro h
    obtain ⟨herr, hone⟩ := fleetSweep_agree_iff.mp h.sweep
    exact ⟨herr, hone, oneStraggler_of_agree hone h.steady⟩
  · exact orderFree_of_unambiguous r

/-! ## §6. Two pods that do not answer. -/

/-- A converged fleet of which two pods answer `/state` with 503. -/
def silentPods : Answers := fun o =>
  (answerFleet (settledFleet servingApp) (.ok ⟨threePods, threePods_length⟩)
    (fun ip => if ip = "shop-celld-2" then sampleState "1" 0 else ⟨503, 0, none⟩) () o).1

/-- The same cluster, with the polls completing in the opposite order. -/
def silentPodsReversed : Answers
  | .completionOrder pods => ⟨pods.reverse, List.reverse_perm pods⟩
  | o => silentPods o

theorem silentPodsReversed_eq (o : Op) (ho : o.ordering = false) :
    silentPodsReversed o = silentPods o := by
  cases o <;> first | rfl | cases ho

/-- The outcome of the steady pass that meets the error of this pod first. -/
def waitingFor (pod : String) : FleetOutcome where
  phase := .pending
  waitingOn := "waiting for complete fleet state: restoring=0, error=pod " ++ pod ++
    ": /state returned 503"
  requeue := 15 * second

/-- **The order shows**: nothing changes in the cluster, one pass waits for `shop-celld-0` and the
next one for `shop-celld-1`, and each writes the status again. -/
theorem order_shows :
    Allowed (Fixed silentPods) (steadyFleet servingApp (settledFleet servingApp) "1")
      (.ok (waitingFor "shop-celld-0")) ∧
    Allowed (Fixed silentPods) (steadyFleet servingApp (settledFleet servingApp) "1")
      (.ok (waitingFor "shop-celld-1")) ∧
    (∃ status, Computed silentPods servingApp (waitingFor "shop-celld-0") "1" [] status ∧
      ∃ t res a answer,
        Runs (updateStatus { servingApp with status := status } (waitingFor "shop-celld-1") "1" [])
          t res ∧ (∀ e ∈ t, Fixed silentPods e) ∧ Saw t (.updateStatus a) answer) ∧
    ¬ OrderFree sampleReconciler silentPods servingApp (settledFleet servingApp) "1" := by
  have hfixed : ∀ {α : Type} {p : P α}, ∀ e ∈ (runAnswers silentPods p).1, Fixed silentPods e :=
    runAnswers_fixed fun _ _ => rfl
  have hfixed' : ∀ {α : Type} {p : P α}, ∀ e ∈ (runAnswers silentPodsReversed p).1,
      Fixed silentPods e := runAnswers_fixed silentPodsReversed_eq
  refine ⟨?_, ?_, ?_, ?_⟩
  · have hres : (runAnswers silentPods (steadyFleet servingApp (settledFleet servingApp) "1")).2.2 =
        .ok (waitingFor "shop-celld-0") := by decide +kernel
    exact ⟨_, hres ▸ runAnswers_runs _ _, hfixed⟩
  · have hres : (runAnswers silentPodsReversed
        (steadyFleet servingApp (settledFleet servingApp) "1")).2.2 =
        .ok (waitingFor "shop-celld-1") := by decide +kernel
    exact ⟨_, hres ▸ runAnswers_runs _ _, hfixed'⟩
  · obtain ⟨status, hstatus⟩ := exists_computed silentPods servingApp
      (waitingFor "shop-celld-0") "1" []
    exact ⟨status, hstatus, exists_write hstatus (by decide)⟩
  · intro h
    have herr := (fleetSweep_agree_iff.mp h.sweep).1
    exact absurd herr (by decide +kernel)

end CelldOperator
