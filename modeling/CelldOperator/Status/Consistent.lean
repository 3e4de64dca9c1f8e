/-
  CelldOperator.Status.Consistent

  **TWO LOOKS AT ONE FLEET.**

  A pass looks at the fleet twice.  The fleet step decides from the first sweep
  whether the version is rolled out; `updateStatus` reads the StatefulSet again,
  from the cache, and fills the deployments, the backlog and FleetStateReady from
  a second sweep.  Nothing compares the two.

    • `pollAll_complete_iff`, `observeFleet_complete_iff` — when a sweep is
      complete, told from its answers alone,
    • `consistent_iff`           — a status that names a rolled out version agrees
      with itself exactly if the second look, too, found the fleet serving it.
-/
import CelldOperator.Status.Written
import CelldOperator.Rollout.Restoring

namespace CelldOperator

open Effect Prog

/-! ## §1. A sweep, told from its answers. -/

/-- What a poll made of its answer, for the events that are polls. -/
def pollAnswer : Event Api → Option (Except Err PodState)
  | ⟨.getState _, .ok response⟩ => some (readState response)
  | ⟨.getState _, .error e⟩ => some (.error e)
  | _ => none

/-- The answers to the polls among these events, in order. -/
def pollAnswers (t : Trace) : List (Except Err PodState) := t.filterMap pollAnswer

@[simp] theorem pollAnswers_nil : pollAnswers [] = [] := rfl

@[simp] theorem pollAnswers_append (t u : Trace) :
    pollAnswers (t ++ u) = pollAnswers t ++ pollAnswers u :=
  List.filterMap_append

/-- One poll: not made, refused, or answered with a state. -/
theorem pollPod_answers {pod : Pod} {t : Trace} {res : Except Err PodState}
    (ht : Runs (pollPod pod) t res) :
    (¬ Pollable pod ∧ ∃ e, res = .error e) ∨
      (Pollable pod ∧ ∃ e e', pollAnswers t = [.error e] ∧ res = .error e') ∨
      (Pollable pod ∧ ∃ state, pollAnswers t = [.ok state] ∧ res = .ok state) := by
  unfold pollPod at ht
  split at ht
  · next hgone =>
    obtain ⟨-, rfl⟩ := runs_ret.mp ht
    refine .inl ⟨?_, _, rfl⟩
    intro hp
    rcases hgone with hip | hphase | hdel
    · exact hp.1 hip
    · exact hphase hp.2.1
    · rw [hp.2.2] at hdel
      cases hdel
  · next hthere =>
    have hp : Pollable pod := by
      push Not at hthere
      exact ⟨hthere.1, hthere.2.1, by simpa using hthere.2.2⟩
    obtain ⟨result, t₁, t₂, rfl, ht₁, ht₂⟩ := runs_bind.mp ht
    unfold fetch at ht₁
    obtain ⟨answer, u₁, u₂, rfl, hu₁, hu₂⟩ := runs_bind.mp ht₁
    obtain rfl := runs_req.mp hu₁
    cases answer with
    | error e =>
      obtain ⟨rfl, rfl⟩ := runs_ret.mp hu₂
      obtain ⟨rfl, rfl⟩ := runs_ret.mp ht₂
      exact .inr (.inl ⟨hp, e, _, rfl, rfl⟩)
    | ok response =>
      obtain ⟨rfl, rfl⟩ := runs_ret.mp hu₂
      -- the body is read before the next event, if there is one
      have hanswer : pollAnswers [⟨.getState pod.podIP, .ok response⟩] =
          [readState response] := rfl
      cases hread : readState response with
      | error e =>
        rw [hread] at ht₂ hanswer
        obtain ⟨rfl, rfl⟩ := runs_ret.mp ht₂
        exact .inr (.inl ⟨hp, e, _, by simpa using hanswer, rfl⟩)
      | ok state =>
        rw [hread] at ht₂ hanswer
        obtain ⟨rfl, rfl⟩ := runs_ret.mp ht₂
        exact .inr (.inr ⟨hp, state, by simpa using hanswer, rfl⟩)

/-- A sweep ends without an error exactly if every pod can be polled and every poll was answered
with a state. -/
theorem pollAll_complete_iff {pods : List Pod} : ∀ {s s' : Sweep} {t : Trace},
    Runs (pollAll pods s) t s' → (s'.err = none ↔ s.err = none ∧ (∀ pod ∈ pods, Pollable pod) ∧
      ∃ states : List PodState, pollAnswers t = states.map .ok) := by
  induction pods with
  | nil =>
    intro s s' t ht
    obtain ⟨rfl, rfl⟩ := runs_ret.mp ht
    simp
  | cons pod pods ih =>
    intro s s' t ht
    unfold pollAll at ht
    obtain ⟨result, t₁, t₂, rfl, ht₁, ht₂⟩ := runs_bind.mp ht
    have hrest := ih ht₂
    rcases pollPod_answers ht₁ with ⟨hgone, e, rfl⟩ | ⟨hp, e, e', hans, rfl⟩ | ⟨hp, state, hans, rfl⟩
    · have herr : (s.record pod.name (.error e)).err ≠ none := by simp [Sweep.record]
      rw [hrest]
      constructor
      · exact fun h => absurd h.1 herr
      · exact fun h => absurd (h.2.1 pod List.mem_cons_self) hgone
    · have herr : (s.record pod.name (.error e')).err ≠ none := by simp [Sweep.record]
      rw [hrest, pollAnswers_append, hans]
      constructor
      · exact fun h => absurd h.1 herr
      · rintro ⟨-, -, states, hstates⟩
        cases states <;> simp at hstates
    · rw [hrest, pollAnswers_append, hans, List.forall_mem_cons]
      show s.err = none ∧ _ ↔ _
      refine and_congr_right fun _ => ?_
      constructor
      · rintro ⟨hpods, states, hstates⟩
        exact ⟨⟨hp, hpods⟩, state :: states, by simp [hstates]⟩
      · rintro ⟨⟨-, hpods⟩, states, hstates⟩
        cases states with
        | nil => simp at hstates
        | cons first states =>
          simp only [List.map_cons, List.cons_append, List.nil_append, List.cons.injEq]
            at hstates
          exact ⟨hpods, states, hstates.2⟩

/-- What a complete sweep collects, under distinct names. -/
theorem pollAll_collects {pods : List Pod} : ∀ {s s' : Sweep} {t : Trace} {states : List PodState},
    Runs (pollAll pods s) t s' → s'.err = none → pollAnswers t = states.map .ok →
    (s.states.map Prod.fst ++ pods.map (·.name)).Nodup →
    s'.states.map Prod.snd = s.states.map Prod.snd ++ states ∧
      s'.restoring = wrapSum s.restoring (states.map (·.restoring)) := by
  induction pods with
  | nil =>
    intro s s' t states ht _ hstates _
    obtain ⟨rfl, rfl⟩ := runs_ret.mp ht
    obtain rfl : states = [] := by simpa using hstates.symm
    simp [wrapSum]
  | cons pod pods ih =>
    intro s s' t states ht herr hstates hnodup
    have hall := ((pollAll_complete_iff ht).mp herr).2.1
    unfold pollAll at ht
    obtain ⟨result, t₁, t₂, rfl, ht₁, ht₂⟩ := runs_bind.mp ht
    rw [pollAnswers_append] at hstates
    rcases pollPod_answers ht₁ with ⟨hgone, -⟩ | ⟨-, e, e', hans, -⟩ | ⟨-, state, hans, rfl⟩
    · exact absurd (hall pod List.mem_cons_self) hgone
    · rw [hans] at hstates
      cases states <;> simp at hstates
    · rw [hans] at hstates
      cases states with
      | nil => simp at hstates
      | cons first states =>
        simp only [List.map_cons, List.cons_append, List.nil_append, List.cons.injEq,
          Except.ok.injEq] at hstates
        obtain ⟨rfl, hstates⟩ := hstates
        have hnew : pod.name ∉ s.states.map Prod.fst := by
          intro hmem
          exact List.disjoint_of_nodup_append hnodup hmem (by simp)
        have hput : (s.record pod.name (.ok state)).states = s.states ++ [(pod.name, state)] :=
          putState_of_not_mem hnew state
        obtain ⟨hsnd, hsum⟩ := ih ht₂ herr hstates (by simpa [hput] using hnodup)
        rw [hsnd, hput, hsum]
        simp [wrapSum, Sweep.record]

/-- **The events of a complete observation**: a list that passes the census, of pods that can all
be polled, and a state from each of them. -/
structure CompleteLook (app : WorkerApp) (sts : StatefulSet) (t : Trace) (pods : PodList)
    (states : List PodState) : Prop where
  listed : ∃ rest, t = ⟨.listPods (selectorLabels app), .ok pods⟩ :: rest
  whole : census sts pods.val = none
  pollable : ∀ pod ∈ pods.val, Pollable pod
  answered : pollAnswers t = states.map .ok

theorem observeFleet_complete_iff {app : WorkerApp} {sts : StatefulSet} {t : Trace} {sweep : Sweep}
    (ht : Runs (observeFleet app sts) t sweep) :
    sweep.err = none ↔ ∃ pods states, CompleteLook app sts t pods states := by
  unfold observeFleet at ht
  obtain ⟨list, t₁, t₂, rfl, ht₁, ht₂⟩ := runs_bind.mp ht
  obtain rfl := runs_req.mp ht₁
  cases list with
  | error e =>
    obtain ⟨rfl, rfl⟩ := runs_ret.mp ht₂
    constructor
    · exact fun h => by cases h
    · rintro ⟨pods, states, ⟨rest, hlist⟩, -, -, -⟩
      cases hlist
  | ok pods =>
    dsimp only at ht₂
    split at ht₂
    · next e hcensus =>
      obtain ⟨rfl, rfl⟩ := runs_ret.mp ht₂
      constructor
      · exact fun h => by cases h
      · rintro ⟨pods', states, ⟨rest, hlist⟩, hwhole, -, -⟩
        cases hlist
        rw [hwhole] at hcensus
        cases hcensus
    · next hcensus =>
      unfold fleetSweep at ht₂
      obtain ⟨order, u₁, u₂, rfl, hu₁, hu₂⟩ := runs_bind.mp ht₂
      obtain rfl := runs_req.mp hu₁
      have hanswers : pollAnswers ([⟨.listPods (selectorLabels app), .ok pods⟩] ++
          ([⟨.completionOrder pods.val, order⟩] ++ u₂)) = pollAnswers u₂ := rfl
      rw [pollAll_complete_iff hu₂]
      constructor
      · rintro ⟨-, hpods, states, hstates⟩
        exact ⟨pods, states, ⟨_, rfl⟩, hcensus,
          fun pod hpod => hpods pod (order.property.mem_iff.mpr hpod),
          hanswers.trans hstates⟩
      · rintro ⟨pods', states, ⟨rest, hlist⟩, -, hpods, hstates⟩
        cases hlist
        exact ⟨rfl, fun pod hpod => hpods pod (order.property.mem_iff.mp hpod), states,
          hanswers.symm.trans hstates⟩

/-- What a complete observation found. -/
theorem observeFleet_collects {app : WorkerApp} {sts : StatefulSet} {t : Trace} {sweep : Sweep}
    {pods : PodList} {states : List PodState} (ht : Runs (observeFleet app sts) t sweep)
    (hlook : CompleteLook app sts t pods states) :
    sweep.states.map Prod.snd = states ∧
      sweep.restoring = wrapSum 0 (states.map (·.restoring)) := by
  have herr := (observeFleet_complete_iff ht).mpr ⟨pods, states, hlook⟩
  obtain ⟨⟨rest, hlist⟩, hwhole, -, hanswered⟩ := hlook
  unfold observeFleet at ht
  obtain ⟨list, t₁, t₂, rfl, ht₁, ht₂⟩ := runs_bind.mp ht
  obtain rfl := runs_req.mp ht₁
  cases hlist
  dsimp only at ht₂
  rw [hwhole] at ht₂
  obtain ⟨order, u₁, u₂, rfl, hu₁, hu₂⟩ := runs_bind.mp ht₂
  obtain rfl := runs_req.mp hu₁
  have hnames : (order.val.map (·.name)).Nodup :=
    ((order.property.map _).trans (census_names pods.property hwhole)).nodup_iff.mpr
      (ordinalNames_nodup _ _)
  simpa using pollAll_collects hu₂ herr hanswered (by simpa using hnames)

/-! ## §2. The second look. -/

/-- FleetStateReady is what the second look said. -/
theorem findStatusCondition_fleetState (generation : Nat) (stored reported : List Condition)
    (out : FleetOutcome) (err : Option Err) :
    findStatusCondition (mergeConditions generation stored
        (reported ++ [fleetStateCondition err] ++ summaryConditions out)) "FleetStateReady" =
      some { fleetStateCondition err with observedGeneration := generation } := by
  have htype : (fleetStateCondition err).type = "FleetStateReady" := by cases err <;> rfl
  unfold mergeConditions
  dsimp only
  rw [List.map_append, List.map_append, List.foldl_append, List.foldl_append]
  -- the summary conditions, set behind it, are of other types
  rw [find_foldl_of_not_mem]
  · have hset := findStatusCondition_set_self
      ((reported.map fun c => { c with observedGeneration := generation }).foldl setStatusCondition
        ((optionalConditions.filter fun type => !(reported ++ [fleetStateCondition err] ++
          summaryConditions out).any (·.type == type)).foldl removeStatusCondition stored))
      { fleetStateCondition err with observedGeneration := generation }
    rwa [htype] at hset
  · simp [summaryConditions]

/-! ## §3. Consistency. -/

/-- **A consistent status**: one deployment per expected pod, each at the version with nothing
draining or swapping, no backlog, and the condition True. -/
structure Consistent (version : String) (expected : List String) (status : WorkerAppStatus) :
    Prop where
  entries : (status.deployments.map (·.name)).Perm expected
  serving : ∀ d ∈ status.deployments, d.version = version ∧ d.draining = 0 ∧ d.swapping = 0
  warm : status.fleet.restoring = 0
  observed : ∃ c, findStatusCondition status.conditions "FleetStateReady" = some c ∧
    c.status = .true_

theorem consistent_fields {version : String} {expected : List String} {status : WorkerAppStatus} :
    ((status.deployments.map (·.name)).Perm expected ∧
      (∀ d ∈ status.deployments, d.version = version ∧ d.draining = 0 ∧ d.swapping = 0) ∧
      status.fleet.restoring = 0 ∧
      (findStatusCondition status.conditions "FleetStateReady").any
        (fun c => decide (c.status = .true_)) = true) ↔ Consistent version expected status := by
  simp only [Option.any_eq_true, decide_eq_true_eq]
  constructor
  · intro h
    exact ⟨h.1, h.2.1, h.2.2.1, h.2.2.2⟩
  · intro h
    exact ⟨h.1, h.2, h.3, h.4⟩

instance (version : String) (expected : List String) (status : WorkerAppStatus) :
    Decidable (Consistent version expected status) :=
  decidable_of_iff _ consistent_fields

/-- The pods expected by the StatefulSet the status was made from. -/
def expectedPods (read : Except Err StatefulSet) : List String :=
  ordinalNames (lookedUp read).metadata.name (stsReplicas (lookedUp read))

/-- The status shows a pod in this state as serving the version. -/
def ShownServing (version : String) (state : PodState) : Prop :=
  ∃ d, state.deployment = some d ∧ d.version = version ∧ int32 d.draining = 0 ∧ d.swapping = 0

/-- **The condition**: the second look read the StatefulSet, found all of its pods, every one of
them serving the version, and no backlog, in the 32 bits the status has for it. -/
def StillServing (app : WorkerApp) (version : String) (read : Except Err StatefulSet) (u : Trace) :
    Prop :=
  ∃ sts pods states, read = .ok sts ∧ CompleteLook app sts u pods states ∧
    (∀ state ∈ states, ShownServing version state) ∧
    (2 ^ 32 : Int) ∣ (states.map (·.restoring)).sum

section

variable {version : String} {samples : List (String × PodState)}

theorem podDeployment_serving {x : String × PodState} {d : PodDeployment}
    (h : podDeployment x = some d) :
    (d.version = version ∧ d.draining = 0 ∧ d.swapping = 0) ↔ ShownServing version x.2 := by
  unfold podDeployment at h
  obtain ⟨state, hstate, rfl⟩ := Option.map_eq_some_iff.mp h
  unfold ShownServing
  simp [hstate]

/-- The deployments are one per sample, all serving, exactly if every sample is shown so. -/
theorem deploymentList_iff {expected : List String}
    (hnames : (samples.map Prod.fst).Perm expected) :
    (((deploymentList samples).map (·.name)).Perm expected ∧
      ∀ d ∈ deploymentList samples, d.version = version ∧ d.draining = 0 ∧ d.swapping = 0) ↔
    ∀ state ∈ samples.map Prod.snd, ShownServing version state := by
  have hsort : (deploymentList samples).Perm (samples.filterMap podDeployment) :=
    List.perm_insertionSort _ _
  constructor
  · rintro ⟨hentries, hserving⟩ state hstate
    obtain ⟨x, hx, rfl⟩ := List.mem_map.mp hstate
    -- as many deployments as samples, so this one has a deployment, too
    have hlength : (samples.filterMap podDeployment).length = samples.length := by
      have h₁ := (hsort.map (·.name)).length_eq
      have h₂ := hentries.length_eq
      have h₃ := hnames.length_eq
      simp only [List.length_map] at h₁ h₂ h₃
      omega
    have hsome := List.filterMap_length_eq_length.mp hlength x hx
    obtain ⟨d, hd⟩ := Option.isSome_iff_exists.mp hsome
    have hmem : d ∈ deploymentList samples :=
      hsort.mem_iff.mpr (List.mem_filterMap.mpr ⟨x, hx, hd⟩)
    exact (podDeployment_serving hd).mp (hserving d hmem)
  · intro hserving
    have hserves : ∀ x ∈ samples, ShownServing version x.2 :=
      fun x hx => hserving x.2 (List.mem_map_of_mem hx)
    constructor
    · refine (hsort.map _).trans (List.Perm.trans (List.Perm.of_eq ?_) hnames)
      clear hnames hsort hserving
      induction samples with
      | nil => rfl
      | cons x rest ih =>
        obtain ⟨⟨d, hd, -⟩, hrest⟩ := List.forall_mem_cons.mp hserves
        have hshown : podDeployment x = some ⟨x.1, d.version, d.generation, int32 d.draining,
            d.swapping⟩ := by
          simp [podDeployment, hd]
        rw [List.filterMap_cons_some hshown, List.map_cons, List.map_cons, ih hrest]
    · intro d hd
      obtain ⟨x, hx, hxd⟩ := List.mem_filterMap.mp (hsort.mem_iff.mp hd)
      exact (podDeployment_serving hxd).mpr (hserves x hx)

end

/-- The status of an outcome, after the second look. -/
theorem consistent_iff {app : WorkerApp} {status : WorkerAppStatus}
    {seen : WorkerAppStatus × Condition} {u : Trace} (hu : Runs (observedStatus app status) u seen)
    (out : FleetOutcome) (reported : List Condition) (version : String) :
    ∃ read w, u = ⟨.get .statefulSet (fleetName app), read⟩ :: w ∧
      (∀ e ∈ w, ∀ name, e.op ≠ .get .statefulSet name) ∧
      (Consistent version (expectedPods read) (nextStatus app out reported seen) ↔
        StillServing app version read w) := by
  obtain ⟨read, w, sweep, tail, rfl, hw, hcondition, hseen⟩ := observedStatus_cases hu
  have honly : Only (fun o : Op => ∀ name, o ≠ .get .statefulSet name)
      (observeFleet app (lookedUp read)) := observeFleet_only (by simp) (by simp) (by simp)
  have hasks : ∀ e ∈ w, ∀ name, e.op ≠ .get .statefulSet name := (Only.steps honly hw).1
  have hfind : findStatusCondition (nextStatus app out reported seen).conditions "FleetStateReady" =
      some { fleetStateCondition sweep.err with observedGeneration := app.generation } := by
    unfold nextStatus
    rw [hcondition]
    exact findStatusCondition_fleetState _ _ _ _ _
  rcases hseen with ⟨e, herr, rfl, hseen⟩ | ⟨order, herr, rfl, hseen⟩
  · -- the second look failed: the condition is False, and the answers were not complete
    refine ⟨read, w ++ [], rfl, by simpa using hasks, iff_of_false ?_ ?_⟩
    · rintro ⟨-, -, -, c, hc, htrue⟩
      rw [hfind, herr] at hc
      cases hc
      cases htrue
    · rintro ⟨sts, pods, states, rfl, hlook, -, -⟩
      rw [List.append_nil] at hlook
      rw [(observeFleet_complete_iff hw).mpr ⟨pods, states, hlook⟩] at herr
      cases herr
  · refine ⟨read, _, rfl, ?_, ?_⟩
    · intro e he name
      rcases List.mem_append.mp he with he | he
      · exact hasks e he name
      · rw [List.mem_singleton.mp he]
        simp
    obtain ⟨pods, states, hlook⟩ := (observeFleet_complete_iff hw).mp herr
    obtain ⟨hstates, hsum⟩ := observeFleet_collects hw hlook
    obtain ⟨_, hobs⟩ := observeFleet_observed hw herr
    -- the read succeeded: no census is passed without a StatefulSet
    obtain ⟨sts, rfl⟩ : ∃ sts, read = .ok sts := by
      cases read with
      | ok sts => exact ⟨sts, rfl⟩
      | error e =>
        have hnone : stsReplicas (lookedUp (.error e)) = 0 := rfl
        have hpos := hobs.pos
        omega
    have hnames : (order.val.map Prod.fst).Perm (expectedPods (.ok sts)) :=
      (order.property.map _).trans hobs.samples
    have hserving : (∀ state ∈ order.val.map Prod.snd, ShownServing version state) ↔
        ∀ state ∈ states, ShownServing version state := by
      rw [← hstates]
      exact forall_congr' fun state => by rw [(order.property.map Prod.snd).mem_iff]
    have hwarm : int32 sweep.restoring = 0 ↔ (2 ^ 32 : Int) ∣ (states.map (·.restoring)).sum := by
      rw [hsum, wrapSum_eq _ rfl, int32_wrap64_eq_zero_iff, Int.zero_add]
    constructor
    · rintro ⟨hentries, hserves, hrestoring, -⟩
      unfold nextStatus at hentries hserves hrestoring
      rw [hseen] at hentries hserves hrestoring
      refine ⟨sts, pods, states, rfl, ?_, ?_, hwarm.mp hrestoring⟩
      · exact ⟨⟨_, congrArg (· ++ _) hlook.listed.choose_spec⟩, hlook.whole, hlook.pollable,
          by rw [pollAnswers_append, hlook.answered]; exact List.append_nil _⟩
      · exact hserving.mp ((deploymentList_iff hnames).mp ⟨hentries, hserves⟩)
    · rintro ⟨sts', pods', states', hread, ⟨⟨rest, hlist⟩, -, -, hanswered⟩, hserves, hzero⟩
      have hsame : states' = states := by
        rw [pollAnswers_append, hlook.answered] at hanswered
        have := hanswered.symm.trans (List.append_nil _)
        exact (List.map_inj_right fun _ _ h => Except.ok.inj h).mp this
      subst hsame
      obtain ⟨hentries, hall⟩ := (deploymentList_iff hnames).mpr (hserving.mpr hserves)
      refine ⟨?_, ?_, ?_, ⟨_, hfind, by rw [herr]; rfl⟩⟩
      · unfold nextStatus
        rw [hseen]
        exact hentries
      · unfold nextStatus
        rw [hseen]
        exact hall
      · unfold nextStatus
        rw [hseen]
        exact hwarm.mpr hzero

/-! ## §4. The passes. -/

/-- **A status that names a rolled out version is consistent with itself exactly if the second
look still found the fleet serving that version.**  The cached read is the last one of the
StatefulSet before the write. -/
theorem status_consistent_iff (r : Reconciler) (key : NamespacedName) (app : WorkerApp) (t : Trace)
    (res : Except Err Result) (ht : Runs (reconcileApp r key app) t res) (a : WorkerApp)
    (answer : Except Err Unit) (hsent : Saw t (.updateStatus a) answer)
    (hrolled : a.status.rolledOutAppVersion ≠ "") :
    ∃ pre read u,
      t = pre ++ ⟨.get .statefulSet (fleetName app), read⟩ :: u ++ [⟨.updateStatus a, answer⟩] ∧
      (∀ e ∈ u, ∀ name, e.op ≠ .get .statefulSet name) ∧
      (Consistent a.status.rolledOutAppVersion (expectedPods read) a.status ↔
        StillServing app a.status.rolledOutAppVersion read u) := by
  rcases reconcileApp_reported ht hsent with ⟨text, -, hinvalid⟩ | ⟨-, hsent⟩
  · -- a refused spec names no version
    rw [hinvalid] at hrolled
    exact absurd rfl hrolled
  · cases hsent with
    | @intro t₀ t₁ t₂ u₁ u₂ u₃ v foundation resolved out ingress policy scaler seen founded
        versioned driven routed guarded scaled observed hstatus =>
    obtain ⟨read, w, rfl, hlast, hiff⟩ := consistent_iff observed out
      (passConditions foundation resolved ++ (ingress.2 ++ policy.2 ++ scaler.2))
      a.status.rolledOutAppVersion
    refine ⟨t₀ ++ t₁ ++ t₂ ++ u₁ ++ u₂ ++ u₃, read, w, by simp, hlast, ?_⟩
    rwa [← hstatus] at hiff

/-- If the event reads the StatefulSet from the cache, it expects these pods. -/
def expects (expected : List String) : Event Api → Bool
  | ⟨.get .statefulSet _, read⟩ => decide (expectedPods read = expected)
  | _ => true

/-- A pass over a converged fleet of three: its status is consistent, for the second look found
what the first one had. -/
theorem status_consistent_iff_steadyPass :
    ∃ a read u, Saw steadyPass.1 (.updateStatus a) (.ok ()) ∧
      a.status.rolledOutAppVersion = "1" ∧
      Consistent "1" ["shop-celld-0", "shop-celld-1", "shop-celld-2"] a.status ∧
      StillServing servingApp "1" read u := by
  have hwritten : (writtenStatus steadyPass.1).any (fun a =>
      decide (a.status.rolledOutAppVersion = "1") &&
      decide (Consistent "1" ["shop-celld-0", "shop-celld-1", "shop-celld-2"] a.status)) = true := by
    decide +kernel
  have hexpects : steadyPass.1.all
      (expects ["shop-celld-0", "shop-celld-1", "shop-celld-2"]) = true := by decide +kernel
  obtain ⟨a, ha, htest⟩ := (Option.any_eq_true _ _).mp hwritten
  simp only [Bool.and_eq_true, decide_eq_true_eq] at htest
  obtain ⟨hrolled, hconsistent⟩ := htest
  have hsent := saw_writtenStatus ha
  have hruns : Runs (reconcileApp sampleReconciler ⟨"prod", "shop"⟩ servingApp)
      steadyPass.1 steadyPass.2.2 := runs_runWith steadyPass rfl
  obtain ⟨pre, read, u, hparts, -, hiff⟩ := status_consistent_iff sampleReconciler ⟨"prod", "shop"⟩
    servingApp _ _ hruns a (.ok ()) hsent (by rw [hrolled]; decide)
  have hread : expectedPods read = ["shop-celld-0", "shop-celld-1", "shop-celld-2"] := by
    have hmem : (⟨.get .statefulSet (fleetName servingApp), read⟩ : Event Api) ∈ steadyPass.1 := by
      rw [hparts]
      simp
    exact of_decide_eq_true (List.all_eq_true.mp hexpects _ hmem)
  rw [hrolled, hread] at hiff
  exact ⟨a, read, u, hsent, hrolled, hconsistent, hiff.mp hconsistent⟩

/-- A converged fleet whose pods stop answering once the status reads the StatefulSet. -/
def fallsSilent (s : Cluster × Bool) (o : Op) : Resp o × (Cluster × Bool) :=
  match o with
  | .get .statefulSet n => ((answer {} s.1 (.get .statefulSet n)).1, (s.1, true))
  | .getState _ => (if s.2 then .error (.other "timeout") else .ok (sampleState "1" 0), s)
  | o => ((answer {} s.1 o).1, ((answer {} s.1 o).2, s.2))

/-- A pass over it. -/
def silencedPass : List (Event Api) × (Cluster × Bool) × Except Err Result :=
  runWith fallsSilent (reconcileApp sampleReconciler ⟨"prod", "shop"⟩ servingApp)
    (settledCluster servingApp true "True", false)

/-- **A status that contradicts itself**: the version is rolled out to every pod, no deployment is
listed, and the fleet state is unavailable. -/
theorem rolled_out_unseen :
    Runs (reconcileApp sampleReconciler ⟨"prod", "shop"⟩ servingApp) silencedPass.1
        silencedPass.2.2 ∧
      ∃ a, Saw silencedPass.1 (.updateStatus a) (.ok ()) ∧
        a.status.rolledOutAppVersion = "1" ∧ a.status.phase = .ready ∧
        a.status.deployments = [] ∧
        (∃ c, findStatusCondition a.status.conditions "FleetStateReady" = some c ∧
          c.status = .false_) ∧
        ∀ expected, ¬ Consistent "1" expected a.status := by
  have hwritten : (writtenStatus silencedPass.1).any (fun a =>
      decide (a.status.rolledOutAppVersion = "1" ∧ a.status.phase = .ready ∧
        a.status.deployments = []) &&
      (findStatusCondition a.status.conditions "FleetStateReady").any
        (fun c => decide (c.status = .false_))) = true := by decide +kernel
  refine ⟨runs_runWith silencedPass rfl, ?_⟩
  obtain ⟨a, ha, htest⟩ := (Option.any_eq_true _ _).mp hwritten
  simp only [Bool.and_eq_true, decide_eq_true_eq] at htest
  obtain ⟨⟨hrolled, hphase, hdeployments⟩, hfalse⟩ := htest
  obtain ⟨c, hc, hstatus⟩ := (Option.any_eq_true _ _).mp hfalse
  have hstatus := of_decide_eq_true hstatus
  refine ⟨a, saw_writtenStatus ha, hrolled, hphase, hdeployments, ⟨c, hc, hstatus⟩, ?_⟩
  rintro expected ⟨-, -, -, c', hc', htrue⟩
  cases hc.symm.trans hc'
  rw [hstatus] at htrue
  cases htrue

end CelldOperator
