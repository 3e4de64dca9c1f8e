/-
  CelldOperator.Pass.Census

  **WHAT A COMPLETE OBSERVATION OF A FLEET MEANS.**

  When `observeFleet` returns without an error, the pods it listed are exactly
  the ordinals `0 … N-1` of the StatefulSet, each owned and Ready, and each one
  answered `/state` with a sample the decoder accepts.  The count, the ownership
  test and the ordinal test are three independent loops in the source; that
  together they leave no room for a duplicate or a surplus pod is a pigeonhole
  argument (`census_names`).
-/
import CelldOperator.Pass.FleetSpec

namespace CelldOperator

open Effect Prog

/-! ## §1. The census. -/

theorem ordinalName_injective (name : String) : Function.Injective (ordinalName name) := by
  intro i j h
  unfold ordinalName at h
  exact decimal_injective (String.append_right_inj _ |>.mp h)

/-- The names of the pods a StatefulSet of this size has. -/
def ordinalNames (name : String) (replicas : Nat) : List String :=
  (List.range replicas).map (ordinalName name)

theorem ordinalNames_nodup (name : String) (replicas : Nat) :
    (ordinalNames name replicas).Nodup :=
  List.Nodup.map (ordinalName_injective name) List.nodup_range

/-- The three checks, one by one. -/
theorem census_none {sts : StatefulSet} {pods : List Pod} (h : census sts pods = none) :
    1 ≤ stsReplicas sts ∧ int32 pods.length = stsReplicas sts ∧
      (∀ pod ∈ pods, isControlledBy pod.ownerReferences sts.metadata.uid = true ∧
        podReady pod = true) ∧
      ∀ i < stsReplicas sts, hasOrdinal sts.metadata.name pods i = true := by
  unfold census at h
  dsimp only at h
  split at h
  · cases h
  · next hcount =>
    push Not at hcount
    split at h
    · cases h
    · next howned =>
      split at h
      · cases h
      · next hords =>
        refine ⟨by unfold stsReplicas; omega, hcount.2, ?_, ?_⟩
        · intro pod hpod
          have := List.find?_eq_none.mp howned pod hpod
          simpa using this
        · intro i hi
          have := List.find?_eq_none.mp hords i (List.mem_range.mpr hi)
          simpa using this

/-- **Pigeonhole.**  As many pods as ordinals, and every ordinal's name among them: the names
are the ordinals' names, each once. -/
theorem census_names {sts : StatefulSet} {pods : List Pod} (hlen : pods.length < 2 ^ 31)
    (h : census sts pods = none) :
    (pods.map (·.name)).Perm (ordinalNames sts.metadata.name (stsReplicas sts)) := by
  obtain ⟨-, hcount, -, hords⟩ := census_none h
  have hcount' : pods.length = stsReplicas sts := by
    rw [int32_of_range (by omega) (by omega)] at hcount
    exact_mod_cast hcount
  have hsub : ordinalNames sts.metadata.name (stsReplicas sts) ⊆ pods.map (·.name) := by
    intro n hn
    obtain ⟨i, hi, rfl⟩ := List.mem_map.mp hn
    have hi' := hords i (List.mem_range.mp hi)
    obtain ⟨pod, hpod, heq⟩ := List.any_eq_true.mp hi'
    exact List.mem_map.mpr ⟨pod, hpod, by simpa using heq⟩
  have hperm := (List.subperm_of_subset (ordinalNames_nodup _ _) hsub).perm_of_length_le
    (by simp [ordinalNames, hcount'])
  exact hperm.symm

/-! ## §2. The sweep. -/

/-- The 64-bit sum of a list, added from the left. -/
def wrapSum (start : Int) (xs : List Int) : Int := xs.foldl (fun s x => wrap64 (s + x)) start

/-- The pod was polled and answered with the sample. -/
def Answered (h : Trace) (pod : Pod) (sample : String × PodState) : Prop :=
  sample.1 = pod.name ∧ ∃ response, Saw h (.getState pod.podIP) (.ok response) ∧
    readState response = .ok sample.2

theorem Answered.append {h : Trace} {pod : Pod} {sample : String × PodState}
    (ha : Answered h pod sample) (t : Trace) : Answered (h ++ t) pod sample := by
  obtain ⟨hname, response, hsaw, hread⟩ := ha
  exact ⟨hname, response, hsaw.append t, hread⟩

theorem putState_of_not_mem {states : List (String × PodState)} {name : String}
    (h : name ∉ states.map Prod.fst) (state : PodState) :
    putState states name state = states ++ [(name, state)] := by
  unfold putState
  rw [List.filter_eq_self.mpr]
  intro s hs
  have : s.1 ≠ name := fun heq => h (heq ▸ List.mem_map_of_mem hs)
  simpa using this

/-- A poll that succeeds was answered. -/
theorem pollPod_valid (pod : Pod) (h : Trace) :
    Valid (fun _ _ => True) h (pollPod pod) (fun h' res => (∃ t, h' = h ++ t) ∧
      ∀ state, res = .ok state → Answered h' pod (pod.name, state)) := by
  unfold pollPod
  split
  · exact valid_exit ⟨⟨[], by simp⟩, by simp⟩
  · unfold fetch
    rw [valid_bind, valid_bind]
    refine valid_ask fun response => ⟨trivial, ?_⟩
    cases response with
    | error e => exact valid_exit (valid_exit ⟨⟨_, rfl⟩, by simp⟩)
    | ok response =>
      refine valid_exit ?_
      cases hread : readState response with
      | error e => exact valid_exit ⟨⟨_, rfl⟩, by simp⟩
      | ok state =>
        refine valid_exit ⟨⟨_, rfl⟩, ?_⟩
        intro state' heq
        cases heq
        exact ⟨rfl, response, saw_last _ _ _, hread⟩

/-- A sweep that ends without an error: every pod was answered, and under distinct names the
samples stand in the order of completion. -/
theorem pollAll_valid (pods : List Pod) : ∀ (s : Sweep) (h : Trace),
    Valid (fun _ _ => True) h (pollAll pods s) (fun h' s' => (∃ t, h' = h ++ t) ∧
      (s'.err = none → s.err = none ∧ ∃ samples, List.Forall₂ (Answered h') pods samples ∧
        ((s.states.map Prod.fst ++ pods.map (·.name)).Nodup → s'.states = s.states ++ samples) ∧
        s'.restoring = wrapSum s.restoring (samples.map (·.2.restoring)))) := by
  induction pods with
  | nil =>
    intro s h
    exact valid_exit ⟨⟨[], by simp⟩, fun herr => ⟨herr, [], .nil, by simp, rfl⟩⟩
  | cons pod pods ih =>
    intro s h
    unfold pollAll
    rw [valid_bind]
    refine (pollPod_valid pod h).post ?_
    rintro h₁ res ⟨⟨t₁, rfl⟩, hans⟩
    refine (ih _ _).post ?_
    rintro h₂ s' ⟨⟨t₂, rfl⟩, hrest⟩
    refine ⟨⟨t₁ ++ t₂, List.append_assoc _ _ _⟩, ?_⟩
    intro herr
    obtain ⟨herr₁, samples, hall, hstates, hsum⟩ := hrest herr
    cases res with
    | error e =>
      -- A recorded error is never forgotten.
      cases hs : s.err <;> simp [Sweep.record, hs] at herr₁
    | ok state =>
      refine ⟨herr₁, (pod.name, state) :: samples, .cons ((hans state rfl).append t₂) hall, ?_,
        hsum⟩
      intro hnodup
      rw [List.map_cons] at hnodup
      have hnotin : pod.name ∉ s.states.map Prod.fst := by
        intro hmem
        exact (List.disjoint_of_nodup_append hnodup) hmem List.mem_cons_self
      have hput : (s.record pod.name (.ok state)).states = s.states ++ [(pod.name, state)] :=
        putState_of_not_mem hnotin state
      rw [hstates, hput, List.append_assoc]
      · rfl
      · rw [hput, List.map_append, List.append_assoc]
        exact hnodup

/-! ## §3. The observation. -/

/-- **A complete observation.** -/
structure Observed (app : WorkerApp) (sts : StatefulSet) (h : Trace) (sweep : Sweep)
    (pods : PodList) : Prop where
  listed : Saw h (.listPods (selectorLabels app)) (.ok pods)
  pos : 1 ≤ stsReplicas sts
  names : (pods.val.map (·.name)).Perm (ordinalNames sts.metadata.name (stsReplicas sts))
  owned : ∀ pod ∈ pods.val, isControlledBy pod.ownerReferences sts.metadata.uid = true
  ready : ∀ pod ∈ pods.val, podReady pod = true
  answered : ∀ pod ∈ pods.val, ∃ sample ∈ sweep.states, Answered h pod sample
  samples : (sweep.states.map Prod.fst).Perm (ordinalNames sts.metadata.name (stsReplicas sts))
  sum : sweep.restoring = wrapSum 0 (sweep.states.map (·.2.restoring))

theorem Observed.append_left {app : WorkerApp} {sts : StatefulSet} {t : Trace} {sweep : Sweep}
    {pods : PodList} (ho : Observed app sts t sweep pods) (pre : Trace) (post : Trace) :
    Observed app sts (pre ++ t ++ post) sweep pods := by
  refine { ho with listed := (ho.listed.append_left pre).append post, answered := ?_ }
  intro pod hpod
  obtain ⟨sample, hmem, hname, response, hsaw, hread⟩ := ho.answered pod hpod
  exact ⟨sample, hmem, hname, response, (hsaw.append_left pre).append post, hread⟩

theorem forall₂_fst {h : Trace} {pods : List Pod} {samples : List (String × PodState)}
    (hall : List.Forall₂ (Answered h) pods samples) :
    samples.map Prod.fst = pods.map (·.name) := by
  induction hall with
  | nil => rfl
  | cons hans _ ih => rw [List.map_cons, List.map_cons, ih, hans.1]

theorem forall₂_exists {h : Trace} {pods : List Pod} {samples : List (String × PodState)}
    (hall : List.Forall₂ (Answered h) pods samples) {pod : Pod} (hpod : pod ∈ pods) :
    ∃ sample ∈ samples, Answered h pod sample := by
  induction hall with
  | nil => cases hpod
  | cons hans _ ih =>
    rcases List.mem_cons.mp hpod with rfl | hmem
    · exact ⟨_, List.mem_cons_self, hans⟩
    · obtain ⟨sample, hs, ha⟩ := ih hmem
      exact ⟨sample, List.mem_cons_of_mem _ hs, ha⟩

/-- An observation without error is complete. -/
theorem observeFleet_observed {app : WorkerApp} {sts : StatefulSet} {t : Trace} {sweep : Sweep}
    (ht : Runs (observeFleet app sts) t sweep) (herr : sweep.err = none) :
    ∃ pods, Observed app sts t sweep pods := by
  have hv : Valid (fun _ _ => True) [] (observeFleet app sts) (fun h sweep =>
      sweep.err = none → ∃ pods, Observed app sts h sweep pods) := by
    unfold observeFleet
    rw [valid_bind]
    refine valid_ask fun res => ⟨trivial, ?_⟩
    cases res with
    | error e => exact valid_exit (by simp)
    | ok pods =>
      dsimp only
      split
      · exact valid_exit (by simp)
      · next hcensus =>
        unfold fleetSweep
        rw [valid_bind]
        refine valid_ask fun order => ⟨trivial, ?_⟩
        refine (pollAll_valid order.val {} _).post ?_
        rintro h' s ⟨⟨u, rfl⟩, hdone⟩ hs
        obtain ⟨-, samples, hall, hstates, hsum⟩ := hdone hs
        have hnames := census_names pods.property hcensus
        have horder : (order.val.map (·.name)).Perm
            (ordinalNames sts.metadata.name (stsReplicas sts)) :=
          (order.property.map _).trans hnames
        have hnodup : (order.val.map (·.name)).Nodup :=
          horder.nodup_iff.mpr (ordinalNames_nodup _ _)
        have hstates : s.states = samples := by simpa using hstates (by simpa using hnodup)
        obtain ⟨hpos, -, howned, -⟩ := census_none hcensus
        refine ⟨pods, ⟨?_, hpos, hnames, fun p hp => (howned p hp).1,
          fun p hp => (howned p hp).2, ?_, ?_, ?_⟩⟩
        · exact ((saw_last [] _ _).append _).append u
        · intro pod hpod
          rw [hstates]
          exact forall₂_exists hall (order.property.mem_iff.mpr hpod)
        · rw [hstates, forall₂_fst hall]
          exact horder
        · rw [hstates]
          exact hsum
  exact valid_runs hv ht herr

end CelldOperator
