/-
  CelldOperator.Pass.Sweep

  **A SWEEP IN WHICH EVERY POD ANSWERS.**

    • `wrapSum_eq`      — the sum added up in 64 bits is the sum, in 64 bits,
    • `Report`          — whenever a pod is polled it reports its sample,
    • `fleetSweep_ok`   — the sweep of any list of pods that report,
    • `Whole`           — pods that pass the census of their StatefulSet,
    • `observeFleet_ok` — the observation of a whole fleet that reports.

  A sample belongs to the address it is fetched from.
-/
import CelldOperator.Pass.Census
import Mathlib.Algebra.Ring.Int.Defs

namespace CelldOperator

open Effect Prog

/-! ## §1. The sum. -/

theorem wrap64_wrap64_add (x y : Int) : wrap64 (wrap64 x + y) = wrap64 (x + y) := by
  unfold wrap64
  omega

/-- The sum added up in 64 bits is the sum, in 64 bits. -/
theorem wrapSum_eq (xs : List Int) : ∀ {start : Int}, wrap64 start = start →
    wrapSum start xs = wrap64 (start + xs.sum) := by
  induction xs with
  | nil =>
    intro start hs
    simpa [wrapSum] using hs.symm
  | cons x xs ih =>
    intro start _
    have hwrap : wrap64 (wrap64 (start + x)) = wrap64 (start + x) := by
      simpa using wrap64_wrap64_add (start + x) 0
    calc wrapSum start (x :: xs) = wrapSum (wrap64 (start + x)) xs := rfl
      _ = wrap64 (wrap64 (start + x) + xs.sum) := ih hwrap
      _ = wrap64 (start + x + xs.sum) := wrap64_wrap64_add _ _
      _ = wrap64 (start + (x :: xs).sum) := by rw [List.sum_cons, Int.add_assoc]

/-! ## §2. The polls. -/

/-- An observation lists the pods, and polls them in some order. -/
theorem observeFleet_only {Q : Op → Prop} {app : WorkerApp} {sts : StatefulSet}
    (hlist : Q (.listPods (selectorLabels app))) (horder : ∀ pods, Q (.completionOrder pods))
    (hpoll : ∀ ip, Q (.getState ip)) : Only Q (observeFleet app sts) := by
  have hpod : ∀ pod, Only Q (pollPod pod) := by
    intro pod
    unfold pollPod
    split
    · exact only_pure _ _
    · unfold fetch
      refine only_bind (only_bind (only_ask (hpoll _)) fun res => ?_) fun res => ?_
      · cases res <;> exact only_pure _ _
      · cases res <;> exact only_pure _ _
  have hall : ∀ pods sweep, Only Q (pollAll pods sweep) := by
    intro pods
    induction pods with
    | nil => exact fun _ => only_pure _ _
    | cons pod pods ih => exact fun _ => only_bind (hpod pod) fun _ => ih _
  unfold observeFleet
  refine only_bind (only_ask hlist) fun res => ?_
  cases res with
  | error e => exact only_pure _ _
  | ok pods =>
    dsimp only
    split
    · exact only_pure _ _
    · exact only_bind (only_ask (horder _)) fun _ => hall _ _

/-- The pod can be polled. -/
def Pollable (pod : Pod) : Prop := pod.podIP ≠ "" ∧ pod.phase = .running ∧ pod.deleting = false

instance (pod : Pod) : Decidable (Pollable pod) := inferInstanceAs (Decidable (_ ∧ _))

/-- Whenever one of the pods is polled, it reports what `state` says. -/
def Report (state : String → PodState) (pods : List Pod) (h : Trace) : Prop :=
  ∀ pod ∈ pods, ∀ res, Saw h (.getState pod.podIP) res →
    ∃ response, res = .ok response ∧ readState response = .ok (state pod.podIP)

section

variable {state : String → PodState} {t : Trace}

theorem Report.sub {pods pods' : List Pod} {t' : Trace} (hr : Report state pods t)
    (hp : ∀ pod ∈ pods', pod ∈ pods) (ht : ∀ e ∈ t', e ∈ t) : Report state pods' t' :=
  fun pod hpod res hs => hr pod (hp pod hpod) res (ht _ hs)

theorem pollPod_ok {pod : Pod} {res : Except Err PodState} (ha : Pollable pod)
    (hr : Report state [pod] t) (ht : Runs (pollPod pod) t res) :
    res = .ok (state pod.podIP) := by
  obtain ⟨hip, hphase, hdeleting⟩ := ha
  unfold pollPod at ht
  rw [if_neg (by simp [hip, hphase, hdeleting])] at ht
  obtain ⟨fetched, t₁, t₂, rfl, ht₁, ht₂⟩ := runs_bind.mp ht
  unfold fetch at ht₁
  obtain ⟨answer, u₁, u₂, rfl, hu₁, hu₂⟩ := runs_bind.mp ht₁
  have hasked := runs_req.mp hu₁
  subst hasked
  obtain ⟨response, rfl, hread⟩ := hr pod (List.mem_singleton_self _) answer
    (List.mem_append_left _ (List.mem_append_left _ (List.mem_singleton_self _)))
  obtain ⟨-, hfetched⟩ := runs_ret.mp hu₂
  rw [hread] at hfetched
  subst hfetched
  exact (runs_ret.mp ht₂).2.symm

/-- The samples and the sum, pod by pod. -/
theorem pollAll_ok {pods : List Pod} : ∀ {s s' : Sweep} {t : Trace},
    (∀ pod ∈ pods, Pollable pod) → Report state pods t → Runs (pollAll pods s) t s' →
    s'.err = s.err ∧
      s'.restoring = wrapSum s.restoring (pods.map fun pod => (state pod.podIP).restoring) ∧
      ∀ x ∈ s'.states, x ∈ s.states ∨ ∃ pod ∈ pods, x.2 = state pod.podIP := by
  induction pods with
  | nil =>
    intro s s' t _ _ ht
    obtain ⟨-, rfl⟩ := runs_ret.mp ht
    exact ⟨rfl, rfl, fun x hx => .inl hx⟩
  | cons pod pods ih =>
    intro s s' t ha hr ht
    unfold pollAll at ht
    obtain ⟨res, t₁, t₂, rfl, ht₁, ht₂⟩ := runs_bind.mp ht
    have hres := pollPod_ok (ha pod (List.mem_cons_self ..))
      (hr.sub (by simp) fun e he => List.mem_append_left _ he) ht₁
    subst hres
    obtain ⟨herr, hsum, hstates⟩ := ih (fun p hp => ha p (List.mem_cons_of_mem _ hp))
      (hr.sub (fun p hp => List.mem_cons_of_mem _ hp) fun e he => List.mem_append_right _ he) ht₂
    refine ⟨herr, hsum, ?_⟩
    intro x hx
    rcases hstates x hx with hx | ⟨p, hp, heq⟩
    · -- recorded by this poll, or before it
      rcases List.mem_append.mp hx with hx | hx
      · exact .inl (List.mem_of_mem_filter hx)
      · rw [List.mem_singleton.mp hx]
        exact .inr ⟨pod, List.mem_cons_self .., rfl⟩
    · exact .inr ⟨p, List.mem_cons_of_mem _ hp, heq⟩

/-! ## §3. The observation. -/

/-- **The fleet is whole**: the pods are the ordinals, ours, Ready and pollable. -/
structure Whole (sts : StatefulSet) (pods : List Pod) : Prop where
  pos : 1 ≤ stsReplicas sts
  names : (pods.map (·.name)).Perm (ordinalNames sts.metadata.name (stsReplicas sts))
  owned : ∀ pod ∈ pods, isControlledBy pod.ownerReferences sts.metadata.uid = true
  ready : ∀ pod ∈ pods, podReady pod = true
  pollable : ∀ pod ∈ pods, Pollable pod

theorem Whole.perm {sts : StatefulSet} {pods pods' : List Pod} (hw : Whole sts pods)
    (hp : pods'.Perm pods) : Whole sts pods' where
  pos := hw.pos
  names := (hp.map _).trans hw.names
  owned pod h := hw.owned pod (hp.mem_iff.mp h)
  ready pod h := hw.ready pod (hp.mem_iff.mp h)
  pollable pod h := hw.pollable pod (hp.mem_iff.mp h)

theorem Whole.census {sts : StatefulSet} {pods : PodList} (hw : Whole sts pods.val) :
    census sts pods.val = none := by
  have hlen : pods.val.length = stsReplicas sts := by
    simpa [ordinalNames] using hw.names.length_eq
  have hbound := pods.property
  have hcount : ¬ (sts.sspec.replicas.getD 0 < 1 ∨
      int32 pods.val.length ≠ (sts.sspec.replicas.getD 0 : Nat)) := by
    have hpos := hw.pos
    rw [int32_of_range (by omega) (by omega), hlen]
    unfold stsReplicas at hpos ⊢
    omega
  have howned : pods.val.find? (fun pod =>
      !isControlledBy pod.ownerReferences sts.metadata.uid || !podReady pod) = none := by
    rw [List.find?_eq_none]
    intro pod hpod
    simp [hw.owned pod hpod, hw.ready pod hpod]
  have hordinals : (List.range (sts.sspec.replicas.getD 0)).find?
      (fun i => !hasOrdinal sts.metadata.name pods.val i) = none := by
    rw [List.find?_eq_none]
    intro i hi
    have hmem : ordinalName sts.metadata.name i ∈ pods.val.map (·.name) :=
      hw.names.mem_iff.mpr (List.mem_map_of_mem hi)
    obtain ⟨pod, hpod, heq⟩ := List.mem_map.mp hmem
    have hany : hasOrdinal sts.metadata.name pods.val i = true :=
      List.any_eq_true.mpr ⟨pod, hpod, by simpa using heq⟩
    simp [hany]
  unfold CelldOperator.census
  dsimp only
  rw [if_neg hcount, howned, hordinals]

/-- The 64-bit sum of the backlogs the pods report. -/
def backlog (state : String → PodState) (pods : List Pod) : Int :=
  wrap64 (pods.map fun pod => (state pod.podIP).restoring).sum

theorem backlog_perm {pods pods' : List Pod} (hp : pods.Perm pods') :
    backlog state pods = backlog state pods' := by
  unfold backlog
  rw [(hp.map _).sum_eq]

/-- The sweep of pods that report: its sum is the backlog. -/
theorem fleetSweep_ok {l pods : List Pod} {sweep : Sweep} (hl : l.Perm pods)
    (ha : ∀ pod ∈ pods, Pollable pod) (hr : Report state pods t)
    (ht : Runs (fleetSweep l) t sweep) :
    sweep.err = none ∧ sweep.restoring = backlog state pods ∧
      ∀ x ∈ sweep.states, ∃ pod ∈ pods, x.2 = state pod.podIP := by
  unfold fleetSweep at ht
  obtain ⟨order, t₁, t₂, rfl, -, ht₂⟩ := runs_bind.mp ht
  have horder : order.val.Perm pods := order.property.trans hl
  obtain ⟨herr, hsum, hstates⟩ := pollAll_ok (fun p hp => ha p (horder.mem_iff.mp hp))
    (hr.sub (fun p hp => horder.mem_iff.mp hp) fun e he => List.mem_append_right _ he) ht₂
  refine ⟨herr, ?_, ?_⟩
  · rw [hsum, wrapSum_eq _ (by decide), Int.zero_add, ← backlog_perm horder]
    rfl
  · intro x hx
    rcases hstates x hx with hx | ⟨p, hp, heq⟩
    · cases hx
    · exact ⟨p, horder.mem_iff.mp hp, heq⟩

/-- Whenever the pods are listed, they are these. -/
def Lists (app : WorkerApp) (pods : List Pod) (h : Trace) : Prop :=
  ∀ res, Saw h (.listPods (selectorLabels app)) res →
    ∃ l : PodList, res = .ok l ∧ l.val.Perm pods

theorem Lists.sub {app : WorkerApp} {pods : List Pod} {t' : Trace} (hl : Lists app pods t)
    (ht : ∀ e ∈ t', e ∈ t) : Lists app pods t' :=
  fun res hs => hl res (ht _ hs)

/-- An observation is a census, and a sweep where that succeeds. -/
theorem observeFleet_cases {app : WorkerApp} {sts : StatefulSet} {pods : List Pod} {sweep : Sweep}
    (hlist : Lists app pods t) (ht : Runs (observeFleet app sts) t sweep) :
    ∃ l : PodList, l.val.Perm pods ∧
      ((∃ e, census sts l.val = some e ∧ sweep = { err := some e }) ∨
        census sts l.val = none ∧ ∃ u, (∀ e ∈ u, e ∈ t) ∧ Runs (fleetSweep l.val) u sweep) := by
  unfold observeFleet at ht
  obtain ⟨res, t₁, t₂, rfl, ht₁, ht₂⟩ := runs_bind.mp ht
  have hasked := runs_req.mp ht₁
  subst hasked
  obtain ⟨l, rfl, hl⟩ := hlist res (List.mem_append_left _ (List.mem_singleton_self _))
  refine ⟨l, hl, ?_⟩
  dsimp only at ht₂
  split at ht₂
  · next e he =>
    obtain ⟨-, hsweep⟩ := runs_ret.mp ht₂
    exact .inl ⟨e, he, hsweep.symm⟩
  · next hnone => exact .inr ⟨hnone, t₂, fun e he => List.mem_append_right _ he, ht₂⟩

/-- **Every pod answers**: the observation is complete, and its sum is the backlog. -/
theorem observeFleet_ok {app : WorkerApp} {sts : StatefulSet} {pods : List Pod} {sweep : Sweep}
    (hw : Whole sts pods) (hr : Report state pods t) (hlist : Lists app pods t)
    (ht : Runs (observeFleet app sts) t sweep) :
    sweep.err = none ∧ sweep.restoring = backlog state pods ∧
      ∀ x ∈ sweep.states, ∃ pod ∈ pods, x.2 = state pod.podIP := by
  obtain ⟨l, hl, ⟨e, he, -⟩ | ⟨-, u, hsub, hu⟩⟩ := observeFleet_cases hlist ht
  · cases (hw.perm hl).census.symm.trans he
  · exact fleetSweep_ok hl hw.pollable (hr.sub (fun _ hp => hp) hsub) hu

/-- The sum of an observation without error. -/
theorem observeFleet_backlog {app : WorkerApp} {sts : StatefulSet} {pods : List Pod}
    {sweep : Sweep} (ha : ∀ pod ∈ pods, Pollable pod) (hr : Report state pods t)
    (hlist : Lists app pods t) (ht : Runs (observeFleet app sts) t sweep)
    (herr : sweep.err = none) : sweep.restoring = backlog state pods := by
  obtain ⟨l, hl, ⟨e, -, rfl⟩ | ⟨-, u, hsub, hu⟩⟩ := observeFleet_cases hlist ht
  · cases herr
  · exact (fleetSweep_ok hl ha (hr.sub (fun _ hp => hp) hsub) hu).2.1

end

end CelldOperator
