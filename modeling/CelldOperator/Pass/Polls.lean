/-
  CelldOperator.Pass.Polls

  **THE GOROUTINES OF A SWEEP.**

  `FleetSweep` polls its pods in an errgroup of at most 16 goroutines.  `mu` guards
  the samples and their sum, the group's `errOnce` its error; both statements under
  `mu` are separate steps here.  `fleetSweep` is the sequential reading of it that the
  rest of the development uses: the polls in the order they complete.

    • `fleetSweep_schedules` — the two come to the same: a schedule of the goroutines
      is a run of `fleetSweep` over an order in which no pod is 16 places early, and
      every such run is the outcome of a schedule,
    • `completable_of_small` — for up to 16 pods these are all orders,
    • `fleetSweep_bounded`   — never more than 16 goroutines, no deadlock, and `Wait`
      returns under every schedule.
-/
import CelldOperator.Cluster.Server
import CelldOperator.Effect.Schedule

namespace CelldOperator

open Effect Prog

/-! ## §1. The group. -/

/-- What serialises the goroutines of a sweep. -/
inductive SweepLock where
  | mu
  | errOnce
  deriving DecidableEq

/-- What is shared under it: the samples and the backlog sum; the first error. -/
@[reducible] def SweepVar : SweepLock → Type
  | .mu => List (String × PodState) × Int
  | .errOnce => Option Err

/-- A sample is recorded under `mu`, an error by `errOnce.Do`. -/
def sweepLock : Except Err PodState → SweepLock
  | .ok _ => .mu
  | .error _ => .errOnce

/-- The statements between `mu.Lock` and `mu.Unlock`; the body of `errOnce.Do`. -/
def sweepWrites (pod : Pod) :
    (res : Except Err PodState) → List (SweepVar (sweepLock res) → SweepVar (sweepLock res))
  | .ok state =>
    [fun shared => (putState shared.1 pod.name state, shared.2),
      fun shared => (shared.1, wrap64 (shared.2 + state.restoring))]
  | .error e => [fun err => err.or (some e)]

/-- The goroutines `FleetSweep` starts. -/
def sweepGroup (pods : List Pod) :
    Group Api pods.length (Except Err PodState) SweepLock SweepVar where
  limit := 16
  body i := pollPod (pods.get i)
  lock := sweepLock
  writes i := sweepWrites (pods.get i)

/-- The variables before the first goroutine. -/
def sweepVars : (l : SweepLock) → SweepVar l
  | .mu => ([], 0)
  | .errOnce => none

/-- What `FleetSweep` returns of them. -/
def sweepOf (vars : (l : SweepLock) → SweepVar l) : Sweep :=
  ⟨(vars .mu).1, (vars .mu).2, vars .errOnce⟩

/-- The sweep starts, and all its goroutines are at work until they are done. -/
abbrev SweepRun (pods : List Pod) (t : List (Fin pods.length × Event Api))
    (s : (sweepGroup pods).State) : Prop :=
  Group.Run (sweepGroup pods) ((sweepGroup pods).init sweepVars) t s

/-! ## §2. The sequential reading. -/

section

variable {pods : List Pod}

/-- A section records the result. -/
theorem sweepOf_apply (i : Fin pods.length) (res : Except Err PodState)
    (vars : (l : SweepLock) → SweepVar l) :
    sweepOf ((sweepGroup pods).apply (i, res) vars) =
      (sweepOf vars).record (pods.get i).name res := by
  cases res with
  | ok state => rfl
  | error e => rfl

/-- The goroutines one after the other are the polls in that order. -/
theorem runs_pollAll_iff {is : List (Fin pods.length)} :
    ∀ {vars : (l : SweepLock) → SweepVar l} {u : Trace} {sweep : Sweep},
      Runs (pollAll (is.map pods.get) (sweepOf vars)) u sweep ↔
        ∃ vars', Runs ((sweepGroup pods).inOrder is vars) u vars' ∧ sweepOf vars' = sweep := by
  induction is with
  | nil =>
    intro vars u sweep
    constructor
    · intro h
      obtain ⟨rfl, rfl⟩ := runs_ret.mp h
      exact ⟨vars, runs_ret.mpr ⟨rfl, rfl⟩, rfl⟩
    · rintro ⟨vars', h, rfl⟩
      obtain ⟨rfl, rfl⟩ := runs_ret.mp h
      exact runs_ret.mpr ⟨rfl, rfl⟩
  | cons i is ih =>
    intro vars u sweep
    rw [List.map_cons, pollAll, Group.inOrder]
    constructor
    · intro h
      obtain ⟨res, t, u', rfl, hpoll, hrest⟩ := runs_bind.mp h
      rw [← sweepOf_apply] at hrest
      obtain ⟨vars', hrun, hsweep⟩ := ih.mp hrest
      exact ⟨vars', runs_bind.mpr ⟨res, t, u', rfl, hpoll, hrun⟩, hsweep⟩
    · rintro ⟨vars', h, hsweep⟩
      obtain ⟨res, t, u', rfl, hpoll, hrun⟩ := runs_bind.mp h
      have hrest := ih.mpr ⟨vars', hrun, hsweep⟩
      rw [sweepOf_apply] at hrest
      exact runs_bind.mpr ⟨res, t, u', rfl, hpoll, hrest⟩

end

/-- The pods can complete in this order: none is 16 or more places ahead of its place in the
list, which is the order they are started in. -/
def Completable (pods order : List Pod) : Prop :=
  ∃ is : List (Fin pods.length), is.Perm (List.finRange pods.length) ∧ order = is.map pods.get ∧
    ∀ pre i post, is = pre ++ i :: post → i.val < pre.length + 16

theorem Completable.perm {pods order : List Pod} (h : Completable pods order) : order.Perm pods := by
  obtain ⟨is, hperm, rfl, -⟩ := h
  have hmap := hperm.map pods.get
  rwa [List.map_get_finRange] at hmap

/-- **A fleet of up to 16 pods can complete in every order.** -/
theorem completable_of_small {pods order : List Pod} (hsmall : pods.length ≤ 16)
    (hperm : order.Perm pods) : Completable pods order := by
  -- the places of the pods are permuted with them
  have hget : List.Forall₂ (fun pod i => pod = pods.get i) pods (List.finRange pods.length) := by
    have hsame := List.forall₂_map_left_iff (f := pods.get)
      (R := fun (pod : Pod) (i : Fin pods.length) => pod = pods.get i)
      (l := List.finRange pods.length) (u := List.finRange pods.length)
    rw [List.map_get_finRange] at hsame
    exact hsame.mpr (List.forall₂_same.mpr fun i _ => rfl)
  obtain ⟨is, his, hisperm⟩ := List.perm_comp_forall₂ hperm hget
  refine ⟨is, hisperm, ?_, fun pre i post _ => ?_⟩
  · rw [← List.forall₂_eq_eq_eq, List.forall₂_map_right_iff]
    exact his
  · have hi := i.isLt
    omega

/-! ## §3. The sweep and its goroutines. -/

/-- **The sequential model of a sweep is exact.** -/
theorem fleetSweep_schedules (pods : List Pod) :
    (∀ t s, SweepRun pods t s → s.Finished →
      ∃ (order : List Pod) (hperm : order.Perm pods) (u : Trace), Completable pods order ∧
        u.Perm (events t) ∧
        Runs (fleetSweep pods) (⟨.completionOrder pods, ⟨order, hperm⟩⟩ :: u) (sweepOf s.vars)) ∧
    (∀ (order : List Pod) (hperm : order.Perm pods) (u : Trace) (sweep : Sweep),
      Completable pods order →
      Runs (fleetSweep pods) (⟨.completionOrder pods, ⟨order, hperm⟩⟩ :: u) sweep →
      ∃ t s, SweepRun pods t s ∧ s.Finished ∧ events t = u ∧ sweepOf s.vars = sweep) := by
  constructor
  · intro t s hrun hdone
    obtain ⟨is, u, hperm, hbound, hu, hseq⟩ := hrun.linearizes hdone
    have hcomplete : Completable pods (is.map pods.get) := ⟨is, hperm, rfl, hbound⟩
    refine ⟨_, hcomplete.perm, u, hcomplete, hu, ?_⟩
    exact runs_bind.mpr ⟨_, [_], u, rfl, runs_req.mpr rfl, runs_pollAll_iff.mpr ⟨s.vars, hseq, rfl⟩⟩
  · rintro _ hperm u sweep ⟨is, his, rfl, hbound⟩ hrun
    obtain ⟨order, t₁, t₂, hsplit, hasked, hpolls⟩ := runs_bind.mp hrun
    rw [runs_req.mp hasked, List.singleton_append] at hsplit
    cases hsplit
    have hiff : Runs (pollAll (is.map pods.get) (sweepOf sweepVars)) u sweep ↔ _ :=
      runs_pollAll_iff
    obtain ⟨vars, hseq, rfl⟩ := hiff.mp hpolls
    obtain ⟨results, evs, hfst, hruns, rfl, rfl⟩ :=
      Group.of_runs_inOrder (his.nodup_iff.mpr (List.nodup_finRange _)) hseq
    subst hfst
    obtain ⟨t, s, hs, hdone, hevents, hvars⟩ := Group.exists_run evs hruns his hbound
    exact ⟨t, s, hs, hdone, hevents, by rw [hvars]⟩

/-- A pod without an address. -/
def lostPod (name : String) : Pod := { samplePod name "" "" { containers := [] } with podIP := "" }

/-- Of two pods without an address the second may be the one that is reported. -/
theorem fleetSweep_schedules_two :
    ∃ t s, SweepRun [lostPod "shop-0", lostPod "shop-1"] t s ∧ s.Finished ∧ events t = [] ∧
      (sweepOf s.vars).err = some (.other "pod shop-1 is unavailable") := by
  have hperm : [lostPod "shop-1", lostPod "shop-0"].Perm [lostPod "shop-0", lostPod "shop-1"] :=
    .swap _ _ _
  have hrun : Runs (pollAll [lostPod "shop-1", lostPod "shop-0"] {}) []
      { err := some (.other "pod shop-1 is unavailable") } := .nil _
  obtain ⟨t, s, hs, hdone, hevents, hsweep⟩ :=
    (fleetSweep_schedules [lostPod "shop-0", lostPod "shop-1"]).2 _ hperm [] _
      (completable_of_small (by decide) hperm)
      (runs_bind.mpr ⟨_, [_], [], rfl, runs_req.mpr rfl, hrun⟩)
  exact ⟨t, s, hs, hdone, hevents, by rw [hsweep]⟩

theorem nonempty_resp (o : Op) : Nonempty (Resp o) := ⟨(answer {} Cluster.empty o).1⟩

/-- **Bounded, and always done in the end.**  At every moment at most 16 goroutines hold a slot
and at most one is in the section of a lock; unless all are done one can take a step, and steps
come to an end. -/
theorem fleetSweep_bounded (pods : List Pod) :
    (∀ t s, SweepRun pods t s → s.active.card ≤ 16 ∧
      (∀ i j l, (s.phase i).held = some l → (s.phase j).held = some l → i = j) ∧
      (s.Finished ∨ ∃ u s', Group.Step (sweepGroup pods) s u s')) ∧
    WellFounded fun s' s => ∃ u, Group.Step (sweepGroup pods) s u s' := by
  refine ⟨fun t s hrun => ⟨hrun.inv.slotted.slots, fun i j l => hrun.inv.guarded.exclusive, ?_⟩,
    Group.step_wf⟩
  by_cases hdone : s.Finished
  · exact .inl hdone
  · exact .inr (Group.exists_step (Nat.zero_lt_succ 15) nonempty_resp hdone)

end CelldOperator
