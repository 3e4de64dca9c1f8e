/-
  CelldOperator.Pass.FixedCluster

  **A CLUSTER THAT DOES NOT CHANGE.**

  `Answers` gives every question one answer.  What it leaves open is the order
  in which concurrent polls complete and the order in which a map is iterated:
  a run is `Fixed env` when everything else in it was answered by `env`.

    • `polled`         — what polling a pod comes to,
    • `recordAll_eq`   — the sweep, as a function of the completion order,
    • `mem_putAll`, `keys_putAll` — the sampled states as a map,
    • `observeFleet_fixed` — an observation fails in one way, or is the sweep of
      the listed pods in some order.
-/
import CelldOperator.Effect.Exec
import CelldOperator.Effect.Relational
import CelldOperator.Pass.Scaler
import CelldOperator.Pass.Sweep

namespace CelldOperator

open Effect Prog

/-! ## §1. Answers and orders. -/

/-- One answer to every question. -/
abbrev Answers := (o : Op) → Resp o

/-- The operation asks for an order Go leaves open. -/
def Op.ordering : Op → Bool
  | .completionOrder _ | .rangeStates _ | .rangeKinds _ => true
  | _ => false

/-- The event was answered by `env`, or asks for an order. -/
def Fixed (env : Answers) (e : Event Api) : Prop := e.op.ordering = false → e.resp = env e.op

variable {env : Answers}

theorem fixed_self (o : Op) : Fixed env ⟨o, env o⟩ := fun _ => rfl

section

variable {α : Type}

/-- The run of `p` in which `env` answers everything, orders included. -/
def runAnswers (env : Answers) (p : P α) : Trace × Unit × α :=
  runWith (S := Api) (fun _ o => (env o, ())) p ()

theorem runAnswers_runs (env : Answers) (p : P α) :
    Runs p (runAnswers env p).1 (runAnswers env p).2.2 :=
  runs_runWith (runAnswers env p) rfl

/-- Only the orders may be answered in another way. -/
theorem runAnswers_fixed {env' : Answers} (h : ∀ o : Op, o.ordering = false → env' o = env o)
    {p : P α} : ∀ e ∈ (runAnswers env' p).1, Fixed env e := by
  intro e he ho
  obtain ⟨_, hresp⟩ := answer_of_mem_runWith he
  exact hresp.trans (h e.op ho)

/-- The program asks for no order. -/
abbrev Unordered (p : P α) : Prop := Only (fun o : Op => o.ordering = false) p

theorem Asks.unordered {T : List Topic} {p : P α} (h : Asks T p) (hT : Topic.order ∉ T) :
    Unordered p := by
  refine h.only fun o ho => ?_
  cases o <;> first | rfl | exact absurd ho hT

/-- Such a program has one result. -/
theorem agree_unordered {p : P α} (hp : Unordered p) :
    Agree (Fixed env) Eq p p := by
  refine agree_refl (Only.mono (fun o ho r r' hr hr' => ?_) hp)
  exact (hr ho).trans (hr' ho).symm

end

theorem allowed_ask {o : Op} (ho : o.ordering = false) {r : Resp o} :
    Allowed (Fixed env) (ask o) r ↔ r = env o := by
  rw [allowed_req]
  constructor
  · intro h
    exact h ho
  · rintro rfl
    exact fixed_self o

/-! ## §2. The polls. -/

/-- What polling the pod comes to. -/
def polled (env : Answers) (pod : Pod) : Except Err PodState :=
  (runAnswers env (pollPod pod)).2.2

theorem pollPod_unordered (pod : Pod) : Unordered (pollPod pod) :=
  (pollPod_topics pod).unordered (by decide)

theorem allowed_pollPod {pod : Pod} {res : Except Err PodState} :
    Allowed (Fixed env) (pollPod pod) res ↔ res = polled env pod := by
  have hrun : Allowed (Fixed env) (pollPod pod) (polled env pod) :=
    ⟨_, runAnswers_runs env (pollPod pod), runAnswers_fixed fun _ _ => rfl⟩
  constructor
  · intro h
    exact agree_unordered (pollPod_unordered pod) _ _ h hrun
  · rintro rfl
    exact hrun

/-- The sweep `s` after the polls of these pods. -/
def recordAll (env : Answers) (s : Sweep) (pods : List Pod) : Sweep :=
  pods.foldl (fun s pod => s.record pod.name (polled env pod)) s

theorem allowed_pollAll {pods : List Pod} : ∀ {s s' : Sweep},
    Allowed (Fixed env) (pollAll pods s) s' ↔ s' = recordAll env s pods := by
  induction pods with
  | nil =>
    intro s s'
    exact allowed_pure.trans eq_comm
  | cons pod pods ih =>
    intro s s'
    unfold pollAll
    rw [allowed_bind]
    constructor
    · rintro ⟨res, hres, hrest⟩
      rw [allowed_pollPod.mp hres] at hrest
      exact ih.mp hrest
    · intro h
      exact ⟨_, allowed_pollPod.mpr rfl, ih.mpr h⟩

/-- A sweep of the pods records them in some order, and in any order. -/
theorem allowed_fleetSweep {pods : List Pod} {sweep : Sweep} :
    Allowed (Fixed env) (fleetSweep pods) sweep ↔
      ∃ order : List Pod, order.Perm pods ∧ sweep = recordAll env {} order := by
  unfold fleetSweep
  rw [allowed_bind]
  constructor
  · rintro ⟨order, -, h⟩
    exact ⟨order.val, order.property, allowed_pollAll.mp h⟩
  · rintro ⟨order, hperm, h⟩
    refine ⟨⟨order, hperm⟩, allowed_req.mpr ?_, allowed_pollAll.mpr h⟩
    intro hordering
    cases hordering

/-! ## §3. The sweep as a function of the order. -/

/-- The samples of the polls that succeed, by pod name. -/
def samples (env : Answers) (pods : List Pod) : List (String × PodState) :=
  pods.filterMap fun pod =>
    match polled env pod with
    | .ok state => some (pod.name, state)
    | .error _ => none

/-- The errors of the polls that fail. -/
def failures (env : Answers) (pods : List Pod) : List Err :=
  pods.filterMap fun pod =>
    match polled env pod with
    | .ok _ => none
    | .error e => some e

/-- The map after these assignments. -/
def putAll (states : List (String × PodState)) (xs : List (String × PodState)) :
    List (String × PodState) :=
  xs.foldl (fun states x => putState states x.1 x.2) states

/-- **The sweep**: the map assigned sample by sample, the sum, the first error. -/
theorem recordAll_eq (pods : List Pod) : ∀ s : Sweep, recordAll env s pods =
    { states := putAll s.states (samples env pods)
      restoring := wrapSum s.restoring ((samples env pods).map (·.2.restoring))
      err := s.err.or (failures env pods).head? } := by
  induction pods with
  | nil =>
    intro s
    simp [recordAll, samples, failures, putAll, wrapSum]
  | cons pod pods ih =>
    intro s
    have hstep : recordAll env s (pod :: pods) =
        recordAll env (s.record pod.name (polled env pod)) pods := rfl
    rw [hstep, ih]
    cases hres : polled env pod with
    | ok state => simp [samples, failures, hres, Sweep.record, putAll, wrapSum]
    | error e => simp [samples, failures, hres, Sweep.record]

section Maps

variable {states xs : List (String × PodState)}

/-- Where one name never gets two values, the map holds exactly what was assigned. -/
theorem mem_putAll : ∀ {states : List (String × PodState)},
    (∀ x ∈ states ++ xs, ∀ y ∈ states ++ xs, x.1 = y.1 → x = y) →
    ∀ z, z ∈ putAll states xs ↔ z ∈ states ∨ z ∈ xs := by
  induction xs with
  | nil =>
    intro states _ z
    simp [putAll]
  | cons x xs ih =>
    intro states hone z
    -- the entry that is overwritten is the one that is written
    have hput : ∀ y, y ∈ putState states x.1 x.2 ↔ y ∈ states ∨ y = x := by
      intro y
      unfold putState
      rw [List.mem_append, List.mem_filter, List.mem_singleton]
      constructor
      · rintro (⟨hy, -⟩ | hy)
        · exact .inl hy
        · exact .inr hy
      · rintro (hy | hy)
        · by_cases hname : y.1 = x.1
          · exact .inr (hone y (by simp [hy]) x (by simp) hname)
          · exact .inl ⟨hy, by simpa using hname⟩
        · exact .inr hy
    have hone' : ∀ a ∈ putState states x.1 x.2 ++ xs, ∀ b ∈ putState states x.1 x.2 ++ xs,
        a.1 = b.1 → a = b := by
      have hsub : ∀ a ∈ putState states x.1 x.2 ++ xs, a ∈ states ++ x :: xs := by
        intro a ha
        rcases List.mem_append.mp ha with ha | ha
        · rcases (hput a).mp ha with ha | rfl
          · simp [ha]
          · simp
        · simp [ha]
      exact fun a ha b hb => hone a (hsub a ha) b (hsub b hb)
    show z ∈ putAll (putState states x.1 x.2) xs ↔ _
    rw [ih hone' z, hput z, List.mem_cons, or_assoc]

/-- Its keys are distinct. -/
theorem keys_putAll : ∀ {states : List (String × PodState)}, (states.map Prod.fst).Nodup →
    ((putAll states xs).map Prod.fst).Nodup := by
  induction xs with
  | nil => exact fun h => h
  | cons x xs ih =>
    intro states h
    show ((putAll (putState states x.1 x.2) xs).map Prod.fst).Nodup
    refine ih ?_
    unfold putState
    rw [List.map_append, List.nodup_append]
    refine ⟨h.sublist (List.filter_sublist.map _), by simp, ?_⟩
    intro a ha b hb hab
    obtain ⟨y, hy, rfl⟩ := List.mem_map.mp ha
    have hne := (List.mem_filter.mp hy).2
    have hb' : b = x.1 := by simpa using hb
    rw [hb'] at hab
    simp [hab] at hne

end Maps

/-! ## §4. The observation. -/

/-- The pods the list answers with. -/
def listed (env : Answers) (app : WorkerApp) : List Pod :=
  match env (.listPods (selectorLabels app)) with
  | .ok pods => pods.val
  | .error _ => []

/-- Why the fleet is not swept: the list failed, or the census. -/
def unswept (env : Answers) (app : WorkerApp) (sts : StatefulSet) : Option Err :=
  match env (.listPods (selectorLabels app)) with
  | .ok pods => census sts pods.val
  | .error e => some e

/-- What an observation of the fleet can return. -/
def Observation (env : Answers) (app : WorkerApp) (sts : StatefulSet) (sweep : Sweep) : Prop :=
  match unswept env app sts with
  | some e => sweep = { err := some e }
  | none => ∃ order : List Pod, order.Perm (listed env app) ∧ sweep = recordAll env {} order

theorem observeFleet_fixed {app : WorkerApp} {sts : StatefulSet} {sweep : Sweep} :
    Allowed (Fixed env) (observeFleet app sts) sweep ↔ Observation env app sts sweep := by
  unfold observeFleet Observation unswept listed
  rw [allowed_bind]
  -- the list is answered in one way
  have hlist : ∀ {Q : Resp (.listPods (selectorLabels app)) → Prop},
      (∃ res, Allowed (Fixed env) (ask (.listPods (selectorLabels app))) res ∧ Q res) ↔
        Q (env (.listPods (selectorLabels app))) := by
    intro Q
    constructor
    · rintro ⟨res, hres, h⟩
      rw [← (allowed_ask rfl).mp hres]
      exact h
    · intro h
      exact ⟨_, (allowed_ask rfl).mpr rfl, h⟩
  rw [hlist]
  cases env (.listPods (selectorLabels app)) with
  | error e => exact allowed_pure.trans eq_comm
  | ok pods =>
    dsimp only
    cases census sts pods.val with
    | some e => exact allowed_pure.trans eq_comm
    | none => exact allowed_fleetSweep

end CelldOperator
