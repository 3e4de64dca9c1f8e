/-
  CelldOperator.Keda.Queries

  **WHAT THE AUTOSCALER ACTS ON.**

  The triggers of the ScaledObject are queries over the samples the operator exports,
  each guarded by the fleet's flag and the age of its sample.  `Target` is what one
  instance of the operator showed when it was scraped last: the leader its last sweep,
  another one nothing, and after a change of leader maybe both something.

    • `scaleTriggers_eq`      — the triggers, as the texts of queries, and
    • `scaling_fails_closed`  — a trigger has a value only while every target that shows
      the fleet shows it complete, from less than a minute ago.
-/
import CelldOperator.Build.Resources
import CelldOperator.Prom.Query
import CelldOperator.Status.Exporter
import Mathlib.Tactic.Linarith
import Mathlib.Tactic.NormNum

namespace CelldOperator

open Effect Prog

/-! ## §1. The queries. -/

def appMatchers (app : WorkerApp) : List (String × String) :=
  [("namespace", app.namespace_), ("workerapp", app.name)]

/-- An expression, while the fleet's census is complete and fresh. -/
def guardedExpr (app : WorkerApp) (e : Prom.Expr) : Prom.Expr :=
  .andOn
    (.andOn e (.eq (.agg .min (.select "celld_fleet_complete" (appMatchers app))) (.number 1)))
    (.lt (.sub .time
      (.agg .min (.select "celld_fleet_sample_timestamp_seconds" (appMatchers app)))) (.number 60))

def utilizationExpr (app : WorkerApp) : Prom.Expr :=
  .agg .avg (.select "celld_resident_cell_utilization" (appMatchers app))

def sheddingExpr (app : WorkerApp) : Prom.Expr :=
  .agg .max (.select "celld_shedding" (appMatchers app))

/-- The mesh's latency histogram; not a metric of the operator. -/
def latencyExpr (lib : Lib) (app : WorkerApp) : Prom.Expr :=
  .other ("histogram_quantile(0.95, sum(rate(istio_request_duration_milliseconds_bucket" ++
    "\x7bdestination_service_name=" ++ lib.quote (fleetName app) ++
    ",destination_service_namespace=" ++ lib.quote app.namespace_ ++
    ",reporter=\"destination\"\x7d[5m])) by (le))")

/-- The scaling expressions, with their thresholds. -/
def scaleExprs (lib : Lib) (app : WorkerApp) (autoscaling : AutoscalingSpec) :
    List (Prom.Expr × String) :=
  [ (utilizationExpr app, hundredths (autoscaling.targets.residentCellUtilization.getD 70)),
    (sheddingExpr app, "0.5") ] ++
  (match autoscaling.targets.p95LatencyMs with
    | some ms => [(latencyExpr lib app, decimalInt ms)]
    | none => [])

section

variable (lib : Lib) (app : WorkerApp)

theorem render_select (metric : String) :
    (Prom.Expr.select metric (appMatchers app)).render lib.quote = fleetSeries lib app metric := by
  have hopen : "\x7bnamespace=" = "\x7b" ++ ("namespace" ++ "=") := by decide
  have hcomma : ",workerapp=" = "," ++ ("workerapp" ++ "=") := by decide
  unfold fleetSeries Prom.Expr.render appMatchers
  rw [hopen, hcomma]
  simp only [List.map_cons, List.map_nil, String.intercalate_cons_cons,
    String.intercalate_singleton, String.append_assoc]

/-- The guarded text is the text of the guarded expression. -/
theorem render_guardedExpr {e : Prom.Expr} (he : e.binding ≠ 0) :
    (guardedExpr app e).render lib.quote = guardedQuery lib app (e.render lib.quote) := by
  -- the texts between the parts, cut where the operators are
  have hflag : ") and on() (min(" = ")" ++ (" and on() (" ++ ("min" ++ "(")) := by decide
  have hage : ") == 1) and on() (time() - min(" = ")" ++ (" == " ++ ("1" ++ (")" ++
      (" and on() (" ++ ("time()" ++ (" - " ++ ("min" ++ "("))))))) := by decide
  have hend : ") < 60)" = ")" ++ (" < " ++ ("60" ++ ")")) := by decide
  have hone : toString 1 = "1" := rfl
  have hsixty : toString 60 = "60" := rfl
  unfold guardedQuery
  rw [hflag, hage, hend, ← render_select, ← render_select]
  simp only [guardedExpr, Prom.Expr.render, Prom.grouped, Prom.binding_andOn, Prom.binding_sub,
    Prom.binding_agg, Prom.binding_number, Prom.binding_time, Prom.Agg.text, if_neg he, hone,
    hsixty, String.append_assoc, if_true, if_false, Nat.lt_irrefl, Nat.reduceLT]

/-- **The triggers are the texts of the guarded expressions.** -/
theorem scaleTriggers_eq (autoscaling : AutoscalingSpec) (prometheusURL : String) :
    scaleTriggers lib app autoscaling prometheusURL =
      (scaleExprs lib app autoscaling).map fun e =>
        promTrigger prometheusURL ((guardedExpr app e.1).render lib.quote) e.2 := by
  have hatom : (3 : Nat) ≠ 0 := by decide
  have hutilization := render_guardedExpr lib app (e := utilizationExpr app) hatom
  have hshedding := render_guardedExpr lib app (e := sheddingExpr app) hatom
  have hlatency := render_guardedExpr lib app (e := latencyExpr lib app) hatom
  have havg : (utilizationExpr app).render lib.quote =
      "avg(" ++ fleetSeries lib app "celld_resident_cell_utilization" ++ ")" := by
    rw [← render_select]
    rfl
  have hmax : (sheddingExpr app).render lib.quote =
      "max(" ++ fleetSeries lib app "celld_shedding" ++ ")" := by
    rw [← render_select]
    rfl
  unfold scaleTriggers scaleExprs
  rw [List.map_append, List.map_cons, List.map_cons, List.map_nil, hutilization, hshedding, havg,
    hmax]
  cases autoscaling.targets.p95LatencyMs with
  | none => rfl
  | some ms =>
    dsimp only
    rw [List.map_cons, List.map_nil, hlatency]
    rfl

end

/-! ## §2. What the queries run over. -/

/-- The exported number: a quotient is rounded, flags and seconds are what they are. -/
def Gauge.value (arith : Prom.Arithmetic) : Gauge → ℚ
  | .int n => n
  | .ratio num den => arith.round (num / den)

/-- The label names of an exported sample; `labelPod` where there are three. -/
def labelKeys : List String := ["namespace", "workerapp", "pod"]

/-- A scraped sample.  The exported labels win over those of the target. -/
def Sample.scraped (arith : Prom.Arithmetic) (target : List (String × String)) (s : Sample) :
    Prom.Series :=
  ⟨s.name, labelKeys.zip s.labels ++ target, s.value.value arith⟩

/-- An instance of the operator, as it was scraped last. -/
structure Target where
  labels : List (String × String)
  published : List Sample

/-- The metrics server at one instant; `other` are the series of the mesh. -/
def instant (arith : Prom.Arithmetic) (now : ℚ) (targets : List Target)
    (other : String → List Prom.Point) : Prom.Instant where
  arith := arith
  now := now
  series := targets.flatMap fun target => target.published.map (Sample.scraped arith target.labels)
  other := other

section

variable {app : WorkerApp} {arith : Prom.Arithmetic} {now : ℚ} {targets : List Target}
  {other : String → List Prom.Point} {metric : String} {turn : Turn} {turns : List Turn} {s : Sample}

/-- The sample is about this WorkerApp. -/
def Sample.about (app : WorkerApp) (s : Sample) : Prop :=
  s.labels.take 2 = [app.namespace_, app.name]

instance (app : WorkerApp) (s : Sample) : Decidable (s.about app) :=
  inferInstanceAs (Decidable (_ = _))

/-- The matchers of the queries pick the samples of one WorkerApp. -/
theorem scraped_matches (target : List (String × String)) (hlen : 2 ≤ s.labels.length) :
    (s.scraped arith target).Matches metric (appMatchers app) ↔ s.name = metric ∧ s.about app := by
  obtain ⟨name, value, labels⟩ := s
  match labels, hlen with
  | namespace_ :: workerapp :: rest, _ =>
    have hns : (labelKeys.zip (namespace_ :: workerapp :: rest) ++ target).lookup "namespace" =
        some namespace_ := rfl
    have happ : (labelKeys.zip (namespace_ :: workerapp :: rest) ++ target).lookup "workerapp" =
        some workerapp := rfl
    show name = metric ∧ (∀ m ∈ appMatchers app,
        (labelKeys.zip (namespace_ :: workerapp :: rest) ++ target).lookup m.1 = some m.2) ↔
      name = metric ∧ [namespace_, workerapp] = [app.namespace_, app.name]
    refine and_congr_right fun _ => ?_
    simp only [appMatchers, List.forall_mem_cons, hns, happ, Option.some.injEq, List.not_mem_nil,
      false_imp_iff, implies_true, and_true, List.cons.injEq]

/-- **What a query selects**: the samples of the metric about the WorkerApp, target by target. -/
theorem selected_instant (hshown : ∀ target ∈ targets, Exporter target.published) :
    Prom.selected (instant arith now targets other) metric (appMatchers app) =
      targets.flatMap fun target =>
        (target.published.filter fun s => s.name = metric ∧ s.about app).map
          (Sample.scraped arith target.labels) := by
  show (targets.flatMap fun target => target.published.map (Sample.scraped arith target.labels)).filter
    (fun s => decide (s.Matches metric (appMatchers app))) = _
  rw [List.filter_flatMap]
  refine List.flatMap_congr fun target htarget => ?_
  rw [List.filter_map]
  refine congrArg _ (List.filter_congr fun s hs => ?_)
  obtain ⟨turns, -, heq⟩ := (hshown target htarget).shown
  have hlen : 2 ≤ s.labels.length := by
    rw [snapshot_arity (heq ▸ hs)]
    unfold arity
    split <;> decide
  exact decide_eq_decide.mpr (scraped_matches target.labels hlen)

theorem mem_selected (hshown : ∀ target ∈ targets, Exporter target.published) {x : Prom.Series} :
    x ∈ Prom.selected (instant arith now targets other) metric (appMatchers app) ↔
      ∃ target ∈ targets, ∃ s ∈ target.published, (s.name = metric ∧ s.about app) ∧
        s.scraped arith target.labels = x := by
  rw [selected_instant hshown, List.mem_flatMap]
  refine exists_congr fun target => and_congr_right fun _ => ?_
  rw [List.mem_map]
  refine exists_congr fun s => ?_
  rw [List.mem_filter, decide_eq_true_iff, and_assoc]

/-! ## §3. The guards. -/

/-- The turn of a sweep was about this WorkerApp. -/
def Turn.of (app : WorkerApp) (turn : Turn) : Prop :=
  turn.app.namespace_ = app.namespace_ ∧ turn.app.name = app.name

/-- The samples of a turn are about its WorkerApp. -/
theorem about_iff (hs : s ∈ turn.samples) : s.about app ↔ turn.of app := by
  unfold Sample.about Turn.of
  rw [labels_samples hs]
  simp

/-- **The fleet is shown, and can be trusted**: some target shows it complete, and every sweep
that any target shows of it had found as many pods as replicas, owned, Ready and answering, less
than a minute ago. -/
structure Trusted (app : WorkerApp) (now : ℚ) (targets : List Target) : Prop where
  shown : ∃ target ∈ targets, completeSample app true ∈ target.published
  whole : ∀ target ∈ targets, ∀ turns, target.published = snapshot turns → ∀ turn ∈ turns,
    turn.of app → (∃ state, CompleteFleet turn.app turn.trace turn.look state) ∧
      now - turn.look.sampledAt / second < 60

/-- Whole seconds are rounded down. -/
theorem seconds_le (t : Time) : ((t / second : Int) : ℚ) ≤ (t : ℚ) / (second : Int) := by
  have hpos : (0 : ℚ) < ((second : Int) : ℚ) := by
    unfold second
    norm_num
  rw [le_div_iff₀ hpos]
  exact_mod_cast Int.ediv_mul_le t (by unfold second; decide)

theorem flag_complete (arith : Prom.Arithmetic) {b : Bool}
    (h : (1 : ℚ) ≤ (boolToGauge b).value arith) : b = true := by
  cases b with
  | true => rfl
  | false =>
    have hzero : (boolToGauge false).value arith = 0 := Int.cast_zero
    rw [hzero] at h
    exact absurd h (by norm_num)

/-- The only sample of that name is the flag. -/
theorem flag_of_name (hs : s ∈ turn.samples) (hname : s.name = "celld_fleet_complete") :
    s = completeSample turn.app turn.look.complete := by
  rcases List.mem_append.mp hs with hs | hs
  · rcases List.mem_cons.mp hs with rfl | hs
    · rfl
    · cases List.mem_singleton.mp hs
      have hname : "celld_fleet_sample_timestamp_seconds" = "celld_fleet_complete" := hname
      exact absurd hname (by decide)
  · obtain ⟨pod, -, hs⟩ := List.mem_flatMap.mp hs
    have hpod := podSamples_names.subset (List.mem_map_of_mem hs)
    rw [hname] at hpod
    exact absurd hpod (by decide)

/-- **The guards.**  While both let through, the fleet can be trusted. -/
theorem trusted_of_guards (hshown : ∀ target ∈ targets, Exporter target.published)
    (hflag : Prom.Lets (instant arith now targets other)
      (.eq (.agg .min (.select "celld_fleet_complete" (appMatchers app))) (.number 1)))
    (hage : Prom.Lets (instant arith now targets other) (.lt (.sub .time (.agg .min
      (.select "celld_fleet_sample_timestamp_seconds" (appMatchers app)))) (.number 60))) :
    Trusted app now targets := by
  obtain ⟨⟨x, hx, hone⟩, hall⟩ := Prom.lets_minEq.mp hflag
  obtain ⟨-, hyoung⟩ := Prom.lets_younger.mp hage
  constructor
  · -- the smallest flag is 1, and it is the flag of some target
    obtain ⟨target, htarget, s, hs, ⟨hname, habout⟩, rfl⟩ := (mem_selected hshown).mp hx
    refine ⟨target, htarget, ?_⟩
    obtain ⟨turns, -, hturns⟩ := (hshown target htarget).shown
    obtain ⟨turn, hturn, hsturn⟩ := List.mem_flatMap.mp (hturns ▸ hs)
    have hs' := flag_of_name hsturn hname
    have hcomplete : turn.look.complete = true := by
      refine flag_complete arith ?_
      have hval : s.value.value arith = 1 := by exact_mod_cast hone
      rw [hs'] at hval
      exact hval.ge
    obtain ⟨hns, happ⟩ := (about_iff hsturn).mp habout
    have hsame : completeSample app true = s := by
      rw [hs', hcomplete]
      unfold completeSample
      rw [hns, happ]
    rw [hsame]
    exact hs
  · intro target htarget turns hturns turn hturn hof
    -- all samples of the turn are among those the guards take the minimum of
    have hselect : ∀ s ∈ turn.samples, s.scraped arith target.labels ∈
        Prom.selected (instant arith now targets other) s.name (appMatchers app) := by
      intro s hs
      refine (mem_selected hshown).mpr ⟨target, htarget, s, ?_, ⟨rfl, (about_iff hs).mpr hof⟩, rfl⟩
      rw [hturns]
      exact List.mem_flatMap.mpr ⟨turn, hturn, hs⟩
    constructor
    · have hge := hall _ (hselect (completeSample turn.app turn.look.complete)
        (List.mem_cons_self ..))
      exact turn.seen.complete (flag_complete arith (by exact_mod_cast hge))
    · have hlt := hyoung _ (hselect ⟨"celld_fleet_sample_timestamp_seconds",
        .int (turn.look.sampledAt / second), [turn.app.namespace_, turn.app.name]⟩
        (List.mem_cons_of_mem _ (List.mem_cons_self ..)))
      have hlt : now - ((turn.look.sampledAt / second : Int) : ℚ) < 60 := by
        have hage := arith.lt_of_round_lt (by decide) hlt
        exact_mod_cast hage
      have hfloor := seconds_le turn.look.sampledAt
      linarith

end

/-- **Scaling fails closed.**  The triggers of the ScaledObject are queries, and each has a value
only while the fleet is shown and can be trusted: some instance of the operator shows it complete,
and whatever instances show of it was found, less than a minute ago, with as many pods as
replicas, all of them owned, Ready and answering.  Which ordinals they have is not looked at. -/
theorem scaling_fails_closed (lib : Lib) (app : WorkerApp) (autoscaling : AutoscalingSpec)
    (prometheusURL : String) :
    scaleTriggers lib app autoscaling prometheusURL =
        (scaleExprs lib app autoscaling).map (fun e =>
          promTrigger prometheusURL ((guardedExpr app e.1).render lib.quote) e.2) ∧
      ∀ e ∈ scaleExprs lib app autoscaling,
        ∀ (arith : Prom.Arithmetic) (now : ℚ) (targets : List Target)
          (other : String → List Prom.Point),
          (∀ target ∈ targets, Exporter target.published) →
          Prom.Lets (instant arith now targets other) (guardedExpr app e.1) →
            Trusted app now targets := by
  refine ⟨scaleTriggers_eq lib app autoscaling prometheusURL, ?_⟩
  intro e _ arith now targets other hshown hlets
  obtain ⟨hinner, hage⟩ := Prom.lets_andOn.mp hlets
  exact trusted_of_guards hshown (Prom.lets_andOn.mp hinner).2 hage

/-- The operator that swept the settled fleet, scraped. -/
def settledTarget : Target := ⟨[("job", "celld-operator")], settledSweep.2.2⟩

/-- Half a minute after the sweep the triggers have values. -/
theorem scaling_fails_closed_settled : Trusted servingApp 130 [settledTarget] := by
  have hshown : ∀ target ∈ [settledTarget], Exporter target.published := by
    intro target hmem
    rw [List.mem_singleton.mp hmem]
    exact exporter_settledSweep
  exact (scaling_fails_closed sampleLib servingApp {} "").2 (utilizationExpr servingApp, _)
    (List.mem_cons_self ..) .exactly 130 [settledTarget] (fun _ => []) hshown (by decide +kernel)

end CelldOperator
