/-
  CelldOperator.Status.Exporter

  **WHAT A SCRAPE OF THE OPERATOR SHOWS.**

  The poller goes over all WorkerApps and replaces the published snapshot as a whole; a
  scrape may come at any moment, a sweep may fail, and when the operator stops leading it
  publishes nothing (`Exporter`).

    • `runs_sampleFleet`     — the samples of one fleet, from what was read of it,
    • `Seen.complete`        — `celld_fleet_complete` 1 means that as many pods were listed
      as there are replicas, each owned and Ready, and that each has answered; whether
      these are the pods of all ordinals it does not say,
    • `Exporter.shown`       — a scrape shows one whole sweep, or nothing,
    • `scrape_consistent`    — that, and its series are distinct, and one metric has one
      set of label names: what the registry asks for.
-/
import CelldOperator.Cluster.Server
import CelldOperator.Controller.StatePoller
import CelldOperator.Pass.Census
import CelldOperator.Status.Poller

namespace CelldOperator

open Effect Prog

/-! ## §1. One fleet. -/

/-- What the poller found of one fleet. -/
structure Look where
  sampledAt : Time
  fleet : Option (StatefulSet × List Pod)
  sweep : Sweep

def Look.pods (look : Look) : List Pod := (look.fleet.map Prod.snd).getD []

def Look.complete (look : Look) : Bool :=
  (look.fleet.any fun f => listComplete f.1 f.2) && look.sweep.err.isNone &&
    look.sweep.states.length == look.pods.length

/-- The samples it exports. -/
def Look.samples (app : WorkerApp) (look : Look) : List Sample :=
  [ completeSample app look.complete,
    ⟨"celld_fleet_sample_timestamp_seconds", .int (look.sampledAt / second),
      [app.namespace_, app.name]⟩ ] ++ look.pods.flatMap (podSamples app look.sweep.states)

/-- Where it comes from. -/
structure Seen (app : WorkerApp) (t : Trace) (look : Look) : Prop where
  clock : Saw t .now look.sampledAt
  read : ∀ sts pods, look.fleet = some (sts, pods) →
    Saw t (.get .statefulSet (fleetName app)) (.ok sts) ∧
      ∃ list : PodList, list.val = pods ∧ Saw t (.listPods (selectorLabels app)) (.ok list)
  swept : ∃ pre u, t = pre ++ u ∧ Runs (fleetSweep look.pods) u look.sweep

section

variable {app : WorkerApp} {t : Trace} {look : Look} {samples : List Sample}

theorem runs_readFleet {fleet : Option (StatefulSet × List Pod)} (hr : Runs (readFleet app) t fleet) :
    ∀ sts pods, fleet = some (sts, pods) → Saw t (.get .statefulSet (fleetName app)) (.ok sts) ∧
      ∃ list : PodList, list.val = pods ∧ Saw t (.listPods (selectorLabels app)) (.ok list) := by
  intro sts pods hfleet
  unfold readFleet at hr
  obtain ⟨got, t₁, t₂, rfl, hgot, hrest⟩ := runs_bind.mp hr
  obtain rfl := runs_req.mp hgot
  cases got with
  | error e =>
    obtain ⟨-, rfl⟩ := runs_ret.mp hrest
    cases hfleet
  | ok found =>
    obtain ⟨list, t₃, t₄, rfl, hlist, hlast⟩ := runs_bind.mp hrest
    obtain rfl := runs_req.mp hlist
    cases list with
    | error e =>
      obtain ⟨-, rfl⟩ := runs_ret.mp hlast
      cases hfleet
    | ok list =>
      obtain ⟨rfl, rfl⟩ := runs_ret.mp hlast
      cases hfleet
      exact ⟨List.mem_cons_self .., list, rfl, List.mem_cons_of_mem _ (List.mem_cons_self ..)⟩

/-- **The samples of one fleet.** -/
theorem runs_sampleFleet (hr : Runs (sampleFleet app) t samples) :
    ∃ look, Seen app t look ∧ samples = look.samples app := by
  unfold sampleFleet at hr
  obtain ⟨now, t₁, t₂, rfl, hnow, hrest⟩ := runs_bind.mp hr
  obtain rfl := runs_req.mp hnow
  obtain ⟨fleet, t₃, t₄, rfl, hfleet, hpolls⟩ := runs_bind.mp hrest
  obtain ⟨sweep, t₅, t₆, rfl, hsweep, hlast⟩ := runs_bind.mp hpolls
  obtain ⟨rfl, rfl⟩ := runs_ret.mp hlast
  refine ⟨⟨now, fleet, sweep⟩, ⟨List.mem_cons_self .., ?_, ?_⟩, rfl⟩
  · intro sts pods heq
    obtain ⟨hget, list, hval, hlist⟩ := runs_readFleet hfleet sts pods heq
    exact ⟨(hget.append _).append_left _, list, hval, (hlist.append _).append_left _⟩
  · refine ⟨[⟨.now, now⟩] ++ t₃, t₅, ?_, hsweep⟩
    rw [List.append_nil, List.append_assoc]

end

/-! ## §2. A complete look. -/

/-- A poll of the sweep records a state under one name. -/
theorem putState_keys (states : List (String × PodState)) (name : String) (state : PodState) :
    (putState states name state).map Prod.fst =
      (states.map Prod.fst).filter (· != name) ++ [name] := by
  unfold putState
  rw [List.map_append, List.filter_map]
  rfl

/-- The names a sweep has recorded: those of the pods it polled, each once. -/
theorem pollAll_keys {pods : List Pod} : ∀ {s s' : Sweep} {t : Trace},
    Runs (pollAll pods s) t s' → (s.states.map Prod.fst).Nodup →
    (s'.states.map Prod.fst).Nodup ∧
      s'.states.map Prod.fst ⊆ s.states.map Prod.fst ++ pods.map (·.name) := by
  induction pods with
  | nil =>
    intro s s' t hr hnodup
    obtain ⟨-, rfl⟩ := runs_ret.mp hr
    exact ⟨hnodup, by simp⟩
  | cons pod pods ih =>
    intro s s' t hr hnodup
    unfold pollAll at hr
    obtain ⟨result, t₁, t₂, rfl, -, hrest⟩ := runs_bind.mp hr
    cases result with
    | error e =>
      obtain ⟨hnodup', hsub⟩ := ih hrest hnodup
      refine ⟨hnodup', fun name hname => ?_⟩
      rcases List.mem_append.mp (hsub hname) with hold | hnew
      · exact List.mem_append_left _ hold
      · exact List.mem_append_right _ (List.mem_cons_of_mem _ hnew)
    | ok state =>
      have hkeys : (s.record pod.name (.ok state)).states.map Prod.fst =
          (s.states.map Prod.fst).filter (· != pod.name) ++ [pod.name] :=
        putState_keys s.states pod.name state
      have hfresh : ((s.record pod.name (.ok state)).states.map Prod.fst).Nodup := by
        rw [hkeys]
        refine List.Nodup.append (hnodup.filter _) (List.nodup_singleton _) ?_
        intro name hname heq
        rw [List.mem_singleton.mp heq] at hname
        simp at hname
      obtain ⟨hnodup', hsub⟩ := ih hrest hfresh
      refine ⟨hnodup', fun name hname => ?_⟩
      rcases List.mem_append.mp (hsub hname) with hold | hnew
      · rw [hkeys] at hold
        rcases List.mem_append.mp hold with hold | hpod
        · exact List.mem_append_left _ (List.mem_of_mem_filter hold)
        · rw [List.mem_singleton.mp hpod]
          exact List.mem_append_right _ (List.mem_cons_self ..)
      · exact List.mem_append_right _ (List.mem_cons_of_mem _ hnew)

/-- As many states as pods: no two pods have one name. -/
theorem pollAll_distinct {pods : List Pod} {s : Sweep} {t : Trace}
    (hr : Runs (pollAll pods {}) t s) (hlen : s.states.length = pods.length) :
    (pods.map (·.name)).Nodup := by
  obtain ⟨hnodup, hsub⟩ := pollAll_keys hr List.nodup_nil
  have hperm := (List.subperm_of_subset hnodup hsub).perm_of_length_le (by simp [hlen])
  exact hperm.nodup_iff.mp hnodup

/-- **What `celld_fleet_complete` 1 stands for**: as many pods as the StatefulSet asks for, under
distinct names, owned and Ready (`listComplete`), each of which has answered. -/
structure CompleteFleet (app : WorkerApp) (t : Trace) (look : Look) (state : Pod → PodState) :
    Prop where
  read : ∃ sts, Saw t (.get .statefulSet (fleetName app)) (.ok sts) ∧
    look.fleet = some (sts, look.pods) ∧ listComplete sts look.pods = true
  names : (look.pods.map (·.name)).Nodup
  answered : ∀ pod ∈ look.pods, Answered t pod (pod.name, state pod)
  recorded : ∀ pod ∈ look.pods,
    look.sweep.states.find? (·.1 == pod.name) = some (pod.name, state pod)

/-- The first entry under a name that occurs once. -/
theorem find_key {states : List (String × PodState)} (hnodup : (states.map Prod.fst).Nodup)
    {x : String × PodState} (hx : x ∈ states) : states.find? (·.1 == x.1) = some x := by
  induction states with
  | nil => cases hx
  | cons y states ih =>
    rw [List.map_cons, List.nodup_cons] at hnodup
    rcases List.mem_cons.mp hx with rfl | hx
    · exact List.find?_cons_of_pos (by simp)
    · have hne : y.1 ≠ x.1 := fun heq => hnodup.1 (heq ▸ List.mem_map_of_mem hx)
      rw [List.find?_cons_of_neg (by simpa using hne)]
      exact ih hnodup.2 hx

theorem Seen.complete {app : WorkerApp} {t : Trace} {look : Look} (hs : Seen app t look)
    (hc : look.complete = true) : ∃ state, CompleteFleet app t look state := by
  unfold Look.complete at hc
  simp only [Bool.and_eq_true, beq_iff_eq, Option.isNone_iff_eq_none] at hc
  obtain ⟨⟨hlist, herr⟩, hlen⟩ := hc
  obtain ⟨pre, u, rfl, hsweep⟩ := hs.swept
  unfold fleetSweep at hsweep
  obtain ⟨order, u₁, u₂, rfl, horder, hpolls⟩ := runs_bind.mp hsweep
  have hperm : order.val.Perm look.pods := order.property
  have hnames : (order.val.map (·.name)).Nodup :=
    pollAll_distinct hpolls (hlen.trans hperm.length_eq.symm)
  obtain ⟨-, hdone⟩ := valid_runs (pollAll_valid order.val {} (pre ++ u₁)) hpolls
  obtain ⟨-, entries, hall, hstates, -⟩ := hdone herr
  have hstates : look.sweep.states = entries := hstates hnames
  have hkeys : (look.sweep.states.map Prod.fst).Nodup := by
    rw [hstates, forall₂_fst hall]
    exact hnames
  -- every pod is among those polled, and was answered
  have hpod : ∀ pod ∈ look.pods, ∃ state, Answered (pre ++ (u₁ ++ u₂)) pod (pod.name, state) ∧
      look.sweep.states.find? (·.1 == pod.name) = some (pod.name, state) := by
    intro pod hmem
    obtain ⟨⟨name, state⟩, hentry, hanswered⟩ := forall₂_exists hall (hperm.mem_iff.mpr hmem)
    have hname : name = pod.name := hanswered.1
    subst hname
    rw [List.append_assoc] at hanswered
    exact ⟨state, hanswered, find_key hkeys (hstates ▸ hentry)⟩
  have hnonempty : Nonempty PodState := ⟨{}⟩
  choose! state hstate using hpod
  refine ⟨state, ?_, (hperm.map _).nodup_iff.mp hnames, fun pod h => (hstate pod h).1,
    fun pod h => (hstate pod h).2⟩
  cases hfleet : look.fleet with
  | none =>
    rw [hfleet] at hlist
    cases hlist
  | some fleet =>
    obtain ⟨sts, pods⟩ := fleet
    have hpods : look.pods = pods := by
      unfold Look.pods
      rw [hfleet]
      rfl
    rw [hfleet] at hlist
    rw [hpods]
    exact ⟨sts, (hs.read sts pods hfleet).1, rfl, hlist⟩

/-! ## §3. All fleets. -/

/-- One turn of the loop: the fleet and what was found of it. -/
structure Turn where
  app : WorkerApp
  trace : Trace
  look : Look
  seen : Seen app trace look

def Turn.samples (turn : Turn) : List Sample := turn.look.samples turn.app

/-- What a sweep publishes, by its turns. -/
def snapshot (turns : List Turn) : List Sample := turns.flatMap Turn.samples

theorem runs_sweepApps {apps : List WorkerApp} : ∀ {t : Trace} {samples : List Sample},
    Runs (sweepApps apps) t samples →
    ∃ turns : List Turn, turns.map Turn.app = apps ∧ t = turns.flatMap Turn.trace ∧
      samples = snapshot turns := by
  induction apps with
  | nil =>
    intro t samples hr
    obtain ⟨rfl, rfl⟩ := runs_ret.mp hr
    exact ⟨[], rfl, rfl, rfl⟩
  | cons app apps ih =>
    intro t samples hr
    unfold sweepApps at hr
    obtain ⟨first, t₁, t₂, rfl, hfirst, hrest⟩ := runs_bind.mp hr
    obtain ⟨rest, t₃, t₄, rfl, hloop, hlast⟩ := runs_bind.mp hrest
    obtain ⟨rfl, rfl⟩ := runs_ret.mp hlast
    obtain ⟨look, hseen, rfl⟩ := runs_sampleFleet hfirst
    obtain ⟨turns, rfl, rfl, rfl⟩ := ih hloop
    exact ⟨⟨app, t₁, look, hseen⟩ :: turns, rfl, by simp, rfl⟩

/-- A sweep that succeeds has listed the WorkerApps, and gone over them. -/
theorem runs_sweep {t : Trace} {samples : List Sample}
    (hr : Runs StatePoller.sweep t (.ok samples)) :
    ∃ apps u, t = ⟨.listApps, .ok apps⟩ :: u ∧ Runs (sweepApps apps) u samples := by
  unfold StatePoller.sweep at hr
  obtain ⟨listed, t₁, u, rfl, hlisted, hrest⟩ := runs_bind.mp hr
  obtain rfl := runs_req.mp hlisted
  cases listed with
  | error e =>
    obtain ⟨-, heq⟩ := runs_ret.mp hrest
    cases heq
  | ok apps =>
    obtain ⟨swept, u₁, u₂, rfl, hloop, hlast⟩ := runs_bind.mp hrest
    obtain ⟨rfl, heq⟩ := runs_ret.mp hlast
    cases heq
    exact ⟨apps, u₁, by rw [List.append_nil]; rfl, hloop⟩

/-! ## §4. The published snapshot. -/

/-- The API server lists an object once. -/
structure ListsOnce (t : Trace) : Prop where
  apps : ∀ apps, Saw t .listApps (.ok apps) →
    (apps.map fun app => (app.namespace_, app.name)).Nodup
  pods : ∀ labels (list : PodList), Saw t (.listPods labels) (.ok list) →
    (list.val.map (·.name)).Nodup

/-- **One move of the exporter**: a sweep ends and replaces the snapshot, or fails and leaves it;
the operator stops leading.  A scrape reads the snapshot between two moves. -/
inductive ExporterMove (published : List Sample) : List Sample → Prop where
  | swept (t : Trace) (once : ListsOnce t) (samples : List Sample)
      (ran : Runs StatePoller.sweep t (.ok samples)) : ExporterMove published samples
  | failed (t : Trace) (e : Err) (ran : Runs StatePoller.sweep t (.error e)) :
      ExporterMove published published
  | stopped : ExporterMove published []

/-- What the operator shows when it is scraped; it starts with nothing. -/
def Exporter : List Sample → Prop := Relation.ReflTransGen ExporterMove []

/-- **One whole sweep**: every WorkerApp once, every pod of it once. -/
structure WholeSweep (turns : List Turn) : Prop where
  apps : (turns.map fun turn => (turn.app.namespace_, turn.app.name)).Nodup
  pods : ∀ turn ∈ turns, (turn.look.pods.map (·.name)).Nodup

theorem wholeSweep_nil : WholeSweep [] := ⟨List.nodup_nil, fun _ h => absurd h List.not_mem_nil⟩

/-- The pods of a look were listed. -/
theorem Seen.pods_nodup {app : WorkerApp} {t : Trace} {look : Look} (hs : Seen app t look)
    (hone : ∀ labels (list : PodList), Saw t (.listPods labels) (.ok list) →
      (list.val.map (·.name)).Nodup) : (look.pods.map (·.name)).Nodup := by
  unfold Look.pods
  cases hfleet : look.fleet with
  | none => exact List.nodup_nil
  | some fleet =>
    obtain ⟨-, list, hval, hsaw⟩ := hs.read fleet.1 fleet.2 hfleet
    show (fleet.2.map (·.name)).Nodup
    rw [← hval]
    exact hone _ _ hsaw

/-- **A scrape shows one sweep**, from its list of the WorkerApps to its end, or nothing. -/
theorem Exporter.swept {published : List Sample} (h : Exporter published) :
    published = [] ∨ ∃ t, ListsOnce t ∧ Runs StatePoller.sweep t (.ok published) := by
  induction h with
  | refl => exact .inl rfl
  | tail _ hmove ih =>
    cases hmove with
    | swept t once samples ran => exact .inr ⟨t, once, ran⟩
    | failed => exact ih
    | stopped => exact .inl rfl

/-- **It is whole**: every WorkerApp and every pod once; the empty sweep stands for nothing. -/
theorem Exporter.shown {published : List Sample} (h : Exporter published) :
    ∃ turns, WholeSweep turns ∧ published = snapshot turns := by
  rcases h.swept with rfl | ⟨t, hone, ran⟩
  · exact ⟨[], wholeSweep_nil, rfl⟩
  · obtain ⟨apps, u, rfl, hloop⟩ := runs_sweep ran
    obtain ⟨turns, rfl, rfl, rfl⟩ := runs_sweepApps hloop
    refine ⟨turns, ⟨?_, fun turn hturn => ?_⟩, rfl⟩
    · have hdistinct := hone.apps _ (List.mem_cons_self ..)
      rw [List.map_map] at hdistinct
      exact hdistinct
    · refine turn.seen.pods_nodup fun labels list hsaw => hone.pods labels list ?_
      exact List.mem_cons_of_mem _ (List.mem_flatMap.mpr ⟨turn, hturn, hsaw⟩)

/-! ## §5. Series. -/

/-- What identifies a series. -/
def Sample.series (s : Sample) : String × List String := (s.name, s.labels)

/-- The metrics of a pod. -/
def podMetricNames : List String :=
  ["celld_container_restarts", "celld_self_fenced", "celld_state_up", "celld_resident_cells",
    "celld_evicting", "celld_restoring", "celld_shedding", "celld_resident_cell_utilization",
    "celld_rss_bytes", "celld_in_use_bytes", "celld_cgroup_current_bytes",
    "celld_cgroup_working_set_bytes"]

/-- The metrics of a fleet. -/
def fleetMetricNames : List String :=
  ["celld_fleet_complete", "celld_fleet_sample_timestamp_seconds"]

section

variable {app : WorkerApp} {states : List (String × PodState)} {pod : Pod} {look : Look}
  {turn : Turn} {turns : List Turn} {s : Sample}

theorem podSamples_names :
    ((podSamples app states pod).map Sample.name).Sublist podMetricNames := by
  unfold podSamples
  dsimp only
  cases (states.find? (·.1 == pod.name)).map Prod.snd with
  | none => exact List.sublist_append_left (podMetricNames.take 3) (podMetricNames.drop 3)
  | some state =>
    unfold stateSamples
    dsimp only
    cases state.cgroupCurrentBytes <;> cases state.cgroupWorkingSetBytes <;>
      simp only [List.map_append, List.map_cons, List.map_nil] <;> decide

/-- The samples of one pod are distinct series. -/
theorem podSamples_series : ((podSamples app states pod).map Sample.series).Nodup := by
  have hnames : ((podSamples app states pod).map Sample.name).Nodup :=
    podSamples_names.nodup (by decide)
  refine List.Nodup.of_map Prod.fst ?_
  rw [List.map_map]
  exact hnames

/-- The samples of a fleet: of the fleet itself, and of each pod. -/
theorem mem_turnSamples (hs : s ∈ turn.samples) :
    (s.labels = [turn.app.namespace_, turn.app.name] ∧ s.name ∈ fleetMetricNames) ∨
      ∃ pod ∈ turn.look.pods, s ∈ podSamples turn.app turn.look.sweep.states pod ∧
        s.labels = [turn.app.namespace_, turn.app.name, pod.name] ∧ s.name ∈ podMetricNames := by
  rcases List.mem_append.mp hs with hs | hs
  · refine .inl ?_
    rcases List.mem_cons.mp hs with rfl | hs
    · exact ⟨rfl, List.mem_cons_self ..⟩
    · cases List.mem_singleton.mp hs
      exact ⟨rfl, List.mem_cons_of_mem _ (List.mem_cons_self ..)⟩
  · obtain ⟨pod, hpod, hs⟩ := List.mem_flatMap.mp hs
    exact .inr ⟨pod, hpod, hs, labels_podSamples hs, podSamples_names.subset (List.mem_map_of_mem hs)⟩

/-- The labels of a sample begin with the key of its WorkerApp. -/
theorem labels_samples (hs : s ∈ turn.samples) :
    s.labels.take 2 = [turn.app.namespace_, turn.app.name] := by
  rcases mem_turnSamples hs with ⟨hlabels, -⟩ | ⟨pod, -, -, hlabels, -⟩ <;> rw [hlabels] <;> rfl

/-- The samples of one fleet are distinct series. -/
theorem samples_series (hpods : (turn.look.pods.map (·.name)).Nodup) :
    (turn.samples.map Sample.series).Nodup := by
  unfold Turn.samples Look.samples
  rw [List.map_append, List.map_flatMap]
  refine List.Nodup.append (by simp [Sample.series, completeSample]) ?_ ?_
  · -- pod by pod; two pods differ in the last label
    refine List.nodup_flatMap.mpr ⟨fun pod _ => podSamples_series, ?_⟩
    refine (List.pairwise_map.mp hpods).imp ?_
    intro pod pod' hne x hx hx'
    obtain ⟨s, hs, rfl⟩ := List.mem_map.mp hx
    obtain ⟨s', hs', heq⟩ := List.mem_map.mp hx'
    have hlabels : s'.labels = s.labels := congrArg Prod.snd heq
    rw [labels_podSamples hs, labels_podSamples hs'] at hlabels
    simp only [List.cons.injEq, and_true, true_and] at hlabels
    exact hne hlabels.symm
  · -- the fleet's own have two labels, the pods' three
    intro x hx hx'
    obtain ⟨pod, -, hx'⟩ := List.mem_flatMap.mp hx'
    obtain ⟨s, hs, rfl⟩ := List.mem_map.mp hx'
    obtain ⟨s', hs', heq⟩ := List.mem_map.mp hx
    have hlabels : s'.labels = s.labels := congrArg Prod.snd heq
    rw [labels_podSamples hs] at hlabels
    rcases List.mem_cons.mp hs' with rfl | hs'
    · cases hlabels
    · cases List.mem_singleton.mp hs'
      cases hlabels

/-- The series of a whole sweep are distinct. -/
theorem snapshot_series (hw : WholeSweep turns) : ((snapshot turns).map Sample.series).Nodup := by
  unfold snapshot
  rw [List.map_flatMap]
  refine List.nodup_flatMap.mpr ⟨fun turn hturn => samples_series (hw.pods turn hturn), ?_⟩
  refine (List.pairwise_map.mp hw.apps).imp ?_
  intro turn turn' hne x hx hx'
  obtain ⟨s, hs, rfl⟩ := List.mem_map.mp hx
  obtain ⟨s', hs', heq⟩ := List.mem_map.mp hx'
  have hlabels : s'.labels = s.labels := congrArg Prod.snd heq
  have hkey := labels_samples hs
  rw [← hlabels, labels_samples hs'] at hkey
  simp only [List.cons.injEq, and_true] at hkey
  exact hne (Prod.ext hkey.1.symm hkey.2.symm)

/-- How many labels a metric has. -/
def arity (name : String) : Nat := if name ∈ fleetMetricNames then 2 else 3

theorem snapshot_arity (hs : s ∈ snapshot turns) : s.labels.length = arity s.name := by
  obtain ⟨turn, -, hs⟩ := List.mem_flatMap.mp hs
  rcases mem_turnSamples hs with ⟨hlabels, hname⟩ | ⟨pod, -, -, hlabels, hname⟩
  · unfold arity
    rw [hlabels, if_pos hname]
    rfl
  · have hpod : ∀ name ∈ podMetricNames, name ∉ fleetMetricNames := by decide
    unfold arity
    rw [hlabels, if_neg (hpod _ hname)]
    rfl

end

/-- **The registry accepts every scrape.**  Whatever sweeps have succeeded, failed or been cut off
before it, and whatever their requests were answered with: what is shown is what one whole sweep
published, or nothing; no series occurs twice; and the samples of one metric have the same label
names. -/
theorem scrape_consistent (published : List Sample) (h : Exporter published) :
    (published = [] ∨ ∃ t, ListsOnce t ∧ Runs StatePoller.sweep t (.ok published)) ∧
      (published.map Sample.series).Nodup ∧
      ∀ s ∈ published, ∀ s' ∈ published, s.name = s'.name → s.labels.length = s'.labels.length := by
  refine ⟨h.swept, ?_⟩
  obtain ⟨turns, hw, rfl⟩ := h.shown
  refine ⟨snapshot_series hw, fun s hs s' hs' hname => ?_⟩
  rw [snapshot_arity hs, snapshot_arity hs', hname]

/-- Every answered list has distinct names. -/
def listsOnce (t : Trace) : Bool :=
  t.all fun
    | ⟨.listApps, .ok apps⟩ => decide ((apps.map fun app => (app.namespace_, app.name)).Nodup)
    | ⟨.listPods _, .ok list⟩ => decide ((list.val.map (·.name)).Nodup)
    | _ => true

theorem listsOnce_sound {t : Trace} (h : listsOnce t = true) : ListsOnce t :=
  ⟨fun _ hsaw => of_decide_eq_true (List.all_eq_true.mp h _ hsaw),
    fun _ _ hsaw => of_decide_eq_true (List.all_eq_true.mp h _ hsaw)⟩

/-- The `/state` of a pod with this many resident cells. -/
def occupiedState (occupied : Int) : HttpResponse where
  status := 200
  size := 0
  body := some (.obj [("occupied", .int occupied), ("restoring", .int 0), ("shedding", .null)])

/-- A sweep over the settled fleet, one pod of which is in use, at the hundredth second. -/
def settledSweep : Trace × Cluster × List Sample :=
  runWith (S := Api)
    (answer { now := 100 * second
              state := fun ip => .ok (occupiedState (if ip = "shop-celld-0" then 3000 else 0)) })
    (sweepApps [servingApp]) (convergedCluster servingApp)

theorem exporter_settledSweep : Exporter settledSweep.2.2 := by
  refine .single (.swept (⟨.listApps, .ok [servingApp]⟩ :: settledSweep.1)
    (listsOnce_sound (by decide +kernel)) _ ?_)
  have hloop : Runs (sweepApps [servingApp]) settledSweep.1 settledSweep.2.2 :=
    runs_runWith settledSweep rfl
  refine runs_bind.mpr ⟨.ok [servingApp], [⟨.listApps, .ok [servingApp]⟩], settledSweep.1, rfl,
    runs_req.mpr rfl, ?_⟩
  exact runs_bind.mpr ⟨_, settledSweep.1, [], (List.append_nil _).symm, hloop, .nil _⟩

/-- The settled fleet is exported, pod by pod. -/
theorem scrape_consistent_settled :
    settledSweep.2.2.length = 32 ∧ (settledSweep.2.2.map Sample.series).Nodup :=
  ⟨by decide +kernel, (scrape_consistent _ exporter_settledSweep).2.1⟩

end CelldOperator
