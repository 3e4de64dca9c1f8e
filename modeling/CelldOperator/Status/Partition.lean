/-
  CelldOperator.Status.Partition

  **THE PARTITION A STATUS REPORTS.**

  `status.rollout.partition` is documented as the partition of the StatefulSet, 0
  meaning that no rollout is in progress.  Every exit of the fleet step fills it
  in by itself, and the exits that wait or refuse leave it 0, whatever the
  StatefulSet holds.

    • `KeepsPartition`     — the others, who may do anything but move the
      partition: it is the operator's,
    • `writeFleet_exec`    — a write of the fleet step amid them,
    • `recreateStep_partition`, …, `driveFleet_partition` — one lemma per
      function: the outcome tells the stored partition exactly if it was 0 or
      the step went on,
    • `reported_partition_iff` — the same of the status of a whole pass.
-/
import CelldOperator.Effect.Hoare
import CelldOperator.Pass.Known
import CelldOperator.Status.Written

namespace CelldOperator

open Effect Prog

/-! ## §1. The stored partition. -/

/-- The partition the API server has for the fleet. -/
def storedPartition (app : WorkerApp) (c : Cluster) : Option Nat :=
  (c.live .statefulSet (fleetName app)).map stsPartition

/-- What others do to the cluster leaves the fleet's partition. -/
def KeepsPartition (app : WorkerApp) (c c' : Cluster) : Prop :=
  c.Later c' ∧ storedPartition app c' = storedPartition app c

/-- An execution of a program of the pass amid such others. -/
abbrev Amid (app : WorkerApp) {α : Type} (c : Cluster) (p : P α) (t : Trace) (c' : Cluster)
    (a : α) : Prop :=
  Exec Serve (KeepsPartition app) c p t c' (.ret a)

section

variable {app : WorkerApp} {c c' : Cluster} {t : Trace} {α β : Type}

theorem stable_stored (x : Option Nat) :
    Stable (KeepsPartition app) fun c => storedPartition app c = x :=
  fun _ _ h he => he.2.trans h

theorem stored_of_moves (h : Relation.ReflTransGen (KeepsPartition app) c c') :
    storedPartition app c' = storedPartition app c :=
  (stable_stored _).moves h rfl

theorem later_of_moves (h : Relation.ReflTransGen (KeepsPartition app) c c') : c.Later c' := by
  induction h with
  | refl => exact Cluster.Later.refl c
  | tail _ he ih => exact ih.trans he.1

/-- A program that does not write the StatefulSet. -/
theorem stored_of_only {p : P α} {a : α}
    (hp : Only (fun o : Op => o.writes ≠ some .statefulSet) p) (hx : Amid app c p t c' a) :
    storedPartition app c' = storedPartition app c := by
  have hkeeps : Ensures Serve (KeepsPartition app)
      (fun s => storedPartition app s = storedPartition app c) p
      (fun _ s => storedPartition app s = storedPartition app c) := by
    refine ensures_only (stable_stored _) hp fun s o r s' ho hs hserve => ?_
    show (s'.live .statefulSet (fleetName app)).map stsPartition = _
    rw [hserve.live_of_writes ho (fleetName app)]
    exact hs
  exact hkeeps c t c' a rfl hx

theorem stored_of_confined {K : Kind → Prop} {p : P α} {a : α} (hp : Confined K p)
    (hK : ¬ K .statefulSet) (hx : Amid app c p t c' a) :
    storedPartition app c' = storedPartition app c :=
  stored_of_only (Only.mono (fun _ ho hw => hK (ho.1 _ hw)) hp) hx

theorem exec_check_cases {p : P (Except Err α)} {f : α → P (Except Err β)} {res : Except Err β}
    (hx : Amid app c (check p f) t c' res) :
    (∃ e c₁, res = .error e ∧ Amid app c p t c₁ (.error e)) ∨
      ∃ a t₁ t₂ c₁, t = t₁ ++ t₂ ∧ Amid app c p t₁ c₁ (.ok a) ∧ Amid app c₁ (f a) t₂ c' res := by
  obtain ⟨first, t₁, t₂, c₁, rfl, h₁, h₂⟩ := Exec.bind_cases hx
  cases first with
  | error e =>
    obtain ⟨rfl, rfl, -⟩ := h₂.ret_cases
    rw [List.append_nil]
    exact .inl ⟨e, c₁, rfl, h₁⟩
  | ok a => exact .inr ⟨a, t₁, t₂, c₁, rfl, h₁, h₂⟩

theorem exec_check {p : P (Except Err α)} {f : α → P (Except Err β)} {b : β}
    (hx : Amid app c (check p f) t c' (.ok b)) :
    ∃ a t₁ t₂ c₁, t = t₁ ++ t₂ ∧ Amid app c p t₁ c₁ (.ok a) ∧ Amid app c₁ (f a) t₂ c' (.ok b) := by
  rcases exec_check_cases hx with ⟨e, c₁, habsurd, -⟩ | hparts
  · cases habsurd
  · exact hparts

/-- The exit of a function. -/
theorem stored_of_pure {a b : α} (hx : Amid app c (pure a) t c' b) :
    t = [] ∧ a = b ∧ storedPartition app c' = storedPartition app c := by
  obtain ⟨ht, hab, hmoves⟩ := Exec.ret_cases hx
  exact ⟨ht, hab, stored_of_moves hmoves⟩

theorem later_amid {p : P α} {a : α} (hx : Amid app c p t c' a) : c.Later c' :=
  later_exec (fun _ _ h => h.1) hx

end

/-- The pass has read `existing`, and its partition is the stored one. -/
structure Standing (app : WorkerApp) (existing : StatefulSet) (c : Cluster) : Prop where
  known : existing ∈ c.past .statefulSet (fleetName app)
  stored : storedPartition app c = some (stsPartition existing)

theorem Standing.over {app : WorkerApp} {existing : StatefulSet} {c c' : Cluster} {α : Type}
    {K : Kind → Prop} {p : P α} {a : α} {t : Trace} (hs : Standing app existing c)
    (hp : Confined K p) (hK : ¬ K .statefulSet) (hx : Amid app c p t c' a) :
    Standing app existing c' :=
  ⟨(later_amid hx).mem_past hs.known, (stored_of_confined hp hK hx).trans hs.stored⟩

theorem calm_append_iff {t u : Trace} : Calm (t ++ u) ↔ Calm t ∧ Calm u := by
  constructor
  · intro h
    exact ⟨fun o e hs => h o e (hs.append u), fun o e hs => h o e (hs.append_left t)⟩
  · rintro ⟨ht, hu⟩
    exact ht.append hu

theorem calm_nil : Calm [] := fun _ _ hs => by cases hs

theorem not_calm_of_conflict {o : StatefulSet} {e : Err} (hc : e.isConflict = true) (t : Trace) :
    ¬ Calm (⟨.update .statefulSet o, .error e⟩ :: t) := by
  intro hcalm
  rw [hcalm o e List.mem_cons_self] at hc
  cases hc

/-- **A write of the fleet step, amid the others**: it conflicts and leaves the partition, or it
is accepted and the partition is the one sent. -/
theorem writeFleet_exec {app : WorkerApp} {existing o : StatefulSet} {c c' : Cluster}
    {next : StatefulSet → P (Except Err FleetOutcome)} {t : Trace} {out : FleetOutcome}
    (hs : Standing app existing c) (hx : Amid app c (writeFleet app o next) t c' (.ok out))
    (hid : o.metadata.name = existing.metadata.name ∧ o.rv = existing.rv) :
    (¬ Calm t ∧ out = conflictOutcome app ∧
        storedPartition app c' = some (stsPartition existing)) ∨
      ∃ stored u c₁, t = ⟨.update .statefulSet o, .ok stored⟩ :: u ∧ Accepted existing o stored ∧
        storedPartition app c₁ = some (stsPartition o) ∧ Amid app c₁ (next stored) u c' (.ok out) := by
  unfold writeFleet updateFleet at hx
  obtain ⟨written, t₁, t₂, c₂, rfl, hx₁, hx₂⟩ := exec_check hx
  obtain ⟨answer, u₁, u₂, c₁, rfl, hask, hrest⟩ := Exec.bind_cases hx₁
  obtain ⟨b₁, b₂, hbefore, hserve, rfl, hafter⟩ := hask.req_cases
  have hstored : storedPartition app b₁ = some (stsPartition existing) :=
    (stored_of_moves hbefore).trans hs.stored
  have hknown : existing ∈ b₁.past .statefulSet (fleetName app) :=
    (later_of_moves hbefore).mem_past hs.known
  cases answer with
  | error e =>
    -- a refused write changes nothing
    obtain rfl : b₂ = b₁ := hserve
    by_cases hc : e.isConflict = true
    · simp only [hc, if_true] at hrest
      obtain ⟨rfl, hwritten, hmoves⟩ := stored_of_pure hrest
      cases hwritten
      obtain ⟨rfl, hout, hmoves'⟩ := stored_of_pure hx₂
      refine .inl ⟨not_calm_of_conflict hc _, (Except.ok.inj hout).symm, ?_⟩
      rw [hmoves', hmoves, stored_of_moves hafter, hstored]
    · simp only [hc] at hrest
      obtain ⟨-, hwritten, -⟩ := stored_of_pure hrest
      cases hwritten
  | ok stored =>
    obtain ⟨rfl, hwritten, hmoves⟩ := stored_of_pure hrest
    cases hwritten
    obtain ⟨-, hacc, hput⟩ := serve_update_exact hknown hid hserve
    have hname : stored.metadata.name = fleetName app := by
      rw [hacc.metadata]
      exact hid.1.trans (Cluster.name_of_mem_past hknown)
    refine .inr ⟨stored, t₂, c₂, rfl, hacc, ?_, hx₂⟩
    rw [hmoves, stored_of_moves hafter]
    unfold storedPartition
    rw [live_of_put hput hname]
    have hspec : stored.sspec = o.sspec := hacc.spec
    show some (stored.sspec.partition.getD 0) = some (stsPartition o)
    rw [hspec]
    rfl

/-! ## §2. Stopping and starting. -/

/-- The old fleet is gone: nothing is asked for, nothing is there, and the latest list was
empty. -/
structure Drained (app : WorkerApp) (existing : StatefulSet) (t : Trace) : Prop where
  scaled : stsReplicas existing = 0
  observed : existing.sstatus.observedGeneration = existing.metadata.generation
  gone : existing.sstatus.replicas = 0
  pods : ∃ pods, LastPods app t pods ∧ pods.val = []

/-- The mixed fleet is acceptable, by the template and by the latest list. -/
structure RollingSafe (app : WorkerApp) (existing desired : StatefulSet) (t : Trace) : Prop where
  template : fleetBreakingReason existing.sspec.template.spec desired.sspec.template.spec = ""
  pods : ∃ pods, LastPods app t pods ∧ podsBreakingReason existing desired pods.val = ""

section

variable {r : Reconciler} {app : WorkerApp} {existing desired : StatefulSet} {c c' : Cluster}
  {t : Trace} {out : FleetOutcome}

/-- An outcome without a partition tells the stored one exactly if that is 0. -/
theorem tells_zero_iff {p : Nat} (hstored : storedPartition app c' = some p)
    (hout : out.partition = 0) : storedPartition app c' = some out.partition ↔ p = 0 := by
  rw [hstored, hout, Option.some_inj]

/-- A list, and what follows it without another one. -/
theorem lastPods_cons {pods : PodList} {u : Trace} (pre : Trace)
    (hu : ∀ e ∈ u, ∀ labels, e.op ≠ .listPods labels) :
    LastPods app (pre ++ ⟨.listPods (selectorLabels app), .ok pods⟩ :: u) pods :=
  ⟨pre, u, rfl, hu⟩

theorem recreateStep_partition {hazard : String} (pre : Trace) (hs : Standing app existing c)
    (hx : Amid app c (recreateStep app existing desired hazard) t c' (.ok out)) :
    storedPartition app c' = some out.partition ↔
      stsPartition existing = 0 ∨ (Calm t ∧ Drained app existing (pre ++ t)) := by
  unfold recreateStep at hx
  dsimp only at hx
  split at hx
  · -- scaling to zero leaves the partition and reports none
    next hrun =>
      have hnot : ¬ Drained app existing (pre ++ t) := fun hd => hrun hd.scaled
      rw [or_iff_left fun h => hnot h.2]
      rcases writeFleet_exec hs hx ⟨rfl, rfl⟩ with
        ⟨-, rfl, hstored⟩ | ⟨stored, u, c₁, rfl, -, hstored, hx₁⟩
      · exact tells_zero_iff hstored rfl
      · obtain ⟨-, hout, hkept⟩ := stored_of_pure hx₁
        cases hout
        exact tells_zero_iff (hkept.trans hstored) rfl
  · next hstop =>
    obtain ⟨pods, t₁, t₂, c₁, rfl, hlist, hx₂⟩ := exec_check hx
    have hs₁ : Standing app existing c₁ :=
      hs.over (confined_read (K := fun _ => False) rfl rfl) (fun hf => hf) hlist
    obtain ⟨_, _, _, _, rfl, _⟩ := hlist.req_cases
    split at hx₂
    · -- still draining
      next hwait =>
        obtain ⟨rfl, hout, hkept⟩ := stored_of_pure hx₂
        cases hout
        have hnot : ¬ Drained app existing
            (pre ++ ([⟨.listPods (selectorLabels app), .ok pods⟩] ++ [])) := by
          intro hd
          obtain ⟨pods', hlast, hempty⟩ := hd.pods
          cases hlast.unique (lastPods_cons pre (by simp))
          rcases hwait with h | h | h
          · exact h hd.observed
          · exact h hempty
          · have := hd.gone
            omega
        rw [or_iff_left fun h => hnot h.2]
        exact tells_zero_iff (hkept.trans hs₁.stored) rfl
    · next hgo =>
      push Not at hgo
      obtain ⟨hobs, hempty, hgone⟩ := hgo
      rcases writeFleet_exec hs₁ hx₂ ⟨rfl, rfl⟩ with
        ⟨hconf, rfl, hstored⟩ | ⟨stored, u, c₂, rfl, -, hstored, hx₃⟩
      · have hnot : ¬ Calm ([⟨.listPods (selectorLabels app), .ok pods⟩] ++ t₂) :=
          fun hcalm => hconf (calm_append_iff.mp hcalm).2
        rw [or_iff_left fun h => hnot h.1]
        exact tells_zero_iff hstored rfl
      · -- the new fleet starts at partition 0
        obtain ⟨rfl, hout, hkept⟩ := stored_of_pure hx₃
        cases hout
        refine iff_of_true (hkept.trans hstored) (.inr ⟨?_, ?_⟩)
        · exact calm_append_iff.mpr ⟨SparesFleet.calm (by simp [SparesFleet, Op.writes]),
            calm_answer fun _ h => by cases h⟩
        · exact ⟨not_not.mp hstop, hobs, by omega, pods, lastPods_cons pre (by simp), hempty⟩

/-- The mixed-fleet check, opened: the template speaks first, then the pods of one list. -/
theorem liveFleetBreakingReason_runs {breaking : String}
    (ht : Runs (liveFleetBreakingReason app existing desired) t (.ok breaking)) :
    (fleetBreakingReason existing.sspec.template.spec desired.sspec.template.spec = breaking ∧
        breaking ≠ "" ∧ t = []) ∨
      (fleetBreakingReason existing.sspec.template.spec desired.sspec.template.spec = "" ∧
        ∃ pods, t = [⟨.listPods (selectorLabels app), .ok pods⟩] ∧
          podsBreakingReason existing desired pods.val = breaking) := by
  unfold liveFleetBreakingReason at ht
  dsimp only at ht
  split at ht
  · next hne =>
    obtain ⟨rfl, hb⟩ := runs_ret.mp ht
    cases hb
    exact .inl ⟨rfl, hne, rfl⟩
  · next heq =>
    rcases runs_check ht with ⟨e, habsurd, -⟩ | ⟨pods, t₁, t₂, rfl, ht₁, ht₂⟩
    · cases habsurd
    · obtain rfl := runs_req.mp ht₁
      obtain ⟨rfl, hb⟩ := runs_ret.mp ht₂
      exact .inr ⟨not_not.mp heq, pods, rfl, Except.ok.inj hb⟩

/-- It has no objection exactly if the fleet may be mixed. -/
theorem rollingSafe_iff {breaking : String} {u : Trace}
    (ht : Runs (liveFleetBreakingReason app existing desired) t (.ok breaking))
    (hu : ∀ e ∈ u, ∀ labels, e.op ≠ .listPods labels) :
    RollingSafe app existing desired (t ++ u) ↔ breaking = "" := by
  rcases liveFleetBreakingReason_runs ht with ⟨htemplate, hne, -⟩ | ⟨htemplate, pods, rfl, hb⟩
  · refine iff_of_false (fun hsafe => hne ?_) hne
    rw [← htemplate, hsafe.template]
  · have hlast : LastPods app ([⟨.listPods (selectorLabels app), .ok pods⟩] ++ u) pods :=
      lastPods_cons [] hu
    constructor
    · rintro ⟨-, pods', hlast', hb'⟩
      cases hlast'.unique hlast
      exact hb.symm.trans hb'
    · intro hempty
      exact ⟨htemplate, pods, hlast, hb.trans hempty⟩

/-- Where a changed template can go on from. -/
def TemplateGoes (app : WorkerApp) (existing desired : StatefulSet) (t : Trace) : Prop :=
  (app.spec.celld.updateStrategy = .recreate → Drained app existing t) ∧
    (app.spec.celld.updateStrategy ≠ .recreate → RollingSafe app existing desired t)

theorem changeTemplate_partition (hs : Standing app existing c)
    (hx : Amid app c (changeTemplate r app existing desired) t c' (.ok out)) :
    storedPartition app c' = some out.partition ↔
      stsPartition existing = 0 ∨ (Calm t ∧ TemplateGoes app existing desired t) := by
  unfold changeTemplate at hx
  obtain ⟨breaking, t₁, t₂, c₁, rfl, hbreaking, hx₂⟩ := exec_check hx
  have hreads := liveFleetBreakingReason_reads app existing desired
  have hs₁ := hs.over hreads (fun hf => hf) hbreaking
  have hcalm₁ : Calm t₁ := (hreads.spares hbreaking.steps).calm
  rw [calm_append_iff, and_iff_right hcalm₁]
  split at hx₂
  · -- refused as not rolling-safe
    next hunsafe =>
      obtain ⟨rfl, hout, hkept⟩ := stored_of_pure hx₂
      cases hout
      have hnot : ¬ TemplateGoes app existing desired (t₁ ++ []) :=
        fun hgoes => hunsafe.1 ((rollingSafe_iff hbreaking.steps (by simp)).mp (hgoes.2 hunsafe.2))
      rw [or_iff_left fun h => hnot h.2]
      exact tells_zero_iff (hkept.trans hs₁.stored) rfl
  · next hsafe =>
    split at hx₂
    · next hrecreate =>
      rw [recreateStep_partition t₁ hs₁ hx₂]
      unfold TemplateGoes
      rw [and_iff_left fun hne => absurd hrecreate hne, imp_iff_right hrecreate]
    · -- the start of a rolling update
      next hrolling =>
        have hempty : breaking = "" := by
          by_contra hne
          exact hsafe ⟨hne, hrolling⟩
        obtain ⟨now, u₁, u₂, c₂, rfl, hnow, hx₃⟩ := Exec.bind_cases hx₂
        have hs₂ : Standing app existing c₂ :=
          hs₁.over (confined_read (K := fun _ => False) rfl rfl) (fun hf => hf) hnow
        obtain ⟨_, _, _, _, rfl, _⟩ := hnow.req_cases
        rcases writeFleet_exec hs₂ hx₃ ⟨rfl, rfl⟩ with
          ⟨hconf, rfl, hstored⟩ | ⟨stored, u, c₃, rfl, -, hstored, hx₄⟩
        · have hnot : ¬ Calm ([⟨.now, now⟩] ++ u₂) :=
            fun hcalm => hconf (calm_append_iff.mp hcalm).2
          rw [or_iff_left fun h => hnot h.1]
          exact tells_zero_iff hstored rfl
        · obtain ⟨rfl, hout, hkept⟩ := stored_of_pure hx₄
          cases hout
          refine iff_of_true (hkept.trans hstored)
            (.inr ⟨?_, fun h => absurd h hrolling, fun _ => ?_⟩)
          · exact calm_append_iff.mpr ⟨SparesFleet.calm (by simp [SparesFleet, Op.writes]),
              calm_answer fun _ h => by cases h⟩
          · exact (rollingSafe_iff hbreaking.steps (by simp)).mpr hempty

/-! ## §3. The rolling step. -/

/-- The gates and the release: what is reported is the partition they worked with, or the one
that was released. -/
theorem releaseNext_partition {live : Nat} (hs : Standing app existing c)
    (hpos : stsPartition existing ≠ 0)
    (hx : Amid app c (releaseNext r app existing (stsPartition existing) live) t c' (.ok out)) :
    storedPartition app c' = some out.partition ↔ Calm t := by
  unfold releaseNext at hx
  dsimp only at hx
  split at hx
  · obtain ⟨rfl, hout, hkept⟩ := stored_of_pure hx
    cases hout
    exact iff_of_true (hkept.trans hs.stored) calm_nil
  · obtain ⟨wait, t₁, t₂, c₁, rfl, hwait, hx₁⟩ := Exec.bind_cases hx
    have hs₁ := hs.over (settleWait_reads _ _) (fun hf => hf) hwait
    have hcalm₁ : Calm t₁ := ((settleWait_reads _ _).spares hwait.steps).calm
    rw [calm_append_iff, and_iff_right hcalm₁]
    cases wait with
    | some left =>
      obtain ⟨rfl, hout, hkept⟩ := stored_of_pure hx₁
      cases hout
      exact iff_of_true (hkept.trans hs₁.stored) calm_nil
    | none =>
      dsimp only at hx₁
      split at hx₁
      · obtain ⟨rfl, hout, hkept⟩ := stored_of_pure hx₁
        cases hout
        exact iff_of_true (hkept.trans hs₁.stored) calm_nil
      · obtain ⟨released, u₁, u₂, c₂, rfl, hreleased, hx₂⟩ := Exec.bind_cases hx₁
        have hs₂ := hs₁.over (checkReleased_reads _ _ _) (fun hf => hf) hreleased
        have hcalm₂ : Calm u₁ :=
          ((checkReleased_reads _ _ _).spares hreleased.steps).calm
        rw [calm_append_iff, and_iff_right hcalm₂]
        rcases released with _ | ⟨waitingOn, _ | e⟩
        · dsimp only at hx₂
          obtain ⟨sweep, v₁, v₂, c₃, rfl, hsweep, hx₃⟩ := Exec.bind_cases hx₂
          have hs₃ := hs₂.over (observeFleet_reads _ _) (fun hf => hf) hsweep
          have hcalm₃ : Calm v₁ :=
            ((observeFleet_reads _ _).spares hsweep.steps).calm
          rw [calm_append_iff, and_iff_right hcalm₃]
          split at hx₃
          · obtain ⟨rfl, hout, hkept⟩ := stored_of_pure hx₃
            cases hout
            exact iff_of_true (hkept.trans hs₃.stored) calm_nil
          · -- both gates are open
            obtain ⟨now, w₁, w₂, c₄, rfl, hnow, hx₄⟩ := Exec.bind_cases hx₃
            have hs₄ : Standing app existing c₄ :=
              hs₃.over (confined_read (K := fun _ => False) rfl rfl) (fun hf => hf) hnow
            obtain ⟨_, _, _, _, rfl, _⟩ := hnow.req_cases
            have hclock : Calm [⟨.now, now⟩] :=
              SparesFleet.calm (by simp [SparesFleet, Op.writes])
            rw [calm_append_iff, and_iff_right hclock]
            rcases writeFleet_exec hs₄ hx₄ ⟨rfl, rfl⟩ with
              ⟨hconf, rfl, hstored⟩ | ⟨stored, u, c₅, rfl, -, hstored, hx₅⟩
            · refine iff_of_false (fun htells => hpos ?_) hconf
              exact (tells_zero_iff hstored rfl).mp htells
            · obtain ⟨rfl, hout, hkept⟩ := stored_of_pure hx₅
              cases hout
              exact iff_of_true (hkept.trans hstored) (calm_answer fun _ h => by cases h)
        · obtain ⟨rfl, hout, hkept⟩ := stored_of_pure hx₂
          cases hout
          exact iff_of_true (hkept.trans hs₂.stored) calm_nil
        · obtain ⟨-, hout, -⟩ := stored_of_pure hx₂
          cases hout

theorem rolloutStep_partition (hs : Standing app existing c) (hpos : stsPartition existing ≠ 0)
    (hx : Amid app c (rolloutStep r app existing) t c' (.ok out)) :
    storedPartition app c' = some out.partition ↔ Calm t := by
  unfold rolloutStep at hx
  split at hx
  · next hover =>
    rcases writeFleet_exec hs hx ⟨rfl, rfl⟩ with
      ⟨hconf, rfl, hstored⟩ | ⟨stored, u, c₁, rfl, hacc, hstored, hx₁⟩
    · refine iff_of_false (fun htells => hpos ?_) hconf
      exact (tells_zero_iff hstored rfl).mp htells
    · -- the generation has moved with the clamp, so the first gate holds
      have hmoved := clamp_unobserved hs.known hover hacc
      unfold releaseNext at hx₁
      dsimp only at hx₁
      rw [if_pos (.inr hmoved)] at hx₁
      obtain ⟨rfl, hout, hkept⟩ := stored_of_pure hx₁
      cases hout
      exact iff_of_true (hkept.trans hstored) (calm_answer fun _ h => by cases h)
  · exact releaseNext_partition hs hpos hx

/-! ## §4. The fleet step. -/

/-- Without a rollout nothing but 0 is reported, and nothing but 0 is stored. -/
theorem steadyFleet_partition {version : String} (hs : Standing app existing c)
    (hzero : stsPartition existing = 0)
    (hx : Amid app c (steadyFleet app existing version) t c' (.ok out)) :
    storedPartition app c' = some out.partition := by
  unfold steadyFleet at hx
  split at hx
  · rcases writeFleet_exec hs hx ⟨rfl, rfl⟩ with
      ⟨-, rfl, hstored⟩ | ⟨stored, u, c₁, rfl, -, hstored, hx₁⟩
    · exact (tells_zero_iff hstored rfl).mpr hzero
    · obtain ⟨-, hout, hkept⟩ := stored_of_pure hx₁
      cases hout
      exact (tells_zero_iff (hkept.trans hstored) rfl).mpr hzero
  · split at hx
    · obtain ⟨-, hout, hkept⟩ := stored_of_pure hx
      cases hout
      exact (tells_zero_iff (hkept.trans hs.stored) rfl).mpr hzero
    · obtain ⟨sweep, t₁, t₂, c₁, rfl, hsweep, hx₁⟩ := Exec.bind_cases hx
      have hs₁ := hs.over (observeFleet_reads _ _) (fun hf => hf) hsweep
      split at hx₁
      · obtain ⟨-, hout, hkept⟩ := stored_of_pure hx₁
        cases hout
        exact (tells_zero_iff (hkept.trans hs₁.stored) rfl).mpr hzero
      · obtain ⟨states, u₁, u₂, c₂, rfl, hstates, hx₂⟩ := Exec.bind_cases hx₁
        have hs₂ : Standing app existing c₂ :=
          hs₁.over (confined_read (K := fun _ => False) rfl rfl) (fun hf => hf) hstates
        split at hx₂
        · obtain ⟨-, hout, hkept⟩ := stored_of_pure hx₂
          cases hout
          exact (tells_zero_iff (hkept.trans hs₂.stored) rfl).mpr hzero
        · obtain ⟨-, hout, hkept⟩ := stored_of_pure hx₂
          cases hout
          exact (tells_zero_iff (hkept.trans hs₂.stored) rfl).mpr hzero

/-- **The step goes on**: it is not refused, no write conflicts, a fleet that is to be recreated
has drained, and a changed template has somewhere to go. -/
structure Proceeds (app : WorkerApp) (existing desired : StatefulSet) (t : Trace) : Prop where
  permitted : runtimeChangeRefusal app (stsContainerImage existing.sspec.template.spec) = ""
  calm : Calm t
  stopping : recreating existing = true → Drained app existing t
  changing : recreating existing = false → templateChanged existing desired = true →
    TemplateGoes app existing desired t

theorem driveFleet_partition {version : String} (hs : Standing app existing c)
    (hx : Amid app c (driveFleet r app existing desired version) t c' (.ok out)) :
    storedPartition app c' = some out.partition ↔
      stsPartition existing = 0 ∨ Proceeds app existing desired t := by
  unfold driveFleet at hx
  dsimp only at hx
  split at hx
  · next hrefused =>
    obtain ⟨-, hout, hkept⟩ := stored_of_pure hx
    cases hout
    rw [or_iff_left fun h : Proceeds app existing desired t => hrefused h.permitted]
    exact tells_zero_iff (hkept.trans hs.stored) rfl
  · next hrefusal =>
    have hpermitted := not_not.mp hrefusal
    split at hx
    · next hrec =>
      have hstep := recreateStep_partition [] hs hx
      rw [List.nil_append] at hstep
      rw [hstep]
      refine or_congr_right ⟨?_, fun h => ⟨h.calm, h.stopping hrec⟩⟩
      rintro ⟨hcalm, hdrained⟩
      refine ⟨hpermitted, hcalm, fun _ => hdrained, fun hidle => ?_⟩
      rw [hrec] at hidle
      cases hidle
    · next hrec =>
      have hidle : recreating existing = false := by simpa using hrec
      have hstop : recreating existing = true → Drained app existing t :=
        fun h => absurd h hrec
      split at hx
      · next hchanged =>
        rw [changeTemplate_partition hs hx]
        refine or_congr_right ⟨?_, fun h => ⟨h.calm, h.changing hidle hchanged⟩⟩
        rintro ⟨hcalm, hgoes⟩
        exact ⟨hpermitted, hcalm, hstop, fun _ _ => hgoes⟩
      · next hsame =>
        have hchange : recreating existing = false → templateChanged existing desired = true →
            TemplateGoes app existing desired t := fun _ h => absurd h hsame
        split at hx
        · next hpart =>
          have hpos : stsPartition existing ≠ 0 := by omega
          rw [rolloutStep_partition hs hpos hx, or_iff_right hpos]
          exact ⟨fun hcalm => ⟨hpermitted, hcalm, hstop, hchange⟩, fun h => h.calm⟩
        · next hpart =>
          have hzero : stsPartition existing = 0 := by omega
          exact iff_of_true (steadyFleet_partition hs hzero hx) (.inl hzero)

/-- **The condition**, of everything the fleet step read: the StatefulSet has partition 0, or the
scaler is paused and the step goes on. -/
def PartitionTold (r : Reconciler) (app : WorkerApp) (version : String) (t : Trace) : Prop :=
  ∀ hash existing paused t₁ t₂ t₃,
    t = t₁ ++ ⟨.getLive .statefulSet (fleetName app), .ok existing⟩ :: (t₂ ++ t₃) →
    Runs (configHash r app) t₁ (.ok hash) →
    Runs (awaitPause r app existing (desiredFleet r app hash version)) t₂ (.ok paused) →
    stsPartition existing = 0 ∨
      (paused = true ∧ Proceeds app existing (desiredFleet r app hash version) t₃)

theorem reconcileFleet_partition {version : String}
    (hx : Amid app c (reconcileFleet r app version) t c' (.ok out)) :
    storedPartition app c' = some out.partition ↔ PartitionTold r app version t := by
  unfold reconcileFleet at hx
  obtain ⟨hash, t₁, u, c₁, rfl, hhash, hx₁⟩ := exec_check hx
  obtain ⟨read, u₁, u₂, c₂, rfl, hread, hx₂⟩ := Exec.bind_cases hx₁
  obtain ⟨b₁, b₂, -, hserve, rfl, hafter⟩ := hread.req_cases
  cases read with
  | error e =>
    dsimp only at hx₂
    split at hx₂
    · -- the StatefulSet is created, at partition 0
      obtain ⟨stored, v₁, v₂, c₃, rfl, hcreate, hx₃⟩ := exec_check hx₂
      obtain ⟨d₁, d₂, -, hserved, rfl, hmoves⟩ := hcreate.req_cases
      obtain ⟨-, hout, hkept⟩ := stored_of_pure hx₃
      cases hout
      obtain ⟨-, hcreated, hput⟩ := hserved
      have hname : stored.metadata.name = fleetName app := by
        rw [hcreated.metadata]
        rfl
      have hspec : stored.sspec = (desiredFleet r app hash version).sspec := hcreated.spec
      refine iff_of_true ?_ ?_
      · rw [hkept, stored_of_moves hmoves]
        unfold storedPartition
        rw [live_of_put hput hname]
        show some (stored.sspec.partition.getD 0) = some 0
        rw [hspec]
        rfl
      · intro hash' existing paused t₁' t₂ t₃ heq hhash' _
        obtain ⟨-, hread, -⟩ := read_unique hhash.steps hhash' heq
        cases hread
    · obtain ⟨-, hout, -⟩ := stored_of_pure hx₂
      cases hout
  | ok existing =>
    obtain ⟨rfl, hlive⟩ := hserve
    have hs : Standing app existing c₂ := by
      refine ⟨(later_of_moves hafter).mem_past (Cluster.mem_past_of_live hlive), ?_⟩
      rw [stored_of_moves hafter]
      unfold storedPartition
      rw [hlive]
      rfl
    dsimp only at hx₂
    cases howned : requireOwnership app existing with
    | error e =>
      unfold reconcileExisting at hx₂
      rw [howned] at hx₂
      obtain ⟨-, hout, -⟩ := stored_of_pure hx₂
      cases hout
    | ok _ =>
      rw [reconcileExisting_eq howned] at hx₂
      obtain ⟨paused, v₁, v₂, c₃, rfl, hpause, hx₃⟩ := exec_check hx₂
      have hs₃ := hs.over awaitPause_confined (by simp) hpause
      -- the answers leave one way to read them
      have honly : PartitionTold r app version (t₁ ++
          ([⟨.getLive .statefulSet (fleetName app), .ok existing⟩] ++ (v₁ ++ v₂))) ↔
          stsPartition existing = 0 ∨
            (paused = true ∧ Proceeds app existing (desiredFleet r app hash version) v₂) := by
        constructor
        · intro h
          exact h hash existing paused t₁ v₁ v₂ rfl hhash.steps hpause.steps
        · intro h hash' existing' paused' t₁' t₂' t₃' heq hhash' hpause'
          obtain ⟨rfl, rfl, rfl, rfl⟩ :=
            parts_unique hhash.steps hpause.steps hhash' hpause' heq
          exact h
      rw [honly]
      cases paused with
      | true =>
        rw [driveFleet_partition hs₃ hx₃]
        simp
      | false =>
        obtain ⟨-, hout, hkept⟩ := stored_of_pure hx₃
        cases hout
        rw [tells_zero_iff (hkept.trans hs₃.stored) rfl]
        simp

/-! ## §5. The pass. -/

/-- The status a pass leaves: the one it writes, or the stored one when it writes none. -/
def LeavesStatus (app : WorkerApp) (t : Trace) (status : WorkerAppStatus) : Prop :=
  (∃ answer, Saw t (.updateStatus { app with status := status }) answer) ∨
    (status = app.status ∧ Unreported t)

/-- Behind the fleet step, the status reports the partition of the outcome. -/
theorem finishPass_leaves {resolved : ResolvedVersion} {conditions : List Condition}
    {res : Except Err Result} {pre : Trace} (hpre : Unreported pre)
    (ht : Runs (finishPass r app resolved conditions out) t res) :
    ∃ status, LeavesStatus app (pre ++ t) status ∧ status.rollout.partition = out.partition := by
  obtain ⟨t₁, t₂, transient, reported, written, rfl, hquiet, ht₂, -⟩ := finishPass_runs ht
  obtain ⟨u, seen, hu, hcases⟩ := updateStatus_runs ht₂
  refine ⟨nextStatus app out reported seen, ?_, ?_⟩
  · rcases hcases with ⟨hsame, rfl, -⟩ | ⟨-, rfl⟩
    · exact .inr ⟨hsame, hpre.append (hquiet.append (observedStatus_quiet hu))⟩
    · exact .inl ⟨written, ((saw_last u _ _).append_left t₁).append_left pre⟩
  · obtain ⟨read, w, sweep, tail, -, -, -, ⟨e, -, -, hseen⟩ | ⟨order, -, -, hseen⟩⟩ :=
      observedStatus_cases hu
    all_goals
      unfold nextStatus
      rw [hseen]
      rfl

end

/-- **A pass reports the stored partition exactly if that is 0 or the fleet step went on.**  `c₁`
is the state of the cluster when the fleet step ended; a pass that does not come so far fails
without a status. -/
theorem reported_partition_iff (r : Reconciler) (key : NamespacedName) (app : WorkerApp)
    (c c' : Cluster) (t : Trace) (res : Except Err Result)
    (hx : Amid app c (reconcileApp r key app) t c' res) (hlive : app.deleting = false)
    (hvalid : validateApp r app = .ok ()) :
    ((∃ e, res = .error e) ∧ Unreported t) ∨
      ∃ resolved conditions t₀ t₂ t₃ c₀ c₁ out status, t = t₀ ++ t₂ ++ t₃ ∧
        Amid app c₀ (reconcileFleet r app resolved.version) t₂ c₁ (.ok out) ∧
        Exec Serve (KeepsPartition app) c (reconcileApp r key app) (t₀ ++ t₂) c₁
          (finishPass r app resolved conditions out) ∧
        Amid app c₁ (finishPass r app resolved conditions out) t₃ c' res ∧
        LeavesStatus app t status ∧
        (storedPartition app c₁ = some status.rollout.partition ↔
          PartitionTold r app resolved.version t₂) := by
  rw [reconcileApp_eq hlive hvalid] at hx ⊢
  unfold reconcileValid at hx ⊢
  rcases exec_check_cases hx with ⟨e, _, rfl, hx₀⟩ | ⟨foundation, u₀, u, b₁, rfl, hx₀, hrest⟩
  · exact .inl ⟨⟨e, rfl⟩, (ensureFoundation_confined r app).unreported hx₀.steps⟩
  obtain ⟨resolved, u₁, v, c₀, rfl, hx₁, hfleet⟩ := Exec.bind_cases hrest
  have hquiet : Unreported (u₀ ++ u₁) := ((ensureFoundation_confined r app).unreported
    hx₀.steps).append ((resolveAppVersion_reads r app).unreported hx₁.steps)
  have hconf := reconcileFleet_confined r app resolved.version
  rcases exec_check_cases hfleet with ⟨e, _, rfl, hx₂⟩ | ⟨out, t₂, t₃, c₁, rfl, hx₂, hx₃⟩
  · refine .inl ⟨⟨e, rfl⟩, ?_⟩
    rw [← List.append_assoc]
    exact hquiet.append (hconf.unreported hx₂.steps)
  · have hpre := hquiet.append (hconf.unreported hx₂.steps)
    obtain ⟨status, hleaves, hreported⟩ := finishPass_leaves hpre hx₃.steps
    refine .inr ⟨resolved, _, u₀ ++ u₁, t₂, t₃, c₀, c₁, out, status, by simp only [List.append_assoc],
      hx₂, ?_, hx₃, by simpa only [List.append_assoc] using hleaves, ?_⟩
    · -- the same execution, stopped where the fleet step has returned
      rw [List.append_assoc]
      exact (hx₀.bind_left _).trans ((hx₁.bind_left _).trans (hx₂.bind_left _))
    · rw [hreported]
      exact reconcileFleet_partition hx₂

/-- An app without autoscaling. -/
def rollingApp : WorkerApp := sampleApp "ghcr.io/denoland/celld:v0.5.1" .rolling

/-- Its fleet of three in the middle of a rollout: the pod at ordinal 2 has moved. -/
def rollingFleet : StatefulSet := setStsPartition (settledFleet rollingApp) 2

/-- The cluster it lives in. -/
def rollingCluster : Cluster :=
  { Cluster.empty.put rollingFleet ⟨by simp [Cluster.empty, Versioned.empty], le_refl 1⟩ with
    pods := ["shop-celld-0", "shop-celld-1", "shop-celld-2"].map fun name =>
      samplePod name "s1" "r1" (fleetPodSpec rollingApp) }

/-- A pass over it in which every call succeeds. -/
def rollingPass : List (Event Api) × Cluster × Except Err Result :=
  runWith (answer { state := fun _ => .ok (sampleState "1" 0) })
    (reconcileApp sampleReconciler ⟨"prod", "shop"⟩ rollingApp) rollingCluster

/-- If the event writes a status, it reports this partition. -/
def reportsPartition (p : Nat) : Event Api → Bool
  | ⟨.updateStatus a, _⟩ => a.status.rollout.partition == p
  | _ => true

/-- The pass releases ordinal 1, and reports it. -/
theorem reported_partition_iff_rollingPass :
    ∃ resolved t₂ c₁ status, LeavesStatus rollingApp rollingPass.1 status ∧
      status.rollout.partition = 1 ∧ storedPartition rollingApp c₁ = some 1 ∧
      PartitionTold sampleReconciler rollingApp resolved t₂ := by
  have hx : Amid rollingApp rollingCluster
      (reconcileApp sampleReconciler ⟨"prod", "shop"⟩ rollingApp) rollingPass.1 rollingPass.2.1
      rollingPass.2.2 := exec_runWith (serve_answer _) _ rollingCluster
  have hwritten : (writtenStatus rollingPass.1).isSome = true ∧
      rollingPass.1.all (reportsPartition 1) = true ∧
      storedPartition rollingApp rollingPass.2.1 = some 1 := by decide +kernel
  obtain ⟨hsome, hall, hstored⟩ := hwritten
  obtain ⟨a, ha⟩ := Option.isSome_iff_exists.mp hsome
  rcases reported_partition_iff sampleReconciler ⟨"prod", "shop"⟩ rollingApp _ _ _ _ hx rfl
    (by decide) with ⟨-, hquiet⟩ | ⟨resolved, conditions, t₀, t₂, t₃, c₀, c₁, out, status, -, -, -,
      hfinish, hleaves, hiff⟩
  · exact absurd (saw_writtenStatus ha) (hquiet a _)
  · have hreported : status.rollout.partition = 1 := by
      rcases hleaves with ⟨answer, hsent⟩ | ⟨-, hquiet⟩
      · exact beq_iff_eq.mp (List.all_eq_true.mp hall _ hsent)
      · exact absurd (saw_writtenStatus ha) (hquiet a _)
    -- nothing behind the fleet step moves the partition
    have hkept := stored_of_only (finishPass_sparesFleet ..) hfinish
    rw [hstored] at hkept
    exact ⟨resolved.version, t₂, c₁, status, hleaves, hreported, hkept.symm,
      hiff.mp (by rw [hreported, ← hkept])⟩

theorem serve_conflicting (c : Cluster) (o : Op) :
    Serve c o (conflicting c o).1 (conflicting c o).2 := by
  unfold conflicting
  split
  · rfl
  · exact serve_answer _ _ _

/-- **A partition that is not reported**: the release of the next ordinal conflicts, say with a
status update of the StatefulSet controller, and the status says that no rollout is in progress. -/
theorem partition_hidden :
    let pass := runWith conflicting (reconcileApp sampleReconciler ⟨"prod", "shop"⟩ rollingApp)
      rollingCluster
    let fleet := fleetRun conflicting sampleReconciler rollingApp rollingCluster
    Amid rollingApp rollingCluster (reconcileApp sampleReconciler ⟨"prod", "shop"⟩ rollingApp)
        pass.1 pass.2.1 pass.2.2 ∧
      FleetReturned sampleReconciler rollingApp pass.1
        (versionRun conflicting sampleReconciler rollingApp rollingCluster).2.2 fleet.1
        (conflictOutcome rollingApp) ∧
      storedPartition rollingApp fleet.2.1 = some 2 ∧
      ∃ a, Saw pass.1 (.updateStatus a) (.ok ()) ∧ a.status.rollout.partition = 0 := by
  have hfoundation : (foundationRun conflicting sampleReconciler rollingApp rollingCluster).2.2 =
      .ok [credentialsCondition rollingApp] := by decide +kernel
  have hfleet : (fleetRun conflicting sampleReconciler rollingApp rollingCluster).2.2 =
      .ok (conflictOutcome rollingApp) := by decide +kernel
  have hwritten : (writtenStatus (runWith conflicting
      (reconcileApp sampleReconciler ⟨"prod", "shop"⟩ rollingApp) rollingCluster).1).any
      (fun a => decide (a.status.rollout.partition = 0)) = true := by decide +kernel
  obtain ⟨a, ha, hzero⟩ := (Option.any_eq_true _ _).mp hwritten
  refine ⟨exec_runWith serve_conflicting _ rollingCluster, ?_, by decide +kernel,
    a, saw_writtenStatus ha, of_decide_eq_true hzero⟩
  exact fleetReturned_run _ rfl (by decide) hfoundation hfleet

end CelldOperator
