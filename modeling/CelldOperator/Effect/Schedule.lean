/-
  CelldOperator.Effect.Schedule

  **SCHEDULES OF A GROUP.**

    • `exists_step` — a group that is not finished can take a step,
    • `step_wf`     — no schedule goes on for ever,
    • `exists_run`  — an order in which no worker is `limit` or more places early is
      the order of some schedule, whatever the workers run to.
-/
import CelldOperator.Effect.Group
import Mathlib.Data.Fintype.Fin
import Mathlib.Logic.Hydra

namespace Effect

namespace Group

open Prog

variable {S : Sig} {n : Nat} {α L : Type} {B : L → Type} [DecidableEq L] {g : Group S n α L B}

/-! ## §1. Every run ends, and ends with all workers done. -/

/-- **No deadlock.**  A worker at work can go on, or waits for a lock whose holder can; if none
is at work, the next one can start. -/
theorem exists_step {s : g.State} (hlimit : 0 < g.limit) (hanswers : ∀ o, Nonempty (S.Resp o))
    (hleft : ¬ s.Finished) : ∃ u s', Step g s u s' := by
  by_cases hactive : ∃ i, (s.phase i).active = true
  · obtain ⟨i, hi⟩ := hactive
    have hinside : ∀ j a left, s.phase j = .holding a left → ∃ u s', Step g s u s' := by
      intro j a left hj
      cases left with
      | nil => exact ⟨_, _, .release hj⟩
      | cons w left => exact ⟨_, _, .write hj⟩
    cases hph : s.phase i with
    | queued => rw [hph] at hi; cases hi
    | running p =>
      cases p with
      | ret a => exact ⟨_, _, .finish hph⟩
      | call o k =>
        obtain ⟨r⟩ := hanswers o
        exact ⟨_, _, .call r hph⟩
    | waiting a =>
      by_cases hfree : ∀ j, (s.phase j).held ≠ some (g.lock a)
      · exact ⟨_, _, .acquire hph hfree⟩
      · -- the holder of the lock goes on
        push Not at hfree
        obtain ⟨j, hj⟩ := hfree
        cases hphj : s.phase j with
        | holding b left => exact hinside j b left hphj
        | queued => rw [hphj] at hj; cases hj
        | running p => rw [hphj] at hj; cases hj
        | waiting b => rw [hphj] at hj; cases hj
        | leaving b => rw [hphj] at hj; cases hj
        | done b => rw [hphj] at hj; cases hj
    | holding a left => exact hinside i a left hph
    | leaving a => exact ⟨_, _, .leave hph⟩
    | done a => rw [hph] at hi; cases hi
  · push Not at hactive
    -- nobody is at work, so somebody is queued; the first of them starts
    have hqueued : ∃ i, s.phase i = .queued := by
      by_contra hnone
      push Not at hnone
      refine hleft fun i => ?_
      have hi := hactive i
      have hq := hnone i
      cases hph : s.phase i with
      | done a => exact ⟨a, rfl⟩
      | queued => exact absurd hph hq
      | running p => rw [hph] at hi; exact absurd rfl hi
      | waiting a => rw [hph] at hi; exact absurd rfl hi
      | holding a left => rw [hph] at hi; exact absurd rfl hi
      | leaving a => rw [hph] at hi; exact absurd rfl hi
    obtain ⟨i, hi, hmin⟩ := exists_minimal_of_wellFoundedLT (fun i => s.phase i = .queued) hqueued
    have hempty : s.active = ∅ := by
      rw [State.active, Finset.filter_eq_empty_iff]
      exact fun j _ => hactive j
    refine ⟨_, _, .start hi (fun j hj hq => ?_) (by rw [hempty]; simpa using hlimit)⟩
    exact absurd (hmin hq hj.le) (not_le.mpr hj)

/-- What a step does to the phase of its worker. -/
inductive Moves (g : Group S n α L B) (i : Fin n) : g.Phase → g.Phase → Prop where
  | start : Moves g i .queued (.running (g.body i))
  | call {o : S.Op} {k : S.Resp o → Prog S α} (r : S.Resp o) :
      Moves g i (.running (.call o k)) (.running (k r))
  | finish (a : α) : Moves g i (.running (.ret a)) (.waiting a)
  | acquire (a : α) : Moves g i (.waiting a) (.holding a (g.writes i a))
  | write (a : α) (w : B (g.lock a) → B (g.lock a)) (left : List (B (g.lock a) → B (g.lock a))) :
      Moves g i (.holding a (w :: left)) (.holding a left)
  | release (a : α) : Moves g i (.holding a []) (.leaving a)
  | leave (a : α) : Moves g i (.leaving a) (.done a)

theorem Step.moves {s s' : g.State} {t : List (Fin n × Event S)} (h : Step g s t s') :
    ∃ i ph, s'.phase = Function.update s.phase i ph ∧ Moves g i (s.phase i) ph := by
  cases h with
  | start hi => exact ⟨_, _, rfl, by rw [hi]; exact .start⟩
  | call r hi => exact ⟨_, _, rfl, by rw [hi]; exact .call r⟩
  | finish hi => exact ⟨_, _, rfl, by rw [hi]; exact .finish _⟩
  | acquire hi => exact ⟨_, _, rfl, by rw [hi]; exact .acquire _⟩
  | write hi => exact ⟨_, _, rfl, by rw [hi]; exact .write _ _ _⟩
  | release hi => exact ⟨_, _, rfl, by rw [hi]; exact .release _⟩
  | leave hi => exact ⟨_, _, rfl, by rw [hi]; exact .leave _⟩

omit [DecidableEq L] in
/-- One worker cannot move for ever: programs are trees, sections are lists. -/
theorem moves_wf (i : Fin n) : WellFounded fun ph' ph : g.Phase => Moves g i ph ph' := by
  have hdone : ∀ a, Acc (fun ph' ph : g.Phase => Moves g i ph ph') (.done a) :=
    fun a => ⟨_, fun _ h => by cases h⟩
  have hleaving : ∀ a, Acc (fun ph' ph : g.Phase => Moves g i ph ph') (.leaving a) :=
    fun a => ⟨_, fun _ h => by cases h; exact hdone a⟩
  have hholding : ∀ a left, Acc (fun ph' ph : g.Phase => Moves g i ph ph') (.holding a left) := by
    intro a left
    induction left with
    | nil => exact ⟨_, fun _ h => by cases h; exact hleaving a⟩
    | cons w left ih => exact ⟨_, fun _ h => by cases h; exact ih⟩
  have hwaiting : ∀ a, Acc (fun ph' ph : g.Phase => Moves g i ph ph') (.waiting a) :=
    fun a => ⟨_, fun _ h => by cases h; exact hholding a _⟩
  have hrunning : ∀ p, Acc (fun ph' ph : g.Phase => Moves g i ph ph') (.running p) := by
    intro p
    induction p with
    | ret a => exact ⟨_, fun _ h => by cases h; exact hwaiting a⟩
    | call o k ih => exact ⟨_, fun _ h => by cases h; exact ih _⟩
  refine ⟨fun ph => ?_⟩
  cases ph with
  | queued => exact ⟨_, fun _ h => by cases h; exact hrunning _⟩
  | running p => exact hrunning p
  | waiting a => exact hwaiting a
  | holding a left => exact hholding a left
  | leaving a => exact hleaving a
  | done a => exact hdone a

/-- The workers with their phases. -/
def State.roster (s : g.State) : Multiset (Fin n × g.Phase) :=
  Finset.univ.val.map fun i => (i, s.phase i)

/-- Phase by phase, one worker's phase replaced by the next one. -/
def Replaces (x y : Fin n × g.Phase) : Prop := x.1 = y.1 ∧ Moves g y.1 y.2 x.2

omit [DecidableEq L] in
theorem replaces_wf : WellFounded (Replaces (g := g)) := by
  refine ⟨fun ⟨i, ph⟩ => ?_⟩
  induction ph using (moves_wf (g := g) i).induction with
  | _ ph ih =>
    refine ⟨_, ?_⟩
    rintro ⟨j, ph'⟩ ⟨hij, hmoves⟩
    obtain rfl : j = i := hij
    exact ih ph' hmoves

theorem Step.cutExpand {s s' : g.State} {t : List (Fin n × Event S)} (h : Step g s t s') :
    Relation.CutExpand Replaces s'.roster s.roster := by
  obtain ⟨i, ph, hphase, hmoves⟩ := h.moves
  refine ⟨{(i, ph)}, (i, s.phase i), ?_, ?_⟩
  · intro x hx
    rw [Multiset.mem_singleton.mp hx]
    exact ⟨rfl, hmoves⟩
  · -- the other workers stand in both rosters
    have hsplit : ∀ u : g.State, u.roster =
        (i, u.phase i) ::ₘ (Finset.univ.erase i).val.map fun j => (j, u.phase j) := by
      intro u
      rw [State.roster, ← Multiset.map_cons (fun j => (j, u.phase j)), Finset.erase_val,
        Multiset.cons_erase (Finset.mem_univ_val i)]
    have hrest : ((Finset.univ.erase i).val.map fun j => (j, s'.phase j)) =
        (Finset.univ.erase i).val.map fun j => (j, s.phase j) := by
      refine Multiset.map_congr rfl fun j hj => ?_
      have hji : j ≠ i := (Finset.mem_erase.mp (Finset.mem_val.mp hj)).1
      rw [hphase, Function.update_of_ne hji]
    rw [hsplit s', hsplit s, hrest, hphase, Function.update_self, ← Multiset.singleton_add,
      ← Multiset.singleton_add]
    ac_rfl

/-- **No schedule goes on for ever.** -/
theorem step_wf : WellFounded fun s' s : g.State => ∃ t, Step g s t s' := by
  refine Subrelation.wf (r := InvImage (Relation.CutExpand Replaces) State.roster) ?_
    (InvImage.wf _ replaces_wf.cutExpand)
  rintro s' s ⟨t, h⟩
  exact h.cutExpand

/-! ## §2. Which orders occur. -/

section worker

variable {s : g.State} {i : Fin n}

/-- A worker runs its program while the others wait. -/
theorem exists_run_program {p q : Prog S α} {t : List (Event S)} (hsteps : Steps p t q) :
    ∀ {s : g.State}, s.phase i = .running p →
      Run g s (t.map fun e => (i, e)) (s.set i (.running q)) := by
  induction hsteps with
  | nil p =>
    intro s hi
    have hsame : s.set i (.running p) = s := by
      rw [State.set, ← hi, Function.update_eq_self]
    rw [hsame]
    exact .refl s
  | cons r _ ih =>
    intro s hi
    have hrest := ih (s := s.set i (.running _)) (State.set_phase_self ..)
    rw [State.set, State.set, Function.update_idem] at hrest
    exact (Run.single (.call r hi)).trans hrest

/-- A worker makes its writes while the others wait. -/
theorem exists_run_writes {a : α} {left : List (B (g.lock a) → B (g.lock a))} :
    ∀ {s : g.State}, s.phase i = .holding a left →
      Run g s [] { s.set i (.holding a []) with
        vars := Function.update s.vars (g.lock a)
          (left.foldl (fun b w => w b) (s.vars (g.lock a))) } := by
  induction left with
  | nil =>
    intro s hi
    have hsame : ({ s.set i (.holding a []) with
        vars := Function.update s.vars (g.lock a) (s.vars (g.lock a)) } : g.State) = s := by
      rw [State.set, ← hi, Function.update_eq_self, Function.update_eq_self]
    show Run g s [] { s.set i (.holding a []) with
      vars := Function.update s.vars (g.lock a) (s.vars (g.lock a)) }
    rw [hsame]
    exact .refl s
  | cons w left ih =>
    intro s hi
    have hrest := ih (s := { s.set i (.holding a left) with
      vars := Function.update s.vars (g.lock a) (w (s.vars (g.lock a))) })
      (State.set_phase_self ..)
    simp only [State.set, Function.update_idem, Function.update_self] at hrest
    exact (Run.single (.write hi)).trans hrest

/-- **A worker that has started comes to its end** while the others wait and no lock is held. -/
theorem exists_run_worker {p : Prog S α} {t : List (Event S)} {a : α} (hi : s.phase i = .running p)
    (hruns : Runs p t a) (hfree : ∀ j l, (s.phase j).held ≠ some l) :
    Run g s (t.map fun e => (i, e)) ⟨Function.update s.phase i (.done a), g.apply (i, a) s.vars,
      s.order ++ [(i, a)]⟩ := by
  have hprogram := exists_run_program hruns hi
  have hfree' : ∀ j, ((s.set i (.waiting a)).phase j).held ≠ some (g.lock a) := by
    intro j
    by_cases hj : j = i
    · rw [hj, State.set_phase_self]
      exact fun hn => by cases hn
    · rw [State.set_phase_of_ne _ hj]
      exact hfree j _
  have hfinish : Step g (s.set i (.running (.ret a))) [] (s.set i (.waiting a)) := by
    have hstep := Step.finish (g := g) (State.set_phase_self s i (.running (.ret a)))
    rwa [State.set, State.set, Function.update_idem] at hstep
  have hacquire : Step g (s.set i (.waiting a)) [] (s.set i (.holding a (g.writes i a))) := by
    have hstep := Step.acquire (State.set_phase_self s i (.waiting a)) hfree'
    rwa [State.set, State.set, Function.update_idem] at hstep
  have hwrites := exists_run_writes (State.set_phase_self s i (.holding a (g.writes i a)))
  have hleave : ∀ vars, Run g ⟨Function.update s.phase i (.holding a []), vars, s.order⟩ []
      ⟨Function.update s.phase i (.done a), vars, s.order ++ [(i, a)]⟩ := by
    intro vars
    have hrelease := Step.release (g := g)
      (s := ⟨Function.update s.phase i (.holding a []), vars, s.order⟩) (Function.update_self ..)
    have hdone := Step.leave (g := g)
      (s := ⟨Function.update s.phase i (.leaving a), vars, s.order ++ [(i, a)]⟩)
      (Function.update_self ..)
    simp only [State.set, Function.update_idem] at hrelease hdone
    exact (Run.single hrelease).trans (.single hdone)
  simp only [State.set, Function.update_idem] at hwrites
  have hrun := (((hprogram.trans (.single hfinish)).trans (.single hacquire)).trans hwrites).trans
    (hleave _)
  simp only [List.append_nil] at hrun
  exact hrun

end worker

/-- The first `m` workers have started; those in `fin` are done, the others have done nothing. -/
def Staged (result : Fin n → α) (m : Nat) (fin : Finset (Fin n)) (s : g.State) : Prop :=
  ∀ i, s.phase i = if i ∈ fin then .done (result i)
    else if i.val < m then .running (g.body i) else .queued

section staged

variable {result : Fin n → α} {m : Nat} {fin : Finset (Fin n)} {s : g.State}

omit [DecidableEq L] in
theorem Staged.card_active (h : Staged result m fin s) (hfin : ∀ i ∈ fin, i.val < m) (hm : m ≤ n) :
    s.active.card + fin.card = m := by
  have hactive : s.active = (Finset.univ.filter fun i : Fin n => i.val < m) \ fin := by
    ext i
    rw [State.active, Finset.mem_filter, Finset.mem_sdiff, Finset.mem_filter, h i]
    by_cases hi : i ∈ fin
    · simp [hi, Phase.active]
    · by_cases hlt : i.val < m
      · simp [hi, hlt, Phase.active]
      · simp [hi, hlt, Phase.active]
  have hsub : fin ⊆ Finset.univ.filter fun i : Fin n => i.val < m := fun i hi =>
    Finset.mem_filter.mpr ⟨Finset.mem_univ i, hfin i hi⟩
  have hcard : (Finset.univ.filter fun i : Fin n => i.val < m).card = m := by
    rw [Fin.card_filter_val_lt, min_eq_right hm]
  rw [hactive, Finset.card_sdiff_add_card_eq_card hsub, hcard]

/-- Workers start, up to a given one. -/
theorem Staged.exists_start (h : Staged result m fin s) (hfin : ∀ i ∈ fin, i.val < m)
    (m' : Nat) (hle : m ≤ m') (hn : m' ≤ n) (hlimit : m' ≤ fin.card + g.limit) :
    ∃ s', Run g s [] s' ∧ Staged result m' fin s' ∧ s'.vars = s.vars ∧ s'.order = s.order := by
  induction m', hle using Nat.le_induction with
  | base => exact ⟨s, .refl s, h, rfl, rfl⟩
  | succ j hj ih =>
    obtain ⟨s', hrun, hs', hvars, horder⟩ := ih (by omega) (by omega)
    have hfin' : ∀ i ∈ fin, i.val < j := fun i hi => lt_of_lt_of_le (hfin i hi) hj
    have hcard := hs'.card_active hfin' (by omega)
    have hnext : s'.phase ⟨j, by omega⟩ = .queued := by
      rw [hs' ⟨j, by omega⟩, if_neg fun hi => absurd (hfin' _ hi) (lt_irrefl j),
        if_neg (lt_irrefl j)]
    have hfirst : ∀ i < (⟨j, by omega⟩ : Fin n), s'.phase i ≠ .queued := by
      intro i hi
      rw [hs' i]
      have hlt : i.val < j := hi
      rw [if_pos hlt]
      split <;> simp
    have hstep := Step.start hnext hfirst (by omega)
    refine ⟨_, hrun.snoc hstep, fun i => ?_, hvars, horder⟩
    by_cases hi : i = ⟨j, by omega⟩
    · subst hi
      rw [State.set_phase_self, if_neg fun hi => absurd (hfin' _ hi) (lt_irrefl j),
        if_pos (Nat.lt_succ_self j)]
    · rw [State.set_phase_of_ne _ hi, hs' i]
      have hval : i.val ≠ j := fun heq => hi (Fin.ext heq)
      have hiff : i.val < j + 1 ↔ i.val < j := by omega
      simp only [hiff]

/-- One more worker comes to its end. -/
theorem Staged.exists_finish (h : Staged result m fin s) {i : Fin n} (hi : i.val < m)
    (hnew : i ∉ fin) {t : List (Event S)} (hruns : Runs (g.body i) t (result i)) :
    ∃ s', Run g s (t.map fun e => (i, e)) s' ∧ Staged result m (insert i fin) s' ∧
      s'.vars = g.apply (i, result i) s.vars := by
  have hphase : s.phase i = .running (g.body i) := by
    rw [h i, if_neg hnew, if_pos hi]
  have hfree : ∀ j l, (s.phase j).held ≠ some l := by
    intro j l
    rw [h j]
    split
    · exact fun hn => by cases hn
    · split <;> exact fun hn => by cases hn
  refine ⟨_, exists_run_worker hphase hruns hfree, fun j => ?_, rfl⟩
  show Function.update s.phase i _ j = _
  by_cases hj : j = i
  · subst hj
    rw [Function.update_self, if_pos (Finset.mem_insert_self ..)]
  · rw [Function.update_of_ne hj, h j]
    simp only [Finset.mem_insert, hj, false_or]

/-- The workers of a list come to their end in its order. -/
theorem Staged.exists_run (events : Fin n → List (Event S))
    (hruns : ∀ i, Runs (g.body i) (events i) (result i)) {order : List (Fin n)} :
    ∀ {m : Nat} {fin : Finset (Fin n)} {s : g.State}, Staged result m fin s →
      (∀ i ∈ fin, i.val < m) → m ≤ n → m ≤ fin.card + g.limit → order.Nodup → (∀ i ∈ order, i ∉ fin) →
      (∀ pre i post, order = pre ++ i :: post → i.val < fin.card + pre.length + g.limit) →
      ∃ t s' m', Run g s t s' ∧ Effect.events t = order.flatMap events ∧
        Staged result m' (fin ∪ order.toFinset) s' ∧
        s'.vars = g.applyAll (order.map fun i => (i, result i)) s.vars := by
  induction order with
  | nil =>
    intro m fin s h _ _ _ _ _ _
    exact ⟨[], s, m, .refl s, rfl, by simpa using h, rfl⟩
  | cons i order ih =>
    intro m fin s h hfin hn hslots hnodup hfresh hbound
    obtain ⟨hi, hnodup⟩ := List.nodup_cons.mp hnodup
    have hnew : i ∉ fin := hfresh i (List.mem_cons_self ..)
    have hplace := hbound [] i order rfl
    rw [List.length_nil, Nat.add_zero] at hplace
    -- all up to `i` start, if they have not
    obtain ⟨s₁, hrun₁, hs₁, hvars₁, -⟩ := h.exists_start hfin (max m (i.val + 1))
      (le_max_left ..) (by omega) (by omega)
    obtain ⟨s₂, hrun₂, hs₂, hvars₂⟩ := hs₁.exists_finish (by omega) hnew (hruns i)
    -- the rest of the list, with one worker more that is done
    have hfin₂ : ∀ j ∈ insert i fin, j.val < max m (i.val + 1) := by
      intro j hj
      rcases Finset.mem_insert.mp hj with rfl | hj
      · omega
      · have hjm := hfin j hj
        omega
    have hfresh₂ : ∀ j ∈ order, j ∉ insert i fin := by
      intro j hj hmem
      rcases Finset.mem_insert.mp hmem with rfl | hmem
      · exact hi hj
      · exact hfresh j (List.mem_cons_of_mem _ hj) hmem
    have hcard₂ := Finset.card_insert_of_notMem hnew
    have hbound₂ : ∀ pre j post, order = pre ++ j :: post →
        j.val < (insert i fin).card + pre.length + g.limit := by
      intro pre j post heq
      have hj := hbound (i :: pre) j post (by rw [heq, List.cons_append])
      rw [List.length_cons] at hj
      omega
    obtain ⟨t, s', m', hrun, hevents, hs', hvars⟩ :=
      ih hs₂ hfin₂ (by omega) (by omega) hnodup hfresh₂ hbound₂
    refine ⟨_, s', m', (hrun₁.trans hrun₂).trans hrun, ?_, ?_, ?_⟩
    · rw [Effect.events, List.map_append, List.nil_append, List.flatMap_cons]
      congr 1
      · simp
    · rw [List.toFinset_cons, Finset.union_insert, ← Finset.insert_union]
      exact hs'
    · rw [hvars, hvars₂, hvars₁]
      rfl

end staged

/-- **Every such order occurs**, with every way the workers can run. -/
theorem exists_run {vars : (l : L) → B l} {order : List (Fin n × α)}
    (events : Fin n → List (Event S)) (hruns : ∀ x ∈ order, Runs (g.body x.1) (events x.1) x.2)
    (hperm : (order.map Prod.fst).Perm (List.finRange n))
    (hbound : ∀ pre i post, order.map Prod.fst = pre ++ i :: post →
      i.val < pre.length + g.limit) :
    ∃ t s, Run g (g.init vars) t s ∧ s.Finished ∧
      Effect.events t = (order.map Prod.fst).flatMap events ∧ s.vars = g.applyAll order vars := by
  have hnodup : (order.map Prod.fst).Nodup := hperm.nodup_iff.mpr (List.nodup_finRange n)
  -- the result of a worker is the one the order has for it
  have hresult : ∀ i, ∃ a, (i, a) ∈ order := by
    intro i
    obtain ⟨⟨_, a⟩, ha, rfl⟩ := List.mem_map.mp (hperm.mem_iff.mpr (List.mem_finRange i))
    exact ⟨a, ha⟩
  choose result hmem using hresult
  have horder : (order.map Prod.fst).map (fun i => (i, result i)) = order := by
    rw [List.map_map]
    refine (List.map_congr_left fun x hx => ?_).trans (List.map_id order)
    exact List.inj_on_of_nodup_map hnodup (hmem x.1) hx rfl
  have hstart : Staged result 0 ∅ (g.init vars) := by
    intro i
    rw [if_neg (Finset.notMem_empty i), if_neg (Nat.not_lt_zero _)]
    rfl
  obtain ⟨t, s, m, hrun, hevents, hs, hvars⟩ := hstart.exists_run events
    (fun i => hruns _ (hmem i)) (fun i hi => absurd hi (Finset.notMem_empty i)) (Nat.zero_le n)
    (Nat.zero_le _) hnodup (fun i _ => Finset.notMem_empty i) (by simpa using hbound)
  refine ⟨t, s, hrun, fun i => ⟨result i, ?_⟩, hevents, by rw [hvars, horder]; rfl⟩
  have hi : i ∈ ∅ ∪ (order.map Prod.fst).toFinset := by
    rw [Finset.empty_union, List.mem_toFinset]
    exact hperm.mem_iff.mpr (List.mem_finRange i)
  rw [hs i, if_pos hi]

/-- A run of the workers one after the other, worker by worker. -/
theorem of_runs_inOrder {order : List (Fin n)} (hnodup : order.Nodup) :
    ∀ {vars v : (l : L) → B l} {u : List (Event S)}, Runs (g.inOrder order vars) u v →
      ∃ (results : List (Fin n × α)) (events : Fin n → List (Event S)),
        results.map Prod.fst = order ∧ (∀ x ∈ results, Runs (g.body x.1) (events x.1) x.2) ∧
        u = order.flatMap events ∧ v = g.applyAll results vars := by
  induction order with
  | nil =>
    intro vars v u h
    obtain ⟨rfl, rfl⟩ := runs_ret.mp h
    exact ⟨[], fun _ => [], rfl, by simp, rfl, rfl⟩
  | cons i order ih =>
    intro vars v u h
    obtain ⟨hi, hnodup⟩ := List.nodup_cons.mp hnodup
    obtain ⟨a, t, u', rfl, ha, hrest⟩ := runs_bind.mp h
    obtain ⟨results, events, hfst, hruns, rfl, rfl⟩ := ih hnodup hrest
    -- the worker is none of the later ones, so its events can be put beside theirs
    have hother : ∀ j ∈ order, Function.update events i t j = events j := fun j hj =>
      Function.update_of_ne (fun heq : j = i => hi (heq ▸ hj)) ..
    refine ⟨(i, a) :: results, Function.update events i t, by rw [List.map_cons, hfst], ?_, ?_, rfl⟩
    · intro x hx
      rcases List.mem_cons.mp hx with rfl | hx
      · rw [Function.update_self]
        exact ha
      · rw [hother x.1 (hfst ▸ List.mem_map_of_mem hx)]
        exact hruns x hx
    · rw [List.flatMap_cons, Function.update_self, List.flatMap_congr hother]

end Group

end Effect
