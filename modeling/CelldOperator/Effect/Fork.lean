/-
  CelldOperator.Effect.Fork

  **PROGRAMS STARTED TOGETHER AND WAITED FOR.**

  A family of programs runs against one shared state, their operations interleaved
  in any order (`Fork`).  Two views of such a run carry the proofs:

    • `Fork.steps` — the events of one program are a run of that program alone,
    • `Fork.served` — all events, in the order they happened, take the shared
      state from the first to the last.

  `countP_events` adds the first view up over the programs.  `OneShot` is the
  pattern of a contest that only the first contender can win: the contest is open
  until somebody contends, and never again.  `fork_completes` runs all programs to
  their end, `runFork` runs them along a given schedule.
-/
import CelldOperator.Effect.Prog
import Mathlib.Algebra.BigOperators.Group.Finset.Piecewise
import Mathlib.Data.Fintype.Basic
import Mathlib.Logic.Function.Basic

namespace Effect

open Prog

variable {S : Sig} {σ ι α : Type} {serve : σ → (o : S.Op) → S.Resp o → σ → Prop}

/-! ## §1. Forked runs. -/

/-- `Fork serve s ps t s' qs`: from the state `s` the programs `ps` exchange the events `t`, each
tagged with its program, up to the state `s'` where they continue as `qs`. -/
inductive Fork [DecidableEq ι] (serve : σ → (o : S.Op) → S.Resp o → σ → Prop) :
    σ → (ι → Prog S α) → List (ι × Event S) → σ → (ι → Prog S α) → Prop where
  | refl (s : σ) (ps : ι → Prog S α) : Fork serve s ps [] s ps
  | call {s s' s'' : σ} {ps qs : ι → Prog S α} {i : ι} {o : S.Op} {k : S.Resp o → Prog S α}
      {r : S.Resp o} {t : List (ι × Event S)} (hi : ps i = .call o k) (hs : serve s o r s')
      (h : Fork serve s' (Function.update ps i (k r)) t s'' qs) :
      Fork serve s ps ((i, ⟨o, r⟩) :: t) s'' qs

/-- A list of events takes one state to another. -/
inductive Served (serve : σ → (o : S.Op) → S.Resp o → σ → Prop) :
    σ → List (Event S) → σ → Prop where
  | nil (s : σ) : Served serve s [] s
  | cons {s s' s'' : σ} {o : S.Op} {r : S.Resp o} {t : List (Event S)} (hs : serve s o r s')
      (h : Served serve s' t s'') : Served serve s (⟨o, r⟩ :: t) s''

/-- The events, whoever exchanged them. -/
def events (t : List (ι × Event S)) : List (Event S) := t.map Prod.snd

/-- The events of one program. -/
def eventsOf [DecidableEq ι] (i : ι) (t : List (ι × Event S)) : List (Event S) :=
  events (t.filter fun e => e.1 = i)

section forked

variable [DecidableEq ι]

theorem eventsOf_cons_self (i : ι) (e : Event S) (t : List (ι × Event S)) :
    eventsOf i ((i, e) :: t) = e :: eventsOf i t := by
  simp [eventsOf, events]

theorem eventsOf_cons_of_ne {i j : ι} (h : j ≠ i) (e : Event S) (t : List (ι × Event S)) :
    eventsOf i ((j, e) :: t) = eventsOf i t := by
  simp [eventsOf, h]

/-- **The programs run alone.** -/
theorem Fork.steps {s s' : σ} {ps qs : ι → Prog S α} {t : List (ι × Event S)}
    (h : Fork serve s ps t s' qs) (i : ι) : Steps (ps i) (eventsOf i t) (qs i) := by
  induction h with
  | refl => exact .nil _
  | @call _ _ _ ps qs j o k r t hj _ _ ih =>
    by_cases hij : j = i
    · subst hij
      rw [Function.update_self] at ih
      rw [hj, eventsOf_cons_self]
      exact .cons r ih
    · rw [Function.update_of_ne (Ne.symm hij)] at ih
      rw [eventsOf_cons_of_ne hij]
      exact ih

/-- **The state sees one list of events.** -/
theorem Fork.served {s s' : σ} {ps qs : ι → Prog S α} {t : List (ι × Event S)}
    (h : Fork serve s ps t s' qs) : Served serve s (events t) s' := by
  induction h with
  | refl s ps => exact .nil s
  | call _ hs _ ih => exact .cons hs ih

theorem mem_events_iff {t : List (ι × Event S)} {e : Event S} :
    e ∈ events t ↔ ∃ i, e ∈ eventsOf i t := by
  simp [events, eventsOf]

/-- All events meet `P` when those of every program do. -/
theorem forall_events_iff {t : List (ι × Event S)} {P : Event S → Prop} :
    (∀ e ∈ events t, P e) ↔ ∀ i, ∀ e ∈ eventsOf i t, P e := by
  constructor
  · intro h i e he
    exact h e (mem_events_iff.mpr ⟨i, he⟩)
  · intro h e he
    obtain ⟨i, hi⟩ := mem_events_iff.mp he
    exact h i e hi

/-- Events are counted program by program. -/
theorem countP_events [Fintype ι] (p : Event S → Bool) (t : List (ι × Event S)) :
    (events t).countP p = ∑ i, (eventsOf i t).countP p := by
  induction t with
  | nil => simp [events, eventsOf]
  | cons e t ih =>
    obtain ⟨j, e⟩ := e
    have hcount : ∀ i, (eventsOf i ((j, e) :: t)).countP p =
        (eventsOf i t).countP p + if j = i then (if p e then 1 else 0) else 0 := by
      intro i
      by_cases hij : j = i
      · subst hij
        rw [eventsOf_cons_self, List.countP_cons, if_pos rfl]
      · rw [eventsOf_cons_of_ne hij, if_neg hij, Nat.add_zero]
    have hall : (events ((j, e) :: t)).countP p =
        (events t).countP p + if p e then 1 else 0 := List.countP_cons
    rw [hall, ih, Finset.sum_congr rfl fun i _ => hcount i, Finset.sum_add_distrib,
      Finset.sum_ite_eq, if_pos (Finset.mem_univ j)]

/-- Two tests that every program meets equally often are met equally often. -/
theorem countP_events_congr [Fintype ι] {p q : Event S → Bool} {t : List (ι × Event S)}
    (h : ∀ i, (eventsOf i t).countP p = (eventsOf i t).countP q) :
    (events t).countP p = (events t).countP q := by
  rw [countP_events, countP_events]
  exact Finset.sum_congr rfl fun i _ => h i

end forked

/-- Every event of the list was answered in some state on the way. -/
theorem Served.of_mem {s s' : σ} {t : List (Event S)} (h : Served serve s t s') {e : Event S}
    (he : e ∈ t) : ∃ s₁ s₂, serve s₁ e.op e.resp s₂ := by
  induction h with
  | nil => cases he
  | cons hs _ ih =>
    rcases List.mem_cons.mp he with rfl | he
    · exact ⟨_, _, hs⟩
    · exact ih he

/-- What the events of the list keep. -/
theorem Served.keeps {A : σ → Prop} {P : Event S → Prop}
    (hstep : ∀ {s s' : σ} {o : S.Op} {r : S.Resp o}, P ⟨o, r⟩ → A s → serve s o r s' → A s')
    {s s' : σ} {t : List (Event S)} (h : Served serve s t s') (hP : ∀ e ∈ t, P e) (hs : A s) :
    A s' := by
  induction h with
  | nil => exact hs
  | cons hserve _ ih =>
    have htail := fun e he => hP e (List.mem_cons_of_mem _ he)
    exact ih htail (hstep (hP _ (List.mem_cons_self ..)) hs hserve)

/-! ## §2. Contests that are won once. -/

/-- Among the events that meet `P`: one that contends wins exactly when the contest is open, and
leaves it closed; the others neither win nor open or close it. -/
structure OneShot (serve : σ → (o : S.Op) → S.Resp o → σ → Prop) (P : Event S → Prop)
    (contends wins : Event S → Bool) (isOpen : σ → Prop) : Prop where
  contend : ∀ {s s' : σ} {o : S.Op} {r : S.Resp o}, P ⟨o, r⟩ → contends ⟨o, r⟩ = true →
    serve s o r s' → (wins ⟨o, r⟩ = true ↔ isOpen s) ∧ ¬ isOpen s'
  other : ∀ {s s' : σ} {o : S.Op} {r : S.Resp o}, P ⟨o, r⟩ → contends ⟨o, r⟩ = false →
    serve s o r s' → wins ⟨o, r⟩ = false ∧ (isOpen s' ↔ isOpen s)

namespace OneShot

variable {P : Event S → Prop} {contends wins : Event S → Bool} {isOpen : σ → Prop}

/-- A closed contest has no winner. -/
theorem no_winner (h : OneShot serve P contends wins isOpen) {s s' : σ} {t : List (Event S)}
    (ht : Served serve s t s') (hP : ∀ e ∈ t, P e) (hclosed : ¬ isOpen s) :
    t.countP wins = 0 := by
  induction ht with
  | nil => rfl
  | @cons s₁ s₂ s₃ o r t hs _ ih =>
    have hhead := hP _ (List.mem_cons_self ..)
    have htail := fun e he => hP e (List.mem_cons_of_mem _ he)
    -- whether the event contends or not, it loses and the contest stays closed
    have hlost : wins ⟨o, r⟩ = false ∧ ¬ isOpen s₂ := by
      cases hc : contends ⟨o, r⟩ with
      | true =>
        obtain ⟨hwins, hafter⟩ := h.contend hhead hc hs
        exact ⟨Bool.eq_false_iff.mpr fun hw => hclosed (hwins.mp hw), hafter⟩
      | false =>
        obtain ⟨hwins, hkept⟩ := h.other hhead hc hs
        exact ⟨hwins, fun ho => hclosed (hkept.mp ho)⟩
    rw [List.countP_cons_of_neg (by simp [hlost.1])]
    exact ih htail hlost.2

/-- **An open contest somebody contends in has exactly one winner.** -/
theorem one_winner (h : OneShot serve P contends wins isOpen) {s s' : σ} {t : List (Event S)}
    (ht : Served serve s t s') (hP : ∀ e ∈ t, P e) (hopen : isOpen s)
    (hcontends : ∃ e ∈ t, contends e = true) : t.countP wins = 1 := by
  induction ht with
  | nil =>
    obtain ⟨e, he, -⟩ := hcontends
    cases he
  | @cons s₁ s₂ s₃ o r t hs hrest ih =>
    have hhead := hP _ (List.mem_cons_self ..)
    have htail := fun e he => hP e (List.mem_cons_of_mem _ he)
    cases hc : contends ⟨o, r⟩ with
    | true =>
      -- the first contender wins, and nobody after it
      obtain ⟨hwins, hafter⟩ := h.contend hhead hc hs
      rw [List.countP_cons_of_pos (hwins.mpr hopen), h.no_winner hrest htail hafter]
    | false =>
      obtain ⟨hwins, hkept⟩ := h.other hhead hc hs
      have hlater : ∃ e ∈ t, contends e = true := by
        obtain ⟨e, he, hce⟩ := hcontends
        rcases List.mem_cons.mp he with rfl | he
        · rw [hc] at hce
          cases hce
        · exact ⟨e, he, hce⟩
      rw [List.countP_cons_of_neg (by simp [hwins])]
      exact ih htail (hkept.mpr hopen) hlater

end OneShot

/-! ## §3. Running all to the end. -/

/-- The program has returned. -/
def Prog.returned : Prog S α → Bool
  | .ret _ => true
  | .call _ _ => false

theorem Prog.returned_iff {p : Prog S α} : p.returned = true ↔ ∃ a, p = .ret a := by
  cases p with
  | ret a => simp [Prog.returned]
  | call o k => simp [Prog.returned]

section completes

variable [DecidableEq ι]

theorem Fork.trans {s s' s'' : σ} {ps qs rs : ι → Prog S α} {t u : List (ι × Event S)}
    (h₁ : Fork serve s ps t s' qs) (h₂ : Fork serve s' qs u s'' rs) :
    Fork serve s ps (t ++ u) s'' rs := by
  induction h₁ with
  | refl => exact h₂
  | call hi hs _ ih => exact .call hi hs (ih h₂)

/-- One program runs to its end while the others wait. -/
theorem fork_one (hanswers : ∀ s o, ∃ r s', serve s o r s') (i : ι) {p : Prog S α} :
    ∀ (s : σ) (ps : ι → Prog S α), ps i = p →
      ∃ t s' a, Fork serve s ps t s' (Function.update ps i (.ret a)) := by
  induction p with
  | ret a =>
    intro s ps hi
    refine ⟨[], s, a, ?_⟩
    rw [← hi, Function.update_eq_self]
    exact .refl s ps
  | call o k ih =>
    intro s ps hi
    obtain ⟨r, s₁, hs⟩ := hanswers s o
    obtain ⟨t, s', a, hrest⟩ := ih r s₁ _ (Function.update_self i (k r) ps)
    rw [Function.update_idem] at hrest
    exact ⟨_, s', a, .call hi hs hrest⟩

/-- A server that answers everything lets all programs return. -/
theorem fork_completes [Fintype ι] (hanswers : ∀ s o, ∃ r s', serve s o r s') (s : σ)
    (ps : ι → Prog S α) : ∃ t s' qs, Fork serve s ps t s' qs ∧ ∀ i, (qs i).returned = true := by
  -- one program after the other; one that has returned stays so
  have hlist : ∀ (is : List ι) (s : σ) (ps : ι → Prog S α), ∃ t s' qs, Fork serve s ps t s' qs ∧
      ∀ i, (i ∈ is ∨ (ps i).returned = true) → (qs i).returned = true := by
    intro is
    induction is with
    | nil => exact fun s ps => ⟨[], s, ps, .refl s ps, by simp⟩
    | cons i is ih =>
      intro s ps
      obtain ⟨t, s₁, a, hone⟩ := fork_one hanswers i s ps rfl
      obtain ⟨u, s', qs, hrest, hreturned⟩ := ih s₁ (Function.update ps i (.ret a))
      refine ⟨t ++ u, s', qs, hone.trans hrest, fun j hj => hreturned j ?_⟩
      by_cases hji : j = i
      · subst hji
        exact .inr (by rw [Function.update_self]; rfl)
      · rw [Function.update_of_ne hji]
        rcases hj with hj | hj
        · exact .inl ((List.mem_cons.mp hj).resolve_left hji)
        · exact .inr hj
  obtain ⟨t, s', qs, hfork, hreturned⟩ := hlist Finset.univ.toList s ps
  exact ⟨t, s', qs, hfork, fun i => hreturned i (.inl (by simp))⟩

end completes

/-- Let the programs take their turns as the schedule says, every operation answered by `handle`;
a program that has returned skips its turn. -/
def runFork [DecidableEq ι] (handle : σ → (o : S.Op) → S.Resp o × σ) :
    List ι → σ → (ι → Prog S α) → List (ι × Event S) × σ × (ι → Prog S α)
  | [], s, ps => ([], s, ps)
  | i :: schedule, s, ps =>
    match ps i with
    | .ret _ => runFork handle schedule s ps
    | .call o k =>
      let (t, s', qs) := runFork handle schedule (handle s o).2
        (Function.update ps i (k (handle s o).1))
      ((i, ⟨o, (handle s o).1⟩) :: t, s', qs)

theorem fork_runFork [DecidableEq ι] {handle : σ → (o : S.Op) → S.Resp o × σ}
    (hh : ∀ s o, serve s o (handle s o).1 (handle s o).2) (schedule : List ι) :
    ∀ (s : σ) (ps : ι → Prog S α), Fork serve s ps (runFork handle schedule s ps).1
      (runFork handle schedule s ps).2.1 (runFork handle schedule s ps).2.2 := by
  induction schedule with
  | nil => intro s ps; exact .refl s ps
  | cons i schedule ih =>
    intro s ps
    unfold runFork
    split
    · exact ih s ps
    · next o k hi => exact .call hi (hh s o) (ih _ _)

end Effect
