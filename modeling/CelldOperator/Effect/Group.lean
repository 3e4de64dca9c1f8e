/-
  CelldOperator.Effect.Group

  **WORKERS THAT RECORD THEIR RESULTS UNDER LOCKS.**

  A group starts `n` workers in their order, never more than `limit` at a time.  A
  worker runs its program, takes the lock of the variable its result goes to, writes
  that variable step by step, gives the lock back and leaves.  Every lock guards a
  variable of its own.  Anything may happen in between two steps of a worker.

    • `Inv`            — what holds at every reachable state: the workers run alone,
      a variable is what the finished sections made of it, locks exclude,
    • `Run.linearizes` — a complete run comes to what the workers would have come to
      one after the other, in the order their sections ended,
      in that order no worker is `limit` or more places early.
-/
import CelldOperator.Effect.Fork
import Mathlib.Order.Interval.Finset.Fin

namespace Effect

open Prog

variable {S : Sig} {n : Nat} {α L : Type} {B : L → Type}

/-! ## §1. Groups and their steps. -/

/-- What the workers run, and where their results go. -/
structure Group (S : Sig) (n : Nat) (α L : Type) (B : L → Type) where
  limit : Nat
  body : Fin n → Prog S α
  lock : α → L
  writes : Fin n → (a : α) → List (B (lock a) → B (lock a))

namespace Group

/-- How far a worker is. -/
inductive Phase (g : Group S n α L B) where
  /-- Not started. -/
  | queued
  | running (p : Prog S α)
  /-- Returned, and in want of the lock. -/
  | waiting (a : α)
  /-- In the section, with these writes to come. -/
  | holding (a : α) (left : List (B (g.lock a) → B (g.lock a)))
  /-- Out of the section, the slot still taken. -/
  | leaving (a : α)
  | done (a : α)

variable {g : Group S n α L B}

namespace Phase

/-- The worker takes a slot. -/
def active : g.Phase → Bool
  | .queued | .done _ => false
  | _ => true

/-- The result of a worker whose section is over. -/
def recorded : g.Phase → Option α
  | .leaving a | .done a => some a
  | _ => none

/-- The lock the worker holds. -/
def held : g.Phase → Option L
  | .holding a _ => some (g.lock a)
  | _ => none

/-- What is left of the worker's program. -/
def rest (i : Fin n) : g.Phase → Prog S α
  | .queued => g.body i
  | .running p => p
  | .waiting a | .holding a _ | .leaving a | .done a => .ret a

end Phase

/-- The workers, the variables, and which sections are over, in the order they ended. -/
structure State (g : Group S n α L B) where
  phase : Fin n → g.Phase
  vars : (l : L) → B l
  order : List (Fin n × α)

/-- All the workers to come. -/
def init (g : Group S n α L B) (vars : (l : L) → B l) : g.State := ⟨fun _ => .queued, vars, []⟩

namespace State

/-- A worker moves on. -/
def set (s : g.State) (i : Fin n) (ph : g.Phase) : g.State :=
  { s with phase := Function.update s.phase i ph }

/-- The workers that take a slot. -/
def active (s : g.State) : Finset (Fin n) := Finset.univ.filter fun i => (s.phase i).active

/-- Every worker is done. -/
def Finished (s : g.State) : Prop := ∀ i, ∃ a, s.phase i = .done a

@[simp] theorem set_phase_self (s : g.State) (i : Fin n) (ph : g.Phase) :
    (s.set i ph).phase i = ph := Function.update_self ..

theorem set_phase_of_ne (s : g.State) {i j : Fin n} (h : j ≠ i) (ph : g.Phase) :
    (s.set i ph).phase j = s.phase j := Function.update_of_ne h ..

end State

/-! ## §2. Sections and slots. -/

/-- **The sections that are over**: each of one worker, with the result it returned. -/
structure Ordered (s : g.State) : Prop where
  recorded : ∀ x, x ∈ s.order ↔ (s.phase x.1).recorded = some x.2
  nodup : (s.order.map Prod.fst).Nodup

/-- **Slots**: workers start in their order, never more than `limit` at a time. -/
structure Slotted (s : g.State) : Prop where
  slots : s.active.card ≤ g.limit
  started : ∀ {i j : Fin n}, i < j → s.phase i = .queued → s.phase j = .queued
  displaced : ∀ {pre post : List (Fin n × α)} {x : Fin n × α}, s.order = pre ++ x :: post →
    x.1.val < pre.length + g.limit

section moves

variable {s : g.State}

/-- A move of one worker that ends no section. -/
theorem Ordered.set (h : Ordered s) {i : Fin n} {ph : g.Phase}
    (hi : ph.recorded = (s.phase i).recorded) : Ordered (s.set i ph) where
  recorded x := by
    rw [show (s.set i ph).order = s.order from rfl, h.recorded x]
    by_cases hx : x.1 = i
    · rw [hx, State.set_phase_self, hi]
    · rw [State.set_phase_of_ne _ hx]
  nodup := h.nodup

/-- A move of a worker that has its slot. -/
theorem Slotted.set (h : Slotted s) {i : Fin n} {ph : g.Phase} (hi : (s.phase i).active = true)
    (hph : ph ≠ .queued) : Slotted (s.set i ph) := by
  have hstarted : s.phase i ≠ .queued := by
    intro hq
    rw [hq] at hi
    cases hi
  refine ⟨le_trans (Finset.card_le_card fun j hj => ?_) h.slots, fun {j k} hjk hj => ?_,
    h.displaced⟩
  · rw [State.active, Finset.mem_filter] at hj ⊢
    refine ⟨hj.1, ?_⟩
    by_cases hji : j = i
    · rw [hji]
      exact hi
    · rw [← State.set_phase_of_ne s hji ph]
      exact hj.2
  · have hji : j ≠ i := by
      rintro rfl
      rw [State.set_phase_self] at hj
      exact hph hj
    rw [State.set_phase_of_ne _ hji] at hj
    have hk := h.started hjk hj
    have hki : k ≠ i := by
      rintro rfl
      exact hstarted hk
    rw [State.set_phase_of_ne _ hki]
    exact hk

/-- The next worker starts. -/
theorem Slotted.start (h : Slotted s) {i : Fin n} (hi : s.phase i = .queued)
    (hfirst : ∀ j < i, s.phase j ≠ .queued) (hslot : s.active.card < g.limit) :
    Slotted (s.set i (.running (g.body i))) := by
  refine ⟨?_, fun {j k} hjk hj => ?_, h.displaced⟩
  · have hsub : (s.set i (.running (g.body i))).active ⊆ insert i s.active := by
      intro j hj
      rw [Finset.mem_insert]
      by_cases hji : j = i
      · exact .inl hji
      · refine .inr ?_
        rw [State.active, Finset.mem_filter] at hj ⊢
        rw [State.set_phase_of_ne _ hji] at hj
        exact hj
    calc (s.set i (.running (g.body i))).active.card
        ≤ (insert i s.active).card := Finset.card_le_card hsub
      _ ≤ s.active.card + 1 := Finset.card_insert_le _ _
      _ ≤ g.limit := hslot
  · have hji : j ≠ i := by
      rintro rfl
      rw [State.set_phase_self] at hj
      cases hj
    rw [State.set_phase_of_ne _ hji] at hj
    have hki : k ≠ i := by
      rintro rfl
      exact hfirst j hjk hj
    rw [State.set_phase_of_ne _ hki]
    exact h.started hjk hj

/-- **No worker is early**: all before it have started, and of those only `limit` can still be at
work. -/
theorem Slotted.early (h : Slotted s) (ho : Ordered s) {i : Fin n} (hi : s.phase i ≠ .queued) :
    i.val < s.order.length + g.limit := by
  have hsub : Finset.Iic i ⊆ s.active ∪ (s.order.map Prod.fst).toFinset := by
    intro j hj
    rw [Finset.mem_Iic] at hj
    have hjq : s.phase j ≠ .queued := by
      rcases hj.lt_or_eq with hlt | rfl
      · exact fun hq => hi (h.started hlt hq)
      · exact hi
    rw [Finset.mem_union, List.mem_toFinset, State.active, Finset.mem_filter]
    cases hph : s.phase j with
    | queued => exact absurd hph hjq
    | done a =>
      refine .inr (List.mem_map.mpr ⟨(j, a), (ho.recorded (j, a)).mpr ?_, rfl⟩)
      rw [hph]
      rfl
    | running p => exact .inl ⟨Finset.mem_univ j, rfl⟩
    | waiting a => exact .inl ⟨Finset.mem_univ j, rfl⟩
    | holding a left => exact .inl ⟨Finset.mem_univ j, rfl⟩
    | leaving a => exact .inl ⟨Finset.mem_univ j, rfl⟩
  have hcard : i.val + 1 ≤ s.active.card + s.order.length := by
    calc i.val + 1 = (Finset.Iic i).card := by rw [Fin.card_Iic]
      _ ≤ (s.active ∪ (s.order.map Prod.fst).toFinset).card := Finset.card_le_card hsub
      _ ≤ s.active.card + ((s.order.map Prod.fst).toFinset).card := Finset.card_union_le _ _
      _ ≤ s.active.card + s.order.length := by
          have hlen := List.toFinset_card_le (s.order.map Prod.fst)
          rw [List.length_map] at hlen
          omega
  have hslots := h.slots
  omega

end moves

/-! ## §3. Steps and runs. -/

variable [DecidableEq L]

/-- What a whole section makes of the variables. -/
def apply (g : Group S n α L B) (x : Fin n × α) (vars : (l : L) → B l) : (l : L) → B l :=
  Function.update vars (g.lock x.2)
    ((g.writes x.1 x.2).foldl (fun b w => w b) (vars (g.lock x.2)))

/-- What the sections make of them, one after the other. -/
def applyAll (g : Group S n α L B) (order : List (Fin n × α)) (vars : (l : L) → B l) :
    (l : L) → B l :=
  order.foldl (fun v x => g.apply x v) vars

/-- **One step of one worker**, with the event it exchanges. -/
inductive Step (g : Group S n α L B) : g.State → List (Fin n × Event S) → g.State → Prop where
  | start {s : g.State} {i : Fin n} (hi : s.phase i = .queued)
      (hfirst : ∀ j < i, s.phase j ≠ .queued) (hslot : s.active.card < g.limit) :
      Step g s [] (s.set i (.running (g.body i)))
  | call {s : g.State} {i : Fin n} {o : S.Op} {k : S.Resp o → Prog S α} (r : S.Resp o)
      (hi : s.phase i = .running (.call o k)) :
      Step g s [(i, ⟨o, r⟩)] (s.set i (.running (k r)))
  | finish {s : g.State} {i : Fin n} {a : α} (hi : s.phase i = .running (.ret a)) :
      Step g s [] (s.set i (.waiting a))
  | acquire {s : g.State} {i : Fin n} {a : α} (hi : s.phase i = .waiting a)
      (hfree : ∀ j, (s.phase j).held ≠ some (g.lock a)) :
      Step g s [] (s.set i (.holding a (g.writes i a)))
  | write {s : g.State} {i : Fin n} {a : α} {w : B (g.lock a) → B (g.lock a)}
      {left : List (B (g.lock a) → B (g.lock a))} (hi : s.phase i = .holding a (w :: left)) :
      Step g s [] { s.set i (.holding a left) with
        vars := Function.update s.vars (g.lock a) (w (s.vars (g.lock a))) }
  | release {s : g.State} {i : Fin n} {a : α} (hi : s.phase i = .holding a []) :
      Step g s [] { s.set i (.leaving a) with order := s.order ++ [(i, a)] }
  | leave {s : g.State} {i : Fin n} {a : α} (hi : s.phase i = .leaving a) :
      Step g s [] (s.set i (.done a))

/-- Steps of the workers in any order, with all they exchange. -/
inductive Run (g : Group S n α L B) : g.State → List (Fin n × Event S) → g.State → Prop where
  | refl (s : g.State) : Run g s [] s
  | snoc {s s' s'' : g.State} {t u : List (Fin n × Event S)} (h : Run g s t s')
      (hstep : Step g s' u s'') : Run g s (t ++ u) s''

theorem Run.single {s s' : g.State} {t : List (Fin n × Event S)} (h : Step g s t s') :
    Run g s t s' := by
  have hrun := Run.snoc (.refl s) h
  rwa [List.nil_append] at hrun

theorem Run.trans {s s' s'' : g.State} {t u : List (Fin n × Event S)} (h : Run g s t s')
    (h' : Run g s' u s'') : Run g s (t ++ u) s'' := by
  induction h' with
  | refl => rwa [List.append_nil]
  | snoc _ hstep ih =>
    rw [← List.append_assoc]
    exact ih.snoc hstep

/-! ## §4. What one step keeps. -/

section step

variable {s s' : g.State} {t : List (Fin n × Event S)}

/-- **Workers run alone**: the events of a worker take its program to what is left of it. -/
theorem Step.alone (h : Step g s t s') (i : Fin n) :
    Steps ((s.phase i).rest i) (eventsOf i t) ((s'.phase i).rest i) := by
  have hother : ∀ {j : Fin n} {ph : g.Phase}, (s.phase j).rest j = ph.rest j →
      Steps ((s.phase i).rest i) [] (((s.set j ph).phase i).rest i) := by
    intro j ph hrest
    by_cases hij : i = j
    · subst hij
      rw [State.set_phase_self, hrest]
      exact .nil _
    · rw [State.set_phase_of_ne _ hij]
      exact .nil _
  cases h with
  | start hi => exact hother (by rw [hi]; rfl)
  | @call j o k r hj =>
    by_cases hij : i = j
    · subst hij
      rw [State.set_phase_self, hj, eventsOf_cons_self]
      exact .cons r (.nil _)
    · rw [State.set_phase_of_ne _ hij, eventsOf_cons_of_ne (Ne.symm hij)]
      exact .nil _
  | finish hi => exact hother (by rw [hi]; rfl)
  | acquire hi => exact hother (by rw [hi]; rfl)
  | write hi => exact hother (by rw [hi]; rfl)
  | release hi => exact hother (by rw [hi]; rfl)
  | leave hi => exact hother (by rw [hi]; rfl)

end step

/-- **Locks**: one holder each; a free variable is what the sections so far made of it, and the
holder has added the first of its writes. -/
structure Guarded (vars : (l : L) → B l) (s : g.State) : Prop where
  exclusive : ∀ {i j : Fin n} {l : L}, (s.phase i).held = some l → (s.phase j).held = some l →
    i = j
  free : ∀ l, (∀ i, (s.phase i).held ≠ some l) → s.vars l = g.applyAll s.order vars l
  inside : ∀ i a left, s.phase i = .holding a left → ∃ made, g.writes i a = made ++ left ∧
    s.vars (g.lock a) = made.foldl (fun b w => w b) (g.applyAll s.order vars (g.lock a))

section step

variable {s s' : g.State} {t : List (Fin n × Event S)} {vars : (l : L) → B l}

theorem Ordered.step (h : Ordered s) (hstep : Step g s t s') : Ordered s' := by
  cases hstep with
  | start hi => exact h.set (by rw [hi]; rfl)
  | call r hi => exact h.set (by rw [hi]; rfl)
  | finish hi => exact h.set (by rw [hi]; rfl)
  | acquire hi => exact h.set (by rw [hi]; rfl)
  | @write i a w left hi =>
    have hset : Ordered (s.set i (.holding a left)) := h.set (by rw [hi]; rfl)
    exact ⟨hset.recorded, hset.nodup⟩
  | @release i a hi =>
    -- the worker was in its section, so it is not yet in the order
    have hnew : ∀ b, (i, b) ∉ s.order := by
      intro b hb
      have hrec := (h.recorded (i, b)).mp hb
      rw [hi] at hrec
      cases hrec
    refine ⟨fun x => ?_, ?_⟩
    · show x ∈ s.order ++ [(i, a)] ↔ ((s.set i (.leaving a)).phase x.1).recorded = some x.2
      rw [List.mem_append, List.mem_singleton]
      by_cases hx : x.1 = i
      · obtain ⟨j, b⟩ := x
        obtain rfl : j = i := hx
        rw [State.set_phase_self]
        constructor
        · rintro (hb | hb)
          · exact absurd hb (hnew b)
          · cases hb
            rfl
        · intro hb
          cases hb
          exact .inr rfl
      · rw [State.set_phase_of_ne _ hx, ← h.recorded x]
        constructor
        · rintro (hb | rfl)
          · exact hb
          · exact absurd rfl hx
        · exact .inl
    · show ((s.order ++ [(i, a)]).map Prod.fst).Nodup
      rw [List.map_append, List.nodup_append]
      refine ⟨h.nodup, by simp, ?_⟩
      rintro j hj _ hk rfl
      obtain ⟨⟨_, b⟩, hb, rfl⟩ := List.mem_map.mp hj
      rw [List.map_singleton, List.mem_singleton] at hk
      subst hk
      exact hnew b hb
  | leave hi => exact h.set (by rw [hi]; rfl)

/-- A section changes only the variable of its lock. -/
theorem apply_of_ne {x : Fin n × α} {l : L} (h : l ≠ g.lock x.2) (v : (l : L) → B l) :
    g.apply x v l = v l := Function.update_of_ne h ..

theorem applyAll_append (order order' : List (Fin n × α)) (v : (l : L) → B l) :
    g.applyAll (order ++ order') v = g.applyAll order' (g.applyAll order v) :=
  List.foldl_append

/-- A move of one worker that neither takes nor gives back a lock. -/
theorem Guarded.set (h : Guarded vars s) {i : Fin n} {ph : g.Phase}
    (hold : (s.phase i).held = none) (hnew : ph.held = none) : Guarded vars (s.set i ph) := by
  have hheld : ∀ j, ((s.set i ph).phase j).held = (s.phase j).held := by
    intro j
    by_cases hj : j = i
    · rw [hj, State.set_phase_self, hold, hnew]
    · rw [State.set_phase_of_ne _ hj]
  refine ⟨fun hi hj => ?_, fun l hl => ?_, fun j a left hj => ?_⟩
  · rw [hheld] at hi hj
    exact h.exclusive hi hj
  · exact h.free l fun j => by rw [← hheld]; exact hl j
  · by_cases hji : j = i
    · rw [hji, State.set_phase_self] at hj
      rw [hj] at hnew
      cases hnew
    · rw [State.set_phase_of_ne _ hji] at hj
      exact h.inside j a left hj

/-- A free lock is taken. -/
theorem Guarded.acquire (h : Guarded vars s) {i : Fin n} {a : α} (hi : s.phase i = .waiting a)
    (hfree : ∀ j, (s.phase j).held ≠ some (g.lock a)) :
    Guarded vars (s.set i (.holding a (g.writes i a))) := by
  refine ⟨fun {j k l} hj hk => ?_, fun l hl => ?_, fun j b left hj => ?_⟩
  · by_cases hji : j = i
    · by_cases hki : k = i
      · rw [hji, hki]
      · subst hji
        rw [State.set_phase_self] at hj
        rw [State.set_phase_of_ne _ hki] at hk
        cases hj
        exact absurd hk (hfree k)
    · by_cases hki : k = i
      · subst hki
        rw [State.set_phase_self] at hk
        rw [State.set_phase_of_ne _ hji] at hj
        cases hk
        exact absurd hj (hfree j)
      · rw [State.set_phase_of_ne _ hji] at hj
        rw [State.set_phase_of_ne _ hki] at hk
        exact h.exclusive hj hk
  · refine h.free l fun j => ?_
    by_cases hji : j = i
    · rw [hji, hi]
      exact fun hn => by cases hn
    · rw [← State.set_phase_of_ne _ hji]
      exact hl j
  · by_cases hji : j = i
    · subst hji
      rw [State.set_phase_self] at hj
      cases hj
      exact ⟨[], rfl, h.free _ hfree⟩
    · rw [State.set_phase_of_ne _ hji] at hj
      exact h.inside j b left hj

/-- The holder writes its variable. -/
theorem Guarded.write (h : Guarded vars s) {i : Fin n} {a : α} {w : B (g.lock a) → B (g.lock a)}
    {left : List (B (g.lock a) → B (g.lock a))} (hi : s.phase i = .holding a (w :: left)) :
    Guarded vars { s.set i (.holding a left) with
      vars := Function.update s.vars (g.lock a) (w (s.vars (g.lock a))) } := by
  have hheld : ∀ j, ((s.set i (.holding a left)).phase j).held = (s.phase j).held := by
    intro j
    by_cases hj : j = i
    · rw [hj, State.set_phase_self, hi]
      rfl
    · rw [State.set_phase_of_ne _ hj]
  have hhas : (s.phase i).held = some (g.lock a) := by
    rw [hi]
    rfl
  refine ⟨fun hj hk => ?_, fun l hl => ?_, fun j b rest hj => ?_⟩
  · rw [hheld] at hj hk
    exact h.exclusive hj hk
  · -- a free variable is not the one that is written
    have hne : l ≠ g.lock a := by
      rintro rfl
      exact hl i ((hheld i).trans hhas)
    show Function.update s.vars (g.lock a) _ l = _
    rw [Function.update_of_ne hne]
    exact h.free l fun j => by rw [← hheld]; exact hl j
  · by_cases hji : j = i
    · subst hji
      have hj' : (s.set j (.holding a left)).phase j = .holding b rest := hj
      rw [State.set_phase_self] at hj'
      cases hj'
      obtain ⟨made, hmade, hvars⟩ := h.inside j a (w :: left) hi
      refine ⟨made ++ [w], by rw [hmade, List.append_assoc, List.singleton_append], ?_⟩
      show Function.update s.vars (g.lock a) (w (s.vars (g.lock a))) (g.lock a) = _
      rw [Function.update_self, hvars, List.foldl_append]
      rfl
    · have hj' : (s.set i (.holding a left)).phase j = .holding b rest := hj
      rw [State.set_phase_of_ne _ hji] at hj'
      obtain ⟨made, hmade, hvars⟩ := h.inside j b rest hj'
      have hne : g.lock b ≠ g.lock a := by
        intro heq
        refine hji (h.exclusive (l := g.lock a) ?_ hhas)
        rw [hj', ← heq]
        rfl
      refine ⟨made, hmade, ?_⟩
      show Function.update s.vars (g.lock a) _ (g.lock b) = _
      rw [Function.update_of_ne hne]
      exact hvars

/-- The section is over. -/
theorem Guarded.release (h : Guarded vars s) {i : Fin n} {a : α}
    (hi : s.phase i = .holding a []) :
    Guarded vars { s.set i (.leaving a) with order := s.order ++ [(i, a)] } := by
  have hhas : (s.phase i).held = some (g.lock a) := by
    rw [hi]
    rfl
  obtain ⟨made, hmade, hvars⟩ := h.inside i a [] hi
  rw [List.append_nil] at hmade
  -- the variable of the lock is what the section makes of it, the others are as they were
  have hsame : ∀ l, l ≠ g.lock a →
      g.applyAll (s.order ++ [(i, a)]) vars l = g.applyAll s.order vars l := by
    intro l hl
    rw [applyAll_append]
    exact apply_of_ne hl _
  refine ⟨fun {j k l} hj hk => ?_, fun l hl => ?_, fun j b rest hj => ?_⟩
  · have hback : ∀ m, ((s.set i (.leaving a)).phase m).held = some l →
        (s.phase m).held = some l := by
      intro m hm
      by_cases hmi : m = i
      · rw [hmi, State.set_phase_self] at hm
        cases hm
      · rwa [State.set_phase_of_ne _ hmi] at hm
    exact h.exclusive (hback j hj) (hback k hk)
  · by_cases hla : l = g.lock a
    · subst hla
      show s.vars (g.lock a) = g.applyAll (s.order ++ [(i, a)]) vars (g.lock a)
      rw [applyAll_append, hvars, ← hmade]
      exact (Function.update_self (g.lock a) _ _).symm
    · show s.vars l = g.applyAll (s.order ++ [(i, a)]) vars l
      rw [hsame l hla]
      refine h.free l fun j => ?_
      by_cases hji : j = i
      · rw [hji, hhas]
        exact fun heq => hla (Option.some.inj heq).symm
      · rw [← State.set_phase_of_ne s hji (.leaving a)]
        exact hl j
  · by_cases hji : j = i
    · have hj' : (s.set i (.leaving a)).phase j = .holding b rest := hj
      rw [hji, State.set_phase_self] at hj'
      cases hj'
    · have hj' : (s.set i (.leaving a)).phase j = .holding b rest := hj
      rw [State.set_phase_of_ne _ hji] at hj'
      have hne : g.lock b ≠ g.lock a := by
        intro heq
        refine hji (h.exclusive (l := g.lock a) ?_ hhas)
        rw [hj', ← heq]
        rfl
      obtain ⟨done, hdone, hvarsb⟩ := h.inside j b rest hj'
      refine ⟨done, hdone, ?_⟩
      show s.vars (g.lock b) = done.foldl _ (g.applyAll (s.order ++ [(i, a)]) vars (g.lock b))
      rw [hsame _ hne]
      exact hvarsb

theorem Guarded.step (h : Guarded vars s) (hstep : Step g s t s') : Guarded vars s' := by
  cases hstep with
  | start hi => exact h.set (by rw [hi]; rfl) rfl
  | call r hi => exact h.set (by rw [hi]; rfl) rfl
  | finish hi => exact h.set (by rw [hi]; rfl) rfl
  | acquire hi hfree => exact h.acquire hi hfree
  | write hi => exact h.write hi
  | release hi => exact h.release hi
  | leave hi => exact h.set (by rw [hi]; rfl) rfl

theorem Slotted.step (h : Slotted s) (ho : Ordered s) (hstep : Step g s t s') : Slotted s' := by
  cases hstep with
  | start hi hfirst hslot => exact h.start hi hfirst hslot
  | call r hi => exact h.set (by rw [hi]; rfl) (by simp)
  | finish hi => exact h.set (by rw [hi]; rfl) (by simp)
  | acquire hi => exact h.set (by rw [hi]; rfl) (by simp)
  | @write i a w left hi =>
    have hset : Slotted (s.set i (.holding a left)) := h.set (by rw [hi]; rfl) (by simp)
    exact ⟨hset.slots, hset.started, hset.displaced⟩
  | @release i a hi =>
    have hset : Slotted (s.set i (.leaving a)) := h.set (by rw [hi]; rfl) (by simp)
    refine ⟨hset.slots, hset.started, fun {pre post x} heq => ?_⟩
    have hnew : s.order ++ [(i, a)] = pre ++ x :: post := heq
    rcases List.append_eq_append_iff.mp hnew with ⟨mid, hpre, hmid⟩ | ⟨mid, hpre, hmid⟩
    · -- the new entry is the last one
      cases mid with
      | nil =>
        cases hmid
        rw [hpre, List.append_nil]
        exact h.early ho (by rw [hi]; simp)
      | cons y mid => simp at hmid
    · cases mid with
      | nil =>
        cases hmid
        rw [List.append_nil] at hpre
        rw [← hpre]
        exact h.early ho (by rw [hi]; simp)
      | cons y mid =>
        cases hmid
        exact h.displaced hpre
  | leave hi => exact h.set (by rw [hi]; rfl) (by simp)

end step

/-! ## §5. Whole runs. -/

/-- **What holds at every reachable state** of a group that started with these variables. -/
structure Inv (g : Group S n α L B) (vars : (l : L) → B l) (t : List (Fin n × Event S))
    (s : g.State) : Prop where
  alone : ∀ i, Steps (g.body i) (eventsOf i t) ((s.phase i).rest i)
  ordered : Ordered s
  guarded : Guarded vars s
  slotted : Slotted s

theorem eventsOf_append {ι : Type} [DecidableEq ι] (i : ι) (t u : List (ι × Event S)) :
    eventsOf i (t ++ u) = eventsOf i t ++ eventsOf i u := by
  simp [eventsOf, events]

section runs

variable {s s' : g.State} {t : List (Fin n × Event S)} {vars : (l : L) → B l}

theorem inv_init (g : Group S n α L B) (vars : (l : L) → B l) : Inv g vars [] (g.init vars) where
  alone _ := .nil _
  ordered := ⟨fun x => by simp [init, Phase.recorded], by simp [init]⟩
  guarded := by
    refine ⟨fun h => ?_, fun _ _ => rfl, fun _ _ _ h => ?_⟩
    · cases h
    · cases h
  slotted := by
    refine ⟨by simp [init, State.active, Phase.active], fun _ _ => rfl, fun h => ?_⟩
    simp [init] at h

/-- **The invariant along a run.** -/
theorem Run.inv (h : Run g (g.init vars) t s) : Inv g vars t s := by
  induction h with
  | refl => exact inv_init g vars
  | snoc _ hstep ih =>
    refine ⟨fun i => ?_, ih.ordered.step hstep, ih.guarded.step hstep,
      ih.slotted.step ih.ordered hstep⟩
    rw [eventsOf_append]
    exact (ih.alone i).trans (hstep.alone i)

/-- A worker whose section is over has run to its result. -/
theorem Inv.runs (h : Inv g vars t s) {x : Fin n × α} (hx : x ∈ s.order) :
    Runs (g.body x.1) (eventsOf x.1 t) x.2 := by
  have hsteps := h.alone x.1
  have hrec := (h.ordered.recorded x).mp hx
  cases hph : s.phase x.1 with
  | queued => rw [hph] at hrec; cases hrec
  | running p => rw [hph] at hrec; cases hrec
  | waiting a => rw [hph] at hrec; cases hrec
  | holding a left => rw [hph] at hrec; cases hrec
  | leaving a =>
    rw [hph] at hrec hsteps
    cases hrec
    exact hsteps
  | done a =>
    rw [hph] at hrec hsteps
    cases hrec
    exact hsteps

/-- In the end every worker has had its section, once. -/
theorem Inv.order_perm (h : Inv g vars t s) (hdone : s.Finished) :
    (s.order.map Prod.fst).Perm (List.finRange n) := by
  rw [List.perm_ext_iff_of_nodup h.ordered.nodup (List.nodup_finRange n)]
  intro i
  refine ⟨fun _ => List.mem_finRange i, fun _ => ?_⟩
  obtain ⟨a, ha⟩ := hdone i
  refine List.mem_map.mpr ⟨(i, a), (h.ordered.recorded (i, a)).mpr ?_, rfl⟩
  rw [ha]
  rfl

/-- In the end the variables are what the sections made of them. -/
theorem Inv.vars_eq (h : Inv g vars t s) (hdone : s.Finished) :
    s.vars = g.applyAll s.order vars := by
  funext l
  refine h.guarded.free l fun i => ?_
  obtain ⟨a, ha⟩ := hdone i
  rw [ha]
  exact fun hn => by cases hn

end runs

/-- The workers one after the other. -/
def inOrder (g : Group S n α L B) : List (Fin n) → ((l : L) → B l) → Prog S ((l : L) → B l)
  | [], vars => pure vars
  | i :: is, vars => do
    let a ← g.body i
    inOrder g is (g.apply (i, a) vars)

theorem runs_inOrder {g : Group S n α L B} (events : Fin n → List (Event S)) :
    ∀ {order : List (Fin n × α)} {vars : (l : L) → B l},
      (∀ x ∈ order, Runs (g.body x.1) (events x.1) x.2) →
      Runs (g.inOrder (order.map Prod.fst) vars) ((order.map Prod.fst).flatMap events)
        (g.applyAll order vars) := by
  intro order
  induction order with
  | nil => exact fun _ => runs_ret.mpr ⟨rfl, rfl⟩
  | cons x order ih =>
    intro vars h
    refine runs_bind.mpr ⟨x.2, _, _, rfl, h x (List.mem_cons_self ..), ?_⟩
    exact ih fun y hy => h y (List.mem_cons_of_mem _ hy)

/-- The events of a run, worker by worker. -/
theorem events_perm {ι : Type} [DecidableEq ι] {l : List ι} (hnodup : l.Nodup)
    {t : List (ι × Event S)} (hl : ∀ e ∈ t, e.1 ∈ l) :
    (l.flatMap fun i => eventsOf i t).Perm (events t) := by
  -- one event stands in the block of its worker
  have hcons : ∀ (i : ι) (e : Event S) (t : List (ι × Event S)) {l : List ι}, l.Nodup → i ∈ l →
      (l.flatMap fun j => eventsOf j ((i, e) :: t)).Perm (e :: l.flatMap fun j => eventsOf j t) := by
    intro i e t l
    induction l with
    | nil => exact fun _ h => absurd h List.not_mem_nil
    | cons j l ih =>
      intro hnodup hi
      obtain ⟨hj, hnodup⟩ := List.nodup_cons.mp hnodup
      rw [List.flatMap_cons, List.flatMap_cons]
      by_cases hij : i = j
      · subst hij
        have hrest : (l.flatMap fun k => eventsOf k ((i, e) :: t)) =
            l.flatMap fun k => eventsOf k t :=
          List.flatMap_congr fun k hk =>
            eventsOf_cons_of_ne (fun heq : i = k => hj (heq.symm ▸ hk)) e t
        rw [hrest, eventsOf_cons_self, List.cons_append]
      · rw [eventsOf_cons_of_ne hij]
        have hil : i ∈ l := (List.mem_cons.mp hi).resolve_left hij
        exact ((ih hnodup hil).append_left _).trans List.perm_middle
  induction t with
  | nil => simp [eventsOf, events]
  | cons e t ih =>
    refine (hcons e.1 e.2 t hnodup (hl e (List.mem_cons_self ..))).trans ?_
    exact (ih fun e' he' => hl e' (List.mem_cons_of_mem _ he')).cons e.2

/-- **A complete run is a sequential one.**  The order is that in which the sections ended; the
events are those of the run, worker by worker. -/
theorem Run.linearizes {g : Group S n α L B} {s : g.State} {t : List (Fin n × Event S)}
    {vars : (l : L) → B l} (h : Run g (g.init vars) t s) (hdone : s.Finished) :
    ∃ (order : List (Fin n)) (u : List (Event S)), order.Perm (List.finRange n) ∧
      (∀ pre i post, order = pre ++ i :: post → i.val < pre.length + g.limit) ∧
      u.Perm (events t) ∧ Runs (g.inOrder order vars) u s.vars := by
  have hinv := h.inv
  refine ⟨s.order.map Prod.fst, (s.order.map Prod.fst).flatMap fun i => eventsOf i t,
    hinv.order_perm hdone, fun pre i post heq => ?_, ?_, ?_⟩
  · obtain ⟨pre', rest, horder, rfl, hrest⟩ := List.map_eq_append_iff.mp heq
    obtain ⟨x, post', rfl, rfl, -⟩ := List.map_eq_cons_iff.mp hrest
    rw [List.length_map]
    exact hinv.slotted.displaced horder
  · exact events_perm hinv.ordered.nodup fun e _ =>
      (hinv.order_perm hdone).mem_iff.mpr (List.mem_finRange e.1)
  · rw [hinv.vars_eq hdone]
    exact runs_inOrder (fun i => eventsOf i t) fun x hx => hinv.runs hx

end Group

end Effect
