/-
  CelldOperator.Effect.Pool

  **PROGRAMS THAT RUN SIDE BY SIDE.**

  A pool runs one program per key against a shared state; calls of different keys
  interleave at every operation, calls of one key follow each other.  An answer may
  depend on what the thread has exchanged so far, so a shared state can carry
  ghosts that record it.

    • `Pool.Step`, `Pool.Reachable` — the interleaving semantics,
    • `Pool.Outline` — an assertion per key that every operation of the key keeps
      and no other key disturbs,
    • `Pool.Outline.reachable` — it then holds at every reachable state.
-/
import CelldOperator.Effect.Exec
import Mathlib.Logic.Relation
import Mathlib.Logic.Function.Basic

namespace Effect

open Prog

variable {S : Sig} {σ κ J α : Type}

/-! ## §1. Threads and pools. -/

/-- A running job: what it has exchanged so far, and what is left of its program. -/
structure Thread (S : Sig) (J α : Type) where
  job : J
  past : List (Event S)
  rest : Prog S α

/-- Jobs that run side by side, one at a time for each key. -/
structure Pool (S : Sig) (σ κ J α : Type) where
  /-- The program of a job. -/
  program : J → Prog S α
  /-- How an operation of a key's job may be answered, after the events so far. -/
  serve : κ → J → List (Event S) → σ → (o : S.Op) → S.Resp o → σ → Prop
  /-- What else may happen to the shared state. -/
  others : σ → σ → Prop
  /-- The jobs of a key. -/
  admits : κ → J → Prop

/-- The shared state and the thread of each key. -/
structure PoolState (S : Sig) (σ κ J α : Type) where
  shared : σ
  threads : κ → Option (Thread S J α)

/-- The key runs this thread, or none, over this shared state. -/
def PoolState.set [DecidableEq κ] (s : PoolState S σ κ J α) (k : κ)
    (x : Option (Thread S J α)) (shared : σ) : PoolState S σ κ J α :=
  ⟨shared, Function.update s.threads k x⟩

@[simp] theorem PoolState.set_shared [DecidableEq κ] (s : PoolState S σ κ J α) (k : κ)
    (x : Option (Thread S J α)) (shared : σ) : (s.set k x shared).shared = shared := rfl

theorem PoolState.set_threads_self [DecidableEq κ] (s : PoolState S σ κ J α) (k : κ)
    (x : Option (Thread S J α)) (shared : σ) : (s.set k x shared).threads k = x :=
  Function.update_self ..

theorem PoolState.set_threads_of_ne [DecidableEq κ] (s : PoolState S σ κ J α) {k k' : κ}
    (h : k' ≠ k) (x : Option (Thread S J α)) (shared : σ) :
    (s.set k x shared).threads k' = s.threads k' :=
  Function.update_of_ne h ..

namespace Pool

section steps

variable [DecidableEq κ]

/-- One move: of the others, or the start, an operation or the end of a thread. -/
inductive Step (M : Pool S σ κ J α) : PoolState S σ κ J α → PoolState S σ κ J α → Prop where
  | others {s : PoolState S σ κ J α} {x : σ} (h : M.others s.shared x) :
      Step M s ⟨x, s.threads⟩
  | start {s : PoolState S σ κ J α} {k : κ} {j : J} (idle : s.threads k = none)
      (ha : M.admits k j) : Step M s (s.set k (some ⟨j, [], M.program j⟩) s.shared)
  | call {s : PoolState S σ κ J α} {k : κ} {j : J} {t : List (Event S)} {o : S.Op}
      {f : S.Resp o → Prog S α} {r : S.Resp o} {x : σ}
      (running : s.threads k = some ⟨j, t, .call o f⟩) (h : M.serve k j t s.shared o r x) :
      Step M s (s.set k (some ⟨j, t ++ [⟨o, r⟩], f r⟩) x)
  | finish {s : PoolState S σ κ J α} {k : κ} {j : J} {t : List (Event S)} {a : α}
      (running : s.threads k = some ⟨j, t, .ret a⟩) : Step M s (s.set k none s.shared)

/-- The states reached from an initial shared state with no thread running. -/
def Reachable (M : Pool S σ κ J α) (init : σ → Prop) (s : PoolState S σ κ J α) : Prop :=
  ∃ x, init x ∧ Relation.ReflTransGen M.Step ⟨x, fun _ => none⟩ s

theorem Reachable.step {M : Pool S σ κ J α} {init : σ → Prop} {s s' : PoolState S σ κ J α}
    (h : M.Reachable init s) (hs : M.Step s s') : M.Reachable init s' := by
  obtain ⟨x, hx, hr⟩ := h
  exact ⟨x, hx, hr.tail hs⟩

theorem set_set (s : PoolState S σ κ J α) (k : κ) (x y : Option (Thread S J α)) (a b : σ) :
    (s.set k x a).set k y b = s.set k y b := by
  simp [PoolState.set]

/-- How the operations of one thread are answered, its past being part of the state. -/
def serveThread (M : Pool S σ κ J α) (k : κ) (j : J) (x : List (Event S) × σ) (o : S.Op)
    (r : S.Resp o) (y : List (Event S) × σ) : Prop :=
  M.serve k j x.1 x.2 o r y.2 ∧ y.1 = x.1 ++ [⟨o, r⟩]

/-- One thread runs while the others wait. -/
theorem Reachable.exec {M : Pool S σ κ J α} {init : σ → Prop} {k : κ} {j : J}
    {x y : List (Event S) × σ} {p q : Prog S α} {t : List (Event S)}
    (hx : Exec (M.serveThread k j) (fun _ _ => False) x p t y q) {s : PoolState S σ κ J α} :
    M.Reachable init (s.set k (some ⟨j, x.1, p⟩) x.2) →
    M.Reachable init (s.set k (some ⟨j, y.1, q⟩) y.2) := by
  induction hx with
  | refl => exact fun h => h
  | env he _ _ => exact he.elim
  | call hserve _ ih =>
    intro h
    refine ih ?_
    have hstep := h.step (.call (PoolState.set_threads_self ..) hserve.1)
    rwa [set_set, ← hserve.2] at hstep

end steps

/-! ## §2. Proof outlines. -/

/-- What a key is at: nothing, or a job after some events. -/
def point (x : Option (Thread S J α)) : Option (J × List (Event S)) :=
  x.map fun thread => (thread.job, thread.past)

/-- **A proof outline.**  `A` holds of the shared state; `H k p` holds of it while the key `k` is
at the point `p`.  Every operation leads to the assertion at the next point, and no operation
disturbs the assertion of another key. -/
structure Outline (M : Pool S σ κ J α) (A : σ → Prop)
    (H : κ → Option (J × List (Event S)) → σ → Prop) : Prop where
  others : ∀ {s s'}, A s → M.others s s' → A s' ∧ ∀ k p, H k p s → H k p s'
  start : ∀ {s k j}, A s → M.admits k j → H k none s → H k (some (j, [])) s
  call : ∀ {s s' k j t o f r}, A s → M.admits k j → Steps (M.program j) t (.call o f) →
    H k (some (j, t)) s → M.serve k j t s o r s' → A s' ∧ H k (some (j, t ++ [⟨o, r⟩])) s'
  spares : ∀ {s s' k j t o f r}, A s → M.admits k j → Steps (M.program j) t (.call o f) →
    M.serve k j t s o r s' → ∀ k' p, k' ≠ k → H k' p s → H k' p s'
  finish : ∀ {s k j t a}, A s → M.admits k j → Runs (M.program j) t a → H k (some (j, t)) s →
    H k none s

/-- What an outline gives at a state. -/
structure Holds (M : Pool S σ κ J α) (A : σ → Prop)
    (H : κ → Option (J × List (Event S)) → σ → Prop) (s : PoolState S σ κ J α) : Prop where
  shared : A s.shared
  key : ∀ k, H k (point (s.threads k)) s.shared
  thread : ∀ k thread, s.threads k = some thread →
    M.admits k thread.job ∧ Steps (M.program thread.job) thread.past thread.rest

section rule

variable [DecidableEq κ] {M : Pool S σ κ J α} {A : σ → Prop}
  {H : κ → Option (J × List (Event S)) → σ → Prop}

/-- One key moves on, the others stay where they are. -/
theorem Holds.set {s : PoolState S σ κ J α} {x : σ} {k : κ} {y : Option (Thread S J α)}
    (hs : M.Holds A H s) (hA : A x) (hown : H k (point y) x)
    (hothers : ∀ k' p, k' ≠ k → H k' p s.shared → H k' p x)
    (hthread : ∀ thread, y = some thread →
      M.admits k thread.job ∧ Steps (M.program thread.job) thread.past thread.rest) :
    M.Holds A H (s.set k y x) := by
  refine ⟨hA, fun k' => ?_, fun k' thread hrun => ?_⟩
  · by_cases hk : k' = k
    · subst hk
      rw [PoolState.set_threads_self]
      exact hown
    · rw [PoolState.set_threads_of_ne s hk]
      exact hothers k' _ hk (hs.key k')
  · by_cases hk : k' = k
    · subst hk
      rw [PoolState.set_threads_self] at hrun
      exact hthread thread hrun
    · rw [PoolState.set_threads_of_ne s hk] at hrun
      exact hs.thread k' thread hrun

/-- One move keeps the outline. -/
theorem Outline.step (ho : M.Outline A H) {s s' : PoolState S σ κ J α} (hs : M.Holds A H s)
    (hstep : M.Step s s') : M.Holds A H s' := by
  cases hstep with
  | others h =>
    obtain ⟨hA, hkeys⟩ := ho.others hs.shared h
    exact ⟨hA, fun k => hkeys k _ (hs.key k), hs.thread⟩
  | @start k j idle ha =>
    have hidle := hs.key k
    rw [idle] at hidle
    refine hs.set hs.shared (ho.start hs.shared ha hidle) (fun _ _ _ h => h) ?_
    rintro thread ⟨⟩
    exact ⟨ha, .nil _⟩
  | @call k j t o f r x running h =>
    obtain ⟨ha, hsteps⟩ := hs.thread k _ running
    have hat := hs.key k
    rw [running] at hat
    obtain ⟨hA, hown⟩ := ho.call hs.shared ha hsteps hat h
    refine hs.set hA hown (fun k' p hk hp => ho.spares hs.shared ha hsteps h k' p hk hp) ?_
    rintro thread ⟨⟩
    exact ⟨ha, hsteps.trans (.cons r (.nil _))⟩
  | @finish k j t a running =>
    obtain ⟨ha, hsteps⟩ := hs.thread k _ running
    have hat := hs.key k
    rw [running] at hat
    refine hs.set hs.shared (ho.finish hs.shared ha hsteps hat) (fun _ _ _ h => h) ?_
    rintro thread ⟨⟩

/-- **The interleaving rule.**  An outline that holds initially holds at every reachable
state. -/
theorem Outline.reachable (ho : M.Outline A H) {init : σ → Prop} (hA : ∀ x, init x → A x)
    (hidle : ∀ x k, init x → H k none x) {s : PoolState S σ κ J α} (h : M.Reachable init s) :
    M.Holds A H s := by
  obtain ⟨x, hx, hr⟩ := h
  induction hr with
  | refl => exact ⟨hA x hx, fun k => hidle x k hx, by simp⟩
  | tail _ hstep ih => exact ho.step ih hstep

end rule

end Pool

end Effect
