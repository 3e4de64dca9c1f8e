/-
  CelldOperator.Effect.Exec

  **RUNNING A PROGRAM AGAINST A SHARED STATE.**

  `serve s o r s'` says that the operation `o` may be answered with `r` in the
  state `s`, leaving `s'`.  Between two calls of the program others may move
  the state along `env`.  `Exec` is the interleaving: it stops anywhere, so a
  program that is cut off is covered together with one that returns.

  The one rule every system-level proof uses is `Exec.rely_guarantee`: a
  relation `H` between the history of the pass and the shared state, kept by
  the others and by every call the program is allowed (`Valid`) to make, holds
  when the execution stops.

  A `System` runs jobs one after the other, each one possibly cut off, with the
  others moving in between; `System.step_invariant` and
  `System.reachable_invariant` are its induction rules.
-/
import CelldOperator.Effect.Prog
import Mathlib.Logic.Relation

namespace Effect

open Prog

variable {S : Sig} {σ J α : Type}

/-! ## §1. Interleaved execution. -/

/-- `Exec serve env s p t s' q`: from the state `s` the program `p` exchanges the events `t`,
interleaved with moves of the others, up to the state `s'` where it continues as `q`. -/
inductive Exec (serve : σ → (o : S.Op) → S.Resp o → σ → Prop) (env : σ → σ → Prop) :
    σ → Prog S α → List (Event S) → σ → Prog S α → Prop where
  | refl (s : σ) (p : Prog S α) : Exec serve env s p [] s p
  | env {s s' s'' : σ} {p q : Prog S α} {t : List (Event S)}
      (he : env s s') (h : Exec serve env s' p t s'' q) : Exec serve env s p t s'' q
  | call {s s' s'' : σ} {o : S.Op} {k : S.Resp o → Prog S α} {r : S.Resp o}
      {q : Prog S α} {t : List (Event S)} (hs : serve s o r s')
      (h : Exec serve env s' (k r) t s'' q) :
      Exec serve env s (.call o k) (⟨o, r⟩ :: t) s'' q

section Exec

variable {serve serve' : σ → (o : S.Op) → S.Resp o → σ → Prop} {env env' : σ → σ → Prop}

/-- Forgetting the states leaves the events exchanged. -/
theorem Exec.steps {s s' : σ} {p q : Prog S α} {t : List (Event S)}
    (h : Exec serve env s p t s' q) : Steps p t q := by
  induction h with
  | refl => exact .nil _
  | env _ _ ih => exact ih
  | call _ _ ih => exact .cons _ ih

theorem Exec.trans {s s' s'' : σ} {p q r : Prog S α} {t u : List (Event S)}
    (h₁ : Exec serve env s p t s' q) (h₂ : Exec serve env s' q u s'' r) :
    Exec serve env s p (t ++ u) s'' r := by
  induction h₁ with
  | refl => exact h₂
  | env he _ ih => exact .env he (ih h₂)
  | call hs _ ih => exact .call hs (ih h₂)

/-- One request, and what follows it. -/
theorem Exec.request {β : Type} {s s' s'' : σ} {o : S.Op} {r : S.Resp o} {f : S.Resp o → Prog S β}
    {t : List (Event S)} {q : Prog S β} (hs : serve s o r s')
    (h : Exec serve env s' (f r) t s'' q) :
    Exec serve env s (req o >>= f) (⟨o, r⟩ :: t) s'' q :=
  .call hs h

/-- A more permissive server and environment allow the same execution. -/
theorem Exec.mono (hserve : ∀ s o r s', serve s o r s' → serve' s o r s')
    (henv : ∀ s s', env s s' → env' s s') {s s' : σ} {p q : Prog S α} {t : List (Event S)}
    (h : Exec serve env s p t s' q) : Exec serve' env' s p t s' q := by
  induction h with
  | refl => exact .refl _ _
  | env he _ ih => exact .env (henv _ _ he) ih
  | call hs _ ih => exact .call (hserve _ _ _ _ hs) ih

/-- **The rely/guarantee rule.**  `H` is kept by the moves of the others and by every call
whose event `I` admits; then it holds wherever the execution of a valid program stops. -/
theorem Exec.rely_guarantee {H : List (Event S) → σ → Prop}
    {I : List (Event S) → Event S → Prop} {Q : List (Event S) → α → Prop}
    (henv : ∀ h s s', H h s → env s s' → H h s')
    (hcall : ∀ h s o r s', H h s → I h ⟨o, r⟩ → serve s o r s' → H (h ++ [⟨o, r⟩]) s')
    {s s' : σ} {p q : Prog S α} {t : List (Event S)}
    (hx : Exec serve env s p t s' q) :
    ∀ {h₀ : List (Event S)}, Valid I h₀ p Q → H h₀ s → H (h₀ ++ t) s' ∧ Valid I (h₀ ++ t) q Q := by
  induction hx with
  | refl => intro h₀ hv hH; simpa using ⟨hH, hv⟩
  | env he _ ih => intro h₀ hv hH; exact ih hv (henv _ _ _ hH he)
  | call hs _ ih =>
    intro h₀ hv hH
    obtain ⟨hI, hv'⟩ := valid_call.mp hv _
    have := ih hv' (hcall _ _ _ _ _ hH hI hs)
    simpa only [List.append_assoc, List.singleton_append] using this

/-- An invariant of the state alone, kept by every move and every answer. -/
theorem Exec.invariant {A : σ → Prop} (henv : ∀ s s', A s → env s s' → A s')
    (hcall : ∀ s o r s', A s → serve s o r s' → A s')
    {s s' : σ} {p q : Prog S α} {t : List (Event S)}
    (hx : Exec serve env s p t s' q) (hs : A s) : A s' := by
  induction hx with
  | refl => exact hs
  | env he _ ih => exact ih (henv _ _ hs he)
  | call h _ ih => exact ih (hcall _ _ _ _ hs h)

/-- Every exchanged event was answered in some state on the way. -/
theorem Exec.split {s s' : σ} {p q : Prog S α} {t : List (Event S)}
    (hx : Exec serve env s p t s' q) :
    ∀ {h : List (Event S)} {e : Event S} {rest : List (Event S)}, t = h ++ e :: rest →
      ∃ s₁ s₂ k, Exec serve env s p h s₁ (.call e.op k) ∧ serve s₁ e.op e.resp s₂ ∧
        Exec serve env s₂ (k e.resp) rest s' q := by
  induction hx with
  | refl => intro h e rest heq; simp at heq
  | env he _ ih =>
    intro h e rest heq
    obtain ⟨s₁, s₂, k, h₁, h₂, h₃⟩ := ih heq
    exact ⟨s₁, s₂, k, .env he h₁, h₂, h₃⟩
  | call hs hx ih =>
    intro h e rest heq
    cases h with
    | nil =>
      cases heq
      exact ⟨_, _, _, .refl _ _, hs, hx⟩
    | cons e' h =>
      cases heq
      obtain ⟨s₁, s₂, k, h₁, h₂, h₃⟩ := ih rfl
      exact ⟨s₁, s₂, k, .call hs h₁, h₂, h₃⟩

/-- A server that answers everything lets every program return. -/
theorem exec_completes (hanswers : ∀ s o, ∃ r s', serve s o r s') (p : Prog S α) :
    ∀ s, ∃ t s' a, Exec serve env s p t s' (.ret a) := by
  induction p with
  | ret a => exact fun s => ⟨[], s, a, .refl _ _⟩
  | call o k ih =>
    intro s
    obtain ⟨r, s₁, hs⟩ := hanswers s o
    obtain ⟨t, s', a, hrest⟩ := ih r s₁
    exact ⟨⟨o, r⟩ :: t, s', a, .call hs hrest⟩

end Exec

/-! ## §2. Running a program with a function that answers. -/

/-- Run `p` to the end, every operation answered by `handle`: the events, the final state and
the result. -/
def runWith (handle : σ → (o : S.Op) → S.Resp o × σ) :
    Prog S α → σ → List (Event S) × σ × α
  | .ret a, s => ([], s, a)
  | .call o k, s =>
    let (t, s', a) := runWith handle (k (handle s o).1) (handle s o).2
    (⟨o, (handle s o).1⟩ :: t, s', a)

@[simp] theorem runWith_pure (handle : σ → (o : S.Op) → S.Resp o × σ) (a : α) (s : σ) :
    runWith handle (pure a : Prog S α) s = ([], s, a) := rfl

@[simp] theorem runWith_req (handle : σ → (o : S.Op) → S.Resp o × σ) (o : S.Op) (s : σ) :
    runWith handle (req o) s = ([⟨o, (handle s o).1⟩], (handle s o).2, (handle s o).1) := rfl

/-- Every event of a run was answered by the function. -/
theorem answer_of_mem_runWith {handle : σ → (o : S.Op) → S.Resp o × σ} {p : Prog S α} :
    ∀ {s : σ} {e : Event S}, e ∈ (runWith handle p s).1 → ∃ s', e.resp = (handle s' e.op).1 := by
  induction p with
  | ret a => exact fun he => absurd he List.not_mem_nil
  | call o k ih =>
    intro s e he
    rcases List.mem_cons.mp he with rfl | he
    · exact ⟨s, rfl⟩
    · exact ih _ he

/-- Every event of a run is a request the program comes to. -/
theorem steps_of_mem_runWith {handle : σ → (o : S.Op) → S.Resp o × σ} {p : Prog S α} :
    ∀ {s : σ} {e : Event S}, e ∈ (runWith handle p s).1 →
      ∃ h next, Steps p h (.call e.op next) := by
  induction p with
  | ret a => exact fun he => absurd he List.not_mem_nil
  | call o k ih =>
    intro s e he
    rcases List.mem_cons.mp he with rfl | he
    · exact ⟨[], k, .nil _⟩
    · obtain ⟨h, next, hsteps⟩ := ih _ he
      exact ⟨_, next, .cons _ hsteps⟩

/-- What the operations of a program keep, its run keeps. -/
theorem runWith_keeps {handle : σ → (o : S.Op) → S.Resp o × σ} {P : S.Op → Prop} {A : σ → Prop}
    (hkeep : ∀ s o, P o → A s → A (handle s o).2) {p : Prog S α} (hp : Only P p) :
    ∀ {s}, A s → A (runWith handle p s).2.1 := by
  induction p with
  | ret a => exact fun hs => hs
  | call o k ih =>
    intro s hs
    obtain ⟨ho, hk⟩ := only_call.mp hp
    exact ih _ (hk _) (hkeep s o ho hs)

theorem runWith_bind {β : Type} (handle : σ → (o : S.Op) → S.Resp o × σ) (p : Prog S α)
    (f : α → Prog S β) : ∀ s, runWith handle (p >>= f) s =
      ((runWith handle p s).1 ++
          (runWith handle (f (runWith handle p s).2.2) (runWith handle p s).2.1).1,
        (runWith handle (f (runWith handle p s).2.2) (runWith handle p s).2.1).2) := by
  induction p with
  | ret a => intro s; rfl
  | call o k ih =>
    intro s
    have hstep : runWith handle (.call o k >>= f) s =
        (⟨o, (handle s o).1⟩ :: (runWith handle (k (handle s o).1 >>= f) (handle s o).2).1,
          (runWith handle (k (handle s o).1 >>= f) (handle s o).2).2) := rfl
    rw [hstep, ih]
    rfl

/-- A run with a function whose answers `serve` admits wherever `A` holds is an execution. -/
theorem exec_runWith_of_inv {serve : σ → (o : S.Op) → S.Resp o → σ → Prop} {env : σ → σ → Prop}
    {handle : σ → (o : S.Op) → S.Resp o × σ} {A : σ → Prop}
    (hinv : ∀ s o, A s → A (handle s o).2)
    (hh : ∀ s o, A s → serve s o (handle s o).1 (handle s o).2) (p : Prog S α) :
    ∀ s, A s → Exec serve env s p (runWith handle p s).1 (runWith handle p s).2.1
      (.ret (runWith handle p s).2.2) := by
  induction p with
  | ret a => intro s _; exact .refl s _
  | call o k ih => intro s hs; exact .call (hh s o hs) (ih _ _ (hinv s o hs))

theorem exec_runWith {R : σ → (o : S.Op) → S.Resp o → σ → Prop} {E : σ → σ → Prop}
    {handle : σ → (o : S.Op) → S.Resp o × σ}
    (hh : ∀ s o, R s o (handle s o).1 (handle s o).2) (p : Prog S α) (s : σ) :
    Exec R E s p (runWith handle p s).1 (runWith handle p s).2.1
      (.ret (runWith handle p s).2.2) :=
  exec_runWith_of_inv (A := fun _ => True) (fun _ _ _ => trivial) (fun s o _ => hh s o) p s
    trivial

/-- A run with a function that answers as `serve` admits at the points of the program; the state
holds what was exchanged so far. -/
theorem exec_runWith_of_valid (past : σ → List (Event S))
    {serve : σ → (o : S.Op) → S.Resp o → σ → Prop} {env : σ → σ → Prop}
    {handle : σ → (o : S.Op) → S.Resp o × σ} {A : σ → Prop}
    {I : List (Event S) → Event S → Prop} {Q : List (Event S) → α → Prop}
    (hpast : ∀ s o, past (handle s o).2 = past s ++ [⟨o, (handle s o).1⟩])
    (hinv : ∀ s o, A s → A (handle s o).2)
    (hh : ∀ s o, A s → I (past s) ⟨o, (handle s o).1⟩ →
      serve s o (handle s o).1 (handle s o).2) (p : Prog S α) :
    ∀ s, A s → Valid I (past s) p Q → Exec serve env s p (runWith handle p s).1
      (runWith handle p s).2.1 (.ret (runWith handle p s).2.2) := by
  induction p with
  | ret a => intro s _ _; exact .refl s _
  | call o k ih =>
    intro s hs hv
    obtain ⟨hpoint, hv⟩ := valid_call.mp hv (handle s o).1
    rw [← hpast] at hv
    exact .call (hh s o hs hpoint) (ih _ _ (hinv s o hs) hv)

/-- Every operation of the run meets the test, in the state it is answered in. -/
def runMeets (handle : σ → (o : S.Op) → S.Resp o × σ) (C : σ → S.Op → Bool) :
    Prog S α → σ → Bool
  | .ret _, _ => true
  | .call o k, s => C s o && runMeets handle C (k (handle s o).1) (handle s o).2

/-- A run whose operations meet the test, with a function that answers as `serve` admits where
they do. -/
theorem exec_runWith_of_meets {R : σ → (o : S.Op) → S.Resp o → σ → Prop} {E : σ → σ → Prop}
    {handle : σ → (o : S.Op) → S.Resp o × σ} {C : σ → S.Op → Bool}
    (hh : ∀ s o, C s o = true → R s o (handle s o).1 (handle s o).2) (p : Prog S α) :
    ∀ s, runMeets handle C p s = true → Exec R E s p (runWith handle p s).1
      (runWith handle p s).2.1 (.ret (runWith handle p s).2.2) := by
  induction p with
  | ret a => intro s _; exact .refl s _
  | call o k ih =>
    intro s hs
    obtain ⟨ho, hrest⟩ := Bool.and_eq_true_iff.mp hs
    exact .call (hh s o ho) (ih _ _ hrest)

theorem runs_runWith {handle : σ → (o : S.Op) → S.Resp o × σ} {p : Prog S α} {s : σ}
    (run : List (Event S) × σ × α) (h : run = runWith handle p s) : Runs p run.1 run.2.2 := by
  subst h
  exact (exec_runWith (R := fun _ _ _ _ => True) (E := fun _ _ => True)
    (fun _ _ => trivial) p s).steps

/-! ## §3. Systems: jobs in sequence, others in between. -/

/-- Jobs run one after the other against a shared state. -/
structure System (S : Sig) (σ J α : Type) where
  /-- How an operation may be answered. -/
  serve : σ → (o : S.Op) → S.Resp o → σ → Prop
  /-- What the others may do while a job is running. -/
  during : σ → σ → Prop
  /-- What the others may do while no job is running. -/
  between : σ → σ → Prop
  /-- The program of a job. -/
  job : J → Prog S α
  /-- Which jobs may start. -/
  admits : σ → J → Prop

namespace System

/-- One move: the others, or a job up to wherever it gets. -/
inductive Step (M : System S σ J α) : σ → σ → Prop where
  | others {s s' : σ} (h : M.between s s') : Step M s s'
  | job {s s' : σ} {j : J} {t : List (Event S)} {q : Prog S α} (ha : M.admits s j)
      (h : Exec M.serve M.during s (M.job j) t s' q) : Step M s s'

/-- The states a run reaches from a state satisfying `init`. -/
def Reachable (M : System S σ J α) (init : σ → Prop) (s : σ) : Prop :=
  ∃ s₀, init s₀ ∧ Relation.ReflTransGen M.Step s₀ s

/-- The system in which, in addition, every answered operation meets `C` at the state it is
answered in. -/
def restrict (M : System S σ J α) (C : σ → S.Op → Prop) : System S σ J α :=
  { M with serve := fun s o r s' => M.serve s o r s' ∧ C s o }

theorem restrict_true (M : System S σ J α) : M.restrict (fun _ _ => True) = M := by
  simp [restrict]

variable {M : System S σ J α}

/-- **Step rule.**  `H j h s` is what holds of the shared state inside job `j` after the
history `h`; it starts and ends in the invariant. -/
theorem step_invariant {A : σ → Prop} {H : J → List (Event S) → σ → Prop}
    {I : J → List (Event S) → Event S → Prop} {Q : J → List (Event S) → α → Prop}
    (hvalid : ∀ s j, M.admits s j → Valid (I j) [] (M.job j) (Q j))
    (hbetween : ∀ s s', A s → M.between s s' → A s')
    (hstart : ∀ s j, A s → M.admits s j → H j [] s)
    (hduring : ∀ j h s s', H j h s → M.during s s' → H j h s')
    (hcall : ∀ j h s o r s', H j h s → I j h ⟨o, r⟩ → M.serve s o r s' →
      H j (h ++ [⟨o, r⟩]) s')
    (hend : ∀ j h s, H j h s → A s)
    {s s' : σ} (hs : A s) (hstep : M.Step s s') : A s' := by
  cases hstep with
  | others h => exact hbetween _ _ hs h
  | job ha hx =>
    exact hend _ _ _ (hx.rely_guarantee (hduring _) (hcall _) (hvalid _ _ ha)
      (hstart _ _ hs ha)).1

/-- **Run rule.**  What holds initially and is kept by every move holds in every reachable
state. -/
theorem reachable_invariant {A init : σ → Prop} (hinit : ∀ s, init s → A s)
    (hstep : ∀ s s', A s → M.Step s s' → A s') {s : σ} (h : M.Reachable init s) :
    A s := by
  obtain ⟨s₀, h₀, hr⟩ := h
  induction hr with
  | refl => exact hinit _ h₀
  | tail _ hs ih => exact hstep _ _ ih hs

theorem Reachable.step {init : σ → Prop} {s s' : σ} (h : M.Reachable init s)
    (hs : M.Step s s') : M.Reachable init s' := by
  obtain ⟨s₀, h₀, hr⟩ := h
  exact ⟨s₀, h₀, hr.tail hs⟩

end System

end Effect
