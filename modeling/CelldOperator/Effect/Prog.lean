/-
  CelldOperator.Effect.Prog

  **PROGRAMS THAT TALK TO AN ENVIRONMENT.**

  A program is a finite tree of requests: it issues an operation, receives
  SOME response of the operation's response type, and continues.  Nothing is
  said here about which responses are possible; that is the business of the
  environment the program is run against (`Effect.Exec`).

    • `Prog S α`   — programs over the signature `S` returning an `α`,
    • `Steps p t q` — `p` has exchanged the events `t` and continues as `q`,
    • `Runs p t a`  — `p` has exchanged the events `t` and returned `a`,
    • `Ran p a h`   — inside the history `h`, `p` ran to the result `a`,
    • `Only P p`    — every operation `p` issues satisfies `P`,
    • `Valid I h p Q` — started after the history `h`, every event of `p`
      satisfies `I` at the history it happens at, and every result satisfies
      `Q` at the history it is returned at.

  `Valid` is the weakest precondition of the tree, so the proof of a program
  follows the program text; `valid_steps` and `valid_runs` turn it back into
  a statement about event lists.
-/
import Mathlib.Tactic.Common

namespace Effect

/-! ## §1. Signatures, programs, events. -/

/-- Operations, and the type of responses to each of them. -/
structure Sig where
  Op : Type
  Resp : Op → Type

/-- A program over the operations of `S`. -/
inductive Prog (S : Sig) (α : Type) : Type where
  /-- Return. -/
  | ret (a : α) : Prog S α
  /-- Issue `o` and continue with the response. -/
  | call (o : S.Op) (k : S.Resp o → Prog S α) : Prog S α

/-- One exchange: an operation and the response it got. -/
structure Event (S : Sig) where
  op : S.Op
  resp : S.Resp op

variable {S : Sig} {α β : Type}

namespace Prog

/-- Sequential composition. -/
def bind : Prog S α → (α → Prog S β) → Prog S β
  | .ret a, f => f a
  | .call o k, f => .call o (fun r => bind (k r) f)

instance : Monad (Prog S) where
  pure := .ret
  bind := bind

/-- The program that issues `o` and returns its response. -/
def req (o : S.Op) : Prog S (S.Resp o) := .call o .ret

theorem bind_eq (p : Prog S α) (f : α → Prog S β) : p >>= f = p.bind f := rfl

/-! ## §2. Events exchanged, and the program that is left. -/

/-- `p` exchanges the events `t` and continues as `q`. -/
inductive Steps : Prog S α → List (Event S) → Prog S α → Prop where
  | nil (p : Prog S α) : Steps p [] p
  | cons {o : S.Op} {k : S.Resp o → Prog S α} (r : S.Resp o) {t : List (Event S)}
      {q : Prog S α} (h : Steps (k r) t q) : Steps (.call o k) (⟨o, r⟩ :: t) q

/-- `p` exchanges the events `t` and returns `a`. -/
def Runs (p : Prog S α) (t : List (Event S)) (a : α) : Prop := Steps p t (.ret a)

/-- Somewhere inside the history `h`, `p` ran to completion and returned `a`. -/
def Ran (p : Prog S α) (a : α) (h : List (Event S)) : Prop :=
  ∃ pre t post, h = pre ++ t ++ post ∧ Runs p t a

theorem Steps.trans {p q r : Prog S α} {t u : List (Event S)}
    (h₁ : Steps p t q) (h₂ : Steps q u r) : Steps p (t ++ u) r := by
  induction h₁ with
  | nil => exact h₂
  | cons x _ ih => exact .cons x (ih h₂)

theorem runs_ret {a b : α} {t : List (Event S)} :
    Runs (.ret a : Prog S α) t b ↔ t = [] ∧ a = b := by
  constructor
  · intro h
    cases h
    exact ⟨rfl, rfl⟩
  · rintro ⟨rfl, rfl⟩
    exact .nil _

theorem runs_call {o : S.Op} {k : S.Resp o → Prog S α} {t : List (Event S)} {a : α} :
    Runs (.call o k) t a ↔ ∃ r u, t = ⟨o, r⟩ :: u ∧ Runs (k r) u a := by
  constructor
  · intro h
    cases h with
    | cons r h => exact ⟨r, _, rfl, h⟩
  · rintro ⟨r, u, rfl, h⟩
    exact .cons r h

theorem runs_req {o : S.Op} {t : List (Event S)} {r : S.Resp o} :
    Runs (req o) t r ↔ t = [⟨o, r⟩] := by
  unfold req
  rw [runs_call]
  constructor
  · rintro ⟨r', u, rfl, h⟩
    obtain ⟨rfl, rfl⟩ := runs_ret.mp h
    rfl
  · rintro rfl
    exact ⟨r, [], rfl, .nil _⟩

theorem runs_bind {p : Prog S α} {f : α → Prog S β} {b : β} :
    ∀ {t : List (Event S)}, Runs (p >>= f) t b ↔
      ∃ a t₁ t₂, t = t₁ ++ t₂ ∧ Runs p t₁ a ∧ Runs (f a) t₂ b := by
  rw [bind_eq]
  induction p with
  | ret a =>
    intro t
    constructor
    · intro h
      exact ⟨a, [], t, rfl, .nil _, h⟩
    · rintro ⟨a', t₁, t₂, rfl, h₁, h₂⟩
      obtain ⟨rfl, rfl⟩ := runs_ret.mp h₁
      exact h₂
  | call o k ih =>
    intro t
    show Runs (.call o fun r => bind (k r) f) t b ↔ _
    rw [runs_call]
    constructor
    · rintro ⟨r, u, rfl, h⟩
      obtain ⟨a, t₁, t₂, rfl, h₁, h₂⟩ := (ih r).mp h
      exact ⟨a, ⟨o, r⟩ :: t₁, t₂, rfl, .cons r h₁, h₂⟩
    · rintro ⟨a, t₁, t₂, rfl, h₁, h₂⟩
      obtain ⟨r, u, rfl, hu⟩ := runs_call.mp h₁
      exact ⟨r, u ++ t₂, rfl, (ih r).mpr ⟨a, u, t₂, rfl, hu, h₂⟩⟩

/-- The answers decide: two runs of a program that begin alike are one run. -/
theorem Runs.eq_of_append {p : Prog S α} : ∀ {t t' u u' : List (Event S)} {a a' : α},
    Runs p t a → Runs p t' a' → t ++ u = t' ++ u' → t = t' ∧ a = a' ∧ u = u' := by
  induction p with
  | ret b =>
    intro t t' u u' a a' h h' heq
    obtain ⟨rfl, rfl⟩ := runs_ret.mp h
    obtain ⟨rfl, rfl⟩ := runs_ret.mp h'
    exact ⟨rfl, rfl, heq⟩
  | call o k ih =>
    intro t t' u u' a a' h h' heq
    obtain ⟨r, v, rfl, hv⟩ := runs_call.mp h
    obtain ⟨r', v', rfl, hv'⟩ := runs_call.mp h'
    simp only [List.cons_append, List.cons.injEq, Event.mk.injEq, heq_eq_eq, true_and] at heq
    obtain ⟨rfl, heq⟩ := heq
    obtain ⟨rfl, hrest⟩ := ih r hv hv' heq
    exact ⟨rfl, hrest⟩

/-- What is left of a run behind a run of its first part. -/
theorem runs_bind_of_runs {p : Prog S α} {f : α → Prog S β} {a : α} {b : β}
    {u : List (Event S)} : ∀ {t : List (Event S)}, Runs p t a →
      (Runs (p >>= f) (t ++ u) b ↔ Runs (f a) u b) := by
  rw [bind_eq]
  induction p with
  | ret a' =>
    intro t h
    obtain ⟨rfl, rfl⟩ := runs_ret.mp h
    exact Iff.rfl
  | call o k ih =>
    intro t h
    obtain ⟨r, t', rfl, h'⟩ := runs_call.mp h
    show Runs (.call o fun r => bind (k r) f) (⟨o, r⟩ :: (t' ++ u)) b ↔ _
    rw [runs_call, ← ih r h']
    constructor
    · rintro ⟨r', u', heq, hr⟩
      cases heq
      exact hr
    · intro hr
      exact ⟨r, _, rfl, hr⟩

theorem Runs.ran {p : Prog S α} {t : List (Event S)} {a : α} (h : Runs p t a)
    (pre post : List (Event S)) : Ran p a (pre ++ t ++ post) :=
  ⟨pre, t, post, rfl, h⟩

/-- What ran inside a history also ran inside every longer one. -/
theorem Ran.append {p : Prog S α} {a : α} {h : List (Event S)} (hr : Ran p a h)
    (u : List (Event S)) : Ran p a (h ++ u) := by
  obtain ⟨pre, t, post, rfl, ht⟩ := hr
  exact ⟨pre, t, post ++ u, by simp only [List.append_assoc], ht⟩

theorem Ran.append_left {p : Prog S α} {a : α} {h : List (Event S)} (hr : Ran p a h)
    (u : List (Event S)) : Ran p a (u ++ h) := by
  obtain ⟨pre, t, post, rfl, ht⟩ := hr
  exact ⟨u ++ pre, t, post, by simp only [List.append_assoc], ht⟩

/-! ## §3. Which operations a program issues. -/

/-- Every operation `p` can issue satisfies `P`. -/
def Only (P : S.Op → Prop) : Prog S α → Prop
  | .ret _ => True
  | .call o k => P o ∧ ∀ r, Only P (k r)

@[simp] theorem only_pure (P : S.Op → Prop) (a : α) : Only P (pure a : Prog S α) := trivial

@[simp] theorem only_req (P : S.Op → Prop) (o : S.Op) : Only P (req o) ↔ P o :=
  ⟨fun h => h.1, fun h => ⟨h, fun _ => trivial⟩⟩

theorem only_call {P : S.Op → Prop} {o : S.Op} {k : S.Resp o → Prog S α} :
    Only P (.call o k) ↔ P o ∧ ∀ r, Only P (k r) := Iff.rfl

theorem only_bind {P : S.Op → Prop} {p : Prog S α} {f : α → Prog S β}
    (hp : Only P p) (hf : ∀ a, Only P (f a)) : Only P (p >>= f) := by
  rw [bind_eq]
  induction p with
  | ret a => exact hf a
  | call o k ih => exact ⟨hp.1, fun r => ih r (hp.2 r)⟩

theorem Only.mono {P P' : S.Op → Prop} {p : Prog S α} (hP : ∀ o, P o → P' o)
    (h : Only P p) : Only P' p := by
  induction p with
  | ret a => trivial
  | call o k ih => exact ⟨hP o h.1, fun r => ih r (h.2 r)⟩

theorem Only.and {P P' : S.Op → Prop} {p : Prog S α} (h : Only P p) (h' : Only P' p) :
    Only (fun o => P o ∧ P' o) p := by
  induction p with
  | ret a => trivial
  | call o k ih => exact ⟨⟨h.1, h'.1⟩, fun r => ih r (h.2 r) (h'.2 r)⟩

theorem Only.steps {P : S.Op → Prop} {p q : Prog S α} {t : List (Event S)}
    (h : Only P p) (hs : Steps p t q) : (∀ e ∈ t, P e.op) ∧ Only P q := by
  induction hs with
  | nil => exact ⟨by simp, h⟩
  | cons r _ ih =>
    obtain ⟨hall, hq⟩ := ih (h.2 r)
    exact ⟨List.forall_mem_cons.mpr ⟨h.1, hall⟩, hq⟩

/-! ## §4. Weakest preconditions over histories. -/

/-- Started after the history `h`, every event `e` of `p` satisfies `I` at the history before
it, and every result satisfies `Q` at the history it is returned at. -/
def Valid (I : List (Event S) → Event S → Prop) :
    List (Event S) → Prog S α → (List (Event S) → α → Prop) → Prop
  | h, .ret a, Q => Q h a
  | h, .call o k, Q => ∀ r, I h ⟨o, r⟩ ∧ Valid I (h ++ [⟨o, r⟩]) (k r) Q

section Valid

variable {I I' : List (Event S) → Event S → Prop} {h : List (Event S)}

theorem valid_call {o : S.Op} {k : S.Resp o → Prog S α} {Q : List (Event S) → α → Prop} :
    Valid I h (.call o k) Q ↔ ∀ r, I h ⟨o, r⟩ ∧ Valid I (h ++ [⟨o, r⟩]) (k r) Q := Iff.rfl

@[simp] theorem valid_pure {a : α} {Q : List (Event S) → α → Prop} :
    Valid I h (pure a : Prog S α) Q ↔ Q h a := Iff.rfl

@[simp] theorem valid_req {o : S.Op} {Q : List (Event S) → S.Resp o → Prop} :
    Valid I h (req o) Q ↔ ∀ r, I h ⟨o, r⟩ ∧ Q (h ++ [⟨o, r⟩]) r := Iff.rfl

@[simp] theorem valid_bind {p : Prog S α} {f : α → Prog S β} {Q : List (Event S) → β → Prop} :
    Valid I h (p >>= f) Q ↔ Valid I h p (fun h' a => Valid I h' (f a) Q) := by
  rw [bind_eq]
  induction p generalizing h with
  | ret a => exact Iff.rfl
  | call o k ih =>
    show (∀ r, _ ∧ Valid I _ (bind (k r) f) Q) ↔ ∀ r, _ ∧ Valid I _ (k r) _
    exact forall_congr' fun r => and_congr_right fun _ => ih r

/-- The rule of consequence. -/
theorem Valid.mono {p : Prog S α} {Q Q' : List (Event S) → α → Prop}
    (hv : Valid I h p Q) (hI : ∀ h e, I h e → I' h e) (hQ : ∀ h a, Q h a → Q' h a) :
    Valid I' h p Q' := by
  induction p generalizing h with
  | ret a => exact hQ h a hv
  | call o k ih => exact fun r => ⟨hI h _ (hv r).1, ih r (hv r).2⟩

theorem Valid.post {p : Prog S α} {Q Q' : List (Event S) → α → Prop}
    (hv : Valid I h p Q) (hQ : ∀ h a, Q h a → Q' h a) : Valid I h p Q' :=
  hv.mono (fun _ _ hi => hi) hQ

/-- Two specifications of one program. -/
theorem Valid.and {p : Prog S α} {Q Q' : List (Event S) → α → Prop} (hv : Valid I h p Q)
    (hv' : Valid I' h p Q') :
    Valid (fun h e => I h e ∧ I' h e) h p (fun h a => Q h a ∧ Q' h a) := by
  induction p generalizing h with
  | ret a => exact ⟨hv, hv'⟩
  | call o k ih => exact fun r => ⟨⟨(hv r).1, (hv' r).1⟩, ih r (hv r).2 (hv' r).2⟩

/-- Nothing demanded, nothing to show. -/
theorem valid_trivial (h : List (Event S)) (p : Prog S α) :
    Valid (fun _ _ => True) h p (fun _ _ => True) := by
  induction p generalizing h with
  | ret a => trivial
  | call o k ih => exact fun r => ⟨trivial, ih r _⟩

/-- Along the events a valid program exchanges it stays valid. -/
theorem valid_steps {p q : Prog S α} {t : List (Event S)} {Q : List (Event S) → α → Prop}
    (hv : Valid I h p Q) (hs : Steps p t q) : Valid I (h ++ t) q Q := by
  induction hs generalizing h with
  | nil => simpa using hv
  | cons r _ ih =>
    have := ih (hv r).2
    simpa only [List.append_assoc, List.singleton_append] using this

theorem valid_runs {p : Prog S α} {t : List (Event S)} {a : α}
    {Q : List (Event S) → α → Prop} (hv : Valid I h p Q) (hr : Runs p t a) : Q (h ++ t) a :=
  valid_steps hv hr

/-- Every operation a valid program issues satisfies the event predicate. -/
theorem valid_issued {p : Prog S α} {t : List (Event S)} {o : S.Op}
    {k : S.Resp o → Prog S α} {Q : List (Event S) → α → Prop}
    (hv : Valid I h p Q) (hs : Steps p t (.call o k)) (r : S.Resp o) : I (h ++ t) ⟨o, r⟩ :=
  (valid_steps hv hs r).1

/-- The postcondition may mention the run that led to it. -/
theorem Valid.runs {p : Prog S α} {Q : List (Event S) → α → Prop} (hv : Valid I h p Q) :
    Valid I h p (fun h' a => Q h' a ∧ ∃ t, h' = h ++ t ∧ Runs p t a) := by
  induction p generalizing h with
  | ret a => exact ⟨hv, [], by simp, .nil _⟩
  | call o k ih =>
    intro r
    refine ⟨(hv r).1, (ih r (hv r).2).post ?_⟩
    rintro h' a ⟨hq, t, rfl, ht⟩
    exact ⟨hq, ⟨o, r⟩ :: t, by simp, .cons r ht⟩

/-- A program all of whose events are harmless is valid for what its runs say. -/
theorem Only.valid {P : S.Op → Prop} {p : Prog S α} (hp : Only P p)
    (hI : ∀ h e, P e.op → I h e) :
    Valid I h p (fun h' a => ∃ t, h' = h ++ t ∧ Runs p t a ∧ ∀ e ∈ t, P e.op) := by
  have hv : Valid I h p (fun _ _ => True) := by
    induction p generalizing h with
    | ret a => trivial
    | call o k ih => exact fun r => ⟨hI _ _ hp.1, ih r (hp.2 r)⟩
  refine hv.runs.post ?_
  rintro h' a ⟨-, t, rfl, ht⟩
  exact ⟨t, rfl, ht, (hp.steps ht).1⟩

/-- Once a condition holds that no event undoes and that makes every event admissible, any program
is valid. -/
theorem valid_of_kept {C : List (Event S) → Prop} (hkeep : ∀ h e, C h → C (h ++ [e]))
    (hI : ∀ h e, C h → I h e) (p : Prog S α) (hc : C h) : Valid I h p (fun h' _ => C h') := by
  induction p generalizing h with
  | ret a => exact hc
  | call o k ih => exact fun r => ⟨hI _ _ hc, ih r (hkeep _ _ hc)⟩

/-- A program that issues only `P` has issued only `P` at every event. -/
theorem Valid.along {P : S.Op → Prop} {p : Prog S α} {Q : List (Event S) → α → Prop}
    (hv : Valid I h p Q) (hp : Only P p) (hh : ∀ e ∈ h, P e.op) :
    Valid (fun h e => I h e ∧ P e.op ∧ ∀ e' ∈ h, P e'.op) h p
      (fun h a => Q h a ∧ ∀ e' ∈ h, P e'.op) := by
  induction p generalizing h with
  | ret a => exact ⟨hv, hh⟩
  | call o k ih =>
    intro r
    refine ⟨⟨(hv r).1, hp.1, hh⟩, ih r (hv r).2 (hp.2 r) ?_⟩
    intro e he
    rcases List.mem_append.mp he with he | he
    · exact hh e he
    · rw [List.mem_singleton.mp he]
      exact hp.1

/-- `only_bind`, with what is known of the result of the first part. -/
theorem Only.bind_of {P : S.Op → Prop} {p : Prog S α} {f : α → Prog S β} {Q : α → Prop}
    (hp : Only P p) (hv : Valid I h p fun _ a => Q a) (hf : ∀ a, Q a → Only P (f a)) :
    Only P (p >>= f) := by
  induction p generalizing h with
  | ret a => exact hf a hv
  | call o k ih => exact ⟨hp.1, fun r => ih r (hp.2 r) (hv r).2⟩

/-- What a program does after the history `h` it does after every longer one. -/
theorem Valid.shift {p : Prog S α} {Q : List (Event S) → α → Prop} (hv : Valid I h p Q)
    (h₀ : List (Event S)) :
    Valid (fun h' e => ∃ t, h' = h₀ ++ t ∧ I t e) (h₀ ++ h) p
      (fun h' a => ∃ t, h' = h₀ ++ t ∧ Q t a) := by
  induction p generalizing h with
  | ret a => exact ⟨h, rfl, hv⟩
  | call o k ih =>
    intro r
    refine ⟨⟨h, rfl, (hv r).1⟩, ?_⟩
    have := ih r (hv r).2
    rwa [← List.append_assoc] at this

end Valid

-- From here on the rules above are the interface; unfolding a whole program to compare two of
-- these statements is never what a proof needs.
attribute [irreducible] Valid Only

end Prog

end Effect
