/-
  CelldOperator.Effect.Hoare

  **PRE- AND POSTCONDITIONS OF INTERLEAVED EXECUTIONS.**

  `Ensures serve env A p Q`: whenever `p`, started where `A` holds and interleaved
  with the moves `env` of others, returns `a`, then `Q a` holds there.  Conditions
  in the middle of a program have to be stable under the others:

    • `ensures_pure`, `ensures_req`, `ensures_bind` — the three ways to build a
      program,
    • `ensures_only` — what no operation of `p` touches survives `p`.

  Without others (`alone`) an execution is taken apart request by request, with
  `Exec.req_alone`, `Exec.bind_cases` and `Exec.pure_alone`.

  `Issues serve env A p G`: however far such an execution gets, every operation
  it has issued meets `G`.  Its rules follow the same three formers, and
  `Issues.first`, `Issues.rest` take a composition apart again.

  `Throughout serve env A p I`: however far it gets, `I` holds there.  What no
  operation breaks holds throughout (`throughout_only`), and compositions are taken
  part by part (`throughout_bind`).
-/
import CelldOperator.Effect.Exec

namespace Effect

open Prog

variable {S : Sig} {σ α β : Type} {serve : σ → (o : S.Op) → S.Resp o → σ → Prop}
  {env : σ → σ → Prop}

/-- The others keep `A`. -/
def Stable (env : σ → σ → Prop) (A : σ → Prop) : Prop := ∀ s s', A s → env s s' → A s'

theorem Stable.moves {A : σ → Prop} (hA : Stable env A) {s s' : σ}
    (h : Relation.ReflTransGen env s s') (hs : A s) : A s' := by
  induction h with
  | refl => exact hs
  | tail _ he ih => exact hA _ _ ih he

/-- What is not about the state is stable. -/
theorem Stable.and_const {A : σ → Prop} (hA : Stable env A) (c : Prop) :
    Stable env fun s => c ∧ A s :=
  fun s s' h he => ⟨h.1, hA s s' h.2 he⟩

/-- Where `p` returns, its postcondition holds. -/
def Ensures (serve : σ → (o : S.Op) → S.Resp o → σ → Prop) (env : σ → σ → Prop) (A : σ → Prop)
    (p : Prog S α) (Q : α → σ → Prop) : Prop :=
  ∀ s t s' a, A s → Exec serve env s p t s' (.ret a) → Q a s'

theorem Ensures.post {A : σ → Prop} {p : Prog S α} {Q Q' : α → σ → Prop}
    (h : Ensures serve env A p Q) (hQ : ∀ a s, Q a s → Q' a s) : Ensures serve env A p Q' :=
  fun s t s' a hs hx => hQ a s' (h s t s' a hs hx)

theorem Ensures.pre {A A' : σ → Prop} {p : Prog S α} {Q : α → σ → Prop}
    (h : Ensures serve env A p Q) (hA : ∀ s, A' s → A s) : Ensures serve env A' p Q :=
  fun s t s' a hs hx => h s t s' a (hA s hs) hx

theorem Ensures.and {A : σ → Prop} {p : Prog S α} {Q Q' : α → σ → Prop}
    (h : Ensures serve env A p Q) (h' : Ensures serve env A p Q') :
    Ensures serve env A p fun a s => Q a s ∧ Q' a s :=
  fun s t s' a hs hx => ⟨h s t s' a hs hx, h' s t s' a hs hx⟩

/-- The result of a program that only returns. -/
theorem ensures_result {A : σ → Prop} (a : α) :
    Ensures serve env A (pure a) fun b _ => b = a :=
  fun _ _ _ _ _ hx => (runs_ret.mp hx.steps).2.symm

theorem ensures_pure {A : σ → Prop} (hA : Stable env A) (a : α) {Q : α → σ → Prop}
    (hQ : ∀ s, A s → Q a s) : Ensures serve env A (pure a) Q := by
  intro s t s' b hs hx
  generalize hp : (pure a : Prog S α) = p at hx
  generalize hq : (.ret b : Prog S α) = q at hx
  induction hx with
  | refl =>
    cases hp.trans hq.symm
    exact hQ _ hs
  | env he _ ih => exact ih (hA _ _ hs he) hp hq
  | call => cases hp

/-- The first call of a program, once it is answered, behind moves of the others. -/
theorem Exec.call_cases {s s' : σ} {o : S.Op} {k : S.Resp o → Prog S α} {t : List (Event S)}
    {q : Prog S α} (hx : Exec serve env s (.call o k) t s' q) :
    (t = [] ∧ q = .call o k) ∨
      ∃ s₁ r s₂ u, Relation.ReflTransGen env s s₁ ∧ serve s₁ o r s₂ ∧ t = ⟨o, r⟩ :: u ∧
        Exec serve env s₂ (k r) u s' q := by
  generalize hp : (.call o k : Prog S α) = p at hx
  induction hx with
  | refl => exact .inl ⟨rfl, rfl⟩
  | env he _ ih =>
    rcases ih hp with hnone | ⟨s₁, r, s₂, u, hmoves, hserve, ht, hrest⟩
    · exact .inl hnone
    · exact .inr ⟨s₁, r, s₂, u, .head he hmoves, hserve, ht, hrest⟩
  | call h hx _ =>
    cases hp
    exact .inr ⟨_, _, _, _, .refl, h, rfl, hx⟩

/-- A program that returns has its first call answered. -/
theorem Exec.of_call {s s' : σ} {o : S.Op} {k : S.Resp o → Prog S α} {t : List (Event S)} {a : α}
    (hx : Exec serve env s (.call o k) t s' (.ret a)) :
    ∃ s₁ r s₂ u, Relation.ReflTransGen env s s₁ ∧ serve s₁ o r s₂ ∧
      Exec serve env s₂ (k r) u s' (.ret a) := by
  rcases hx.call_cases with ⟨-, hq⟩ | ⟨s₁, r, s₂, u, hmoves, hserve, -, hrest⟩
  · cases hq
  · exact ⟨s₁, r, s₂, u, hmoves, hserve, hrest⟩

/-- An execution of the first part of a composition. -/
theorem Exec.bind_left {s s' : σ} {p q : Prog S α} {t : List (Event S)} (f : α → Prog S β)
    (hx : Exec serve env s p t s' q) : Exec serve env s (p >>= f) t s' (q >>= f) := by
  induction hx with
  | refl => exact .refl _ _
  | env he _ ih => exact .env he ih
  | call h _ ih => exact .call h ih

theorem Exec.after {s s₁ s' : σ} {p q : Prog S α} {t : List (Event S)}
    (hmoves : Relation.ReflTransGen env s s₁) (hx : Exec serve env s₁ p t s' q) :
    Exec serve env s p t s' q := by
  induction hmoves using Relation.ReflTransGen.head_induction_on with
  | refl => exact hx
  | head he _ ih => exact .env he ih

/-- A program that has returned only waits for the others. -/
theorem Exec.ret_cases {s s' : σ} {a b : α} {t : List (Event S)}
    (hx : Exec serve env s (.ret a) t s' (.ret b)) :
    t = [] ∧ a = b ∧ Relation.ReflTransGen env s s' := by
  generalize hp : (.ret a : Prog S α) = p at hx
  generalize hq : (.ret b : Prog S α) = q at hx
  induction hx with
  | refl =>
    cases hp.trans hq.symm
    exact ⟨rfl, rfl, .refl⟩
  | env he _ ih =>
    obtain ⟨ht, hab, hmoves⟩ := ih hp hq
    exact ⟨ht, hab, .head he hmoves⟩
  | call => cases hp

/-- A single request, amid the others. -/
theorem Exec.req_cases {s s' : σ} {o : S.Op} {r : S.Resp o} {t : List (Event S)}
    (hx : Exec serve env s (req o) t s' (.ret r)) :
    ∃ s₁ s₂, Relation.ReflTransGen env s s₁ ∧ serve s₁ o r s₂ ∧ t = [⟨o, r⟩] ∧
      Relation.ReflTransGen env s₂ s' := by
  rcases Exec.call_cases hx with ⟨-, hq⟩ | ⟨s₁, r', s₂, u, hmoves, hserve, rfl, hrest⟩
  · cases hq
  · obtain ⟨rfl, rfl, hmoves'⟩ := hrest.ret_cases
    exact ⟨s₁, s₂, hmoves, hserve, rfl, hmoves'⟩

/-- The two parts of a composition that returns. -/
theorem Exec.bind_cases {p : Prog S α} {f : α → Prog S β} {b : β} {s' : σ} :
    ∀ {s : σ} {t : List (Event S)}, Exec serve env s (p >>= f) t s' (.ret b) →
      ∃ a t₁ t₂ s₁, t = t₁ ++ t₂ ∧ Exec serve env s p t₁ s₁ (.ret a) ∧
        Exec serve env s₁ (f a) t₂ s' (.ret b) := by
  induction p with
  | ret a =>
    intro s t hx
    exact ⟨a, [], t, s, rfl, .refl _ _, hx⟩
  | call o k ih =>
    intro s t hx
    rcases Exec.call_cases hx with ⟨-, hq⟩ | ⟨s₁, r, s₂, u, hmoves, hserve, rfl, hrest⟩
    · cases hq
    · obtain ⟨a, t₁, t₂, s₃, rfl, h₁, h₂⟩ := ih r hrest
      exact ⟨a, ⟨o, r⟩ :: t₁, t₂, s₃, rfl, .after hmoves (.call hserve h₁), h₂⟩

/-! ## Executions nobody interferes with. -/

/-- There are no others. -/
def alone : σ → σ → Prop := fun _ _ => False

theorem eq_of_alone {s s' : σ} (h : Relation.ReflTransGen alone s s') : s' = s := by
  induction h with
  | refl => rfl
  | tail _ he _ => exact he.elim

theorem Exec.pure_alone {s s' : σ} {a b : α} {t : List (Event S)}
    (h : Exec serve alone s (pure a) t s' (.ret b)) : t = [] ∧ s' = s ∧ b = a := by
  obtain ⟨ht, hab, hmoves⟩ := Exec.ret_cases h
  exact ⟨ht, eq_of_alone hmoves, hab.symm⟩

/-- One request, and what follows it. -/
theorem Exec.req_alone {s s' : σ} {o : S.Op} {f : S.Resp o → Prog S α} {t : List (Event S)} {a : α}
    (h : Exec serve alone s (req o >>= f) t s' (.ret a)) :
    ∃ r s₁ u, serve s o r s₁ ∧ t = ⟨o, r⟩ :: u ∧ Exec serve alone s₁ (f r) u s' (.ret a) := by
  rcases Exec.call_cases h with ⟨-, hq⟩ | ⟨s₁, r, s₂, u, hmoves, hserve, ht, hrest⟩
  · cases hq
  · rw [eq_of_alone hmoves] at hserve
    exact ⟨r, s₂, u, hserve, ht, hrest⟩

theorem ensures_call {A : σ → Prop} (hA : Stable env A) {o : S.Op} {k : S.Resp o → Prog S α}
    {B : S.Resp o → σ → Prop} {Q : α → σ → Prop}
    (hserve : ∀ s r s', A s → serve s o r s' → B r s')
    (hk : ∀ r, Ensures serve env (B r) (k r) Q) : Ensures serve env A (.call o k) Q := by
  intro s t s' a hs hx
  obtain ⟨s₁, r, s₂, u, hmoves, hanswer, hrest⟩ := hx.of_call
  have hs₁ : A s₁ := hA.moves hmoves hs
  exact hk r s₂ u s' a (hserve s₁ r s₂ hs₁ hanswer) hrest

theorem ensures_req {A : σ → Prop} (hA : Stable env A) {o : S.Op} {B : S.Resp o → σ → Prop}
    (hB : ∀ r, Stable env (B r)) (hserve : ∀ s r s', A s → serve s o r s' → B r s') :
    Ensures serve env A (req o) B :=
  ensures_call hA hserve fun r => ensures_pure (hB r) r fun _ h => h

theorem ensures_bind {p : Prog S α} {f : α → Prog S β} {B : α → σ → Prop} {Q : β → σ → Prop}
    (hf : ∀ a, Ensures serve env (B a) (f a) Q) :
    ∀ {A : σ → Prop}, Ensures serve env A p B → Ensures serve env A (p >>= f) Q := by
  induction p with
  | ret a => exact fun hp s t s' b hs hx => hf a s t s' b (hp s [] s a hs (.refl _ _)) hx
  | call o k ih =>
    intro A hp s t s' b hs hx
    obtain ⟨s₁, r, s₂, u, hmoves, hserve, hrest⟩ := hx.of_call
    -- the rest of `p`, started where the first call was answered
    have hrest' : Ensures serve env (· = s₂) (k r) B := by
      rintro _ u' s₃ a rfl hx'
      exact hp s _ s₃ a hs (.after hmoves (.call hserve hx'))
    exact ih r hrest' s₂ u s' b rfl hrest

/-- What no operation of the program touches. -/
theorem ensures_only {A : σ → Prop} (hA : Stable env A) {P : S.Op → Prop} {p : Prog S α}
    (hp : Only P p) (hserve : ∀ s o r s', P o → A s → serve s o r s' → A s') :
    Ensures serve env A p fun _ => A := by
  induction p with
  | ret a => exact ensures_pure hA a fun _ h => h
  | call o k ih =>
    obtain ⟨ho, hk⟩ := only_call.mp hp
    exact ensures_call hA (fun s r s' hs h => hserve s o r s' ho hs h) fun r => ih r (hk r)

/-! ## The operations issued. -/

/-- Every operation issued meets `G`, wherever the execution stops. -/
def Issues (serve : σ → (o : S.Op) → S.Resp o → σ → Prop) (env : σ → σ → Prop) (A : σ → Prop)
    (p : Prog S α) (G : S.Op → Prop) : Prop :=
  ∀ s t s' q, A s → Exec serve env s p t s' q → ∀ e ∈ t, G e.op

variable {A : σ → Prop} {G : S.Op → Prop}

theorem issues_only {p : Prog S α} (hp : Only G p) : Issues serve env A p G :=
  fun _ _ _ _ _ hx => (hp.steps hx.steps).1

/-- Facts that are not about the state, as hypotheses. -/
theorem issues_of_const {c : Prop} {p : Prog S α}
    (h : c → Issues serve env (fun _ => True) p G) : Issues serve env (fun _ => c) p G :=
  fun s t s' q hc hx => h hc s t s' q trivial hx

theorem issues_bind {p : Prog S α} {f : α → Prog S β} {B : α → σ → Prop}
    (hf : ∀ a, Issues serve env (B a) (f a) G) :
    ∀ {A : σ → Prop}, Issues serve env A p G → Ensures serve env A p B →
      Issues serve env A (p >>= f) G := by
  induction p with
  | ret a => exact fun _ hp s t s' q hs hx => hf a s t s' q (hp s [] s a hs (.refl _ _)) hx
  | call o k ih =>
    intro A hissues hp s t s' q hs hx
    rcases hx.call_cases with ⟨rfl, -⟩ | ⟨s₁, r, s₂, u, hmoves, hserve, rfl, hrest⟩
    · exact fun e he => absurd he List.not_mem_nil
    · -- the rest of `p`, started where the first call was answered
      have hissues' : Issues serve env (· = s₂) (k r) G := by
        rintro _ u' s₃ q' rfl hx' e he
        exact hissues s _ s₃ q' hs (.after hmoves (.call hserve hx')) e (.tail _ he)
      have hp' : Ensures serve env (· = s₂) (k r) B := by
        rintro _ u' s₃ a rfl hx'
        exact hp s _ s₃ a hs (.after hmoves (.call hserve hx'))
      intro e he
      rcases List.mem_cons.mp he with rfl | he
      · exact hissues s _ s₂ _ hs (.after hmoves (.call hserve (.refl _ _))) _ (.head _)
      · exact ih r hissues' hp' s₂ u s' q rfl hrest e he

/-- What operations that meet `G` keep. -/
theorem Issues.keeps {p : Prog S α} (hp : Issues serve env A p G) (hA : Stable env A)
    (hserve : ∀ s o r s', G o → A s → serve s o r s' → A s') :
    Ensures serve env A p fun _ => A := by
  intro s t s' a hs hx
  have hall := hp s t s' _ hs hx
  generalize (.ret a : Prog S α) = q at hx
  clear hp
  induction hx with
  | refl => exact hs
  | env he _ ih => exact ih (hA _ _ hs he) hall
  | call h _ ih =>
    exact ih (hserve _ _ _ _ (hall _ (.head _)) hs h) fun e he => hall e (.tail _ he)

/-- The first part of a composition. -/
theorem Issues.first {p : Prog S α} {f : α → Prog S β} (h : Issues serve env A (p >>= f) G) :
    Issues serve env A p G :=
  fun s t s' _ hs hx => h s t s' _ hs (hx.bind_left f)

/-- What follows a first part that has returned. -/
theorem Issues.rest {p : Prog S α} {f : α → Prog S β} {s s₁ : σ} {t : List (Event S)} {a : α}
    (h : Issues serve env A (p >>= f) G) (hs : A s) (hx : Exec serve env s p t s₁ (.ret a)) :
    Issues serve env (· = s₁) (f a) G := by
  rintro _ u s₂ q rfl hrest e he
  exact h s _ s₂ q hs ((hx.bind_left f).trans hrest) e (List.mem_append_right t he)

/-! ## What holds at every point. -/

/-- `I` holds wherever the execution stops. -/
def Throughout (serve : σ → (o : S.Op) → S.Resp o → σ → Prop) (env : σ → σ → Prop) (A : σ → Prop)
    (p : Prog S α) (I : σ → Prop) : Prop :=
  ∀ s t s' q, A s → Exec serve env s p t s' q → I s'

variable {I : σ → Prop}

theorem Throughout.post {I' : σ → Prop} {p : Prog S α} (h : Throughout serve env A p I)
    (hI : ∀ s, I s → I' s) : Throughout serve env A p I' :=
  fun s t s' q hs hx => hI s' (h s t s' q hs hx)

theorem Throughout.pre {A' : σ → Prop} {p : Prog S α} (h : Throughout serve env A p I)
    (hA : ∀ s, A' s → A s) : Throughout serve env A' p I :=
  fun s t s' q hs hx => h s t s' q (hA s hs) hx

/-- It holds where the program returns. -/
theorem Throughout.ensures {p : Prog S α} (h : Throughout serve env A p I) :
    Ensures serve env A p fun _ => I :=
  fun s t s' _ hs hx => h s t s' _ hs hx

/-- What no operation of the program breaks. -/
theorem throughout_only (hA : Stable env A) {P : S.Op → Prop} {p : Prog S α} (hp : Only P p)
    (hserve : ∀ s o r s', P o → A s → serve s o r s' → A s') : Throughout serve env A p A := by
  intro s t s' q hs hx
  induction hx with
  | refl => exact hs
  | env he _ ih => exact ih hp (hA _ _ hs he)
  | call h _ ih =>
    obtain ⟨ho, hk⟩ := only_call.mp hp
    exact ih (hk _) (hserve _ _ _ _ ho hs h)

theorem throughout_pure (hA : Stable env A) (a : α) (hI : ∀ s, A s → I s) :
    Throughout serve env A (pure a : Prog S α) I :=
  (throughout_only hA (only_pure (fun _ => False) a) fun _ _ _ _ h => h.elim).post hI

/-- An execution that has exchanged nothing was the others'. -/
theorem Exec.moves_of_nil {s s' : σ} {p q : Prog S α} (hx : Exec serve env s p [] s' q) :
    Relation.ReflTransGen env s s' := by
  generalize ht : ([] : List (Event S)) = t at hx
  induction hx with
  | refl => exact .refl
  | env he _ ih => exact .head he (ih ht)
  | call => cases ht

/-- Where every request may be answered with nothing done, a program may return wherever it
stops: what it leaves in any case holds at every point. -/
theorem Ensures.throughout (hidle : ∀ s o, ∃ r, serve s o r s) {p : Prog S α}
    (h : Ensures serve env A p fun _ => I) : Throughout serve env A p I := by
  intro s t s' q hs hx
  obtain ⟨u, a, hrest⟩ : ∃ u a, Exec serve env s' q u s' (.ret a) := by
    clear hx
    induction q with
    | ret a => exact ⟨[], a, .refl _ _⟩
    | call o k ih =>
      obtain ⟨r, hr⟩ := hidle s' o
      obtain ⟨u, a, hrest⟩ := ih r
      exact ⟨⟨o, r⟩ :: u, a, .call hr hrest⟩
  exact h s _ s' a hs (hx.trans hrest)

theorem throughout_bind {p : Prog S α} {f : α → Prog S β} {B : α → σ → Prop}
    (hf : ∀ a, Throughout serve env (B a) (f a) I) :
    ∀ {A : σ → Prop}, Throughout serve env A p I → Ensures serve env A p B →
      Throughout serve env A (p >>= f) I := by
  induction p with
  | ret a => exact fun _ hp s t s' q hs hx => hf a s t s' q (hp s [] s a hs (.refl _ _)) hx
  | call o k ih =>
    intro A hall hp s t s' q hs hx
    rcases Exec.call_cases hx with ⟨rfl, -⟩ | ⟨s₁, r, s₂, u, hmoves, hserve, rfl, hrest⟩
    · exact hall s _ s' _ hs (.after hx.moves_of_nil (.refl _ _))
    · -- the rest of `p`, started where the first call was answered
      have hall' : Throughout serve env (· = s₂) (k r) I := by
        rintro _ u' s₃ q' rfl hx'
        exact hall s _ s₃ q' hs (.after hmoves (.call hserve hx'))
      have hp' : Ensures serve env (· = s₂) (k r) B := by
        rintro _ u' s₃ a rfl hx'
        exact hp s _ s₃ a hs (.after hmoves (.call hserve hx'))
      exact ih r hall' hp' s₂ u s' q rfl hrest

/-- An invariant of both parts. -/
theorem Throughout.bind {p : Prog S α} {f : α → Prog S β} (hp : Throughout serve env I p I)
    (hf : ∀ a, Throughout serve env I (f a) I) : Throughout serve env I (p >>= f) I :=
  throughout_bind hf hp hp.ensures

end Effect
