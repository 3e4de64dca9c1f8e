/-
  CelldOperator.Effect.Mirror

  **TWO RUNS AN OBSERVER CANNOT TELL APART.**

  A `View` says which operations look alike to an observer, and which answers to such
  operations do.  `Mirrors V R p q`: whatever is answered, as long as the answers look
  alike, `p` and `q` issue operations that look alike and end in results related by `R`.

    • `mirrors_pure`, `mirrors_req`, `mirrors_bind` — the rules of the program formers,
    • `mirrors_refl`    — a program whose operations are all in the open mirrors itself,
    • `Mirrors.runWith` — against two environments that answer alike, the two runs look
      alike from the first event to the result.
-/
import CelldOperator.Effect.Exec
import Mathlib.Data.List.Forall2

namespace Effect

open Prog

variable {S : Sig} {α β γ δ σ σ' : Type}

/-- What an observer can tell apart. -/
structure View (S : Sig) where
  /-- The two operations look the same. -/
  alike : S.Op → S.Op → Prop
  /-- So do these answers to them. -/
  answered : (o o' : S.Op) → S.Resp o → S.Resp o' → Prop

namespace View

/-- The two events look the same. -/
def event (V : View S) (e e' : Event S) : Prop :=
  V.alike e.op e'.op ∧ V.answered e.op e'.op e.resp e'.resp

/-- The observer sees the operation, and its answer. -/
def Plain (V : View S) (o : S.Op) : Prop := V.alike o o ∧ ∀ r r', V.answered o o r r' → r = r'

end View

/-- The two programs look the same, up to their results. -/
inductive Mirrors (V : View S) (R : α → β → Prop) : Prog S α → Prog S β → Prop where
  | ret {a : α} {b : β} (h : R a b) : Mirrors V R (.ret a) (.ret b)
  | call {o o' : S.Op} {k : S.Resp o → Prog S α} {k' : S.Resp o' → Prog S β}
      (ho : V.alike o o') (hk : ∀ r r', V.answered o o' r r' → Mirrors V R (k r) (k' r')) :
      Mirrors V R (.call o k) (.call o' k')

variable {V : View S}

theorem mirrors_pure {R : α → β → Prop} {a : α} {b : β} (h : R a b) :
    Mirrors V R (pure a : Prog S α) (pure b) := .ret h

theorem mirrors_req {o o' : S.Op} (ho : V.alike o o') :
    Mirrors V (V.answered o o') (req o) (req o') := .call ho fun _ _ hr => .ret hr

theorem mirrors_bind {R : α → β → Prop} {R' : γ → δ → Prop} {p : Prog S α} {q : Prog S β}
    {f : α → Prog S γ} {g : β → Prog S δ} (hp : Mirrors V R p q)
    (hf : ∀ a b, R a b → Mirrors V R' (f a) (g b)) : Mirrors V R' (p >>= f) (q >>= g) := by
  induction hp with
  | ret h => exact hf _ _ h
  | call ho _ ih => exact .call ho ih

/-- A program that asks for nothing but what the observer sees. -/
theorem mirrors_refl {p : Prog S α} (hp : Only V.Plain p) : Mirrors V Eq p p := by
  induction p with
  | ret a => exact .ret rfl
  | call o k ih =>
    obtain ⟨⟨ho, heq⟩, hk⟩ := only_call.mp hp
    refine .call ho fun r r' hr => ?_
    obtain rfl := heq r r' hr
    exact ih r (hk r)

/-- **Against two environments that answer alike.**  `I` relates their states. -/
theorem Mirrors.runWith {R : α → β → Prop} {I : σ → σ' → Prop}
    {handle : σ → (o : S.Op) → S.Resp o × σ} {handle' : σ' → (o : S.Op) → S.Resp o × σ'}
    (hserve : ∀ s s' o o', I s s' → V.alike o o' →
      V.answered o o' (handle s o).1 (handle' s' o').1 ∧ I (handle s o).2 (handle' s' o').2)
    {p : Prog S α} {q : Prog S β} (h : Mirrors V R p q) : ∀ {s : σ} {s' : σ'}, I s s' →
      List.Forall₂ V.event (runWith handle p s).1 (runWith handle' q s').1 ∧
        I (runWith handle p s).2.1 (runWith handle' q s').2.1 ∧
        R (runWith handle p s).2.2 (runWith handle' q s').2.2 := by
  induction h with
  | ret h => exact fun hs => ⟨.nil, hs, h⟩
  | call ho _ ih =>
    intro s s' hs
    obtain ⟨hr, hnext⟩ := hserve s s' _ _ hs ho
    obtain ⟨hevents, hfinal, hresult⟩ := ih _ _ hr hnext
    exact ⟨.cons ⟨ho, hr⟩ hevents, hfinal, hresult⟩

end Effect
