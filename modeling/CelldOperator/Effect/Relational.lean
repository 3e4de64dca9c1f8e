/-
  CelldOperator.Effect.Relational

  **TWO RUNS OF ONE PROGRAM.**

  `F` is what one event may be.  `Agree F R p q` compares every run of `p` with
  every run of `q` whose events are all allowed: the results are related by `R`.
  With `R` equality and `q` the program `p` itself this is determinism under `F`.

    • `agree_pure`, `agree_bind` — the rules of the two program formers,
    • `agree_refl`  — where `F` leaves one response to every operation of `p`,
      `p` has one result.
-/
import CelldOperator.Effect.Prog

namespace Effect

open Prog

variable {S : Sig} {α β γ δ : Type} {F : Event S → Prop}

/-- The program returns `a` on some events that are all allowed. -/
def Allowed (F : Event S → Prop) (p : Prog S α) (a : α) : Prop :=
  ∃ t, Runs p t a ∧ ∀ e ∈ t, F e

theorem allowed_pure {a b : α} : Allowed F (pure a : Prog S α) b ↔ a = b := by
  constructor
  · rintro ⟨t, ht, -⟩
    exact (runs_ret.mp ht).2
  · rintro rfl
    exact ⟨[], .nil _, by simp⟩

theorem allowed_req {o : S.Op} {r : S.Resp o} : Allowed F (req o) r ↔ F ⟨o, r⟩ := by
  constructor
  · rintro ⟨t, ht, hF⟩
    rw [runs_req.mp ht] at hF
    exact hF _ (List.mem_singleton_self _)
  · intro h
    exact ⟨[⟨o, r⟩], runs_req.mpr rfl, by simpa using h⟩

theorem allowed_bind {p : Prog S α} {f : α → Prog S β} {b : β} :
    Allowed F (p >>= f) b ↔ ∃ a, Allowed F p a ∧ Allowed F (f a) b := by
  constructor
  · rintro ⟨t, ht, hF⟩
    obtain ⟨a, t₁, t₂, rfl, ht₁, ht₂⟩ := runs_bind.mp ht
    exact ⟨a, ⟨t₁, ht₁, fun e he => hF e (List.mem_append_left _ he)⟩,
      t₂, ht₂, fun e he => hF e (List.mem_append_right _ he)⟩
  · rintro ⟨a, ⟨t₁, ht₁, hF₁⟩, t₂, ht₂, hF₂⟩
    refine ⟨t₁ ++ t₂, runs_bind.mpr ⟨a, t₁, t₂, rfl, ht₁, ht₂⟩, ?_⟩
    intro e he
    rcases List.mem_append.mp he with he | he
    · exact hF₁ e he
    · exact hF₂ e he

/-- Whatever the two programs return on allowed events is related. -/
def Agree (F : Event S → Prop) (R : α → β → Prop) (p : Prog S α) (q : Prog S β) : Prop :=
  ∀ a b, Allowed F p a → Allowed F q b → R a b

theorem agree_pure {R : α → β → Prop} {a : α} {b : β} (h : R a b) :
    Agree F R (pure a : Prog S α) (pure b) := by
  intro a' b' ha hb
  rw [← allowed_pure.mp ha, ← allowed_pure.mp hb]
  exact h

theorem agree_bind {R : α → β → Prop} {R' : γ → δ → Prop} {p : Prog S α} {q : Prog S β}
    {f : α → Prog S γ} {g : β → Prog S δ} (hp : Agree F R p q)
    (hf : ∀ a b, R a b → Agree F R' (f a) (g b)) : Agree F R' (p >>= f) (q >>= g) := by
  intro c d hc hd
  obtain ⟨a, ha, hc⟩ := allowed_bind.mp hc
  obtain ⟨b, hb, hd⟩ := allowed_bind.mp hd
  exact hf a b (hp a b ha hb) c d hc hd

/-- A program all of whose operations have at most one allowed response. -/
theorem agree_refl {p : Prog S α}
    (hp : Only (fun o => ∀ r r', F ⟨o, r⟩ → F ⟨o, r'⟩ → r = r') p) : Agree F Eq p p := by
  induction p with
  | ret a => exact agree_pure rfl
  | call o k ih =>
    obtain ⟨ho, hk⟩ := only_call.mp hp
    rintro a b ⟨t, ht, hF⟩ ⟨u, hu, hG⟩
    obtain ⟨r, t', rfl, ht'⟩ := runs_call.mp ht
    obtain ⟨r', u', rfl, hu'⟩ := runs_call.mp hu
    obtain ⟨hr, hF'⟩ := List.forall_mem_cons.mp hF
    obtain ⟨hr', hG'⟩ := List.forall_mem_cons.mp hG
    obtain rfl := ho r r' hr hr'
    exact ih r (hk r) a b ⟨t', ht', hF'⟩ ⟨u', hu', hG'⟩

end Effect
