/-
  CelldOperator.Effect.Versioned

  **A VERSIONED OBJECT UNDER OPTIMISTIC CONCURRENCY.**

  One object is stored together with every version it ever had, newest first.
  A version carries a token, tokens never repeat, and a conditional write names
  the token of the version it is based on.  The invariant travels with the type,
  so the two facts clients need have no side conditions:

    • `eq_of_token`     — two versions with one token are the same version,
      however old the copies are,
    • `Later.not_live`  — a version that has been superseded is never live again.
-/
import Mathlib.Tactic.Common
import Mathlib.Data.List.MinMax
import Mathlib.Data.List.Nodup
import Mathlib.Order.Nat

namespace Effect

/-- The live version of an object, if there is one, and all its versions so far. -/
structure Versioned (O : Type) (token : O → Nat) where
  live : Option O
  past : List O
  live_head : ∀ v, live = some v → past.head? = some v
  tokens_nodup : (past.map token).Nodup

namespace Versioned

variable {O : Type} {token : O → Nat} {s s' : Versioned O token}

/-- No version yet. -/
def empty : Versioned O token := ⟨none, [], by simp, by simp⟩

theorem live_mem {v : O} (h : s.live = some v) : v ∈ s.past :=
  List.mem_of_head? (s.live_head v h)

theorem token_inj {v w : O} (hv : v ∈ s.past) (hw : w ∈ s.past) (h : token v = token w) : v = w :=
  List.inj_on_of_nodup_map s.tokens_nodup hv hw h

/-- **Exactness.**  The stored version with the token of a known version IS that version. -/
theorem eq_of_token {v w : O} (hv : v ∈ s.past) (hw : s.live = some w)
    (h : token v = token w) : v = w :=
  token_inj hv (live_mem hw) h

/-- A token no version has used. -/
def fresh (s : Versioned O token) : Nat := (s.past.map token).foldr max 0 + 1

theorem lt_fresh {v : O} (hv : v ∈ s.past) : token v < s.fresh := by
  have h : token v ≤ (s.past.map token).foldr max ⊥ :=
    List.le_max_of_le (List.mem_map_of_mem hv) le_rfl
  exact Nat.lt_succ_of_le h

/-- Store a version under a token no version has used. -/
def put (s : Versioned O token) (v : O) (hv : ∀ w ∈ s.past, token w ≠ token v) :
    Versioned O token where
  live := some v
  past := v :: s.past
  live_head := by
    intro w hw
    cases hw
    rfl
  tokens_nodup := by
    rw [List.map_cons, List.nodup_cons]
    refine ⟨?_, s.tokens_nodup⟩
    intro hmem
    obtain ⟨w, hw, heq⟩ := List.mem_map.mp hmem
    exact hv w hw heq

/-- Delete the live version; the copies others hold are still versions of the past. -/
def remove (s : Versioned O token) : Versioned O token where
  live := none
  past := s.past
  live_head := by simp
  tokens_nodup := s.tokens_nodup

@[simp] theorem put_live (s : Versioned O token) (v : O) (hv) : (s.put v hv).live = some v := rfl

@[simp] theorem put_past (s : Versioned O token) (v : O) (hv) :
    (s.put v hv).past = v :: s.past := rfl

@[simp] theorem remove_live (s : Versioned O token) : s.remove.live = none := rfl

@[simp] theorem remove_past (s : Versioned O token) : s.remove.past = s.past := rfl

/-- `s'` is a later state of the same object: versions have been added, and without a new
version at most the live one has been deleted. -/
def Later (s s' : Versioned O token) : Prop :=
  s.past <:+ s'.past ∧ (s'.past = s.past → s'.live = s.live ∨ s'.live = none)

theorem Later.refl (s : Versioned O token) : s.Later s := ⟨List.suffix_refl _, fun _ => .inl rfl⟩

theorem later_put (s : Versioned O token) (v : O) (hv) : s.Later (s.put v hv) :=
  ⟨List.suffix_cons v s.past, fun h => absurd h (List.cons_ne_self v s.past)⟩

theorem later_remove (s : Versioned O token) : s.Later s.remove :=
  ⟨List.suffix_refl _, fun _ => .inr rfl⟩

theorem Later.trans {s s' s'' : Versioned O token} (h : s.Later s') (h' : s'.Later s'') :
    s.Later s'' := by
  refine ⟨h.1.trans h'.1, ?_⟩
  intro heq
  -- Both suffixes have the full length, so neither step added a version.
  have hlen : s'.past = s.past := by
    have h₁ := h.1.length_le
    have h₂ := h'.1.length_le
    rw [heq] at h₂
    exact (h.1.eq_of_length (by omega)).symm
  rcases h'.2 (heq.trans hlen.symm) with hl | hl
  · rw [hl]
    exact h.2 hlen
  · exact .inr hl

/-- **Superseded for good.**  A known version that is not live now is not live later. -/
theorem Later.not_live {v : O} (h : s.Later s') (hv : v ∈ s.past) (hl : s.live ≠ some v) :
    s'.live ≠ some v := by
  intro hl'
  obtain ⟨pre, hpre⟩ := h.1
  have hhead := s'.live_head v hl'
  cases pre with
  | nil =>
    rcases h.2 hpre.symm with heq | heq
    · exact hl (heq ▸ hl')
    · rw [heq] at hl'
      cases hl'
  | cons x xs =>
    -- A newer version is on top; were it `v`, its token would stand in the list twice.
    have hnodup := s'.tokens_nodup
    rw [← hpre] at hhead hnodup
    have hx : x = v := by simpa using hhead
    rw [List.cons_append, List.map_cons, List.nodup_cons, hx] at hnodup
    exact hnodup.1 (List.mem_map_of_mem (List.mem_append_right xs hv))

end Versioned

end Effect
