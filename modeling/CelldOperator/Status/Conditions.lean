/-
  CelldOperator.Status.Conditions

  **REPORTING THE SAME CONDITIONS TWICE.**

  `mergeConditions` removes the optional conditions that are not reported and
  sets the others one after the other.

    • `setStatusCondition_overwrite`, `setStatusCondition_comm` — how two
      settings compose,
    • `foldl_set_settled`  — setting a list of conditions a second time,
    • `mergeConditions_settled` — merging a second time changes nothing.
-/
import CelldOperator.Pass.Scaler

namespace CelldOperator

/-! ## §1. One condition. -/

section

variable {l : List Condition} {c d : Condition}

theorem mem_setStatusCondition {x : Condition} (h : x ∈ setStatusCondition l c) :
    x ∈ l ∨ x = c := by
  induction l with
  | nil => exact .inr (List.mem_singleton.mp h)
  | cons old rest ih =>
    unfold setStatusCondition at h
    split at h
    · rcases List.mem_cons.mp h with h | h
      · exact .inr h
      · exact .inl (List.mem_cons_of_mem _ h)
    · rcases List.mem_cons.mp h with h | h
      · exact .inl (h ▸ List.mem_cons_self ..)
      · rcases ih h with h | h
        · exact .inl (List.mem_cons_of_mem _ h)
        · exact .inr h

/-- Setting a condition to what it is. -/
theorem setStatusCondition_of_found (h : findStatusCondition l c.type = some c) :
    setStatusCondition l c = l := by
  induction l with
  | nil => cases h
  | cons old rest ih =>
    unfold findStatusCondition at h
    unfold setStatusCondition
    by_cases htype : old.type = c.type
    · rw [List.find?_cons_of_pos (by simpa using htype)] at h
      rw [if_pos htype, Option.some.inj h]
    · rw [List.find?_cons_of_neg (by simpa using htype)] at h
      rw [if_neg htype, ih h]

/-- The later of two settings of one condition stays. -/
theorem setStatusCondition_overwrite (h : c.type = d.type) :
    setStatusCondition (setStatusCondition l c) d = setStatusCondition l d := by
  induction l with
  | nil => simp [setStatusCondition, h]
  | cons old rest ih =>
    by_cases htype : old.type = d.type
    · simp [setStatusCondition, h, htype]
    · simp [setStatusCondition, h, htype, ih]

/-- A condition that is there may be set before or after another one. -/
theorem setStatusCondition_comm (hne : c.type ≠ d.type)
    (hfound : (findStatusCondition l c.type).isSome) :
    setStatusCondition (setStatusCondition l c) d =
      setStatusCondition (setStatusCondition l d) c := by
  induction l with
  | nil => cases hfound
  | cons old rest ih =>
    by_cases htype : old.type = c.type
    · have hne' : old.type ≠ d.type := htype ▸ hne
      simp [setStatusCondition, htype, hne]
    · have hrest : (findStatusCondition rest c.type).isSome := by
        unfold findStatusCondition at hfound ⊢
        rwa [List.find?_cons_of_neg (by simpa using htype)] at hfound
      by_cases htype' : old.type = d.type
      · simp [setStatusCondition, htype', Ne.symm hne]
      · simp [setStatusCondition, htype, htype', ih hrest]

theorem isSome_find_set {type : String} (h : (findStatusCondition l type).isSome) :
    (findStatusCondition (setStatusCondition l c) type).isSome := by
  by_cases htype : c.type = type
  · subst htype
    rw [findStatusCondition_set_self]
    rfl
  · rwa [findStatusCondition_set_of_ne l htype]

end

/-! ## §2. A list of conditions. -/

section

variable {reported : List Condition}

theorem isSome_find_foldl {type : String} : ∀ {l : List Condition},
    (findStatusCondition l type).isSome →
    (findStatusCondition (reported.foldl setStatusCondition l) type).isSome := by
  induction reported with
  | nil => exact fun h => h
  | cons c rest ih => exact fun h => ih (isSome_find_set h)

theorem find_foldl_of_not_mem {type : String} : ∀ {l : List Condition},
    (∀ c ∈ reported, c.type ≠ type) →
    findStatusCondition (reported.foldl setStatusCondition l) type =
      findStatusCondition l type := by
  induction reported with
  | nil => exact fun _ => rfl
  | cons c rest ih =>
    intro l h
    obtain ⟨hc, hrest⟩ := List.forall_mem_cons.mp h
    exact (ih hrest).trans (findStatusCondition_set_of_ne l hc)

/-- A setting that a later one overwrites leaves no trace. -/
theorem foldl_set_overwritten {c : Condition} : ∀ {l : List Condition},
    (∃ d ∈ reported, d.type = c.type) → (findStatusCondition l c.type).isSome →
    reported.foldl setStatusCondition (setStatusCondition l c) =
      reported.foldl setStatusCondition l := by
  induction reported with
  | nil =>
    rintro l ⟨d, hd, -⟩ _
    cases hd
  | cons d rest ih =>
    intro l hlater hfound
    show rest.foldl setStatusCondition (setStatusCondition (setStatusCondition l c) d) =
      rest.foldl setStatusCondition (setStatusCondition l d)
    by_cases htype : c.type = d.type
    · rw [setStatusCondition_overwrite htype]
    · rw [setStatusCondition_comm htype hfound]
      refine ih ?_ (isSome_find_set hfound)
      obtain ⟨d', hd', htype'⟩ := hlater
      rcases List.mem_cons.mp hd' with rfl | hd'
      · exact absurd htype'.symm htype
      · exact ⟨d', hd', htype'⟩

/-- **Reporting the same conditions again** changes none. -/
theorem foldl_set_settled : ∀ {l : List Condition},
    reported.foldl setStatusCondition (reported.foldl setStatusCondition l) =
      reported.foldl setStatusCondition l := by
  induction reported with
  | nil => exact fun {_} => rfl
  | cons c rest ih =>
    intro l
    show rest.foldl setStatusCondition (setStatusCondition
      (rest.foldl setStatusCondition (setStatusCondition l c)) c) =
        rest.foldl setStatusCondition (setStatusCondition l c)
    have hset : findStatusCondition (setStatusCondition l c) c.type = some c :=
      findStatusCondition_set_self l c
    by_cases hlater : ∃ d ∈ rest, d.type = c.type
    · rw [foldl_set_overwritten hlater (isSome_find_foldl (by rw [hset]; rfl)), ih]
    · have hlast : ∀ d ∈ rest, d.type ≠ c.type := fun d hd htype => hlater ⟨d, hd, htype⟩
      rw [setStatusCondition_of_found ((find_foldl_of_not_mem hlast).trans hset), ih]

theorem mem_foldl_set {x : Condition} : ∀ {l : List Condition},
    x ∈ reported.foldl setStatusCondition l → x ∈ l ∨ x ∈ reported := by
  induction reported with
  | nil => exact fun h => .inl h
  | cons c rest ih =>
    intro l h
    rcases ih h with h | h
    · rcases mem_setStatusCondition h with h | rfl
      · exact .inl h
      · exact .inr (List.mem_cons_self ..)
    · exact .inr (List.mem_cons_of_mem _ h)

theorem mem_foldl_remove {types : List String} {x : Condition} : ∀ {l : List Condition},
    x ∈ types.foldl removeStatusCondition l ↔ x ∈ l ∧ ∀ type ∈ types, x.type ≠ type := by
  induction types with
  | nil => simp
  | cons type types ih =>
    intro l
    show x ∈ types.foldl removeStatusCondition (removeStatusCondition l type) ↔ _
    rw [ih]
    simp [removeStatusCondition, and_assoc]

theorem foldl_remove_of_absent {types : List String} : ∀ {l : List Condition},
    (∀ x ∈ l, ∀ type ∈ types, x.type ≠ type) → types.foldl removeStatusCondition l = l := by
  induction types with
  | nil => exact fun _ => rfl
  | cons type types ih =>
    intro l h
    have hkeep : removeStatusCondition l type = l := by
      unfold removeStatusCondition
      rw [List.filter_eq_self]
      intro x hx
      simpa using h x hx type (List.mem_cons_self ..)
    show types.foldl removeStatusCondition (removeStatusCondition l type) = l
    rw [hkeep]
    exact ih fun x hx t ht => h x hx t (List.mem_cons_of_mem _ ht)

theorem mergeConditions_settled (generation : Nat) (stored : List Condition) :
    mergeConditions generation (mergeConditions generation stored reported) reported =
      mergeConditions generation stored reported := by
  unfold mergeConditions
  dsimp only
  rw [foldl_remove_of_absent, foldl_set_settled]
  -- what is removed is neither stored any more nor reported
  intro x hx type htype
  rcases mem_foldl_set hx with hx | hx
  · exact (mem_foldl_remove.mp hx).2 type htype
  · obtain ⟨c, hc, rfl⟩ := List.mem_map.mp hx
    have habsent := (List.mem_filter.mp htype).2
    simp only [Bool.not_eq_true', List.any_eq_false, beq_iff_eq] at habsent
    exact habsent c hc

end

end CelldOperator
