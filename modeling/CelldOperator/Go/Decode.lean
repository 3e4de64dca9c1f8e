/-
  CelldOperator.Go.Decode

  **DECODING A JSON OBJECT INTO A STRUCT**, the way `encoding/json` does it:

    • the members are taken in document order, each one decoded IN PLACE into the
      field it names: the field of that very name, else one whose name matches up to
      case, else none (`Struct.target`),
    • a member that comes twice is decoded twice, over what the first one left,
    • a value of the wrong type fails the whole call.

  Where names are distinct and spelled exactly, the order does not matter: each field
  is decoded once, from the member of its name, or keeps what it held
  (`setMembers_eq_some_iff`).  A decoder into a map keeps the last member of a name
  (`rawMember?`), which is then the only one (`rawMember?_eq`).
-/
import Mathlib.Logic.Function.Basic
import CelldOperator.Go.Basic

namespace CelldOperator

/-! ## §1. The decoder. -/

/-- A Go struct: its fields in order of declaration, their names and types, and how a JSON value
is decoded into a field that already holds something. -/
structure Struct where
  Field : Type
  decEq : DecidableEq Field
  fields : List Field
  name : Field → String
  Ty : Field → Type
  set : (f : Field) → Ty f → Json → Option (Ty f)

namespace Struct

variable (S : Struct) (fold : String → String)

instance : DecidableEq S.Field := S.decEq

/-- The contents of the fields. -/
abbrev Value : Type := (f : S.Field) → S.Ty f

/-- The field a member sets; `fold` is what makes names equal up to case. -/
def target (name : String) : Option S.Field :=
  (S.fields.find? fun f => S.name f == name).or
    (S.fields.find? fun f => fold (S.name f) == fold name)

/-- Decode one member. -/
def setMember (v : S.Value) (m : String × Json) : Option S.Value :=
  match S.target fold m.1 with
  | none => some v
  | some f => (S.set f (v f) m.2).map (Function.update v f)

/-- Decode the members of an object, in document order. -/
def setMembers (v : S.Value) (members : List (String × Json)) : Option S.Value :=
  members.foldlM (S.setMember fold) v

end Struct

/-- The member a map keeps under a name: the last one. -/
def rawMember? (members : List (String × Json)) (key : String) : Option Json :=
  (members.reverse.find? (fun m => m.1 == key)).map Prod.snd

/-- A value that may be absent, decoded into a variable that holds `cur`. -/
def decodeOr {α : Type} (cur : α) (set : Json → Option α) : Option Json → Option α
  | none => some cur
  | some value => set value

/-! ## §2. Distinct names, spelled exactly. -/

/-- No name comes twice. -/
def DistinctNames (members : List (String × Json)) : Prop := (members.map Prod.fst).Nodup

theorem DistinctNames.tail {m : String × Json} {members : List (String × Json)}
    (h : DistinctNames (m :: members)) : DistinctNames members :=
  (List.nodup_cons.mp h).2

theorem DistinctNames.not_mem {m : String × Json} {members : List (String × Json)}
    (h : DistinctNames (m :: members)) : ∀ m' ∈ members, m'.1 ≠ m.1 := by
  intro m' hm' heq
  exact (List.nodup_cons.mp h).1 (heq ▸ List.mem_map_of_mem hm')

theorem member?_obj (members : List (String × Json)) (key : String) :
    (Json.obj members).member? key = (members.find? fun m => m.1 == key).map Prod.snd := rfl

theorem member?_cons (m : String × Json) (members : List (String × Json)) (key : String) :
    (Json.obj (m :: members)).member? key =
      if m.1 = key then some m.2 else (Json.obj members).member? key := by
  rw [member?_obj, member?_obj]
  by_cases h : m.1 = key
  · rw [if_pos h, List.find?_cons_of_pos (by simpa using h)]
    rfl
  · rw [if_neg h, List.find?_cons_of_neg (by simpa using h)]

theorem member?_eq_none {members : List (String × Json)} {key : String}
    (h : ∀ m ∈ members, m.1 ≠ key) : (Json.obj members).member? key = none := by
  rw [member?_obj, List.find?_eq_none.mpr fun m hm => by simpa using h m hm, Option.map_none]

/-- The first and the last member of a name are one and the same. -/
theorem rawMember?_eq {members : List (String × Json)} (h : DistinctNames members) (key : String) :
    rawMember? members key = (Json.obj members).member? key := by
  induction members with
  | nil => rfl
  | cons m members ih =>
    have htail := ih h.tail
    unfold rawMember? at htail ⊢
    rw [List.reverse_cons, List.find?_append, member?_cons, ← htail]
    by_cases hm : m.1 = key
    · -- nothing behind the head has its name
      have hnone : members.reverse.find? (fun m => m.1 == key) = none := by
        refine List.find?_eq_none.mpr fun m' hm' => ?_
        have := h.not_mem m' (List.mem_reverse.mp hm')
        simpa [← hm] using this
      rw [hnone, if_pos hm, Option.none_or, List.find?_cons_of_pos (by simpa using hm)]
      rfl
    · rw [if_neg hm, List.find?_cons_of_neg (by simpa using hm), List.find?_nil, Option.or_none]

namespace Struct

variable {S : Struct} {fold : String → String}

/-- What one field makes of the members: decoded from the member of its name, or left alone. -/
def fieldResult (v : S.Value) (members : List (String × Json)) (f : S.Field) : Option (S.Ty f) :=
  decodeOr (v f) (S.set f (v f)) ((Json.obj members).member? (S.name f))

/-- Every field is declared, and no two under one name. -/
structure Lawful (S : Struct) : Prop where
  complete : ∀ f, f ∈ S.fields
  injective : Function.Injective S.name

/-- A name that matches a field up to case is spelled like it. -/
def SpelledExactly (S : Struct) (fold : String → String) (members : List (String × Json)) : Prop :=
  ∀ m ∈ members, ∀ f, fold (S.name f) = fold m.1 → S.name f = m.1

/-- The field of an exactly spelled name. -/
theorem target_eq_some_iff (hS : S.Lawful) {name : String}
    (hexact : ∀ f, fold (S.name f) = fold name → S.name f = name) {f : S.Field} :
    S.target fold name = some f ↔ S.name f = name := by
  have hfind : ∀ {p : S.Field → Bool} {g : S.Field}, S.fields.find? p = some g → p g = true :=
    fun h => List.find?_some h
  constructor
  · intro h
    unfold target at h
    rcases Option.or_eq_some_iff.mp h with hfirst | ⟨-, hsecond⟩
    · simpa using hfind hfirst
    · exact hexact f (by simpa using hfind hsecond)
  · intro h
    -- the field itself is found, since no other has its name
    have hfirst : S.fields.find? (fun g => S.name g == name) = some f := by
      cases hcase : S.fields.find? (fun g => S.name g == name) with
      | none =>
        have := List.find?_eq_none.mp hcase f (hS.complete f)
        simp [h] at this
      | some g =>
        have hg : S.name g = name := by simpa using hfind hcase
        rw [hS.injective (hg.trans h.symm)]
    unfold target
    rw [hfirst, Option.some_or]

theorem setMembers_cons (v : S.Value) (m : String × Json) (members : List (String × Json)) :
    S.setMembers fold v (m :: members) =
      (S.setMember fold v m).bind fun v' => S.setMembers fold v' members := by
  unfold setMembers
  rw [List.foldlM_cons]
  rfl

/-- A field that a member does not name keeps its result. -/
theorem fieldResult_cons_of_ne {v : S.Value} {m : String × Json} {members : List (String × Json)}
    {f : S.Field} (h : m.1 ≠ S.name f) :
    fieldResult v (m :: members) f = fieldResult v members f := by
  unfold fieldResult
  rw [member?_cons, if_neg h]

/-- **Decoding an object with distinct, exactly spelled names** is decoding each field once. -/
theorem setMembers_eq_some_iff (hS : S.Lawful) {members : List (String × Json)}
    (hdistinct : DistinctNames members) (hexact : S.SpelledExactly fold members)
    {v w : S.Value} :
    S.setMembers fold v members = some w ↔ ∀ f, fieldResult v members f = some (w f) := by
  induction members generalizing v with
  | nil =>
    show some v = some w ↔ ∀ f, some (v f) = some (w f)
    simp only [Option.some.injEq]
    exact funext_iff
  | cons m members ih =>
    have htarget := fun f => target_eq_some_iff (f := f) hS (hexact m (List.mem_cons_self ..))
    have ih := fun v' => ih (v := v') hdistinct.tail
      fun m' hm' => hexact m' (List.mem_cons_of_mem m hm')
    rw [setMembers_cons]
    unfold setMember
    cases hcase : S.target fold m.1 with
    | none =>
      -- an unknown member changes no field
      have hother : ∀ f, m.1 ≠ S.name f := by
        intro f heq
        rw [(htarget f).mpr heq.symm] at hcase
        cases hcase
      dsimp only
      rw [Option.bind_some, ih v]
      exact forall_congr' fun f => by rw [fieldResult_cons_of_ne (hother f)]
    | some f =>
      have hname : S.name f = m.1 := (htarget f).mp hcase
      have hmember : fieldResult v (m :: members) f = S.set f (v f) m.2 := by
        unfold fieldResult
        rw [member?_cons, if_pos hname.symm, decodeOr]
      -- behind the head nothing sets `f` again
      have hrest : ∀ v' : S.Value, fieldResult v' members f = some (v' f) := by
        intro v'
        unfold fieldResult
        rw [member?_eq_none fun m' hm' => hname ▸ hdistinct.not_mem m' hm', decodeOr]
      dsimp only
      cases hset : S.set f (v f) m.2 with
      | none =>
        rw [Option.map_none, Option.bind_none]
        have hfail : ¬ ∀ g, fieldResult v (m :: members) g = some (w g) := by
          intro h
          have hf := h f
          rw [hmember, hset] at hf
          cases hf
        exact iff_of_false (Option.some_ne_none w).symm hfail
      | some x =>
        rw [Option.map_some, Option.bind_some, ih]
        refine forall_congr' fun g => ?_
        by_cases hg : g = f
        · subst hg
          rw [hrest, Function.update_self, hmember, hset]
        · have hne : m.1 ≠ S.name g := fun heq => hg (hS.injective (heq.symm.trans hname.symm))
          rw [fieldResult_cons_of_ne hne]
          unfold fieldResult
          rw [Function.update_of_ne hg]

end Struct

end CelldOperator
