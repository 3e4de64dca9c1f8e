/-
  CelldOperator.Children.Standing

  **WHAT A SUCCESSFUL CALL LEAVES STANDING.**

  A pass knows an object only by what its reads handed out or the API server
  acknowledged; a read may come from the cache, and the cache may be behind.  Of both
  write helpers it is shown that a call that returns without an error has such an object,
  and that it is the desired one in everything the helper looks after:

    • `Stands`                    — the object was found, created or updated in this history,
    • `ensureObject_stands_of`    — for any mutation, what it and the desired object have,
    • `ensureObject_stands`       — the mutations that take the whole spec,
    • `ensureUnstructured_stands` — the objects of other projects' CRDs.
-/
import CelldOperator.Foundation.Steady

namespace CelldOperator

open Effect Prog

/-! ## §1. Standing. -/

/-- As far as the pass can tell, an object stands under this name: a read has handed it out, maybe
from a cache that is behind, or the server has acknowledged it. -/
inductive Stands {k : Kind} (name : String) (h : Trace) (o : Obj k) : Prop where
  | found (receiver live : Obj k) (read : Saw h (.get k name) (.ok live))
      (decoded : o = receive receiver live) : Stands name h o
  | created (named : o.metadata.name = name) (stored : Obj k)
      (ack : Saw h (.create k o) (.ok stored)) : Stands name h o
  | updated (live stored : Obj k) (read : Saw h (.get k name) (.ok live))
      (named : o.metadata.name = live.metadata.name)
      (ack : Saw h (.update k o) (.ok stored)) : Stands name h o

section

variable {k : Kind} {r : Reconciler} {app : WorkerApp} {name : String} {h t : Trace} {o : Obj k}

theorem Stands.append (hs : Stands name h o) (t : Trace) : Stands name (h ++ t) o := by
  cases hs with
  | found receiver live read decoded => exact .found receiver live (read.append t) decoded
  | created named stored ack => exact .created named stored (ack.append t)
  | updated live stored read named ack =>
    exact .updated live stored (read.append t) named (ack.append t)

theorem Stands.append_left (hs : Stands name t o) (h : Trace) : Stands name (h ++ t) o := by
  cases hs with
  | found receiver live read decoded => exact .found receiver live (read.append_left h) decoded
  | created named stored ack => exact .created named stored (ack.append_left h)
  | updated live stored read named ack =>
    exact .updated live stored (read.append_left h) named (ack.append_left h)

/-! ## §2. The two write helpers. -/

variable {desired ensured : Obj k}

theorem prepare_spec (r : Reconciler) (app : WorkerApp) (desired : Obj k) :
    (prepare r app desired).spec = desired.spec := by
  unfold prepare setControllerReference
  split <;> rfl

/-- **One ensured object.**  When the call succeeds, an object stands that has what the desired
object and every mutated copy have. -/
theorem ensureObject_stands_of {mutate : Obj k → Obj k → Obj k} {Q : Obj k → Prop}
    (hnew : Q (prepare r app desired))
    (hmutated : ∀ live, Q (mutated mutate live (prepare r app desired)))
    (hname : ∀ live : Obj k,
      (mutated mutate live (prepare r app desired)).metadata.name = live.metadata.name)
    (hr : Runs (ensureObject r app desired mutate) t (.ok ensured)) :
    ∃ o : Obj k, Stands desired.metadata.name t o ∧ Q o := by
  have hprepared := prepare_name r app desired
  unfold ensureObject at hr
  obtain ⟨read, t₁, t₂, rfl, hread, hrest⟩ := runs_bind.mp hr
  rw [runs_req] at hread
  subst hread
  rw [hprepared]
  cases read with
  | error e =>
    dsimp only at hrest
    split at hrest
    · -- not there: it is created
      rcases runs_check hrest with ⟨e, heq, -⟩ | ⟨stored, t₃, t₄, rfl, hack, -⟩
      · cases heq
      · rw [runs_req] at hack
        subst hack
        exact ⟨_, .created hprepared stored
          (List.mem_cons_of_mem _ (List.mem_cons_self ..)), hnew⟩
    · obtain ⟨-, heq⟩ := runs_ret.mp hrest
      cases heq
  | ok live =>
    have hread : Saw ([⟨.get k desired.metadata.name, .ok live⟩] ++ t₂)
        (.get k desired.metadata.name) (.ok live) := List.mem_cons_self ..
    dsimp only at hrest
    split at hrest
    · obtain ⟨-, heq⟩ := runs_ret.mp hrest
      cases heq
    · split at hrest
      · next hsame =>
        -- in place: the mutation changes nothing, so the live object is a mutated copy
        exact ⟨_, .found _ live hread rfl, hsame ▸ hmutated (receive _ live)⟩
      · rcases runs_check hrest with ⟨e, heq, -⟩ | ⟨stored, t₃, t₄, rfl, hack, -⟩
        · cases heq
        · rw [runs_req] at hack
          subst hack
          refine ⟨_, .updated live stored hread ?_
            (List.mem_cons_of_mem _ (List.mem_cons_self ..)), hmutated _⟩
          rw [hname, (receive_identity _ live).1]

/-- **One object whose spec is replaced.**  When the call succeeds, an object with the desired
spec stands. -/
theorem ensureObject_stands (hr : Runs (ensureObject r app desired replaceSpec) t (.ok ensured)) :
    ∃ o : Obj k, Stands desired.metadata.name t o ∧ o.spec = desired.spec := by
  have hspec := prepare_spec r app desired
  have hmutated : ∀ live : Obj k,
      (mutated replaceSpec live (prepare r app desired)).spec = desired.spec := fun _ => hspec
  exact ensureObject_stands_of (Q := fun o : Obj k => o.spec = desired.spec) hspec hmutated
    (fun _ => rfl) hr

/-- **One object of a CRD.** -/
theorem ensureUnstructured_stands (hk : k ≠ .httpRoute)
    (hr : Runs (ensureUnstructured app desired) t (.ok ())) :
    ∃ o : Obj k, Stands desired.metadata.name t o ∧ o.spec = desired.spec := by
  unfold ensureUnstructured at hr
  obtain ⟨read, t₁, t₂, rfl, hread, hrest⟩ := runs_bind.mp hr
  rw [runs_req] at hread
  subst hread
  cases read with
  | error e =>
    dsimp only at hrest
    split at hrest
    · rcases runs_check hrest with ⟨e, heq, -⟩ | ⟨stored, t₃, t₄, rfl, hack, -⟩
      · cases heq
      · rw [runs_req] at hack
        subst hack
        exact ⟨setControllerReference app desired,
          .created rfl stored (List.mem_cons_of_mem _ (List.mem_cons_self ..)), rfl⟩
    · obtain ⟨-, heq⟩ := runs_ret.mp hrest
      cases heq
  | ok live =>
    have hread : Saw ([⟨.get k desired.metadata.name, .ok live⟩] ++ t₂)
        (.get k desired.metadata.name) (.ok live) := List.mem_cons_self ..
    dsimp only at hrest
    split at hrest
    · obtain ⟨-, heq⟩ := runs_ret.mp hrest
      cases heq
    · split at hrest
      · next hplace =>
        refine ⟨live, .found desired live hread (receive_of_ne hk _ _).symm, ?_⟩
        unfold inPlace at hplace
        simp only [Bool.and_eq_true, decide_eq_true_iff] at hplace
        exact hplace.1.1
      · rcases runs_check hrest with ⟨e, heq, -⟩ | ⟨stored, t₃, t₄, rfl, hack, -⟩
        · cases heq
        · rw [runs_req] at hack
          subst hack
          exact ⟨overlaid live (setControllerReference app desired),
            .updated live stored hread rfl
              (List.mem_cons_of_mem _ (List.mem_cons_self ..)), rfl⟩

/-! ## §3. Calls under a heading. -/

theorem runs_headed {α : Type} {heading : String} {p : P (Except Err α)} {a : α}
    (hr : Runs (headed heading p) t (.ok a)) : Runs p t (.ok a) := by
  unfold headed at hr
  obtain ⟨res, t₁, t₂, rfl, hp, hrest⟩ := runs_bind.mp hr
  cases res with
  | error e =>
    obtain ⟨-, heq⟩ := runs_ret.mp hrest
    cases heq
  | ok b =>
    obtain ⟨rfl, heq⟩ := runs_ret.mp hrest
    cases heq
    rwa [List.append_nil]

/-- The next step of a foundation that succeeds. -/
theorem runs_check_headed {α β : Type} {heading : String} {p : P (Except Err α)}
    {f : α → P (Except Err β)} {b : β} (hr : Runs (check (headed heading p) f) t (.ok b)) :
    ∃ a t₁ t₂, t = t₁ ++ t₂ ∧ Runs p t₁ (.ok a) ∧ Runs (f a) t₂ (.ok b) := by
  rcases runs_check hr with ⟨e, heq, -⟩ | ⟨a, t₁, t₂, rfl, hp, hf⟩
  · cases heq
  · exact ⟨a, t₁, t₂, rfl, runs_headed hp, hf⟩

end

end CelldOperator
