/-
  CelldOperator.Cluster.Server

  **THE API SERVER A PASS TALKS TO.**

  A `Cluster` holds, for every kind and name, the live object and all versions
  it ever had (`Effect.Versioned`), the pods and the autoscalers.  Its fields
  carry what the API server guarantees of every version: it is stored under its
  own name, and a controller has observed no generation that does not exist.

  `Serve c o r c'` says that the operation `o` may be answered with `r`:

    • an uncached read tells the truth or fails; "not found" is the truth,
    • a cached read returns some version the object has had, or fails,
    • an update takes effect only on the version whose resource version it
      names; it keeps the status, takes a fresh resource version, and raises
      the generation exactly when the spec changed,
    • a deletion takes effect only when both preconditions match,
    • a failed write changes nothing.

  `answer` is a server that never fails, for concrete runs.
-/
import CelldOperator.Controller.Reconcile
import CelldOperator.Effect.Exec
import CelldOperator.Effect.Versioned

namespace CelldOperator

open Effect Prog

/-! ## §1. The state. -/

/-- `metadata.resourceVersion`. -/
abbrev Obj.rv {k : Kind} (o : Obj k) : Nat := o.metadata.resourceVersion

/-- The generation the object's controller has observed, for the kinds that report it here. -/
def observedGeneration : (k : Kind) → Status k → Nat
  | .statefulSet, s => StatefulSetStatus.observedGeneration s
  | _, _ => 0

/-- The objects of a namespace. -/
structure Cluster where
  store : (k : Kind) → String → Versioned (Obj k) Obj.rv
  pods : List Pod
  hpas : List HPA
  named : ∀ k n, ∀ v ∈ (store k n).past, v.metadata.name = n
  observed_le : ∀ k n, ∀ v ∈ (store k n).past, observedGeneration k v.status ≤ v.metadata.generation

namespace Cluster

/-- The live object of a kind and name. -/
def live (c : Cluster) (k : Kind) (n : String) : Option (Obj k) := (c.store k n).live

/-- Every version of it so far. -/
def past (c : Cluster) (k : Kind) (n : String) : List (Obj k) := (c.store k n).past

/-- Nothing yet. -/
def empty : Cluster where
  store := fun _ _ => .empty
  pods := []
  hpas := []
  named := by simp [Versioned.empty]
  observed_le := by simp [Versioned.empty]

/-- Replace the record of one object. -/
def setStore (c : Cluster) (k : Kind) (n : String) (s : Versioned (Obj k) Obj.rv)
    (hn : ∀ v ∈ s.past, v.metadata.name = n)
    (ho : ∀ v ∈ s.past, observedGeneration k v.status ≤ v.metadata.generation) : Cluster :=
  { c with
    store := Function.update c.store k (Function.update (c.store k) n s)
    named := by
      intro k' n' v hv
      rcases eq_or_ne k' k with rfl | hk
      · rcases eq_or_ne n' n with rfl | hn'
        · simp only [Function.update_self] at hv
          exact hn v hv
        · simp only [Function.update_self, Function.update_of_ne hn'] at hv
          exact c.named k' n' v hv
      · rw [Function.update_of_ne hk] at hv
        exact c.named k' n' v hv
    observed_le := by
      intro k' n' v hv
      rcases eq_or_ne k' k with rfl | hk
      · rcases eq_or_ne n' n with rfl | hn'
        · simp only [Function.update_self] at hv
          exact ho v hv
        · simp only [Function.update_self, Function.update_of_ne hn'] at hv
          exact c.observed_le k' n' v hv
      · rw [Function.update_of_ne hk] at hv
        exact c.observed_le k' n' v hv }

section setStore

variable (c : Cluster) (k : Kind) (n : String) (s : Versioned (Obj k) Obj.rv)
  (hn : ∀ v ∈ s.past, v.metadata.name = n)
  (ho : ∀ v ∈ s.past, observedGeneration k v.status ≤ v.metadata.generation)

@[simp] theorem setStore_store : (c.setStore k n s hn ho).store k n = s := by
  simp [setStore]

theorem setStore_store_of_ne {k' : Kind} {n' : String} (h : k' ≠ k ∨ n' ≠ n) :
    (c.setStore k n s hn ho).store k' n' = c.store k' n' := by
  unfold setStore
  rcases eq_or_ne k' k with rfl | hk
  · have hn' : n' ≠ n := h.resolve_left (by simp)
    simp only [Function.update_self, Function.update_of_ne hn']
  · simp only [Function.update_of_ne hk]

@[simp] theorem setStore_pods : (c.setStore k n s hn ho).pods = c.pods := rfl

@[simp] theorem setStore_hpas : (c.setStore k n s hn ho).hpas = c.hpas := rfl

end setStore

/-- A version that may be stored next: its resource version is new, and its status has observed
no generation to come. -/
structure Storable (c : Cluster) {k : Kind} (v : Obj k) : Prop where
  fresh : ∀ w ∈ (c.store k v.metadata.name).past, w.rv ≠ v.rv
  observed : observedGeneration k v.status ≤ v.metadata.generation

/-- Store a version under its name. -/
def put (c : Cluster) {k : Kind} (v : Obj k) (h : c.Storable v) : Cluster :=
  c.setStore k v.metadata.name ((c.store k v.metadata.name).put v h.fresh)
    (by
      intro w hw
      rw [Versioned.put_past] at hw
      rcases List.mem_cons.mp hw with rfl | hw
      · rfl
      · exact c.named k _ w hw)
    (by
      intro w hw
      rw [Versioned.put_past] at hw
      rcases List.mem_cons.mp hw with rfl | hw
      · exact h.observed
      · exact c.observed_le k _ w hw)

/-- Delete the live version. -/
def remove (c : Cluster) (k : Kind) (n : String) : Cluster :=
  c.setStore k n (c.store k n).remove
    (by
      intro w hw
      rw [Versioned.remove_past] at hw
      exact c.named k n w hw)
    (by
      intro w hw
      rw [Versioned.remove_past] at hw
      exact c.observed_le k n w hw)

section put

variable (c : Cluster) {k : Kind} (v : Obj k) (h : c.Storable v)

@[simp] theorem put_live : (c.put v h).live k v.metadata.name = some v := by
  unfold put live
  rw [setStore_store]
  rfl

theorem put_store_of_ne {k' : Kind} {n' : String} (hne : k' ≠ k ∨ n' ≠ v.metadata.name) :
    (c.put v h).store k' n' = c.store k' n' :=
  setStore_store_of_ne _ _ _ _ _ _ hne

theorem put_live_of_ne {k' : Kind} {n' : String} (hne : k' ≠ k ∨ n' ≠ v.metadata.name) :
    (c.put v h).live k' n' = c.live k' n' := by
  unfold live
  rw [put_store_of_ne c v h hne]

@[simp] theorem put_past : (c.put v h).past k v.metadata.name = v :: c.past k v.metadata.name := by
  unfold put past
  rw [setStore_store]
  rfl

@[simp] theorem put_pods : (c.put v h).pods = c.pods := rfl

@[simp] theorem put_hpas : (c.put v h).hpas = c.hpas := rfl

end put

section remove

variable (c : Cluster) (k : Kind) (n : String)

@[simp] theorem remove_live : (c.remove k n).live k n = none := by
  unfold remove live
  rw [setStore_store]
  rfl

theorem remove_store_of_ne {k' : Kind} {n' : String} (hne : k' ≠ k ∨ n' ≠ n) :
    (c.remove k n).store k' n' = c.store k' n' :=
  setStore_store_of_ne _ _ _ _ _ _ hne

@[simp] theorem remove_pods : (c.remove k n).pods = c.pods := rfl

@[simp] theorem remove_hpas : (c.remove k n).hpas = c.hpas := rfl

end remove

/-- `c'` is a later state: every object has only moved on. -/
def Later (c c' : Cluster) : Prop := ∀ k n, (c.store k n).Later (c'.store k n)

theorem Later.refl (c : Cluster) : c.Later c := fun _ _ => Versioned.Later.refl _

theorem Later.trans {c c' c'' : Cluster} (h : c.Later c') (h' : c'.Later c'') : c.Later c'' :=
  fun k n => (h k n).trans (h' k n)

theorem later_setStore (c : Cluster) (k : Kind) (n : String) (s : Versioned (Obj k) Obj.rv) (hn)
    (ho) (h : (c.store k n).Later s) : c.Later (c.setStore k n s hn ho) := by
  intro k' n'
  by_cases hne : k' ≠ k ∨ n' ≠ n
  · rw [setStore_store_of_ne c k n s hn ho hne]
    exact Versioned.Later.refl _
  · push Not at hne
    obtain ⟨rfl, rfl⟩ := hne
    rw [setStore_store]
    exact h

theorem later_put (c : Cluster) {k : Kind} (v : Obj k) (h : c.Storable v) : c.Later (c.put v h) :=
  later_setStore _ _ _ _ _ _ (Versioned.later_put _ _ _)

theorem later_remove (c : Cluster) (k : Kind) (n : String) : c.Later (c.remove k n) :=
  later_setStore _ _ _ _ _ _ (Versioned.later_remove _)

variable {c : Cluster} {k : Kind} {n : String}

theorem Later.mem_past {c' : Cluster} (h : c.Later c') {v : Obj k} (hv : v ∈ c.past k n) :
    v ∈ c'.past k n :=
  (h k n).1.subset hv

theorem mem_past_of_live {v : Obj k} (h : c.live k n = some v) : v ∈ c.past k n :=
  Versioned.live_mem h

/-- **Exactness.**  The live object with the resource version of a known one IS that one. -/
theorem eq_of_rv {v w : Obj k} (hv : v ∈ c.past k n) (hw : c.live k n = some w)
    (h : v.rv = w.rv) : v = w :=
  Versioned.eq_of_token hv hw h

theorem name_of_mem_past {v : Obj k} (hv : v ∈ c.past k n) : v.metadata.name = n :=
  c.named k n v hv

theorem name_of_live {v : Obj k} (h : c.live k n = some v) : v.metadata.name = n :=
  name_of_mem_past (mem_past_of_live h)

theorem observed_le_of_mem_past {v : StatefulSet} (hv : v ∈ c.past .statefulSet n) :
    v.sstatus.observedGeneration ≤ v.metadata.generation :=
  c.observed_le .statefulSet n v hv

end Cluster

/-! ## §2. Answers. -/

/-- What the server stores for an accepted update of `cur`. -/
structure Accepted {k : Kind} (cur sent stored : Obj k) : Prop where
  spec : stored.spec = sent.spec
  status : stored.status = cur.status
  metadata : stored.metadata = { sent.metadata with
    uid := cur.metadata.uid
    resourceVersion := stored.rv
    generation := if sent.spec = cur.spec then cur.metadata.generation
      else cur.metadata.generation + 1 }

/-- What the server stores for an accepted creation. -/
structure Created {k : Kind} (sent stored : Obj k) : Prop where
  spec : stored.spec = sent.spec
  status : stored.status = default
  metadata : stored.metadata = { sent.metadata with
    uid := stored.metadata.uid
    resourceVersion := stored.rv
    generation := 1 }

/-- What the server stores when an object that finalizers hold is deleted: it is marked. -/
structure DeletionMark {k : Kind} (cur stored : Obj k) : Prop where
  spec : stored.spec = cur.spec
  status : stored.status = cur.status
  metadata : stored.metadata = { cur.metadata with
    resourceVersion := stored.rv
    generation := cur.metadata.generation + 1
    deleting := true }

/-- **What an accepted deletion of `cur` leaves**: without finalizers the object is gone; otherwise
it is marked, and stays until they are removed. -/
inductive Deleted (c : Cluster) {k : Kind} (cur : Obj k) : Cluster → Prop where
  | gone (free : cur.metadata.finalizers = []) : Deleted c cur (c.remove k cur.metadata.name)
  | marked (held : cur.metadata.finalizers ≠ []) (stored : Obj k) (mark : DeletionMark cur stored)
      (h : c.Storable stored) : Deleted c cur (c.put stored h)
  | again (already : cur.metadata.deleting = true) : Deleted c cur c

/-- The pods a label query selects. -/
def selectPods (c : Cluster) (labels : StrMap) : List Pod :=
  c.pods.filter (fun pod => stringMapSubset labels pod.labels)

/-- `Serve c o r c'`: in the state `c` the operation `o` may be answered with `r`, leaving
`c'`. -/
def Serve (c : Cluster) : (o : Op) → Resp o → Cluster → Prop
  | .getLive k n, .ok v, c' => c' = c ∧ c.live k n = some v
  | .getLive k n, .error e, c' => c' = c ∧ (e.isNotFound → c.live k n = none)
  | .get k n, .ok v, c' => c' = c ∧ v ∈ c.past k n
  | .create k sent, .ok v, c' =>
    c.live k sent.metadata.name = none ∧ Created sent v ∧ ∃ h, c' = c.put v h
  | .update k sent, .ok v, c' =>
    ∃ cur, c.live k sent.metadata.name = some cur ∧ cur.rv = sent.rv ∧ Accepted cur sent v ∧
      ∃ h, c' = c.put v h
  | .delete k n uid rv, .ok _, c' =>
    ∃ cur, c.live k n = some cur ∧ cur.metadata.uid = uid ∧ cur.rv = rv ∧ Deleted c cur c'
  | .listPods labels, .ok pods, c' => c' = c ∧ pods.val.Perm (selectPods c labels)
  | .getPod n, .ok pod, c' => c' = c ∧ pod.name = n
  | .listHPAs, .ok hpas, c' => c' = c ∧ hpas.Perm c.hpas
  | _, _, c' => c' = c

section deleted

variable {c c' : Cluster} {k : Kind} {n : String} {cur : Obj k}

theorem Deleted.later (h : Deleted c cur c') : c.Later c' := by
  cases h with
  | gone free => exact Cluster.later_remove _ _ _
  | marked held stored mark h => exact Cluster.later_put _ _ h
  | again already => exact Cluster.Later.refl _

/-- A deletion touches the one object. -/
theorem Deleted.store_of_ne (h : Deleted c cur c') {k' : Kind} {n' : String}
    (hne : k' ≠ k ∨ n' ≠ cur.metadata.name) : c'.store k' n' = c.store k' n' := by
  cases h with
  | gone free => exact c.remove_store_of_ne k _ hne
  | marked held stored mark hs =>
    have hname : stored.metadata.name = cur.metadata.name := by rw [mark.metadata]
    exact c.put_store_of_ne stored hs (hname ▸ hne)
  | again already => rfl

theorem Deleted.live_of_ne (h : Deleted c cur c') {k' : Kind} {n' : String}
    (hne : k' ≠ k ∨ n' ≠ cur.metadata.name) : c'.live k' n' = c.live k' n' := by
  unfold Cluster.live
  rw [h.store_of_ne hne]

/-- What is left of the object is being deleted: itself when it was so before, else the marked
version. -/
theorem Deleted.live_self (h : Deleted c cur c') (hlive : c.live k cur.metadata.name = some cur) :
    c'.live k cur.metadata.name = none ∨ ∃ v, c'.live k cur.metadata.name = some v ∧
      v.metadata.deleting = true ∧ (DeletionMark cur v ∨ v = cur) := by
  cases h with
  | gone free => exact .inl (c.remove_live k _)
  | marked held stored mark hs =>
    have hname : stored.metadata.name = cur.metadata.name := by rw [mark.metadata]
    refine .inr ⟨stored, hname ▸ c.put_live stored hs, ?_, .inl mark⟩
    rw [mark.metadata]
  | again already => exact .inr ⟨cur, hlive, already, .inr rfl⟩

theorem Deleted.pods (h : Deleted c cur c') : c'.pods = c.pods := by cases h <;> rfl

theorem Deleted.hpas (h : Deleted c cur c') : c'.hpas = c.hpas := by cases h <;> rfl

end deleted

/-- Only an accepted write changes the state. -/
theorem Serve.eq_of_not_write {c c' : Cluster} {o : Op} {r : Resp o} (h : Serve c o r c')
    (hc : ∀ k sent, o ≠ .create k sent) (hu : ∀ k sent, o ≠ .update k sent)
    (hd : ∀ k n uid rv, o ≠ .delete k n uid rv) : c' = c := by
  unfold Serve at h
  split at h
  · exact h.1
  · exact h.1
  · exact h.1
  · exact absurd rfl (hc _ _)
  · exact absurd rfl (hu _ _)
  · exact absurd rfl (hd _ _ _ _)
  · exact h.1
  · exact h.1
  · exact h.1
  · exact h

/-- Whatever is answered, every object has only moved on. -/
theorem Serve.later {c c' : Cluster} {o : Op} {r : Resp o} (h : Serve c o r c') : c.Later c' := by
  unfold Serve at h
  split at h
  · rw [h.1]; exact Cluster.Later.refl _
  · rw [h.1]; exact Cluster.Later.refl _
  · rw [h.1]; exact Cluster.Later.refl _
  · obtain ⟨-, -, hs, rfl⟩ := h
    exact Cluster.later_put _ _ hs
  · obtain ⟨cur, -, -, -, hs, rfl⟩ := h
    exact Cluster.later_put _ _ hs
  · obtain ⟨cur, -, -, -, hdeleted⟩ := h
    exact hdeleted.later
  · rw [h.1]; exact Cluster.Later.refl _
  · rw [h.1]; exact Cluster.Later.refl _
  · rw [h.1]; exact Cluster.Later.refl _
  · rw [h]; exact Cluster.Later.refl _

/-! ## §3. A server that never fails. -/

/-- What lies outside the API server in a concrete run. -/
structure Oracle where
  now : Time := 0
  secret : String → Except Err Secret := fun _ => .error (.notFound "")
  state : String → Except Err HttpResponse := fun _ => .error (.other "")

/-- The version stored for an update of `cur`. -/
def acceptUpdate (c : Cluster) {k : Kind} (cur sent : Obj k) : Obj k where
  spec := sent.spec
  status := cur.status
  metadata := { sent.metadata with
    uid := cur.metadata.uid
    resourceVersion := (c.store k sent.metadata.name).fresh
    generation := if sent.spec = cur.spec then cur.metadata.generation
      else cur.metadata.generation + 1 }

/-- The version stored for a creation; the UID is the name. -/
def acceptCreate (c : Cluster) {k : Kind} (sent : Obj k) : Obj k where
  spec := sent.spec
  status := default
  metadata := { sent.metadata with
    uid := sent.metadata.name
    resourceVersion := (c.store k sent.metadata.name).fresh
    generation := 1 }

theorem storable_acceptUpdate {c : Cluster} {k : Kind} {cur sent : Obj k}
    (h : c.live k sent.metadata.name = some cur) : c.Storable (acceptUpdate c cur sent) where
  fresh := by
    intro w hw
    exact (Versioned.lt_fresh hw).ne
  observed := by
    have hle := c.observed_le k _ cur (Cluster.mem_past_of_live h)
    show observedGeneration k cur.status ≤ if sent.spec = cur.spec then _ else _
    split <;> omega

theorem storable_acceptCreate {c : Cluster} {k : Kind} (sent : Obj k) :
    c.Storable (acceptCreate c sent) where
  fresh := by
    intro w hw
    exact (Versioned.lt_fresh hw).ne
  observed := by
    show observedGeneration k default ≤ 1
    cases k <;> exact Nat.zero_le _

/-- Answer a write of the API. -/
def answerUpdate (c : Cluster) {k : Kind} (sent : Obj k) : Except Err (Obj k) × Cluster :=
  match h : c.live k sent.metadata.name with
  | none => (.error (.notFound ""), c)
  | some cur =>
    if cur.rv = sent.rv then
      (.ok (acceptUpdate c cur sent), c.put (acceptUpdate c cur sent) (storable_acceptUpdate h))
    else (.error (.conflict ""), c)

/-- Answer a creation. -/
def answerCreate (c : Cluster) {k : Kind} (sent : Obj k) : Except Err (Obj k) × Cluster :=
  if c.live k sent.metadata.name = none then
    (.ok (acceptCreate c sent), c.put (acceptCreate c sent) (storable_acceptCreate sent))
  else (.error (.other "already exists"), c)

/-- The version stored for the deletion of an object that finalizers hold. -/
def acceptDelete (c : Cluster) {k : Kind} (cur : Obj k) : Obj k :=
  { cur with metadata := { cur.metadata with
      resourceVersion := (c.store k cur.metadata.name).fresh
      generation := cur.metadata.generation + 1
      deleting := true } }

theorem storable_acceptDelete {c : Cluster} {k : Kind} {n : String} {cur : Obj k}
    (h : c.live k n = some cur) : c.Storable (acceptDelete c cur) where
  fresh := by
    intro w hw
    exact (Versioned.lt_fresh hw).ne
  observed := by
    have hle := c.observed_le k _ cur (Cluster.mem_past_of_live h)
    exact Nat.le_succ_of_le hle

/-- Answer a deletion. -/
def answerDelete (c : Cluster) (k : Kind) (n uid : String) (rv : Nat) :
    Except Err Unit × Cluster :=
  match h : c.live k n with
  | none => (.error (.notFound ""), c)
  | some cur =>
    if cur.metadata.uid = uid ∧ cur.rv = rv then
      (.ok (), if cur.metadata.finalizers = [] then c.remove k cur.metadata.name
        else c.put (acceptDelete c cur) (storable_acceptDelete h))
    else (.error (.conflict ""), c)

/-- Answer a read by kind and name. -/
def answerGet (c : Cluster) (k : Kind) (n : String) : Except Err (Obj k) :=
  match c.live k n with
  | none => .error (.notFound "")
  | some v => .ok v

/-- The server that answers every operation from the present state, and lets every write
that is not stale succeed. -/
def answer (ora : Oracle) (c : Cluster) : (o : Op) → Resp o × Cluster
  | .now => (ora.now, c)
  | .getApp _ => (.error (.notFound ""), c)
  | .listApps => (.ok [], c)
  | .updateStatus _ => (.ok (), c)
  | .getSecret name => (ora.secret name, c)
  | .get k n | .getLive k n => (answerGet c k n, c)
  | .create _ sent => answerCreate c sent
  | .update _ sent => answerUpdate c sent
  | .delete k n uid rv => answerDelete c k n uid rv
  | .listPods labels =>
    (if h : (selectPods c labels).length < 2 ^ 31 then .ok ⟨selectPods c labels, h⟩
      else .error (.other "too many pods"), c)
  | .getPod n =>
    (match c.pods.find? (·.name == n) with
      | some pod => .ok pod
      | none => .error (.notFound ""), c)
  | .listHPAs => (.ok c.hpas, c)
  | .getGateway _ _ => (.error (.notFound ""), c)
  | .getState ip => (ora.state ip, c)
  | .getObject _ => (.error (.other ""), c)
  | .completionOrder pods => (⟨pods, .refl _⟩, c)
  | .rangeStates states => (⟨states, .refl _⟩, c)
  | .rangeKinds kinds => (⟨kinds, .refl _⟩, c)
  | .trackerLoad _ => (none, c)
  | .trackerStore _ _ _ | .trackerForget _ => ((), c)

theorem serve_answerUpdate (c : Cluster) {k : Kind} (sent : Obj k) :
    Serve c (.update k sent) (answerUpdate c sent).1 (answerUpdate c sent).2 := by
  unfold answerUpdate
  split
  · rfl
  · next cur h =>
    split
    · next hrv => exact ⟨cur, h, hrv, ⟨rfl, rfl, rfl⟩, storable_acceptUpdate h, rfl⟩
    · rfl

theorem serve_answerCreate (c : Cluster) {k : Kind} (sent : Obj k) :
    Serve c (.create k sent) (answerCreate c sent).1 (answerCreate c sent).2 := by
  unfold answerCreate
  split
  · next h => exact ⟨h, ⟨rfl, rfl, rfl⟩, storable_acceptCreate sent, rfl⟩
  · rfl

theorem serve_answerDelete (c : Cluster) (k : Kind) (n uid : String) (rv : Nat) :
    Serve c (.delete k n uid rv) (answerDelete c k n uid rv).1 (answerDelete c k n uid rv).2 := by
  unfold answerDelete
  split
  · rfl
  · next cur h =>
    split
    · next hc =>
      refine ⟨cur, h, hc.1, hc.2, ?_⟩
      dsimp only
      split
      · next hfree => exact .gone hfree
      · next hheld => exact .marked hheld (acceptDelete c cur) ⟨rfl, rfl, rfl⟩ _
    · rfl

/-- `answer` is one of the servers `Serve` admits. -/
theorem serve_answer (ora : Oracle) (c : Cluster) (o : Op) :
    Serve c o (answer ora c o).1 (answer ora c o).2 := by
  cases o with
  | update k sent => exact serve_answerUpdate c sent
  | create k sent => exact serve_answerCreate c sent
  | delete k n uid rv => exact serve_answerDelete c k n uid rv
  | get k n =>
    simp only [answer, answerGet]
    split
    · rfl
    · next v h => exact ⟨rfl, Cluster.mem_past_of_live h⟩
  | getLive k n =>
    simp only [answer, answerGet]
    split
    · next h => exact ⟨rfl, fun _ => h⟩
    · next v h => exact ⟨rfl, h⟩
  | listPods labels =>
    simp only [answer]
    split
    · exact ⟨rfl, .refl _⟩
    · rfl
  | getPod n =>
    simp only [answer]
    split
    · next pod h => exact ⟨rfl, by simpa using List.find?_some h⟩
    · rfl
  | listHPAs => exact ⟨rfl, .refl _⟩
  | _ => rfl

/-! ## §4. A small fleet, for concrete runs. -/

/-- If the event reads the StatefulSet, what it returns passes the test. -/
def fleetRead (test : StatefulSet → Bool) : Event Api → Bool
  | ⟨.getLive .statefulSet _, .ok sts⟩ => test sts
  | _ => true

/-- If the event is an accepted update of the StatefulSet, what was stored passes the test. -/
def fleetStored (test : StatefulSet → Bool) : Event Api → Bool
  | ⟨.update .statefulSet _, .ok sts⟩ => test sts
  | _ => true

/-- A library that tells templates apart by their image and keeps no time. -/
def sampleLib : Lib where
  templateHash := fun t => stsContainerImage t.spec
  digest := fun _ => ""
  formatTime := fun _ => ""
  parseTime := fun _ => none
  parseURL := fun _ => none
  quote := id
  marshalKeys := fun _ => ""
  unmarshalKeys := fun _ => []

/-- An operator with the default flags. -/
def sampleReconciler : Reconciler := { lib := sampleLib }

/-- A fleet of three nodes with fleet durability. -/
def sampleApp (image : String) (strategy : UpdateStrategy) : WorkerApp where
  name := "shop"
  namespace_ := "prod"
  uid := "u1"
  spec :=
    { appVersion := "1"
      celld := { image := image, updateStrategy := strategy }
      storage := some { sizeGi := 1 }
      durability := .fleet
      bucket := { name := "s3://b" } }

/-- The same with a hostname. -/
def routedApp : WorkerApp :=
  let app := sampleApp "ghcr.io/denoland/celld:v0.5.1" .rolling
  { app with spec := { app.spec with hostnames := ["shop.example"] } }

/-- A Ready pod of the StatefulSet with this UID. -/
def samplePod (name uid revision : String) (spec : PodSpec) : Pod where
  name := name
  labels := StrMap.ofList [("celld-operator.io/workerapp", "shop"),
    ("controller-revision-hash", revision)]
  ownerReferences := [⟨uid, some true⟩]
  spec := spec
  podIP := name
  phase := .running
  conditions := [⟨"Ready", .true_⟩]

/-- The `/state` of a pod that serves `version`. -/
def sampleState (version : String) (restoring : Int) : HttpResponse where
  status := 200
  size := 0
  body := some (.obj
    [("occupied", .int 0), ("restoring", .int restoring), ("shedding", .null),
     ("deployment", .obj [("version", .str version), ("generation", .int 1)])])

/-- The same with autoscaling. -/
def scaledApp (image : String) : WorkerApp :=
  let app := sampleApp image .rolling
  { app with spec := { app.spec with
      autoscaling := some { enabled := true, minReplicas := 3, maxReplicas := 5
                            targets := { residentCellUtilization := some 50 } } } }

/-- The app the converged fleet below serves. -/
def servingApp : WorkerApp := scaledApp "ghcr.io/denoland/celld:v0.5.1"

/-- The StatefulSet of a fleet that has converged. -/
def settledFleet (app : WorkerApp) : StatefulSet :=
  let desired := desiredFleet sampleReconciler app "" "1"
  { metadata := { desired.metadata with uid := "s1", resourceVersion := 1, generation := 1 }
    spec := desired.spec
    status := ({ observedGeneration := 1, replicas := 3, readyReplicas := 3
                 updatedReplicas := 3, updateRevision := "r1" } : StatefulSetStatus) }

/-- Its ScaledObject, with KEDA's answer. -/
def settledScaler (app : WorkerApp) (paused : Bool) (acknowledged : String) : Obj .scaledObject :=
  let desired := setControllerReference app (buildScaledObject sampleLib app "" paused)
  { metadata := { desired.metadata with uid := "k1", resourceVersion := 1, generation := 1 }
    spec := desired.spec
    status := ([⟨"Paused", acknowledged⟩] : List ScalerCondition) }

/-- The cluster with that fleet and its three pods. -/
def convergedCluster (app : WorkerApp) : Cluster :=
  let c := Cluster.empty.put (settledFleet app)
    ⟨by simp [Cluster.empty, Versioned.empty], le_refl 1⟩
  { c with
    pods := ["shop-celld-0", "shop-celld-1", "shop-celld-2"].map fun name =>
      samplePod name "s1" "r1" (fleetPodSpec app) }

/-- The three pods of the fleet. -/
def threePods : List Pod := (convergedCluster servingApp).pods

theorem threePods_length : threePods.length < 2 ^ 31 := by decide

theorem convergedCluster_past (app : WorkerApp) (n : String) :
    ((convergedCluster app).store .scaledObject n).past = [] := by
  have hkind : Kind.scaledObject ≠ .statefulSet := by decide
  have hstore : (convergedCluster app).store .scaledObject n =
      Cluster.empty.store .scaledObject n :=
    Cluster.empty.put_store_of_ne (settledFleet app)
      ⟨by simp [Cluster.empty, Versioned.empty], le_refl 1⟩ (.inl hkind)
  exact congrArg Versioned.past hstore

/-- And its scaler. -/
def settledCluster (app : WorkerApp) (paused : Bool) (acknowledged : String) : Cluster :=
  (convergedCluster app).put (settledScaler app paused acknowledged)
    ⟨by simp [convergedCluster_past], Nat.zero_le _⟩

/-- The cluster in which a StatefulSet, its pods and what they answer are given. -/
def answerFleet (sts : StatefulSet) (pods : Except Err PodList) (reply : String → HttpResponse)
    (_ : Unit) : (o : Op) → Resp o × Unit
  | .get .statefulSet _ => (.ok sts, ())
  | .listPods _ => (pods, ())
  | .getState ip => (.ok (reply ip), ())
  | o => ((answer {} Cluster.empty o).1, ())

end CelldOperator
