/-
  CelldOperator.Cluster.Kube

  **THE STATEFULSET CONTROLLER AND THE PODS IT MAKES.**

  A `World` is the cluster together with the template of the StatefulSet's
  current revision, which the API object does not show.  Beside the operator
  these move (`KubeMove`):

    • a pod dies, is evicted or deleted, or changes its status,
    • the controller creates a missing ordinal below the replica count: from the
      update template at or above the partition, from the current revision below,
    • the controller makes the update revision the current one once every
      replica runs it and is Ready,
    • the controller reports status,
    • anybody changes other objects.

  Replacing a pod at or above the partition and deleting one at or above the
  replica count are a death, followed by a creation in the first case.  Nobody
  but the operator writes the spec of the StatefulSet or deletes it.
-/
import CelldOperator.Cluster.Server

namespace CelldOperator

open Effect Prog

/-! ## §1. Worlds. -/

/-- Replace the pods. -/
def Cluster.setPods (c : Cluster) (pods : List Pod) : Cluster := { c with pods := pods }

@[simp] theorem Cluster.setPods_store (c : Cluster) (pods : List Pod) :
    (c.setPods pods).store = c.store := rfl

@[simp] theorem Cluster.setPods_live (c : Cluster) (pods : List Pod) (k : Kind) (n : String) :
    (c.setPods pods).live k n = c.live k n := rfl

@[simp] theorem Cluster.setPods_pods (c : Cluster) (pods : List Pod) :
    (c.setPods pods).pods = pods := rfl

/-- The cluster, and the template of the current revision. -/
structure World where
  cluster : Cluster
  current : PodTemplate

/-- The current revision after an answer: a new StatefulSet starts with its own template. -/
def currentAfter (current : PodTemplate) : (o : Op) → Resp o → PodTemplate
  | .create .statefulSet _, .ok stored => stored.sspec.template
  | _, _ => current

/-- The API server, in the world. -/
def ServeWorld (w : World) (o : Op) (res : Resp o) (w' : World) : Prop :=
  Serve w.cluster o res w'.cluster ∧ w'.current = currentAfter w.current o res

/-! ## §2. The moves of Kubernetes. -/

/-- `p'` is the pod `p` later on: what it was created from has not changed. -/
structure SamePod (p p' : Pod) : Prop where
  spec : p'.spec = p.spec
  labels : p'.labels = p.labels
  owners : p'.ownerReferences = p.ownerReferences

/-- The pod of an ordinal, as the controller creates it from a template. -/
structure CreatedFrom (sts : StatefulSet) (template : PodTemplate) (i : Nat) (pod : Pod) :
    Prop where
  name : pod.name = ordinalName sts.metadata.name i
  spec : pod.spec = template.spec
  labels : stringMapSubset template.labels pod.labels = true
  owner : isControlledBy pod.ownerReferences sts.metadata.uid = true

/-- The template the controller creates an ordinal from. -/
def templateFor (w : World) (sts : StatefulSet) (i : Nat) : PodTemplate :=
  if stsPartition sts ≤ i then sts.sspec.template else w.current

/-- Only the status has changed, and with it the resource version. -/
structure Reported (sts sts' : StatefulSet) : Prop where
  spec : sts'.spec = sts.spec
  metadata : sts'.metadata = { sts.metadata with resourceVersion := sts'.rv }

/-- One move of the others, around the StatefulSet called `n`. -/
inductive KubeMove (n : String) (w : World) : World → Prop where
  | pods (pods : List Pod) (kept : ∀ p' ∈ pods, ∃ p ∈ w.cluster.pods, SamePod p p') :
      KubeMove n w { w with cluster := w.cluster.setPods pods }
  | create (sts : StatefulSet) (i : Nat) (pod : Pod)
      (live : w.cluster.live .statefulSet n = some sts) (below : i < stsReplicas sts)
      (missing : ∀ p ∈ w.cluster.pods, p.name ≠ pod.name)
      (made : CreatedFrom sts (templateFor w sts i) i pod) :
      KubeMove n w { w with cluster := w.cluster.setPods (pod :: w.cluster.pods) }
  | promote (sts : StatefulSet) (live : w.cluster.live .statefulSet n = some sts)
      (complete : ∀ i < stsReplicas sts, ∃ p ∈ w.cluster.pods,
        p.name = ordinalName n i ∧ p.spec = sts.sspec.template.spec ∧ podReady p = true) :
      KubeMove n w { w with current := sts.sspec.template }
  | report (sts sts' : StatefulSet) (live : w.cluster.live .statefulSet n = some sts)
      (same : Reported sts sts') (hp : w.cluster.Storable sts') :
      KubeMove n w { w with cluster := w.cluster.put sts' hp }
  | others (c' : Cluster) (later : w.cluster.Later c')
      (same : c'.store .statefulSet n = w.cluster.store .statefulSet n)
      (pods : c'.pods = w.cluster.pods) : KubeMove n w { w with cluster := c' }

/-- The controller reports under the object's own name. -/
theorem Reported.name {n : String} {c : Cluster} {sts sts' : StatefulSet}
    (hr : Reported sts sts') (hlive : c.live .statefulSet n = some sts) :
    sts'.metadata.name = n := by
  rw [hr.metadata]
  exact Cluster.name_of_live hlive

theorem KubeMove.later {n : String} {w w' : World} (h : KubeMove n w w') :
    w.cluster.Later w'.cluster := by
  cases h with
  | pods | create | promote => exact Cluster.Later.refl _
  | report sts sts' live same hp => exact Cluster.later_put _ _ hp
  | others c' later same pods => exact later

/-! ## §3. Moves of a concrete run. -/

/-- `answer`, in the world. -/
def answerWorld (ora : Oracle) (w : World) (o : Op) : Resp o × World :=
  ((answer ora w.cluster o).1,
    { cluster := (answer ora w.cluster o).2
      current := currentAfter w.current o (answer ora w.cluster o).1 })

theorem serve_answerWorld (ora : Oracle) (w : World) (o : Op) :
    ServeWorld w o (answerWorld ora w o).1 (answerWorld ora w o).2 :=
  ⟨serve_answer ora w.cluster o, rfl⟩

/-- The pod the controller creates for an ordinal. -/
def newPod (sts : StatefulSet) (template : PodTemplate) (i : Nat) : Pod where
  name := ordinalName sts.metadata.name i
  labels := template.labels
  ownerReferences := [⟨sts.metadata.uid, some true⟩]
  spec := template.spec

theorem createdFrom_newPod (sts : StatefulSet) (template : PodTemplate) (i : Nat) :
    CreatedFrom sts template i (newPod sts template i) :=
  ⟨rfl, rfl, by simp [stringMapSubset, newPod], by simp [isControlledBy, newPod]⟩

/-- Create the pod of an ordinal that is missing. -/
def createPod (n : String) (i : Nat) (w : World) : World :=
  match w.cluster.live .statefulSet n with
  | none => w
  | some sts =>
    let pod := newPod sts (templateFor w sts i) i
    if i < stsReplicas sts ∧ ∀ p ∈ w.cluster.pods, p.name ≠ pod.name then
      { w with cluster := w.cluster.setPods (pod :: w.cluster.pods) }
    else w

theorem kubeMove_createPod (n : String) (i : Nat) (w : World) :
    createPod n i w = w ∨ KubeMove n w (createPod n i w) := by
  unfold createPod
  split
  · exact .inl rfl
  · next sts hlive =>
    dsimp only
    split
    · next h => exact .inr (.create sts i _ hlive h.1 h.2 (createdFrom_newPod _ _ _))
    · exact .inl rfl

/-- The status of a controller that has seen the latest spec. -/
def observedNow (c : Cluster) (sts : StatefulSet) : StatefulSet where
  spec := sts.spec
  status := ({ sts.sstatus with observedGeneration := sts.metadata.generation } :
    StatefulSetStatus)
  metadata := { sts.metadata with
    resourceVersion := (c.store .statefulSet sts.metadata.name).fresh }

theorem storable_observedNow (c : Cluster) (sts : StatefulSet) : c.Storable (observedNow c sts) where
  fresh := by
    intro w hw
    exact (Versioned.lt_fresh hw).ne
  observed := le_refl sts.metadata.generation

/-- The controller reports that it has seen the latest spec. -/
def observe (n : String) (w : World) : World :=
  match w.cluster.live .statefulSet n with
  | none => w
  | some sts =>
    { w with cluster :=
        w.cluster.put (observedNow w.cluster sts) (storable_observedNow w.cluster sts) }

theorem kubeMove_observe (n : String) (w : World) : observe n w = w ∨ KubeMove n w (observe n w) := by
  unfold observe
  split
  · exact .inl rfl
  · next sts hlive => exact .inr (.report sts (observedNow w.cluster sts) hlive ⟨rfl, rfl⟩ _)

end CelldOperator
