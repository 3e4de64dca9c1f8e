/-
  CelldOperator.Keda.Controller

  **THE AUTOSCALER BESIDE THE OPERATOR.**

  KEDA processes the ScaledObject of the fleet serially (`KedaMove`): it reads
  the paused annotation; LATER it creates the HPA, or deletes it if it read a
  pause; LATER it writes the condition Paused for what it read.  The operator
  moves in between, so each of the three may be out of date when it happens.

  `frozen` is a ghost: the operator has updated the StatefulSet and has not
  released the scaler since.  While it is set there should be no HPA.
-/
import CelldOperator.Pass.Scaler
import CelldOperator.Cluster.Server

namespace CelldOperator

open Effect Prog

/-! ## §1. Worlds. -/

/-- Where KEDA stands with the ScaledObject, and what it read. -/
inductive Keda where
  | idle
  | read (paused : Bool)
  | acted (paused : Bool)
  deriving DecidableEq

/-- The cluster, KEDA, and whether the StatefulSet was updated since the last release. -/
structure ScaledWorld where
  cluster : Cluster
  keda : Keda
  frozen : Bool

/-- The ScaledObject asks for the pause. -/
def isPaused (o : Obj .scaledObject) : Bool :=
  o.metadata.annotations.get kedaPausedAnnotation == annotationTrue

/-- The HPA scales the StatefulSet `n`. -/
def HPA.scales (n : String) (hpa : HPA) : Bool :=
  hpa.targetKind == "StatefulSet" && hpa.targetName == n

/-- Replace the HPAs. -/
def Cluster.setHPAs (c : Cluster) (hpas : List HPA) : Cluster := { c with hpas := hpas }

@[simp] theorem Cluster.setHPAs_live (c : Cluster) (hpas : List HPA) (k : Kind) (n : String) :
    (c.setHPAs hpas).live k n = c.live k n := rfl

@[simp] theorem Cluster.setHPAs_hpas (c : Cluster) (hpas : List HPA) :
    (c.setHPAs hpas).hpas = hpas := rfl

/-- What KEDA leaves of the HPAs: with a pause none for the fleet, else one more. -/
def hpasAfter (n : String) (paused : Bool) (hpas : List HPA) : List HPA :=
  if paused then hpas.filter (fun hpa => !hpa.scales n) else ⟨"StatefulSet", n⟩ :: hpas

/-! ## §2. Moves. -/

/-- KEDA's condition for what it read; nothing else of the object changes. -/
structure Acknowledges (paused : Bool) (o o' : Obj .scaledObject) : Prop where
  metadata : o'.metadata = { o.metadata with resourceVersion := o'.rv }
  spec : o'.spec = o.spec
  condition : acknowledgesPause o' = paused

/-- **The moves beside the operator.** -/
inductive KedaMove (n : String) : ScaledWorld → ScaledWorld → Prop where
  | read {w : ScaledWorld} (o : Obj .scaledObject) (idle : w.keda = .idle)
      (live : w.cluster.live .scaledObject n = some o) :
      KedaMove n w { w with keda := .read (isPaused o) }
  | act {w : ScaledWorld} (paused : Bool) (reading : w.keda = .read paused) :
      KedaMove n w { w with
        keda := .acted paused
        cluster := w.cluster.setHPAs (hpasAfter n paused w.cluster.hpas) }
  | report {w : ScaledWorld} (paused : Bool) (o o' : Obj .scaledObject)
      (acting : w.keda = .acted paused) (live : w.cluster.live .scaledObject n = some o)
      (answer : Acknowledges paused o o') (hs : w.cluster.Storable o') :
      KedaMove n w { w with keda := .idle, cluster := w.cluster.put o' hs }
  | forget {w : ScaledWorld} (paused : Bool) (acting : w.keda = .acted paused)
      (gone : w.cluster.live .scaledObject n = none) : KedaMove n w { w with keda := .idle }
  | others {w : ScaledWorld} (c' : Cluster)
      (scaler : c'.live .scaledObject n = w.cluster.live .scaledObject n)
      (hpas : c'.hpas = w.cluster.hpas) : KedaMove n w { w with cluster := c' }

/-- The ghost after an answered operation. -/
def frozenAfter (frozen : Bool) : (o : Op) → Resp o → Bool
  | .update .statefulSet _, .ok _ => true
  | .create .scaledObject sent, .ok _ | .update .scaledObject sent, .ok _ =>
    frozen && sent.metadata.annotations.get kedaPausedAnnotation != "false"
  | _, _ => frozen

/-- KEDA's API is installed. -/
def Installed : (o : Op) → Resp o → Prop
  | .getLive .scaledObject _, .error e => e.isNoMatch = false
  | _, _ => True

/-- The API server in such a world. -/
structure ServeScaled (w : ScaledWorld) (o : Op) (res : Resp o) (w' : ScaledWorld) : Prop where
  served : Serve w.cluster o res w'.cluster
  installed : Installed o res
  keda : w'.keda = w.keda
  frozen : w'.frozen = frozenAfter w.frozen o res

/-! ## §3. The system. -/

/-- A whole pass: the flags, the key, the WorkerApp as edited so far. -/
structure ReconcilePass where
  r : Reconciler
  key : NamespacedName
  app : WorkerApp

/-- **The system**: whole passes over a WorkerApp `name` with autoscaling, any spec otherwise,
interleaved with KEDA at every call. -/
def scalerSystem (name : String) : System Api ScaledWorld ReconcilePass (Except Err Result) where
  serve := ServeScaled
  during := KedaMove (name ++ "-celld")
  between := KedaMove (name ++ "-celld")
  job := fun j => reconcileApp j.r j.key j.app
  admits := fun _ j => j.app.name = name ∧ autoscalingEnabled j.app = true

/-- Before the scaler is created. -/
def Unscaled (name : String) (w : ScaledWorld) : Prop :=
  w.cluster.live .scaledObject (name ++ "-celld") = none ∧ w.keda = .idle ∧ w.frozen = false

/-- **The condition.**  When the operator asks for the pause on a ScaledObject that is running
but still shows the acknowledgement of an earlier pause, KEDA is not on its way from a read to
the creation of the HPA. -/
def PausesFresh (n : String) (w : ScaledWorld) (o : Op) : Prop :=
  ∀ sent, o = .update .scaledObject sent → isPaused sent = true →
    ∀ cur, w.cluster.live .scaledObject n = some cur → isPaused cur = false →
      acknowledgesPause cur = true → w.keda ≠ .read false

/-! ## §4. Concrete runs. -/

/-- The server that never fails, in such a world. -/
def answerScaled (ora : Oracle) (w : ScaledWorld) (o : Op) : Resp o × ScaledWorld :=
  ((answer ora w.cluster o).1,
    { w with
      cluster := (answer ora w.cluster o).2
      frozen := frozenAfter w.frozen o (answer ora w.cluster o).1 })

theorem serve_answerScaled (ora : Oracle) (w : ScaledWorld) (o : Op) :
    ServeScaled w o (answerScaled ora w o).1 (answerScaled ora w o).2 where
  served := serve_answer ora w.cluster o
  installed := by
    unfold Installed
    split
    · next n e heq =>
      simp only [answerScaled, answer, answerGet] at heq
      split at heq
      · cases heq
        rfl
      · cases heq
    · trivial
  keda := rfl
  frozen := rfl

/-- The ScaledObject with KEDA's condition. -/
def conditioned (c : Cluster) (paused : Bool) (o : Obj .scaledObject) : Obj .scaledObject where
  spec := o.spec
  status := ([⟨"Paused", if paused then "True" else "False"⟩] : List ScalerCondition)
  metadata := { o.metadata with
    resourceVersion := (c.store .scaledObject o.metadata.name).fresh }

theorem storable_conditioned (c : Cluster) (paused : Bool) (o : Obj .scaledObject) :
    c.Storable (conditioned c paused o) where
  fresh := by
    intro w hw
    exact (Versioned.lt_fresh hw).ne
  observed := Nat.zero_le _

theorem acknowledges_conditioned (c : Cluster) (paused : Bool) (o : Obj .scaledObject) :
    Acknowledges paused o (conditioned c paused o) where
  metadata := rfl
  spec := rfl
  condition := by cases paused <;> simp [acknowledgesPause, conditioned]

/-- KEDA's next move: read, act, report. -/
def kedaNext (n : String) (w : ScaledWorld) : ScaledWorld :=
  match w.keda with
  | .idle =>
    match w.cluster.live .scaledObject n with
    | some o => { w with keda := .read (isPaused o) }
    | none => w
  | .read paused =>
    { w with
      keda := .acted paused
      cluster := w.cluster.setHPAs (hpasAfter n paused w.cluster.hpas) }
  | .acted paused =>
    match w.cluster.live .scaledObject n with
    | some o =>
      { w with
        keda := .idle
        cluster := w.cluster.put (conditioned w.cluster paused o)
          (storable_conditioned w.cluster paused o) }
    | none => { w with keda := .idle }

theorem kedaMove_kedaNext (n : String) (w : ScaledWorld) :
    kedaNext n w = w ∨ KedaMove n w (kedaNext n w) := by
  unfold kedaNext
  split
  · next hidle =>
    split
    · next o hlive => exact .inr (.read o hidle hlive)
    · exact .inl rfl
  · next paused hread => exact .inr (.act paused hread)
  · next paused hacted =>
    split
    · next o hlive =>
      exact .inr (.report paused o _ hacted hlive (acknowledges_conditioned _ _ _) _)
    · next hgone => exact .inr (.forget paused hacted hgone)

end CelldOperator
