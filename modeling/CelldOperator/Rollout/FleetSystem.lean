/-
  CelldOperator.Rollout.FleetSystem

  **THE OPERATOR AND KUBERNETES, STEP BY STEP.**

  `fleetSystem` runs `reconcileFleet` passes over one fleet, each for whatever
  spec the WorkerApp has by then, cut off anywhere, with the moves of Kubernetes
  before and between any two of its calls.  Properties of whole rollouts are
  stated over the states it reaches.
-/
import CelldOperator.Cluster.Kube
import CelldOperator.Pass.Known

namespace CelldOperator

open Effect Prog

/-! ## §1. The system. -/

/-- **The system**: passes over the fleet of the WorkerApp `name`, for any accepted spec,
interleaved at every call with Kubernetes; `may` restricts which passes start. -/
def fleetSystem (name : String) (may : World → FleetPass → Prop) :
    System Api World FleetPass (Except Err FleetOutcome) where
  serve := ServeWorld
  during := KubeMove (name ++ "-celld")
  between := KubeMove (name ++ "-celld")
  job := fun j => reconcileFleet j.r j.app j.appVersion
  admits := fun w j => j.app.name = name ∧ validateApp j.r j.app = .ok () ∧ may w j

/-! ## §2. Concrete runs. -/

/-- A pass of the sample operator. -/
def samplePass (app : WorkerApp) : FleetPass := ⟨sampleReconciler, app, "1"⟩

/-- One in which every call succeeds. -/
def runPass (app : WorkerApp) (w : World) : World :=
  (runWith (answerWorld {}) (reconcileFleet sampleReconciler app "1") w).2.1

section runs

variable {name : String} {may : World → FleetPass → Prop} {init : World → Prop} {w : World}

theorem reachable_runPass (hr : (fleetSystem name may).Reachable init w) (app : WorkerApp)
    (hname : app.name = name) (hvalid : validateApp sampleReconciler app = .ok ())
    (hmay : may w (samplePass app)) : (fleetSystem name may).Reachable init (runPass app w) :=
  hr.step (.job (j := samplePass app) ⟨hname, hvalid, hmay⟩
    (exec_runWith (serve_answerWorld {}) _ w))

theorem reachable_createPod (hr : (fleetSystem name may).Reachable init w) (i : Nat) :
    (fleetSystem name may).Reachable init (createPod (name ++ "-celld") i w) := by
  rcases kubeMove_createPod (name ++ "-celld") i w with heq | hmove
  · rw [heq]
    exact hr
  · exact hr.step (.others hmove)

theorem reachable_observe (hr : (fleetSystem name may).Reachable init w) :
    (fleetSystem name may).Reachable init (observe (name ++ "-celld") w) := by
  rcases kubeMove_observe (name ++ "-celld") w with heq | hmove
  · rw [heq]
    exact hr
  · exact hr.step (.others hmove)

end runs

/-- Nothing exists yet. -/
def emptyWorld : World := ⟨Cluster.empty, { spec := { containers := [] } }⟩

end CelldOperator
