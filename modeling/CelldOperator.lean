import CelldOperator.Admission.Data
import CelldOperator.Admission.Status
import CelldOperator.Children.Unstructured
import CelldOperator.Foundation.Annotations
import CelldOperator.Foundation.Isolation
import CelldOperator.Hammer.Verdict
import CelldOperator.Keda.Handshake
import CelldOperator.Keda.Load
import CelldOperator.Keda.Queries
import CelldOperator.Pass.PolledPods
import CelldOperator.Pass.Polls
import CelldOperator.Pass.Privileges
import CelldOperator.Rollout.ConfigHash
import CelldOperator.Rollout.DurabilityFloor
import CelldOperator.Rollout.Guards
import CelldOperator.Rollout.HealthyRecreate
import CelldOperator.Rollout.Stuck
import CelldOperator.Route.Latch
import CelldOperator.Runtime.Boundaries
import CelldOperator.Runtime.ImageTag
import CelldOperator.State.Fetch
import CelldOperator.Status.WakeUp
import CelldOperator.Tracker.Guarantees
