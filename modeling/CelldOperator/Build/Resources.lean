/-
  CelldOperator.Build.Resources

  The other child objects of a WorkerApp (`internal/controller/fleet_resources.go`):
  service account, services, network policy, disruption budget, the three kinds
  of route, the mesh policy and the autoscaler.
-/
import CelldOperator.Build.PodTemplate

namespace CelldOperator

def azureClientIDAnnotation : String := "azure.workload.identity/client-id"

def roleArnAnnotation : String := "eks.amazonaws.com/role-arn"

def kedaPausedAnnotation : String := "autoscaling.keda.sh/paused"

/-- A child object as the builders make it: named, labelled, nothing else set. -/
def newChild (app : WorkerApp) (k : Kind) (annotations : StrMap) (spec : Spec k) : Obj k where
  metadata := { name := childName app k, labels := fleetLabels app, annotations := annotations }
  spec := spec
  status := default

/-! ## §1. Foundation objects. -/

/-- `buildServiceAccount`. -/
def buildServiceAccount (app : WorkerApp) : Obj .serviceAccount :=
  let creds := app.spec.bucket.credentialsFrom
  newChild app .serviceAccount
    (StrMap.ofList (
      (if creds.iamRole ≠ "" ∧ creds.iamRole ≠ iamRoleAuto then
        [( roleArnAnnotation, creds.iamRole)] else []) ++
      (if creds.azureClientID ≠ "" then
        [( azureClientIDAnnotation, creds.azureClientID)] else [])))
    ()

/-- `buildInternalService`: headless, and publishing nodes that are not ready. -/
def buildInternalService (app : WorkerApp) : Obj .internalService :=
  newChild app .internalService ∅
    ({ clusterIP := "None"
       selector := selectorLabels app
       publishNotReadyAddresses := true
       ports := [{ name := "internal", port := internalPort, targetPort := internalPort }] } :
      ServiceSpec)

/-- `buildPublicService`. -/
def buildPublicService (app : WorkerApp) : Obj .publicService :=
  newChild app .publicService app.spec.service.annotations
    ({ type := if app.spec.service.type = .unset then .clusterIP else app.spec.service.type
       selector := selectorLabels app
       ports := [{ name := "public", port := publicPort, targetPort := publicPort }] } :
      ServiceSpec)

/-- `buildNetworkPolicy`: only the fleet and the operator reach the internal listener. -/
def buildNetworkPolicy (app : WorkerApp) (operatorNamespace : String) : Obj .networkPolicy :=
  newChild app .networkPolicy ∅
    ({ podSelector := selectorLabels app
       policyTypes := ["Ingress"]
       ingress :=
        [ { protocol := "TCP", port := internalPort
            peers :=
              [ { podSelector := selectorLabels app },
                { podSelector := StrMap.ofList [("control-plane", "controller-manager"),
                    ("app.kubernetes.io/name", "celld-operator")]
                  namespaceSelector := some (StrMap.ofList
                    [("kubernetes.io/metadata.name", operatorNamespace)]) } ] },
          { protocol := "TCP", port := publicPort, peers := [] } ] } : NetworkPolicySpec)

/-- `buildPDB`. -/
def buildPDB (app : WorkerApp) : Obj .podDisruptionBudget :=
  newChild app .podDisruptionBudget ∅
    ({ maxUnavailable := 1, selector := selectorLabels app } : PodDisruptionBudgetSpec)

/-! ## §2. Routes. -/

/-- `buildHTTPRoute`. -/
def buildHTTPRoute (app : WorkerApp) (gatewayName gatewayNamespace : String) : Obj .httpRoute :=
  newChild app .httpRoute ∅
    ({ parentName := gatewayName
       parentNamespace := gatewayNamespace
       hostnames := app.spec.hostnames
       rules := [{ backendName := fleetName app
                   backendPort := publicPort
                   retry := some { codes := [503], attempts := 2 }
                   requestTimeout := if app.spec.webSockets then some "0s" else none }] } :
      HTTPRouteSpec)

/-- `buildIngress`. -/
def buildIngress (app : WorkerApp) (className clusterIssuer : String) : Obj .ingress :=
  newChild app .ingress
    (StrMap.ofList (
      [("nginx.ingress.kubernetes.io/proxy-next-upstream", "error timeout http_503"),
       ("nginx.ingress.kubernetes.io/proxy-next-upstream-tries", "3")] ++
      (if app.spec.webSockets then
        [("nginx.ingress.kubernetes.io/proxy-read-timeout", "3600"),
         ("nginx.ingress.kubernetes.io/proxy-send-timeout", "3600")] else []) ++
      (if clusterIssuer ≠ "" then [("cert-manager.io/cluster-issuer", clusterIssuer)] else [])))
    ({ ingressClassName := if className ≠ "" then some className else none
       rules := app.spec.hostnames.map (fun host =>
        { host := host, path := "/", pathType := "Prefix"
          serviceName := fleetName app, servicePort := publicPort })
       tls := if clusterIssuer ≠ "" then
        [{ hosts := app.spec.hostnames, secretName := fleetName app ++ "-tls" }] else [] } :
      IngressSpec)

/-- `buildVirtualService`. -/
def buildVirtualService (app : WorkerApp) (gateways : List String) : Obj .virtualService :=
  newChild app .virtualService ∅
    (Json.obj
      [ ("gateways", .arr (gateways.map .str)),
        ("hosts", .arr (app.spec.hostnames.map .str)),
        ("http", .arr [ .obj
          [ ("retries", .obj [("attempts", .int 2),
              ("retryOn", .str "connect-failure,refused-stream,503")]),
            ("route", .arr [ .obj [("destination", .obj
              [ ("host", .str (fleetName app ++ "." ++ app.namespace_ ++ ".svc." ++
                  clusterDomain app)),
                ("port", .obj [("number", .int publicPort)]) ])] ]) ] ]) ])

/-! ## §3. Mesh policy. -/

/-- `buildAuthorizationPolicy`. -/
def buildAuthorizationPolicy (app : WorkerApp) (operatorPrincipal : String) :
    Obj .authorizationPolicy :=
  let fleetPrincipal := "cluster.local/ns/" ++ app.namespace_ ++ "/sa/" ++ fleetName app
  let ports (port : Nat) : Json :=
    .arr [.obj [("operation", .obj [("ports", .arr [.str (decimal port)])])]]
  newChild app .authorizationPolicy ∅
    (Json.obj
      [ ("action", .str "ALLOW"),
        ("rules", .arr
          [ .obj [("from", .arr [.obj [("source", .obj
              [("principals", .arr [.str fleetPrincipal, .str operatorPrincipal])])]]),
              ("to", ports internalPort)],
            .obj [("to", ports publicPort)] ]),
        ("selector", .obj [("matchLabels", .obj
          [("celld-operator.io/workerapp", .str app.name)])]) ])

/-! ## §4. Autoscaler. -/

/-- `fmt.Sprintf("%.2f", float64(n)/100)`. -/
def hundredths (n : Int) : String :=
  (if n < 0 then "-" else "") ++ decimal (n.natAbs / 100) ++ "." ++
    (if n.natAbs % 100 < 10 then "0" else "") ++ decimal (n.natAbs % 100)

/-- `promTrigger`. -/
def promTrigger (serverAddress query threshold : String) : Json :=
  .obj
    [ ("metadata", .obj
        [ ("ignoreNullValues", .str "false"), ("query", .str query),
          ("serverAddress", .str serverAddress), ("threshold", .str threshold) ]),
      ("metricType", .str "Value"), ("type", .str "prometheus") ]

/-- The series selector of one fleet. -/
def fleetSeries (lib : Lib) (app : WorkerApp) (metric : String) : String :=
  metric ++ "\x7bnamespace=" ++ lib.quote app.namespace_ ++ ",workerapp=" ++ lib.quote app.name ++
    "\x7d"

/-- A scaling query counts only while the fleet's census is complete and fresh. -/
def guardedQuery (lib : Lib) (app : WorkerApp) (query : String) : String :=
  "(" ++ query ++ ") and on() (min(" ++ fleetSeries lib app "celld_fleet_complete" ++
    ") == 1) and on() (time() - min(" ++
    fleetSeries lib app "celld_fleet_sample_timestamp_seconds" ++ ") < 60)"

/-- The triggers of the ScaledObject. -/
def scaleTriggers (lib : Lib) (app : WorkerApp) (autoscaling : AutoscalingSpec)
    (prometheusURL : String) : List Json :=
  let trigger (query threshold : String) :=
    promTrigger prometheusURL (guardedQuery lib app query) threshold
  [ trigger ("avg(" ++ fleetSeries lib app "celld_resident_cell_utilization" ++ ")")
      (hundredths (autoscaling.targets.residentCellUtilization.getD 70)),
    trigger ("max(" ++ fleetSeries lib app "celld_shedding" ++ ")") "0.5" ] ++
  (match autoscaling.targets.p95LatencyMs with
    | some ms =>
      [ trigger ("histogram_quantile(0.95, sum(rate(istio_request_duration_milliseconds_bucket" ++
          "\x7bdestination_service_name=" ++ lib.quote (fleetName app) ++
          ",destination_service_namespace=" ++ lib.quote app.namespace_ ++
          ",reporter=\"destination\"\x7d[5m])) by (le))") (decimalInt ms) ]
    | none => [])

/-- `buildScaledObject`; it is called with autoscaling enabled only. -/
def buildScaledObject (lib : Lib) (app : WorkerApp) (prometheusURL : String) (paused : Bool) :
    Obj .scaledObject :=
  let autoscaling := app.spec.autoscaling.getD {}
  newChild app .scaledObject
    (StrMap.ofList [( kedaPausedAnnotation, if paused then "true" else "false")])
    (Json.obj
      [ ("advanced", .obj [("horizontalPodAutoscalerConfig", .obj [("behavior", .obj
          [("scaleDown", .obj
            [ ("policies", .arr [.obj [("periodSeconds", .int 300), ("type", .str "Pods"),
                ("value", .int 1)]]),
              ("stabilizationWindowSeconds",
                .int (if app.spec.webSockets then 1800 else 600)) ])])])]),
        ("maxReplicaCount", .int (if autoscaling.maxReplicas = 0 then 10
          else autoscaling.maxReplicas)),
        ("minReplicaCount", .int (if autoscaling.minReplicas = 0 then 2
          else autoscaling.minReplicas)),
        ("scaleTargetRef", .obj [("apiVersion", .str "apps/v1"), ("kind", .str "StatefulSet"),
          ("name", .str (fleetName app))]),
        ("triggers", .arr (scaleTriggers lib app autoscaling prometheusURL)) ])

/-- The pause flag of a built ScaledObject is what the caller asked for. -/
theorem buildScaledObject_paused (lib : Lib) (app : WorkerApp) (url : String) (paused : Bool) :
    (buildScaledObject lib app url paused).metadata.annotations.get kedaPausedAnnotation =
      if paused then "true" else "false" :=
  StrMap.get_insert_self ∅ kedaPausedAnnotation _

end CelldOperator
