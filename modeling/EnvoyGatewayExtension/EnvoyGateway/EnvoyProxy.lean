import EnvoyGatewayExtension.EnvoyGateway.Config
import EnvoyGatewayExtension.Text.Indentation

namespace EnvoyGatewayExtension.EnvoyGateway

open Kubernetes Text

def marshalResources (lib : Libraries) (r : ResourceRequirements) : String :=
  match lib.marshalResources r with
  | .error _ => ""
  | .ok out => out

def trimRightNewlines (s : List Char) : List Char := (s.reverse.dropWhile (· = '\n')).reverse

def indentYAML (s : String) (n : ℕ) (header : String) : String :=
  let pad := String.ofList (List.replicate n ' ')
  let lines := ((trimRightNewlines s.toList).splitOn '\n').filter (· ≠ [])
  pad ++ header ++ String.join (lines.map fun line => pad ++ "  " ++ String.ofList line ++ "\n")

section Defaults

variable (lib : Libraries) (config : Config)

def headerLines : List String :=
  ["apiVersion: gateway.envoyproxy.io/v1alpha1", "kind: EnvoyProxy", "metadata:",
    "  name: " ++ envoyProxyDefaultsName, "  namespace: " ++ «namespace», "  labels:",
    "    " ++ labelName ++ ": " ++ deploymentName,
    "    " ++ labelInstance ++ ": " ++ deploymentName,
    "    " ++ labelManagedBy ++ ": " ++ labelManagedByValue, "spec:"]

def loggingLines : List String :=
  if config.dataPlaneLogLevel ≠ "" then
    ["  logging:", "    level:", "      default: " ++ config.dataPlaneLogLevel]
  else []

def telemetryLines : List String :=
  if config.envoyProxyDefaults.any (·.accessLogging) then
    ["  telemetry:", "    accessLog:", "      settings:", "      - format:", "          type: Text"]
  else []

def providerLines : List String :=
  ["  provider:", "    type: Kubernetes", "    kubernetes:", "      envoyDeployment:"]

def replicasLines : List String :=
  match config.dataPlaneReplicas with
  | some replicas => ["        replicas: " ++ toString replicas.toInt]
  | none => []

def podLines : List String :=
  ["        pod:", "          labels:", "            networking.gardener.cloud/to-dns: allowed",
    "            networking.gardener.cloud/to-public-networks: allowed"]

def envoyProxyDefaultsYAML : String :=
  unlines headerLines ++ unlines (loggingLines config) ++ unlines (telemetryLines config) ++
  unlines providerLines ++ unlines (replicasLines config) ++
  (match config.envoyProxyDefaults.bind (·.resources) with
  | some r => indentYAML (marshalResources lib r) 8 "container:\n"
  | none => "") ++
  unlines podLines

end Defaults

def absentTerms (path : String) : List String → List String
  | [] => []
  | p :: parts => ("!has(" ++ path ++ "." ++ p ++ ")") :: absentTerms (path ++ "." ++ p) parts

def fieldAbsentExpression (workload field : String) : String :=
  let parts := (field.toList.splitOn '.').map String.ofList
  " || ".intercalate
    (("variables." ++ workload ++ " == null") :: absentTerms ("variables." ++ workload) parts)

def guardedFields : List String :=
  ["patch", "initContainers", "pod.volumes", "container.volumeMounts", "pod.securityContext",
    "container.securityContext"]

def guardedWorkloads : List (String × String) :=
  [("deploy", "envoyDeployment"), ("daemonset", "envoyDaemonSet")]

def guardLabels : Labels :=
  .ofList [(labelManagedBy, labelManagedByValue), (labelName, envoyProxyManagedByValue)]

def admissionRegistrationGroup : String := "admissionregistration.k8s.io"

def envoyProxyGuard : Manifest × Manifest :=
  let validations := guardedFields.flatMap fun field => guardedWorkloads.map fun workload =>
    { expression := fieldAbsentExpression workload.1 field
      reason := "Forbidden"
      message := workload.2 ++ "." ++ field ++ " is not permitted on EnvoyProxy" }
  ({ key := ⟨admissionRegistrationGroup, "ValidatingAdmissionPolicy", "", envoyProxyGuardPolicyName⟩
     labels := guardLabels
     body := .validatingAdmissionPolicy "Fail"
      [⟨["CREATE", "UPDATE"], [apiGroupEnvoyGateway], ["v1alpha1"], ["envoyproxies"]⟩]
      [⟨"k8s", "has(object.spec) && has(object.spec.provider) && " ++
          "has(object.spec.provider.kubernetes) ? object.spec.provider.kubernetes : null"⟩,
        ⟨"deploy", "variables.k8s != null && has(variables.k8s.envoyDeployment) ? " ++
          "variables.k8s.envoyDeployment : null"⟩,
        ⟨"daemonset", "variables.k8s != null && has(variables.k8s.envoyDaemonSet) ? " ++
          "variables.k8s.envoyDaemonSet : null"⟩]
      validations },
   { key :=
     ⟨admissionRegistrationGroup, "ValidatingAdmissionPolicyBinding", "", envoyProxyGuardPolicyName⟩
     labels := guardLabels
     body := .validatingAdmissionPolicyBinding envoyProxyGuardPolicyName ["Deny"]
      { matchLabels := .ofList []
        matchExpressions := [⟨metadataNameLabel, .notIn, [«namespace»]⟩] } })

end EnvoyGatewayExtension.EnvoyGateway
