import EnvoyGatewayExtension.EnvoyGateway.Policies
import EnvoyGatewayExtension.Kubernetes.Errors

namespace EnvoyGatewayExtension.NetpolController

open Effects Kubernetes EnvoyGateway

inductive ClientCall
  | listGateways (ns : String)
  | getPolicy (key : NamespacedName)
  | createPolicy (np : NetworkPolicy)
  | updatePolicy (np : NetworkPolicy)
  | deletePolicy (key : NamespacedName)

@[reducible] def ClientCall.Result : ClientCall → Type
  | listGateways _ => List Gateway
  | getPolicy _ => NetworkPolicy
  | createPolicy _ => Unit
  | updatePolicy _ => Unit
  | deletePolicy _ => Unit

abbrev shootClient : Interface where
  Call := ClientCall
  Result := ClientCall.Result

abbrev Client (α : Type) : Type := Prog shootClient GoError α

def send (c : ClientCall) : Client c.Result := Prog.request (I := shootClient) c

def isManaged (gw : Gateway) : Bool := gw.gatewayClassName == gatewayClassName

def namespaceHasManagedGateway (ns : String) : Client Bool := do
  let gateways ← wrapped ("failed to list Gateways in namespace " ++ quoted ns)
    (send (.listGateways ns))
  pure (gateways.any isManaged)

def apply (desired : NetworkPolicy) : Client Unit :=
  wrapped ("failed to apply NetworkPolicy " ++ desired.namespace ++ "/" ++ desired.name)
    (createOrUpdate (send (.getPolicy desired.key))
      (fun np => send (.createPolicy np))
      (fun np => send (.updatePolicy np))
      { «namespace» := desired.namespace, name := desired.name, labels := .ofList [],
        spec := { podSelector := { matchLabels := .ofList [] }, policyTypes := [] } }
      (fun obj => { obj with labels := desired.labels, spec := desired.spec }))

def pruneNamespace (gatewayNs : String) : Client Unit :=
  [dataPlaneNetworkPolicyName, proxyEgressNetworkPolicyName].forM fun name =>
    wrapped ("failed to delete NetworkPolicy " ++ gatewayNs ++ "/" ++ name)
      (ignoreNotFound (send (.deletePolicy ⟨gatewayNs, name⟩)))

def reconcile (gatewayNs : String) : Client Unit := do
  let hasGateway ← namespaceHasManagedGateway gatewayNs
  if !hasGateway then
    pruneNamespace gatewayNs
  else
    apply (dataPlaneProxyIngressPolicy gatewayNs)
    apply (proxyEgressPolicy gatewayNs)

end EnvoyGatewayExtension.NetpolController
