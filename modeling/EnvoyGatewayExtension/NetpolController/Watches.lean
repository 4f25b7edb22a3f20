import EnvoyGatewayExtension.NetpolController.Reconciler

namespace EnvoyGatewayExtension.NetpolController

open Kubernetes EnvoyGateway Stores

/-- A reconcile request carries a namespace and an empty name. -/
abbrev Request : Type := String

def requestFor (gatewayNamespace : String) : Request := gatewayNamespace

def mapGatewayToRequests (gw : Gateway) : List Request := [requestFor gw.namespace]

def mapManagedPolicyToRequests (np : NetworkPolicy) : List Request :=
  if np.labels.value labelHop = Hop.proxyIngress.label ∨
    np.labels.value labelHop = Hop.proxyEgress.label then
    [requestFor np.namespace]
  else
    []

def managedGatewayPredicate : Event Gateway → Bool
  | .create gw => isManaged gw
  | .update _ new => isManaged new
  | .delete gw => isManaged gw

def isManagedPolicy (np : NetworkPolicy) : Bool :=
  np.labels.value labelManagedBy == labelManagedByValue && np.labels.value labelHop != ""

def managedPolicyPredicate : Event NetworkPolicy → Bool
  | .create np => isManagedPolicy np
  | .update _ new => isManagedPolicy new
  | .delete np => isManagedPolicy np

/-- `handler.TypedEnqueueRequestsFromMapFunc` maps the old and the new object of an update. -/
def gatewayRequests (e : Event Gateway) : List Request :=
  if managedGatewayPredicate e then e.objects.flatMap mapGatewayToRequests else []

def policyRequests (e : Event NetworkPolicy) : List Request :=
  if managedPolicyPredicate e then e.objects.flatMap mapManagedPolicyToRequests else []

end EnvoyGatewayExtension.NetpolController
