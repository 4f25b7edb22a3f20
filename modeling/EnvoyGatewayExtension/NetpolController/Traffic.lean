import EnvoyGatewayExtension.EnvoyGateway.XdsHop
import EnvoyGatewayExtension.Kubernetes.Connectivity
import EnvoyGatewayExtension.NetpolController.Progress

namespace EnvoyGatewayExtension.NetpolController

open Effects Kubernetes EnvoyGateway Stores

variable {s : State} {gateways : Gateways} {nss : Namespaces} {src dst pod : Pod}
  {protocol : Protocol} {port : Int32}

section Hops

def direction : Hop → PolicyType
  | .proxyIngress => .ingress
  | .proxyEgress => .egress

end Hops

section Rest

variable {ps : Set NetworkPolicy}

end Rest

end EnvoyGatewayExtension.NetpolController
