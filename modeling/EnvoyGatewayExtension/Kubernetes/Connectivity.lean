import EnvoyGatewayExtension.Kubernetes.NetworkPolicies
import Mathlib.Data.Set.Basic

namespace EnvoyGatewayExtension.Kubernetes

section Admitted

variable {α : Type} {P A : Set α} {governs allows : α → Prop}

end Admitted

section Connections

variable (nsLabels : String → Labels) (ps : Set NetworkPolicy) (src dst : Pod)
  (protocol : Protocol) (port : Int32)

end Connections

end EnvoyGatewayExtension.Kubernetes
