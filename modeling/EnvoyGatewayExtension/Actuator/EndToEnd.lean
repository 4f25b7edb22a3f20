import EnvoyGatewayExtension.Actuator.Declarative
import EnvoyGatewayExtension.Actuator.TLSMaterial
import EnvoyGatewayExtension.EnvoyGateway.References
import EnvoyGatewayExtension.NetpolController.Permissions
import EnvoyGatewayExtension.NetpolController.Progress

namespace EnvoyGatewayExtension.Actuator

open Effects Kubernetes EnvoyGateway Stores World Relation

variable {lib : Libraries} {generate : Generator} {ex : Invocation} {cluster : Cluster}
  {shoot : Shoot} {w w' w'' u : World} {config : Config} {tls : TLSBundle} {resources : Resources}

section Shoot

end Shoot

section Access

end Access

section Controller

open NetpolController

end Controller

section Feature

end Feature

end EnvoyGatewayExtension.Actuator
