import EnvoyGatewayExtension.Stores.Informer
import Mathlib.Data.Finmap

namespace EnvoyGatewayExtension.Kubernetes

abbrev Labels : Type := Finmap (fun _ : String => String)

def Labels.ofList (l : List (String × String)) : Labels :=
  (l.map (fun e => (⟨e.1, e.2⟩ : Sigma (fun _ : String => String)))).toFinmap

def Labels.value (l : Labels) (key : String) : String := (l.lookup key).getD ""

structure NamespacedName where
  «namespace» : String
  name : String
  deriving DecidableEq, Repr

inductive SelectorOperator
  | isIn
  | notIn
  | «exists»
  | doesNotExist
  deriving DecidableEq, Repr

structure Requirement where
  key : String
  operator : SelectorOperator
  values : List String
  deriving DecidableEq, Repr

structure LabelSelector where
  matchLabels : Labels
  matchExpressions : List Requirement := []
  deriving DecidableEq

inductive Protocol
  | tcp
  | udp
  | sctp
  deriving DecidableEq, Repr

inductive IntOrString
  | int (n : Int32)
  | str (s : String)
  deriving DecidableEq, Repr

structure NetworkPolicyPort where
  protocol : Option Protocol
  port : Option IntOrString
  deriving DecidableEq, Repr

structure NetworkPolicyPeer where
  podSelector : Option LabelSelector := none
  namespaceSelector : Option LabelSelector := none
  deriving DecidableEq

structure NetworkPolicyRule where
  peers : List NetworkPolicyPeer := []
  ports : List NetworkPolicyPort
  deriving DecidableEq

inductive PolicyType
  | ingress
  | egress
  deriving DecidableEq, Repr

structure NetworkPolicySpec where
  podSelector : LabelSelector
  policyTypes : List PolicyType
  ingress : List NetworkPolicyRule := []
  egress : List NetworkPolicyRule := []
  deriving DecidableEq

structure NetworkPolicy where
  «namespace» : String
  name : String
  labels : Labels
  spec : NetworkPolicySpec
  deriving DecidableEq

def NetworkPolicy.key (np : NetworkPolicy) : NamespacedName := ⟨np.namespace, np.name⟩

structure Gateway where
  «namespace» : String
  name : String
  gatewayClassName : String
  deletionTimestamp : Bool := false
  deriving DecidableEq, Repr

def Gateway.key (gw : Gateway) : NamespacedName := ⟨gw.namespace, gw.name⟩

end EnvoyGatewayExtension.Kubernetes
