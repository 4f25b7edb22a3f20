import EnvoyGatewayExtension.Effects.Polling
import EnvoyGatewayExtension.EnvoyGateway.Constants
import EnvoyGatewayExtension.Kubernetes.Errors

namespace EnvoyGatewayExtension.Actuator

open Effects Kubernetes EnvoyGateway

variable {I : Interface}

structure Shoot where
  deletionTimestamp : Bool := false
  hibernationEnabled : Bool := false
  kubernetesVersion : String := ""
  deriving DecidableEq, Repr

def gatewayExistsFinalizer : String := "gateway-exists-finalizer.gateway.networking.k8s.io"

structure GatewayLister (I : Interface) where
  listGateways : Prog I GoError (List String)
  clearGatewayClassFinalizer : Prog I GoError Unit
  deleteGateways : Prog I GoError Unit
  waitUntilGatewaysDeleted : Prog I GoError Unit

structure ShootConnection (I : Interface) where
  newClientForShoot : Prog I GoError Unit
  listGateways : Prog I GoError (List Gateway)
  deleteGateway : NamespacedName → Prog I GoError Unit
  getGatewayClass : String → Prog I GoError Unit
  removeFinalizers : String → String → Prog I GoError Unit

def gatewayCRDAbsent (err : GoError) : Bool := err.isNoMatch || err.isNotFound

def shootClient (newClientForShoot : Prog I GoError Unit) : Prog I GoError Unit :=
  wrapped "failed to build shoot client" newClientForShoot

section Polls

variable (newClientForShoot : Prog I GoError Unit) (list : Prog I GoError (List Gateway))

def fetchGatewayList : Prog I GoError (List Gateway) := do
  shootClient newClientForShoot
  match ← list.attempt with
  | .error err =>
    if gatewayCRDAbsent err then pure [] else .fail (.wrap "failed to list Gateways in shoot" err)
  | .ok items => pure items

def gatewaysDeleted (_lastErr : Option GoError) : Prog I GoError (Option GoError × Bool) := do
  match ← (fetchGatewayList newClientForShoot list).attempt with
  | .error err => pure (some err, false)
  | .ok items => pure (none, items.isEmpty)

def waitResult : Option GoError × Bool → Except GoError Unit
  | (_, true) => .ok ()
  | (some lastErr, false) =>
    .error (.wrap "shoot API server unreachable while waiting for Gateways to be deleted" lastErr)
  | (none, false) => .error .gatewaysStillDeleting

def waitUntilGatewaysDeleted (more : ℕ) : Prog I GoError Unit := do
  Prog.ofExcept
    (waitResult (← pollUntilContextCancel (gatewaysDeleted newClientForShoot list) more none))

end Polls

section Lister

variable (conn : ShootConnection I)

def listGateways : Prog I GoError (List String) := do
  let items ← fetchGatewayList conn.newClientForShoot conn.listGateways
  pure (items.map fun g => g.namespace ++ "/" ++ g.name)

def clearGatewayClassFinalizer : Prog I GoError Unit := do
  shootClient conn.newClientForShoot
  match ← (conn.getGatewayClass gatewayClassName).attempt with
  | .error err =>
    if err.isNotFound then pure ()
    else .fail (.wrap ("failed to get GatewayClass " ++ quoted gatewayClassName ++ " in shoot") err)
  | .ok () =>
    wrapped
      ("failed to clear " ++ quoted gatewayExistsFinalizer ++ " finalizer from GatewayClass " ++
      quoted gatewayClassName) (conn.removeFinalizers gatewayClassName gatewayExistsFinalizer)

def deleteGateways : Prog I GoError Unit := do
  shootClient conn.newClientForShoot
  let items ← wrapped "failed to list Gateways in shoot" conn.listGateways
  items.forM fun gw =>
    if gw.deletionTimestamp then pure ()
    else wrapped ("failed to delete Gateway " ++ gw.namespace ++ "/" ++ gw.name ++ " in shoot")
      (ignoreNotFound (conn.deleteGateway gw.key))

def realGatewayLister (more : ℕ) : GatewayLister I where
  listGateways := listGateways conn
  clearGatewayClassFinalizer := clearGatewayClassFinalizer conn
  deleteGateways := deleteGateways conn
  waitUntilGatewaysDeleted := waitUntilGatewaysDeleted conn.newClientForShoot conn.listGateways more

end Lister

section Guard

variable (lister : GatewayLister I)

def finishDrain : Except GoError Unit → Prog I GoError Unit
  | .error err =>
    if err.isStillDeleting then
      .fail
        (.wrap "waiting for user Gateways to drain from shoot before deleting envoy-gateway" err)
    else do
      let _ ← lister.clearGatewayClassFinalizer.attempt
      pure ()
  | .ok () => do
    let _ ← lister.clearGatewayClassFinalizer.attempt
    pure ()

/-- Only the outcome of the wait decides; the other three are logged and passed over. -/
def drainUserGatewaysForShootDeletion : Prog I GoError Unit := do
  let _ ← lister.listGateways.attempt
  let _ ← lister.deleteGateways.attempt
  finishDrain lister (← lister.waitUntilGatewaysDeleted.attempt)

def checkNoUserGateways (shoot : Option Shoot) : Prog I GoError Unit :=
  if shoot.any (·.deletionTimestamp) then drainUserGatewaysForShootDeletion lister
  else do
    let names ← wrapped "failed to list Gateway resources in shoot before deleting extension"
      lister.listGateways
    if names.isEmpty then pure () else .fail (.gatewaysInUse names)

end Guard

end EnvoyGatewayExtension.Actuator
