import EnvoyGatewayExtension.Actuator.ErrorReasons
import EnvoyGatewayExtension.Effects.Counting

namespace EnvoyGatewayExtension.Actuator

open Effects Kubernetes EnvoyGateway Prog

section Metered

inductive Metric
  | actuatorOperationTotal (cluster operation : String)
  | actuatorOperationErrorsTotal (cluster operation reason : String)
  | deleteGuardRejectionsTotal (cluster : String)
  deriving DecidableEq, Repr

def Metric.cluster : Metric → String
  | actuatorOperationTotal cluster _ => cluster
  | actuatorOperationErrorsTotal cluster _ _ => cluster
  | deleteGuardRejectionsTotal cluster => cluster

abbrev Metered (α : Type) : Type := Prog (counting clusters Metric) GoError α

def recordOperation (cluster op : String) (err : Option GoError) : Metered Unit := do
  count (.actuatorOperationTotal cluster op)
  match err with
  | none => pure ()
  | some err => count (.actuatorOperationErrorsTotal cluster op (classifyError (some err)))

/-- The named result as the deferred call sees it: a panic has left it nil. -/
def retErr : Except GoError Unit → Option GoError
  | .ok () => none
  | .error err => if err = nilShoot then none else some err

def Operation.label : Operation → String
  | .reconcile => "reconcile"
  | .restore => "restore"
  | .delete => "delete"
  | .forceDelete => "force_delete"
  | .migrate => "migrate"

def recorded (cluster : String) (op : Operation) (p : Metered Unit) : Metered Unit :=
  p.deferred fun out => recordOperation cluster op.label (retErr out)

variable (lib : Libraries) (ex : Invocation)

def reconcileMetered : Metered Unit :=
  recorded ex.clusterName .reconcile (reconcile lib ex).uncounted

def restoreMetered : Metered Unit := recorded ex.clusterName .restore (reconcileMetered lib ex)

def checkNoUserGatewaysMetered (shoot : Option Shoot) : Metered Unit :=
  if shoot.any (·.deletionTimestamp) then (drainUserGatewaysForShootDeletion (lister ex)).uncounted
  else do
    let names ← (wrapped "failed to list Gateway resources in shoot before deleting extension"
      (lister ex).listGateways).uncounted
    if names.isEmpty then pure ()
    else do
      count (.deleteGuardRejectionsTotal ex.clusterName)
      .fail (.gatewaysInUse names)

def deleteMetered : Metered Unit := recorded ex.clusterName .delete do
  let cluster ← (wrapped "failed to get cluster" (send .getCluster)).uncounted
  checkNoUserGatewaysMetered ex cluster.shoot
  (removeExtension ex cluster).uncounted

def forceDeleteMetered : Metered Unit :=
  recorded ex.clusterName .forceDelete (forceDelete ex).uncounted

def migrateMetered : Metered Unit := recorded ex.clusterName .migrate (migrate ex).uncounted

def Operation.metered : Operation → Metered Unit
  | .reconcile => reconcileMetered lib ex
  | .restore => restoreMetered lib ex
  | .delete => deleteMetered ex
  | .forceDelete => forceDeleteMetered ex
  | .migrate => migrateMetered ex

variable {lib ex}

lemma plain_recordOperation (cluster op : String) (err : Option GoError) :
    (recordOperation cluster op err).plain = .ret () := by
  cases err <;> rfl

lemma plain_recorded (cluster : String) (op : Operation) (p : Metered Unit) :
    (recorded cluster op p).plain = p.plain :=
  plain_deferred p fun _ => plain_recordOperation _ _ _

lemma plain_checkNoUserGateways (shoot : Option Shoot) :
    (checkNoUserGatewaysMetered ex shoot).plain = checkNoUserGateways (lister ex) shoot := by
  rw [checkNoUserGatewaysMetered, checkNoUserGateways]
  split_ifs
  · exact plain_uncounted _
  · simp only [plain_bind, plain_uncounted]
    refine congrArg (_ >>= ·) (funext fun names => ?_)
    split_ifs <;> rfl

lemma Operation.plain_metered (op : Operation) : (op.metered lib ex).plain = op.program lib ex := by
  cases op with
  | reconcile => exact (plain_recorded _ _ _).trans (plain_uncounted _)
  | restore => exact (plain_recorded _ _ _).trans ((plain_recorded _ _ _).trans (plain_uncounted _))
  | delete =>
    refine (plain_recorded _ _ _).trans ?_
    simp only [plain_bind, plain_uncounted, plain_checkNoUserGateways]
    rfl
  | forceDelete => exact (plain_recorded _ _ _).trans (plain_uncounted _)
  | migrate => exact (plain_recorded _ _ _).trans (plain_uncounted _)

end Metered

section Foreign

/-- An error of another package: it holds no `gatewaysInUseError`. -/
def Foreign (err : GoError) : Prop := err.isGatewaysInUse = false

structure ForeignErrors (lib : Libraries) : Prop where
  decode : ∀ raw err, lib.decode raw = .error err → Foreign err
  findImage : ∀ name err, lib.findImage name = .error err → Foreign err
  injectGenericKubeconfig : ∀ secret access pod err, lib.injectGenericKubeconfig secret access
    pod = .error err → Foreign err

lemma foreign_of_stillDeleting {err : GoError} (h : err.isStillDeleting = true) : Foreign err := by
  induction err with
  | wrap msg err ih => exact ih h
  | gatewaysStillDeleting => rfl
  | _ => cases h

variable {α : Type} {lib : Libraries} {ex : Invocation} {p : Op α}

lemma relays_wrapped {msg : String} (hp : p.Relays Foreign) : (wrapped msg p).Relays Foreign :=
  relays_mapFault hp fun _ h => h

lemma relays_send (c : Call) : (send c).Relays Foreign := @relays_request clusters GoError Foreign c

lemma relays_sent {msg : String} (c : Call) : (wrapped msg (send c)).Relays Foreign :=
  relays_wrapped (relays_send c)

lemma relays_ignoreNotFound {msg : String} {q : Op Unit} (hq : q.Relays Foreign) :
    (wrapped msg (ignoreNotFound q)).Relays Foreign := by
  refine relays_wrapped (relays_attempt_bind hq (fun _ => trivial) fun err herr => ?_)
  dsimp only
  split_ifs
  · trivial
  · exact herr

lemma relays_teardown : (teardown ex.clusterName).Relays Foreign :=
  relays_bind (relays_ignoreNotFound (relays_send _)) fun _ => relays_ignoreNotFound (relays_send _)

lemma relays_pruneDataPlanePolicies : pruneDataPlanePolicies.Relays Foreign := by
  refine relays_bind (relays_sent _) fun _ => relays_bind (relays_sent _) fun items => ?_
  exact relays_forM items fun np => relays_ignoreNotFound (relays_send _)

lemma relays_deleteManagedResource : deleteManagedResource.Relays Foreign :=
  relays_bind (relays_sent _) fun _ => relays_sent _

lemma relays_deleteKeepingObjects : deleteKeepingObjects.Relays Foreign :=
  relays_bind (relays_ignoreNotFound (relays_send _)) fun _ => relays_deleteManagedResource

lemma relays_deleteSecrets : deleteSecrets.Relays Foreign :=
  relays_bind (relays_sent _) fun _ => relays_send _

lemma relays_listGateways : (lister ex).listGateways.Relays Foreign := by
  refine relays_bind
    (relays_bind (relays_sent _) fun _ => relays_attempt_bind (relays_send _) (fun _ => trivial) ?_)
    fun _ => trivial
  intro err herr
  dsimp only
  split_ifs
  · trivial
  · exact herr

lemma relays_drain : (drainUserGatewaysForShootDeletion (lister ex)).Relays Foreign := by
  refine relays_of_attempt fun _ => relays_of_attempt fun _ => relays_of_attempt fun x => ?_
  cases x with
  | ok _ => exact relays_of_attempt fun _ => trivial
  | error err =>
    rw [finishDrain]
    split_ifs with hstill
    · exact foreign_of_stillDeleting hstill
    · exact relays_of_attempt fun _ => trivial

lemma relays_removeResources (cluster : Cluster) : (removeResources cluster).Relays Foreign := by
  refine relays_bind (relays_wrapped relays_deleteManagedResource) fun _ => ?_
  cases cluster.shoot with
  | none => rfl
  | some _ => exact relays_wrapped relays_deleteSecrets

lemma relays_removeExtension (cluster : Cluster) : (removeExtension ex cluster).Relays Foreign := by
  refine relays_bind (relays_wrapped relays_teardown) fun _ => ?_
  split_ifs
  · exact relays_bind (relays_wrapped relays_pruneDataPlanePolicies) fun _ =>
      relays_removeResources cluster
  · exact relays_removeResources cluster

lemma relays_scaleDown : scaleDown.Relays Foreign := by
  refine relays_attempt_bind (relays_send _) (fun _ => relays_sent _) fun err herr => ?_
  dsimp only
  split_ifs
  · trivial
  · exact herr

lemma foreign_mapError {β : Type} {msg : String} {x : Except GoError β}
    (hx : ∀ err, x = .error err → Foreign err)
    {err : GoError} (h : x.mapError (.wrap msg) = .error err) : Foreign err := by
  cases x with
  | ok b => cases h
  | error e =>
    cases h
    exact hx e rfl

lemma foreign_injectedDeployment (hlib : ForeignErrors lib) {cluster : Cluster} {ns : String}
    {err : GoError} (h : injectedDeployment lib cluster ns = .error err) : Foreign err := by
  rcases bind_eq_error.mp h with h | ⟨d, _, h⟩
  · rcases bind_eq_error.mp h with h | ⟨_, _, h⟩
    · exact foreign_mapError (fun _ => hlib.findImage _ _) h
    · cases h
  · rcases bind_eq_error.mp h with h | ⟨_, _, h⟩
    · exact foreign_mapError (fun _ => hlib.injectGenericKubeconfig _ _ _ _) h
    · cases h

lemma foreign_buildResources (hlib : ForeignErrors lib) {config : Config} {tls : TLSBundle}
    {err : GoError} (h : buildResources lib config tls = .error err) : Foreign err := by
  rcases bind_eq_error.mp h with h | ⟨_, _, h⟩
  · rcases bind_eq_error.mp h with h | ⟨_, _, h⟩
    · exact foreign_mapError (fun _ => hlib.findImage _ _) h
    · cases h
  · cases h

lemma foreign_applyLogLevel {level target : String} {err : GoError}
    (h : applyLogLevel level target = .error err) : Foreign err := by
  rw [applyLogLevel] at h
  split_ifs at h
  cases h
  rfl

lemma foreign_applyChannel {channel : String} {target : Bool} {err : GoError}
    (h : applyChannel channel target = .error err) : Foreign err := by
  rw [applyChannel] at h
  split_ifs at h
  cases h
  rfl

lemma foreign_readConfig (hlib : ForeignErrors lib) {version : String}
    {providerConfig : Option Bytes} {err : GoError}
    (h : readConfig lib version providerConfig = .error err) : Foreign err := by
  cases providerConfig with
  | none => cases h
  | some raw =>
    cases hd : lib.decodeInto raw with
    | error e =>
      rw [readConfig_decode_error hd] at h
      cases h
      rw [Libraries.decodeInto] at hd
      cases hr : lib.decode raw with
      | ok cfg =>
        rw [hr] at hd
        cases hd
      | error e' =>
        rw [hr] at hd
        cases hd
        exact hlib.decode raw e hr
    | ok cfg =>
      rw [readConfig_decoded hd] at h
      rcases settings_error_cases h with ⟨_, _, h⟩ | ⟨_, _, h⟩
      · exact foreign_applyChannel h
      · exact foreign_applyLogLevel h

lemma foreign_bundleOf {name : String} {generated : Stores.Store String Data} {err : GoError}
    (h : bundleOf name generated = .error err) : Foreign err := by
  rw [bundleOf] at h
  split at h
  · dsimp only at h
    split_ifs at h
    cases h
    rfl
  · cases h
    rfl

lemma relays_ensure (hlib : ForeignErrors lib) (cluster : Cluster) :
    (ensure lib cluster ex.clusterName).Relays Foreign := by
  refine relays_bind (relays_sent _) fun _ => relays_bind (relays_ofExcept fun err h => ?_)
    fun desired => ?_
  · exact foreign_injectedDeployment hlib h
  · refine relays_wrapped (relays_attempt_bind (relays_send _) (fun d => ?_) fun err herr => ?_)
    · dsimp only
      split_ifs
      · trivial
      · exact relays_send _
    · dsimp only
      split_ifs
      · exact relays_send _
      · exact herr

lemma relays_reconcileSecrets : (reconcileSecrets ex.clusterName).Relays Foreign := by
  refine relays_bind (relays_sent _) fun _ => relays_bind (relays_sent _) fun generated => ?_
  exact relays_bind (relays_ofExcept fun _ => foreign_bundleOf) fun _ => relays_bind (relays_sent _)
    fun _ => trivial

lemma relays_deploy (hlib : ForeignErrors lib) (config : Config) (tls : TLSBundle) :
    (deploy lib config tls).Relays Foreign := by
  refine relays_bind (relays_ofExcept fun err h => ?_) fun _ => relays_sent _
  exact foreign_mapError (fun _ => foreign_buildResources hlib) h

lemma relays_reconcileAwake (hlib : ForeignErrors lib) (cluster : Cluster) (shoot : Shoot) :
    (reconcileAwake lib ex cluster shoot).Relays Foreign := by
  refine relays_bind (relays_ofExcept fun _ => foreign_readConfig hlib) fun config => ?_
  refine relays_bind (relays_wrapped relays_reconcileSecrets) fun tls => ?_
  refine relays_bind (relays_wrapped (relays_deploy hlib config tls)) fun _ =>
    relays_of_attempt fun _ => ?_
  rw [reconcileNetpolController]
  split_ifs
  · exact relays_wrapped (relays_ensure hlib cluster)
  · exact relays_bind (relays_wrapped relays_teardown) fun _ =>
      relays_wrapped relays_pruneDataPlanePolicies

lemma relays_reconcile (hlib : ForeignErrors lib) : (reconcile lib ex).Relays Foreign := by
  refine relays_bind (relays_sent _) fun cluster => ?_
  cases cluster.shoot with
  | none => exact rfl
  | some shoot =>
    dsimp only
    split_ifs
    · exact relays_drain
    · exact relays_wrapped relays_scaleDown
    · exact relays_reconcileAwake hlib cluster shoot

lemma relays_program (hlib : ForeignErrors lib) {op : Operation} (hop : op ≠ .delete) :
    (op.program lib ex).Relays Foreign := by
  cases op with
  | reconcile => exact relays_reconcile hlib
  | restore => exact relays_reconcile hlib
  | delete => exact absurd rfl hop
  | forceDelete =>
    exact relays_bind (relays_wrapped relays_teardown) fun _ =>
      relays_wrapped relays_deleteKeepingObjects
  | migrate =>
    exact relays_bind (relays_wrapped relays_teardown) fun _ =>
      relays_wrapped relays_deleteKeepingObjects

end Foreign

section Tallies

variable {α σ : Type} {h : Handler clusters GoError σ} {own : Metric → Prop} {lib : Libraries}
  {ex : Invocation}

def recordedBy (cluster : String) (op : Operation) (err : Option GoError) (m : Metric) : ℕ :=
  (if m = .actuatorOperationTotal cluster op.label then 1 else 0) +
    match err with
    | none => 0
    | some err =>
      if m = .actuatorOperationErrorsTotal cluster op.label (classifyError (some err)) then 1 else 0

def refusals (cluster : String) (out : Except GoError α) (m : Metric) : ℕ :=
  match out with
  | .ok _ => 0
  | .error err =>
    if err.isGatewaysInUse = true ∧ m = .deleteGuardRejectionsTotal cluster then 1 else 0

def Operation.tally (cluster : String) (out : Except GoError Unit) (m : Metric) : Operation → ℕ
  | .reconcile => recordedBy cluster .reconcile (retErr out) m
  | .restore =>
    recordedBy cluster .reconcile (retErr out) m + recordedBy cluster .restore (retErr out) m
  | .delete => refusals cluster out m + recordedBy cluster .delete (retErr out) m
  | .forceDelete => recordedBy cluster .forceDelete (retErr out) m
  | .migrate => recordedBy cluster .migrate (retErr out) m

lemma tallies_recordOperation (cluster : String) (op : Operation) (err : Option GoError) :
    Tallies h own (recordOperation cluster op.label err) fun _ => recordedBy cluster op err := by
  cases err with
  | none =>
    refine tallies_bind (g := fun _ => recordedBy cluster op none) (k := fun _ _ => 0)
      (tallies_count fun _ _ => rfl)
      (fun _ s tr out t he m hm => ?_) (fun _ _ _ _ => rfl) fun _ _ _ => rfl
    obtain ⟨_, _, rfl⟩ := Exec.ret_iff.mp he
    rfl
  | some err =>
    refine tallies_bind (g := fun x m => match x with
        | .ok _ => if m = .actuatorOperationTotal cluster op.label then 1 else 0
        | .error _ => recordedBy cluster op (some err) m)
      (k := fun _ m =>
        if m = .actuatorOperationErrorsTotal cluster op.label (classifyError (some err)) then 1
        else 0)
      (tallies_count fun _ _ => rfl) (fun _ => tallies_count fun _ _ => rfl) (fun _ _ _ _ => rfl)
        fun _ _ _ => rfl

lemma tallies_recorded {cluster : String} {op : Operation} {p : Metered Unit}
    {g : Except GoError Unit → Metric → ℕ}
    (hp : Tallies h own p g) : Tallies h own (recorded cluster op p) fun out m =>
      g out m + recordedBy cluster op (retErr out) m :=
  tallies_deferred hp (fun _ => tallies_recordOperation _ _ _) fun _ => plain_recordOperation _ _ _

lemma tallies_alone {cluster : String} {op : Operation} (p : Op Unit) :
    Tallies h own (recorded cluster op p.uncounted) fun out =>
      recordedBy cluster op (retErr out) := by
  have hnothing : Tallies h own p.uncounted fun _ _ => 0 :=
    tallies_uncounted fun _ _ _ _ _ _ _ => rfl
  intro s tr out t he m hm
  have hrecorded := tallies_recorded hnothing s tr out t he m hm
  simpa only [Nat.zero_add] using hrecorded

variable (hh : ∀ s c (r : Reply clusters GoError c) s', h s c r s' → ∀ e, r = .error e → Foreign e)

include hh

lemma foreign_disturbed {p : Op α} (hp : p.Relays Foreign) {s s' : σ}
    {tr : List (Answered clusters GoError σ)}
    {out : Except GoError α} (he : Exec (disturbed anything h) p s tr out s') :
    ∀ err, out = .error err → Foreign err :=
  he.relayed hp fun _ _ _ _ ⟨_, _, hc⟩ => hh _ _ _ _ hc

lemma tallies_foreign {p : Op α} (hp : p.Relays Foreign) (cluster : String) :
    Tallies h own p.uncounted (refusals cluster) := by
  refine tallies_uncounted fun s tr out s' he m _ => ?_
  cases out with
  | ok a => rfl
  | error err =>
    have hforeign : err.isGatewaysInUse = false := foreign_disturbed hh hp he err rfl
    simp [refusals, hforeign]

lemma tallies_checkNoUserGateways (shoot : Option Shoot) :
    Tallies h own (checkNoUserGatewaysMetered ex shoot) (refusals ex.clusterName) := by
  rw [checkNoUserGatewaysMetered]
  split_ifs
  · exact tallies_foreign hh relays_drain _
  · refine tallies_bind (k := refusals ex.clusterName)
      (tallies_foreign hh (relays_wrapped relays_listGateways) _)
      (fun names => ?_) (fun _ _ _ _ => Nat.zero_add _) fun _ _ _ => rfl
    split_ifs
    · intro s tr out t he m _
      obtain ⟨_, rfl, rfl⟩ := Exec.ret_iff.mp he
      rfl
    · intro s tr out t he m hm
      rcases Exec.bind_iff.mp he with ⟨_, _, hc⟩ | ⟨_, u, tr₁, tr₂, _, hc, hf⟩
      · obtain ⟨_, _, hplain⟩ := hc.plain s.1
        cases hplain
      · obtain ⟨_, rfl, rfl⟩ := Exec.fail_iff.mp hf
        have hcounted := tallies_count
          (g := fun _ m => if m = .deleteGuardRejectionsTotal ex.clusterName then 1 else 0)
          (fun _ _ => rfl) s tr₁ _ t hc m hm
        simpa [refusals, GoError.isGatewaysInUse] using hcounted

lemma Operation.tallies_metered (op : Operation) : Tallies h own (op.metered lib ex) fun out m =>
    op.tally ex.clusterName out m := by
  cases op with
  | reconcile => exact tallies_alone _
  | restore => exact tallies_recorded (tallies_alone _)
  | delete =>
    refine tallies_recorded
      (tallies_bind (k := refusals ex.clusterName) (tallies_foreign hh (relays_sent _) _)
      (fun cluster => ?_) (fun _ _ _ _ => Nat.zero_add _) fun _ _ _ => rfl)
    exact tallies_bind (k := refusals ex.clusterName) (tallies_checkNoUserGateways hh _)
      (fun _ => tallies_foreign hh (relays_removeExtension cluster) _)
        (fun _ _ _ _ => Nat.zero_add _) fun _ _ _ => rfl
  | forceDelete => exact tallies_alone _
  | migrate => exact tallies_alone _

end Tallies

section Runs

structure Invoked where
  op : Operation
  ex : Invocation
  outcome : Except GoError Unit

/-- The operations on one shoot, one after another, while those on other shoots and everybody else
go on before, between and after their calls. -/
inductive Operated {σ : Type} (h : Handler clusters GoError σ) (lib : Libraries)
    (cluster : String) : σ × Counters Metric → List Invoked → σ × Counters Metric → Prop
  | nil {s} : Operated h lib cluster s [] s
  | elsewhere {s t u es} : Elsewhere (fun m : Metric => m.cluster = cluster) s t →
      Operated h lib cluster t es u →
      Operated h lib cluster s es u
  | operation {s t u es tr} {e : Invoked} : e.ex.clusterName = cluster →
      Exec (disturbed (Elsewhere fun m : Metric => m.cluster = cluster) (Tallied h))
        (e.op.metered lib e.ex) s tr e.outcome t →
      Operated h lib cluster t es u → Operated h lib cluster s (e :: es) u

variable {σ : Type} {h : Handler clusters GoError σ} {lib : Libraries} {cluster : String}
  {s t : σ × Counters Metric}

lemma Operated.tally {es : List Invoked} (hr : Operated h lib cluster s es t)
    (hh : ∀ s c (r : Reply clusters GoError c) s', h s c r s' → ∀ e, r = .error e → Foreign e)
    {m : Metric} (hm : m.cluster = cluster) :
    t.2 m = s.2 m + (es.map fun e => e.op.tally cluster e.outcome m).sum := by
  induction hr with
  | nil => rfl
  | elsewhere he _ ih => rw [ih, he m hm]
  | operation hname he _ ih =>
    have hone := Operation.tallies_metered hh _ _ _ _ _ he m hm
    rw [ih, hone, hname, List.map_cons, List.sum_cons, Nat.add_assoc]

lemma Operated.executed {es : List Invoked} (hr : Operated h lib cluster s es t) (s₀ : σ) :
    ∀ e ∈ es, ∃ tr s', Exec (disturbed anything h) (e.op.program lib e.ex) s₀ tr e.outcome s' := by
  induction hr with
  | nil => simp
  | elsewhere _ _ ih => exact ih
  | operation _ he _ ih =>
    refine List.forall_mem_cons.mpr ⟨?_, ih⟩
    obtain ⟨tr', s', hplain⟩ := he.plain s₀
    rw [Operation.plain_metered] at hplain
    exact ⟨tr', s', hplain⟩

end Runs

section Accounts

/-- Restore runs Reconcile, and is recorded as both. -/
def Operation.records (op other : Operation) : Bool :=
  op == other || (op == .restore && other == .reconcile)

variable {cluster : String} {out : Except GoError Unit} {op other : Operation}

lemma recordedBy_total (err : Option GoError) :
    recordedBy cluster op err (.actuatorOperationTotal cluster other.label) =
      if op = other then 1 else 0 := by
  have hlabels : other.label = op.label ↔ op = other := by
    cases op <;> cases other <;> decide
  cases err <;> simp [recordedBy, hlabels]

lemma recordedBy_errors (err : Option GoError) (reason : Reason) :
    recordedBy cluster op err (.actuatorOperationErrorsTotal cluster other.label reason.label) =
      if op = other ∧ err.map reasonOf = some reason then 1 else 0 := by
  have hlabels : other.label = op.label ↔ op = other := by
    cases op <;> cases other <;> decide
  cases err with
  | none => simp [recordedBy]
  | some err => simp [recordedBy, hlabels, classifyError, Reason.label_injective.eq_iff, eq_comm]

lemma refusals_total : refusals cluster out (.actuatorOperationTotal cluster other.label) = 0 := by
  cases out <;> simp [refusals]

lemma refusals_errors (reason : Reason) :
    refusals cluster out (.actuatorOperationErrorsTotal cluster other.label reason.label) = 0 := by
  cases out <;> simp [refusals]

lemma tally_total : op.tally cluster out (.actuatorOperationTotal cluster other.label) =
    if op.records other then 1 else 0 := by
  cases op <;> simp only [Operation.tally, recordedBy_total, refusals_total] <;> cases other <;> rfl

lemma tally_errors (reason : Reason) :
    op.tally cluster out (.actuatorOperationErrorsTotal cluster other.label reason.label) =
      if op.records other ∧ (retErr out).map reasonOf = some reason then 1 else 0 := by
  cases op <;> simp only [Operation.tally, recordedBy_errors, refusals_errors] <;> cases other <;>
    simp [Operation.records]

lemma reasonOf_gatewaysInUse {err : GoError} : reasonOf err = .gatewaysInUse ↔
      err.isGatewaysInUse = true := by
  rw [reasonOf]
  split_ifs <;> simp_all

lemma retErr_gatewaysInUse : (retErr out).map reasonOf = some .gatewaysInUse ↔
    ∃ err, out = .error err ∧ err.isGatewaysInUse = true := by
  cases out with
  | ok _ => simp [retErr]
  | error err =>
    by_cases hn : err = nilShoot
    · subst hn
      simp [retErr, nilShoot, GoError.isGatewaysInUse]
    · simp [retErr, hn, reasonOf_gatewaysInUse]

lemma tally_rejections : op.tally cluster out (.deleteGuardRejectionsTotal cluster) =
    op.tally cluster out (.actuatorOperationErrorsTotal cluster Operation.delete.label
      Reason.gatewaysInUse.label) := by
  have hrecorded : ∀ op' : Operation, recordedBy cluster op' (retErr out)
    (.deleteGuardRejectionsTotal cluster) = 0 := by
    intro op'
    cases retErr out <;> simp [recordedBy]
  rw [tally_errors]
  cases op with
  | delete =>
    by_cases hin : ∃ err, out = .error err ∧ err.isGatewaysInUse = true
    · rw [if_pos ⟨rfl, retErr_gatewaysInUse.mpr hin⟩]
      obtain ⟨err, rfl, herr⟩ := hin
      simp [Operation.tally, hrecorded, refusals, herr]
    · rw [if_neg fun hc => hin (retErr_gatewaysInUse.mp hc.2)]
      cases out <;> simp_all [Operation.tally, refusals]
  | _ => simp [Operation.tally, hrecorded, Operation.records]

lemma sum_eq_countP {α : Type} {f : α → ℕ} {p : α → Bool} (hf : ∀ a, f a = if p a then 1 else 0)
    (xs : List α) : (xs.map f).sum = xs.countP p := by
  induction xs with
  | nil => rfl
  | cons a xs ih => rw [List.map_cons, List.sum_cons, ih, hf, List.countP_cons, Nat.add_comm]

end Accounts

theorem metrics_account_for_operations {σ : Type} {h : Handler clusters GoError σ} {lib : Libraries}
    {cluster : String} (hlib : ForeignErrors lib)
    (hh : ∀ s c (r : Reply clusters GoError c) s', h s c r s' → ∀ e, r = .error e → Foreign e)
    {s s' : σ} {es : List Invoked} {n : Counters Metric}
    (hr : Operated h lib cluster (s, fun _ => 0) es (s', n)) :
    (∀ op, n (.actuatorOperationTotal cluster op.label) = es.countP fun e => e.op.records op) ∧
    (∀ op reason, n (.actuatorOperationErrorsTotal cluster op.label reason.label) =
      es.countP fun e => e.op.records op ∧ (retErr e.outcome).map reasonOf = some reason) ∧
    n (.deleteGuardRejectionsTotal cluster) =
      n (.actuatorOperationErrorsTotal cluster Operation.delete.label Reason.gatewaysInUse.label) ∧
    (∀ op : Operation, op ≠ .delete →
      n (.actuatorOperationErrorsTotal cluster op.label Reason.gatewaysInUse.label) = 0) ∧
    ∀ e ∈ es, (e.op.metered lib e.ex).plain = e.op.program lib e.ex ∧
      ∃ tr t, Exec (disturbed anything h) (e.op.program lib e.ex) s tr e.outcome t := by
  have hcounted : ∀ m : Metric, m.cluster = cluster →
    n m = (es.map fun e => e.op.tally cluster e.outcome m).sum := by
    intro m hm
    have htally := hr.tally hh hm
    rwa [Nat.zero_add] at htally
  have herrors : ∀ op reason, n (.actuatorOperationErrorsTotal cluster op.label reason.label) =
      es.countP fun e => e.op.records op ∧ (retErr e.outcome).map reasonOf = some reason :=
    fun op reason => (hcounted _ rfl).trans (sum_eq_countP (fun e => by rw [tally_errors]; simp) es)
  refine ⟨fun op => ?_, herrors, ?_, fun op hop => ?_,
    fun e he => ⟨Operation.plain_metered e.op, hr.executed s e he⟩⟩
  · exact (hcounted _ rfl).trans (sum_eq_countP (fun e => tally_total) es)
  · rw [hcounted _ rfl, hcounted _ rfl]
    simp only [tally_rejections]
  · rw [herrors, List.countP_eq_zero]
    intro e he hcount
    obtain ⟨hrecords, hreason⟩ := of_decide_eq_true hcount
    obtain ⟨err, hout, hin⟩ := retErr_gatewaysInUse.mp hreason
    have hne : e.op ≠ .delete := by
      intro hd
      rw [hd] at hrecords
      cases op <;> first | exact hop rfl | cases hrecords
    obtain ⟨tr, t, hexec⟩ := hr.executed s e he
    have hforeign : err.isGatewaysInUse = false :=
      foreign_disturbed hh (relays_program hlib hne) hexec err hout
    rw [hforeign] at hin
    cases hin

section Refused

def foreignAnswers (generate : Generator) : Handler clusters GoError World :=
  fun w c r w' => answers generate w c r w' ∧ ∀ e, r = .error e → Foreign e

lemma foreign_perform {w : World} {c : Call} {e : GoError}
    (he : (w.perform sampleGenerator c).1 = .error e) : Foreign e := by
  cases c with
  | waitUntilDeleted =>
    simp only [World.perform] at he
    split at he
    · cases he
    · split_ifs at he
      cases he
      rfl
  | getGatewayClass name =>
    simp only [World.perform] at he
    split_ifs at he
    cases he
    rfl
  | _ =>
    simp only [World.perform] at he
    first | (split at he <;> cases he <;> rfl) | cases he

def answerCounted (s : World × Counters Metric) :
    (c : (counting clusters Metric).Call) → Reply (counting clusters Metric) GoError c ×
      (World × Counters Metric)
  | .inl c => ((s.1.perform sampleGenerator c).1, (s.1.perform sampleGenerator c).2, s.2)
  | .inr m => (.ok (), s.1, Function.update s.2 m (s.2 m + 1))

lemma tallied_answerCounted (s : World × Counters Metric) (c : (counting clusters Metric).Call) :
    Tallied (foreignAnswers sampleGenerator) s c (answerCounted s c).1 (answerCounted s c).2 := by
  cases c with
  | inl c => exact .call ⟨.done, fun e he => foreign_perform he⟩
  | inr m => exact .count

def guardedWorld : World :=
  { (undisturbed enabling sampleGenerator .reconcile sampleInvocation freshWorld).2.apply with
    gateways :=
      [{ «namespace» := "shop", name := "eg", gatewayClassName := "gardener-envoy-gateway" }] }

theorem metrics_account_for_operations_refused : ∃ w n,
    Operated (foreignAnswers sampleGenerator) enabling "shoot--foo--bar" (guardedWorld, fun _ => 0)
      [⟨.delete, sampleInvocation, .error (.gatewaysInUse ["shop/eg"])⟩] (w, n) ∧
    n (.deleteGuardRejectionsTotal "shoot--foo--bar") = 1 := by
  obtain ⟨tr, he⟩ :=
    exec_serve tallied_answerCounted (Operation.delete.metered enabling sampleInvocation)
    (guardedWorld, fun _ => 0)
  have hout : (serve answerCounted (Operation.delete.metered enabling sampleInvocation)
      (guardedWorld, fun _ => 0)).1 = .error (.gatewaysInUse ["shop/eg"]) := rfl
  rw [hout] at he
  have hr : Operated (foreignAnswers sampleGenerator) enabling "shoot--foo--bar"
      (guardedWorld, fun _ => 0)
      [⟨.delete, sampleInvocation, .error (.gatewaysInUse ["shop/eg"])⟩] _ :=
        .operation rfl (exec_disturbed he) .nil
  obtain ⟨_, herrors, hrejections, _⟩ := metrics_account_for_operations
    ⟨by rintro _ _ ⟨⟩, by rintro _ _ ⟨⟩, by rintro _ _ _ _ ⟨⟩⟩ (fun s c r s' h => h.2) hr
  exact ⟨_, _, hr, hrejections.trans (herrors .delete .gatewaysInUse)⟩

end Refused

end EnvoyGatewayExtension.Actuator
