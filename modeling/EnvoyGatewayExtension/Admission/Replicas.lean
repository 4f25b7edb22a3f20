import EnvoyGatewayExtension.Actuator.Defaults
import EnvoyGatewayExtension.Admission.Specification
import EnvoyGatewayExtension.EnvoyGateway.ProxyTemplate

namespace EnvoyGatewayExtension.Admission

open Effects Kubernetes EnvoyGateway Actuator Text

variable {lib : Libraries} {config : Config} {tls : TLSBundle} {r : Resources} {ms : List Manifest}

section Template

def envoyDeploymentNodes (text : String) : List (Node String) :=
  below "      envoyDeployment:"
    (below "    kubernetes:" (below "  provider:" (below "spec:" (read (lines text)))))

def replicasField : String := "        replicas: "

def replicasOf (line : String) : Option ℤ :=
  if replicasField.toList <+: line.toList then
    some (decimal (line.toList.drop replicasField.length))
  else none

def templateReplicas (text : String) : List ℤ :=
  (envoyDeploymentNodes text).filterMap fun t => replicasOf t.line

lemma replicasOf_field (n : ℤ) : replicasOf ("        replicas: " ++ toString n) = some n := by
  have hline : ("        replicas: " ++ toString n).toList = replicasField.toList ++
    (toString n).toList :=
    String.toList_append
  rw [replicasOf, hline, if_pos (List.prefix_append _ _)]
  have hlength : replicasField.length = replicasField.toList.length := rfl
  rw [hlength, List.drop_left, decimal_toString]

lemma below_logging (config : Config) : below "  provider:" (loggingNodes config) = [] := by
  rw [loggingNodes]
  split_ifs <;> rfl

lemma below_telemetry (config : Config) : below "  provider:" (telemetryNodes config) = [] := by
  rw [telemetryNodes]
  split_ifs <;> rfl

lemma envoyDeploymentNodes_rendered
    (h : config.dataPlaneLogLevel = "" ∨ config.dataPlaneLogLevel ∈ validLogLevels) :
    envoyDeploymentNodes (envoyProxyDefaultsYAML lib config) =
      replicasNodes config ++ (containerNodes lib config ++ [podNode]) := by
  rw [envoyDeploymentNodes, lines_envoyProxyDefaultsYAML h, read_rendered]
  simp [leaf, metadataNode, providerNode, below_logging, below_telemetry]

lemma templateReplicas_rendered
    (h : config.dataPlaneLogLevel = "" ∨ config.dataPlaneLogLevel ∈ validLogLevels) :
    templateReplicas (envoyProxyDefaultsYAML lib config) =
      (config.dataPlaneReplicas.map Int32.toInt).toList := by
  have hcontainer : (containerNodes lib config).filterMap (fun t => replicasOf t.line) = [] := by
    have hline : replicasOf "        container:" = none := by decide
    rw [containerNodes]
    cases config.envoyProxyDefaults.bind (·.resources) with
    | none => rfl
    | some r => simp [hline]
  have hreplicas : (replicasNodes config).filterMap (fun t => replicasOf t.line) =
      (config.dataPlaneReplicas.map Int32.toInt).toList := by
    rw [replicasNodes]
    cases config.dataPlaneReplicas with
    | none => rfl
    | some n =>
      simp only [leaf, List.filterMap_cons, Node.line_node, replicasOf_field, List.filterMap_nil,
        Option.map_some, Option.toList_some]
  have hpod : [podNode].filterMap (fun t => replicasOf t.line) = [] := by
    have hline : replicasOf "        pod:" = none := by decide
    simp [podNode, hline]
  rw [templateReplicas, envoyDeploymentNodes_rendered h, List.filterMap_append,
    List.filterMap_append, hcontainer, hpod, hreplicas]
  simp

end Template

section Counts

/-- A Deployment without a count gets one replica. -/
def ControlPlaneReplicas (ms : List Manifest) (n : ℤ) : Prop :=
  ∃ m ∈ ms, m.key = ⟨"apps", "Deployment", «namespace», deploymentName⟩ ∧
    ∃ spec, m.body = .deployment spec ∧ n = (spec.replicas.getD 1).toInt

def DataPlaneReplicas (ms : List Manifest) (n : ℤ) : Prop :=
  ∃ m ∈ ms, m.key.kind = "EnvoyProxy" ∧ ∃ text, m.body = .yaml text ∧ n ∈ templateReplicas text

def MinAvailable (ms : List Manifest) (n : ℤ) : Prop :=
  ∃ m ∈ ms, m.key = ⟨"policy", "PodDisruptionBudget", «namespace», deploymentName⟩ ∧
    ∃ k selector policy, m.body = .podDisruptionBudget (.int k) selector policy ∧ n = k.toInt

structure Deployable (ms : List Manifest) : Prop where
  deployed : ∃ n, ControlPlaneReplicas ms n
  budgeted : ∃ k, MinAvailable ms k
  controlPlane : ∀ n, ControlPlaneReplicas ms n → 0 ≤ n
  dataPlane : ∀ n, DataPlaneReplicas ms n → 0 ≤ n
  drains : ∀ n k, ControlPlaneReplicas ms n → MinAvailable ms k → 0 < n → 1 ≤ n - k

variable (h : buildResources lib config tls = .ok r)
include h

lemma controlPlaneReplicas_iff {n : ℤ} :
    ControlPlaneReplicas (manifestsOf r) n ↔ n = (config.controlPlaneReplicas.getD 2).toInt := by
  obtain ⟨deploy, hd, _⟩ := lookup_buildResources h
  have hlisted : deploy ∈ manifestsOf r :=
    fixed_listed (e := ("deployment.yaml", [deploy])) h hd (by simp [fixedObjects])
      (List.mem_singleton.mpr rfl)
  obtain ⟨image, _, hdeploy⟩ := bind_eq_ok.mp hd
  cases hdeploy
  constructor
  · rintro ⟨m, hm, hkey, spec, hbody, rfl⟩
    have hdm := buildResources_deployment h m hm (by rw [hkey])
    cases hd.symm.trans hdm
    cases hbody
    rfl
  · rintro rfl
    exact ⟨_, hlisted, rfl, _, rfl, rfl⟩

lemma minAvailable_iff {n : ℤ} : MinAvailable (manifestsOf r) n ↔ n = 1 := by
  obtain ⟨deploy, hd, _⟩ := lookup_buildResources h
  constructor
  · rintro ⟨m, hm, hkey, k, selector, policy, hbody, rfl⟩
    cases buildResources_podDisruptionBudget h m hm (by rw [hkey])
    cases hbody
    rfl
  · rintro rfl
    refine ⟨podDisruptionBudget, ?_, rfl, 1, _, _, rfl, rfl⟩
    exact fixed_listed (e := ("poddisruptionbudget.yaml", [podDisruptionBudget])) h hd
      (by simp [fixedObjects]) (List.mem_singleton.mpr rfl)

lemma dataPlaneReplicas_iff
    (hlevel : config.dataPlaneLogLevel = "" ∨ config.dataPlaneLogLevel ∈ validLogLevels)
    {n : ℤ} : DataPlaneReplicas (manifestsOf r) n ↔ ∃ c, config.dataPlaneReplicas = some c ∧
    n = c.toInt := by
  have hrendered : ∀ n, n ∈ templateReplicas (envoyProxyDefaultsYAML lib config) ↔
      ∃ c, config.dataPlaneReplicas = some c ∧ n = c.toInt := by
    intro n
    rw [templateReplicas_rendered hlevel]
    cases config.dataPlaneReplicas <;> simp
  rw [← hrendered]
  constructor
  · rintro ⟨m, hm, hkind, text, hbody, hn⟩
    cases buildResources_envoyProxy h m hm hkind
    cases hbody
    exact hn
  · intro hn
    exact ⟨envoyProxyDefaults lib config, envoyProxyDefaults_listed h, rfl, _, rfl, hn⟩

lemma deployable_iff_config
    (hlevel : config.dataPlaneLogLevel = "" ∨ config.dataPlaneLogLevel ∈ validLogLevels) :
    Deployable (manifestsOf r) ↔
      ((config.controlPlaneReplicas.getD 2).toInt = 0 ∨
        2 ≤ (config.controlPlaneReplicas.getD 2).toInt) ∧
      ∀ c, config.dataPlaneReplicas = some c → 0 ≤ c.toInt := by
  have hcp := fun n => controlPlaneReplicas_iff (n := n) h
  have hk := fun n => minAvailable_iff (n := n) h
  have hdp := fun n => dataPlaneReplicas_iff (n := n) h hlevel
  constructor
  · rintro ⟨_, _, hcontrol, hdata, hdrains⟩
    have hnonneg := hcontrol _ ((hcp _).mpr rfl)
    have hdrain := hdrains _ _ ((hcp _).mpr rfl) ((hk 1).mpr rfl)
    refine ⟨by omega, fun c hc => hdata _ ((hdp _).mpr ⟨c, hc, rfl⟩)⟩
  · rintro ⟨hcontrol, hdata⟩
    refine ⟨⟨_, (hcp _).mpr rfl⟩, ⟨1, (hk 1).mpr rfl⟩, ?_, ?_, ?_⟩
    · intro n hn
      rw [(hcp n).mp hn]
      omega
    · intro n hn
      obtain ⟨c, hc, rfl⟩ := (hdp n).mp hn
      exact hdata c hc
    · intro n k hn hkn hpos
      rw [(hcp n).mp hn] at hpos ⊢
      rw [(hk k).mp hkn]
      omega

end Counts

section Rollouts

variable {generate : Generator} {spec : ShootSpec} {entry : Extension} {ex : Invocation} {w : World}

structure Rollout (lib : Libraries) (generate : Generator) (spec : ShootSpec) (entry : Extension)
    (ex : Invocation) (w : World) (ms : List Manifest) : Prop where
  distinct : (spec.extensions.map Extension.type).Nodup
  enabled : EnabledEntry spec.extensions entry
  admitted : ∃ warnings, validateShoot lib spec = .ok warnings
  copied : ex.providerConfig = entry.providerConfig
  built : HandsOver lib generate ex w ms

def SafeReplicas (lib : Libraries) (providerConfig : Option Bytes) : Prop :=
  ∀ raw cfg, providerConfig = some raw → lib.decodeInto raw = .ok cfg →
    (∀ cp n, cfg.controlPlane = some cp → cp.replicas = some n → n.toInt = 0 ∨ 2 ≤ n.toInt) ∧
    ∀ dp n, cfg.dataPlane = some dp → dp.replicas = some n → 0 ≤ n.toInt

lemma safeReplicas_iff {version : String} {providerConfig : Option Bytes}
    (h : readConfig lib version providerConfig = .ok config) : SafeReplicas lib providerConfig ↔
      ((config.controlPlaneReplicas.getD 2).toInt = 0 ∨
        2 ≤ (config.controlPlaneReplicas.getD 2).toInt) ∧
      ∀ c, config.dataPlaneReplicas = some c → 0 ≤ c.toInt := by
  cases providerConfig with
  | none =>
    cases h
    have htwo : (2 : ℤ) ≤ (2 : Int32).toInt := by decide
    exact ⟨fun _ => ⟨Or.inr htwo, fun c hc => by cases hc⟩, fun _ raw cfg hraw => by cases hraw⟩
  | some raw =>
    obtain ⟨cfg, hd, hcontrol, hdata, _⟩ := readConfig_replicas h
    rw [hcontrol, hdata]
    constructor
    · intro hsafe
      obtain ⟨hcs, hds⟩ := hsafe raw cfg rfl hd
      constructor
      · cases hn : cfg.controlPlane.bind (·.replicas) with
        | none => exact Or.inr (by decide)
        | some n =>
          obtain ⟨cp, hcp, hn⟩ := Option.bind_eq_some_iff.mp hn
          exact hcs cp n hcp hn
      · intro c hc
        obtain ⟨dp, hdp, hc⟩ := Option.bind_eq_some_iff.mp hc
        exact hds dp c hdp hc
    · rintro ⟨hcs, hds⟩ _ _ ⟨⟩ hd'
      cases hd.symm.trans hd'
      constructor
      · intro cp n hcp hn
        rw [hcp, Option.bind_some, hn] at hcs
        exact hcs
      · intro dp n hdp hn
        exact hds n (Option.bind_eq_some_iff.mpr ⟨dp, hdp, hn⟩)

lemma readConfig_level {version : String} {providerConfig : Option Bytes}
    (h : readConfig lib version providerConfig = .ok config) :
    config.dataPlaneLogLevel = "" ∨ config.dataPlaneLogLevel ∈ validLogLevels := by
  cases providerConfig with
  | none =>
    cases h
    have hinfo : logLevelInfo ∈ validLogLevels := by decide
    exact Or.inr hinfo
  | some raw =>
    obtain ⟨_, _, _, _, hlevel⟩ := readConfig_replicas h
    exact Or.inr hlevel

lemma Rollout.rendered (h : Rollout lib generate spec entry ex w ms) : ∃ version config tls r,
    readConfig lib version entry.providerConfig = .ok config ∧
      buildResources lib config tls = .ok r ∧ ms = manifestsOf r := by
  obtain ⟨tr, out, w', e, keepObjects, he, hm, hc⟩ := h.built
  obtain ⟨shoot, config, _, hread, _, tls, r, _, _, hbuild, hms⟩ := reconcile_ships he hm hc
  rw [h.copied] at hread
  exact ⟨shoot.kubernetesVersion, config, tls, r, hread, hbuild, hms⟩

theorem deployable_iff (h : Rollout lib generate spec entry ex w ms) :
    Deployable ms ↔ SafeReplicas lib entry.providerConfig := by
  obtain ⟨version, config, tls, r, hread, hbuild, rfl⟩ := h.rendered
  rw [deployable_iff_config hbuild (readConfig_level hread), safeReplicas_iff hread]

end Rollouts

section Sampled

def counted (controlPlane dataPlane : Int32) : Libraries :=
  sampleLibraries
    { controlPlane := some { replicas := some controlPlane }
      dataPlane := some { replicas := some dataPlane } }

def countedEntry : Extension where
  type := "envoy-gateway"
  providerConfig := some [1]

def countedShoot : ShootSpec where
  purpose := some "evaluation"
  extensions := [countedEntry]

lemma exists_rollout (controlPlane dataPlane : Int32) : ∃ ms config tls r,
    Rollout (counted controlPlane dataPlane) sampleGenerator countedShoot countedEntry
      (configured (some [1]))
      freshWorld ms ∧ ms = manifestsOf r ∧ buildResources (counted controlPlane dataPlane)
        config tls = .ok r ∧
      config.controlPlaneReplicas = some controlPlane ∧ config.dataPlaneReplicas = some dataPlane ∧
      config.dataPlaneLogLevel = "info" := by
  obtain ⟨ms, hbuilt, _, tls, r, _, _, hbuild, hms⟩ :=
    @sampled_hands_over (counted controlPlane dataPlane) _ ⟨imageName, rfl⟩ (some [1]) rfl
  refine ⟨ms, _, tls, r,
    ⟨by decide, ⟨by simp [countedShoot], rfl, by decide⟩, ⟨[], rfl⟩, rfl, hbuilt⟩, hms, hbuild,
    rfl, rfl, rfl⟩

theorem deployable_iff_three : ∃ ms,
    Rollout (counted 3 2) sampleGenerator countedShoot countedEntry (configured (some [1]))
      freshWorld ms ∧
    Deployable ms := by
  obtain ⟨ms, _, _, _, hr, _⟩ := exists_rollout 3 2
  refine ⟨ms, hr, (deployable_iff hr).mpr ?_⟩
  rintro raw cfg _ ⟨⟩
  constructor
  · rintro _ _ ⟨⟩ ⟨⟩
    decide
  · rintro _ _ ⟨⟩ ⟨⟩
    decide

theorem single_replica_undrainable :
    (∃ ms, Rollout (counted 1 2) sampleGenerator countedShoot countedEntry (configured (some [1]))
      freshWorld ms ∧ ControlPlaneReplicas ms 1 ∧ MinAvailable ms 1 ∧ ¬ Deployable ms) ∧
    (∃ ms, Rollout (counted (-1) 2) sampleGenerator countedShoot countedEntry
      (configured (some [1])) freshWorld ms ∧ ControlPlaneReplicas ms (-1) ∧ ¬ Deployable ms) ∧
    ∃ ms, Rollout (counted 2 (-1)) sampleGenerator countedShoot countedEntry (configured (some [1]))
      freshWorld ms ∧ DataPlaneReplicas ms (-1) ∧ ¬ Deployable ms := by
  refine ⟨?_, ?_, ?_⟩
  · obtain ⟨ms, config, tls, r, hr, rfl, hbuild, hcp, _⟩ := exists_rollout 1 2
    have hone : ControlPlaneReplicas (manifestsOf r) 1 :=
      (controlPlaneReplicas_iff hbuild).mpr (by rw [hcp]; rfl)
    have hk : MinAvailable (manifestsOf r) 1 := (minAvailable_iff hbuild).mpr rfl
    refine ⟨_, hr, hone, hk, fun hd => ?_⟩
    have hdrain := hd.drains 1 1 hone hk
    omega
  · obtain ⟨ms, config, tls, r, hr, rfl, hbuild, hcp, _⟩ := exists_rollout (-1) 2
    have hneg : ControlPlaneReplicas (manifestsOf r) (-1) :=
      (controlPlaneReplicas_iff hbuild).mpr (by rw [hcp]; rfl)
    refine ⟨_, hr, hneg, fun hd => ?_⟩
    have hnonneg := hd.controlPlane _ hneg
    omega
  · obtain ⟨ms, config, tls, r, hr, rfl, hbuild, _, hdp, hlevel⟩ := exists_rollout 2 (-1)
    have hvalid : config.dataPlaneLogLevel = "" ∨ config.dataPlaneLogLevel ∈ validLogLevels := by
      rw [hlevel]
      decide
    have hneg : DataPlaneReplicas (manifestsOf r) (-1) :=
      (dataPlaneReplicas_iff hbuild hvalid).mpr ⟨-1, hdp, rfl⟩
    refine ⟨_, hr, hneg, fun hd => ?_⟩
    have hnonneg := hd.dataPlane _ hneg
    omega

end Sampled

end EnvoyGatewayExtension.Admission
