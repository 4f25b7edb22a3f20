import EnvoyGatewayExtension.Actuator.Configuration
import EnvoyGatewayExtension.Actuator.TLSMaterial

namespace EnvoyGatewayExtension.Actuator

open Effects Kubernetes EnvoyGateway Stores Text

variable {lib : Libraries} {generate : Generator} {w : World} {ex : Invocation} {version : String}
  {cfg : EnvoyGatewayConfig} {config : Config} {raw : Bytes} {ms : List Manifest}

section Documented

def spelled (value default : String) : String := if value = "" then default else value

def explicit (cfg : EnvoyGatewayConfig) : EnvoyGatewayConfig where
  controlPlane := some
    { replicas := some ((cfg.controlPlane.bind (·.replicas)).getD 2)
      logLevel := spelled (cfg.controlPlane.elim "" (·.logLevel)) "info" }
  dataPlane := some
    { replicas := some ((cfg.dataPlane.bind (·.replicas)).getD 2)
      logLevel := spelled (cfg.dataPlane.elim "" (·.logLevel)) "info" }
  channel := spelled cfg.channel "standard"
  manageCRDs := some (cfg.manageCRDs.getD true)
  envoyProxyDefaults := cfg.envoyProxyDefaults
  manageDataPlaneNetworkPolicies := some (cfg.manageDataPlaneNetworkPolicies.getD false)

def StandsFor (lib : Libraries) (providerConfig : Option Bytes) (d : Decoded) : Prop :=
  match providerConfig with
  | none => d = .internal {}
  | some raw => lib.decode raw = .ok d

lemma spelled_spelled {value default : String} :
    spelled (spelled value default) default = spelled value default := by
  unfold spelled
  split_ifs <;> simp_all

lemma explicit_setObjectDefaults (cfg : EnvoyGatewayConfig) :
    explicit (setObjectDefaults cfg) = explicit cfg := by
  obtain ⟨cp, dp, channel, _, _, _⟩ := cfg
  have hcp : setDefaultsControlPlaneConfig (cp.getD {}) =
      ⟨some ((cp.bind (·.replicas)).getD 2), spelled (cp.elim "" (·.logLevel)) "info"⟩ := by
    cases cp <;> rfl
  have hdp : setDefaultsDataPlaneConfig (dp.getD {}) =
      ⟨some ((dp.bind (·.replicas)).getD 2), spelled (dp.elim "" (·.logLevel)) "info"⟩ := by
    cases dp <;> rfl
  have hchannel : spelled (if channel = "" then channelStandard else channel) "standard" =
      spelled channel "standard" := spelled_spelled
  simp only [explicit, setObjectDefaults, setDefaultsEnvoyGatewayConfig, Option.map_some, hcp, hdp,
    hchannel, Option.bind_some, Option.getD_some, Option.elim_some, spelled_spelled]

lemma setObjectDefaults_explicit (cfg : EnvoyGatewayConfig) :
    setObjectDefaults (explicit cfg) = explicit cfg := by
  have hlevel : ∀ level,
      (if spelled level "info" = "" then logLevelInfo else spelled level "info") =
      spelled level "info" := fun _ => spelled_spelled
  have hchannel : (if spelled cfg.channel "standard" = "" then channelStandard
      else spelled cfg.channel "standard") = spelled cfg.channel "standard" := spelled_spelled
  simp only [explicit, setObjectDefaults, setDefaultsEnvoyGatewayConfig, Option.getD_some,
    Option.map_some, setDefaultsControlPlaneConfig, setDefaultsDataPlaneConfig, hlevel]
  exact congrArg (fun channel => EnvoyGatewayConfig.mk _ _ channel _ _ _) hchannel

lemma explicit_toInternal (d : Decoded) : explicit d.toInternal = explicit d.written := by
  cases d with
  | v1alpha1 obj => exact explicit_setObjectDefaults obj
  | internal obj => rfl

lemma toInternal_of_explicit {d : Decoded} (h : d.written = explicit cfg) :
    d.toInternal = explicit cfg := by
  cases d with
  | v1alpha1 obj =>
    obtain rfl : obj = explicit cfg := h
    exact setObjectDefaults_explicit cfg
  | internal obj => exact h

end Documented

section Read

def withReplicas (config : Config) : Config :=
  { config with
    controlPlaneReplicas := some (config.controlPlaneReplicas.getD 2)
    dataPlaneReplicas := some (config.dataPlaneReplicas.getD 2) }

lemma applyChannel_spelled (channel : String) :
    applyChannel (spelled channel "standard") defaultConfig.experimentalFeatures =
      applyChannel channel defaultConfig.experimentalFeatures := by
  rw [spelled]
  split_ifs with h
  · rw [h]
    rfl
  · rfl

lemma applyLogLevel_spelled (level : String) {target : String} (ht : target = "info") :
    applyLogLevel (spelled level "info") target = applyLogLevel level target := by
  rw [spelled, ht]
  split_ifs with h
  · rw [h]
    rfl
  · rfl

lemma settings_explicit (version : String) (cfg : EnvoyGatewayConfig) :
    settings version (explicit cfg) = (settings version cfg).map withReplicas := by
  have hcontrol := applyLogLevel_spelled (cfg.controlPlane.elim "" (·.logLevel))
    (rfl : defaultConfig.controlPlaneLogLevel = "info")
  have hdata := applyLogLevel_spelled (cfg.dataPlane.elim "" (·.logLevel))
    (rfl : defaultConfig.dataPlaneLogLevel = "info")
  simp only [settings, explicit, Option.elim_some, Option.bind_some, Option.getD_some,
    applyChannel_spelled, hcontrol, hdata]
  cases applyChannel cfg.channel defaultConfig.experimentalFeatures with
  | error e => rfl
  | ok experimental =>
    cases applyLogLevel (cfg.controlPlane.elim "" (·.logLevel))
      defaultConfig.controlPlaneLogLevel with
    | error e => rfl
    | ok level =>
      cases applyLogLevel (cfg.dataPlane.elim "" (·.logLevel)) defaultConfig.dataPlaneLogLevel <;>
        rfl

lemma readConfig_standsFor {d : Decoded} {providerConfig : Option Bytes}
    (h : StandsFor lib providerConfig d) :
    readConfig lib version providerConfig = settings version d.toInternal := by
  cases providerConfig with
  | none =>
    obtain rfl : d = .internal {} := h
    rfl
  | some raw =>
    refine readConfig_decoded ?_
    rw [Libraries.decodeInto, show lib.decode raw = .ok d from h]
    rfl

end Read

section Rendered

lemma buildResources_withReplicas {tls : TLSBundle} {n : Int32}
    (h : config.dataPlaneReplicas = some n) :
    buildResources lib (withReplicas config) tls = buildResources lib config tls := by
  obtain ⟨cp, _, dp, _, _, _, _, _, _⟩ := config
  obtain rfl : dp = some n := h
  rfl

lemma envoyProxyDefaultsYAML_ne (h : config.dataPlaneReplicas = none) :
    envoyProxyDefaultsYAML lib config ≠ envoyProxyDefaultsYAML lib (withReplicas config) := by
  obtain ⟨_, _, dp, _, _, _, _, _, _⟩ := config
  obtain rfl : dp = none := h
  intro heq
  have hlen := congrArg String.length heq
  simp only [envoyProxyDefaultsYAML, String.length_append] at hlen
  have hset : (unlines ["        replicas: " ++ toString (2 : Int32).toInt]).length = 20 := by
    decide
  simp only [replicasLines, withReplicas, Option.getD_none, hset] at hlen
  have hunset : (unlines []).length = 0 := rfl
  simp only [loggingLines, telemetryLines, hunset] at hlen
  omega

lemma renders_distinct (hc : config.dataPlaneReplicas = none)
    (h : Renders lib generate ex config w ms) :
    ¬ Renders lib generate ex (withReplicas config) w ms := by
  rintro ⟨generated', tls', r', hgen', hbundle', hbuild', hms'⟩
  obtain ⟨generated, tls, r, hgen, hbundle, hbuild, rfl⟩ := h
  have hlisted := envoyProxyDefaults_listed hbuild
  rw [hms'] at hlisted
  have heq := buildResources_envoyProxy hbuild' _ hlisted rfl
  exact envoyProxyDefaultsYAML_ne hc (Body.yaml.inj (congrArg Manifest.body heq))

structure Renderable (lib : Libraries) (generate : Generator) (w : World) : Prop where
  image : ∃ image, lib.findImage imageName = .ok image
  secrets : ∃ generated, generate w.ca secretConfigs = .ok generated ∧ Complete generated

lemma renderable_iff : (∃ ms, Renders lib generate ex config w ms) ↔ Renderable lib generate w := by
  constructor
  · rintro ⟨ms, generated, tls, r, hgen, hbundle, hbuild, _⟩
    exact ⟨(buildResources_ok_iff lib config tls).mp ⟨r, hbuild⟩, generated, hgen,
      (bundleOf_ok_iff.mp hbundle).1⟩
  · rintro ⟨himage, generated, hgen, hcomplete⟩
    obtain ⟨r, hbuild⟩ := (buildResources_ok_iff lib config (bundleFrom generated)).mpr himage
    exact ⟨_, generated, _, r, hgen, bundleOf_ok_iff.mpr ⟨hcomplete, rfl⟩, hbuild, rfl⟩

lemma renders_withReplicas_iff : (∀ ms, Renders lib generate ex config w ms ↔
      Renders lib generate ex (withReplicas config) w ms) ↔
    (Renderable lib generate w → ∃ n, config.dataPlaneReplicas = some n) := by
  constructor
  · intro hsame hr
    have hrendered : ∃ ms, Renders lib generate ex config w ms := renderable_iff.mpr hr
    obtain ⟨ms, hms⟩ := hrendered
    cases hc : config.dataPlaneReplicas with
    | some n => exact ⟨n, rfl⟩
    | none => exact absurd ((hsame ms).mp hms) (renders_distinct hc hms)
  · intro hset ms
    constructor
    · intro hms
      obtain ⟨n, hn⟩ := hset (renderable_iff.mp ⟨ms, hms⟩)
      simpa only [Renders, buildResources_withReplicas hn] using hms
    · intro hms
      obtain ⟨n, hn⟩ := hset (renderable_iff.mp ⟨ms, hms⟩)
      simpa only [Renders, buildResources_withReplicas hn] using hms

end Rendered

theorem defaults_spelled_out_iff {shoot : Shoot} {d d' : Decoded} (ha : Awake w shoot)
    (hd : StandsFor lib ex.providerConfig d) (hraw : lib.decode raw = .ok d')
    (hspelled : d'.written = explicit d.written) :
    (∀ ms, HandsOver lib generate ex w ms ↔
      HandsOver lib generate { ex with providerConfig := some raw } w ms) ↔
      (Acceptable d.toInternal → (∃ image, lib.findImage imageName = .ok image) →
        (∃ generated, generate w.ca secretConfigs = .ok generated ∧ Complete generated) →
        ∃ dp n, d.toInternal.dataPlane = some dp ∧ dp.replicas = some n) := by
  have hd' : StandsFor lib (some raw) d' := hraw
  have hexplicit : readConfig lib shoot.kubernetesVersion (some raw) =
      (settings shoot.kubernetesVersion d.toInternal).map withReplicas := by
    rw [readConfig_standsFor hd', toInternal_of_explicit hspelled, ← explicit_toInternal,
      settings_explicit]
  simp only [handsOver_iff ha, readConfig_standsFor hd, hexplicit]
  cases hs : settings shoot.kubernetesVersion d.toInternal with
  | error e =>
    have hinvalid : ¬ Acceptable d.toInternal := by
      intro hvalid
      have hok : ∃ config, settings shoot.kubernetesVersion d.toInternal = .ok config :=
        settings_ok_iff.mpr hvalid
      obtain ⟨config, hok⟩ := hok
      cases hs.symm.trans hok
    simp [hinvalid, Except.map]
  | ok config =>
    have hvalid : Acceptable d.toInternal := settings_ok_iff.mp ⟨config, hs⟩
    have hreplicas : config.dataPlaneReplicas = d.toInternal.dataPlane.bind (·.replicas) := by
      simp only [settings, bind_eq_ok, Except.ok.injEq] at hs
      obtain ⟨_, _, _, _, _, _, rfl⟩ := hs
      rfl
    have hiff : (∀ ms, Renders lib generate ex config w ms ↔
        Renders lib generate ex (withReplicas config) w ms) ↔ _ := renders_withReplicas_iff
    simp only [Except.map, Except.ok.injEq, exists_eq_left', hvalid, forall_const]
    refine hiff.trans ⟨fun h himage hsecrets => ?_, fun h hr => ?_⟩
    · obtain ⟨n, hn⟩ := h ⟨himage, hsecrets⟩
      rw [hreplicas] at hn
      obtain ⟨dp, hdp, hn⟩ := Option.bind_eq_some_iff.mp hn
      exact ⟨dp, n, hdp, hn⟩
    · obtain ⟨dp, n, hdp, hn⟩ := h hr.image hr.secrets
      exact ⟨n, hreplicas.trans (Option.bind_eq_some_iff.mpr ⟨dp, hdp, hn⟩)⟩

section Sampled

/-- Three providerConfigs: an empty one of v1alpha1, an empty one without an apiVersion, and the
one that spells every default out. -/
def omitting : Libraries :=
  { sampleLibraries {} with
    decode := fun raw =>
      .ok (if raw = [0] then .v1alpha1 {} else if raw = [1] then .internal {}
        else .v1alpha1 (explicit {})) }

def configured (providerConfig : Option Bytes) : Invocation where
  clusterName := "shoot--foo--bar"
  providerConfig := providerConfig

lemma freshWorld_awake : Awake freshWorld {} := ⟨rfl, rfl, rfl⟩

lemma sampled_hands_over (himage : ∃ image, lib.findImage imageName = .ok image)
    (providerConfig : Option Bytes) (hread : readConfig lib "" providerConfig = .ok config) :
    ∃ ms, HandsOver lib sampleGenerator (configured providerConfig) freshWorld ms ∧
      Renders lib sampleGenerator (configured providerConfig) config freshWorld ms := by
  have hbundle : ∃ generated tls, sampleGenerator .first secretConfigs = .ok generated ∧
      bundleOf "shoot--foo--bar" generated = .ok tls := ⟨_, _, rfl, rfl⟩
  obtain ⟨generated, tls, hgen, hbundle⟩ := hbundle
  obtain ⟨r, hbuild⟩ := (buildResources_ok_iff lib config tls).mpr himage
  have hrenders : Renders lib sampleGenerator (configured providerConfig) config freshWorld
      (manifestsOf r) := ⟨generated, tls, r, hgen, hbundle, hbuild, rfl⟩
  exact ⟨manifestsOf r, (handsOver_iff freshWorld_awake).mpr ⟨config, hread, hrenders⟩, hrenders⟩

theorem defaults_spelled_out_iff_omitted :
    (∃ ms, HandsOver omitting sampleGenerator (configured (some [0])) freshWorld ms) ∧
    ∀ ms, HandsOver omitting sampleGenerator (configured (some [0])) freshWorld ms ↔
      HandsOver omitting sampleGenerator (configured (some [2])) freshWorld ms := by
  obtain ⟨ms, hms, _⟩ := @sampled_hands_over omitting _ ⟨imageName, rfl⟩ (some [0]) rfl
  refine ⟨⟨ms, hms⟩, ?_⟩
  have hstands : StandsFor omitting (configured (some [0])).providerConfig (.v1alpha1 {}) := rfl
  have hspelled : omitting.decode [2] = .ok (.v1alpha1 (explicit {})) := rfl
  exact (defaults_spelled_out_iff freshWorld_awake hstands hspelled rfl).mpr
    fun _ _ _ => ⟨_, 2, rfl, rfl⟩

lemma lacks_replicas (providerConfig : Option Bytes)
    (hread : readConfig omitting "" providerConfig = .ok defaultConfig) :
    ∃ ms, HandsOver omitting sampleGenerator (configured providerConfig) freshWorld ms ∧
      ¬ HandsOver omitting sampleGenerator (configured (some [2])) freshWorld ms := by
  obtain ⟨ms, hms, hrenders⟩ := sampled_hands_over ⟨imageName, rfl⟩ providerConfig hread
  refine ⟨ms, hms, fun h => ?_⟩
  obtain ⟨config, hread', hrenders'⟩ := (handsOver_iff freshWorld_awake).mp h
  obtain rfl : withReplicas defaultConfig = config := Except.ok.inj hread'
  exact renders_distinct rfl hrenders hrenders'

theorem unconfigured_lacks_replicas :
    (∃ ms, HandsOver omitting sampleGenerator (configured none) freshWorld ms ∧
      ¬ HandsOver omitting sampleGenerator (configured (some [2])) freshWorld ms) ∧
    ∃ ms, HandsOver omitting sampleGenerator (configured (some [1])) freshWorld ms ∧
      ¬ HandsOver omitting sampleGenerator (configured (some [2])) freshWorld ms :=
  ⟨lacks_replicas none rfl, lacks_replicas (some [1]) rfl⟩

end Sampled

end EnvoyGatewayExtension.Actuator
