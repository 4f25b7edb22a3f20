import EnvoyGatewayExtension.Actuator.Operations

namespace EnvoyGatewayExtension.Actuator

open Kubernetes EnvoyGateway

variable {lib : Libraries} {raw : Bytes} {version : String} {cfg : EnvoyGatewayConfig}

def ValidValue (value : String) (valid : List String) : Prop := value = "" ∨ value ∈ valid

structure Acceptable (cfg : EnvoyGatewayConfig) : Prop where
  channel : ValidValue cfg.channel validChannels
  controlPlane : ∀ cp, cfg.controlPlane = some cp → ValidValue cp.logLevel validLogLevels
  dataPlane : ∀ dp, cfg.dataPlane = some dp → ValidValue dp.logLevel validLogLevels

section Values

lemma validValue_elim {α : Type} {plane : Option α} {value : α → String} {valid : List String} :
    ValidValue (plane.elim "" value) valid ↔ ∀ a, plane = some a → ValidValue (value a) valid := by
  cases plane with
  | none => exact ⟨fun _ a ha => (by cases ha), fun _ => Or.inl rfl⟩
  | some a => simp

lemma applyLogLevel_ok_iff {level : String} (target : String) :
    (∃ l, applyLogLevel level target = .ok l) ↔ ValidValue level validLogLevels := by
  unfold applyLogLevel ValidValue
  by_cases h₁ : level = ""
  · simp [h₁]
  · by_cases h₂ : level ∈ validLogLevels <;> simp [h₁, h₂]

lemma applyLogLevel_valid {level target l : String} (ht : target ∈ validLogLevels)
    (h : applyLogLevel level target = .ok l) : l ∈ validLogLevels := by
  rw [applyLogLevel] at h
  split_ifs at h with h₁ h₂
  · cases h
    exact ht
  · cases h
    exact h₂

lemma applyChannel_ok_iff {channel : String} (target : Bool) :
    (∃ b, applyChannel channel target = .ok b) ↔ ValidValue channel validChannels := by
  unfold applyChannel ValidValue
  by_cases h₁ : channel = ""
  · simp [h₁]
  · by_cases h₂ : channel ∈ validChannels <;> simp [h₁, h₂]

end Values

section Settings

def settings (version : String) (cfg : EnvoyGatewayConfig) : Except GoError Config := do
  let experimentalFeatures ← applyChannel cfg.channel defaultConfig.experimentalFeatures
  let controlPlaneLogLevel ←
    applyLogLevel (cfg.controlPlane.elim "" (·.logLevel)) defaultConfig.controlPlaneLogLevel
  let dataPlaneLogLevel ←
    applyLogLevel (cfg.dataPlane.elim "" (·.logLevel)) defaultConfig.dataPlaneLogLevel
  .ok
    { controlPlaneReplicas := cfg.controlPlane.bind (·.replicas)
      controlPlaneLogLevel
      dataPlaneReplicas := cfg.dataPlane.bind (·.replicas)
      dataPlaneLogLevel
      experimentalFeatures
      manageCRDs := cfg.manageCRDs.getD defaultConfig.manageCRDs
      envoyProxyDefaults := cfg.envoyProxyDefaults
      shootKubernetesVersion := version
      manageDataPlaneNetworkPolicies := cfg.manageDataPlaneNetworkPolicies.getD false }

lemma readConfig_decoded (hd : lib.decodeInto raw = .ok cfg) :
    readConfig lib version (some raw) = settings version cfg := by
  obtain ⟨cp, dp, _, _, _, _⟩ := cfg
  rw [readConfig, hd]
  cases cp with
  | none => cases dp <;> rfl
  | some _ => cases dp <;> rfl

lemma settings_error_cases {err : GoError} (h : settings version cfg = .error err) :
    (∃ channel target, applyChannel channel target = .error err) ∨
      ∃ level target, applyLogLevel level target = .error err := by
  rcases bind_eq_error.mp h with h | ⟨_, _, h⟩
  · exact Or.inl ⟨_, _, h⟩
  rcases bind_eq_error.mp h with h | ⟨_, _, h⟩
  · exact Or.inr ⟨_, _, h⟩
  rcases bind_eq_error.mp h with h | ⟨_, _, h⟩
  · exact Or.inr ⟨_, _, h⟩
  cases h

lemma settings_ok_iff : (∃ config, settings version cfg = .ok config) ↔ Acceptable cfg := by
  simp only [settings, bind_eq_ok, Except.ok.injEq]
  constructor
  · rintro ⟨_, b, hb, l, hl, l', hl', _⟩
    exact ⟨(applyChannel_ok_iff _).mp ⟨b, hb⟩,
      validValue_elim.mp ((applyLogLevel_ok_iff _).mp ⟨l, hl⟩),
      validValue_elim.mp ((applyLogLevel_ok_iff _).mp ⟨l', hl'⟩)⟩
  · rintro ⟨hch, hc, hd⟩
    obtain ⟨b, hb⟩ := (applyChannel_ok_iff defaultConfig.experimentalFeatures).mpr hch
    obtain ⟨l, hl⟩ :=
      (applyLogLevel_ok_iff defaultConfig.controlPlaneLogLevel).mpr (validValue_elim.mpr hc)
    obtain ⟨l', hl'⟩ :=
      (applyLogLevel_ok_iff defaultConfig.dataPlaneLogLevel).mpr (validValue_elim.mpr hd)
    exact ⟨_, b, hb, l, hl, l', hl', rfl⟩

end Settings

lemma readConfig_decode_error {err : GoError} (hd : lib.decodeInto raw = .error err) :
    readConfig lib version (some raw) =
      .error (.wrap "failed to decode envoy-gateway providerConfig" err) := by
  rw [readConfig, hd]
  rfl

lemma readConfig_some_ok_iff : (∃ config, readConfig lib version (some raw) = .ok config) ↔
    ∃ cfg, lib.decodeInto raw = .ok cfg ∧ Acceptable cfg := by
  cases hd : lib.decodeInto raw with
  | error err => simp [readConfig_decode_error hd]
  | ok cfg => simp [readConfig_decoded hd, settings_ok_iff]

lemma readConfig_replicas {config : Config} (h : readConfig lib version (some raw) = .ok config) :
    ∃ cfg, lib.decodeInto raw = .ok cfg ∧
      config.controlPlaneReplicas = cfg.controlPlane.bind (·.replicas) ∧
      config.dataPlaneReplicas = cfg.dataPlane.bind (·.replicas) ∧
      config.dataPlaneLogLevel ∈ validLogLevels := by
  obtain ⟨cfg, hd, _⟩ := readConfig_some_ok_iff.mp ⟨config, h⟩
  rw [readConfig_decoded hd] at h
  simp only [settings, bind_eq_ok, Except.ok.injEq] at h
  obtain ⟨_, _, _, _, level, hlevel, rfl⟩ := h
  exact ⟨cfg, hd, rfl, rfl, applyLogLevel_valid (by decide) hlevel⟩

end EnvoyGatewayExtension.Actuator
