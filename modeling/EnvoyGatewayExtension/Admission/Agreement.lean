import EnvoyGatewayExtension.Actuator.Configuration
import EnvoyGatewayExtension.Actuator.Deliveries
import EnvoyGatewayExtension.Admission.Shoot

namespace EnvoyGatewayExtension.Admission

open Effects Kubernetes EnvoyGateway Actuator

variable {lib : Libraries} {raw : Bytes}

section Validation

lemma checkValue_eq_ok {field value : String} {valid : List String} {u : Unit} :
    checkValue field value valid = .ok u ↔ ValidValue value valid := by
  unfold checkValue ValidValue
  split_ifs with h
  · exact ⟨fun _ => h, fun _ => rfl⟩
  · exact ⟨fun hu => (by cases hu), fun hv => absurd hv h⟩

lemma validateLogLevel_eq_ok {cp : Option ControlPlaneConfig} {u : Unit} :
    validateLogLevel cp = .ok u ↔ ∀ c, cp = some c → ValidValue c.logLevel validLogLevels := by
  cases cp with
  | none => exact ⟨fun _ c hc => (by cases hc), fun _ => rfl⟩
  | some c => simp [validateLogLevel, checkValue_eq_ok]

lemma validateDataPlaneLogLevel_eq_ok {dp : Option DataPlaneConfig} {u : Unit} :
    validateDataPlaneLogLevel dp = .ok u ↔ ∀ d, dp = some d →
    ValidValue d.logLevel validLogLevels := by
  cases dp with
  | none => exact ⟨fun _ d hd => (by cases hd), fun _ => rfl⟩
  | some d => simp [validateDataPlaneLogLevel, checkValue_eq_ok]

lemma validateProviderConfig_eq_ok {warnings : List String} :
    validateProviderConfig lib raw = .ok warnings ↔
    ∃ cfg, lib.decodeInto raw = .ok cfg ∧ Acceptable cfg ∧
      warnings = if cfg.channel = channelExperimental then [experimentalWarning] else [] := by
  simp only [validateProviderConfig, bind_eq_ok, mapError_eq_ok, validateLogLevel_eq_ok,
    validateDataPlaneLogLevel_eq_ok, checkValue_eq_ok, Except.ok.injEq]
  constructor
  · rintro ⟨cfg, hd, _, hcp, _, hdp, _, hch, hw⟩
    exact ⟨cfg, hd, ⟨hch, hcp, hdp⟩, hw.symm⟩
  · rintro ⟨cfg, hd, ⟨hch, hcp, hdp⟩, hw⟩
    exact ⟨cfg, hd, (), hcp, (), hdp, (), hch, hw.symm⟩

lemma validateProviderConfig_ok_iff : (∃ warnings, validateProviderConfig lib raw = .ok warnings) ↔
    ∃ cfg, lib.decodeInto raw = .ok cfg ∧ Acceptable cfg := by
  simp only [validateProviderConfig_eq_ok]
  constructor
  · rintro ⟨_, cfg, hd, hacc, _⟩
    exact ⟨cfg, hd, hacc⟩
  · rintro ⟨cfg, hd, hacc⟩
    exact ⟨_, cfg, hd, hacc, rfl⟩

end Validation

end EnvoyGatewayExtension.Admission
