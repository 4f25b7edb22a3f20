import EnvoyGatewayExtension.Admission.Agreement

namespace EnvoyGatewayExtension.Admission

open Kubernetes EnvoyGateway Actuator

variable {lib : Libraries} {shoot : ShootSpec} {entry : Extension}

def Extension.raw (ext : Extension) : Bytes := ext.providerConfig.getD []

def EnabledEntry (exts : List Extension) (entry : Extension) : Prop :=
  entry ∈ exts ∧ entry.type = extensionType ∧ entry.Enabled

def Misconfigured (lib : Libraries) (raw : Bytes) : Prop :=
  raw ≠ [] ∧ ∀ cfg, lib.decodeInto raw = .ok cfg → ¬ Acceptable cfg

def SelectsExperimental (lib : Libraries) (raw : Bytes) : Prop :=
  raw ≠ [] ∧ ∃ cfg, lib.decodeInto raw = .ok cfg ∧ cfg.channel = channelExperimental

structure Warns (lib : Libraries) (exts : List Extension) (entry : Extension)
    (warnings : List String) : Prop where
  once : warnings.Nodup
  texts : ∀ text, text ∈ warnings ↔ (text = traefikWarning ∧ TraefikEnabled exts) ∨
    (text = experimentalWarning ∧ SelectsExperimental lib entry.raw)

section Warnings

lemma experimentalWarning_ne : traefikWarning ≠ experimentalWarning := by decide

lemma warns_append {exts : List Extension} {experimental : List String}
    (hex : experimental = [experimentalWarning] ∧ SelectsExperimental lib entry.raw ∨
      experimental = [] ∧ ¬ SelectsExperimental lib entry.raw) :
    Warns lib exts entry
      ((if TraefikEnabled exts then [traefikWarning] else []) ++ experimental) := by
  have hne := experimentalWarning_ne
  rcases hex with ⟨rfl, hs⟩ | ⟨rfl, hs⟩
  · by_cases ht : TraefikEnabled exts
    · exact ⟨by simp [ht, hne], by simp [ht, hs]⟩
    · exact ⟨by simp [ht], by simp [ht, hs]⟩
  · by_cases ht : TraefikEnabled exts
    · exact ⟨by simp [ht], by simp [ht, hs]⟩
    · exact ⟨by simp [ht], by simp [ht, hs]⟩

lemma experimental_cases {warnings : List String}
    (h : validateProviderConfig lib entry.raw = .ok warnings) (hraw : entry.raw ≠ []) :
    warnings = [experimentalWarning] ∧ SelectsExperimental lib entry.raw ∨
      warnings = [] ∧ ¬ SelectsExperimental lib entry.raw := by
  obtain ⟨cfg, hd, _, rfl⟩ := validateProviderConfig_eq_ok.mp h
  by_cases hc : cfg.channel = channelExperimental
  · rw [if_pos hc]
    exact Or.inl ⟨rfl, hraw, cfg, hd, hc⟩
  · rw [if_neg hc]
    refine Or.inr ⟨rfl, ?_⟩
    rintro ⟨_, cfg', hd', hc'⟩
    rw [hd] at hd'
    cases hd'
    exact hc hc'

end Warnings

section Verdict

variable (hd : (shoot.extensions.map Extension.type).Nodup)
include hd

lemma warns_of_admitted (he : EnabledEntry shoot.extensions entry) {warnings : List String}
    (h : validateShoot lib shoot = .ok warnings) : Warns lib shoot.extensions entry warnings := by
  obtain ⟨hm, ht, hon⟩ := he
  by_cases hp : shoot.purpose = some shootPurposeEvaluation
  · rw [validateShoot_of_enabled lib hd hm ht hon hp] at h
    change (if entry.raw = [] then _ else (validateProviderConfig lib entry.raw).map _) = _ at h
    by_cases hraw : entry.raw = []
    · rw [if_pos hraw] at h
      cases h
      have hw : Warns lib shoot.extensions entry
          ((if TraefikEnabled shoot.extensions then [traefikWarning] else []) ++ []) :=
        warns_append (Or.inr ⟨rfl, fun hs => hs.1 hraw⟩)
      rwa [List.append_nil] at hw
    · rw [if_neg hraw] at h
      cases hv : validateProviderConfig lib entry.raw with
      | error e =>
        rw [hv] at h
        cases h
      | ok own =>
        rw [hv] at h
        cases h
        exact warns_append (experimental_cases hv hraw)
  · rw [validateShoot_of_purpose lib hd hm ht hon hp] at h
    cases h

lemma refused_iff_of_enabled (he : EnabledEntry shoot.extensions entry) :
    (∃ err, validateShoot lib shoot = .error err) ↔
      shoot.purpose ≠ some shootPurposeEvaluation ∨ Misconfigured lib entry.raw := by
  obtain ⟨hm, ht, hon⟩ := he
  by_cases hp : shoot.purpose = some shootPurposeEvaluation
  · rw [validateShoot_of_enabled lib hd hm ht hon hp]
    change (∃ err,
      (if entry.raw = [] then _ else (validateProviderConfig lib entry.raw).map _) = _) ↔ _
    by_cases hraw : entry.raw = []
    · simp [hraw, hp, Misconfigured]
    · rw [if_neg hraw, exists_eq_error, exists_map_eq_ok, validateProviderConfig_ok_iff]
      simp [hp, hraw, Misconfigured]
  · rw [validateShoot_of_purpose lib hd hm ht hon hp]
    simp [hp]

lemma admitted_of_not_enabled (h : ∀ entry, ¬ EnabledEntry shoot.extensions entry) :
    validateShoot lib shoot = .ok [] := by
  by_cases hex : ∃ entry ∈ shoot.extensions, entry.type = extensionType
  · obtain ⟨entry, hm, ht⟩ := hex
    exact validateShoot_of_disabled lib hd hm ht fun hon => h entry ⟨hm, ht, hon⟩
  · apply validateShoot_of_absent
    intro ext hm ht
    exact hex ⟨ext, hm, ht⟩

lemma refused_iff : (∃ err, validateShoot lib shoot = .error err) ↔
    ∃ entry, EnabledEntry shoot.extensions entry ∧
      (shoot.purpose ≠ some shootPurposeEvaluation ∨ Misconfigured lib entry.raw) := by
  constructor
  · rintro ⟨err, herr⟩
    by_cases hex : ∃ entry, EnabledEntry shoot.extensions entry
    · obtain ⟨entry, he⟩ := hex
      exact ⟨entry, he, (refused_iff_of_enabled hd he).mp ⟨err, herr⟩⟩
    · rw [admitted_of_not_enabled hd (not_exists.mp hex)] at herr
      cases herr
  · rintro ⟨entry, he, hbad⟩
    exact (refused_iff_of_enabled hd he).mpr hbad

end Verdict

section Order

variable {exts : List Extension} (hperm : exts.Perm shoot.extensions)
include hperm

lemma traefikEnabled_perm : TraefikEnabled exts ↔ TraefikEnabled shoot.extensions := by
  simp only [TraefikEnabled, hperm.mem_iff]

lemma enabledEntry_perm : EnabledEntry exts entry ↔ EnabledEntry shoot.extensions entry := by
  simp only [EnabledEntry, hperm.mem_iff]

lemma validateShoot_perm (hd : (shoot.extensions.map Extension.type).Nodup) :
    validateShoot lib { shoot with extensions := exts } = validateShoot lib shoot := by
  have hd' : (exts.map Extension.type).Nodup := (hperm.map Extension.type).nodup_iff.mpr hd
  by_cases hex : ∃ entry, EnabledEntry shoot.extensions entry
  · obtain ⟨entry, he⟩ := hex
    obtain ⟨hm, ht, hon⟩ := he
    have hm' : entry ∈ exts := hperm.mem_iff.mpr hm
    by_cases hp : shoot.purpose = some shootPurposeEvaluation
    · rw [validateShoot_of_enabled lib hd hm ht hon hp,
        @validateShoot_of_enabled lib ⟨shoot.purpose, exts⟩ hd' _ hm' ht hon hp]
      simp only [traefikEnabled_perm hperm]
    · rw [validateShoot_of_purpose lib hd hm ht hon hp,
        @validateShoot_of_purpose lib ⟨shoot.purpose, exts⟩ hd' _ hm' ht hon hp]
  · have hnone := not_exists.mp hex
    rw [admitted_of_not_enabled hd hnone]
    apply admitted_of_not_enabled hd'
    intro entry he
    exact hnone entry ((enabledEntry_perm hperm).mp he)

end Order

theorem admission_exact (lib : Libraries) (shoot : ShootSpec)
    (hdistinct : (shoot.extensions.map Extension.type).Nodup) :
    ((∃ err, validateShoot lib shoot = .error err) ↔
      ∃ entry, EnabledEntry shoot.extensions entry ∧
        (shoot.purpose ≠ some shootPurposeEvaluation ∨ Misconfigured lib entry.raw)) ∧
    (∀ entry, EnabledEntry shoot.extensions entry →
      ∀ warnings, validateShoot lib shoot = .ok warnings →
      Warns lib shoot.extensions entry warnings) ∧
    ((∀ entry, ¬ EnabledEntry shoot.extensions entry) → validateShoot lib shoot = .ok []) ∧
    ∀ exts, exts.Perm shoot.extensions →
      validateShoot lib { shoot with extensions := exts } = validateShoot lib shoot := by
  refine ⟨refused_iff hdistinct, ?_, admitted_of_not_enabled hdistinct, ?_⟩
  · intro entry he warnings hw
    exact warns_of_admitted hdistinct he hw
  · intro exts hperm
    exact validateShoot_perm hperm hdistinct

theorem both_warnings_in_either_order :
    validateShoot (sampleLibraries { channel := "experimental" })
      { purpose := some "evaluation"
        extensions := [{ type := "shoot-traefik" },
          { type := "envoy-gateway", providerConfig := some [1] }] } =
      .ok [traefikWarning, experimentalWarning] ∧
    validateShoot (sampleLibraries { channel := "experimental" })
      { purpose := some "evaluation"
        extensions := [{ type := "envoy-gateway", providerConfig := some [1] },
          { type := "shoot-traefik" }] } =
      .ok [traefikWarning, experimentalWarning] ∧
    Warns (sampleLibraries { channel := "experimental" })
      [{ type := "shoot-traefik" }, { type := "envoy-gateway", providerConfig := some [1] }]
      { type := "envoy-gateway", providerConfig := some [1] }
        [traefikWarning, experimentalWarning] := by
  have hfirst : validateShoot (sampleLibraries { channel := "experimental" })
      { purpose := some "evaluation", extensions := [{ type := "shoot-traefik" },
        { type := "envoy-gateway", providerConfig := some [1] }] } =
          .ok [traefikWarning, experimentalWarning] := rfl
  obtain ⟨_, hwarns, _, hperm⟩ := admission_exact (sampleLibraries { channel := "experimental" })
    { purpose := some "evaluation", extensions := [{ type := "shoot-traefik" },
      { type := "envoy-gateway", providerConfig := some [1] }] } (by decide)
  refine ⟨hfirst, ?_, ?_⟩
  · rw [← hfirst]
    exact hperm _ (List.Perm.swap _ _ _)
  · exact hwarns _ ⟨by simp, rfl, by decide⟩ _ hfirst

end EnvoyGatewayExtension.Admission
