import EnvoyGatewayExtension.EnvoyGateway.Config

namespace EnvoyGatewayExtension.Admission

open Kubernetes EnvoyGateway

def extensionType : String := "envoy-gateway"
def traefikExtensionType : String := "shoot-traefik"
def shootPurposeEvaluation : String := "evaluation"

structure Extension where
  type : String
  disabled : Option Bool := none
  /-- The raw bytes of the providerConfig; no bytes at all are an empty list. -/
  providerConfig : Option Bytes := none
  deriving DecidableEq

def Extension.Enabled (ext : Extension) : Prop := ext.disabled ≠ some true

instance (ext : Extension) : Decidable ext.Enabled := inferInstanceAs (Decidable (_ ≠ _))

structure ShootSpec where
  purpose : Option String := none
  extensions : List Extension := []

structure Scan where
  hasEnvoyGateway : Bool := false
  hasTraefik : Bool := false
  providerCfgRaw : Bytes := []
  deriving DecidableEq

/-- The loop over the extensions; `none` is its early return at a disabled entry. -/
def scanExtensions : List Extension → Scan → Option Scan
  | [], scan => some scan
  | ext :: exts, scan =>
    if ext.type = traefikExtensionType ∧ ext.Enabled then
      scanExtensions exts { scan with hasTraefik := true }
    else if ext.type ≠ extensionType then scanExtensions exts scan
    else if ¬ ext.Enabled then none
    else scanExtensions exts
      { scan with
        hasEnvoyGateway := true
        providerCfgRaw := ext.providerConfig.getD scan.providerCfgRaw }

def purposeError (purpose : Option String) : GoError :=
  .text ("envoy-gateway extension can only be enabled for shoots with purpose 'evaluation' " ++
    "(current: " ++ purpose.getD "nil" ++
    "). This scope restriction is part of the GEP-68 incubation phase")

def traefikWarning : String :=
  "both the shoot-traefik (GEP-57) and envoy-gateway (GEP-68) extensions are enabled on this " ++
    "shoot. Running both ingress paths doubles the load-balancer cost; a single ingress path " ++
    "per shoot is recommended in production."

def experimentalWarning : String :=
  "envoy-gateway providerConfig selects channel 'experimental'. " ++
    "The experimental-channel Gateway API CRDs (TCPRoute, TLSRoute, UDPRoute, BackendTLSPolicy) " ++
    "may change in backwards-incompatible ways between releases."

def checkValue (field value : String) (valid : List String) : Except GoError Unit :=
  if value = "" ∨ value ∈ valid then .ok ()
  else .error (.text ("invalid envoy-gateway providerConfig: " ++ field ++ " " ++ quoted value ++
    " must be one of " ++ ", ".intercalate valid))

def validateLogLevel : Option ControlPlaneConfig → Except GoError Unit
  | none => .ok ()
  | some cp => checkValue "controlPlane.logLevel" cp.logLevel validLogLevels

def validateDataPlaneLogLevel : Option DataPlaneConfig → Except GoError Unit
  | none => .ok ()
  | some dp => checkValue "dataPlane.logLevel" dp.logLevel validLogLevels

def validateProviderConfig (lib : Libraries) (raw : Bytes) : Except GoError (List String) := do
  let cfg ← (lib.decodeInto raw).mapError (.wrap "invalid envoy-gateway providerConfig")
  validateLogLevel cfg.controlPlane
  validateDataPlaneLogLevel cfg.dataPlane
  checkValue "channel" cfg.channel validChannels
  .ok (if cfg.channel = channelExperimental then [experimentalWarning] else [])

def validateShoot (lib : Libraries) (shoot : ShootSpec) : Except GoError (List String) :=
  match scanExtensions shoot.extensions {} with
  | none => .ok []
  | some scan =>
    if scan.hasEnvoyGateway = false then .ok []
    else if shoot.purpose ≠ some shootPurposeEvaluation then .error (purposeError shoot.purpose)
    else
      let warnings := if scan.hasTraefik then [traefikWarning] else []
      if scan.providerCfgRaw = [] then .ok warnings
      else (validateProviderConfig lib scan.providerCfgRaw).map (warnings ++ ·)

example : checkValue "controlPlane.logLevel" "trace" validLogLevels =
    .error (.text
      ("invalid envoy-gateway providerConfig: controlPlane.logLevel \"trace\" must be one of " ++
      "debug, info, warn, error")) := by
  decide +kernel

section Scanning

def TraefikEnabled (exts : List Extension) : Prop :=
  ∃ ext ∈ exts, ext.type = traefikExtensionType ∧ ext.Enabled

instance (exts : List Extension) : Decidable (TraefikEnabled exts) :=
  inferInstanceAs (Decidable (∃ _ ∈ _, _))

@[simp] lemma not_traefikEnabled_nil : ¬ TraefikEnabled [] := by
  simp [TraefikEnabled]

@[simp] lemma traefikEnabled_cons {ext : Extension} {exts : List Extension} :
    TraefikEnabled (ext :: exts) ↔ (ext.type = traefikExtensionType ∧ ext.Enabled) ∨
    TraefikEnabled exts := by
  simp [TraefikEnabled]

lemma traefikExtensionType_ne : traefikExtensionType ≠ extensionType := by decide

lemma scanExtensions_of_absent {exts : List Extension} (h : ∀ ext ∈ exts, ext.type ≠ extensionType)
    (scan : Scan) :
    scanExtensions exts scan =
      some { scan with hasTraefik := scan.hasTraefik || decide (TraefikEnabled exts) } := by
  induction exts generalizing scan with
  | nil => simp [scanExtensions]
  | cons ext exts ih =>
    obtain ⟨hext, hexts⟩ := List.forall_mem_cons.mp h
    rw [scanExtensions, if_pos hext]
    split_ifs with ht
    · rw [ih hexts]
      simp [ht]
    · rw [ih hexts]
      simp [ht]

lemma scanExtensions_of_distinct {exts : List Extension} (hd : (exts.map Extension.type).Nodup)
    {entry : Extension} (hm : entry ∈ exts) (ht : entry.type = extensionType) (scan : Scan) :
    scanExtensions exts scan =
      if entry.Enabled then
        some
          { hasEnvoyGateway := true
            hasTraefik := scan.hasTraefik || decide (TraefikEnabled exts)
            providerCfgRaw := entry.providerConfig.getD scan.providerCfgRaw }
      else none := by
  induction exts generalizing scan with
  | nil => cases hm
  | cons ext exts ih =>
    obtain ⟨hfresh, hd⟩ := List.nodup_cons.mp hd
    rcases List.mem_cons.mp hm with rfl | hm
    · have habsent : ∀ ext ∈ exts, ext.type ≠ extensionType := by
        intro ext he hte
        exact hfresh (List.mem_map.mpr ⟨ext, he, hte.trans ht.symm⟩)
      have htraefik : ¬ (entry.type = traefikExtensionType ∧ entry.Enabled) := by
        rintro ⟨hte, _⟩
        exact traefikExtensionType_ne (hte.symm.trans ht)
      rw [scanExtensions, if_neg htraefik, if_neg (not_not.mpr ht)]
      by_cases he : entry.Enabled
      · rw [if_neg (not_not.mpr he), if_pos he, scanExtensions_of_absent habsent]
        simp [htraefik]
      · rw [if_pos he, if_neg he]
    · have hne : ext.type ≠ extensionType := by
        intro hte
        exact hfresh (List.mem_map.mpr ⟨entry, hm, ht.trans hte.symm⟩)
      rw [scanExtensions, if_pos hne]
      split_ifs with h₁ h₂
      · rw [ih hd hm, if_pos h₂]
        simp [h₁]
      · rw [ih hd hm, if_neg h₂]
      · rw [ih hd hm, if_pos ‹_›]
        simp [h₁]
      · rw [ih hd hm, if_neg ‹_›]

end Scanning

section Verdicts

variable (lib : Libraries) {shoot : ShootSpec}

lemma validateShoot_of_absent (h : ∀ ext ∈ shoot.extensions, ext.type ≠ extensionType) :
    validateShoot lib shoot = .ok [] := by
  rw [validateShoot, scanExtensions_of_absent h]
  rfl

lemma validateShoot_of_disabled (hd : (shoot.extensions.map Extension.type).Nodup)
    {entry : Extension}
    (hm : entry ∈ shoot.extensions) (ht : entry.type = extensionType) (he : ¬ entry.Enabled) :
    validateShoot lib shoot = .ok [] := by
  rw [validateShoot, scanExtensions_of_distinct hd hm ht, if_neg he]

lemma validateShoot_of_purpose (hd : (shoot.extensions.map Extension.type).Nodup)
    {entry : Extension}
    (hm : entry ∈ shoot.extensions) (ht : entry.type = extensionType) (he : entry.Enabled)
    (hp : shoot.purpose ≠ some shootPurposeEvaluation) :
    validateShoot lib shoot = .error (purposeError shoot.purpose) := by
  rw [validateShoot, scanExtensions_of_distinct hd hm ht, if_pos he]
  simp [hp]

lemma validateShoot_of_enabled (hd : (shoot.extensions.map Extension.type).Nodup)
    {entry : Extension} (hm : entry ∈ shoot.extensions) (ht : entry.type = extensionType)
    (he : entry.Enabled) (hp : shoot.purpose = some shootPurposeEvaluation) :
    validateShoot lib shoot =
      let warnings := if TraefikEnabled shoot.extensions then [traefikWarning] else []
      if entry.providerConfig.getD [] = [] then .ok warnings
      else (validateProviderConfig lib (entry.providerConfig.getD [])).map (warnings ++ ·) := by
  rw [validateShoot, scanExtensions_of_distinct hd hm ht, if_pos he]
  simp [hp]

end Verdicts

end EnvoyGatewayExtension.Admission
