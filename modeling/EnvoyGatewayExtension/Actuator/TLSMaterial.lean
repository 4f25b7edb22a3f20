import EnvoyGatewayExtension.Actuator.Deliveries
import EnvoyGatewayExtension.Kubernetes.Selectors

namespace EnvoyGatewayExtension.Actuator

open Effects Kubernetes EnvoyGateway Stores

variable {lib : Libraries} {generate : Generator} {w w' : World} {ex : Invocation} {config : Config}
  {tr : List (Answered clusters GoError World)} {generated : Store String Data} {tls : TLSBundle}
  {resources : Resources}

section Materials

def generatedValue (generated : Store String Data) (name key : String) : Bytes :=
  ((generated.lookup name).map (·.value key)).getD []

structure Material where
  entry : String
  values : List (String × String × String)

def materials : List Material :=
  [⟨"secret-tls.yaml", [("tls.crt", xdsServerCertSecretName, dataKeyCertificate),
      ("tls.key", xdsServerCertSecretName, dataKeyPrivateKey),
        ("ca.crt", caSecretName, dataKeyCertificateCA)]⟩,
    ⟨"secret-envoy.yaml", [("tls.crt", envoyClientCertSecretName, dataKeyCertificate),
      ("tls.key", envoyClientCertSecretName, dataKeyPrivateKey),
        ("ca.crt", caSecretName, dataKeyCertificateCA)]⟩,
    ⟨"secret-hmac.yaml", [(hmacSecretKey, hmacSecretName, hmacSecretKey)]⟩]

def Complete (generated : Store String Data) : Prop :=
  ∀ m ∈ materials, ∀ v ∈ m.values, generatedValue generated v.2.1 v.2.2 ≠ []

def Material.data (m : Material) (generated : Store String Data) : List (String × Bytes) :=
  m.values.map fun v => (v.1, generatedValue generated v.2.1 v.2.2)

def secretData (resources : Resources) (entry : String) : Option Data :=
  match resources.lookup entry with
  | some [⟨_, _, _, .secret _ data⟩] => some data
  | _ => none

structure Whole (generated : Store String Data) (resources : Resources) : Prop where
  carries : ∀ m ∈ materials, ∃ data, secretData resources m.entry = some data ∧
    (∀ k v, data.lookup k = some v ↔ ∃ name key, (k, name, key) ∈ m.values ∧
      v = generatedValue generated name key) ∧
    ∀ k v, data.lookup k = some v → v ≠ []
  sameCA : ∃ server client ca, secretData resources "secret-tls.yaml" = some server ∧
    secretData resources "secret-envoy.yaml" = some client ∧
    server.lookup "ca.crt" = some ca ∧ client.lookup "ca.crt" = some ca

def bundleFrom (generated : Store String Data) : TLSBundle where
  certPEM := generatedValue generated xdsServerCertSecretName dataKeyCertificate
  keyPEM := generatedValue generated xdsServerCertSecretName dataKeyPrivateKey
  caPEM := generatedValue generated caSecretName dataKeyCertificateCA
  clientCertPEM := generatedValue generated envoyClientCertSecretName dataKeyCertificate
  clientKeyPEM := generatedValue generated envoyClientCertSecretName dataKeyPrivateKey
  hmacBytes := generatedValue generated hmacSecretName hmacSecretKey

lemma generatedValue_of_lookup {name key : String} {data : Data}
    (h : generated.lookup name = some data) :
    generatedValue generated name key = data.value key := by
  rw [generatedValue, h]
  rfl

lemma generatedValue_of_missing {name key : String} (h : generated.lookup name = none) :
    generatedValue generated name key = [] := by
  rw [generatedValue, h]
  rfl

lemma complete_iff : Complete generated ↔
    ((bundleFrom generated).certPEM ≠ [] ∧ (bundleFrom generated).keyPEM ≠ [] ∧
      (bundleFrom generated).caPEM ≠ []) ∧
    ((bundleFrom generated).clientCertPEM ≠ [] ∧ (bundleFrom generated).clientKeyPEM ≠ [] ∧
      (bundleFrom generated).caPEM ≠ []) ∧ (bundleFrom generated).hmacBytes ≠ [] := by
  simp only [Complete, materials, List.forall_mem_cons, List.not_mem_nil, false_imp_iff,
    implies_true, and_true, bundleFrom]

lemma exists_of_generatedValue_ne {name key : String} (h : generatedValue generated name key ≠ []) :
    ∃ data, generated.lookup name = some data := by
  cases hl : generated.lookup name with
  | none => exact absurd (generatedValue_of_missing hl) h
  | some data => exact ⟨data, rfl⟩

lemma bundleFrom_of_lookup {ca server client hmac : Data}
    (hca : generated.lookup caSecretName = some ca)
    (hserver : generated.lookup xdsServerCertSecretName = some server)
    (hclient : generated.lookup envoyClientCertSecretName = some client)
    (hhmac : generated.lookup hmacSecretName = some hmac) : bundleFrom generated =
      ⟨server.value dataKeyCertificate, server.value dataKeyPrivateKey,
        ca.value dataKeyCertificateCA,
        client.value dataKeyCertificate, client.value dataKeyPrivateKey,
          hmac.value hmacSecretKey⟩ := by
  simp only [bundleFrom, generatedValue_of_lookup hca, generatedValue_of_lookup hserver,
    generatedValue_of_lookup hclient, generatedValue_of_lookup hhmac]

lemma bundleOf_ok_iff {name : String} :
    bundleOf name generated = .ok tls ↔ Complete generated ∧ tls = bundleFrom generated := by
  -- the four nil checks and the six length checks ask together for a complete set
  constructor
  · intro hb
    unfold bundleOf at hb
    split at hb
    · rename_i ca server client hmac hca hserver hclient hhmac
      have hfrom := bundleFrom_of_lookup hca hserver hclient hhmac
      dsimp only at hb
      split_ifs at hb with hempty
      cases hb
      simp only [not_or] at hempty
      obtain ⟨hcert, hkey, hcaPEM, hclientCert, hclientKey, hhmacBytes⟩ := hempty
      rw [complete_iff, hfrom]
      exact ⟨⟨⟨hcert, hkey, hcaPEM⟩, ⟨hclientCert, hclientKey, hcaPEM⟩, hhmacBytes⟩, rfl⟩
    · cases hb
  · rintro ⟨hcomplete, rfl⟩
    obtain ⟨⟨hcert, hkey, hcaPEM⟩, ⟨hclientCert, hclientKey, _⟩, hhmacBytes⟩ :=
      complete_iff.mp hcomplete
    obtain ⟨ca, hca⟩ := exists_of_generatedValue_ne hcaPEM
    obtain ⟨server, hserver⟩ := exists_of_generatedValue_ne hcert
    obtain ⟨client, hclient⟩ := exists_of_generatedValue_ne hclientCert
    obtain ⟨hmac, hhmac⟩ := exists_of_generatedValue_ne hhmacBytes
    rw [bundleFrom_of_lookup hca hserver hclient hhmac] at *
    rw [bundleOf, hca, hserver, hclient, hhmac]
    dsimp only
    rw [if_neg]
    simp only [not_or]
    exact ⟨hcert, hkey, hcaPEM, hclientCert, hclientKey, hhmacBytes⟩

lemma Whole.complete (h : Whole generated resources) : Complete generated := by
  intro m hm v hv
  obtain ⟨data, _, hlookup, hne⟩ := h.carries m hm
  exact hne v.1 _ ((hlookup v.1 _).mpr ⟨v.2.1, v.2.2, hv, rfl⟩)

end Materials

section Reconcile

variable {out : Except GoError Unit} {shoot : Shoot}

end Reconcile

end EnvoyGatewayExtension.Actuator
