import EnvoyGatewayExtension.Actuator.TLSMaterial

namespace EnvoyGatewayExtension.Actuator

open Effects Kubernetes EnvoyGateway Stores Relation

structure PKI where
  caPEM : ℕ → Bytes
  serverPEM : ℕ → Bytes
  clientPEM : ℕ → Bytes
  verifies : Bytes → Bytes → Prop
  verifies_server : ∀ a b, verifies (caPEM a) (serverPEM b) ↔ a = b
  verifies_client : ∀ a b, verifies (caPEM a) (clientPEM b) ↔ a = b

/-- The secret generated for one config: the newest CA, a server certificate signed by the old CA
for as long as that is kept, a client certificate signed by the newest. -/
def Issued (pki : PKI) (ca : CAState) (c : SecretConfigWithOptions) (data : Data) : Prop :=
  match c.config with
  | .certificate _ _ _ .caCert _ => data.value dataKeyCertificateCA = pki.caPEM ca.newest
  | .certificate _ _ _ .serverCert _ =>
    .signedByCA caSecretName ∈ c.options → data.value dataKeyCertificate = pki.serverPEM
      (ca.old.getD ca.newest)
  | .certificate _ _ _ .clientCert _ =>
    .signedByCA caSecretName ∈ c.options → data.value dataKeyCertificate = pki.clientPEM ca.newest
  | .hmac _ => True

def Documented (pki : PKI) (generate : Generator) : Prop :=
  ∀ ca generated, generate ca secretConfigs = .ok generated → ∀ c ∈ secretConfigs, ∀ data,
    generated.lookup c.config.getName = some data → Issued pki ca c data

inductive Rotates : CAState → CAState → Prop
  | start {n : ℕ} : Rotates { newest := n } { newest := n + 1, old := some n }
  | complete {n o : ℕ} {h : ∀ m, some o = some m → m < n} :
      Rotates { newest := n, old := some o, old_lt := h } { newest := n }

inductive Rotations (lib : Libraries) (generate : Generator) : CAState → List Episode → Prop
  | nil {ca : CAState} : Rotations lib generate ca []
  | cons {ca : CAState} {ep : Episode} {eps : List Episode} :
      ReflTransGen Rotates ca ep.before.ca → ep.op = .reconcile →
      Exec (answers generate) (ep.op.program lib ep.ex) ep.before ep.trace ep.outcome ep.after →
      Rotations lib generate ep.after.ca eps → Rotations lib generate ca (ep :: eps)

def Episode.Ships (ep : Episode) (ms : List Manifest) : Prop :=
  ∃ e ∈ ep.trace, ∃ keepObjects, e.call = .createForShoot keepObjects ms

def secretKey (name : String) : ObjectKey := ⟨"", kindSecret, «namespace», name⟩

def secretValue (m : Manifest) (key : String) : Bytes :=
  match m.body with
  | .secret _ data => data.value key
  | _ => []

def MutuallyTrusted (pki : PKI) (ms : List Manifest) : Prop :=
  ∃ server ∈ ms, ∃ client ∈ ms, server.key = secretKey tlsSecretName ∧
    client.key = secretKey envoySecretName ∧ ∀ m ∈ [server, client], ∀ peer ∈ [server, client],
      pki.verifies (secretValue m dataKeyCertificateCA) (secretValue peer dataKeyCertificate)

variable {lib : Libraries} {generate : Generator} {pki : PKI} {w w' : World}
  {ex : Invocation} {ca : CAState} {tls : TLSBundle}

section Bundle

structure BundledWith (pki : PKI) (ca : CAState) (tls : TLSBundle) : Prop where
  caPEM : tls.caPEM = pki.caPEM ca.newest
  certPEM : tls.certPEM = pki.serverPEM (ca.old.getD ca.newest)
  clientCertPEM : tls.clientCertPEM = pki.clientPEM ca.newest
  server_complete : tls.certPEM ≠ []
  client_complete : tls.clientCertPEM ≠ [] ∧ tls.clientKeyPEM ≠ [] ∧ tls.caPEM ≠ []

lemma bundledWith_of_generate {name : String} {generated : Store String Data}
    (hd : Documented pki generate)
    (hg : generate ca secretConfigs = .ok generated) (hb : bundleOf name generated = .ok tls) :
    BundledWith pki ca tls := by
  have hissued := hd ca generated hg
  simp only [secretConfigs, List.forall_mem_cons] at hissued
  obtain ⟨hca, hserver, hclient, _⟩ := hissued
  obtain ⟨hcomplete, rfl⟩ := bundleOf_ok_iff.mp hb
  obtain ⟨⟨hcert, _, hcaPEM⟩, ⟨hclientCert, hclientKey, _⟩, _⟩ := complete_iff.mp hcomplete
  obtain ⟨caData, hl₁⟩ := exists_of_generatedValue_ne hcaPEM
  obtain ⟨serverData, hl₂⟩ := exists_of_generatedValue_ne hcert
  obtain ⟨clientData, hl₃⟩ := exists_of_generatedValue_ne hclientCert
  refine ⟨?_, ?_, ?_, hcert, hclientCert, hclientKey, hcaPEM⟩
  · exact (generatedValue_of_lookup hl₁).trans (hca caData hl₁)
  · exact (generatedValue_of_lookup hl₂).trans (hserver serverData hl₂ (List.mem_singleton.mpr rfl))
  · exact (generatedValue_of_lookup hl₃).trans (hclient clientData hl₃ (List.mem_singleton.mpr rfl))

lemma verifies_iff (hb : BundledWith pki ca tls) :
    (∀ m ∈ [tlsSecret tls, envoyClientSecret tls], ∀ peer ∈ [tlsSecret tls, envoyClientSecret tls],
      pki.verifies (secretValue m dataKeyCertificateCA) (secretValue peer dataKeyCertificate)) ↔
    pki.verifies tls.caPEM tls.certPEM := by
  have hclient : pki.verifies tls.caPEM tls.clientCertPEM := by
    rw [hb.caPEM, hb.clientCertPEM]
    exact (pki.verifies_client _ _).mpr rfl
  constructor
  · intro h
    exact h (tlsSecret tls) (by simp) (tlsSecret tls) (by simp)
  · intro h m hm peer hp
    simp only [List.mem_cons, List.not_mem_nil, or_false] at hm hp
    rcases hm with rfl | rfl <;> rcases hp with rfl | rfl
    · exact h
    · exact hclient
    · exact h
    · exact hclient

lemma verifies_server_iff (hb : BundledWith pki ca tls) : pki.verifies tls.caPEM tls.certPEM ↔
      ca.old = none := by
  rw [hb.caPEM, hb.certPEM, pki.verifies_server]
  cases hold : ca.old with
  | none => simp
  | some n =>
    -- the kept CA is an older one, so it is not the one shipped
    have hlt := ca.old_lt n hold
    simp only [Option.getD_some, reduceCtorEq, iff_false]
    omega

lemma mutuallyTrusted_iff {config : Config} {resources : Resources} (hb : BundledWith pki ca tls)
    (hr : buildResources lib config tls = .ok resources) :
    MutuallyTrusted pki (manifestsOf resources) ↔ ca.old = none := by
  rw [← verifies_server_iff hb, ← verifies_iff hb]
  constructor
  · rintro ⟨server, hs, client, hc, hskey, hckey, htrust⟩
    obtain rfl : server = tlsSecret tls := eq_of_secret_key hr hs (by simp [shippedSecrets]) hskey
    obtain rfl : client = envoyClientSecret tls :=
      eq_of_secret_key hr hc (by simp [shippedSecrets]) hckey
    exact htrust
  · intro htrust
    have hserver : tlsSecret tls ∈ manifestsOf resources := by
      refine secret_listed hr (n := "secret-tls.yaml") ?_
      simp [secretObjects, hb.server_complete]
    have hclient : envoyClientSecret tls ∈ manifestsOf resources := by
      refine secret_listed hr (n := "secret-envoy.yaml") ?_
      simp [secretObjects, hb.client_complete]
    exact ⟨_, hserver, _, hclient, rfl, rfl, htrust⟩

end Bundle

section Shipping

variable {tr : List (Answered clusters GoError World)} {out : Except GoError Unit}
  {e : Answered clusters GoError World} {keepObjects : Bool} {ms : List Manifest}

lemma ships_trusted_iff (hd : Documented pki generate)
    (he : Exec (answers generate) (reconcile lib ex) w tr out w') (hm : e ∈ tr)
    (hc : e.call = .createForShoot keepObjects ms) : MutuallyTrusted pki ms ↔ w.ca.old = none := by
  obtain ⟨_, config, _, _, generated, tls, resources, hgen, hbundle, hbuild, rfl⟩ :=
    reconcile_ships he hm hc
  exact mutuallyTrusted_iff (bundledWith_of_generate hd hgen hbundle) hbuild

end Shipping

lemma Rotations.reconciled {eps : List Episode} (hr : Rotations lib generate ca eps) : ∀ ep ∈ eps,
    Exec (answers generate) (reconcile lib ep.ex) ep.before ep.trace ep.outcome ep.after := by
  induction hr with
  | nil => simp
  | cons _ hop he _ ih =>
    refine List.forall_mem_cons.mpr ⟨?_, ih⟩
    rw [hop] at he
    exact he

theorem shipped_trust_iff {eps : List Episode} (hd : Documented pki generate)
    (hr : Rotations lib generate ca eps) :
    (∀ ep ∈ eps, ∀ ms, ep.Ships ms → MutuallyTrusted pki ms) ↔
      ∀ ep ∈ eps, (∃ ms, ep.Ships ms) → ep.before.ca.old = none := by
  have hone : ∀ ep ∈ eps, ∀ ms, ep.Ships ms →
    (MutuallyTrusted pki ms ↔ ep.before.ca.old = none) := by
    rintro ep hep ms ⟨e, hm, keepObjects, hc⟩
    exact ships_trusted_iff hd (hr.reconciled ep hep) hm hc
  constructor
  · rintro h ep hep ⟨ms, hs⟩
    exact (hone ep hep ms hs).mp (h ep hep ms hs)
  · intro h ep hep ms hs
    exact (hone ep hep ms hs).mpr (h ep hep ⟨ms, hs⟩)

section Rotated

lemma exec_ca {α : Type} {p : Op α} {tr : List (Answered clusters GoError World)}
    {out : Except GoError α} (he : Exec (answers generate) p w tr out w') : w'.ca = w.ca := by
  refine (Exec.keeps (J := fun s => s.ca = w.ca) (Prog.uses_any p)
    (fun s c r s' _ ha hs => ?_) he rfl).1
  exact ha.keeps (J := fun t => t.ca = w.ca) hs ((perform_fixed generate s c).2.trans hs)

def samplePEM (kind : UInt8) (n : ℕ) : Bytes := kind :: List.replicate n 0

lemma samplePEM_inj {k k' : UInt8} {a b : ℕ} (h : samplePEM k a = samplePEM k' b) :
    k = k' ∧ a = b := by
  obtain ⟨hk, hn⟩ := List.cons.inj h
  have hlen := congrArg List.length hn
  rw [List.length_replicate, List.length_replicate] at hlen
  exact ⟨hk, hlen⟩

def samplePKI : PKI where
  caPEM := samplePEM 1
  serverPEM := samplePEM 2
  clientPEM := samplePEM 3
  verifies ca cert := ∃ n, ca = samplePEM 1 n ∧ (cert = samplePEM 2 n ∨ cert = samplePEM 3 n)
  verifies_server a b := by
    constructor
    · rintro ⟨n, ha, hb | hb⟩
      · rw [(samplePEM_inj ha).2, (samplePEM_inj hb).2]
      · exact absurd (samplePEM_inj hb).1 (by decide)
    · rintro rfl
      exact ⟨a, rfl, Or.inl rfl⟩
  verifies_client a b := by
    constructor
    · rintro ⟨n, ha, hb | hb⟩
      · exact absurd (samplePEM_inj hb).1 (by decide)
      · rw [(samplePEM_inj ha).2, (samplePEM_inj hb).2]
    · rintro rfl
      exact ⟨a, rfl, Or.inr rfl⟩

def signedSecrets (ca : CAState) : List (String × Data) :=
  [(caSecretName, .ofList [(dataKeyCertificateCA, samplePKI.caPEM ca.newest)]),
    (xdsServerCertSecretName,
      .ofList [(dataKeyCertificate, samplePKI.serverPEM (ca.old.getD ca.newest)),
      (dataKeyPrivateKey, [4])]),
    (envoyClientCertSecretName,
      .ofList [(dataKeyCertificate, samplePKI.clientPEM ca.newest), (dataKeyPrivateKey, [5])]),
    (hmacSecretName, .ofList [(hmacSecretKey, [6])])]

def signingGenerator : Generator :=
  fun ca _ => .ok ((signedSecrets ca).foldl (fun s e => s.insert e.1 e.2) ∅)

lemma signingGenerator_documented : Documented samplePKI signingGenerator := by
  intro ca generated hg
  cases hg
  simp only [secretConfigs, List.forall_mem_cons]
  refine ⟨?_, ?_, ?_, ?_, by simp⟩
  · intro data hl
    obtain rfl := Option.some.inj (hl.symm.trans rfl)
    rfl
  · intro data hl _
    obtain rfl := Option.some.inj (hl.symm.trans rfl)
    rfl
  · intro data hl _
    obtain rfl := Option.some.inj (hl.symm.trans rfl)
    rfl
  · exact fun _ _ => trivial

def withCA (ca : CAState) : World := { freshWorld with ca }

lemma exists_shipping (ca : CAState)
    (hok : (undisturbed (sampleLibraries {}) signingGenerator .reconcile sampleInvocation
      (withCA ca)).1 = .ok ()) :
    ∃ ep : Episode, ep.op = .reconcile ∧ ep.before.ca = ca ∧ ep.after.ca = ca ∧
    ep.outcome = .ok () ∧ (∃ ms, ep.Ships ms) ∧
    Exec (answers signingGenerator) (ep.op.program (sampleLibraries {}) ep.ex) ep.before ep.trace
      ep.outcome ep.after := by
  obtain ⟨tr, he⟩ := exec_undisturbed (sampleLibraries {}) signingGenerator .reconcile
    sampleInvocation (withCA ca)
  rw [hok] at he
  -- the run itself is not to be unfolded below
  generalize (undisturbed (sampleLibraries {}) signingGenerator .reconcile sampleInvocation
    (withCA ca)).2 = after at he
  have hawake : Awake (withCA ca) {} := ⟨rfl, rfl, rfl⟩
  obtain ⟨_, ms, _, _, _, _, _, hm⟩ := exec_reconcile_awake hawake he
  have hca := exec_ca he
  exact ⟨⟨.reconcile, sampleInvocation, withCA ca, tr, .ok (), after⟩, rfl, rfl, hca, rfl,
    ⟨ms, _, hm, false, rfl⟩, he⟩

theorem shipped_trust_completed : ∃ ep ep' : Episode,
    Rotations (sampleLibraries {}) signingGenerator { newest := 0 } [ep, ep'] ∧
    ep'.before.ca = { newest := 1 } ∧ (∃ ms, ep.Ships ms) ∧ (∃ ms, ep'.Ships ms) ∧
    ∀ d ∈ [ep, ep'], ∀ ms, d.Ships ms → MutuallyTrusted samplePKI ms := by
  obtain ⟨ep, hop, hb, ha, _, hs, he⟩ := exists_shipping { newest := 0 } (by decide +kernel)
  obtain ⟨ep', hop', hb', _, _, hs', he'⟩ := exists_shipping { newest := 1 } (by decide +kernel)
  have hrotated : ReflTransGen Rotates ep.after.ca ep'.before.ca := by
    rw [ha, hb']
    exact .tail (.single .start) .complete
  have hfirst : ReflTransGen Rotates { newest := 0 } ep.before.ca := by
    rw [hb]
  have hr : Rotations (sampleLibraries {}) signingGenerator { newest := 0 } [ep, ep'] :=
    .cons hfirst hop he (.cons hrotated hop' he' .nil)
  refine ⟨ep, ep', hr, hb', hs, hs', (shipped_trust_iff signingGenerator_documented hr).mpr ?_⟩
  simp [hb, hb']

theorem rotation_ships_distrusted_server : ∃ (ep : Episode) (ms : List Manifest),
    Documented samplePKI signingGenerator ∧ Rotations (sampleLibraries {}) signingGenerator
      { newest := 0 } [ep] ∧
    ep.before.ca = { newest := 1, old := some 0 } ∧ ep.outcome = .ok () ∧ ep.Ships ms ∧
    ¬ MutuallyTrusted samplePKI ms := by
  obtain ⟨ep, hop, hb, _, hok, ⟨ms, hs⟩, he⟩ :=
    exists_shipping { newest := 1, old := some 0 } (by decide +kernel)
  have hstart : ReflTransGen Rotates { newest := 0 } ep.before.ca := by
    rw [hb]
    exact .single .start
  refine ⟨ep, ms, signingGenerator_documented, .cons hstart hop he .nil, hb, hok, hs, ?_⟩
  obtain ⟨e, hm, keepObjects, hc⟩ := hs
  rw [hop] at he
  rw [ships_trusted_iff signingGenerator_documented he hm hc, hb]
  exact Option.some_ne_none 0

end Rotated

end EnvoyGatewayExtension.Actuator
