import EnvoyGatewayExtension.Actuator.Deliveries

namespace EnvoyGatewayExtension.Actuator

open Effects Kubernetes EnvoyGateway Stores World

variable {lib : Libraries} {generate : Generator} {w : World}

structure Delivery where
  ex : Invocation
  shoot : Shoot
  before : World
  trace : List (Answered clusters GoError World)
  called : World

def Delivery.final (d : Delivery) : World := d.called.apply

/-- Between two calls the user's Gateways and everything else may change, but not what the
extension has delivered. -/
inductive Deliveries (lib : Libraries) (generate : Generator) : World → List Delivery → Prop
  | nil {u : World} : Deliveries lib generate u []
  | cons {u : World} {d : Delivery} {ds : List Delivery} :
      d.before.managedResource = u.managedResource → d.before.objects = u.objects →
      Awake d.before d.shoot →
      Exec (answers generate) (reconcile lib d.ex) d.before d.trace (.ok ()) d.called →
      Deliveries lib generate d.final ds → Deliveries lib generate u (d :: ds)

def Delivery.manages (lib : Libraries) (d : Delivery) : Bool :=
  match readConfig lib d.shoot.kubernetesVersion d.ex.providerConfig with
  | .ok config => config.manageCRDs
  | .error _ => false

def Delivery.Retains (d : Delivery) : Prop :=
  (∀ k ∈ gatewayAPICRDKeys, (d.before.objects.lookup k).isSome = true →
    (d.final.objects.lookup k).isSome = true) ∧ d.final.gateways = d.before.gateways

lemma gatewayCRDKey_mem : gatewayCRDKey ∈ gatewayAPICRDKeys := by decide

lemma bundles_not_kept : ∀ d ∈ gatewayAPIStandardYAML ++ gatewayAPIExperimentalYAML ++
      envoyGatewayCRDsYAML,
    d.annotations.lookup keepObjectAnnotation = none := by
  decide +kernel

structure Rendered (manages : Bool) (ms : List Manifest) : Prop where
  listed : ∀ k ∈ gatewayAPICRDKeys, k ∈ ms.map Manifest.key ↔ manages = true
  not_kept : ∀ m ∈ ms, keepObject m = false

lemma rendered_of_renders {ex : Invocation} {config : Config} {ms : List Manifest}
    (h : Renders lib generate ex config w ms) : Rendered config.manageCRDs ms := by
  obtain ⟨_, tls, resources, _, _, hbuild, rfl⟩ := h
  constructor
  · intro k hk
    cases hm : config.manageCRDs with
    | true => exact iff_of_true (mem_of_manageCRDs hbuild hm k hk) rfl
    | false => exact iff_of_false (not_mem_of_not_manageCRDs hbuild hm k hk) Bool.false_ne_true
  · intro m hm
    simp [keepObject, buildResources_annotations hbuild keepObjectAnnotation bundles_not_kept m hm]

structure AppliedBy (manages : Bool) (w : World) : Prop where
  none_terminating : ∀ mr, w.managedResource = some mr → mr.terminating = false
  applied : Rendered manages ((w.managedResource.map ManagedResource.applied).getD [])
  present : manages = true → ∀ k ∈ gatewayAPICRDKeys, (w.objects.lookup k).isSome = true

lemma appliedBy_of_none (h : w.managedResource = none) : AppliedBy false w := by
  refine ⟨fun mr hm => ?_, ?_, fun hf => absurd hf Bool.false_ne_true⟩
  · rw [h] at hm
    cases hm
  · rw [h]
    exact ⟨fun k _ => (by simp), fun m hm => (by simp at hm)⟩

lemma mem_dropped {mr : ManagedResource} {k : ObjectKey}
    (hk : ∀ m ∈ mr.applied, keepObject m = false) :
    k ∈ dropped mr ↔ k ∈ mr.applied.map Manifest.key ∧ k ∉ mr.manifests.map Manifest.key := by
  simp only [dropped, List.mem_map, List.mem_filter]
  constructor
  · rintro ⟨m, ⟨hm, hc⟩, rfl⟩
    refine ⟨⟨m, hm, rfl⟩, ?_⟩
    simpa [hk m hm] using hc
  · rintro ⟨⟨m, hm, rfl⟩, hn⟩
    refine ⟨m, ⟨hm, ?_⟩, rfl⟩
    simpa [hk m hm] using hn

lemma called_managedResource {ms : List Manifest} {s called : World}
    (hp : w.perform generate (.createForShoot false ms) = (.ok (), s)) (hs : SameDelivery s called)
    (ht : ∀ mr, w.managedResource = some mr → mr.terminating = false) :
    (∃ mr, called.managedResource = some mr ∧ mr.terminating = false ∧ mr.keepObjects = false ∧
      mr.manifests = ms ∧ mr.applied = (w.managedResource.map ManagedResource.applied).getD []) ∧
    called.objects = w.objects ∧ called.gateways = w.gateways := by
  rw [hs.1, hs.2.1, hs.2.2]
  simp only [World.perform] at hp
  split at hp
  · rename_i mr hm
    cases hp
    exact ⟨⟨_, rfl, ht mr hm, rfl, rfl, by rw [hm]; rfl⟩, rfl, rfl⟩
  · rename_i hm
    cases hp
    exact ⟨⟨_, rfl, rfl, rfl, rfl, by rw [hm]; rfl⟩, rfl, rfl⟩

lemma delivery_step {d : Delivery} {managed : Bool} (hw : AppliedBy managed d.before)
    (ha : Awake d.before d.shoot)
    (he : Exec (answers generate) (reconcile lib d.ex) d.before d.trace (.ok ()) d.called) :
    AppliedBy (d.manages lib) d.final ∧
    (d.Retains ↔ ¬ (managed = true ∧ d.manages lib = false)) := by
  obtain ⟨config, ms, s, hread, hrender, hp, hs, _⟩ := exec_reconcile_awake ha he
  have hmanages : d.manages lib = config.manageCRDs := by
    rw [Delivery.manages, hread]
  have hms := rendered_of_renders hrender
  rw [← hmanages] at hms
  obtain ⟨⟨mr, hmr, hterm, hkeep, hman, happ⟩, hobj, hgw⟩ :=
    called_managedResource hp hs hw.none_terminating
  have hold := hw.applied
  rw [← happ] at hold
  have hdrop : ∀ k ∈ gatewayAPICRDKeys, k ∈ dropped mr ↔ managed = true ∧
    d.manages lib = false := by
    intro k hk
    rw [mem_dropped hold.not_kept, hman, hold.listed k hk, hms.listed k hk, Bool.not_eq_true]
  have hfinal : d.final = { d.called.removeObjects (dropped mr) with
      objects := mr.manifests.foldl (fun o m => o.insert m.key m)
        (d.called.removeObjects (dropped mr)).objects
      managedResource := some { mr with applied := mr.manifests } } := by
    simp [Delivery.final, World.apply, hmr, hterm, hkeep]
  have hlookup : ∀ k, (d.final.objects.lookup k).isSome = true ↔
      k ∈ ms.map Manifest.key ∨ (k ∉ dropped mr ∧ (d.before.objects.lookup k).isSome = true) := by
    intro k
    rw [hfinal, hman]
    have hinsert : ∀ o : Store ObjectKey Manifest,
        ((ms.foldl (fun o m => o.insert m.key m) o).lookup k).isSome = true ↔
          k ∈ ms.map Manifest.key ∨ (o.lookup k).isSome = true :=
      fun o => Store.isSome_lookup_foldl_insert
    refine (hinsert _).trans (or_congr Iff.rfl ?_)
    simp only [removeObjects, Store.lookup_foldl_erase, hobj]
    split_ifs with hk <;> simp [hk]
  refine ⟨⟨fun mr' hm => ?_, ?_, fun hm k hk => (hlookup k).mpr
    (Or.inl ((hms.listed k hk).mpr hm))⟩, ?_, ?_⟩
  · rw [hfinal] at hm
    cases hm
    exact hterm
  · rw [hfinal]
    change Rendered _ mr.manifests
    rw [hman]
    exact hms
  · rintro ⟨hcrds, _⟩ hbad
    have hk := gatewayCRDKey_mem
    rcases (hlookup gatewayCRDKey).mp (hcrds _ hk (hw.present hbad.1 _ hk)) with hl | ⟨hl, _⟩
    · rw [hms.listed _ hk, hbad.2] at hl
      cases hl
    · exact hl ((hdrop _ hk).mpr hbad)
  · intro hgood
    refine ⟨fun k hk hb => (hlookup k).mpr (Or.inr ⟨fun hd => hgood ((hdrop k hk).mp hd), hb⟩), ?_⟩
    have hn : gatewayCRDKey ∉ dropped mr := fun hd => hgood ((hdrop _ gatewayCRDKey_mem).mp hd)
    rw [hfinal]
    simp only [removeObjects, if_neg hn]
    exact hgw

def KeepsManaging (lib : Libraries) (d d' : Delivery) : Prop :=
  ¬ (d.manages lib = true ∧ d'.manages lib = false)

lemma retains_from {ds : List Delivery} {managed : Bool} (hr : Deliveries lib generate w ds)
    (hw : AppliedBy managed w) :
    (∀ d ∈ ds, d.Retains) ↔ (∀ d, ds.head? = some d → ¬ (managed = true ∧ d.manages lib = false)) ∧
      ds.IsChain (KeepsManaging lib) := by
  induction hr generalizing managed with
  | nil => simp
  | @cons w d ds hmr hobj ha he _ ih =>
    have hbefore : AppliedBy managed d.before := by
      refine ⟨?_, ?_, ?_⟩
      · rw [hmr]
        exact hw.none_terminating
      · rw [hmr]
        exact hw.applied
      · rw [hobj]
        exact hw.present
    obtain ⟨hfinal, hret⟩ := delivery_step hbefore ha he
    rw [List.forall_mem_cons, hret, ih hfinal]
    cases ds with
    | nil => simp
    | cons d' ds =>
      rw [List.isChain_cons_cons]
      simp [KeepsManaging]

theorem crds_retained_iff {ds : List Delivery} (hr : Deliveries lib generate w ds)
    (hw : w.managedResource = none) : (∀ d ∈ ds, d.Retains) ↔ ds.IsChain (KeepsManaging lib) := by
  rw [retains_from hr (appliedBy_of_none hw)]
  simp

section Toggled

def toggling : Libraries :=
  { sampleLibraries {} with
    decode := fun raw => .ok (.v1alpha1 { manageCRDs := some raw.isEmpty }) }

def managing (manageCRDs : Bool) : Invocation where
  clusterName := "shoot--foo--bar"
  providerConfig := some (if manageCRDs then [] else [0])

def userGateway : Gateway :=
  { «namespace» := "shop", name := "eg", gatewayClassName := "gardener-envoy-gateway" }

def deliveredWorld : World :=
  { (undisturbed toggling sampleGenerator .reconcile (managing true) freshWorld).2.apply with
    gateways := [userGateway] }

lemma two_deliveries (manageCRDs : Bool) :
    ∃ d d', Deliveries toggling sampleGenerator freshWorld [d, d'] ∧
    d.manages toggling = true ∧ d'.manages toggling = manageCRDs ∧ d'.before = deliveredWorld ∧
    d'.final = (undisturbed toggling sampleGenerator .reconcile (managing manageCRDs)
      deliveredWorld).2.apply := by
  obtain ⟨tr, h⟩ := exec_undisturbed toggling sampleGenerator .reconcile (managing true) freshWorld
  obtain ⟨tr', h'⟩ :=
    exec_undisturbed toggling sampleGenerator .reconcile (managing manageCRDs) deliveredWorld
  have hok : (undisturbed toggling sampleGenerator .reconcile (managing manageCRDs)
    deliveredWorld).1 = .ok () := by
    cases manageCRDs <;> rfl
  rw [hok] at h'
  refine ⟨⟨managing true, {}, freshWorld, tr,
    (undisturbed toggling sampleGenerator .reconcile (managing true) freshWorld).2⟩,
    ⟨managing manageCRDs, {}, deliveredWorld, tr', _⟩, ?_, rfl, ?_, rfl, rfl⟩
  · exact .cons rfl rfl ⟨rfl, rfl, rfl⟩ h (.cons rfl rfl ⟨rfl, rfl, rfl⟩ h' .nil)
  · cases manageCRDs <;> rfl

theorem crds_retained_iff_managed : ∃ d d', Deliveries toggling sampleGenerator freshWorld [d, d'] ∧
    d'.before.gateways = [userGateway] ∧ d.Retains ∧ d'.Retains := by
  obtain ⟨d, d', hr, _, hm, hb, _⟩ := two_deliveries true
  have hret := (crds_retained_iff hr rfl).mpr (by simp [KeepsManaging, hm])
  refine ⟨d, d', hr, by rw [hb]; rfl, hret d (by simp), hret d' (by simp)⟩

theorem manageCRDs_off_removes_gateways :
    ∃ d d', Deliveries toggling sampleGenerator freshWorld [d, d'] ∧
    d.manages toggling = true ∧ d'.manages toggling = false ∧
    (d'.before.objects.lookup gatewayCRDKey).isSome = true ∧ d'.before.gateways = [userGateway] ∧
    d'.final.objects.lookup gatewayCRDKey = none ∧ d'.final.gateways = [] := by
  obtain ⟨d, d', hr, hm, hm', hb, hf⟩ := two_deliveries false
  refine ⟨d, d', hr, hm, hm', ?_, ?_, ?_, ?_⟩
  · rw [hb]
    decide +kernel
  · rw [hb]
    rfl
  · rw [hf]
    decide +kernel
  · rw [hf]
    decide +kernel

end Toggled

end EnvoyGatewayExtension.Actuator
