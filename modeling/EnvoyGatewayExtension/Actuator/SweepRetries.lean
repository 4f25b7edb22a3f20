import EnvoyGatewayExtension.Actuator.OrphanSweep
import EnvoyGatewayExtension.EnvoyGateway.Listing

namespace EnvoyGatewayExtension.Actuator

open Effects Kubernetes EnvoyGateway Stores World Relation

variable {generate : Generator} {w w' s t u : World} {o : InfraObject}

section Vanishing

inductive Vanish : World → World → Prop
  | of_mem {w : World} {o : InfraObject} : o ∈ w.infraObjects → Target o →
      Vanish w { w with infra := w.infra.erase (o.kind, o.key) }

def amidVanishing (generate : Generator) : Handler clusters GoError World :=
  fun w c r w' => ∃ v, ReflTransGen Vanish w v ∧ Answers generate v c r w'

structure Reduced (w w' : World) : Prop extends Swept w w' where
  rest : w' = { w with infra := w'.infra }

lemma Vanish.subset (h : Vanish s t) : ∀ x ∈ t.infraObjects, x ∈ s.infraObjects := by
  cases h with
  | of_mem ho ht => exact fun x hx => (mem_infraObjects_erase.mp hx).1

lemma Vanish.reduced (h : Vanish s t) (hr : Reduced w s) : Reduced w t := by
  cases h with
  | of_mem ho ht =>
    refine ⟨hr.toSwept.delete (hr.subset _ ho) ht fun x => mem_infraObjects_erase, ?_⟩
    have hrest := hr.rest
    rw [hrest]

lemma reduced_of_vanish (h : ReflTransGen Vanish w t) : Reduced w t := by
  induction h with
  | refl => exact ⟨Swept.refl w, rfl⟩
  | tail _ hv ih => exact hv.reduced ih

lemma eq_of_vanish (h : ReflTransGen Vanish w t) (hnone : ∀ o ∈ w.infraObjects, ¬ Target o) :
    t = w := by
  induction h with
  | refl => rfl
  | tail _ hv ih =>
    subst ih
    cases hv with
    | of_mem ho ht => exact absurd ht (hnone _ ho)

end Vanishing

section Sweep

def DeletesTarget (w : World) (e : Answered clusters GoError World) : Prop :=
  ∀ kind k, e.call = .deleteInfra kind k → ∃ o ∈ w.infraObjects, Target o ∧
    (o.kind, o.key) = (kind, k)

lemma perform_deleteTarget (generate : Generator) (ho : o ∈ w.infraObjects) (ht : Target o)
    (hr : ReflTransGen Vanish w s) :
    ReflTransGen Vanish s (s.perform generate (.deleteInfra o.kind o.key)).2 ∧
      o ∉ (s.perform generate (.deleteInfra o.kind o.key)).2.infraObjects := by
  refine ⟨?_, fun hm => ((perform_deleteInfra generate s o.kind o.key o).mp hm).2 rfl⟩
  simp only [World.perform]
  cases hl : s.infra.lookup (o.kind, o.key) with
  | none => exact .refl
  | some labels =>
    have hm : (⟨o.kind, o.key, labels⟩ : InfraObject) ∈ s.infraObjects := mem_infraObjects.mpr hl
    -- the object under the key is still the one of the start
    have hw := mem_infraObjects.mp ((reduced_of_vanish hr).subset _ hm)
    rw [mem_infraObjects.mp ho, Option.some.injEq] at hw
    have hso : o ∈ s.infraObjects := by
      rw [mem_infraObjects, hl, hw]
    exact .single (.of_mem hso ht)

lemma answers_deleteTarget {r : Except GoError (Call.deleteInfra o.kind o.key).Result}
    (ha : Answers generate s (.deleteInfra o.kind o.key) r t) (ho : o ∈ w.infraObjects)
    (ht : Target o) (hr : ReflTransGen Vanish w s) : ReflTransGen Vanish s t ∧
      ((∀ e, r = .error e → e.isNotFound = true) → o ∉ t.infraObjects) := by
  obtain ⟨hstep, hgone⟩ := perform_deleteTarget generate ho ht hr
  cases ha with
  | done => exact ⟨hstep, fun _ => hgone⟩
  | refused htransient =>
    refine ⟨.refl, fun hn => ?_⟩
    have hfound := hn _ rfl
    rw [GoError.isNotFound_of_transient htransient] at hfound
    cases hfound
  | lost => exact ⟨hstep, fun _ => hgone⟩

lemma retried_sweepObject (hr : ReflTransGen Vanish w s) (ho : o ∈ w.infraObjects)
    (ht : isOrphanedDataPlaneObject o = true → Target o) :
    Ensures (amidVanishing generate) (DeletesTarget w) (sweepObject o)
      (fun out t => ReflTransGen Vanish s t ∧
        (out = .ok () → isOrphanedDataPlaneObject o = true → o ∉ t.infraObjects)) s := by
  unfold sweepObject
  split_ifs with horphan
  · refine ensures_wrapped (ensures_ignoreNotFound (Ensures.request_iff.mpr ?_))
    rintro r t ⟨v, hv, ha⟩
    obtain ⟨hstep, hgone⟩ := answers_deleteTarget ha ho (ht horphan) (hr.trans hv)
    refine ⟨fun kind k hc => ?_, fun hn => ⟨hv.trans hstep, fun _ _ => hgone hn⟩,
      fun e _ _ => ⟨hv.trans hstep, ?_⟩⟩
    · cases hc
      exact ⟨o, ho, ht horphan, rfl⟩
    · intro he
      cases he
  · exact ⟨.refl, fun _ hn => absurd hn horphan⟩

lemma retried_sweepKind (hr : ReflTransGen Vanish w s) (kind : InfraKind) :
    Ensures (amidVanishing generate) (DeletesTarget w) (sweepKind kind)
      (fun out t => ReflTransGen Vanish s t ∧
        (out = .ok () → ∀ o, o.kind = kind → Target o → o ∉ t.infraObjects)) s := by
  refine Ensures.bind (P := fun out t => ReflTransGen Vanish s t ∧ ∀ objs, out = .ok objs →
    ∀ o, o ∈ objs ↔ o ∈ t.infraObjects ∧ o.kind = kind ∧ o.key.namespace = «namespace» ∧
      o.labels.lookup labelManagedBy = some envoyProxyManagedByValue) ?_ ?_ ?_
  · refine ensures_wrapped_ok (Ensures.request_iff.mpr ?_)
    rintro r t ⟨v, hv, ha⟩
    obtain ⟨rfl, hlist⟩ := answers_listInfra ha
    refine ⟨fun kind' k hc => ?_, hv, hlist⟩
    cases hc
  · rintro objs t ⟨ht, hlist⟩
    have hobjs := hlist objs rfl
    have hloop := Ensures.forM_each (h := amidVanishing generate) (J := DeletesTarget w) (s := t)
      (f := sweepObject) (R := Vanish)
      (G := fun o u => isOrphanedDataPlaneObject o = true → o ∉ u.infraObjects) objs
      (fun o v u hv hg horphan hm => hg horphan (hv.subset o hm)) fun o ho u hu => ?_
    · refine hloop.mono (fun _ hj => hj) fun out u hu =>
        ⟨ht.trans hu.1, fun hout x hk htarget hm => ?_⟩
      have hx := (hobjs x).mpr ⟨(reduced_of_vanish hu.1).subset x hm, hk, htarget.1, htarget.2.1⟩
      exact hu.2 hout x hx htarget.2.2 hm
    · obtain ⟨hm, _, hns, hl⟩ := (hobjs o).mp ho
      exact retried_sweepObject ((hr.trans ht).trans hu)
        ((reduced_of_vanish (hr.trans ht)).subset o hm) fun horphan => ⟨hns, hl, horphan⟩
  · exact fun e t ht => ⟨ht.1, fun he => nomatch he⟩

lemma mem_sweptKinds (kind : InfraKind) : kind ∈ sweptKinds := by
  cases kind <;> decide

lemma retried_sweepOrphans (generate : Generator) (w : World) :
    Ensures (amidVanishing generate) (DeletesTarget w) sweepOrphans
      (fun out t => ReflTransGen Vanish w t ∧ (out = .ok () → ∀ o ∈ t.infraObjects, ¬ Target o))
        w := by
  have hloop := Ensures.forM_each (h := amidVanishing generate) (J := DeletesTarget w) (s := w)
    (f := sweepKind) (R := Vanish)
    (G := fun kind u => ∀ o : InfraObject, o.kind = kind → Target o → o ∉ u.infraObjects) sweptKinds
    (fun kind v u hv hg o hk ht hm => hg o hk ht (hv.subset o hm))
    fun kind _ u hu => retried_sweepKind hu kind
  refine hloop.mono (fun _ hj => hj) fun out u hu => ⟨hu.1, fun hout o hm ht => ?_⟩
  exact hu.2 hout o.kind (mem_sweptKinds o.kind) o rfl ht hm

end Sweep

section Shipped

variable {lib : Libraries} {config : Config} {tls : TLSBundle}
  {resources : Resources} {m : Manifest}

def infraKindOf (key : ObjectKey) : Option InfraKind :=
  match key.group, key.kind with
  | "", "Service" => some .service
  | "apps", "Deployment" => some .deployment
  | "", "ServiceAccount" => some .serviceAccount
  | "", "ConfigMap" => some .configMap
  | "policy", "PodDisruptionBudget" => some .podDisruptionBudget
  | "autoscaling", "HorizontalPodAutoscaler" => some .horizontalPodAutoscaler
  | _, _ => none

def Appears (m : Manifest) (o : InfraObject) : Prop :=
  infraKindOf m.key = some o.kind ∧ o.key = ⟨m.key.namespace, m.key.name⟩ ∧ o.labels = m.labels

lemma commonLabels_managedBy :
    commonLabels.lookup labelManagedBy = some labelManagedByValue := by decide

lemma ownObjects_managedBy {deploy : Manifest} (hd : deployment lib config = .ok deploy) :
    ∀ e ∈ ownObjects lib config tls deploy, ∀ m ∈ e.2, m.labels.lookup labelManagedBy =
      some labelManagedByValue := by
  refine ownObjects_forall (by decide +kernel) ?_ commonLabels_managedBy ?_ commonLabels_managedBy
  · rw [(deployment_key hd).2.1]
    exact commonLabels_managedBy
  · simp only [shippedSecrets, List.forall_mem_cons, List.not_mem_nil, false_imp_iff,
      implies_true, and_true]
    exact ⟨commonLabels_managedBy, commonLabels_managedBy, commonLabels_managedBy⟩

lemma buildResources_untargeted (h : buildResources lib config tls = .ok resources) :
    ∀ m ∈ manifestsOf resources, ∀ o, Appears m o → ¬ Target o := by
  refine (only_buildResources h (fun deploy hd e he m hm o ho ht => ?_)
    fun _ d _ hk o ho => ?_).manifests
  · have hlabel := ownObjects_managedBy hd e he m hm
    rw [← ho.2.2, ht.2.1] at hlabel
    exact absurd hlabel (by decide)
  · have hkind : infraKindOf d.manifest.key = some o.kind := ho.1
    have hcrd : d.manifest.key.kind = crdKind := hk
    have hnone : infraKindOf d.manifest.key = none := by
      simp only [infraKindOf]
      rw [hcrd]
      rfl
    rw [hnone] at hkind
    cases hkind

end Shipped

section Attempts

variable {outs outs' : List (Except GoError Unit)}

inductive Attempts (generate : Generator) : World → List (Except GoError Unit) → World → Prop
  | nil {w w' : World} : ReflTransGen Vanish w w' → Attempts generate w [] w'
  | run {w u w' : World} {tr : List (Answered clusters GoError World)} {out : Except GoError Unit}
      {outs : List (Except GoError Unit)} : Exec (amidVanishing generate) sweepOrphans w tr out u →
        Attempts generate u outs w' → Attempts generate w (out :: outs) w'

def Call.deletesInfra : Call → Bool
  | deleteInfra _ _ => true
  | _ => false

lemma Attempts.vanish (h : Attempts generate w outs u) : ReflTransGen Vanish w u := by
  induction h with
  | nil hv => exact hv
  | run he _ ih => exact ((retried_sweepOrphans generate _).sound he).1.1.trans ih

lemma Attempts.swept (h : Attempts generate w outs u) (hok : .ok () ∈ outs) :
    ∀ o ∈ u.infraObjects, ¬ Target o := by
  induction h with
  | nil => exact absurd hok List.not_mem_nil
  | run he hrest ih =>
    rcases List.mem_cons.mp hok with rfl | hok
    · intro o ho
      have hnone := ((retried_sweepOrphans generate _).sound he).1.2 rfl
      exact hnone o ((reduced_of_vanish hrest.vanish).subset o ho)
    · exact ih hok

lemma sweep_idle {tr : List (Answered clusters GoError World)} {out : Except GoError Unit}
    (hnone : ∀ o ∈ u.infraObjects, ¬ Target o)
    (he : Exec (amidVanishing generate) sweepOrphans u tr out w') :
    w' = u ∧ ∀ e ∈ tr, e.call.deletesInfra = false := by
  obtain ⟨⟨hv, _⟩, hdeletes⟩ := (retried_sweepOrphans generate u).sound he
  refine ⟨eq_of_vanish hv hnone, fun e hm => ?_⟩
  by_contra hn
  cases hc : e.call with
  | deleteInfra kind k =>
    obtain ⟨o, ho, ht, _⟩ := hdeletes e hm kind k hc
    exact hnone o ho ht
  | _ =>
    rw [hc] at hn
    exact hn rfl

theorem sweep_retries_converge (h : Attempts generate w outs u)
    (h' : Attempts generate u outs' w') : Reduced w u ∧ Reduced u w' ∧
    (.ok () ∈ outs →
      (∀ o, o ∈ u.infraObjects ↔ o ∈ w.infraObjects ∧ ¬ Target o) ∧ w' = u ∧
      ∀ tr out v, Exec (amidVanishing generate) sweepOrphans u tr out v →
        v = u ∧ ∀ e ∈ tr, e.call.deletesInfra = false) ∧
    ∀ lib config tls resources, buildResources lib config tls = .ok resources →
      ∀ m ∈ manifestsOf resources, ∀ o, Appears m o → ¬ Target o ∧
      (o ∈ w.infraObjects → o ∈ u.infraObjects) := by
  have hr := reduced_of_vanish h.vanish
  refine ⟨hr, reduced_of_vanish h'.vanish, fun hok => ?_, fun lib config tls resources hb
    m hm o ho => ?_⟩
  · have hnone := h.swept hok
    refine ⟨fun o => ⟨fun ho => ⟨hr.subset o ho, hnone o ho⟩, fun ho => hr.others o ho.1 ho.2⟩,
      ?_, ?_⟩
    · exact eq_of_vanish h'.vanish hnone
    · exact fun tr out v he => sweep_idle hnone he
  · have hn := buildResources_untargeted hb m hm o ho
    exact ⟨hn, fun hw => hr.others o hw hn⟩

def interrupted : GoError := .text "connection refused"

lemma exec_served (generate : Generator) (f : World → (c : Call) → Except GoError c.Result × World)
    (hf : ∀ s c, Answers generate s c (f s c).1 (f s c).2) (w : World) :
    ∃ tr, Exec (amidVanishing generate) sweepOrphans w tr (serve (I := clusters) f sweepOrphans w).1
      (serve (I := clusters) f sweepOrphans w).2 :=
  exec_serve (I := clusters) (fun s c => ⟨s, .refl, hf s c⟩) sweepOrphans w

theorem sweep_retries_after_failure : ∃ err u,
    Attempts (fun _ _ => .ok ∅) systemWorld [.error err, .ok ()] u ∧ liveService ∉ u.infraObjects ∧
    ∀ o, o ∈ u.infraObjects ↔ o ∈ systemWorld.infraObjects ∧ ¬ Target o := by
  obtain ⟨tr, hfail⟩ := exec_served (fun _ _ => .ok ∅) (fun s _ => (.error interrupted, s))
    (fun _ _ => .refused rfl) systemWorld
  obtain ⟨tr', hdone⟩ := exec_served (fun _ _ => .ok ∅) (World.perform fun _ _ => .ok ∅)
    (fun _ _ => .done) systemWorld
  have hok : (serve (I := clusters) (World.perform fun _ _ => .ok ∅) sweepOrphans systemWorld).1 =
    .ok () := rfl
  rw [hok] at hdone
  have h := Attempts.run hfail (.run hdone (.nil .refl))
  obtain ⟨_, _, hswept, _⟩ := sweep_retries_converge h (.nil .refl)
  have hfinal := (hswept (by simp)).1
  refine ⟨_, _, h, fun hm => ?_, hfinal⟩
  exact ((hfinal _).mp hm).2 ⟨rfl, rfl, rfl⟩

end Attempts

end EnvoyGatewayExtension.Actuator
