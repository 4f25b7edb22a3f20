import EnvoyGatewayExtension.Actuator.Footprints

namespace EnvoyGatewayExtension.Actuator

open Effects Kubernetes EnvoyGateway Stores World

variable {generate : Generator} {w s t : World} {o : InfraObject}

def Target (o : InfraObject) : Prop :=
  o.key.namespace = «namespace» ∧ o.labels.lookup labelManagedBy = some envoyProxyManagedByValue ∧
    isOrphanedDataPlaneObject o = true

def Live (w : World) (o : InfraObject) : Prop :=
  o.labels.lookup labelManagedBy = some envoyProxyManagedByValue ∧
    ∃ gw ∈ w.gateways, gw.namespace = o.key.namespace ∧
      o.labels.lookup owningGatewayNameLabel = some gw.name ∧
      o.labels.lookup owningGatewayNamespaceLabel = some gw.namespace

def LeftBehind (o : InfraObject) : Prop :=
  ∃ ns, o.labels.lookup owningGatewayNamespaceLabel = some ns ∧ ns ≠ o.key.namespace

def SweepsOnlyOrphans (generate : Generator) (w : World) : Prop :=
  ∀ tr out w', Exec (answers generate) sweepOrphans w tr out w' →
    ∀ o ∈ w.infraObjects, o ∉ w'.infraObjects → ¬ Live w o ∧ LeftBehind o

lemma LeftBehind.not_live (h : LeftBehind o) : ¬ Live w o := by
  obtain ⟨ns, hns, hne⟩ := h
  rintro ⟨_, gw, _, hgw, _, hlabel⟩
  rw [hlabel, Option.some.injEq] at hns
  exact hne (hns.symm.trans hgw)

structure Swept (w s : World) : Prop where
  subset : ∀ o ∈ s.infraObjects, o ∈ w.infraObjects
  others : ∀ o ∈ w.infraObjects, ¬ Target o → o ∈ s.infraObjects

lemma Swept.refl (w : World) : Swept w w := ⟨fun _ h => h, fun _ h _ => h⟩

lemma mem_infraObjects_erase {k : InfraKind × NamespacedName} :
    o ∈ ({ s with infra := s.infra.erase k } : World).infraObjects ↔ o ∈ s.infraObjects ∧
    (o.kind, o.key) ≠ k := by
  rw [mem_infraObjects, mem_infraObjects]
  by_cases hk : (o.kind, o.key) = k
  · subst hk
    simp
  · simp [AList.lookup_erase_ne hk, hk]

lemma perform_deleteInfra (generate : Generator) (s : World) (kind : InfraKind)
    (k : NamespacedName) : ∀ o, o ∈ (s.perform generate (.deleteInfra kind k)).2.infraObjects ↔
      o ∈ s.infraObjects ∧ (o.kind, o.key) ≠ (kind, k) := by
  intro o
  simp only [World.perform]
  split
  · exact mem_infraObjects_erase
  · rename_i hn
    refine ⟨fun hm => ⟨hm, ?_⟩, fun hm => hm.1⟩
    intro hk
    rw [mem_infraObjects, hk] at hm
    exact hn (by rw [hm]; rfl)

lemma Swept.delete (h : Swept w s) (ho : o ∈ w.infraObjects) (ht : Target o)
    (hmem : ∀ x, x ∈ t.infraObjects ↔ x ∈ s.infraObjects ∧ (x.kind, x.key) ≠ (o.kind, o.key)) :
    Swept w t := by
  refine ⟨fun x hx => h.subset x ((hmem x).mp hx).1,
    fun x hx hn => (hmem x).mpr ⟨h.others x hx hn, ?_⟩⟩
  intro hk
  -- two objects of one key are one object, and this one is no target
  have hl := mem_infraObjects.mp hx
  rw [hk, mem_infraObjects.mp ho, Option.some.injEq] at hl
  obtain ⟨hkind, hkey⟩ := Prod.mk.inj hk
  have hxo : x = o := by
    cases x
    cases o
    simp_all
  exact hn (hxo ▸ ht)

def KeepsSwept (w : World) (e : Answered clusters GoError World) : Prop := Swept w e.after

lemma answers_deleteInfra {r : Except GoError (Call.deleteInfra o.kind o.key).Result}
    (h : Answers generate s (.deleteInfra o.kind o.key) r t) (hs : Swept w s)
    (ho : o ∈ w.infraObjects) (ht : Target o) : Swept w t := by
  have hd := hs.delete ho ht (perform_deleteInfra generate s o.kind o.key)
  exact h.keeps hs hd

lemma answers_listInfra {kind : InfraKind} {ns key value : String}
    {r : Except GoError (Call.listInfra kind ns key value).Result}
    (h : Answers generate s (.listInfra kind ns key value) r t) : t = s ∧ ∀ objs, r = .ok objs →
      ∀ o, o ∈ objs ↔ o ∈ s.infraObjects ∧ o.kind = kind ∧ o.key.namespace = ns ∧
      o.labels.lookup key = some value := by
  refine ⟨h.reads rfl, fun objs hr o => ?_⟩
  cases h with
  | done =>
    cases hr
    simp [and_assoc]
  | refused => cases hr
  | lost => cases hr

lemma ensures_sweepObject (hs : Swept w s) (ho : o ∈ w.infraObjects)
    (ht : isOrphanedDataPlaneObject o = true → Target o) :
    Ensures (answers generate) (KeepsSwept w) (sweepObject o) (fun _ t => Swept w t) s := by
  unfold sweepObject
  split_ifs with horphan
  · refine ensures_wrapped (ensures_ignoreNotFound (Ensures.request_iff.mpr fun r t ha => ?_))
    have hst := answers_deleteInfra ha hs ho (ht horphan)
    exact ⟨hst, fun _ => hst, fun _ _ _ => hst⟩
  · exact hs

lemma ensures_sweepOrphans (hs : Swept w s) :
    Ensures (answers generate) (KeepsSwept w) sweepOrphans (fun _ t => Swept w t) s := by
  refine Ensures.forM sweptKinds (fun kind _ s hs => ?_) hs
  refine Ensures.bind (P := fun out t => Swept w t ∧ ∀ objs, out = .ok objs → ∀ o ∈ objs,
    o ∈ w.infraObjects ∧ (isOrphanedDataPlaneObject o = true → Target o)) ?_ ?_ ?_
  · refine ensures_wrapped_ok (Ensures.request_iff.mpr fun r t ha => ?_)
    obtain ⟨rfl, hlist⟩ := answers_listInfra ha
    refine ⟨hs, hs, fun objs hr o ho => ?_⟩
    obtain ⟨hm, _, hns, hl⟩ := (hlist objs hr o).mp ho
    exact ⟨hs.subset o hm, fun horphan => ⟨hns, hl, horphan⟩⟩
  · intro objs t ht
    refine Ensures.forM objs (fun o ho u hu => ?_) ht.1
    obtain ⟨hm, htarget⟩ := ht.2 objs rfl o ho
    exact ensures_sweepObject hu hm htarget
  · exact fun e t ht => ht.1

section Undisturbed

def answered (generate : Generator) : Handler clusters GoError World :=
  fun w c r w' => (r, w') = w.perform generate c

def Cleared (gone : InfraObject → Prop) (s t : World) : Prop :=
  (∀ o ∈ t.infraObjects, o ∈ s.infraObjects) ∧ ∀ o, gone o → o ∉ t.infraObjects

lemma Cleared.trans {gone gone' : InfraObject → Prop} {u : World} (h : Cleared gone s t)
    (h' : Cleared gone' t u) : Cleared (fun o => gone o ∨ gone' o) s u := by
  refine ⟨fun o ho => h.1 o (h'.1 o ho), ?_⟩
  rintro o (hg | hg) ho
  · exact h.2 o hg (h'.1 o ho)
  · exact h'.2 o hg ho

lemma answered_sweepObject (o : InfraObject) (s : World) :
    Ensures (answered generate) (fun _ => True) (sweepObject o)
      (fun out t => out = .ok () ∧
        Cleared (fun x => x = o ∧ isOrphanedDataPlaneObject o = true) s t) s := by
  unfold sweepObject
  split_ifs with horphan
  · refine ensures_wrapped
      (ensures_ignoreNotFound (Ensures.request_iff.mpr fun r t ha => ⟨trivial, ?_⟩))
    have hmem := perform_deleteInfra generate s o.kind o.key
    have hst : t = (s.perform generate (.deleteInfra o.kind o.key)).2 := congrArg Prod.snd ha
    have hclear : Cleared (fun x => x = o ∧ isOrphanedDataPlaneObject o = true) s t := by
      rw [hst]
      refine ⟨fun x hx => ((hmem x).mp hx).1, ?_⟩
      rintro x ⟨rfl, _⟩ hx
      exact ((hmem x).mp hx).2 rfl
    refine ⟨fun _ => ⟨rfl, hclear⟩, fun e hr hn => ?_⟩
    have hrep : r = (s.perform generate (.deleteInfra o.kind o.key)).1 := congrArg Prod.fst ha
    rw [hr] at hrep
    simp only [World.perform] at hrep
    split at hrep
    · cases hrep
    · cases hrep
      cases hn
  · exact ⟨rfl, fun _ hx => hx, fun x hx => absurd hx.2 horphan⟩

lemma answered_sweepObjects (objs : List InfraObject) (s : World) :
    Ensures (answered generate) (fun _ => True) (objs.forM sweepObject)
      (fun out t => out = .ok () ∧
        Cleared (fun x => x ∈ objs ∧ isOrphanedDataPlaneObject x = true) s t) s := by
  induction objs generalizing s with
  | nil => exact ⟨rfl, fun _ hx => hx, fun x hx => absurd hx.1 List.not_mem_nil⟩
  | cons o objs ih =>
    refine Ensures.bind (answered_sweepObject o s) (fun _ t ht => ?_) fun e t ht => (by cases ht.1)
    refine (ih t).mono (fun _ hj => hj) fun out u hu => ⟨hu.1, (ht.2.trans hu.2).1, fun x hx => ?_⟩
    refine (ht.2.trans hu.2).2 x ?_
    rcases List.mem_cons.mp hx.1 with rfl | hm
    · exact Or.inl ⟨rfl, hx.2⟩
    · exact Or.inr ⟨hm, hx.2⟩

lemma answered_sweepKind (kind : InfraKind) (s : World) :
    Ensures (answered generate) (fun _ => True) (sweepKind kind)
      (fun out t => out = .ok () ∧ Cleared (fun x => x.kind = kind ∧ Target x) s t) s := by
  refine Ensures.bind
    (P := fun out t => t = s ∧ out = .ok (s.infraObjects.filter fun o => o.kind == kind &&
      o.key.namespace == «namespace» && o.labels.lookup labelManagedBy ==
      some envoyProxyManagedByValue)) ?_ ?_ ?_
  · refine ensures_wrapped (Ensures.request_iff.mpr fun r t ha => ⟨trivial, ?_⟩)
    obtain ⟨rfl, rfl⟩ := Prod.mk.inj ha
    exact ⟨rfl, rfl⟩
  · rintro objs t ⟨rfl, ho⟩
    cases ho
    refine (answered_sweepObjects _ t).mono (fun _ hj => hj) fun out u hu => ⟨hu.1, hu.2.1, ?_⟩
    rintro x ⟨hk, hns, hl, horphan⟩ hx
    refine hu.2.2 x ⟨List.mem_filter.mpr ⟨hu.2.1 x hx, ?_⟩, horphan⟩ hx
    simp [hk, hns, hl]
  · rintro e t ⟨_, he⟩
    cases he

lemma answered_sweepKinds (generate : Generator) (kinds : List InfraKind) (s : World) :
    Ensures (answered generate) (fun _ => True) (kinds.forM sweepKind)
      (fun out t => out = .ok () ∧ Cleared (fun x => x.kind ∈ kinds ∧ Target x) s t) s := by
  induction kinds generalizing s with
  | nil => exact ⟨rfl, fun _ hx => hx, fun x hx => absurd hx.1 List.not_mem_nil⟩
  | cons kind kinds ih =>
    refine Ensures.bind (answered_sweepKind kind s) (fun _ t ht => ?_) fun e t ht => (by cases ht.1)
    refine (ih t).mono (fun _ hj => hj) fun out u hu => ⟨hu.1, (ht.2.trans hu.2).1, fun x hx => ?_⟩
    refine (ht.2.trans hu.2).2 x ?_
    rcases List.mem_cons.mp hx.1 with hk | hm
    · exact Or.inl ⟨hk, hx.2⟩
    · exact Or.inr ⟨hm, hx.2⟩

lemma exec_sweepOrphans (generate : Generator) (w : World) :
    ∃ tr w', Exec (answers generate) sweepOrphans w tr (.ok ()) w' ∧ ∀ o, Target o →
    o ∉ w'.infraObjects := by
  obtain ⟨tr, out, w', he, rfl, hclear⟩ :=
    Ensures.exists_exec (h := answers generate) (fun _ _ => Answers.done)
    (answered_sweepKinds generate sweptKinds w)
  refine ⟨tr, w', he, fun o ht => hclear.2 o ⟨?_, ht⟩⟩
  cases o.kind <;> decide

end Undisturbed

theorem sweepsOnlyOrphans_iff (generate : Generator) (w : World) :
    SweepsOnlyOrphans generate w ↔ ∀ o ∈ w.infraObjects, Target o → LeftBehind o := by
  constructor
  · intro h o ho ht
    obtain ⟨tr, w', he, hgone⟩ := exec_sweepOrphans generate w
    exact (h tr _ w' he o ho (hgone o ht)).2
  · intro h tr out w' he o ho hgone
    have hswept := ((ensures_sweepOrphans (Swept.refl w)).sound he).1
    have ht : Target o := by
      by_contra hn
      exact hgone (hswept.others o ho hn)
    exact ⟨(h o ho ht).not_live, h o ho ht⟩

section Operations

variable {α : Type} {lib : Libraries} {ex : Invocation}

def Call.sparesInfra : Call → Bool
  | deleteInfra _ _ => false
  | _ => true

lemma perform_sparesInfra {c : Call} (hc : c.sparesInfra = true) :
    (w.perform generate c).2.infra = w.infra := by
  cases c with
  | deleteInfra => cases hc
  | waitUntilDeleted =>
    simp only [World.perform, World.collect, World.removeObjects]
    split
    · rfl
    · split_ifs <;> rfl
  | _ => first | rfl | (simp only [World.perform]; split <;> rfl)

lemma Swept.congr (h : Swept w s) (ht : t.infra = s.infra) : Swept w t := by
  have hsame : t.infraObjects = s.infraObjects := by rw [infraObjects, ht, infraObjects]
  refine ⟨fun o ho => h.subset o (hsame ▸ ho), fun o ho hn => ?_⟩
  rw [hsame]
  exact h.others o ho hn

lemma Swept.trans {u : World} (h : Swept w s) (h' : Swept s u) : Swept w u :=
  ⟨fun o ho => h.subset o (h'.subset o ho), fun o ho hn => h'.others o (h.others o ho hn) hn⟩

lemma ensures_sparesInfra {p : Op α} (hu : p.Uses fun c : Call => c.sparesInfra = true)
    (hs : Swept w s) : Ensures (answers generate) (KeepsSwept w) p (fun _ t => Swept w t) s := by
  refine Ensures.of_uses hu (fun u c r v hc ha hu => ?_) hs
  have hv : Swept w v := by
    exact ha.keeps hu (hu.congr (perform_sparesInfra hc))
  exact ⟨hv, hv⟩

lemma removes_sparesInfra : Removes fun c : Call => c.sparesInfra = true := by
  constructor
  · constructor <;> intros <;> rfl
  all_goals intros; rfl

lemma ensures_sweep_swept (hs : Swept w s) :
    Ensures (answers generate) (KeepsSwept w) sweep (fun _ t => Swept w t) s :=
  Ensures.bind (ensures_sparesInfra (uses_wrapped (uses_send rfl)) hs)
    (fun _ _ ht => ensures_sweepOrphans ht) fun _ _ ht => ht

lemma reconciles_sparesInfra : Reconciles fun c : Call => c.sparesInfra = true := by
  constructor
  · constructor <;> intros <;> rfl
  all_goals intros; rfl

lemma ensures_reconcile_swept :
    Ensures (answers generate) (KeepsSwept w) (reconcile lib ex) (fun _ t => Swept w t) w := by
  refine ensures_reconcile_keeps reconciles_sparesInfra (fun hu _ hs => ensures_sparesInfra hu hs)
    (fun _ hs => ensures_sweep_swept hs) (fun cluster enabled _ hs => ?_) (Swept.refl w)
  exact ensures_sparesInfra
    (uses_netpolController (P := fun c => c.sparesInfra = true) (fun _ _ => rfl)
    rfl (fun _ => rfl) (fun _ => rfl) rfl rfl rfl rfl (fun _ => rfl) cluster enabled) hs

lemma ensures_program_swept (op : Operation) :
    Ensures (answers generate) (KeepsSwept w) (op.program lib ex) (fun _ t => Swept w t) w := by
  cases op with
  | reconcile => exact ensures_reconcile_swept
  | restore => exact ensures_reconcile_swept
  | delete => exact ensures_sparesInfra (uses_delete removes_sparesInfra) (Swept.refl w)
  | forceDelete => exact ensures_sparesInfra (uses_keeping removes_sparesInfra rfl) (Swept.refl w)
  | migrate => exact ensures_sparesInfra (uses_keeping removes_sparesInfra rfl) (Swept.refl w)

end Operations

section KubeSystem

def systemGateway : Gateway :=
  { «namespace» := "kube-system", name := "eg", gatewayClassName := "gardener-envoy-gateway" }

def liveService : InfraObject where
  kind := .service
  key := ⟨"kube-system", "envoy-eg"⟩
  labels := .ofList [("app.kubernetes.io/managed-by", "envoy-gateway"),
    ("gateway.envoyproxy.io/owning-gateway-name", "eg"),
    ("gateway.envoyproxy.io/owning-gateway-namespace", "kube-system")]

def systemWorld : World :=
  { cluster := none
    gateways := [systemGateway]
    infra := Store.set ∅ (.service, ⟨"kube-system", "envoy-eg"⟩) (some liveService.labels) }

theorem live_service_swept :
    liveService ∈ systemWorld.infraObjects ∧ Live systemWorld liveService ∧ ∃ tr w',
      Exec (answers fun _ _ => .ok ∅) sweepOrphans systemWorld tr (.ok ()) w' ∧
      liveService ∉ w'.infraObjects := by
  refine ⟨mem_infraObjects.mpr rfl, ⟨rfl, systemGateway, List.mem_singleton.mpr rfl, rfl, rfl, rfl⟩,
    ?_⟩
  obtain ⟨tr, w', he, hgone⟩ := exec_sweepOrphans (fun _ _ => .ok ∅) systemWorld
  exact ⟨tr, w', he, hgone liveService ⟨rfl, rfl, rfl⟩⟩

end KubeSystem

end EnvoyGatewayExtension.Actuator
