import EnvoyGatewayExtension.EnvoyGateway.Listing
import EnvoyGatewayExtension.Kubernetes.Authorization

namespace EnvoyGatewayExtension.EnvoyGateway

open Kubernetes Stores

variable {lib : Libraries} {config : Config} {tls : TLSBundle} {r : Resources} {enabled : Bool}
  {account : NamespacedName} {a : Attributes}

def controlPlaneAccount : NamespacedName := ⟨«namespace», serviceAccountName⟩

def netpolControllerAccount : NamespacedName := ⟨«namespace», netpolControllerServiceAccountName⟩

section Shipped

def accessControl (enabled : Bool) : List Manifest :=
  [clusterRole, clusterRoleBinding, leaderElectionRole, leaderElectionRoleBinding] ++
    if enabled then [netpolControllerClusterRole, netpolControllerClusterRoleBinding] else []

lemma accessControl_of_own {deploy m : Manifest} {e : String × List Manifest}
    (hd : deployment lib config = .ok deploy)
    (he : e ∈ ownObjects lib config tls deploy) (hm : m ∈ e.2) (ha : m.isAccessControl = true) :
    m ∈ accessControl config.manageDataPlaneNetworkPolicies := by
  simp only [ownObjects, List.mem_append] at he
  rcases he with ((he | he) | he) | he
  · have hdeploy : deploy.isAccessControl = false := by
      obtain ⟨image, _, hd⟩ := bind_eq_ok.mp hd
      cases hd
      rfl
    simp only [fixedObjects, List.mem_cons, List.not_mem_nil, or_false] at he
    rcases he with rfl | rfl | rfl | rfl | rfl | rfl | rfl | rfl | rfl | rfl | rfl <;>
      rw [List.mem_singleton.mp hm] at ha ⊢ <;>
      first | (cases ha; done) | (rw [hdeploy] at ha; cases ha) | simp [accessControl]
  · rcases mem_secretObjects he with rfl | rfl | rfl <;>
      rw [List.mem_singleton.mp hm] at ha <;> cases ha
  · rcases List.mem_cons.mp he with rfl | he
    · rw [List.mem_singleton.mp hm] at ha
      cases ha
    · split_ifs at he
      · rw [List.mem_singleton.mp he] at hm
        simp only [List.mem_cons, List.not_mem_nil, or_false] at hm
        rcases hm with rfl | rfl <;> cases ha
      · cases he
  · rw [netpolControllerObjects] at he
    split_ifs at he with henabled
    · simp only [List.mem_cons, List.not_mem_nil, or_false] at he
      rcases he with rfl | rfl | rfl <;> rw [List.mem_singleton.mp hm] at ha ⊢
      · cases ha
      · simp [accessControl, henabled]
      · simp [accessControl, henabled]
    · cases he

lemma accessControl_of_build (h : buildResources lib config tls = .ok r) : ∀ m ∈ manifestsOf r,
    m.isAccessControl = true → m ∈ accessControl config.manageDataPlaneNetworkPolicies := by
  refine (only_buildResources h (fun deploy hd e he m hm => accessControl_of_own hd he hm)
    fun _ d _ _ ha => ?_).manifests
  cases ha

lemma accessControl_listed (h : buildResources lib config tls = .ok r) :
    ∀ m ∈ accessControl config.manageDataPlaneNetworkPolicies, m ∈ manifestsOf r := by
  obtain ⟨deploy, hd, _⟩ := lookup_buildResources h
  have hlisted : ∀ n m, (n, [m]) ∈ ownObjects lib config tls deploy → m ∈ manifestsOf r :=
    fun n m he => mem_of_own h hd he (List.mem_singleton.mpr rfl)
  intro m hm
  rcases List.mem_append.mp hm with hm | hm
  · simp only [List.mem_cons, List.not_mem_nil, or_false] at hm
    rcases hm with rfl | rfl | rfl | rfl
    · exact hlisted "clusterrole.yaml" _ (by simp [ownObjects, fixedObjects])
    · exact hlisted "clusterrolebinding.yaml" _ (by simp [ownObjects, fixedObjects])
    · exact hlisted "role.yaml" _ (by simp [ownObjects, fixedObjects])
    · exact hlisted "rolebinding.yaml" _ (by simp [ownObjects, fixedObjects])
  · split_ifs at hm with henabled
    · simp only [List.mem_cons, List.not_mem_nil, or_false] at hm
      rcases hm with rfl | rfl
      · exact hlisted "netpol-controller-clusterrole.yaml" _ (by simp [ownObjects,
          netpolControllerObjects, henabled])
      · exact hlisted "netpol-controller-clusterrolebinding.yaml" _
          (by simp [ownObjects, netpolControllerObjects, henabled])
    · cases hm

lemma authorised_build (h : buildResources lib config tls = .ok r) :
    authorised (manifestsOf r) account a =
    authorised (accessControl config.manageDataPlaneNetworkPolicies) account a :=
  Bool.eq_iff_iff.mpr ⟨authorised_mono (accessControl_of_build h),
    authorised_mono fun m hm _ => accessControl_listed h m hm⟩

end Shipped

section Grants

structure Grant where
  account : NamespacedName
  scope : Option String
  rules : List PolicyRule

def grants (enabled : Bool) : List Grant :=
  [⟨controlPlaneAccount, none, clusterRole.rules clusterRole.key⟩,
    ⟨controlPlaneAccount, some «namespace», leaderElectionRole.rules leaderElectionRole.key⟩] ++
    if enabled then
      [⟨netpolControllerAccount, none, netpolControllerClusterRole.rules
        netpolControllerClusterRole.key⟩]
    else []

lemma binds_roleBindingNamed {kind ns name roleKind subject : String} {ref : RoleRef}
    (h : (roleBindingNamed kind ns name roleKind subject).binds account a = some ref) :
    ref = ⟨apiGroupRBAC, roleKind, name⟩ ∧ account = ⟨«namespace», subject⟩ ∧
      (kind = kindClusterRoleBinding ∨ a.namespace = ns) := by
  simp only [Manifest.binds, roleBindingNamed, List.mem_singleton] at h
  split_ifs at h with hc
  obtain ⟨hsubject, hscope⟩ := hc
  obtain ⟨_, hname, hns⟩ := Subject.mk.inj hsubject
  refine ⟨(Option.some.inj h).symm, ?_, hscope.imp id fun hs => hs.2.symm⟩
  rw [← hname, ← hns]

lemma resolved_clusterRole : (accessControl enabled).flatMap (fun m => m.rules
    (roleKey ⟨apiGroupRBAC, kindClusterRole, clusterRoleName⟩ "")) = clusterRole.rules
      clusterRole.key := by
  cases enabled <;> decide +kernel

lemma resolved_leaderElectionRole : (accessControl enabled).flatMap (fun m => m.rules
    (roleKey ⟨apiGroupRBAC, "Role", leaderElectionRoleName⟩ «namespace»)) =
      leaderElectionRole.rules leaderElectionRole.key := by
  cases enabled <;> decide +kernel

lemma resolved_netpolControllerClusterRole : (accessControl true).flatMap (fun m => m.rules
    (roleKey ⟨apiGroupRBAC, kindClusterRole, netpolControllerClusterRoleName⟩ "")) =
      netpolControllerClusterRole.rules netpolControllerClusterRole.key := by
  decide +kernel

lemma grant_of_authorised (ha : authorised (accessControl enabled) account a = true) :
    ∃ g ∈ grants enabled, g.account = account ∧ ∃ rule ∈ g.rules, rule.permits a = true := by
  obtain ⟨b, hb, ref, href, m, hm, rule, hrule, hp⟩ := authorised_iff.mp ha
  have hresolved : rule ∈ (accessControl enabled).flatMap fun m =>
    m.rules (roleKey ref b.key.namespace) :=
    List.mem_flatMap.mpr ⟨m, hm, hrule⟩
  rcases List.mem_append.mp hb with hin | hin
  · simp only [List.mem_cons, List.not_mem_nil, or_false] at hin
    rcases hin with rfl | rfl | rfl | rfl
    · cases href
    · obtain ⟨rfl, rfl, _⟩ := binds_roleBindingNamed href
      rw [show clusterRoleBinding.key.namespace = "" from rfl, resolved_clusterRole] at hresolved
      exact ⟨_, List.mem_append_left _ List.mem_cons_self, rfl, rule, hresolved, hp⟩
    · cases href
    · obtain ⟨rfl, rfl, _⟩ := binds_roleBindingNamed href
      rw [show leaderElectionRoleBinding.key.namespace = «namespace» from rfl,
        resolved_leaderElectionRole] at hresolved
      exact ⟨_, List.mem_append_left _ (List.mem_cons_of_mem _ List.mem_cons_self), rfl,
        rule, hresolved, hp⟩
  · split_ifs at hin with henabled
    · subst henabled
      simp only [List.mem_cons, List.not_mem_nil, or_false] at hin
      rcases hin with rfl | rfl
      · cases href
      · obtain ⟨rfl, rfl, _⟩ := binds_roleBindingNamed href
        rw [show netpolControllerClusterRoleBinding.key.namespace = "" from rfl,
          resolved_netpolControllerClusterRole] at hresolved
        exact ⟨_, List.mem_append_right _ List.mem_cons_self, rfl, rule, hresolved, hp⟩
    · cases hin

lemma grants_literal : ∀ g ∈ grants true, ∀ rule ∈ g.rules, rule.literal = true := by decide +kernel

lemma mem_grants_true {g : Grant} (hg : g ∈ grants enabled) : g ∈ grants true := by
  cases enabled with
  | true => exact hg
  | false => exact List.mem_append_left _ (by simpa [grants] using hg)

lemma authorised_netpolController {rule : PolicyRule}
    (hr : rule ∈ netpolControllerClusterRole.rules netpolControllerClusterRole.key)
    (hp : rule.permits a = true) :
    authorised (accessControl true) netpolControllerAccount a = true := by
  refine authorised_iff.mpr ⟨netpolControllerClusterRoleBinding, by simp [accessControl],
    ⟨apiGroupRBAC, kindClusterRole, netpolControllerClusterRoleName⟩, ?_,
    netpolControllerClusterRole, by simp [accessControl], rule, hr, hp⟩
  rfl

end Grants

section Changes

def changes (rules : List PolicyRule) : List (String × String) :=
  rules.flatMap fun rule =>
    if rule.verbs.any (fun v => v ∉ verbsRead) then rule.apiGroups.product rule.resources else []

lemma mem_changes {rules : List PolicyRule} {rule : PolicyRule} (hl : rule.literal = true)
    (hr : rule ∈ rules) (hp : rule.permits a = true) (hv : a.verb ∉ verbsRead) :
    (a.apiGroup, a.combined) ∈ changes rules := by
  obtain ⟨hverb, hgroup, hresource⟩ := (PolicyRule.permits_iff hl).mp hp
  have hany : rule.verbs.any (fun v => v ∉ verbsRead) = true :=
    List.any_eq_true.mpr ⟨a.verb, hverb, by simpa using hv⟩
  refine List.mem_flatMap.mpr ⟨rule, hr, ?_⟩
  rw [if_pos hany]
  exact List.mem_product.mpr ⟨hgroup, hresource⟩

def resourceOf : String → String
  | "ClusterRole" => "clusterroles"
  | "ClusterRoleBinding" => "clusterrolebindings"
  | "Role" => "roles"
  | "RoleBinding" => "rolebindings"
  | "CustomResourceDefinition" => "customresourcedefinitions"
  | "ValidatingAdmissionPolicy" => "validatingadmissionpolicies"
  | "ValidatingAdmissionPolicyBinding" => "validatingadmissionpolicybindings"
  | "EnvoyProxy" => "envoyproxies"
  | kind => kind

/-- The kinds that confine the extension's own accounts and the users of its proxies. -/
def guardRails : List (String × String) :=
  [(apiGroupRBAC, kindClusterRole), (apiGroupRBAC, kindClusterRoleBinding), (apiGroupRBAC, "Role"),
    (apiGroupRBAC, "RoleBinding"), (apiExtensionsGroup, crdKind),
    (admissionRegistrationGroup, "ValidatingAdmissionPolicy"),
    (admissionRegistrationGroup, "ValidatingAdmissionPolicyBinding"),
      (apiGroupEnvoyGateway, "EnvoyProxy")]

lemma guardRails_of_build (h : buildResources lib config tls = .ok r) : ∀ m ∈ manifestsOf r,
    m.key.kind ∈ guardRails.map Prod.snd → (m.key.group, m.key.kind) ∈ guardRails := by
  refine (only_buildResources h (fun deploy hd => ?_) fun _ d _ hk _ => ?_).manifests
  · have hconstant : ∀ m ∈ constantObjects,
        m.key.kind ∈ guardRails.map Prod.snd →
          (m.key.group, m.key.kind) ∈ guardRails := by decide +kernel
    refine ownObjects_forall hconstant ?_ ?_ ?_ ?_
    · rw [(deployment_key hd).1]
      decide
    · intro hk
      exact absurd hk (by decide : ¬ "ConfigMap" ∈ guardRails.map Prod.snd)
    · intro m hm hk
      rcases eq_of_mem_shippedSecrets hm with rfl | rfl | rfl <;>
        exact absurd hk (by decide : ¬ kindSecret ∈ guardRails.map Prod.snd)
    · intro _
      exact (by decide : (apiGroupEnvoyGateway, "EnvoyProxy") ∈ guardRails)
  · have hkey : (d.manifest.key.group, d.manifest.key.kind) = (apiExtensionsGroup, crdKind) := by
      rw [show d.manifest.key.kind = d.kind from rfl, hk]
      rfl
    rw [hkey]
    decide

lemma guardRails_unchanged :
    ∀ g ∈ grants true, ∀ k ∈ guardRails, (k.1, resourceOf k.2) ∉ changes g.rules := by
  decide +kernel

lemma guardRails_closed (h : buildResources lib config tls = .ok r) {m : Manifest}
    (hm : m ∈ manifestsOf r)
    (hk : m.key.kind ∈ guardRails.map Prod.snd) (hgroup : a.apiGroup = m.key.group)
    (hresource : a.resource = resourceOf m.key.kind) (hsub : a.subresource = "")
    (hv : a.verb ∉ verbsRead) : authorised (manifestsOf r) account a = false := by
  refine Bool.eq_false_iff.mpr fun ha => ?_
  rw [authorised_build h] at ha
  obtain ⟨g, hg, _, rule, hr, hp⟩ := grant_of_authorised ha
  have hin := mem_changes (grants_literal g (mem_grants_true hg) rule hr) hr hp hv
  rw [Attributes.combined, if_pos hsub, hgroup, hresource] at hin
  exact guardRails_unchanged g (mem_grants_true hg) _ (guardRails_of_build h m hm hk) hin

end Changes

end EnvoyGatewayExtension.EnvoyGateway
