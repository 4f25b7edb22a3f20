import EnvoyGatewayExtension.EnvoyGateway.Access
import EnvoyGatewayExtension.NetpolController.Reconciler

namespace EnvoyGatewayExtension.NetpolController

open Kubernetes EnvoyGateway Stores

def networkPolicies : String := "networkpolicies"

def informerRequests : List Attributes :=
  ["list", "watch"].flatMap fun verb =>
    [{ verb, apiGroup := apiGroupGatewayAPI, resource := "gateways" },
      { verb, apiGroup := "networking.k8s.io", resource := networkPolicies }]

def policyRequest (verb ns : String) : Attributes :=
  { verb, apiGroup := "networking.k8s.io", resource := networkPolicies, «namespace» := ns }

/-- What a call asks of the API server: the reads are answered by the informers. -/
def ClientCall.request : ClientCall → Option Attributes
  | listGateways _ => none
  | getPolicy _ => none
  | createPolicy np => some (policyRequest "create" np.namespace)
  | updatePolicy np => some (policyRequest "update" np.namespace)
  | deletePolicy k => some (policyRequest "delete" k.namespace)

inductive Requests : Attributes → Prop
  | informer {a : Attributes} : a ∈ informerRequests → Requests a
  | call {c : ClientCall} {a : Attributes} : c.request = some a → Requests a

section Rules

variable {a : Attributes} {config : Config} {lib : Libraries} {tls : TLSBundle} {r : Resources}

lemma combined_eq {res : String} (hres : '/' ∉ res.toList) (h : a.combined = res) :
    a.resource = res ∧ a.subresource = "" := by
  rw [Attributes.combined] at h
  split_ifs at h with hsub
  · exact ⟨h, hsub⟩
  · rw [← h, String.toList_append, String.toList_append] at hres
    simp at hres

def networkPolicyRule : PolicyRule := ⟨["networking.k8s.io"], [networkPolicies], verbsWrite⟩

lemma permits_of_requests (h : Requests a) :
    ∃ rule ∈ netpolControllerClusterRole.rules netpolControllerClusterRole.key,
      rule.permits a = true := by
  have hrule : networkPolicyRule ∈ netpolControllerClusterRole.rules
    netpolControllerClusterRole.key := by
    decide +kernel
  have hwrite : ∀ verb ns, verb ∈ verbsWrite →
    networkPolicyRule.permits (policyRequest verb ns) = true := by
    intro verb ns hverb
    exact (PolicyRule.permits_iff rfl).mpr
      ⟨hverb, List.mem_singleton.mpr rfl, List.mem_singleton.mpr rfl⟩
  cases h with
  | informer ha =>
    have hinformers : ∀ a ∈ informerRequests, ∃ rule ∈ netpolControllerClusterRole.rules
        netpolControllerClusterRole.key, rule.permits a = true := by decide +kernel
    exact hinformers a ha
  | @call c a hc =>
    refine ⟨networkPolicyRule, hrule, ?_⟩
    cases c with
    | listGateways ns => cases hc
    | getPolicy k => cases hc
    | createPolicy np =>
      cases hc
      exact hwrite _ _ (by decide)
    | updatePolicy np =>
      cases hc
      exact hwrite _ _ (by decide)
    | deletePolicy k =>
      cases hc
      exact hwrite _ _ (by decide)

lemma accounts_differ : controlPlaneAccount ≠ netpolControllerAccount := by decide

lemma grants_netpolController {enabled : Bool} {g : Grant} (hg : g ∈ grants enabled)
    (ha : g.account = netpolControllerAccount) : enabled = true ∧
      g.rules = netpolControllerClusterRole.rules netpolControllerClusterRole.key := by
  rcases List.mem_append.mp hg with hin | hin
  · simp only [List.mem_cons, List.not_mem_nil, or_false] at hin
    rcases hin with rfl | rfl
    · exact absurd ha accounts_differ
    · exact absurd ha accounts_differ
  · split_ifs at hin with henabled
    · rw [List.mem_singleton.mp hin]
      exact ⟨henabled, rfl⟩
    · cases hin

lemma netpolController_confined {rule : PolicyRule}
    (hr : rule ∈ netpolControllerClusterRole.rules netpolControllerClusterRole.key)
    (hp : rule.permits a = true) :
    a.subresource = "" ∧
    (a.apiGroup = apiGroupGatewayAPI ∧ a.resource = "gateways" ∧ a.verb ∈ verbsRead ∨
      a.apiGroup = "networking.k8s.io" ∧ a.resource = networkPolicies) := by
  have hrules : netpolControllerClusterRole.rules netpolControllerClusterRole.key =
      [⟨[apiGroupGatewayAPI], ["gateways"], verbsRead⟩, networkPolicyRule] := rfl
  rw [hrules] at hr
  simp only [List.mem_cons, List.not_mem_nil, or_false] at hr
  rcases hr with rfl | rfl
  · obtain ⟨hverb, hgroup, hresource⟩ := (PolicyRule.permits_iff rfl).mp hp
    obtain ⟨hres, hsub⟩ := combined_eq (by decide) (List.mem_singleton.mp hresource)
    exact ⟨hsub, Or.inl ⟨List.mem_singleton.mp hgroup, hres, hverb⟩⟩
  · obtain ⟨_, hgroup, hresource⟩ := (PolicyRule.permits_iff rfl).mp hp
    obtain ⟨hres, hsub⟩ := combined_eq (by decide) (List.mem_singleton.mp hresource)
    exact ⟨hsub, Or.inr ⟨List.mem_singleton.mp hgroup, hres⟩⟩

end Rules

theorem permissions_fit {lib : Libraries} {config : Config} {tls : TLSBundle} {r : Resources}
    (h : buildResources lib config tls = .ok r) :
    (config.manageDataPlaneNetworkPolicies = true →
      ∀ a, Requests a → authorised (manifestsOf r) netpolControllerAccount a = true) ∧
    (∀ a, authorised (manifestsOf r) netpolControllerAccount a = true →
      config.manageDataPlaneNetworkPolicies = true ∧ a.subresource = "" ∧
        (a.apiGroup = apiGroupGatewayAPI ∧ a.resource = "gateways" ∧ a.verb ∈ verbsRead ∨
          a.apiGroup = "networking.k8s.io" ∧ a.resource = networkPolicies)) ∧
    (∀ account a, authorised (manifestsOf r) account a = true →
      account = controlPlaneAccount ∨ account = netpolControllerAccount) ∧
    ∀ m ∈ manifestsOf r, m.key.kind ∈ guardRails.map Prod.snd → ∀ account a,
      a.apiGroup = m.key.group →
      a.resource = resourceOf m.key.kind → a.subresource = "" → a.verb ∉ verbsRead →
        authorised (manifestsOf r) account a = false := by
  refine ⟨fun henabled a ha => ?_, fun a ha => ?_, fun account a ha => ?_,
    fun m hm hk account a hg hres hsub hv => guardRails_closed h hm hk hg hres hsub hv⟩
  · obtain ⟨rule, hr, hp⟩ := permits_of_requests ha
    rw [authorised_build h, henabled]
    exact authorised_netpolController hr hp
  · rw [authorised_build h] at ha
    obtain ⟨g, hg, haccount, rule, hr, hp⟩ := grant_of_authorised ha
    obtain ⟨henabled, hrules⟩ := grants_netpolController hg haccount
    rw [hrules] at hr
    exact ⟨henabled, netpolController_confined hr hp⟩
  · rw [authorised_build h] at ha
    obtain ⟨g, hg, rfl, _⟩ := grant_of_authorised ha
    have haccounts : ∀ g ∈ grants true, g.account = controlPlaneAccount ∨
      g.account = netpolControllerAccount := by
      decide
    exact haccounts g (mem_grants_true hg)

theorem permissions_fit_enabled : ∃ r,
    buildResources (sampleLibraries {}) { manageDataPlaneNetworkPolicies := true } {} = .ok r ∧
    authorised (manifestsOf r) netpolControllerAccount (policyRequest "create" "shop") = true ∧
    authorised (manifestsOf r) netpolControllerAccount
      { verb := "update", apiGroup := apiGroupGatewayAPI, resource := "gateways",
        «namespace» := "shop" } ≠ true := by
  have hbuild : buildResources (sampleLibraries {}) { manageDataPlaneNetworkPolicies := true } {} =
    .ok _ := rfl
  obtain ⟨hneeds, hconfined, _⟩ := permissions_fit hbuild
  refine ⟨_, hbuild, hneeds
    rfl _ (.call (c := .createPolicy (dataPlaneProxyIngressPolicy "shop")) rfl), fun ha => ?_⟩
  obtain ⟨_, _, ⟨_, _, hverb⟩ | ⟨hgroup, _⟩⟩ := hconfined _ ha
  · exact absurd hverb (by decide)
  · exact absurd hgroup (by decide)

end EnvoyGatewayExtension.NetpolController
