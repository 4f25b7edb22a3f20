import EnvoyGatewayExtension.Kubernetes.Manifests

namespace EnvoyGatewayExtension.Kubernetes

/-- A request as the authorizer sees it; one that is not about a namespace leaves it empty. -/
structure Attributes where
  verb : String
  apiGroup : String
  resource : String
  subresource : String := ""
  «namespace» : String := ""
  deriving DecidableEq

def Attributes.combined (a : Attributes) : String :=
  if a.subresource = "" then a.resource else a.resource ++ "/" ++ a.subresource

namespace PolicyRule

variable {rule : PolicyRule} {a : Attributes}

def matchesResource (a : Attributes) (r : String) : Bool :=
  r == "*" || r == a.combined || (a.subresource != "" && r == "*/" ++ a.subresource)

def permits (rule : PolicyRule) (a : Attributes) : Bool :=
  (rule.verbs.contains "*" || rule.verbs.contains a.verb) &&
    (rule.apiGroups.contains "*" || rule.apiGroups.contains a.apiGroup) && rule.resources.any
      (matchesResource a)

def literal (rule : PolicyRule) : Bool :=
  !rule.verbs.contains "*" && !rule.apiGroups.contains "*" && rule.resources.all fun r =>
    r.toList.head? != some '*'

lemma matchesResource_of_literal {r : String} (hr : r.toList.head? ≠ some '*') :
    matchesResource a r = true ↔ r = a.combined := by
  have hstar : r ≠ "*" := by
    rintro rfl
    exact hr rfl
  have hsub : r ≠ "*/" ++ a.subresource := by
    intro h
    rw [h, String.toList_append] at hr
    exact hr rfl
  simp [matchesResource, hstar, hsub]

lemma permits_iff (h : rule.literal = true) : rule.permits a = true ↔
    a.verb ∈ rule.verbs ∧ a.apiGroup ∈ rule.apiGroups ∧ a.combined ∈ rule.resources := by
  simp only [literal, Bool.and_eq_true, Bool.not_eq_true', List.all_eq_true, bne_iff_ne] at h
  obtain ⟨⟨hverbs, hgroups⟩, hresources⟩ := h
  have hany : rule.resources.any (matchesResource a) = true ↔ a.combined ∈ rule.resources := by
    rw [List.any_eq_true]
    constructor
    · rintro ⟨r, hr, hm⟩
      rw [← (matchesResource_of_literal (hresources r hr)).mp hm]
      exact hr
    · intro hr
      exact ⟨_, hr, (matchesResource_of_literal (hresources _ hr)).mpr rfl⟩
  rw [permits, hverbs, hgroups, Bool.and_eq_true, Bool.and_eq_true, hany]
  simp [and_assoc]

end PolicyRule

def roleKey (ref : RoleRef) (ns : String) : ObjectKey :=
  ⟨ref.apiGroup, ref.kind, if ref.kind = "ClusterRole" then "" else ns, ref.name⟩

namespace Manifest

def isAccessControl (m : Manifest) : Bool :=
  match m.body with
  | .role _ => true
  | .roleBinding _ _ => true
  | _ => false

def binds (m : Manifest) (account : NamespacedName) (a : Attributes) : Option RoleRef :=
  match m.body with
  | .roleBinding ref subjects =>
    if ⟨"ServiceAccount", account.name, account.namespace⟩ ∈ subjects ∧
        (m.key.kind = "ClusterRoleBinding" ∨ m.key.kind = "RoleBinding" ∧
          m.key.namespace = a.namespace) then
      some ref
    else none
  | _ => none

def rules (m : Manifest) (key : ObjectKey) : List PolicyRule :=
  match m.body with
  | .role rules => if m.key = key then rules else []
  | _ => []

end Manifest

def authorised (objects : List Manifest) (account : NamespacedName) (a : Attributes) : Bool :=
  objects.any fun b => (b.binds account a).any fun ref =>
    objects.any fun m => (m.rules (roleKey ref b.key.namespace)).any fun rule => rule.permits a

section Authorised

variable {objects objects' : List Manifest} {account : NamespacedName} {a : Attributes}

lemma authorised_iff : authorised objects account a = true ↔
    ∃ b ∈ objects, ∃ ref, b.binds account a = some ref ∧
      ∃ m ∈ objects, ∃ rule ∈ m.rules (roleKey ref b.key.namespace), rule.permits a = true := by
  simp only [authorised, List.any_eq_true, Option.any_eq_true]

lemma isAccessControl_of_binds {m : Manifest} {ref : RoleRef} (h : m.binds account a = some ref) :
    m.isAccessControl = true := by
  rw [Manifest.binds] at h
  rw [Manifest.isAccessControl]
  split at h
  · next hbody => rw [hbody]
  · cases h

lemma isAccessControl_of_rules {m : Manifest} {key : ObjectKey} {rule : PolicyRule}
    (h : rule ∈ m.rules key) : m.isAccessControl = true := by
  rw [Manifest.rules] at h
  rw [Manifest.isAccessControl]
  split at h
  · next hbody => rw [hbody]
  · cases h

lemma authorised_mono (h : ∀ m ∈ objects, m.isAccessControl = true → m ∈ objects')
    (ha : authorised objects account a = true) : authorised objects' account a = true := by
  obtain ⟨b, hb, ref, href, m, hm, rule, hrule, hp⟩ := authorised_iff.mp ha
  exact authorised_iff.mpr ⟨b, h b hb (isAccessControl_of_binds href), ref, href, m,
    h m hm (isAccessControl_of_rules hrule), rule, hrule, hp⟩

end Authorised

end EnvoyGatewayExtension.Kubernetes
