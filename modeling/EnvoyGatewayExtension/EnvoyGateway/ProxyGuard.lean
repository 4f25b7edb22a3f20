import EnvoyGatewayExtension.EnvoyGateway.EnvoyProxy
import EnvoyGatewayExtension.Kubernetes.AdmissionPolicies

namespace EnvoyGatewayExtension.EnvoyGateway

open Kubernetes Cel

section Expressions

variable {workload field : String}

def fieldPath (field : String) : List String := (field.toList.splitOn '.').map String.ofList

lemma fieldPath_ne_nil (field : String) : fieldPath field ≠ [] := by
  rw [fieldPath, ne_eq, List.map_eq_nil_iff]
  exact List.splitOn_ne_nil _ _

structure Named (workload field : String) : Prop where
  workload : isName workload.toList = true
  parts : ∀ part ∈ field.toList.splitOn '.', isName part = true

def absentExpr (workload : String) (path : List String) : Expr :=
  (absences (.policyVariable workload) path).foldl .or (.eqNull (.policyVariable workload))

def absentWords (workload : List Char) (before : List (List Char)) :
    List (List Char) → List (List (List Char))
  | [] => []
  | p :: parts => ["!has(".toList ++ variablePath workload (before ++ [p]) ++ [')']] ::
      absentWords workload (before ++ [p]) parts

lemma absentTerms_words (workload : List Char) {path : String} {before : List (List Char)}
    (hp : path.toList = variablePath workload before) (parts : List (List Char)) :
    (absentTerms path (parts.map String.ofList)).map String.toList =
      (absentWords workload before parts).map [' '].intercalate := by
  induction parts generalizing path before with
  | nil => rfl
  | cons p parts ih =>
    have hnext : (path ++ "." ++ String.ofList p).toList = variablePath workload
      (before ++ [p]) := by
      rw [variablePath_concat, ← hp]
      simp
    rw [List.map_cons, absentTerms, List.map_cons, absentWords, List.map_cons, ih hnext]
    refine congrArg₂ List.cons ?_ rfl
    rw [List.intercalate_singleton, variablePath_concat, ← hp]
    simp

lemma parse_absentWords {workload : List Char} {before parts : List (List Char)}
    (hw : isName workload = true)
    (hb : ∀ p ∈ before, isName p = true) (hp : ∀ p ∈ parts, isName p = true) :
    (absentWords workload before parts).mapM parseAnd =
      some (absences (selectAll (.policyVariable (String.ofList workload)) before)
        (parts.map String.ofList)) := by
  induction parts generalizing before with
  | nil => rfl
  | cons p parts ih =>
    obtain ⟨hhead, htail⟩ := List.forall_mem_cons.mp hp
    have hnext : ∀ q ∈ before ++ [p], isName q = true :=
      List.forall_mem_append.mpr ⟨hb, List.forall_mem_singleton.mpr hhead⟩
    have hfirst : parseAnd ["!has(".toList ++ variablePath workload (before ++ [p]) ++ [')']] =
        some (.not (.has (selectAll (.policyVariable (String.ofList workload)) before)
          (String.ofList p))) := by
      rw [parseAnd_single (by simp)]
      exact parseUnary_not_has hw hb hhead
    have hselect : selectAll (.policyVariable (String.ofList workload)) (before ++ [p]) =
        .select (selectAll (.policyVariable (String.ofList workload)) before)
          (String.ofList p) := by
      simp [selectAll]
    rw [absentWords, List.mapM_cons, hfirst, ih hnext htail, hselect]
    rfl

lemma mem_absentWords {workload : List Char} {before parts : List (List Char)}
    {g : List (List Char)} (hb : ∀ p ∈ before, isName p = true) (hp : ∀ p ∈ parts, isName p = true)
    (hg : g ∈ absentWords workload before parts) :
    ∃ path, (∀ p ∈ path, isName p = true) ∧
    g = ["!has(".toList ++ variablePath workload path ++ [')']] := by
  induction parts generalizing before with
  | nil => cases hg
  | cons p parts ih =>
    obtain ⟨hhead, htail⟩ := List.forall_mem_cons.mp hp
    have hnext : ∀ q ∈ before ++ [p], isName q = true :=
      List.forall_mem_append.mpr ⟨hb, List.forall_mem_singleton.mpr hhead⟩
    rcases List.mem_cons.mp hg with rfl | hg
    · exact ⟨before ++ [p], hnext, rfl⟩
    · exact ih hnext htail hg

lemma parse_fieldAbsentExpression (h : Named workload field) :
    parse (fieldAbsentExpression workload field) =
      some (absentExpr workload (fieldPath field)) := by
  let name := workload.toList
  let parts := field.toList.splitOn '.'
  let first := [variablePath name [], ['=', '='], ['n', 'u', 'l', 'l']]
  have hroot : ("variables." ++ workload).toList = variablePath name [] := by
    simp [variablePath, name, List.intercalate_cons_cons]
  have hrendered : (fieldAbsentExpression workload field).toList =
      " || ".toList.intercalate ((first :: absentWords name [] parts).map [' '].intercalate) := by
    rw [fieldAbsentExpression, String.toList_intercalate, List.map_cons,
      absentTerms_words name hroot, List.map_cons]
    refine congrArg (fun t => " || ".toList.intercalate (t :: _)) ?_
    rw [String.toList_append, hroot]
    simp [first, List.intercalate_cons_cons]
  have hspace : ∀ path, (∀ p ∈ path, isName p = true) → ' ' ∉ variablePath name path :=
    fun path hpath => not_mem_variablePath h.workload hpath (by decide) (by decide)
  have hwords : ∀ g ∈ first :: absentWords name [] parts, g ≠ [] ∧ ∀ w ∈ g, ' ' ∉ w ∧
    w ≠ ['|', '|'] ∧ w ≠ ['?'] := by
    refine List.forall_mem_cons.mpr ⟨⟨List.cons_ne_nil _ _, ?_⟩, ?_⟩
    · refine List.forall_mem_cons.mpr ⟨⟨hspace [] (by simp), ?_, ?_⟩, by decide⟩
      · rw [← hroot]
        simp
      · rw [← hroot]
        simp
    · intro g hg
      obtain ⟨path, hpath, rfl⟩ := mem_absentWords (by simp) h.parts hg
      refine ⟨List.cons_ne_nil _ _, List.forall_mem_singleton.mpr ⟨?_, by simp, by simp⟩⟩
      simp [hspace path hpath]
  have hand : ['&', '&'] ∉ first := by
    have hne : variablePath name [] ≠ ['&', '&'] := by
      rw [← hroot]
      simp
    simp [first, hne.symm]
  have hfirst : parseAnd first = some (.eqNull (.policyVariable workload)) := by
    rw [parseAnd_single hand]
    change (parsePath (variablePath name [])).map Expr.eqNull = _
    rw [parsePath_variablePath h.workload (by simp), String.ofList_toList]
    rfl
  rw [← String.ofList_toList (s := fieldAbsentExpression workload field), hrendered,
    parse_or (List.cons_ne_nil _ _) (fun g hg => (hwords g hg).1) fun g hg => (hwords g hg).2,
      List.mapM_cons, hfirst,
    parse_absentWords h.workload (by simp) h.parts, String.ofList_toList]
  rfl

lemma eval_absentExpr {env : Env} {v : Value} {path : List String}
    (hv : env.policyVariable workload = some v)
    (hobjects : v = .null ∨ v.isObject = true ∧ v.ObjectsAlong path) (hpath : path ≠ []) :
    (absentExpr workload path).eval env = some (.bool (v.follow path).isNone) := by
  have hroot : (Expr.eqNull (.policyVariable workload)).eval env = some (.bool v.isNull) := by
    rw [Expr.eval, Expr.eval, hv]
    rfl
  rcases hobjects with rfl | ⟨hobj, halong⟩
  · obtain ⟨f, fs, rfl⟩ := List.exists_cons_of_ne_nil hpath
    exact eval_foldl_or_of_true hroot
  · rw [Value.isNull_of_isObject hobj] at hroot
    exact eval_absences hv halong hroot

end Expressions

section Policy

def kubernetesPath : List String := ["spec", "provider", "kubernetes"]

def guardVariables : List AdmissionVariable :=
  match envoyProxyGuard.1.body with
  | .validatingAdmissionPolicy _ _ «variables» _ => «variables»
  | _ => []

def k8sExpr : Expr := guardedPath (.ident "object") "spec" ["provider", "kubernetes"]

lemma guardVariables_eq : ∃ k8s deploy daemonset,
    guardVariables = [⟨"k8s", k8s⟩, ⟨"deploy", deploy⟩, ⟨"daemonset", daemonset⟩] ∧
    parse k8s = some k8sExpr ∧
    parse deploy = some (guardedField (.policyVariable "k8s") "envoyDeployment") ∧
    parse daemonset = some (guardedField (.policyVariable "k8s") "envoyDaemonSet") := by
  refine ⟨_, _, _, rfl, ?_, ?_, ?_⟩ <;> decide +kernel

lemma guard_names : ∀ w ∈ guardedWorkloads, ∀ f ∈ guardedFields,
    isName w.1.toList = true ∧ ∀ part ∈ f.toList.splitOn '.', isName part = true := by
  decide +kernel

def workloadPath (workload : String) : List String := kubernetesPath ++ [workload]

variable {o : Value}

lemma policyVariable_workload {w : String × String} (hw : w ∈ guardedWorkloads)
    (ho : o.ObjectsAlong (workloadPath w.2)) :
    (environment o guardVariables).policyVariable w.1 =
      some ((o.follow (workloadPath w.2)).getD .null) := by
  obtain ⟨k8s, deploy, daemonset, hvars, hk, hd, hs⟩ := guardVariables_eq
  have hk8s : evaluate (environment o []) k8s = some ((o.follow kubernetesPath).getD .null) := by
    have hobject : (Expr.ident "object").eval (environment o []) = some o := rfl
    rw [evaluate, hk]
    exact eval_guardedPath hobject ho.left
  have hnode : (o.follow kubernetesPath).getD .null = .null ∨
    ((o.follow kubernetesPath).getD .null).isObject = true := by
    cases hf : o.follow kubernetesPath with
    | none => exact Or.inl rfl
    | some u => exact Or.inr (ho kubernetesPath w.2 [] rfl u hf)
  have hfield : (((o.follow kubernetesPath).getD .null).field w.2).getD .null =
    (o.follow (workloadPath w.2)).getD .null := by
    rw [workloadPath, Value.follow_append]
    cases o.follow kubernetesPath with
    | none => rfl
    | some u => simp [Value.follow]
  -- each workload is read off the first variable, in whatever environment declares it
  have hvalue : ∀ env : Env, env.policyVariable "k8s" = evaluate (environment o []) k8s →
      (guardedField (.policyVariable "k8s") w.2).eval env =
        some ((o.follow (workloadPath w.2)).getD .null) := by
    intro env henv
    rw [← hfield]
    exact eval_guardedField (henv.trans hk8s) hnode
  rw [hvars]
  simp only [guardedWorkloads, List.mem_cons, List.not_mem_nil, or_false] at hw
  rcases hw with rfl | rfl
  · rw [← hvalue (declare (environment o []) ⟨"k8s", k8s⟩) rfl]
    change evaluate (declare (environment o []) ⟨"k8s", k8s⟩) deploy = _
    rw [evaluate, hd]
    rfl
  · rw [← hvalue (declare (declare (environment o []) ⟨"k8s", k8s⟩) ⟨"deploy", deploy⟩) rfl]
    change evaluate (declare (declare (environment o []) ⟨"k8s", k8s⟩) ⟨"deploy", deploy⟩)
      daemonset = _
    rw [evaluate, hs]
    rfl

lemma evaluate_guard {w : String × String} {field : String} (hw : w ∈ guardedWorkloads)
    (hf : field ∈ guardedFields) (ho : o.ObjectsAlong (workloadPath w.2 ++ fieldPath field)) :
    evaluate (environment o guardVariables) (fieldAbsentExpression w.1 field) =
      some (.bool (o.follow (workloadPath w.2 ++ fieldPath field)).isNone) := by
  obtain ⟨hworkload, hparts⟩ := guard_names w hw field hf
  have hne := fieldPath_ne_nil field
  obtain ⟨f, fs, hpath⟩ := List.exists_cons_of_ne_nil hne
  have hvar := policyVariable_workload hw ho.left
  rw [evaluate, parse_fieldAbsentExpression ⟨hworkload, hparts⟩, Option.bind_some,
    Value.follow_append]
  cases hnode : o.follow (workloadPath w.2) with
  | none =>
    rw [hnode] at hvar
    rw [eval_absentExpr hvar (Or.inl rfl) hne, hpath]
    rfl
  | some d =>
    rw [hnode] at hvar
    have hobj : d.isObject = true := ho (workloadPath w.2) f fs (by rw [hpath]) d hnode
    exact eval_absentExpr hvar (Or.inr ⟨hobj, ho.right hnode⟩) hne

def guardValidations : List Validation :=
  match envoyProxyGuard.1.body with
  | .validatingAdmissionPolicy _ _ _ validations => validations
  | _ => []

lemma mem_guardValidations {v : Validation} : v ∈ guardValidations →
    ∃ w ∈ guardedWorkloads, ∃ field ∈ guardedFields,
      v.expression = fieldAbsentExpression w.1 field := by
  intro hv
  obtain ⟨field, hf, hv⟩ := List.mem_flatMap.mp hv
  obtain ⟨w, hw, rfl⟩ := List.mem_map.mp hv
  exact ⟨w, hw, field, hf, rfl⟩

lemma exists_guardValidation {w : String × String} {field : String} (hw : w ∈ guardedWorkloads)
    (hf : field ∈ guardedFields) :
    ∃ v ∈ guardValidations, v.expression = fieldAbsentExpression w.1 field :=
  ⟨_, List.mem_flatMap.mpr ⟨field, hf, List.mem_map.mpr ⟨w, hw, rfl⟩⟩, rfl⟩

def proxyRequest (operation : String) (namespaceLabels : Labels) (object : Value) :
    AdmissionRequest where
  operation := operation
  apiGroup := apiGroupEnvoyGateway
  apiVersion := "v1alpha1"
  resource := "envoyproxies"
  namespaceLabels := namespaceLabels
  object := object

lemma admits_iff {operation ns : String} {labels : Labels} (hop : operation ∈ ["CREATE", "UPDATE"])
    (hlabels : labels.lookup metadataNameLabel = some ns) (hns : ns ≠ «namespace») :
    Admits envoyProxyGuard.1 envoyProxyGuard.2 (proxyRequest operation labels o) ↔
      ∀ v ∈ guardValidations, v.Passes "Fail" (environment o guardVariables) := by
  have hselected : LabelSelector.Matches
    ⟨.ofList [], [⟨metadataNameLabel, .notIn, [«namespace»]⟩]⟩ labels := by
    refine ⟨fun k v hk => by simp [Labels.ofList] at hk, ?_⟩
    simp only [List.forall_mem_singleton, Requirement.Matches, hlabels]
    exact fun h => hns (Option.some.inj h)
  constructor
  · intro h
    exact h rfl (by decide) ⟨_, List.mem_singleton.mpr rfl, hop, by simp [proxyRequest]⟩ hselected
  · intro h _ _ _ _
    exact h

theorem envoyProxyGuard_decides (o : Value) (operation ns : String) (labels : Labels)
    (hop : operation ∈ ["CREATE", "UPDATE"]) (hlabels : labels.lookup metadataNameLabel = some ns)
    (hns : ns ≠ «namespace») :
    ((∃ w ∈ guardedWorkloads, ∃ field ∈ guardedFields,
        (o.follow (workloadPath w.2 ++ fieldPath field)).isSome = true) →
      ¬ Admits envoyProxyGuard.1 envoyProxyGuard.2 (proxyRequest operation labels o)) ∧
    ((∀ w ∈ guardedWorkloads, ∀ field ∈ guardedFields,
      o.follow (workloadPath w.2 ++ fieldPath field) = none ∧
        o.ObjectsAlong (workloadPath w.2 ++ fieldPath field)) →
      (∀ v ∈ guardValidations, evaluate (environment o guardVariables) v.expression =
        some (.bool true)) ∧
        Admits envoyProxyGuard.1 envoyProxyGuard.2 (proxyRequest operation labels o)) ∧
    ∀ workload field, Named workload field → ∀ env v, env.policyVariable workload = some v →
      v = .null ∨ v.isObject = true ∧ v.ObjectsAlong (fieldPath field) →
        evaluate env (fieldAbsentExpression workload field) ≠ none ∧
        (evaluate env (fieldAbsentExpression workload field) = some (.bool true) ↔
          v = .null ∨ ∃ p, p <+: fieldPath field ∧ v.follow p = none) ∧
        (evaluate env (fieldAbsentExpression workload field) = some (.bool false) ↔
          (v.follow (fieldPath field)).isSome = true) := by
  rw [admits_iff hop hlabels hns]
  refine ⟨?_, ?_, ?_⟩
  · rintro ⟨w, hw, field, hf, hpresent⟩ hpasses
    obtain ⟨u, hu⟩ := Option.isSome_iff_exists.mp hpresent
    obtain ⟨v, hv, hexpr⟩ := exists_guardValidation hw hf
    have heval := evaluate_guard hw hf (Value.objectsAlong_of_follow hu)
    rw [hu, ← hexpr] at heval
    exact Validation.not_passes_of_false heval (hpasses v hv)
  · intro habsent
    have htrue : ∀ v ∈ guardValidations, evaluate (environment o guardVariables) v.expression =
      some (.bool true) := by
      intro v hv
      obtain ⟨w, hw, field, hf, hexpr⟩ := mem_guardValidations hv
      obtain ⟨hnone, halong⟩ := habsent w hw field hf
      rw [hexpr, evaluate_guard hw hf halong, hnone]
      rfl
    exact ⟨htrue, fun v hv => Validation.passes_of_true (htrue v hv)⟩
  · intro workload field hnamed env v hv hobjects
    have heval : evaluate env (fieldAbsentExpression workload field) =
      some (.bool (v.follow (fieldPath field)).isNone) := by
      rw [evaluate, parse_fieldAbsentExpression hnamed]
      exact eval_absentExpr hv hobjects (fieldPath_ne_nil field)
    have hnull : v = .null → v.follow (fieldPath field) = none := by
      rintro rfl
      obtain ⟨f, fs, hpath⟩ := List.exists_cons_of_ne_nil (fieldPath_ne_nil field)
      rw [hpath]
      rfl
    rw [heval, ← Value.follow_eq_none_iff, Option.some.injEq, Option.some.injEq, Value.bool.injEq,
      Value.bool.injEq]
    refine ⟨Option.some_ne_none _, ?_, ?_⟩
    · rw [Option.isNone_iff_eq_none]
      exact ⟨Or.inr, fun h => h.elim hnull id⟩
    · cases v.follow (fieldPath field) <;> simp

section Sampled

def proxyWith (fields : List (String × Value)) : Value :=
  .object [("spec", .object
    [("provider", .object [("kubernetes", .object [("envoyDeployment", .object fields)])])])]

def hostVolume : Value :=
  .object [("name", .string "host"), ("hostPath", .object [("path", .string "/")])]

def shopLabels : Labels := .ofList [(metadataNameLabel, "shop")]

theorem envoyProxyGuard_rejects_volumes :
    ¬ Admits envoyProxyGuard.1 envoyProxyGuard.2 (proxyRequest "CREATE" shopLabels
      (proxyWith [("pod", .object [("volumes", .list [hostVolume])])])) ∧
    Admits envoyProxyGuard.1 envoyProxyGuard.2
      (proxyRequest "UPDATE" shopLabels (.object [("spec", .object [])])) := by
  have hlabels : shopLabels.lookup metadataNameLabel = some "shop" := by decide
  constructor
  · refine (envoyProxyGuard_decides _ "CREATE" "shop" _ (by simp) hlabels (by decide)).1 ?_
    exact ⟨("deploy", "envoyDeployment"), by simp [guardedWorkloads], "pod.volumes", by
      simp [guardedFields], rfl⟩
  · refine ((envoyProxyGuard_decides _ "UPDATE" "shop" _ (by simp) hlabels (by decide)).2.1
      fun w hw field hf => ?_).2
    refine ⟨rfl, .cons rfl fun u hu => ?_⟩
    cases hu
    exact .cons rfl fun u hu => by cases hu

end Sampled

end Policy

end EnvoyGatewayExtension.EnvoyGateway
