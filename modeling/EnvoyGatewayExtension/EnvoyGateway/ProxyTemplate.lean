import EnvoyGatewayExtension.EnvoyGateway.EnvoyProxy
import EnvoyGatewayExtension.Text.Indentation

namespace EnvoyGatewayExtension.EnvoyGateway

open Text

variable {lib : Libraries} {config : Config}

section Decimals

def decimal : List Char → ℤ
  | '-' :: digits => -(Nat.ofDigitChars 10 digits 0 : ℤ)
  | digits => Nat.ofDigitChars 10 digits 0

lemma toList_ofNat (m : ℕ) : (toString (Int.ofNat m)).toList = Nat.toDigits 10 m :=
  String.toList_ofList

lemma toList_negSucc (m : ℕ) :
    (toString (Int.negSucc m)).toList = '-' :: Nat.toDigits 10 (m + 1) := by
  change (Int.repr (.negSucc m)).toList = _
  simp only [Int.repr, Nat.repr, String.toList_append, String.toList_ofList]
  rfl

lemma isDigit_of_mem {m : ℕ} {c : Char} (hc : c ∈ Nat.toDigits 10 m) : c.isDigit = true :=
  Nat.isDigit_of_mem_toDigits (by decide) (by decide) hc

lemma newline_not_mem_toString (n : ℤ) : '\n' ∉ (toString n).toList := by
  intro hc
  cases n with
  | ofNat m =>
    rw [toList_ofNat] at hc
    exact absurd (isDigit_of_mem hc) (by decide)
  | negSucc m =>
    rw [toList_negSucc] at hc
    rcases List.mem_cons.mp hc with hc | hc
    · exact absurd hc (by decide)
    · exact absurd (isDigit_of_mem hc) (by decide)

lemma decimal_toString (n : ℤ) : decimal (toString n).toList = n := by
  cases n with
  | ofNat m =>
    rw [toList_ofNat, decimal]
    · rw [Nat.ofDigitChars_ten_toDigits]
      rfl
    · intro digits hd
      have hminus : '-' ∈ Nat.toDigits 10 m := by
        rw [hd]
        exact List.mem_cons_self
      exact absurd (isDigit_of_mem hminus) (by decide)
  | negSucc m =>
    rw [toList_negSucc, decimal, Nat.ofDigitChars_ten_toDigits]
    rfl

end Decimals

section Rendered

def shifted (s : String) : List String := (lines s).map ("          " ++ ·)

def containerLines (lib : Libraries) (config : Config) : List String :=
  match config.envoyProxyDefaults.bind (·.resources) with
  | some r => "        container:" :: shifted (marshalResources lib r)
  | none => []

def renderedLines (lib : Libraries) (config : Config) : List String :=
  headerLines ++ (loggingLines config ++ (telemetryLines config ++ (providerLines ++
    (replicasLines config ++ (containerLines lib config ++ podLines)))))

lemma trimRightNewlines_lines (cs : List Char) :
    nonEmptyLines (trimRightNewlines cs) = nonEmptyLines cs := by
  have hcs : trimRightNewlines cs ++ (cs.reverse.takeWhile (· = '\n')).reverse = cs := by
    rw [trimRightNewlines, ← List.reverse_append, List.takeWhile_append_dropWhile,
      List.reverse_reverse]
  conv_rhs => rw [← hcs]
  refine (nonEmptyLines_newlines fun c hc => ?_).symm
  have hall := List.all_eq_true.mp List.all_takeWhile c (List.mem_reverse.mp hc)
  exact of_decide_eq_true hall

lemma indentYAML_container (s : String) :
    indentYAML s 8 "container:\n" = unlines ("        container:" :: shifted s) := by
  have hlines : ((trimRightNewlines s.toList).splitOn '\n').filter (· ≠ []) =
      nonEmptyLines s.toList := trimRightNewlines_lines s.toList
  have hpad : String.ofList (List.replicate 8 ' ') = "        " := rfl
  rw [unlines_cons]
  simp only [indentYAML, hlines, hpad, unlines, shifted, lines, List.map_map]
  rfl

lemma envoyProxyDefaultsYAML_eq (lib : Libraries) (config : Config) :
    envoyProxyDefaultsYAML lib config = unlines (renderedLines lib config) := by
  simp only [envoyProxyDefaultsYAML, renderedLines, containerLines, unlines_append,
    String.append_assoc]
  cases config.envoyProxyDefaults.bind (·.resources) with
  | none => rfl
  | some r =>
    dsimp only
    rw [indentYAML_container]

lemma proper_logging
    (h : config.dataPlaneLogLevel = "" ∨ config.dataPlaneLogLevel ∈ validLogLevels) :
    ∀ l ∈ loggingLines config, Proper l := by
  rw [loggingLines]
  rcases h with h | h
  · simp [h]
  · simp only [validLogLevels, List.mem_cons, List.not_mem_nil, or_false] at h
    rcases h with h | h | h | h
    all_goals
      rw [h]
      decide

lemma proper_telemetry (config : Config) : ∀ l ∈ telemetryLines config, Proper l := by
  rw [telemetryLines]
  split_ifs <;> decide

lemma proper_replicas (config : Config) : ∀ l ∈ replicasLines config, Proper l := by
  rw [replicasLines]
  cases config.dataPlaneReplicas with
  | none => exact fun _ hl => absurd hl List.not_mem_nil
  | some n =>
    refine List.forall_mem_singleton.mpr ⟨fun h => ?_, ?_⟩
    · have hlen := congrArg String.length h
      simp at hlen
    · rw [String.toList_append, List.mem_append]
      rintro (hc | hc)
      · exact absurd hc (by decide)
      · exact newline_not_mem_toString n.toInt hc

lemma proper_container (lib : Libraries) (config : Config) :
    ∀ l ∈ containerLines lib config, Proper l := by
  rw [containerLines]
  split
  · refine List.forall_mem_cons.mpr ⟨by decide, fun l hl => ?_⟩
    obtain ⟨t, ht, rfl⟩ := List.mem_map.mp hl
    exact (proper_of_mem_lines ht).append (by decide)
  · exact fun _ hl => absurd hl List.not_mem_nil

lemma lines_envoyProxyDefaultsYAML
    (h : config.dataPlaneLogLevel = "" ∨ config.dataPlaneLogLevel ∈ validLogLevels) :
    lines (envoyProxyDefaultsYAML lib config) = renderedLines lib config := by
  have hheader : ∀ l ∈ headerLines, Proper l := by decide
  have hprovider : ∀ l ∈ providerLines, Proper l := by decide
  have hpod : ∀ l ∈ podLines, Proper l := by decide
  rw [envoyProxyDefaultsYAML_eq, lines_unlines]
  simp only [renderedLines, List.forall_mem_append]
  exact ⟨hheader, proper_logging h, proper_telemetry config, hprovider, proper_replicas config,
    proper_container lib config, hpod⟩

end Rendered

section Structure

def leaf (line : String) : Node String := .node line []

def read (ls : List String) : List (Node String) := forest indentation ls

def Deep (d : ℕ) (ls : List String) : Prop := ∀ l ∈ ls, d ≤ indentation l

def loggingNodes (config : Config) : List (Node String) :=
  if config.dataPlaneLogLevel ≠ "" then
    [.node "  logging:" [.node "    level:" [leaf ("      default: " ++ config.dataPlaneLogLevel)]]]
  else []

def telemetryNodes (config : Config) : List (Node String) :=
  if config.envoyProxyDefaults.any (·.accessLogging) then
    [.node "  telemetry:" [.node "    accessLog:" [.node "      settings:"
      [.node "      - format:" [leaf "          type: Text"]]]]]
  else []

def replicasNodes (config : Config) : List (Node String) :=
  match config.dataPlaneReplicas with
  | some replicas => [leaf ("        replicas: " ++ toString replicas.toInt)]
  | none => []

def containerNodes (lib : Libraries) (config : Config) : List (Node String) :=
  match config.envoyProxyDefaults.bind (·.resources) with
  | some r => [.node "        container:" (read (shifted (marshalResources lib r)))]
  | none => []

def podNode : Node String :=
  .node "        pod:"
    [.node "          labels:" [leaf "            networking.gardener.cloud/to-dns: allowed",
    leaf "            networking.gardener.cloud/to-public-networks: allowed"]]

def metadataNode : Node String :=
  .node "metadata:" [leaf ("  name: " ++ envoyProxyDefaultsName),
    leaf ("  namespace: " ++ «namespace»),
    .node "  labels:" [leaf ("    " ++ labelName ++ ": " ++ deploymentName),
      leaf ("    " ++ labelInstance ++ ": " ++ deploymentName),
      leaf ("    " ++ labelManagedBy ++ ": " ++ labelManagedByValue)]]

def providerNode (deployment : List (Node String)) : Node String :=
  .node "  provider:" [leaf "    type: Kubernetes",
    .node "    kubernetes:" [.node "      envoyDeployment:" deployment]]

lemma Deep.mono {d d' : ℕ} {ls : List String} (h : Deep d ls) (hd : d' ≤ d) : Deep d' ls :=
  fun l hl => hd.trans (h l hl)

lemma Deep.append {d : ℕ} {ls ls' : List String} (h : Deep d ls) (h' : Deep d ls') :
    Deep d (ls ++ ls') :=
  List.forall_mem_append.mpr ⟨h, h'⟩

lemma deep_shifted (s : String) : Deep 10 (shifted s) := by
  intro l hl
  obtain ⟨t, _, rfl⟩ := List.mem_map.mp hl
  have hpad : ("          " ++ t).toList.takeWhile (· = ' ') =
      "          ".toList ++ t.toList.takeWhile (· = ' ') := by
    rw [String.toList_append]
    exact List.takeWhile_append_of_pos (List.all_eq_true.mp rfl)
  have hten : "          ".toList.length = 10 := rfl
  rw [indentation, hpad, List.length_append, hten]
  omega

lemma indentation_default (level : String) : indentation ("      default: " ++ level) = 6 := by
  rw [indentation, String.toList_append]
  rfl

lemma indentation_replicas (n : String) : indentation ("        replicas: " ++ n) = 8 := by
  rw [indentation, String.toList_append]
  rfl

lemma read_logging (config : Config) :
    read (loggingLines config) = loggingNodes config ∧ Deep 2 (loggingLines config) := by
  rw [loggingLines, loggingNodes]
  split_ifs
  · have hlevel : indentation "    level:" = 4 := by decide
    have hlogging : indentation "  logging:" = 2 := by decide
    have hdefault := indentation_default config.dataPlaneLogLevel
    refine ⟨?_, by simp [Deep, hlevel, hlogging, hdefault]⟩
    rw [read, forest_node, forest_node]
    · rfl
    · simp [hlevel, hdefault]
    · simp [hlevel, hlogging, hdefault]
  · exact ⟨rfl, fun _ hl => absurd hl List.not_mem_nil⟩

lemma read_telemetry (config : Config) :
    read (telemetryLines config) = telemetryNodes config ∧ Deep 2 (telemetryLines config) := by
  rw [telemetryLines, telemetryNodes]
  split_ifs
  · refine ⟨?_, by unfold Deep; decide⟩
    rw [read, forest_node, forest_node, forest_node, forest_node]
    · rfl
    all_goals decide
  · exact ⟨rfl, fun _ hl => absurd hl List.not_mem_nil⟩

lemma deep_pod : Deep 8 podLines := by
  unfold Deep
  decide

lemma read_pod : read podLines = [podNode] := by
  rw [read, podLines, forest_node, forest_node]
  · rfl
  all_goals decide

lemma deep_replicas (config : Config) : Deep 8 (replicasLines config) := by
  rw [replicasLines]
  split
  · intro l hl
    rw [List.mem_singleton.mp hl, indentation_replicas]
  · exact fun _ hl => absurd hl List.not_mem_nil

lemma read_replicas (config : Config) : read (replicasLines config) = replicasNodes config := by
  rw [replicasLines, replicasNodes]
  cases config.dataPlaneReplicas <;> rfl

lemma indentation_container : indentation "        container:" = 8 := by decide

lemma deep_container (lib : Libraries) (config : Config) : Deep 8 (containerLines lib config) := by
  rw [containerLines]
  split
  · exact List.forall_mem_cons.mpr ⟨indentation_container.ge, (deep_shifted _).mono (by omega)⟩
  · exact fun _ hl => absurd hl List.not_mem_nil

lemma read_container (lib : Libraries) (config : Config) :
    read (containerLines lib config) = containerNodes lib config := by
  rw [containerLines, containerNodes]
  split
  · refine forest_node fun l hl => ?_
    have hdeep := deep_shifted _ l hl
    rw [indentation_container]
    omega
  · rfl

lemma read_deployment (lib : Libraries) (config : Config) :
    read (replicasLines config ++ (containerLines lib config ++ podLines)) =
      replicasNodes config ++ (containerNodes lib config ++ [podNode]) := by
  -- whatever the marshalled text holds, it stays below `container`
  have hpod : ∀ y ∈ podLines.head?, indentation y ≤ 8 := by decide
  have hrest : ∀ y ∈ (containerLines lib config ++ podLines).head?, indentation y ≤ 8 := by
    rw [containerLines]
    split
    · intro y hy
      cases hy
      exact indentation_container.le
    · exact hpod
  rw [← read_replicas, ← read_container, ← read_pod]
  simp only [read]
  rw [forest_append_level 8 (deep_replicas config) hrest,
    forest_append_level 8 (deep_container lib config) hpod]

lemma read_provider {ls : List String} (h : Deep 8 ls) :
    read (providerLines ++ ls) = [providerNode (read ls)] := by
  have hprovider : indentation "  provider:" = 2 := by decide
  have htype : indentation "    type: Kubernetes" = 4 := by decide
  have hkubernetes : indentation "    kubernetes:" = 4 := by decide
  have hdeployment : indentation "      envoyDeployment:" = 6 := by decide
  have hbelow : ∀ d, d < 8 → ∀ l ∈ ls, d < indentation l :=
    fun d hd l hl => lt_of_lt_of_le hd (h l hl)
  have hinner : forest indentation ("      envoyDeployment:" :: ls) =
    [.node "      envoyDeployment:" (read ls)] := by
    apply forest_node
    rw [hdeployment]
    exact hbelow 6 (by omega)
  have hmiddle : forest indentation ("    kubernetes:" :: "      envoyDeployment:" :: ls) =
      [.node "    kubernetes:" [.node "      envoyDeployment:" (read ls)]] := by
    rw [← hinner]
    apply forest_node
    rw [hkubernetes]
    exact List.forall_mem_cons.mpr ⟨by omega, hbelow 4 (by omega)⟩
  have houter : forest indentation
      ("    type: Kubernetes" :: "    kubernetes:" :: "      envoyDeployment:" :: ls) =
      [leaf "    type: Kubernetes",
        .node "    kubernetes:" [.node "      envoyDeployment:" (read ls)]] := by
    have hsplit : forest indentation
        (["    type: Kubernetes"] ++ "    kubernetes:" :: "      envoyDeployment:" :: ls) =
        forest indentation ["    type: Kubernetes"] ++ forest indentation
          ("    kubernetes:" :: _) :=
      forest_append_level 4 (by simp [htype]) (by simp [hkubernetes])
    rw [hmiddle] at hsplit
    exact hsplit
  rw [providerNode, ← houter]
  apply forest_node
  rw [hprovider]
  refine List.forall_mem_cons.mpr
    ⟨by omega, List.forall_mem_cons.mpr ⟨by omega, List.forall_mem_cons.mpr ⟨by omega, ?_⟩⟩⟩
  exact hbelow 2 (by omega)

lemma read_spec (lib : Libraries) (config : Config) :
    read ("spec:" :: (loggingLines config ++ (telemetryLines config ++ (providerLines ++
      (replicasLines config ++ (containerLines lib config ++ podLines)))))) =
    [.node "spec:" (loggingNodes config ++ (telemetryNodes config ++
      [providerNode (replicasNodes config ++ (containerNodes lib config ++ [podNode]))]))] := by
  obtain ⟨hlogging, hdeepLogging⟩ := read_logging config
  obtain ⟨htelemetry, hdeepTelemetry⟩ := read_telemetry config
  have hdeployment : Deep 8 (replicasLines config ++ (containerLines lib config ++ podLines)) :=
    (deep_replicas config).append ((deep_container lib config).append deep_pod)
  have hproviderLines : Deep 2 providerLines := by
    unfold Deep
    decide
  have hprovider := hproviderLines.append (hdeployment.mono (by omega))
  have hspec : indentation "spec:" = 0 := by decide
  have hheadProvider : ∀ ls, ∀ y ∈ (providerLines ++ ls).head?, indentation y ≤ 2 := by
    intro ls y hy
    cases hy
    decide
  have hheadTelemetry : ∀ ls, ∀ y ∈ (telemetryLines config ++ (providerLines ++ ls)).head?,
    indentation y ≤ 2 := by
    intro ls
    rw [telemetryLines]
    split_ifs
    · intro y hy
      cases hy
      decide
    · exact hheadProvider ls
  rw [← hlogging, ← htelemetry, ← read_deployment, ← read_provider hdeployment]
  simp only [read]
  rw [forest_node, forest_append_level 2 hdeepLogging (hheadTelemetry _),
    forest_append_level 2 hdeepTelemetry (hheadProvider _)]
  intro l hl
  have hdeep := hdeepLogging.append (hdeepTelemetry.append hprovider) l hl
  rw [hspec]
  omega

def topLines : List String := headerLines.dropLast

lemma read_top : read topLines =
    [leaf "apiVersion: gateway.envoyproxy.io/v1alpha1", leaf "kind: EnvoyProxy", metadataNode] :=
  rfl

lemma read_rendered (lib : Libraries) (config : Config) : read (renderedLines lib config) =
    [leaf "apiVersion: gateway.envoyproxy.io/v1alpha1", leaf "kind: EnvoyProxy", metadataNode,
      .node "spec:" (loggingNodes config ++ (telemetryNodes config ++
        [providerNode (replicasNodes config ++ (containerNodes lib config ++ [podNode]))]))] := by
  have hsplit : renderedLines lib config = topLines ++
      ("spec:" :: (loggingLines config ++ (telemetryLines config ++
      (providerLines ++ (replicasLines config ++ (containerLines lib config ++ podLines)))))) := rfl
  have hspec := read_spec lib config
  have htop := read_top
  simp only [read] at hspec htop ⊢
  rw [hsplit, forest_append_level 0 (fun _ _ => Nat.zero_le _), htop, hspec]
  · rfl
  · intro y hy
    cases hy
    decide

lemma unmarked_of_space {l : String} (h : l.toList.head? = some ' ') : isMarker l = false := by
  cases hl : l.toList with
  | nil =>
    rw [hl] at h
    cases h
  | cons c cs =>
    rw [hl] at h
    cases h
    simp [isMarker, hl]

lemma unmarked_of_deep {d : ℕ} {ls : List String} (h : Deep (d + 2) ls) :
    ∀ l ∈ ls, isMarker l = false := by
  intro l hl
  apply unmarked_of_space
  have hdeep := h l hl
  cases hc : l.toList with
  | nil => simp [indentation, hc] at hdeep
  | cons c cs =>
    by_cases hspace : c = ' '
    · rw [hspace]
      rfl
    · -- an item at the first column counts as one column
      rw [indentation, hc, List.takeWhile_cons_of_neg (by simpa using hspace)] at hdeep
      split_ifs at hdeep <;> simp at hdeep

lemma rendered_unmarked (lib : Libraries) (config : Config) :
    ∀ l ∈ renderedLines lib config, isMarker l = false := by
  have hheader : ∀ l ∈ headerLines, isMarker l = false := by decide
  have hprovider : Deep (0 + 2) providerLines := by
    unfold Deep
    decide
  have hdeployment := (deep_replicas config).append ((deep_container lib config).append deep_pod)
  have hspec : Deep (0 + 2) _ := (read_logging config).2.append ((read_telemetry config).2.append
    (hprovider.append (hdeployment.mono (by omega))))
  exact List.forall_mem_append.mpr ⟨hheader, unmarked_of_deep hspec⟩

end Structure

theorem envoyProxyDefaultsYAML_structure
    (hlevel : config.dataPlaneLogLevel = "" ∨ config.dataPlaneLogLevel ∈ validLogLevels) :
    documents (lines (envoyProxyDefaultsYAML lib config)) =
      [lines (envoyProxyDefaultsYAML lib config)] ∧
    read (lines (envoyProxyDefaultsYAML lib config)) =
      [leaf "apiVersion: gateway.envoyproxy.io/v1alpha1", leaf "kind: EnvoyProxy", metadataNode,
        .node "spec:" (loggingNodes config ++ (telemetryNodes config ++
          [providerNode (replicasNodes config ++ (containerNodes lib config ++ [podNode]))]))] ∧
    (∀ n, config.dataPlaneReplicas = some n → decimal (toString n.toInt).toList = n.toInt) ∧
    ∀ r, config.envoyProxyDefaults.bind (·.resources) = some r →
      ∃ below, containerNodes lib config = [.node "        container:" below] ∧
        linesOf below = (lines (marshalResources lib r)).map ("          " ++ ·) := by
  rw [lines_envoyProxyDefaultsYAML hlevel]
  refine ⟨documents_of_unmarked (rendered_unmarked lib config), read_rendered lib config, ?_, ?_⟩
  · exact fun n _ => decimal_toString n.toInt
  · intro r hr
    refine ⟨read (shifted (marshalResources lib r)), ?_, linesOf_forest indentation _⟩
    rw [containerNodes, hr]

section Sampled

def awkwardLibraries : Libraries :=
  { sampleLibraries {} with marshalResources := fun _ => .ok "resources:\n\n---\nspec: []\n\n" }

def awkwardConfig : Config :=
  { dataPlaneReplicas := some (-1)
    dataPlaneLogLevel := "warn"
    envoyProxyDefaults :=
      some { accessLogging := true, resources := some ⟨.ofList [], .ofList []⟩ } }

theorem envoyProxyDefaultsYAML_structure_awkward : ∃ below,
    read (lines (envoyProxyDefaultsYAML awkwardLibraries awkwardConfig)) =
      [leaf "apiVersion: gateway.envoyproxy.io/v1alpha1", leaf "kind: EnvoyProxy", metadataNode,
        .node "spec:" (loggingNodes awkwardConfig ++ (telemetryNodes awkwardConfig ++
          [providerNode
            [leaf "        replicas: -1", .node "        container:" below, podNode]]))] ∧
    linesOf below = ["          resources:", "          ---", "          spec: []"] := by
  obtain ⟨_, hread, _, hcontainer⟩ :=
    @envoyProxyDefaultsYAML_structure awkwardLibraries awkwardConfig (Or.inr (by decide))
  obtain ⟨below, hbelow, hlines⟩ := hcontainer _ rfl
  refine ⟨below, ?_, hlines.trans (by decide)⟩
  rw [hread, hbelow]
  rfl

end Sampled

end EnvoyGatewayExtension.EnvoyGateway
