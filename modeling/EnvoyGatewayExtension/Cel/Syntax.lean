import Mathlib.Tactic

/-! A fragment of the Common Expression Language: presence tests of field paths, comparison with
null, the boolean operators and one conditional, the binary operators set off by single spaces. -/

namespace EnvoyGatewayExtension.Cel

inductive Expr
  | null
  | ident (name : String)
  | policyVariable (name : String)
  | select (e : Expr) (field : String)
  | has (e : Expr) (field : String)
  | not (e : Expr)
  | eqNull (e : Expr)
  | neNull (e : Expr)
  | and (a b : Expr)
  | or (a b : Expr)
  | cond (c t e : Expr)
  deriving DecidableEq, Repr

section Names

def keywords : List (List Char) := ["true".toList, "false".toList, "null".toList, "in".toList]

def nameChar (c : Char) : Bool := c.isAlphanum || c == '_'

def isName (cs : List Char) : Bool :=
  cs.all nameChar && (cs.head?.any fun c => !c.isDigit) && !keywords.contains cs

def parseName (cs : List Char) : Option String :=
  if isName cs then some (String.ofList cs) else none

end Names

section Parser

/-- A dotted path; the binary operators bind less than its dots. -/
def parsePath (cs : List Char) : Option Expr :=
  match (cs.splitOn '.').mapM parseName with
  | some ("variables" :: name :: fields) => some (fields.foldl .select (.policyVariable name))
  | some (name :: fields) => some (fields.foldl .select (.ident name))
  | _ => none

def parseHas (cs : List Char) : Option Expr :=
  if cs.getLast? = some ')' then
    match parsePath cs.dropLast with
    | some (.select e field) => some (.has e field)
    | _ => none
  else none

def parseUnary : List Char → Option Expr
  | '!' :: cs => (parseUnary cs).map .not
  | 'h' :: 'a' :: 's' :: '(' :: cs => parseHas cs
  | cs => if cs = "null".toList then some .null else parsePath cs

def parseRelation : List (List Char) → Option Expr
  | [e] => parseUnary e
  | [e, ['=', '='], ['n', 'u', 'l', 'l']] => (parsePath e).map .eqNull
  | [e, ['!', '='], ['n', 'u', 'l', 'l']] => (parsePath e).map .neNull
  | _ => none

def chain (op : Expr → Expr → Expr) : List Expr → Option Expr
  | [] => none
  | e :: es => some (es.foldl op e)

def parseAnd (words : List (List Char)) : Option Expr :=
  ((words.splitOn ['&', '&']).mapM parseRelation).bind (chain .and)

def parseOr (words : List (List Char)) : Option Expr :=
  ((words.splitOn ['|', '|']).mapM parseAnd).bind (chain .or)

def parse (s : String) : Option Expr :=
  match (s.toList.splitOn ' ').splitOn ['?'] with
  | [words] => parseOr words
  | [words, branches] =>
    match branches.splitOn [':'] with
    | [t, e] => do pure (.cond (← parseOr words) (← parseOr t) (← parseOr e))
    | _ => none
  | _ => none

example : parse "variables.k8s != null && has(variables.k8s.a) ? variables.k8s.a : null" =
    some (.cond (.and (.neNull (.policyVariable "k8s")) (.has (.policyVariable "k8s") "a"))
      (.select (.policyVariable "k8s") "a") .null) := by
  decide +kernel

end Parser

section Splitting

variable {α : Type} [BEq α] [LawfulBEq α]

lemma splitOn_of_not_mem {x : α} {l : List α} (h : x ∉ l) : l.splitOn x = [l] := by
  have hall : ∀ m ∈ [l], x ∉ m := by simpa using h
  have hone := List.splitOn_intercalate x hall (List.cons_ne_nil _ _)
  rwa [List.intercalate_singleton] at hone

omit [BEq α] [LawfulBEq α] in
lemma intercalate_cons (sep x : List α) (l : List (List α)) :
    sep.intercalate (x :: l) = x ++ l.flatMap (sep ++ ·) := by
  induction l generalizing x with
  | nil => simp
  | cons y l ih =>
    rw [List.intercalate_cons_cons, ih y, List.flatMap_cons, List.append_assoc, List.append_assoc]

omit [BEq α] [LawfulBEq α] in
lemma intercalate_concat (sep x : List α) {l : List (List α)} (hl : l ≠ []) :
    sep.intercalate (l ++ [x]) = sep.intercalate l ++ sep ++ x := by
  obtain ⟨y, l, rfl⟩ := List.exists_cons_of_ne_nil hl
  rw [List.cons_append, intercalate_cons, intercalate_cons]
  simp

omit [BEq α] [LawfulBEq α] in
lemma append_intercalate (sep : List α) {l : List (List α)} (hl : l ≠ []) :
    sep ++ sep.intercalate l = l.flatMap (sep ++ ·) := by
  obtain ⟨y, l, rfl⟩ := List.exists_cons_of_ne_nil hl
  rw [intercalate_cons, List.flatMap_cons, List.append_assoc]

omit [BEq α] [LawfulBEq α] in
lemma mem_intercalate {x w : α} {groups : List (List α)} (h : w ∈ [x].intercalate groups) :
    w = x ∨ ∃ g ∈ groups, w ∈ g := by
  cases groups with
  | nil => simp at h
  | cons g gs =>
    rw [intercalate_cons] at h
    simp only [List.mem_append, List.mem_flatMap, List.mem_singleton] at h
    rcases h with hg | ⟨g', hg', rfl | hw⟩
    · exact Or.inr ⟨g, List.mem_cons_self, hg⟩
    · exact Or.inl rfl
    · exact Or.inr ⟨g', List.mem_cons_of_mem g hg', hw⟩

omit [BEq α] [LawfulBEq α] in
lemma intercalate_groups (sep x : List α) {groups : List (List (List α))}
    (hg : ∀ g ∈ groups, g ≠ []) :
    sep.intercalate ([x].intercalate groups) = (sep ++ x ++ sep).intercalate
      (groups.map sep.intercalate) := by
  cases groups with
  | nil => rfl
  | cons g gs =>
    obtain ⟨hne, hgs⟩ := List.forall_mem_cons.mp hg
    obtain ⟨y, ys, rfl⟩ := List.exists_cons_of_ne_nil hne
    have hrest : ∀ h ∈ gs, (x :: h).flatMap (sep ++ ·) = sep ++ x ++ sep ++ sep.intercalate h := by
      intro h hm
      rw [List.flatMap_cons, ← append_intercalate sep (hgs h hm)]
      simp
    rw [intercalate_cons, List.cons_append, intercalate_cons, List.map_cons, intercalate_cons,
      intercalate_cons,
      List.flatMap_append, List.flatMap_assoc, List.flatMap_map, List.append_assoc]
    exact congrArg (fun t => y ++ (_ ++ t)) (List.flatMap_congr hrest)

end Splitting

section Rendered

lemma not_mem_of_isName {cs : List Char} (h : isName cs = true) {c : Char}
    (hc : nameChar c = false) : c ∉ cs := by
  intro hm
  simp only [isName, Bool.and_eq_true, List.all_eq_true] at h
  rw [h.1.1 c hm] at hc
  cases hc

lemma mapM_parseName {names : List (List Char)} (h : ∀ n ∈ names, isName n = true) :
    names.mapM parseName = some (names.map String.ofList) := by
  induction names with
  | nil => rfl
  | cons n names ih =>
    obtain ⟨hn, hnames⟩ := List.forall_mem_cons.mp h
    simp [ih hnames, parseName, hn]

def variablePath (name : List Char) (fields : List (List Char)) : List Char :=
  ['.'].intercalate ("variables".toList :: name :: fields)

def selectAll (e : Expr) (fields : List (List Char)) : Expr :=
  (fields.map String.ofList).foldl .select e

variable {name : List Char} {fields : List (List Char)}

lemma parsePath_variablePath (hn : isName name = true) (hf : ∀ f ∈ fields, isName f = true) :
    parsePath (variablePath name fields) =
      some (selectAll (.policyVariable (String.ofList name)) fields) := by
  have hnames : ∀ n ∈ "variables".toList :: name :: fields, isName n = true :=
    List.forall_mem_cons.mpr ⟨by decide, List.forall_mem_cons.mpr ⟨hn, hf⟩⟩
  have hdots : ∀ n ∈ "variables".toList :: name :: fields, '.' ∉ n :=
    fun n hm => not_mem_of_isName (hnames n hm) (by decide)
  rw [parsePath, variablePath, List.splitOn_intercalate '.' hdots (List.cons_ne_nil _ _),
    mapM_parseName hnames]
  rfl

lemma variablePath_concat (name : List Char) (fields : List (List Char)) (f : List Char) :
    variablePath name (fields ++ [f]) = variablePath name fields ++ '.' :: f := by
  have h := intercalate_concat ['.'] f (List.cons_ne_nil "variables".toList (name :: fields))
  rw [List.append_assoc] at h
  exact h

lemma not_mem_variablePath (hn : isName name = true) (hf : ∀ f ∈ fields, isName f = true) {c : Char}
    (hc : nameChar c = false) (hdot : c ≠ '.') : c ∉ variablePath name fields := by
  intro hm
  rcases mem_intercalate hm with h | ⟨n, hn', hcn⟩
  · exact hdot h
  · rcases List.mem_cons.mp hn' with rfl | hn'
    · exact not_mem_of_isName (by decide) hc hcn
    · rcases List.mem_cons.mp hn' with rfl | hn'
      · exact not_mem_of_isName hn hc hcn
      · exact not_mem_of_isName (hf n hn') hc hcn

lemma parseUnary_not_has {f : List Char} (hn : isName name = true)
    (hf : ∀ g ∈ fields, isName g = true) (hlast : isName f = true) :
    parseUnary ("!has(".toList ++ variablePath name (fields ++ [f]) ++ [')']) =
      some (.not
        (.has (selectAll (.policyVariable (String.ofList name)) fields) (String.ofList f))) := by
  have hall : ∀ g ∈ fields ++ [f], isName g = true :=
    List.forall_mem_append.mpr ⟨hf, List.forall_mem_singleton.mpr hlast⟩
  have hpath := parsePath_variablePath hn hall
  rw [selectAll, List.map_append, List.foldl_append] at hpath
  have hhas : parseHas (variablePath name (fields ++ [f]) ++ [')']) =
      some (.has (selectAll (.policyVariable (String.ofList name)) fields) (String.ofList f)) := by
    rw [parseHas, List.getLast?_concat, if_pos rfl, List.dropLast_concat, hpath]
    rfl
  change (parseHas (variablePath name (fields ++ [f]) ++ [')'])).map Expr.not = _
  rw [hhas]
  rfl

lemma parseAnd_single {words : List (List Char)} (h : ['&', '&'] ∉ words) :
    parseAnd words = parseRelation words := by
  rw [parseAnd, splitOn_of_not_mem h]
  cases hr : parseRelation words <;> simp [hr, chain]

lemma parse_or {groups : List (List (List Char))} (hne : groups ≠ []) (hg : ∀ g ∈ groups, g ≠ [])
    (hw : ∀ g ∈ groups, ∀ w ∈ g, ' ' ∉ w ∧ w ≠ ['|', '|'] ∧ w ≠ ['?']) :
    parse (String.ofList (" || ".toList.intercalate (groups.map [' '].intercalate))) =
      (groups.mapM parseAnd).bind (chain .or) := by
  let words := [['|', '|']].intercalate groups
  have hmem : ∀ w ∈ words, w = ['|', '|'] ∨ ∃ g ∈ groups, w ∈ g := fun w hm => mem_intercalate hm
  have hnil : words ≠ [] := by
    obtain ⟨g, gs, rfl⟩ := List.exists_cons_of_ne_nil hne
    intro h
    rw [show words = g ++ _ from intercalate_cons _ g gs, List.append_eq_nil_iff] at h
    exact hg g List.mem_cons_self h.1
  have hspaces : ∀ w ∈ words, ' ' ∉ w := by
    intro w hm
    rcases hmem w hm with rfl | ⟨g, hgm, hwm⟩
    · decide
    · exact (hw g hgm w hwm).1
  have hquestion : ['?'] ∉ words := by
    intro hm
    rcases hmem _ hm with h | ⟨g, hgm, hwm⟩
    · cases h
    · exact (hw g hgm _ hwm).2.2 rfl
  have hbars : ∀ g ∈ groups, ['|', '|'] ∉ g := fun g hgm hm => (hw g hgm _ hm).2.1 rfl
  have hrendered : " || ".toList.intercalate (groups.map [' '].intercalate) =
    [' '].intercalate words :=
    (intercalate_groups [' '] ['|', '|'] hg).symm
  rw [parse, String.toList_ofList, hrendered, List.splitOn_intercalate ' ' hspaces hnil,
    splitOn_of_not_mem hquestion]
  dsimp only
  rw [parseOr, List.splitOn_intercalate ['|', '|'] hbars hne]

end Rendered

end EnvoyGatewayExtension.Cel
