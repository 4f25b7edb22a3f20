import Mathlib.Tactic

namespace EnvoyGatewayExtension.Text

section Forests

variable {α : Type} {depth : α → ℕ} {l : α} {ls a b : List α}

inductive Node (α : Type) : Type
  | node (line : α) (children : List (Node α))

def Node.line : Node α → α
  | node l _ => l

def Node.children : Node α → List (Node α)
  | node _ ts => ts

@[simp] lemma Node.line_node (ts : List (Node α)) : (node l ts).line = l := rfl

@[simp] lemma Node.children_node (ts : List (Node α)) : (node l ts).children = ts := rfl

/-- A line owns the trees of the deeper lines that follow it. -/
def forest (depth : α → ℕ) : List α → List (Node α)
  | [] => []
  | l :: ls =>
    .node l ((forest depth ls).takeWhile fun t => depth l < depth t.line) ::
      (forest depth ls).dropWhile fun t => depth l < depth t.line

mutual

def Node.lines : Node α → List α
  | .node l ts => l :: linesOf ts

def linesOf : List (Node α) → List α
  | [] => []
  | t :: ts => t.lines ++ linesOf ts

end

lemma linesOf_append (ts us : List (Node α)) : linesOf (ts ++ us) = linesOf ts ++ linesOf us := by
  induction ts with
  | nil => simp [linesOf]
  | cons t ts ih => simp [linesOf, ih]

lemma linesOf_forest (depth : α → ℕ) (ls : List α) : linesOf (forest depth ls) = ls := by
  induction ls with
  | nil => simp [forest, linesOf]
  | cons l ls ih =>
    rw [forest, linesOf, Node.lines, List.cons_append, ← linesOf_append,
      List.takeWhile_append_dropWhile, ih]

lemma line_mem_of_forest {t : Node α} (ht : t ∈ forest depth ls) : t.line ∈ ls := by
  induction ls with
  | nil => exact absurd ht List.not_mem_nil
  | cons l ls ih =>
    rcases List.mem_cons.mp ht with rfl | ht
    · exact List.mem_cons_self
    · exact List.mem_cons_of_mem l (ih ((List.dropWhile_sublist _).mem ht))

lemma head_forest (depth : α → ℕ) (ls : List α) :
    (forest depth ls).head?.map Node.line = ls.head? := by
  cases ls <;> rfl

lemma takeWhile_append_stop {p : α → Bool} (hb : ∀ y ∈ b.head?, p y = false) :
    (a ++ b).takeWhile p = a.takeWhile p ∧ (a ++ b).dropWhile p = a.dropWhile p ++ b := by
  induction a with
  | nil =>
    cases b with
    | nil => exact ⟨rfl, rfl⟩
    | cons y b =>
      have hy := hb y rfl
      simp [hy]
  | cons x a ih =>
    cases hx : p x with
    | true => simp [hx, ih]
    | false => simp [hx]

lemma forest_node (h : ∀ x ∈ ls, depth l < depth x) :
    forest depth (l :: ls) = [.node l (forest depth ls)] := by
  have hdeeper : ∀ t ∈ forest depth ls, decide (depth l < depth t.line) = true := by
    intro t ht
    exact decide_eq_true (h _ (line_mem_of_forest ht))
  have htake : (forest depth ls ++ []).takeWhile _ = forest depth ls ++ [].takeWhile _ :=
    List.takeWhile_append_of_pos hdeeper
  have hdrop : (forest depth ls ++ []).dropWhile _ = [].dropWhile _ :=
    List.dropWhile_append_of_pos hdeeper
  rw [List.append_nil] at htake hdrop
  rw [forest, htake, hdrop, List.takeWhile_nil, List.append_nil, List.dropWhile_nil]

lemma forest_append (h : ∀ x ∈ a, ∀ y ∈ b.head?, depth y ≤ depth x) :
    forest depth (a ++ b) = forest depth a ++ forest depth b := by
  induction a with
  | nil => rfl
  | cons x a ih =>
    have hstop : ∀ t ∈ (forest depth b).head?, decide (depth x < depth t.line) = false := by
      intro t ht
      have hhead := head_forest depth b
      rw [Option.mem_def.mp ht] at hhead
      have hle := h x List.mem_cons_self t.line hhead.symm
      exact decide_eq_false (by omega)
    obtain ⟨htake, hdrop⟩ := takeWhile_append_stop (a := forest depth a) hstop
    rw [List.cons_append, forest, ih fun y hy => h y (List.mem_cons_of_mem x hy),
      htake, hdrop, forest]
    rfl

lemma forest_append_level (d : ℕ) (ha : ∀ x ∈ a, d ≤ depth x) (hb : ∀ y ∈ b.head?, depth y ≤ d) :
    forest depth (a ++ b) = forest depth a ++ forest depth b := by
  apply forest_append
  intro x hx y hy
  have hxd := ha x hx
  have hyd := hb y hy
  omega

section Paths

variable [DecidableEq α]

def below (l : α) (ts : List (Node α)) : List (Node α) :=
  ts.flatMap fun t => if t.line = l then t.children else []

@[simp] lemma below_nil : below l ([] : List (Node α)) = [] := rfl

@[simp] lemma below_append (ts us : List (Node α)) :
    below l (ts ++ us) = below l ts ++ below l us :=
  List.flatMap_append

@[simp] lemma below_cons (t : Node α) (ts : List (Node α)) :
    below l (t :: ts) = (if t.line = l then t.children else []) ++ below l ts :=
  List.flatMap_cons

end Paths

end Forests

section Lines

variable {cs ds : List Char}

def nonEmptyLines (cs : List Char) : List (List Char) := (cs.splitOn '\n').filter (· ≠ [])

def lines (s : String) : List String := (nonEmptyLines s.toList).map String.ofList

lemma nonEmptyLines_newline (cs ds : List Char) :
    nonEmptyLines (cs ++ '\n' :: ds) = nonEmptyLines cs ++ nonEmptyLines ds := by
  rw [nonEmptyLines, List.splitOn, List.splitOnP_append_cons cs ds (by rfl), List.filter_append]
  rfl

lemma nonEmptyLines_nil : nonEmptyLines [] = [] := rfl

lemma nonEmptyLines_line (hne : cs ≠ []) (hcs : '\n' ∉ cs) : nonEmptyLines cs = [cs] := by
  have hsplit : cs.splitOnP (· == '\n') = [cs] := by
    refine List.splitOnP_eq_singleton fun c hc => ?_
    rw [beq_eq_false_iff_ne]
    rintro rfl
    exact hcs hc
  rw [nonEmptyLines, List.splitOn, hsplit]
  simp [hne]

lemma nonEmptyLines_blank (h : ∀ c ∈ ds, c = '\n') : nonEmptyLines ds = [] := by
  induction ds with
  | nil => rfl
  | cons d ds ih =>
    obtain ⟨rfl, hds⟩ := List.forall_mem_cons.mp h
    have hsplit := nonEmptyLines_newline [] ds
    rw [List.nil_append, nonEmptyLines_nil, ih hds] at hsplit
    exact hsplit

lemma nonEmptyLines_newlines (h : ∀ c ∈ ds, c = '\n') :
    nonEmptyLines (cs ++ ds) = nonEmptyLines cs := by
  cases ds with
  | nil => rw [List.append_nil]
  | cons d ds =>
    obtain ⟨rfl, hds⟩ := List.forall_mem_cons.mp h
    rw [nonEmptyLines_newline, nonEmptyLines_blank hds, List.append_nil]

lemma mem_nonEmptyLines (h : ds ∈ nonEmptyLines cs) : ds ≠ [] ∧ '\n' ∉ ds := by
  induction cs using (measure List.length).wf.induction with
  | h cs ih =>
    by_cases hn : '\n' ∈ cs
    · obtain ⟨xs, ys, rfl, hxs⟩ := List.eq_append_cons_of_mem hn
      rw [nonEmptyLines_newline, List.mem_append] at h
      rcases h with h | h
      · refine ih xs ?_ h
        change xs.length < (xs ++ '\n' :: ys).length
        simp
      · refine ih ys ?_ h
        change ys.length < (xs ++ '\n' :: ys).length
        simp only [List.length_append, List.length_cons]
        omega
    · by_cases hne : cs = []
      · subst hne
        exact absurd h List.not_mem_nil
      · rw [nonEmptyLines_line hne hn, List.mem_singleton] at h
        subst h
        exact ⟨hne, hn⟩

def Proper (l : String) : Prop := l ≠ "" ∧ '\n' ∉ l.toList

instance (l : String) : Decidable (Proper l) := inferInstanceAs (Decidable (_ ∧ _))

def unlines (ls : List String) : String := String.join (ls.map (· ++ "\n"))

lemma unlines_cons (l : String) (ls : List String) : unlines (l :: ls) = l ++ "\n" ++ unlines ls :=
  String.join_cons

lemma unlines_append (ls ms : List String) : unlines (ls ++ ms) = unlines ls ++ unlines ms := by
  rw [unlines, List.map_append, String.join_append]
  rfl

lemma Proper.append {pad l : String} (hpad : '\n' ∉ pad.toList) (hl : Proper l) :
    Proper (pad ++ l) := by
  refine ⟨fun h => hl.1 ?_, ?_⟩
  · have hempty := congrArg String.toList h
    rw [String.toList_append] at hempty
    exact String.toList_inj.mp (List.append_eq_nil_iff.mp hempty).2
  · rw [String.toList_append, List.mem_append]
    rintro (hc | hc)
    · exact hpad hc
    · exact hl.2 hc

lemma proper_of_mem_lines {s t : String} (h : t ∈ lines s) : Proper t := by
  obtain ⟨cs, hcs, rfl⟩ := List.mem_map.mp h
  obtain ⟨hne, hn⟩ := mem_nonEmptyLines hcs
  refine ⟨fun h => hne ?_, by rwa [String.toList_ofList]⟩
  rw [← String.toList_ofList (l := cs), h]
  rfl

lemma lines_newline (s t : String) : lines (s ++ "\n" ++ t) = lines s ++ lines t := by
  have hchars : (s ++ "\n" ++ t).toList = s.toList ++ '\n' :: t.toList := by
    rw [String.toList_append, String.toList_append, List.append_assoc]
    rfl
  rw [lines, hchars, nonEmptyLines_newline, List.map_append]
  rfl

lemma lines_line {s : String} (hs : Proper s) : lines s = [s] := by
  have hchars : s.toList ≠ [] := by
    intro h
    exact hs.1 (String.toList_inj.mp h)
  rw [lines, nonEmptyLines_line hchars hs.2, List.map_singleton, String.ofList_toList]

lemma lines_unlines {ls : List String} (h : ∀ l ∈ ls, Proper l) : lines (unlines ls) = ls := by
  induction ls with
  | nil => rfl
  | cons l ls ih =>
    obtain ⟨hl, hls⟩ := List.forall_mem_cons.mp h
    rw [unlines_cons, lines_newline, lines_line hl, ih hls]
    rfl

end Lines

section Indentation

/-- The column of the first character after the spaces; the items of a sequence belong to a key of
their column. -/
def indentation (s : String) : ℕ :=
  (s.toList.takeWhile (· = ' ')).length +
    if (s.toList.dropWhile (· = ' ')).take 2 = ['-', ' '] then 1 else 0

def isMarker (s : String) : Bool :=
  s.toList.take 3 == ['-', '-', '-'] || s.toList.take 3 == ['.', '.', '.']

def documents (ls : List String) : List (List String) := ls.splitOnP isMarker

lemma documents_of_unmarked {ls : List String} (h : ∀ l ∈ ls, isMarker l = false) :
    documents ls = [ls] :=
  List.splitOnP_eq_singleton h

end Indentation

end EnvoyGatewayExtension.Text
