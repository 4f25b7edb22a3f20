import Mathlib.Data.List.AList
import Mathlib.Tactic

namespace EnvoyGatewayExtension.Stores

abbrev Store (κ α : Type) : Type := AList (fun _ : κ => α)

namespace Store

variable {κ α : Type} [DecidableEq κ]

def keyed (key : α → κ) (l : List α) : Store κ α :=
  l.foldl (fun s a => s.insert (key a) a) ∅

def set (s : Store κ α) (k : κ) : Option α → Store κ α
  | some a => s.insert k a
  | none => s.erase k

def items (s : Store κ α) : List (κ × α) := s.entries.map (fun e => (e.1, e.2))

@[simp] lemma lookup_set_self (s : Store κ α) (k : κ) (v : Option α) :
    (s.set k v).lookup k = v := by
  cases v <;> simp [set]

lemma lookup_set_ne (s : Store κ α) {k k' : κ} (v : Option α) (hk : k' ≠ k) :
    (s.set k v).lookup k' = s.lookup k' := by
  cases v with
  | none => exact AList.lookup_erase_ne hk
  | some a => exact AList.lookup_insert_ne hk

lemma lookup_set (s : Store κ α) (k k' : κ) (v : Option α) :
    (s.set k v).lookup k' = if k' = k then v else s.lookup k' := by
  split_ifs with hk
  · rw [hk, lookup_set_self]
  · exact lookup_set_ne s v hk

lemma mem_items {s : Store κ α} {k : κ} {a : α} : (k, a) ∈ s.items ↔ s.lookup k = some a := by
  rw [← Option.mem_def, AList.mem_lookup_iff]
  simp only [items, List.mem_map]
  constructor
  · rintro ⟨⟨k', a'⟩, he, heq⟩
    obtain ⟨rfl, rfl⟩ := Prod.mk.inj heq
    exact he
  · intro he
    exact ⟨⟨k, a⟩, he, rfl⟩

lemma filter_items (s : Store κ α) (k : κ) :
    (s.items.filter (fun e => e.1 = k)).map Prod.snd = (s.lookup k).toList := by
  change _ = (List.dlookup k s.entries).toList
  rw [← List.lookupAll_eq_dlookup k s.nodupKeys, items]
  induction s.entries with
  | nil => rfl
  | cons e es ih =>
    obtain ⟨j, a⟩ := e
    by_cases hj : k = j
    · subst hj
      simpa using ih
    · rw [List.lookupAll_cons_ne _ _ hj, ← ih]
      simp [Ne.symm hj]

section Folds

variable {β : Type} {key : β → κ} {val : β → α} {k : κ}

lemma of_lookup_foldl_insert {l : List β} {s : Store κ α} {a : α}
    (h : (l.foldl (fun s b => s.insert (key b) (val b)) s).lookup k = some a) :
    (∃ b ∈ l, key b = k ∧ val b = a) ∨ s.lookup k = some a := by
  induction l generalizing s with
  | nil => exact Or.inr h
  | cons b l ih =>
    rcases ih h with ⟨c, hc, hk⟩ | hs
    · exact Or.inl ⟨c, List.mem_cons_of_mem b hc, hk⟩
    · by_cases hk : k = key b
      · subst hk
        rw [AList.lookup_insert, Option.some.injEq] at hs
        exact Or.inl ⟨b, List.mem_cons_self, rfl, hs⟩
      · rw [AList.lookup_insert_ne hk] at hs
        exact Or.inr hs

lemma isSome_lookup_foldl_insert {l : List β} {s : Store κ α} :
    ((l.foldl (fun s b => s.insert (key b) (val b)) s).lookup k).isSome = true ↔
      k ∈ l.map key ∨ (s.lookup k).isSome = true := by
  induction l generalizing s with
  | nil => simp
  | cons b l ih =>
    rw [List.foldl_cons, ih, List.map_cons, List.mem_cons]
    by_cases hk : k = key b
    · subst hk
      simp
    · simp [AList.lookup_insert_ne hk, hk]

lemma lookup_foldl_insert_of_not_mem {l : List β} {s : Store κ α} (h : k ∉ l.map key) :
    (l.foldl (fun s b => s.insert (key b) (val b)) s).lookup k = s.lookup k := by
  induction l generalizing s with
  | nil => rfl
  | cons b l ih =>
    rw [List.map_cons, List.mem_cons, not_or] at h
    rw [List.foldl_cons, ih h.2, AList.lookup_insert_ne h.1]

lemma of_lookup_foldl_insert_of_mem {l : List β} {s : Store κ α} {a : α} (hk : k ∈ l.map key)
    (h : (l.foldl (fun s b => s.insert (key b) (val b)) s).lookup k = some a) :
    ∃ b ∈ l, key b = k ∧ val b = a := by
  induction l generalizing s with
  | nil => exact absurd hk List.not_mem_nil
  | cons b l ih =>
    by_cases hl : k ∈ l.map key
    · obtain ⟨c, hc, hkc⟩ := ih hl h
      exact ⟨c, List.mem_cons_of_mem b hc, hkc⟩
    · rw [List.foldl_cons, lookup_foldl_insert_of_not_mem hl] at h
      have hkb : k = key b := (List.mem_cons.mp hk).resolve_right hl
      subst hkb
      rw [AList.lookup_insert, Option.some.injEq] at h
      exact ⟨b, List.mem_cons_self, rfl, h⟩

lemma lookup_foldl_insert_iff {l : List (κ × α)} {s : Store κ α} {a : α}
    (hl : (l.map Prod.fst).Nodup) : (l.foldl (fun s e => s.insert e.1 e.2) s).lookup k = some a ↔
      (k, a) ∈ l ∨ k ∉ l.map Prod.fst ∧ s.lookup k = some a := by
  induction l generalizing s with
  | nil => simp
  | cons e l ih =>
    obtain ⟨j, b⟩ := e
    rw [List.map_cons, List.nodup_cons] at hl
    rw [List.foldl_cons, ih hl.2, List.map_cons, List.mem_cons, List.mem_cons, Prod.mk.injEq]
    by_cases hk : k = j
    · subst hk
      have hne : (k, a) ∉ l := fun hm => hl.1 (List.mem_map.mpr ⟨(k, a), hm, rfl⟩)
      simp only [hne, hl.1, AList.lookup_insert, Option.some.injEq]
      simp [eq_comm]
    · simp [AList.lookup_insert_ne hk, hk]

lemma mem_map_items {s : Store κ α} : k ∈ s.items.map Prod.fst ↔ (s.lookup k).isSome = true := by
  rw [Option.isSome_iff_exists, List.mem_map]
  constructor
  · rintro ⟨⟨j, a⟩, hm, rfl⟩
    exact ⟨a, mem_items.mp hm⟩
  · rintro ⟨a, ha⟩
    exact ⟨(k, a), mem_items.mpr ha, rfl⟩

lemma lookup_foldl_items (s t : Store κ α) (k : κ) :
    (t.items.foldl (fun s e => s.insert e.1 e.2) s).lookup k = (t.lookup k).or (s.lookup k) := by
  cases ht : t.lookup k with
  | none =>
    refine lookup_foldl_insert_of_not_mem fun hm => ?_
    rw [mem_map_items, ht] at hm
    cases hm
  | some a =>
    have hk : k ∈ t.items.map Prod.fst := mem_map_items.mpr (by rw [ht]; rfl)
    have hsome : ((t.items.foldl (fun s e => s.insert e.1 e.2) s).lookup k).isSome = true :=
      isSome_lookup_foldl_insert.mpr (Or.inl hk)
    obtain ⟨b, hb⟩ := Option.isSome_iff_exists.mp hsome
    obtain ⟨⟨j, c⟩, hm, rfl, rfl⟩ := of_lookup_foldl_insert_of_mem hk hb
    rw [mem_items, ht, Option.some.injEq] at hm
    rw [hb, hm]
    rfl

lemma lookup_foldl_erase {l : List κ} {s : Store κ α} :
    (l.foldl (fun s k => s.erase k) s).lookup k = if k ∈ l then none else s.lookup k := by
  induction l generalizing s with
  | nil => simp
  | cons j l ih =>
    rw [List.foldl_cons, ih]
    by_cases hk : k = j
    · subst hk
      simp
    · simp [AList.lookup_erase_ne hk, hk]

end Folds

section Parts

variable {γ δ : Type} {parts : α → List γ}

lemma disjoint_of_nodup_flatMap {l : List δ} {f : δ → List γ} (h : (l.flatMap f).Nodup) {a b : δ}
    (ha : a ∈ l) (hb : b ∈ l) (hne : a ≠ b) : List.Disjoint (f a) (f b) := by
  have hsymm : Std.Symm (Function.onFun List.Disjoint f) := ⟨fun _ _ h => h.symm⟩
  exact (List.nodup_flatMap.mp h).2.forall ha hb hne

omit [DecidableEq κ] in
lemma items_nodup (s : Store κ α) : (s.items.map Prod.fst).Nodup := by
  have hkeys : s.items.map Prod.fst = s.keys := by
    simp [items, AList.keys, List.keys]
  rw [hkeys]
  exact s.keys_nodup

lemma nodup_parts {s : Store κ α} {table : List (κ × List γ)} (ht : (table.flatMap Prod.snd).Nodup)
    (hs : ∀ k a, s.lookup k = some a → (k, parts a) ∈ table) :
    (s.items.flatMap fun e => parts e.2).Nodup := by
  have hparts : ∀ e ∈ s.items, (e.1, parts e.2) ∈ table := fun e he => hs e.1 e.2 (mem_items.mp he)
  refine List.nodup_flatMap.mpr ⟨fun e he => (List.nodup_flatMap.mp ht).1 _ (hparts e he), ?_⟩
  refine List.Pairwise.imp_of_mem ?_ (List.pairwise_map.mp (items_nodup s))
  intro e f he hf hne
  exact disjoint_of_nodup_flatMap ht (hparts e he) (hparts f hf) fun h => hne (Prod.mk.inj h).1

lemma disjoint_parts {s : Store κ α} (h : (s.items.flatMap fun e => parts e.2).Nodup) {j k : κ}
    {a b : α} (hj : s.lookup j = some a) (hk : s.lookup k = some b) (hne : j ≠ k) :
    List.Disjoint (parts a) (parts b) :=
  disjoint_of_nodup_flatMap h (mem_items.mpr hj) (mem_items.mpr hk) fun he =>
    hne (congrArg Prod.fst he)

end Parts

section Erasing

variable {D : κ → Prop} {s t u : Store κ α} {k : κ} {a : α}

def ErasedIn (D : κ → Prop) (s t : Store κ α) : Prop :=
  ∀ k, t.lookup k = s.lookup k ∨ (t.lookup k = none ∧ D k)

lemma ErasedIn.refl (D : κ → Prop) (s : Store κ α) : ErasedIn D s s := fun _ => Or.inl rfl

lemma ErasedIn.trans (h : ErasedIn D s t) (h' : ErasedIn D t u) : ErasedIn D s u := by
  intro k
  rcases h' k with hu | hu
  · rw [hu]
    exact h k
  · exact Or.inr hu

lemma ErasedIn.lookup_iff (h : ErasedIn D s t) (hgone : ∀ k, D k → t.lookup k = none) :
    t.lookup k = some a ↔ s.lookup k = some a ∧ ¬ D k := by
  constructor
  · intro ht
    have hn : ¬ D k := fun hd => by simp [hgone k hd] at ht
    exact ⟨((h k).resolve_right fun hd => hn hd.2) ▸ ht, hn⟩
  · rintro ⟨hs, hn⟩
    rw [(h k).resolve_right fun hd => hn hd.2]
    exact hs

end Erasing

lemma of_lookup_keyed {key : α → κ} {l : List α} {k : κ} {a : α}
    (h : (keyed key l).lookup k = some a) : a ∈ l ∧ key a = k := by
  have hfold : (l.foldl (fun s b => s.insert (key b) b) (∅ : Store κ α)).lookup k = some a := h
  rcases of_lookup_foldl_insert hfold with ⟨b, hb, hk, rfl⟩ | hs
  · exact ⟨hb, hk⟩
  · simp at hs

end Store

end EnvoyGatewayExtension.Stores
