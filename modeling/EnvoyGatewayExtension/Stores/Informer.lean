import EnvoyGatewayExtension.Stores.ObjectStore

/-! A watched store with a cache behind it. The changes of each object reach the cache in the
order in which they were made; changes of different objects may overtake each other. -/

namespace EnvoyGatewayExtension.Stores

inductive Event (α : Type) : Type
  | create (obj : α)
  | update (old new : α)
  | delete (obj : α)

namespace Event

variable {α : Type}

def result : Event α → Option α
  | create a => some a
  | update _ b => some b
  | delete _ => none

def objects : Event α → List α
  | create a => [a]
  | update a b => [a, b]
  | delete a => [a]

/-- The object's state before the event. A replayed create finds the object already cached. -/
def From : Event α → Option α → Prop
  | create a, x => x = none ∨ x = some a
  | update a _, x => x = some a
  | delete a, x => x = some a

variable [DecidableEq α]

def ofChange : Option α → Option α → List (Event α)
  | none, none => []
  | none, some b => [create b]
  | some a, none => [delete a]
  | some a, some b => if a = b then [] else [update a b]

def Leads : Option α → List (Event α) → Option α → Prop
  | x, [], y => x = y
  | x, e :: es, y => e.From x ∧ Leads e.result es y

omit [DecidableEq α] in
lemma Leads.append {x y z : Option α} {es fs : List (Event α)} (h₁ : Leads x es y)
    (h₂ : Leads y fs z) : Leads x (es ++ fs) z := by
  induction es generalizing x with
  | nil =>
    obtain rfl : x = y := h₁
    exact h₂
  | cons e es ih => exact ⟨h₁.1, ih h₁.2⟩

lemma leads_ofChange (x y : Option α) : Leads x (ofChange x y) y := by
  cases x with
  | none =>
    cases y with
    | none => rfl
    | some b => exact ⟨Or.inl rfl, rfl⟩
  | some a =>
    cases y with
    | none => exact ⟨rfl, rfl⟩
    | some b =>
      simp only [ofChange]
      split_ifs with hab
      · exact congrArg some hab
      · exact ⟨rfl, rfl⟩

lemma ofChange_cases (x y : Option α) :
    (x = y ∧ ofChange x y = []) ∨ (x ≠ y ∧ ∃ e, ofChange x y = [e]) := by
  cases x with
  | none =>
    cases y with
    | none => exact Or.inl ⟨rfl, rfl⟩
    | some b => exact Or.inr ⟨by simp, _, rfl⟩
  | some a =>
    cases y with
    | none => exact Or.inr ⟨by simp, _, rfl⟩
    | some b =>
      by_cases hab : a = b
      · exact Or.inl ⟨congrArg some hab, if_pos hab⟩
      · exact Or.inr ⟨by simpa using hab, _, if_neg hab⟩

lemma ofChange_ne_nil {x y : Option α} (h : x ≠ y) : ofChange x y ≠ [] := by
  obtain ⟨_, e, he⟩ := (ofChange_cases x y).resolve_left fun hc => h hc.1
  rw [he]
  exact List.cons_ne_nil _ _

lemma from_of_mem_ofChange {x y : Option α} {e : Event α} (he : e ∈ ofChange x y) :
    e.From x ∧ e.result = y := by
  cases x with
  | none =>
    cases y with
    | none => simp [ofChange] at he
    | some b =>
      obtain rfl := List.mem_singleton.mp he
      exact ⟨Or.inl rfl, rfl⟩
  | some a =>
    cases y with
    | none =>
      obtain rfl := List.mem_singleton.mp he
      exact ⟨rfl, rfl⟩
    | some b =>
      simp only [ofChange] at he
      split_ifs at he
      · simp at he
      · obtain rfl := List.mem_singleton.mp he
        exact ⟨rfl, rfl⟩

lemma mem_ofChange_objects {x y : Option α} {e : Event α} {a : α} (he : e ∈ ofChange x y)
    (ha : a ∈ e.objects) : x = some a ∨ y = some a := by
  cases x with
  | none =>
    cases y with
    | none => simp [ofChange] at he
    | some b =>
      obtain rfl := List.mem_singleton.mp he
      exact Or.inr (congrArg some (List.mem_singleton.mp ha).symm)
  | some c =>
    cases y with
    | none =>
      obtain rfl := List.mem_singleton.mp he
      exact Or.inl (congrArg some (List.mem_singleton.mp ha).symm)
    | some b =>
      simp only [ofChange] at he
      split_ifs at he with hcb
      · simp at he
      · obtain rfl := List.mem_singleton.mp he
        simp only [objects, List.mem_cons, List.not_mem_nil, or_false] at ha
        rcases ha with rfl | rfl
        · exact Or.inl rfl
        · exact Or.inr rfl

end Event

open Event

section Backlog

variable {κ α : Type} [DecidableEq κ]

def backlog (k : κ) (es : List (κ × Event α)) : List (Event α) :=
  (es.filter (fun e => e.1 = k)).map Prod.snd

lemma backlog_append (k : κ) (es fs : List (κ × Event α)) :
    backlog k (es ++ fs) = backlog k es ++ backlog k fs := by
  simp [backlog]

lemma backlog_tag_self (k : κ) (es : List (Event α)) : backlog k (es.map (Prod.mk k)) = es := by
  induction es with
  | nil => rfl
  | cons e es ih =>
    rw [List.map_cons, backlog, List.filter_cons_of_pos (by simp), List.map_cons]
    exact congrArg _ ih

lemma backlog_tag_ne {j k : κ} (h : j ≠ k) (es : List (Event α)) :
    backlog j (es.map (Prod.mk k)) = [] := by
  simp [backlog, Ne.symm h]

lemma backlog_eraseP_self (k : κ) (es : List (κ × Event α)) :
    backlog k (es.eraseP (fun e => e.1 = k)) = (backlog k es).tail := by
  induction es with
  | nil => rfl
  | cons e es ih =>
    by_cases he : e.1 = k
    · simp [backlog, he]
    · simpa [backlog, he] using ih

lemma backlog_eraseP_ne {j k : κ} (h : j ≠ k) (es : List (κ × Event α)) :
    backlog j (es.eraseP (fun e => e.1 = k)) = backlog j es := by
  induction es with
  | nil => rfl
  | cons e es ih =>
    by_cases he : e.1 = k
    · simp [backlog, he, Ne.symm h]
    · rw [List.eraseP_cons_of_neg (by simpa using he)]
      simp only [backlog, List.filter_cons] at ih ⊢
      split_ifs
      · rw [List.map_cons, List.map_cons, ih]
      · exact ih

end Backlog

structure Informer (κ α : Type) [DecidableEq κ] where
  api : Store κ α
  cache : Store κ α
  events : List (κ × Event α)
  tracks : ∀ k, Leads (cache.lookup k) (backlog k events) (api.lookup k)

namespace Informer

variable {κ α : Type} [DecidableEq κ]

def pending (i : Informer κ α) (k : κ) : List (Event α) := backlog k i.events

def synced (s : Store κ α) : Informer κ α where
  api := s
  cache := s
  events := []
  tracks _ := rfl

lemma resync_backlog (s : Store κ α) (k : κ) :
    backlog k (s.items.map (fun e => (e.1, create e.2))) = (s.lookup k).toList.map create := by
  rw [← Store.filter_items, backlog, List.filter_map, List.map_map, List.map_map]
  rfl

/-- A fresh cache: the store is listed and every object found is announced as created. -/
def resync (i : Informer κ α) : Informer κ α where
  api := i.api
  cache := i.api
  events := i.api.items.map (fun e => (e.1, create e.2))
  tracks k := by
    rw [resync_backlog]
    cases i.api.lookup k with
    | none => rfl
    | some a => exact ⟨Or.inr rfl, rfl⟩

lemma resync_pending (i : Informer κ α) (k : κ) :
    i.resync.pending k = (i.api.lookup k).toList.map create :=
  resync_backlog i.api k

def deliver (i : Informer κ α) (k : κ) : Option (Event α × Informer κ α) :=
  match h : i.pending k with
  | [] => none
  | e :: es => some (e,
    { api := i.api
      cache := i.cache.set k e.result
      events := i.events.eraseP (fun e => e.1 = k)
      tracks := by
        intro j
        have hj := i.tracks j
        by_cases hk : j = k
        · subst hk
          rw [pending] at h
          rw [h] at hj
          rw [Store.lookup_set_self, backlog_eraseP_self, h]
          exact hj.2
        · rw [Store.lookup_set_ne _ _ hk, backlog_eraseP_ne hk]
          exact hj })

lemma cache_eq {i : Informer κ α} {k : κ} (h : i.pending k = []) :
    i.cache.lookup k = i.api.lookup k := by
  have hk := i.tracks k
  rw [pending] at h
  rw [h] at hk
  exact hk

lemma deliver_eq_some {i i' : Informer κ α} {k : κ} {e : Event α} (h : i.deliver k = some (e, i')) :
    e.From (i.cache.lookup k) ∧ i.pending k = e :: i'.pending k ∧ i'.api = i.api ∧
      i'.cache = i.cache.set k e.result ∧ ∀ j, j ≠ k → i'.pending j = i.pending j := by
  have hk : Leads _ (i.pending k) _ := i.tracks k
  unfold deliver at h
  split at h
  · cases h
  · next es hp =>
    obtain ⟨rfl, rfl⟩ := Prod.mk.inj (Option.some.inj h)
    rw [hp] at hk
    refine ⟨hk.1, ?_, rfl, rfl, fun j hj => backlog_eraseP_ne hj _⟩
    have ht : backlog k (i.events.eraseP (fun e => e.1 = k)) = (i.pending k).tail :=
      backlog_eraseP_self k i.events
    rw [hp, List.tail_cons] at ht
    exact hp.trans (congrArg _ ht.symm)

lemma deliver_of_pending {i : Informer κ α} {k : κ} {e : Event α} {es : List (Event α)}
    (h : i.pending k = e :: es) :
    ∃ i', i.deliver k = some (e, i') ∧ i'.events = i.events.eraseP (fun e => e.1 = k) := by
  unfold deliver
  split
  · next hn => simp [hn] at h
  · next e' es' hp =>
    obtain ⟨rfl, rfl⟩ := List.cons.inj (hp.symm.trans h)
    exact ⟨_, rfl, rfl⟩

lemma deliver_length {i i' : Informer κ α} {k : κ} {e : Event α} (h : i.deliver k = some (e, i')) :
    i.events.length = i'.events.length + 1 := by
  have hp := (deliver_eq_some h).2.1
  obtain ⟨j, hj, hlen⟩ := deliver_of_pending hp
  rw [h, Option.some.injEq, Prod.mk.injEq] at hj
  have hmem : ∃ x ∈ i.events, x.1 = k := by
    have he : e ∈ i.pending k := by
      rw [hp]
      exact List.mem_cons_self
    obtain ⟨x, hx, _⟩ := List.mem_map.mp he
    obtain ⟨hx, hk⟩ := List.mem_filter.mp hx
    exact ⟨x, hx, by simpa using hk⟩
  obtain ⟨x, hx, hk⟩ := hmem
  have hpos := List.length_pos_of_mem hx
  rw [hj.2, hlen, List.length_eraseP_of_mem hx (by simpa using hk)]
  omega

lemma pending_of_events {i : Informer κ α} (h : i.events = []) (k : κ) : i.pending k = [] := by
  rw [pending, h]
  rfl

lemma deliver_of_mem {i : Informer κ α} (h : i.events ≠ []) : ∃ k d, i.deliver k = some d := by
  obtain ⟨⟨k, e⟩, hx⟩ := List.exists_mem_of_ne_nil _ h
  have hne : i.pending k ≠ [] := by
    apply List.ne_nil_of_mem (a := e)
    exact List.mem_map.mpr ⟨(k, e), List.mem_filter.mpr ⟨hx, by simp⟩, rfl⟩
  obtain ⟨f, fs, hf⟩ := List.exists_cons_of_ne_nil hne
  obtain ⟨i', hd, _⟩ := deliver_of_pending hf
  exact ⟨k, _, hd⟩

def Current (i : Informer κ α) : Prop :=
  ∀ k, i.cache.lookup k = i.api.lookup k ∧ ∀ e ∈ i.pending k, e.result = i.api.lookup k

lemma Current.of_events {i : Informer κ α} (h : i.events = []) : i.Current := by
  intro k
  have hp := pending_of_events h k
  refine ⟨cache_eq hp, fun e he => ?_⟩
  rw [hp] at he
  cases he

lemma Current.resync (i : Informer κ α) : i.resync.Current := by
  intro k
  refine ⟨rfl, fun e he => ?_⟩
  rw [resync_pending] at he
  obtain ⟨a, ha, rfl⟩ := List.mem_map.mp he
  exact (Option.mem_toList.mp ha).symm

lemma Current.deliver {i i' : Informer κ α} {k : κ} {e : Event α} (h : i.Current)
    (hd : i.deliver k = some (e, i')) : i'.Current := by
  obtain ⟨_, hp, ha, hc, hne⟩ := deliver_eq_some hd
  have he : e.result = i.api.lookup k := (h k).2 e (by rw [hp]; exact List.mem_cons_self)
  intro j
  rw [ha, hc]
  by_cases hj : j = k
  · subst hj
    rw [Store.lookup_set_self]
    exact ⟨he, fun f hf => (h j).2 f (by rw [hp]; exact List.mem_cons_of_mem e hf)⟩
  · rw [Store.lookup_set_ne _ _ hj, hne j hj]
    exact h j

variable [DecidableEq α]

def write (i : Informer κ α) (k : κ) (v : Option α) : Informer κ α where
  api := i.api.set k v
  cache := i.cache
  events := i.events ++ (ofChange (i.api.lookup k) v).map (Prod.mk k)
  tracks := by
    intro j
    rw [backlog_append]
    by_cases hk : j = k
    · subst hk
      rw [Store.lookup_set_self, backlog_tag_self]
      exact (i.tracks j).append (leads_ofChange _ _)
    · rw [Store.lookup_set_ne _ _ hk, backlog_tag_ne hk, List.append_nil]
      exact i.tracks j

lemma write_pending_self (i : Informer κ α) (k : κ) (v : Option α) :
    (i.write k v).pending k = i.pending k ++ ofChange (i.api.lookup k) v := by
  rw [pending, write, backlog_append, backlog_tag_self]
  rfl

lemma write_pending_ne (i : Informer κ α) {j k : κ} (v : Option α) (h : j ≠ k) :
    (i.write k v).pending j = i.pending j := by
  rw [pending, write, backlog_append, backlog_tag_ne h, List.append_nil]
  rfl

lemma write_length (i : Informer κ α) (k : κ) (v : Option α) :
    (i.write k v).events.length ≤ i.events.length + 1 ∧
    (i.api.lookup k = v → (i.write k v).events.length = i.events.length) := by
  have hlen : (i.write k v).events.length = i.events.length +
    (ofChange (i.api.lookup k) v).length := by
    change (i.events ++ _).length = _
    rw [List.length_append, List.length_map]
  rcases ofChange_cases (i.api.lookup k) v with ⟨_, hc⟩ | ⟨hne, e, hc⟩
  · rw [hlen, hc]
    exact ⟨Nat.le_succ _, fun _ => rfl⟩
  · rw [hlen, hc]
    exact ⟨le_rfl, fun h => absurd h hne⟩

lemma write_deliver {i : Informer κ α} (hi : i.events = []) {k : κ} {v : Option α}
    (hne : i.api.lookup k ≠ v) : ∃ e i', ofChange (i.api.lookup k) v = [e] ∧
      (i.write k v).deliver k = some (e, i') ∧ i'.events = [] ∧ i'.api = i.api.set k v := by
  obtain ⟨_, e, he⟩ := (ofChange_cases (i.api.lookup k) v).resolve_left fun hc => hne hc.1
  have hev : (i.write k v).events = [(k, e)] := by
    change i.events ++ (ofChange (i.api.lookup k) v).map (Prod.mk k) = [(k, e)]
    rw [hi, he]
    rfl
  have hp : (i.write k v).pending k = e :: [] := by
    rw [write_pending_self, he, pending, hi]
    rfl
  obtain ⟨i', hd, hi'⟩ := deliver_of_pending hp
  obtain ⟨_, _, hapi, _, _⟩ := deliver_eq_some hd
  refine ⟨e, i', he, hd, ?_, hapi⟩
  rw [hi', hev, List.eraseP_cons_of_pos (by simp)]

def Everywhere (P : κ → α → Prop) (i : Informer κ α) : Prop :=
  (∀ k a, i.api.lookup k = some a → P k a) ∧
    ∀ k, ∀ e ∈ i.pending k, ∀ a ∈ e.objects, P k a

variable {P : κ → α → Prop}

omit [DecidableEq α] in
lemma Everywhere.cached {i : Informer κ α} (h : i.Everywhere P) {k : κ} {a : α}
    (ha : i.cache.lookup k = some a) : P k a := by
  have hk : Leads _ (i.pending k) _ := i.tracks k
  have hp := h.2 k
  cases he : i.pending k with
  | nil => exact h.1 k a ((cache_eq he).symm.trans ha)
  | cons e es =>
    rw [he, ha] at hk
    rw [he] at hp
    have hobj : a ∈ e.objects := by
      cases e with
      | create b =>
        rcases hk.1 with hb | hb
        · cases hb
        · cases hb
          exact List.mem_cons_self
      | update b c =>
        cases hk.1
        exact List.mem_cons_self
      | delete b =>
        cases hk.1
        exact List.mem_cons_self
    exact hp e List.mem_cons_self a hobj

omit [DecidableEq α] in
lemma Everywhere.resync {i : Informer κ α} (h : i.Everywhere P) : i.resync.Everywhere P := by
  refine ⟨h.1, ?_⟩
  intro k e he a ha
  rw [resync_pending] at he
  obtain ⟨b, hb, rfl⟩ := List.mem_map.mp he
  obtain rfl := List.mem_singleton.mp ha
  exact h.1 k a (Option.mem_toList.mp hb)

omit [DecidableEq α] in
lemma Everywhere.deliver {i i' : Informer κ α} {k : κ} {e : Event α} (h : i.Everywhere P)
    (hd : i.deliver k = some (e, i')) : i'.Everywhere P := by
  obtain ⟨_, hp, ha, _, hne⟩ := deliver_eq_some hd
  refine ⟨by rw [ha]; exact h.1, ?_⟩
  intro j f hf
  by_cases hj : j = k
  · subst hj
    exact h.2 j f (by rw [hp]; exact List.mem_cons_of_mem e hf)
  · rw [hne j hj] at hf
    exact h.2 j f hf

lemma Everywhere.write {i : Informer κ α} {k : κ} {v : Option α} (h : i.Everywhere P)
    (hv : ∀ a, v = some a → P k a) : (i.write k v).Everywhere P := by
  constructor
  · intro j a ha
    by_cases hj : j = k
    · subst hj
      exact hv a (by simpa [Informer.write] using ha)
    · exact h.1 j a (by simpa [Informer.write, Store.lookup_set_ne _ _ hj] using ha)
  · intro j e he a ha
    by_cases hj : j = k
    · subst hj
      rw [write_pending_self, List.mem_append] at he
      rcases he with he | he
      · exact h.2 j e he a ha
      · rcases mem_ofChange_objects he ha with hx | hx
        · exact h.1 j a hx
        · exact hv a hx
    · rw [write_pending_ne i v hj] at he
      exact h.2 j e he a ha

end Informer

end EnvoyGatewayExtension.Stores
