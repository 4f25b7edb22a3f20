import Mathlib.Tactic

namespace EnvoyGatewayExtension.Text

section Lists

variable {α : Type} {a b p : List α} {c : α}

lemma infix_separated (hc : c ∉ p) : p <:+: a ++ c :: b ↔ p <:+: a ∨ p <:+: b := by
  constructor
  · intro h
    rcases List.infix_append_iff.mp h with h | h | ⟨l₁, l₂, rfl, h₁, h₂⟩
    · exact Or.inl h
    · rcases List.infix_cons_iff.mp h with h | h
      · cases p with
        | nil => exact Or.inl (List.nil_infix)
        | cons x p =>
          obtain ⟨rfl, _⟩ := List.cons_prefix_cons.mp h
          exact absurd List.mem_cons_self hc
      · exact Or.inr h
    · cases l₂ with
      | nil =>
        rw [List.append_nil]
        exact Or.inl h₁.isInfix
      | cons x l₂ =>
        obtain ⟨rfl, _⟩ := List.cons_prefix_cons.mp h₂
        exact absurd (List.mem_append_right l₁ List.mem_cons_self) hc
  · rintro (h | h)
    · exact h.trans (List.prefix_append a (c :: b)).isInfix
    · exact h.trans ((List.suffix_cons c b).trans (List.suffix_append a (c :: b))).isInfix

lemma infix_cons_of_head (hc : p.head? ≠ some c) : p <:+: c :: b ↔ p <:+: b := by
  constructor
  · intro h
    rcases List.infix_cons_iff.mp h with h | h
    · cases p with
      | nil => exact List.nil_infix
      | cons x p =>
        obtain ⟨rfl, _⟩ := List.cons_prefix_cons.mp h
        exact absurd rfl hc
    · exact h
  · intro h
    exact List.infix_cons h

end Lists

def bytes (s : String) : List UInt8 := s.toByteArray.data.toList

lemma bytes_append (s t : String) : bytes (s ++ t) = bytes s ++ bytes t := by
  simp [bytes]

def Contains (s sub : String) : Prop := bytes sub <:+: bytes s

instance (s sub : String) : Decidable (Contains s sub) := inferInstanceAs (Decidable (_ <:+: _))

lemma contains_append_left {s t sub : String} (h : Contains s sub) : Contains (s ++ t) sub := by
  rw [Contains, bytes_append]
  exact h.trans (List.prefix_append _ _).isInfix

def Contiguous (sub : String) : Prop := 58 ∉ bytes sub ∧ (bytes sub).head? ≠ some 32

instance (sub : String) : Decidable (Contiguous sub) := inferInstanceAs (Decidable (_ ∧ _))

lemma contains_joined {s t sub : String} (h : Contiguous sub) :
    Contains (s ++ ": " ++ t) sub ↔ Contains s sub ∨ Contains t sub := by
  have hbytes : bytes (s ++ ": " ++ t) = bytes s ++ 58 :: 32 :: bytes t := by
    have hjoint : bytes ": " = [58, 32] := by decide
    rw [bytes_append, bytes_append, hjoint, List.append_assoc]
    rfl
  rw [Contains, hbytes, infix_separated h.1, infix_cons_of_head h.2]
  rfl

end EnvoyGatewayExtension.Text
