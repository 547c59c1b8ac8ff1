-- The least element of a list in a linear order with a bottom, where the empty list counts as the
-- bottom: a verdict that no one has spoken for is the strictest one.
import Mathlib.Data.List.MinMax
import Mathlib.Order.BoundedOrder.Basic

namespace worst

variable {α β : Type*} [LinearOrder α]

theorem foldl_min_le (a : α) (l : List α) : l.foldl min a ≤ a ∧ ∀ b ∈ l, l.foldl min a ≤ b := by
  induction l generalizing a with
  | nil => simp
  | cons b rest ih =>
    obtain ⟨h1, h2⟩ := ih (min a b)
    simp only [List.foldl_cons, List.mem_cons]
    refine ⟨le_trans h1 (min_le_left a b), ?_⟩
    rintro c (rfl | hc)
    · exact le_trans h1 (min_le_right a c)
    · exact h2 c hc

theorem foldl_min_mem (a : α) (l : List α) : l.foldl min a = a ∨ l.foldl min a ∈ l := by
  induction l generalizing a with
  | nil => simp
  | cons b rest ih =>
    simp only [List.foldl_cons, List.mem_cons]
    rcases ih (min a b) with h | h
    · rcases min_choice a b with hm | hm
      · exact Or.inl (h.trans hm)
      · exact Or.inr (Or.inl (h.trans hm))
    · exact Or.inr (Or.inr h)

/-! ## Domination -/

/-- Every member of `l` has one of `l'` below it. -/
def Dominates (l' l : List α) : Prop := ∀ a ∈ l, ∃ b ∈ l', b ≤ a

variable {l : List α}

variable {l' : List α}

theorem Dominates.of_subset (h : l ⊆ l') : Dominates l' l :=
  fun a ha => ⟨a, h ha, le_refl a⟩

theorem Dominates.of_forall₂ (h : List.Forall₂ (· ≤ ·) l' l) : Dominates l' l := by
  induction h with
  | nil => simp [Dominates]
  | cons hab _ ih =>
    intro c hc
    rcases List.mem_cons.mp hc with rfl | hc
    · exact ⟨_, List.mem_cons_self, hab⟩
    · obtain ⟨b, hb, hle⟩ := ih c hc
      exact ⟨b, List.mem_cons_of_mem _ hb, hle⟩

theorem Dominates.append {l₁ l₁' l₂ l₂' : List α} (h₁ : Dominates l₁' l₁)
    (h₂ : Dominates l₂' l₂) : Dominates (l₁' ++ l₂') (l₁ ++ l₂) := by
  intro a ha
  rcases List.mem_append.mp ha with ha | ha
  · obtain ⟨b, hb, hle⟩ := h₁ a ha
    exact ⟨b, List.mem_append_left _ hb, hle⟩
  · obtain ⟨b, hb, hle⟩ := h₂ a ha
    exact ⟨b, List.mem_append_right _ hb, hle⟩

/-! ## The worst member -/

variable [OrderBot α]

def of : List α → α
  | [] => ⊥
  | a :: rest => rest.foldl min a

variable {a : α}

theorem of_le (h : a ∈ l) : of l ≤ a := by
  cases l with
  | nil => simp at h
  | cons b rest =>
    rcases List.mem_cons.mp h with rfl | h
    · exact (foldl_min_le a rest).1
    · exact (foldl_min_le b rest).2 a h

theorem of_mem (h : l ≠ []) : of l ∈ l := by
  cases l with
  | nil => exact absurd rfl h
  | cons b rest =>
    rcases foldl_min_mem b rest with h | h
    · exact List.mem_cons.mpr (Or.inl h)
    · exact List.mem_cons_of_mem b h

/-- The worst of a list is the one member that lies below all others. -/
theorem of_unique (hmem : a ∈ l) (hle : ∀ b ∈ l, a ≤ b) : of l = a :=
  le_antisymm (of_le hmem) (hle _ (of_mem (List.ne_nil_of_mem hmem)))

/-- A list that dominates another one with a member has no better worst. The empty list has the
bottom for its worst, so nothing is below it. -/
theorem of_mono (hne : l ≠ []) (h : Dominates l' l) : of l' ≤ of l := by
  obtain ⟨b, hb, hle⟩ := h _ (of_mem hne)
  exact le_trans (of_le hb) hle

theorem of_perm (h : l.Perm l') : of l = of l' := by
  cases l with
  | nil => rw [h.nil_eq]
  | cons a rest =>
    have hne : (a :: rest) ≠ [] := by simp
    refine (of_unique (h.mem_iff.mp (of_mem hne)) ?_).symm
    intro b hb
    exact of_le (h.mem_iff.mpr hb)

/-- Only a list of nothing but tops, with a top in it, has the top for its worst. -/
theorem of_eq_top [OrderTop α] (hbt : (⊥ : α) ≠ ⊤) : of l = ⊤ ↔ l ≠ [] ∧ ∀ a ∈ l, a = ⊤ := by
  constructor
  · intro h
    refine ⟨?_, ?_⟩
    · rintro rfl
      exact hbt h
    · intro a ha
      exact top_le_iff.mp (h ▸ of_le ha)
  · rintro ⟨hne, hall⟩
    exact hall _ (of_mem hne)

/-- The member that a key puts first is the worst when the key keeps the order. -/
theorem of_eq_argmin [LinearOrder β] {f : α → β} (hf : ∀ a b, f a ≤ f b ↔ a ≤ b)
    (h : l.argmin f = some a) : of l = a :=
  of_unique (List.argmin_mem h) fun b hb => (hf a b).mp (List.le_of_mem_argmin hb h)

end worst
