-- Texts with holes: what filling the holes keeps of the text around them, and how far the filled
-- text tells what the holes were filled with.
import Mathlib.Data.List.Basic

namespace templates

/-- A symbol of a template: a letter of its own, or a hole with a name. -/
inductive Symbol (A N : Type*)
  | lit (a : A)
  | hole (n : N)
  deriving DecidableEq, Repr

variable {A N : Type*}

/-- A text, as a template that has no hole. -/
def written (text : List A) : List (Symbol A N) := text.map .lit

/-- The names of the holes. -/
def holes (s : List (Symbol A N)) : List N :=
  s.filterMap fun | .hole n => some n | .lit _ => none

@[simp] theorem holes_nil : holes ([] : List (Symbol A N)) = [] := rfl

@[simp] theorem holes_lit (a : A) (s : List (Symbol A N)) : holes (.lit a :: s) = holes s := rfl

@[simp] theorem holes_hole (n : N) (s : List (Symbol A N)) :
    holes (.hole n :: s) = n :: holes s := rfl

/-! ## Filling the holes -/

variable {s : List (Symbol A N)}

section fill

variable (f : N → List A)

def Symbol.fill : Symbol A N → List A
  | .lit a => [a]
  | .hole n => f n

/-- The text that comes of putting `f n` into each hole `n`. -/
def fill (s : List (Symbol A N)) : List A := s.flatMap (Symbol.fill f)

@[simp] theorem fill_nil : fill f ([] : List (Symbol A N)) = [] := rfl

@[simp] theorem fill_lit (a : A) (s : List (Symbol A N)) : fill f (.lit a :: s) = a :: fill f s :=
  rfl

@[simp] theorem fill_hole (n : N) (s : List (Symbol A N)) :
    fill f (.hole n :: s) = f n ++ fill f s := rfl

/-- The filled text, as a template again. -/
def subst (s : List (Symbol A N)) : List (Symbol A N) := written (fill f s)

@[simp] theorem subst_nil : subst f ([] : List (Symbol A N)) = [] := rfl

@[simp] theorem subst_lit (a : A) (s : List (Symbol A N)) :
    subst f (.lit a :: s) = .lit a :: subst f s := rfl

@[simp] theorem subst_hole (n : N) (s : List (Symbol A N)) :
    subst f (.hole n :: s) = written (f n) ++ subst f s := by
  simp [subst, written]

/-- A text without a hole stays as it is. -/
theorem subst_of_no_hole (h : holes s = []) : subst f s = s := by
  induction s with
  | nil => rfl
  | cons symbol rest ih =>
    cases symbol with
    | lit a => rw [subst_lit, ih h]
    | hole n => exact absurd h (by simp)

end fill

theorem fill_congr {f g : N → List A} (h : ∀ n ∈ holes s, f n = g n) : fill f s = fill g s := by
  induction s with
  | nil => rfl
  | cons symbol rest ih =>
    cases symbol with
    | lit a => rw [fill_lit, fill_lit, ih h]
    | hole n =>
      have hn : f n = g n := h n (by simp)
      rw [fill_hole, fill_hole, hn, ih fun m hm => h m (by simp [hm])]

/-! ## The filled text tells the fillings -/

theorem length_fill_le {f g : N → List A} (hle : ∀ n ∈ holes s, (g n).length ≤ (f n).length) :
    (fill g s).length ≤ (fill f s).length := by
  induction s with
  | nil => exact Nat.le_refl 0
  | cons symbol rest ih =>
    cases symbol with
    | lit a =>
      have hrest := ih hle
      simpa using hrest
    | hole n =>
      have hn : (g n).length ≤ (f n).length := hle n (by simp)
      have hrest := ih fun m hm => hle m (by simp [hm])
      simp only [fill_hole, List.length_append]
      omega

/-- Fillings that are nowhere longer than others come to the same text only where they are the
same. -/
theorem eq_of_fill_eq {f g : N → List A} (hle : ∀ n ∈ holes s, (g n).length ≤ (f n).length)
    (h : fill f s = fill g s) : ∀ n ∈ holes s, f n = g n := by
  induction s with
  | nil => simp
  | cons symbol rest ih =>
    cases symbol with
    | lit a => exact ih hle (List.cons.inj h).2
    | hole m =>
      have hm : (g m).length ≤ (f m).length := hle m (by simp)
      have hlerest : ∀ n ∈ holes rest, (g n).length ≤ (f n).length :=
        fun n hn => hle n (by simp [hn])
      have hrest := length_fill_le hlerest
      rw [fill_hole, fill_hole] at h
      have hlength := congrArg List.length h
      simp only [List.length_append] at hlength
      obtain ⟨hhead, htail⟩ := List.append_inj h (by omega)
      intro n hn
      have hcases : n = m ∨ n ∈ holes rest := by simpa using hn
      obtain rfl | hn := hcases
      · exact hhead
      · exact ih hlerest htail n hn

/-- Fillings that differ in one hole alone come to different texts. -/
theorem fill_ne {f g : N → List A} {n : N} (hn : n ∈ holes s) (hne : f n ≠ g n)
    (hrest : ∀ m ∈ holes s, m ≠ n → f m = g m) : fill f s ≠ fill g s := by
  intro h
  obtain hle | hle := Nat.le_total (g n).length (f n).length
  · refine hne (eq_of_fill_eq (fun m hm => ?_) h n hn)
    rcases eq_or_ne m n with rfl | hmn
    · exact hle
    · exact Nat.le_of_eq (congrArg List.length (hrest m hm hmn).symm)
  · refine hne (eq_of_fill_eq (fun m hm => ?_) h.symm n hn).symm
    rcases eq_or_ne m n with rfl | hmn
    · exact hle
    · exact Nat.le_of_eq (congrArg List.length (hrest m hm hmn))

/-! ## Cutting a filled text at its delimiters

A delimiter that no filling holds stands in the filled text where it stands in the template. -/

section cut

variable {f : N → List A} {p : Symbol A N → Bool}

theorem forall_mem_written {b : Bool} {text : List A} (h : ∀ a ∈ text, p (.lit a) = b) :
    ∀ x ∈ (written text : List (Symbol A N)), p x = b := by
  intro x hx
  obtain ⟨a, ha, rfl⟩ := List.mem_map.mp hx
  exact h a ha

theorem takeWhile_subst (hp : ∀ n, p (.hole n) = true) (hf : ∀ n, ∀ a ∈ f n, p (.lit a) = true)
    (s : List (Symbol A N)) : (subst f s).takeWhile p = subst f (s.takeWhile p) := by
  induction s with
  | nil => rfl
  | cons symbol rest ih =>
    cases symbol with
    | lit a =>
      by_cases ha : p (.lit a)
      · simp [ha, ih]
      · simp [ha]
    | hole n =>
      have hquiet := forall_mem_written (hf n)
      rw [subst_hole, List.takeWhile_append_of_pos hquiet, ih, List.takeWhile_cons_of_pos (hp n),
        subst_hole]

theorem dropWhile_subst (hp : ∀ n, p (.hole n) = true) (hf : ∀ n, ∀ a ∈ f n, p (.lit a) = true)
    (s : List (Symbol A N)) : (subst f s).dropWhile p = subst f (s.dropWhile p) := by
  induction s with
  | nil => rfl
  | cons symbol rest ih =>
    cases symbol with
    | lit a =>
      by_cases ha : p (.lit a)
      · simp [ha, ih]
      · simp [ha]
    | hole n =>
      have hquiet := forall_mem_written (hf n)
      rw [subst_hole, List.dropWhile_append_of_pos hquiet, ih, List.dropWhile_cons_of_pos (hp n)]

/-- What follows the first delimiter. -/
theorem tail_dropWhile_subst (hp : ∀ n, p (.hole n) = true)
    (hf : ∀ n, ∀ a ∈ f n, p (.lit a) = true) (s : List (Symbol A N)) :
    ((subst f s).dropWhile p).tail = subst f (s.dropWhile p).tail := by
  rw [dropWhile_subst hp hf]
  cases h : s.dropWhile p with
  | nil => rfl
  | cons symbol rest =>
    cases symbol with
    | lit a => rfl
    | hole n =>
      have hhead := List.head?_dropWhile_not p s
      rw [h] at hhead
      simp [hp n] at hhead

theorem splitOnP_append {q : A → Bool} {l r : List A} (hl : ∀ a ∈ l, q a = false) :
    (l ++ r).splitOnP q = (r.splitOnP q).modifyHead (l ++ ·) := by
  induction l with
  | nil => cases h : r.splitOnP q <;> simp [h]
  | cons a l ih =>
    have ha : q a = false := hl a List.mem_cons_self
    rw [List.cons_append, List.splitOnP_cons_eq_if_modifyHead, ha,
      ih fun b hb => hl b (List.mem_cons_of_mem a hb)]
    cases r.splitOnP q <;> rfl

theorem splitOnP_subst (hp : ∀ n, p (.hole n) = false) (hf : ∀ n, ∀ a ∈ f n, p (.lit a) = false)
    (s : List (Symbol A N)) : (subst f s).splitOnP p = (s.splitOnP p).map (subst f) := by
  induction s with
  | nil => rfl
  | cons symbol rest ih =>
    cases symbol with
    | lit a =>
      rw [subst_lit, List.splitOnP_cons_eq_if_modifyHead, List.splitOnP_cons_eq_if_modifyHead, ih]
      by_cases ha : p (.lit a)
      · simp [ha]
      · cases rest.splitOnP p <;> simp [ha]
    | hole n =>
      have hquiet := forall_mem_written (hf n)
      rw [subst_hole, splitOnP_append hquiet, List.splitOnP_cons_eq_if_modifyHead, hp n, ih]
      cases rest.splitOnP p <;> simp

end cut

end templates
