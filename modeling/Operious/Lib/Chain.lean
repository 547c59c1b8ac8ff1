-- Chains of versions: numbered one after the other, each with the digest of the one before it.
import Mathlib.Data.List.Basic

namespace chain

/-- How a link is numbered, what its digest is, and what it says of the one before. -/
structure Links (α D : Type*) where
  version : α → Nat
  digest : α → D
  previous : α → Option D

variable {α D : Type*}

/-- The links of the list follow each other from the version `v` on, and `p` is the digest before
the first. -/
def Linked (L : Links α D) : Option D → Nat → List α → Prop
  | _, _, [] => True
  | p, v, a :: rest => L.version a = v ∧ L.previous a = p ∧ Linked L (some (L.digest a)) (v + 1) rest

variable {L : Links α D} {p : Option D} {v : Nat} {l : List α} {a b : α}

theorem linked_concat : Linked L p v (l ++ [a]) ↔
    Linked L p v l ∧ L.version a = v + l.length ∧ L.previous a = (l.getLast?.map L.digest).or p := by
  induction l generalizing p v with
  | nil => simp [Linked]
  | cons b rest ih =>
    have hlast : ((b :: rest).getLast?.map L.digest).or p =
        (rest.getLast?.map L.digest).or (some (L.digest b)) := by
      cases rest with
      | nil => rfl
      | cons c rest =>
        simp only [List.getLast?_cons_cons]
        cases h : (c :: rest).getLast? with
        | none => simp at h
        | some d => rfl
    simp only [List.cons_append, Linked, ih, List.length_cons, hlast, and_assoc]
    have hadd : v + 1 + rest.length = v + (rest.length + 1) := by omega
    rw [hadd]

/-- The versions of a chain from `v` on. -/
theorem Linked.version_mem (h : Linked L p v l) (ha : a ∈ l) :
    v ≤ L.version a ∧ L.version a < v + l.length := by
  induction l generalizing p v with
  | nil => cases ha
  | cons b rest ih =>
    obtain ⟨hb, -, hrest⟩ := h
    rw [List.length_cons]
    rcases List.mem_cons.mp ha with rfl | ha
    · omega
    · have hle := ih hrest ha
      omega

theorem Linked.pairwise (h : Linked L p v l) : l.Pairwise fun a b => L.version a < L.version b := by
  induction l generalizing p v with
  | nil => exact List.Pairwise.nil
  | cons b rest ih =>
    obtain ⟨hb, -, hrest⟩ := h
    refine List.Pairwise.cons (fun c hc => ?_) (ih hrest)
    have hle := (hrest.version_mem hc).1
    omega

/-- No two links of a chain have one version. -/
theorem Linked.eq_of_version (h : Linked L p v l) (ha : a ∈ l) (hb : b ∈ l)
    (hab : L.version a = L.version b) : a = b := by
  induction l generalizing p v with
  | nil => cases ha
  | cons c rest ih =>
    obtain ⟨hc, -, hrest⟩ := h
    rcases List.mem_cons.mp ha with rfl | ha' <;> rcases List.mem_cons.mp hb with rfl | hb'
    · rfl
    · have hlt := (hrest.version_mem hb').1
      omega
    · have hlt := (hrest.version_mem ha').1
      omega
    · exact ih hrest ha' hb'

/-- Every number up to the length is a version of the chain. -/
theorem Linked.exists_version (h : Linked L p v l) {n : Nat} (hn : v ≤ n ∧ n < v + l.length) :
    ∃ a ∈ l, L.version a = n := by
  induction l generalizing p v with
  | nil =>
    rw [List.length_nil] at hn
    omega
  | cons b rest ih =>
    obtain ⟨hb, -, hrest⟩ := h
    rw [List.length_cons] at hn
    by_cases heq : v = n
    · exact ⟨b, List.mem_cons_self, hb.trans heq⟩
    · obtain ⟨c, hc, hversion⟩ := ih hrest (by omega)
      exact ⟨c, List.mem_cons_of_mem _ hc, hversion⟩

/-- The last link has the highest version. -/
theorem Linked.last_version (h : Linked L p v l) (ha : l.getLast? = some a) :
    L.version a + 1 = v + l.length := by
  rcases List.eq_nil_or_concat l with rfl | ⟨rest, b, hl⟩
  · cases ha
  · rw [List.concat_eq_append] at hl
    subst hl
    rw [List.getLast?_concat] at ha
    cases ha
    have hb := (linked_concat.mp h).2.1
    rw [List.length_append, List.length_singleton]
    omega

end chain
