-- Texts joined with a delimiter, and how far the whole tells the parts.
import Mathlib.Data.List.Basic

namespace joined

variable {α : Type*} [DecidableEq α] {x : α}

/-- Two texts cut at their first delimiter are the same when the whole texts are. -/
theorem cut {a a' b b' : List α} (ha : x ∉ a) (ha' : x ∉ a') (h : a ++ x :: b = a' ++ x :: b') :
    a = a' ∧ b = b' := by
  have hsplit := congrArg (List.splitOn x) h
  rw [List.splitOn_append_cons_self_of_not_mem ha,
    List.splitOn_append_cons_self_of_not_mem ha'] at hsplit
  obtain ⟨rfl, hb⟩ := List.cons.inj hsplit
  have hjoin := congrArg [x].intercalate hb
  rw [List.intercalate_splitOn, List.intercalate_splitOn] at hjoin
  exact ⟨rfl, hjoin⟩

/-- A part that can be read back: it has no delimiter, and is not empty. -/
def Part (x : α) (p : List α) : Prop := x ∉ p ∧ p ≠ []

end joined
