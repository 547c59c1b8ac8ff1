-- A dictionary that keeps the first value of each key. What it holds after a list of offers is, under
-- every key, the value of the first offer with that key.
import Operious.Lib.Dict

namespace Dict

variable {K V : Type*} [DecidableEq K]

/-- The entry is made unless the key is there already. -/
def keep (d : Dict K V) (k : K) (v : V) : Dict K V :=
  match d.get? k with
  | none => d.set k v
  | some _ => d

theorem get?_keep (d : Dict K V) (k x : K) (v : V) :
    (d.keep k v).get? x = if k = x then some ((d.get? x).getD v) else d.get? x := by
  cases h : d.get? k with
  | none =>
    rw [show d.keep k v = d.set k v by simp only [keep, h], get?_set]
    by_cases hx : k = x
    · rw [if_pos hx, if_pos hx, ← hx, h, Option.getD_none]
    · rw [if_neg hx, if_neg hx]
  | some w =>
    rw [show d.keep k v = d by simp only [keep, h]]
    by_cases hx : k = x
    · rw [if_pos hx, ← hx, h, Option.getD_some]
    · rw [if_neg hx]

variable {d : Dict K V}

/-- What is there stays. -/
theorem get?_keep_of_some {k x : K} {v w : V} (h : d.get? x = some w) :
    (d.keep k v).get? x = some w := by
  rw [get?_keep, h, Option.getD_some, ite_self]

variable {α : Type*} {key : α → K} {value : α → V}

/-- Under each key is the value of the first offer with it. -/
def FirstOf (key : α → K) (value : α → V) (offers : List α) (d : Dict K V) : Prop :=
  ∀ k, d.get? k = (offers.find? fun a => key a = k).map value

theorem firstOf_empty : FirstOf key value [] (empty : Dict K V) := fun _ => rfl

variable {offers : List α}

theorem FirstOf.keep (h : FirstOf key value offers d) (a : α) :
    FirstOf key value (offers ++ [a]) (d.keep (key a) (value a)) := by
  intro k
  rw [get?_keep, h k, List.find?_append]
  by_cases hk : key a = k
  · rw [if_pos hk]
    cases offers.find? fun b => key b = k <;> simp [hk]
  · rw [if_neg hk]
    cases offers.find? fun b => key b = k <;> simp [hk]

/-- Under the key of an offer that was not the first is the value of the first. -/
theorem FirstOf.get?_keep_self (h : FirstOf key value offers d) (a : α) :
    (d.keep (key a) (value a)).get? (key a) =
      some (value ((offers.find? fun b => key b = key a).getD a)) := by
  rw [get?_keep, if_pos rfl, h]
  cases offers.find? fun b => key b = key a <;> rfl

end Dict
