-- A dict and an index that finds its values under a further key.
import Operious.Lib.Dict

namespace Dict

variable {K I V : Type*} [DecidableEq K] [DecidableEq I]

/-- An index finds the values of a dict that have a key, and nothing else. -/
def IndexOn (key : V → Option I) (d : Dict K V) (found : Dict I K) : Prop :=
  ∀ i k, found.get? i = some k ↔ ∃ v, d.get? k = some v ∧ key v = some i

variable {key : V → Option I} {d : Dict K V} {found : Dict I K}

/-- What an index leads to is the value that has the key. -/
theorem IndexOn.find (h : IndexOn key d found) (i : I) :
    (found.get? i).bind d.get? = d.values.find? (key · = some i) := by
  cases hfind : d.values.find? (key · = some i) with
  | none =>
    rw [List.find?_eq_none] at hfind
    cases hi : found.get? i with
    | none => rfl
    | some k =>
      obtain ⟨v, hv, hkey⟩ := (h i k).mp hi
      exact absurd (decide_eq_true hkey) (hfind v ((d.mem_values_iff v).mpr ⟨k, hv⟩))
  | some v =>
    have hkey : key v = some i := by simpa using List.find?_some hfind
    obtain ⟨k, hk⟩ := (d.mem_values_iff v).mp (List.mem_of_find?_eq_some hfind)
    rw [(h i k).mpr ⟨v, hk, hkey⟩, Option.bind_some, hk]

/-- An index follows a new value that has no key of another, once its key is entered. -/
theorem IndexOn.set (h : IndexOn key d found) {k : K} {v : V} (hk : d.get? k = none)
    (hfresh : ∀ i, key v = some i → found.get? i = none) :
    IndexOn key (d.set k v)
      (match key v with
        | some i => found.set i k
        | none => found) := by
  intro i k'
  have hstored : (∃ u, (d.set k v).get? k' = some u ∧ key u = some i) ↔
      (k = k' ∧ key v = some i) ∨ ∃ u, d.get? k' = some u ∧ key u = some i := by
    rw [get?_set]
    by_cases hsame : k = k'
    · subst hsame
      simp [hk]
    · simp [hsame]
  rw [hstored]
  cases hkey : key v with
  | none => simp [h i k']
  | some j =>
    simp only [get?_set, Option.some.injEq]
    by_cases hj : j = i
    · subst hj
      have hnone : ∀ k, ¬ ∃ u, d.get? k = some u ∧ key u = some j := by
        intro k hu
        rw [← h j k, hfresh j hkey] at hu
        cases hu
      simp [hnone]
    · simp [hj, h i k']

/-- An index stays when a value is replaced by one with the same key. -/
theorem IndexOn.replace (h : IndexOn key d found) {k : K} {u v : V} (hk : d.get? k = some u)
    (hkey : key v = key u) : IndexOn key (d.set k v) found := by
  intro i k'
  rw [h i k', get?_set]
  by_cases hsame : k = k'
  · subst hsame
    simp [hk, hkey]
  · simp [hsame]

/-! ## Searching for more than a key -/

/-- Where a key tells the elements apart, one is searched for by the key and then looked at. -/
theorem find?_and_of_unique {α : Type*} {l : List α} {q : α → Bool} (p : α → Bool)
    (h : ∀ a ∈ l, ∀ b ∈ l, q a = true → q b = true → a = b) :
    l.find? (fun a => q a && p a) = (l.find? q).filter p := by
  cases hq : l.find? q with
  | none =>
    rw [Option.filter_none, List.find?_eq_none]
    intro a ha hfound
    exact List.find?_eq_none.mp hq a ha (Bool.and_eq_true_iff.mp hfound).1
  | some a =>
    have ha := List.mem_of_find?_eq_some hq
    have hqa := List.find?_some hq
    have hall : ∀ b ∈ l, (q b && p b) = true → b = a := fun b hb hfound =>
      h b hb a ha (Bool.and_eq_true_iff.mp hfound).1 hqa
    cases hp : p a with
    | false =>
      rw [Option.filter_some_neg (by simp [hp]), List.find?_eq_none]
      intro b hb hfound
      rw [hall b hb hfound, hp, Bool.and_false] at hfound
      cases hfound
    | true =>
      rw [Option.filter_some_pos hp]
      have hsome : (l.find? fun a => q a && p a).isSome :=
        List.find?_isSome.mpr ⟨a, ha, by simp [hqa, hp]⟩
      obtain ⟨b, hb⟩ := Option.isSome_iff_exists.mp hsome
      rw [hb, hall b (List.mem_of_find?_eq_some hb) (List.find?_some (p := fun a => q a && p a) hb)]

theorem find?_name_and {name : V → K} (h : ∀ k v, d.get? k = some v → name v = k) (k : K) (p : V → Bool) :
    d.values.find? (fun v => decide (name v = k) && p v) = (d.get? k).filter p := by
  rw [get?_eq_find?_values h]
  refine find?_and_of_unique p ?_
  intro u hu v hv hku hkv
  obtain ⟨j, hj⟩ := (d.mem_values_iff u).mp hu
  obtain ⟨k', hk'⟩ := (d.mem_values_iff v).mp hv
  rw [← h j u hj, of_decide_eq_true hku] at hj
  rw [← h k' v hk', of_decide_eq_true hkv, hj] at hk'
  exact Option.some.inj hk'

theorem IndexOn.find_and (h : IndexOn key d found) (i : I) (p : V → Bool) :
    d.values.find? (fun v => decide (key v = some i) && p v) =
      ((found.get? i).bind d.get?).filter p := by
  rw [h.find]
  refine find?_and_of_unique p ?_
  intro u hu v hv hku hkv
  obtain ⟨j, hj⟩ := (d.mem_values_iff u).mp hu
  obtain ⟨k', hk'⟩ := (d.mem_values_iff v).mp hv
  have hju := (h i j).mpr ⟨u, hj, of_decide_eq_true hku⟩
  rw [(h i k').mpr ⟨v, hk', of_decide_eq_true hkv⟩, Option.some.injEq] at hju
  rw [hju, hj] at hk'
  exact Option.some.inj hk'

end Dict
