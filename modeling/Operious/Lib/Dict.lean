-- A dictionary that remembers insertion order: a list of items whose keys are distinct.
-- Setting a key that is there keeps its place, and a new key goes to the end.
import Mathlib.Data.List.Basic
import Mathlib.Data.List.Induction
import Mathlib.Data.List.Nodup

/-- An insertion-ordered dictionary. No value of this type holds a key twice. -/
structure Dict (K V : Type*) where
  items : List (K × V)
  distinct : (items.map Prod.fst).Nodup

namespace Dict

variable {K V : Type*}

@[ext] theorem ext {d e : Dict K V} (h : d.items = e.items) : d = e := by
  cases d; cases e; cases h; rfl

instance [DecidableEq K] [DecidableEq V] : DecidableEq (Dict K V) := fun d e =>
  decidable_of_iff (d.items = e.items) ⟨ext, fun h => h ▸ rfl⟩

def empty : Dict K V := ⟨[], List.nodup_nil⟩

instance : Inhabited (Dict K V) := ⟨empty⟩

def keys (d : Dict K V) : List K := d.items.map Prod.fst

def values (d : Dict K V) : List V := d.items.map Prod.snd

section

variable [DecidableEq K]

def find (k : K) : List (K × V) → Option V
  | [] => none
  | (k', v) :: rest => if k' = k then some v else find k rest

def put (k : K) (v : V) : List (K × V) → List (K × V)
  | [] => [(k, v)]
  | (k', v') :: rest => if k' = k then (k, v) :: rest else (k', v') :: put k v rest

variable {l : List (K × V)} {v : V}

theorem mem_put_fst {k x : K} (h : x ∈ (put k v l).map Prod.fst) : x = k ∨ x ∈ l.map Prod.fst := by
  induction l with
  | nil => simpa [put] using h
  | cons p rest ih =>
    obtain ⟨k', v'⟩ := p
    simp only [put] at h
    split at h
    · rename_i hk
      subst hk
      simpa using h
    · simp only [List.map_cons, List.mem_cons] at h ⊢
      rcases h with h | h
      · exact Or.inr (Or.inl h)
      · rcases ih h with h | h
        · exact Or.inl h
        · exact Or.inr (Or.inr h)

theorem put_distinct (k : K) (v : V) (h : (l.map Prod.fst).Nodup) :
    ((put k v l).map Prod.fst).Nodup := by
  induction l with
  | nil => simp [put]
  | cons p rest ih =>
    obtain ⟨k', v'⟩ := p
    simp only [List.map_cons, List.nodup_cons] at h
    simp only [put]
    split
    · rename_i hk
      subst hk
      simpa using h
    · rename_i hk
      simp only [List.map_cons, List.nodup_cons]
      refine ⟨fun hm => ?_, ih h.2⟩
      rcases mem_put_fst hm with he | he
      · exact hk he
      · exact h.1 he

/-- `d.get(k)`. -/
def get? (d : Dict K V) (k : K) : Option V := find k d.items

/-- `d[k] = v`. -/
def set (d : Dict K V) (k : K) (v : V) : Dict K V :=
  ⟨put k v d.items, put_distinct k v d.distinct⟩

/-- `{**d, k: v, ...}`: the items of the list, set one after the other. -/
def update (d : Dict K V) (l : List (K × V)) : Dict K V := l.foldl (fun e p => e.set p.1 p.2) d

def ofList (l : List (K × V)) : Dict K V := empty.update l

theorem find_put (k x : K) (v : V) (l : List (K × V)) :
    find x (put k v l) = if k = x then some v else find x l := by
  induction l with
  | nil => rfl
  | cons p rest ih =>
    obtain ⟨k', v'⟩ := p
    simp only [put]
    by_cases hk : k' = k
    · subst hk
      by_cases hx : k' = x <;> simp [find, hx]
    · by_cases hx : k' = x
      · subst hx
        simp [find, hk, Ne.symm hk]
      · simp [find, hk, hx, ih]

@[simp] theorem get?_empty (k : K) : (empty : Dict K V).get? k = none := rfl

theorem get?_set (d : Dict K V) (k x : K) (v : V) :
    (d.set k v).get? x = if k = x then some v else d.get? x := find_put k x v d.items

@[simp] theorem get?_set_self (d : Dict K V) (k : K) (v : V) : (d.set k v).get? k = some v := by
  rw [get?_set, if_pos rfl]

theorem get?_set_ne (d : Dict K V) {k x : K} (v : V) (h : k ≠ x) :
    (d.set k v).get? x = d.get? x := by
  rw [get?_set, if_neg h]

theorem put_put (k : K) (v w : V) (l : List (K × V)) : put k w (put k v l) = put k w l := by
  induction l with
  | nil => simp [put]
  | cons p rest ih =>
    obtain ⟨k', v'⟩ := p
    by_cases hk : k' = k
    · subst hk
      simp [put]
    · simp [put, hk, ih]

/-- Of two sets of one key the later one counts. -/
theorem set_set (d : Dict K V) (k : K) (v w : V) : (d.set k v).set k w = d.set k w :=
  ext (put_put k v w d.items)

variable {d : Dict K V}

/-- What a lookup finds after a set: the new value under its key, or what was there before. -/
theorem get?_set_cases {k x : K} {v w : V} (h : (d.set k v).get? x = some w) :
    (x = k ∧ w = v) ∨ (k ≠ x ∧ d.get? x = some w) := by
  rw [get?_set] at h
  split at h
  · rename_i hk
    exact Or.inl ⟨hk.symm, (Option.some.inj h).symm⟩
  · rename_i hk
    exact Or.inr ⟨hk, h⟩

variable {k : K}

theorem find_of_mem (hd : (l.map Prod.fst).Nodup) (h : (k, v) ∈ l) : find k l = some v := by
  induction l with
  | nil => cases h
  | cons p rest ih =>
    obtain ⟨k', v'⟩ := p
    simp only [List.map_cons, List.nodup_cons] at hd
    rcases List.mem_cons.mp h with he | hm
    · cases he
      simp [find]
    · have hne : k' ≠ k := by
        rintro rfl
        exact hd.1 (List.mem_map.mpr ⟨(k', v), hm, rfl⟩)
      simp only [find, hne, if_false]
      exact ih hd.2 hm

theorem mem_of_find (h : find k l = some v) : (k, v) ∈ l := by
  induction l with
  | nil => cases h
  | cons p rest ih =>
    obtain ⟨k', v'⟩ := p
    simp only [find] at h
    split at h
    · rename_i hk
      subst hk
      cases h
      exact List.mem_cons_self
    · exact List.mem_cons_of_mem _ (ih h)

/-- A lookup does not see the order of the items. -/
theorem find_perm {l l' : List (K × V)} (h : l.Perm l') (hd : (l.map Prod.fst).Nodup) (k : K) :
    find k l = find k l' := by
  have hd' : (l'.map Prod.fst).Nodup := (h.map Prod.fst).nodup_iff.mp hd
  apply Option.ext
  intro v
  exact ⟨fun hf => find_of_mem hd' (h.mem_iff.mp (mem_of_find hf)),
    fun hf => find_of_mem hd (h.mem_iff.mpr (mem_of_find hf))⟩

theorem find_map_values {W : Type*} (f : V → W) (l : List (K × V)) (k : K) :
    find k (l.map fun p => (p.1, f p.2)) = (find k l).map f := by
  induction l with
  | nil => rfl
  | cons p rest ih =>
    obtain ⟨k', v⟩ := p
    simp only [List.map_cons, find, ih]
    split <;> rfl

theorem get?_eq_some_iff (d : Dict K V) (k : K) (v : V) : d.get? k = some v ↔ (k, v) ∈ d.items :=
  ⟨mem_of_find, find_of_mem d.distinct⟩

theorem get?_eq_none (h : k ∉ d.keys) : d.get? k = none := by
  cases hf : d.get? k with
  | none => rfl
  | some v => exact absurd (List.mem_map.mpr ⟨(k, v), mem_of_find hf, rfl⟩) h

theorem mem_keys_iff (d : Dict K V) (k : K) : k ∈ d.keys ↔ (d.get? k).isSome := by
  constructor
  · intro h
    obtain ⟨⟨k', v⟩, hm, rfl⟩ := List.mem_map.mp h
    rw [(get?_eq_some_iff d k' v).mpr hm]
    rfl
  · intro h
    by_contra hk
    rw [get?_eq_none hk] at h
    cases h

/-- An update sets each of its keys. -/
theorem get?_update (d : Dict K V) (hd : (l.map Prod.fst).Nodup) (k : K) :
    (d.update l).get? k = (find k l).or (d.get? k) := by
  unfold update
  induction l generalizing d with
  | nil => simp [find]
  | cons p rest ih =>
    obtain ⟨k', v⟩ := p
    simp only [List.map_cons, List.nodup_cons] at hd
    rw [List.foldl_cons, ih (d.set k' v) hd.2, get?_set]
    by_cases hk : k' = k
    · subst hk
      have hnone : find k' rest = none := by
        cases hf : find k' rest with
        | none => rfl
        | some w => exact absurd (List.mem_map.mpr ⟨_, mem_of_find hf, rfl⟩) hd.1
      simp [find, hnone]
    · simp [find, hk]

theorem get?_ofList (hd : (l.map Prod.fst).Nodup) (k : K) : (ofList l).get? k = find k l := by
  unfold ofList
  rw [get?_update _ hd]
  simp

theorem mem_of_get?_update (h : (d.update l).get? k = some v) : (k, v) ∈ l ∨ d.get? k = some v := by
  unfold update at h
  induction l generalizing d with
  | nil => exact Or.inr h
  | cons p rest ih =>
    obtain ⟨k', w⟩ := p
    rcases ih h with hmem | hget
    · exact Or.inl (List.mem_cons_of_mem _ hmem)
    · rcases get?_set_cases hget with ⟨rfl, rfl⟩ | ⟨-, hget⟩
      · exact Or.inl List.mem_cons_self
      · exact Or.inr hget

theorem mem_of_get?_ofList (h : (ofList l).get? k = some v) : (k, v) ∈ l := by
  rcases mem_of_get?_update h with hmem | hget
  · exact hmem
  · cases hget

/-! ## The items of a list of items -/

theorem put_fresh (h : k ∉ l.map Prod.fst) : put k v l = l ++ [(k, v)] := by
  induction l with
  | nil => rfl
  | cons p rest ih =>
    obtain ⟨k', v'⟩ := p
    simp only [List.map_cons, List.mem_cons, not_or] at h
    rw [put, if_neg (Ne.symm h.1), ih h.2]
    rfl

/-- A key that is not there goes to the end. -/
theorem values_set_fresh (h : d.get? k = none) (v : V) : (d.set k v).values = d.values ++ [v] := by
  have hkey : k ∉ d.items.map Prod.fst := by
    intro hmem
    have hsome := (d.mem_keys_iff k).mp hmem
    simp [h] at hsome
  change (put k v d.items).map Prod.snd = d.items.map Prod.snd ++ [v]
  rw [put_fresh hkey]
  simp

/-- Setting a key to what it has changes nothing. -/
theorem set_of_get? (h : d.get? k = some v) : d.set k v = d := by
  refine ext ?_
  change put k v d.items = d.items
  have hfind : find k d.items = some v := h
  generalize d.items = l at hfind
  induction l with
  | nil => cases hfind
  | cons p rest ih =>
    obtain ⟨k', v'⟩ := p
    simp only [find] at hfind
    simp only [put]
    split at hfind
    · rename_i hk
      cases hfind
      rw [if_pos hk, hk]
    · rename_i hk
      rw [if_neg hk, ih hfind]

theorem items_update (h : (d.keys ++ l.map Prod.fst).Nodup) :
    (d.update l).items = d.items ++ l := by
  unfold update
  induction l generalizing d with
  | nil => simp
  | cons p rest ih =>
    obtain ⟨k, v⟩ := p
    have hfresh : k ∉ d.items.map Prod.fst := fun hm =>
      (List.nodup_append.mp h).2.2 k hm k List.mem_cons_self rfl
    have hitems : (d.set k v).items = d.items ++ [(k, v)] := put_fresh hfresh
    have hnodup : ((d.set k v).keys ++ rest.map Prod.fst).Nodup := by
      simpa [keys, hitems] using h
    rw [List.foldl_cons, ih hnodup, hitems, List.append_assoc, List.singleton_append]

/-- A list whose keys are distinct is the list of items of its dictionary. -/
theorem items_ofList (h : (l.map Prod.fst).Nodup) : (ofList l).items = l :=
  items_update (d := empty) h

theorem keys_put_sublist (k : K) (v : V) (l : List (K × V)) :
    List.Sublist ((put k v l).map Prod.fst) (l.map Prod.fst ++ [k]) := by
  induction l with
  | nil => simp [put]
  | cons p rest ih =>
    obtain ⟨k', v'⟩ := p
    rw [put]
    split
    · rename_i hk
      subst hk
      simp
    · simpa using ih

/-- The keys come in the order of the list, each where it came first. -/
theorem keys_update_sublist (d : Dict K V) (l : List (K × V)) :
    List.Sublist (d.update l).keys (d.keys ++ l.map Prod.fst) := by
  unfold update
  induction l generalizing d with
  | nil => simp
  | cons p rest ih =>
    obtain ⟨k, v⟩ := p
    have hset : List.Sublist (d.set k v).keys (d.keys ++ [k]) := keys_put_sublist k v d.items
    have hrest := (ih (d.set k v)).trans (hset.append_right (rest.map Prod.fst))
    simpa using hrest

theorem keys_ofList_sublist (l : List (K × V)) : List.Sublist (ofList l).keys (l.map Prod.fst) :=
  keys_update_sublist empty l

theorem mem_items_ofList {p : K × V} (h : p ∈ (ofList l).items) : p ∈ l :=
  mem_of_get?_ofList ((get?_eq_some_iff _ _ _).mpr h)

/-- Of the items of one key the last one counts. -/
theorem get?_ofList_eq_find? (l : List (K × V)) (k : K) :
    (ofList l).get? k = (l.reverse.find? fun p => p.1 = k).map Prod.snd := by
  induction l using List.reverseRecOn with
  | nil => rfl
  | append_singleton l p ih =>
    have hset : ofList (l ++ [p]) = (ofList l).set p.1 p.2 := by
      unfold ofList update
      rw [List.foldl_append]
      rfl
    rw [hset, get?_set, List.reverse_append, List.reverse_singleton, List.singleton_append,
      List.find?_cons]
    by_cases hk : p.1 = k
    · simp [hk]
    · simp [hk, ih]

/-- A dictionary written out from its own items. -/
@[simp] theorem ofList_items (d : Dict K V) : ofList d.items = d := ext (items_ofList d.distinct)

/-- A value set under every key of a list, made from the key. -/
theorem get?_foldl_set (f : K → V) (l : List K) (d : Dict K V) (k : K) :
    (l.foldl (fun d x => d.set x (f x)) d).get? k = if k ∈ l then some (f k) else d.get? k := by
  induction l using List.reverseRecOn with
  | nil => rfl
  | append_singleton l x ih =>
    rw [List.foldl_append, List.foldl_cons, List.foldl_nil, get?_set, ih]
    by_cases hx : x = k
    · simp [hx]
    · simp [hx, Ne.symm hx]

/-- The values are what the lookups find. -/
theorem mem_values_iff (d : Dict K V) (v : V) : v ∈ d.values ↔ ∃ k, d.get? k = some v := by
  unfold values
  rw [List.mem_map]
  constructor
  · rintro ⟨⟨k, w⟩, hm, rfl⟩
    exact ⟨k, (get?_eq_some_iff d k w).mpr hm⟩
  · rintro ⟨k, hk⟩
    exact ⟨(k, v), (get?_eq_some_iff d k v).mp hk, rfl⟩

variable {key : V → K}

theorem put_keyed (hkey : ∀ p ∈ l, key p.2 = p.1) (hd : (l.map Prod.fst).Nodup)
    (h : k ∈ l.map Prod.fst) :
    (put k v l).map Prod.snd = (l.map Prod.snd).map fun u => if key u = k then v else u := by
  induction l with
  | nil => cases h
  | cons p rest ih =>
    obtain ⟨k', v'⟩ := p
    have hhead : key v' = k' := hkey _ List.mem_cons_self
    have htail : ∀ p ∈ rest, key p.2 = p.1 := fun p hp => hkey p (List.mem_cons_of_mem _ hp)
    obtain ⟨hfresh, hrest⟩ := List.nodup_cons.mp hd
    rw [put]
    by_cases hk : k' = k
    · subst hk
      have hothers : (rest.map Prod.snd).map (fun u => if key u = k' then v else u) =
          rest.map Prod.snd := by
        rw [List.map_map]
        refine List.map_congr_left fun p hp => if_neg fun hsame => ?_
        rw [htail p hp] at hsame
        have hmem := List.mem_map_of_mem (f := Prod.fst) hp
        rw [hsame] at hmem
        exact hfresh hmem
      rw [if_pos rfl, List.map_cons, List.map_cons, List.map_cons, hothers, if_pos hhead]
    · have hmem : k ∈ rest.map Prod.fst := (List.mem_cons.mp h).resolve_left (Ne.symm hk)
      rw [if_neg hk, List.map_cons, ih htail hrest hmem, List.map_cons, List.map_cons, hhead, if_neg hk]

/-- A key that is there keeps its place. -/
theorem values_set_keyed (hkey : ∀ k v, d.get? k = some v → key v = k) (h : (d.get? k).isSome)
    (v : V) : (d.set k v).values = d.values.map fun u => if key u = k then v else u :=
  put_keyed (fun p hp => hkey p.1 p.2 ((d.get?_eq_some_iff p.1 p.2).mpr hp)) d.distinct
    ((d.mem_keys_iff k).mpr h)

/-- Values under their own keys are told apart by them. -/
theorem nodup_map_values (h : ∀ k v, d.get? k = some v → key v = k) : (d.values.map key).Nodup := by
  have hkeys : d.values.map key = d.items.map Prod.fst := by
    rw [values, List.map_map]
    exact List.map_congr_left fun p hp => h p.1 p.2 ((d.get?_eq_some_iff p.1 p.2).mpr hp)
  rw [hkeys]
  exact d.distinct

/-- A dict under the keys of its values is searched as the list of them is. -/
theorem get?_eq_find?_values (h : ∀ k v, d.get? k = some v → key v = k) (k : K) :
    d.get? k = d.values.find? (key · = k) := by
  cases hget : d.get? k with
  | none =>
    refine (List.find?_eq_none.mpr ?_).symm
    intro v hv hkey
    obtain ⟨k', hk'⟩ := (d.mem_values_iff v).mp hv
    rw [← h k' v hk', of_decide_eq_true hkey, hget] at hk'
    cases hk'
  | some v =>
    have hsome : (d.values.find? (key · = k)).isSome :=
      List.find?_isSome.mpr ⟨v, (d.mem_values_iff v).mpr ⟨k, hget⟩, decide_eq_true (h k v hget)⟩
    obtain ⟨u, hu⟩ := Option.isSome_iff_exists.mp hsome
    obtain ⟨k', hk'⟩ := (d.mem_values_iff u).mp (List.mem_of_find?_eq_some hu)
    have hku : key u = k := by simpa using List.find?_some hu
    rw [← h k' u hk', hku, hget] at hk'
    rw [hu, hk']

/-- What a delete of the values that do not pass `p` leaves. -/
def filter (d : Dict K V) (p : V → Bool) : Dict K V :=
  ⟨d.items.filter fun q => p q.2, d.distinct.sublist (List.filter_sublist.map _)⟩

end

end Dict
