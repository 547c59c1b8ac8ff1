-- Pages of a sorted list: a filter before or after the sort, before or after the window, and the first
-- of each class.
import Mathlib.Data.List.Sort
import Mathlib.Logic.Function.Basic

namespace pages

variable {α κ : Type*}

variable {l : List α}

section

variable {r : α → α → Prop} [DecidableRel r] [IsTrans α r]

theorem filter_orderedInsert (p : α → Bool) (a : α) (h : l.Pairwise r) :
    (l.orderedInsert r a).filter p =
      if p a then (l.filter p).orderedInsert r a else l.filter p := by
  induction l with
  | nil => simp [List.filter_singleton]
  | cons b l ih =>
    have hrest := ih (List.pairwise_cons.mp h).2
    rw [List.orderedInsert_cons]
    split
    · rename_i hab
      cases ha : p a with
      | false => simp [ha]
      | true =>
        -- what the filter keeps of `b :: l` stands behind `b`, so `a` stands in front of it
        have hfront : ∀ c ∈ (b :: l).filter p, r a c := by
          intro c hc
          rcases List.mem_cons.mp (List.mem_filter.mp hc).1 with rfl | hc
          · exact hab
          · exact IsTrans.trans _ _ _ hab ((List.pairwise_cons.mp h).1 c hc)
        rw [List.filter_cons_of_pos ha, if_pos rfl]
        cases hl : (b :: l).filter p with
        | nil => rfl
        | cons c rest => exact (List.orderedInsert_cons_of_le r rest (hfront c (by rw [hl]; simp))).symm
    · rename_i hab
      cases hb : p b with
      | false => simp [hb, hrest]
      | true =>
        rw [List.filter_cons_of_pos hb, hrest, List.filter_cons_of_pos hb]
        split
        · rw [List.orderedInsert_of_not_le r _ hab]
        · rfl

/-- A stable sort commutes with every filter. -/
theorem filter_insertionSort [Std.Total r] (p : α → Bool) (l : List α) :
    (l.insertionSort r).filter p = (l.filter p).insertionSort r := by
  induction l with
  | nil => rfl
  | cons a l ih =>
    rw [List.insertionSort_cons, filter_orderedInsert p a (List.pairwise_insertionSort r l), ih]
    cases ha : p a with
    | false => simp [ha]
    | true => simp [ha]

end

/-- A filter behind the window gives the page of the filter before it exactly when the window holds a full
page, or nothing is left behind it. -/
theorem take_filter_take_eq_iff (p : α → Bool) (l : List α) (window limit : Nat) :
    ((l.take window).filter p).take limit = (l.filter p).take limit ↔
      limit ≤ ((l.take window).filter p).length ∨ (l.drop window).filter p = [] := by
  have hsplit : l.filter p = (l.take window).filter p ++ (l.drop window).filter p := by
    rw [← List.filter_append, List.take_append_drop]
  rw [hsplit]
  constructor
  · intro h
    have hlength := congrArg List.length h
    simp only [List.length_take, List.length_append] at hlength
    rcases Nat.lt_or_ge ((l.take window).filter p).length limit with hlt | hge
    · exact .inr (List.length_eq_zero_iff.mp (by omega))
    · exact .inl hge
  · rintro (hfull | hnone)
    · rw [List.take_append_of_le_length hfull]
    · rw [hnone, List.append_nil]

variable {p : α → Bool}

/-- A sorted list whose marked elements never stand behind the others is the marked ones, then the others. -/
theorem eq_filter_append_filter {r : α → α → Prop} (h : l.Pairwise r)
    (hfirst : ∀ a b, p a = false → p b = true → ¬ r a b) : l = l.filter p ++ l.filter (!p ·) := by
  induction l with
  | nil => rfl
  | cons a l ih =>
    obtain ⟨hhead, hrest⟩ := List.pairwise_cons.mp h
    cases ha : p a with
    | true => simpa [ha] using ih hrest
    | false =>
      have hothers : ∀ b ∈ l, p b = false := fun b hb =>
        Bool.eq_false_iff.mpr fun hmarked => hfirst a b ha hmarked (hhead b hb)
      have hnone : l.filter p = [] := List.filter_eq_nil_iff.mpr fun b hb => by simp [hothers b hb]
      have hall : l.filter (!p ·) = l := List.filter_eq_self.mpr fun b hb => by simp [hothers b hb]
      simp [ha, hnone, hall]

/-! ## Windows of one list in two orders -/

section

variable {κ' : Type*} [LinearOrder κ] [LinearOrder κ'] {key : α → κ}

/-- In a list that increases strictly, an element has in front of it just those that come before it. -/
theorem getElem?_of_strict (h : l.Pairwise (key · < key ·)) (i : Nat) (x : α) :
    l[i]? = some x ↔ x ∈ l ∧ l.countP (key · < key x) = i := by
  induction l generalizing i with
  | nil => simp
  | cons a l ih =>
    obtain ⟨hhead, hrest⟩ := List.pairwise_cons.mp h
    have hself : ∀ y ∈ a :: l, ¬ key y < key a := by
      intro y hy
      rcases List.mem_cons.mp hy with rfl | hy
      · exact lt_irrefl _
      · exact (hhead y hy).le.not_gt
    have hzero : (a :: l).countP (key · < key a) = 0 := by
      rw [List.countP_eq_zero]
      intro y hy
      simpa using hself y hy
    have hsucc : ∀ x ∈ l, (a :: l).countP (key · < key x) = l.countP (key · < key x) + 1 := by
      intro x hx
      rw [List.countP_cons_of_pos (by simpa using hhead x hx)]
    cases i with
    | zero =>
      rw [List.getElem?_cons_zero, Option.some.injEq]
      constructor
      · rintro rfl
        exact ⟨List.mem_cons_self, hzero⟩
      · rintro ⟨hx, hcount⟩
        rcases List.mem_cons.mp hx with rfl | hx
        · rfl
        · rw [hsucc x hx] at hcount
          cases hcount
    | succ i =>
      rw [List.getElem?_cons_succ, ih hrest i]
      constructor
      · rintro ⟨hx, hcount⟩
        exact ⟨List.mem_cons_of_mem _ hx, by rw [hsucc x hx, hcount]⟩
      · rintro ⟨hx, hcount⟩
        rcases List.mem_cons.mp hx with rfl | hx
        · rw [hzero] at hcount
          cases hcount
        · rw [hsucc x hx] at hcount
          exact ⟨hx, by omega⟩

/-- Two orders give the same window exactly when each element of the one has as many in front of it in
the other. -/
theorem window_eq_iff {key' : α → κ'} {m : List α} (hperm : l.Perm m)
    (hl : l.Pairwise (key · < key ·)) (hm : m.Pairwise (key' · < key' ·)) (offset limit : Nat) :
    (l.drop offset).take limit = (m.drop offset).take limit ↔
      ∀ x ∈ l, offset ≤ l.countP (key · < key x) → l.countP (key · < key x) < offset + limit →
        l.countP (key' · < key' x) = l.countP (key · < key x) := by
  have hfront (x : α) : m.countP (key' · < key' x) = l.countP (key' · < key' x) :=
    (hperm.countP_eq _).symm
  have hwindow (n : List α) (i : Nat) :
      ((n.drop offset).take limit)[i]? = if i < limit then n[offset + i]? else none := by
    rw [List.getElem?_take]
    split_ifs
    · rw [List.getElem?_drop]
    · rfl
  constructor
  · intro h x hx hlow hhigh
    obtain ⟨i, hi⟩ := Nat.exists_eq_add_of_le hlow
    have hat : l[offset + i]? = some x := (getElem?_of_strict hl _ x).mpr ⟨hx, hi⟩
    have hlt : i < limit := by omega
    have hsame := congrArg (·[i]?) h
    simp only [hwindow, if_pos hlt, hat] at hsame
    rw [← hfront, ((getElem?_of_strict hm _ x).mp hsame.symm).2, hi]
  · intro h
    refine List.ext_getElem? fun i => ?_
    rw [hwindow, hwindow]
    split_ifs with hlt
    · cases hat : l[offset + i]? with
      | none =>
        rw [List.getElem?_eq_none_iff, hperm.length_eq] at hat
        rw [List.getElem?_eq_none hat]
      | some x =>
        obtain ⟨hx, hcount⟩ := (getElem?_of_strict hl _ x).mp hat
        have hsame := h x hx (by omega) (by omega)
        refine ((getElem?_of_strict hm _ x).mpr ⟨hperm.mem_iff.mp hx, ?_⟩).symm
        rw [hfront, hsame, hcount]
    · rfl

/-- A sort by keys that differ increases strictly. -/
theorem sorted_strict (hd : (l.map key).Nodup) :
    (l.insertionSort (key · ≤ key ·)).Pairwise (key · < key ·) := by
  have hperm := List.perm_insertionSort (key · ≤ key ·) l
  have hdistinct : (l.insertionSort (key · ≤ key ·)).Pairwise (key · ≠ key ·) :=
    List.pairwise_map.mp ((hperm.map key).nodup_iff.mpr hd)
  have hsorted := List.pairwise_insertionSort (key · ≤ key ·) l
  exact (hsorted.and hdistinct).imp fun h => lt_of_le_of_ne h.1 h.2

end

/-! ## The first of each class -/

section

variable [DecidableEq κ] (key : α → κ) (quota : Nat)

/-- One pass over a list. It lets an element through while its class has let through fewer than the
quota. -/
def firsts : (κ → Nat) → List α → List α
  | _, [] => []
  | count, a :: l =>
    if quota ≤ count (key a) then firsts count l
    else a :: firsts (Function.update count (key a) (count (key a) + 1)) l

variable {key quota} {count : κ → Nat} {a : α} {l : List α}

theorem firsts_cons_of_le (h : quota ≤ count (key a)) :
    firsts key quota count (a :: l) = firsts key quota count l := by
  rw [firsts, if_pos h]

theorem firsts_cons_of_lt (h : count (key a) < quota) :
    firsts key quota count (a :: l) =
      a :: firsts key quota (Function.update count (key a) (count (key a) + 1)) l := by
  rw [firsts, if_neg (Nat.not_le_of_lt h)]

theorem le_update_succ (count : κ → Nat) (k k' : κ) :
    count k' ≤ Function.update count k (count k + 1) k' := by
  rcases eq_or_ne k' k with rfl | hne
  · simp
  · simp [hne]

theorem update_succ_eq (count : κ → Nat) (a b : α) :
    Function.update count (key a) (count (key a) + 1) (key b) =
      count (key b) + [a].countP (key · = key b) := by
  rcases eq_or_ne (key b) (key a) with h | h
  · simp [h]
  · simp [h, h.symm]

theorem firsts_sublist (count : κ → Nat) (l : List α) : (firsts key quota count l).Sublist l := by
  induction l generalizing count with
  | nil => exact List.Sublist.refl _
  | cons a l ih =>
    rw [firsts]
    split
    · exact (ih _).cons a
    · exact (ih _).cons_cons a

/-- Of each class the pass lets through what is there, up to what is left of the quota. -/
theorem countP_firsts (c : κ) : (firsts key quota count l).countP (key · = c) =
    min (quota - count c) (l.countP (key · = c)) := by
  induction l generalizing count with
  | nil => simp [firsts]
  | cons a l ih =>
    by_cases hfull : quota ≤ count (key a)
    · rw [firsts_cons_of_le hfull, ih, List.countP_cons]
      by_cases hc : key a = c
      · subst hc
        simp
        omega
      · simp [hc]
    · rw [firsts_cons_of_lt (Nat.lt_of_not_le hfull), List.countP_cons, List.countP_cons, ih]
      by_cases hc : key a = c
      · subst hc
        simp
        omega
      · simp [hc, Function.update_of_ne (Ne.symm hc)]

variable (key quota) in
/-- A page of a list has so many elements at most, and so many of a class; one is left out only where the page or
the share of its class is full. -/
structure Fair (l page : List α) (limit : Nat) : Prop where
  listed : page ⊆ l
  bounded : page.length ≤ limit
  shared : ∀ c, page.countP (key · = c) ≤ quota
  full : ∀ a ∈ l, a ∉ page → page.length = limit ∨ page.countP (key · = key a) = quota

theorem fair_firsts {due : List α} {limit : Nat} (hl : ∀ a, a ∈ l ↔ a ∈ due) :
    Fair key quota due ((firsts key quota (fun _ => 0) l).take limit) limit := by
  have hsub : (firsts key quota (fun _ => 0) l).Sublist l := firsts_sublist _ l
  have hcount : ∀ c, (firsts key quota (fun _ => 0) l).countP (key · = c) =
      min quota (l.countP (key · = c)) := countP_firsts
  generalize firsts key quota (fun _ => 0) l = page at hsub hcount
  refine ⟨fun a ha => (hl a).mp (hsub.subset (List.mem_of_mem_take ha)), List.length_take_le _ _,
    fun c => (List.take_sublist _ _).countP_le.trans ((hcount c).trans_le (min_le_left _ _)), ?_⟩
  intro a ha hout
  rcases Nat.lt_or_ge page.length limit with hlt | hge
  · rw [List.take_of_length_le hlt.le] at hout ⊢
    have hclass := hsub.filter (key · = key a)
    have hne : (page.filter (key · = key a)).length ≠ (l.filter (key · = key a)).length := by
      intro heq
      have hmem : a ∈ l.filter (key · = key a) := List.mem_filter.mpr ⟨(hl a).mpr ha, decide_eq_true rfl⟩
      exact hout (List.mem_of_mem_filter (hclass.eq_of_length heq ▸ hmem))
    have hle := hclass.length_le
    have hcount := hcount (key a)
    rw [List.countP_eq_length_filter, List.countP_eq_length_filter] at hcount
    rw [List.countP_eq_length_filter]
    omega
  · exact .inl (List.length_take_of_le hge)

/-- The pass lets through what has fewer than the quota of its class before it. -/
theorem firsts_eq_filter [DecidableEq α] (hd : l.Nodup) :
    firsts key quota count l = l.filter fun a =>
      decide (count (key a) + (l.filter (key · = key a)).idxOf a < quota) := by
  induction l generalizing count with
  | nil => rfl
  | cons a l ih =>
    obtain ⟨ha, hd⟩ := List.nodup_cons.mp hd
    have hfront : ((a :: l).filter (key · = key a)).idxOf a = 0 := by
      rw [List.filter_cons_of_pos (by simp), List.idxOf_cons_self]
    have hbehind : ∀ b ∈ l, ((a :: l).filter (key · = key b)).idxOf b =
        [a].countP (key · = key b) + (l.filter (key · = key b)).idxOf b := by
      intro b hb
      have hne : a ≠ b := fun h => ha (h ▸ hb)
      by_cases hclass : key a = key b
      · rw [List.filter_cons_of_pos (by simpa using hclass), List.idxOf_cons_ne _ hne]
        simp [hclass, Nat.add_comm]
      · rw [List.filter_cons_of_neg (by simpa using hclass)]
        simp [hclass]
    rcases Nat.lt_or_ge (count (key a)) quota with hlt | hge
    · rw [firsts_cons_of_lt hlt, ih hd, List.filter_cons_of_pos (by simpa [hfront] using hlt)]
      refine congrArg (a :: ·) (List.filter_congr fun b hb => ?_)
      rw [hbehind b hb, update_succ_eq, Nat.add_assoc]
    · rw [firsts_cons_of_le hge, ih hd, List.filter_cons_of_neg (by simpa [hfront] using hge)]
      refine List.filter_congr fun b hb => ?_
      rw [hbehind b hb]
      by_cases hclass : key a = key b
      · rw [← hclass, decide_eq_false (by omega), decide_eq_false (by omega)]
      · simp [hclass]

/-- Elements whose class is full already may be left out. -/
theorem firsts_filter (h : ∀ a ∈ l, p a = false → quota ≤ count (key a)) :
    firsts key quota count (l.filter p) = firsts key quota count l := by
  induction l generalizing count with
  | nil => rfl
  | cons a l ih =>
    have hl : ∀ b ∈ l, p b = false → quota ≤ count (key b) := fun b hb => h b (List.mem_cons_of_mem _ hb)
    cases ha : p a with
    | false => rw [List.filter_cons_of_neg (by simp [ha]), firsts_cons_of_le (h a List.mem_cons_self ha), ih hl]
    | true =>
      rw [List.filter_cons_of_pos ha]
      rcases Nat.lt_or_ge (count (key a)) quota with hlt | hge
      · rw [firsts_cons_of_lt hlt, firsts_cons_of_lt hlt,
          ih fun b hb hp => (hl b hb hp).trans (le_update_succ count _ _)]
      · rw [firsts_cons_of_le hge, firsts_cons_of_le hge, ih hl]

variable {front : List α}

variable {rest : List α}

/-- A refused element may be left out, wherever it stands. -/
theorem firsts_append_cons_of_le (h : quota ≤ count (key a)) :
    firsts key quota count (front ++ a :: rest) = firsts key quota count (front ++ rest) := by
  induction front generalizing count with
  | nil => exact firsts_cons_of_le h
  | cons b front ih =>
    rw [List.cons_append, List.cons_append]
    rcases Nat.lt_or_ge (count (key b)) quota with hlt | hge
    · rw [firsts_cons_of_lt hlt, firsts_cons_of_lt hlt, ih (h.trans (le_update_succ count _ _))]
    · rw [firsts_cons_of_le hge, firsts_cons_of_le hge, ih h]

theorem firsts_append_of_le (h : ∀ a ∈ front, quota ≤ count (key a)) :
    firsts key quota count (front ++ rest) = firsts key quota count rest := by
  induction front with
  | nil => rfl
  | cons a front ih =>
    rw [List.cons_append, firsts_cons_of_le (h a List.mem_cons_self),
      ih fun b hb => h b (List.mem_cons_of_mem _ hb)]

/-- Where a class of the first elements is open, the first that is let through is one of them. -/
theorem firsts_append_head (rest : List α) (hopen : ∃ a ∈ front, count (key a) < quota) :
    ∃ a ∈ front, ∃ out, firsts key quota count (front ++ rest) = a :: out := by
  induction front with
  | nil =>
    obtain ⟨a, ha, -⟩ := hopen
    cases ha
  | cons a front ih =>
    rcases Nat.lt_or_ge (count (key a)) quota with hlt | hge
    · exact ⟨a, List.mem_cons_self, _, firsts_cons_of_lt hlt⟩
    · have hfront : ∃ b ∈ front, count (key b) < quota := by
        obtain ⟨b, hb, hlt⟩ := hopen
        rcases List.mem_cons.mp hb with rfl | hb
        · exact absurd hge (Nat.not_le_of_lt hlt)
        · exact ⟨b, hb, hlt⟩
      obtain ⟨b, hb, out, hout⟩ := ih hfront
      exact ⟨b, List.mem_cons_of_mem _ hb, out, by rw [List.cons_append, firsts_cons_of_le hge, hout]⟩

/-- Behind each unmarked element of the page, the classes of the marked ones are full. -/
def Settled (key : α → κ) (quota : Nat) (p : α → Bool) (count : κ → Nat) (limit : Nat) (l : List α) : Prop :=
  ∀ before b after, l = before ++ b :: after → p b = false → b ∈ (firsts key quota count l).take limit →
    ∀ a ∈ after, p a = true → quota ≤ count (key a) + before.countP (key · = key a)

variable {p : α → Bool} {limit : Nat}

/-- A refused element changes nothing for the ones behind it. -/
theorem settled_cons_of_le (ha : a ∉ l) (hfull : quota ≤ count (key a)) :
    Settled key quota p count limit (a :: l) ↔ Settled key quota p count limit l := by
  unfold Settled
  rw [firsts_cons_of_le hfull]
  constructor
  · intro h before b after hl hb hpage c hc hp
    have hquota := h (a :: before) b after (by rw [hl]; rfl) hb hpage c hc hp
    by_cases hclass : key a = key c
    · exact (hclass ▸ hfull).trans (Nat.le_add_right _ _)
    · simpa [hclass] using hquota
  · intro h before b after hl hb hpage c hc hp
    cases before with
    | nil =>
      obtain ⟨rfl, rfl⟩ := List.cons.inj hl
      exact absurd ((firsts_sublist _ _).subset (List.mem_of_mem_take hpage)) ha
    | cons d before =>
      obtain ⟨rfl, hrest⟩ := List.cons.inj hl
      refine (h before b after hrest hb hpage c hc hp).trans (Nat.add_le_add_left ?_ _)
      rw [List.countP_cons]
      exact Nat.le_add_right _ _

/-- A marked element that is let through takes its place on the page and in its class. -/
theorem settled_cons_of_lt (ha : a ∉ l) (hp : p a = true) (hopen : count (key a) < quota) :
    Settled key quota p count (limit + 1) (a :: l) ↔
      Settled key quota p (Function.update count (key a) (count (key a) + 1)) limit l := by
  have hcount : ∀ (before : List α) c, count (key c) + (a :: before).countP (key · = key c) =
      Function.update count (key a) (count (key a) + 1) (key c) + before.countP (key · = key c) := by
    intro before c
    rw [update_succ_eq, List.countP_cons, List.countP_singleton]
    omega
  unfold Settled
  rw [firsts_cons_of_lt hopen, List.take_succ_cons]
  constructor
  · intro h before b after hl hb hpage c hc hmarked
    rw [← hcount]
    exact h (a :: before) b after (by rw [hl]; rfl) hb (List.mem_cons_of_mem _ hpage) c hc hmarked
  · intro h before b after hl hb hpage c hc hmarked
    cases before with
    | nil =>
      obtain ⟨rfl, rfl⟩ := List.cons.inj hl
      exact absurd hp (by simp [hb])
    | cons d before =>
      obtain ⟨rfl, hrest⟩ := List.cons.inj hl
      rw [hcount]
      refine h before b after hrest hb ((List.mem_cons.mp hpage).resolve_left ?_) c hc hmarked
      rintro rfl
      exact ha (hrest ▸ List.mem_append_right _ List.mem_cons_self)

/-- An unmarked element that is let through settles the page exactly when the classes of the marked ones
behind it are full. -/
theorem settled_cons_unmarked (hp : p a = false) (hopen : count (key a) < quota) :
    Settled key quota p count (limit + 1) (a :: l) ↔ ∀ b ∈ l, p b = true → quota ≤ count (key b) := by
  constructor
  · intro h b hb hmarked
    refine h [] a l rfl hp ?_ b hb hmarked
    rw [firsts_cons_of_lt hopen, List.take_succ_cons]
    exact List.mem_cons_self
  · intro h before b after hl hb _ c hc hmarked
    have hbehind : c ∈ l := by
      cases before with
      | nil =>
        obtain ⟨rfl, rfl⟩ := List.cons.inj hl
        exact hc
      | cons d before =>
        obtain ⟨rfl, rfl⟩ := List.cons.inj hl
        exact List.mem_append_right _ (List.mem_cons_of_mem _ hc)
    exact (h c hbehind hmarked).trans (Nat.le_add_right _ _)

/-- To pass over the marked elements first gives the same page exactly when the page is settled. -/
theorem take_firsts_marked_first_iff (hd : l.Nodup) :
    (firsts key quota count (l.filter p ++ l.filter (!p ·))).take limit =
        (firsts key quota count l).take limit ↔
      Settled key quota p count limit l := by
  induction l generalizing count limit with
  | nil => simp [firsts, Settled]
  | cons a l ih =>
    obtain ⟨ha, hd⟩ := List.nodup_cons.mp hd
    rcases Nat.lt_or_ge (count (key a)) quota with hopen | hfull
    · cases limit with
      | zero => simp [Settled]
      | succ limit =>
        cases hp : p a with
        | true =>
          rw [settled_cons_of_lt ha hp hopen, ← ih hd, List.filter_cons_of_pos hp,
            List.filter_cons_of_neg (by simp [hp]), List.cons_append, firsts_cons_of_lt hopen,
            firsts_cons_of_lt hopen, List.take_succ_cons, List.take_succ_cons, List.cons.injEq]
          exact and_iff_right rfl
        | false =>
          rw [settled_cons_unmarked hp hopen, List.filter_cons_of_neg (by simp [hp]),
            List.filter_cons_of_pos (by simp [hp])]
          constructor
          · -- a marked element with an open class would come first
            intro heq b hb hmarked
            by_contra hclosed
            have hfront : ∃ c ∈ l.filter p, count (key c) < quota :=
              ⟨b, List.mem_filter.mpr ⟨hb, hmarked⟩, Nat.lt_of_not_le hclosed⟩
            obtain ⟨c, hc, out, hout⟩ := firsts_append_head (a :: l.filter (!p ·)) hfront
            rw [hout, firsts_cons_of_lt hopen, List.take_succ_cons, List.take_succ_cons] at heq
            have hmark := (List.mem_filter.mp hc).2
            rw [(List.cons.inj heq).1, hp] at hmark
            cases hmark
          · intro hfull
            have hclosed : ∀ b ∈ l, (!p b) = false → quota ≤ count (key b) := fun b hb hmarked =>
              hfull b hb (by simpa using hmarked)
            have hfront : ∀ b ∈ l.filter p, quota ≤ count (key b) := fun b hb =>
              hfull b (List.mem_filter.mp hb).1 (List.mem_filter.mp hb).2
            rw [firsts_append_of_le hfront, firsts_cons_of_lt hopen, firsts_cons_of_lt hopen, firsts_filter fun b hb hb' =>
              (hclosed b hb hb').trans (le_update_succ count _ _)]
    · rw [settled_cons_of_le ha hfull, ← ih hd, firsts_cons_of_le hfull]
      cases hp : p a with
      | true =>
        rw [List.filter_cons_of_pos hp, List.filter_cons_of_neg (by simp [hp]), List.cons_append,
          firsts_cons_of_le hfull]
      | false =>
        rw [List.filter_cons_of_neg (by simp [hp]), List.filter_cons_of_pos (by simp [hp]),
          firsts_append_cons_of_le hfull]

end

end pages
