-- JSON as the standard library writes it, objects within objects and with sorted keys: a value in
-- normal form can be read off the front of a text that it was written to.
import Operious.Lib.Json

namespace json

open utf8

/-- The texts with a comma between two of them. -/
def commas : List Text → Text
  | [] => []
  | [t] => t
  | t :: u :: rest => t ++ 44 :: commas (u :: rest)

def writeItem (item : Text × Text) : Text := quote item.1 ++ 58 :: item.2

mutual

/-- `dumps(value, sort_keys=True, separators=(",", ":"))`. -/
def write : Json → Text
  | .null => ofString "null"
  | .bool true => ofString "true"
  | .bool false => ofString "false"
  | .num literal => literal
  | .str t => quote t
  | .list xs => 91 :: (commas (writeList xs) ++ [93])
  | .dict items => 123 :: (commas ((sorted (writeItems items)).map writeItem) ++ [125])

def writeList : List Json → List Text
  | [] => []
  | v :: rest => write v :: writeList rest

def writeItems : List (Text × Json) → List (Text × Text)
  | [] => []
  | (k, v) :: rest => (k, write v) :: writeItems rest

end

/-- What the literal of a number is: no other value begins like it, and nothing in it ends a
value. It is ASCII. -/
def IsNumber (literal : Text) : Prop :=
  (∃ c rest, literal = c :: rest ∧ c ∉ [34, 91, 102, 110, 116, 123]) ∧
    ∀ c ∈ literal, c < 128 ∧ c ∉ [44, 93, 125]

mutual

/-- Texts are encodable, and every object lists its items in the order of their keys. -/
def Normal : Json → Prop
  | .num literal => IsNumber literal
  | .str t => Encodable t
  | .list xs => AllNormal xs
  | .dict items => (items.map Prod.fst).Pairwise (fun a b => textLe a b = true) ∧ ItemsNormal items
  | _ => True

def AllNormal : List Json → Prop
  | [] => True
  | v :: rest => Normal v ∧ AllNormal rest

def ItemsNormal : List (Text × Json) → Prop
  | [] => True
  | (k, v) :: rest => Encodable k ∧ Normal v ∧ ItemsNormal rest

end

example : write (.dict [([98], .list [.num [49], .null]), ([97], .str [34])]) =
    ofString "\x7b\"a\":\"\\\"\",\"b\":[1,null]\x7d" := by
  decide +kernel

/-! ## Values begin apart -/

/-- A text after which a value has ended. -/
def Ended (t : Text) : Prop := ∀ c ∈ t.head?, c ∈ [44, 93, 125]

/-- The first character of a value, or 0 where it is that of a number. -/
def kind : Json → Nat
  | .null => 110
  | .bool true => 116
  | .bool false => 102
  | .num _ => 0
  | .str _ => 34
  | .list _ => 91
  | .dict _ => 123

def lead (c : Nat) : Nat := if c ∈ [34, 91, 102, 110, 116, 123] then c else 0

variable {v : Json}

theorem write_lead (h : Normal v) : ∃ c rest, write v = c :: rest ∧ lead c = kind v := by
  cases v with
  | null => exact ⟨110, _, rfl, rfl⟩
  | bool b => cases b <;> exact ⟨_, _, rfl, rfl⟩
  | num literal =>
    rw [Normal] at h
    obtain ⟨⟨c, rest, hl, hc⟩, -⟩ := h
    exact ⟨c, rest, by rw [write, hl], if_neg hc⟩
  | str t => exact ⟨34, _, by rw [write, quote], rfl⟩
  | list xs => exact ⟨91, _, by rw [write], rfl⟩
  | dict items => exact ⟨123, _, by rw [write], rfl⟩

variable {r s : Text}

theorem kind_eq {v w : Json} (hv : Normal v) (hw : Normal w) (h : write v ++ r = write w ++ s) :
    kind v = kind w := by
  obtain ⟨c, t, hc, hlead⟩ := write_lead hv
  obtain ⟨d, u, hd, hlead'⟩ := write_lead hw
  rw [hc, hd] at h
  simp only [List.cons_append, List.cons.injEq] at h
  rw [← hlead, ← hlead', h.1]

theorem quote_prefix {t u : Text} (ht : Encodable t) (hu : Encodable u)
    (h : quote t ++ r = quote u ++ s) : t = u ∧ r = s := by
  simp only [quote, List.cons_append, List.append_assoc, List.nil_append, List.cons.injEq,
    true_and] at h
  have hread := scanString_quoted ht r
  rw [h, scanString_quoted hu s] at hread
  simp only [Option.some.injEq, Prod.mk.injEq] at hread
  exact ⟨hread.1.symm, hread.2.symm⟩

/-- A literal ends where what follows it ends a value. -/
theorem literal_prefix {a b : Text} (ha : IsNumber a) (hb : IsNumber b) (hr : Ended r)
    (hs : Ended s) (h : a ++ r = b ++ s) : a = b ∧ r = s := by
  rcases List.append_eq_append_iff.mp h with ⟨m, hm, hx⟩ | ⟨m, hm, hx⟩
  · cases m with
    | nil => exact ⟨by simpa using hm.symm, by simpa using hx⟩
    | cons c m =>
      exact absurd (hr c (by rw [hx]; rfl)) (hb.2 c (by rw [hm]; simp)).2
  · cases m with
    | nil => exact ⟨by simpa using hm, by simpa using hx.symm⟩
    | cons c m =>
      exact absurd (hs c (by rw [hx]; rfl)) (ha.2 c (by rw [hm]; simp)).2

theorem write_ne_nil (h : Normal v) : write v ≠ [] := by
  obtain ⟨c, rest, hc, -⟩ := write_lead h
  simp [hc]

theorem keys_writeItems (items : List (Text × Json)) :
    (writeItems items).map Prod.fst = items.map Prod.fst := by
  induction items with
  | nil => rfl
  | cons p rest ih =>
    obtain ⟨k, v⟩ := p
    simp [writeItems, ih]

variable {items : List (Text × Json)}

/-- Items that are in the order of their keys stay as they are. -/
theorem sorted_writeItems (h : (items.map Prod.fst).Pairwise fun a b => textLe a b = true) :
    sorted (writeItems items) = writeItems items := by
  rw [← keys_writeItems, List.pairwise_map] at h
  exact h.insertionSort_eq

theorem writeList_eq_map (xs : List Json) : writeList xs = xs.map write := by
  induction xs with
  | nil => rfl
  | cons v rest ih => rw [writeList, ih, List.map_cons]

theorem writeItems_eq_map (items : List (Text × Json)) :
    writeItems items = items.map fun p => (p.1, write p.2) := by
  induction items with
  | nil => rfl
  | cons p rest ih =>
    obtain ⟨k, v⟩ := p
    rw [writeItems, ih, List.map_cons]

theorem allNormal_iff (xs : List Json) : AllNormal xs ↔ ∀ v ∈ xs, Normal v := by
  induction xs with
  | nil => simp [AllNormal]
  | cons v rest ih => simp [AllNormal, ih]

theorem itemsNormal_iff (items : List (Text × Json)) :
    ItemsNormal items ↔ ∀ p ∈ items, Encodable p.1 ∧ Normal p.2 := by
  induction items with
  | nil => simp [ItemsNormal]
  | cons p rest ih =>
    obtain ⟨k, v⟩ := p
    simp [ItemsNormal, ih, and_assoc]

/-! ## Lists between brackets -/

/-- What stands after an element: the closing bracket, or a comma and the other elements. -/
def afterElement (others : List Text) (close : Text) : Text :=
  match others with
  | [] => close
  | u :: rest => 44 :: (commas (u :: rest) ++ close)

theorem commas_cons_append (t : Text) (others : List Text) (close : Text) :
    commas (t :: others) ++ close = t ++ afterElement others close := by
  cases others with
  | nil => rfl
  | cons u rest => simp [commas, afterElement]

variable {c : Nat}

theorem ended_afterElement (others : List Text) (hc : c ∈ [93, 125]) (r : Text) :
    Ended (afterElement others (c :: r)) := by
  cases others with
  | nil =>
    simp only [afterElement, Ended, List.head?_cons, Option.mem_def, Option.some.injEq]
    rintro d rfl
    exact List.mem_cons_of_mem _ hc
  | cons u rest => simp [afterElement, Ended]

/-- Elements that can be read off a text one by one can be read off their list. -/
theorem commas_prefix {α : Type*} {f : α → Text} {ok : α → Prop} (hc : c ∈ [93, 125])
    (hstart : ∀ x, ok x → ∀ r, ¬ Ended (f x ++ r)) {xs : List α}
    (hread : ∀ x ∈ xs, ok x ∧ ∀ y r s, ok y → Ended r → Ended s → f x ++ r = f y ++ s →
      x = y ∧ r = s) {ys : List α} (hys : ∀ y ∈ ys, ok y)
    (h : commas (xs.map f) ++ c :: r = commas (ys.map f) ++ c :: s) : xs = ys ∧ r = s := by
  have hclose : ∀ t, Ended (c :: t) := fun t => ended_afterElement [] hc t
  induction xs generalizing ys with
  | nil =>
    cases ys with
    | nil => exact ⟨rfl, by simpa [commas] using h⟩
    | cons y ys =>
      rw [List.map_cons, commas_cons_append] at h
      have hstop : Ended (f y ++ afterElement (ys.map f) (c :: s)) := by
        rw [← h]
        exact hclose r
      exact absurd hstop (hstart y (hys y List.mem_cons_self) _)
  | cons x xs ih =>
    obtain ⟨hx, hreadx⟩ := hread x List.mem_cons_self
    cases ys with
    | nil =>
      rw [List.map_cons, commas_cons_append] at h
      have hstop : Ended (f x ++ afterElement (xs.map f) (c :: r)) := by
        rw [h]
        exact hclose s
      exact absurd hstop (hstart x hx _)
    | cons y ys =>
      rw [List.map_cons, List.map_cons, commas_cons_append, commas_cons_append] at h
      obtain ⟨rfl, hafter⟩ := hreadx y _ _ (hys y List.mem_cons_self) (ended_afterElement _ hc _)
        (ended_afterElement _ hc _) h
      have hcomma : c ≠ 44 := by
        rintro rfl
        simp at hc
      cases xs with
      | nil =>
        cases ys with
        | nil => exact ⟨rfl, by simpa [afterElement] using hafter⟩
        | cons y' ys => simp [afterElement, hcomma] at hafter
      | cons x' xs =>
        cases ys with
        | nil => simp [afterElement, Ne.symm hcomma] at hafter
        | cons y' ys =>
          simp only [List.map_cons, afterElement, List.cons.injEq, true_and] at hafter
          obtain ⟨htail, hr⟩ := ih (fun z hz => hread z (List.mem_cons_of_mem _ hz))
            (fun z hz => hys z (List.mem_cons_of_mem _ hz)) hafter
          exact ⟨by rw [htail], hr⟩

/-! ## Values -/

theorem not_ended_write (h : Normal v) (r : Text) : ¬ Ended (write v ++ r) := by
  intro hended
  cases v with
  | num literal =>
    rw [Normal] at h
    obtain ⟨⟨c, rest, hl, -⟩, hall⟩ := h
    exact (hall c (by simp [hl])).2 (hended c (by simp [write, hl]))
  | null => exact absurd (hended 110 rfl) (by decide)
  | bool b => cases b <;> exact absurd (hended _ rfl) (by decide)
  | str t => exact absurd (hended 34 (by simp [write, quote])) (by decide)
  | list xs => exact absurd (hended 91 (by simp [write])) (by decide)
  | dict items => exact absurd (hended 123 (by simp [write])) (by decide)

/-- The value can be read off the front of a text. -/
def ReadsOff (v : Json) : Prop := ∀ (w : Json) (r s : Text), Normal w → Ended r → Ended s →
  write v ++ r = write w ++ s → v = w ∧ r = s

theorem writeItem_prefix {p q : Text × Json} (hp : Encodable p.1) (hq : Encodable q.1)
    (hw : Normal q.2) (hread : ReadsOff p.2) (hr : Ended r) (hs : Ended s)
    (h : writeItem (p.1, write p.2) ++ r = writeItem (q.1, write q.2) ++ s) : p = q ∧ r = s := by
  simp only [writeItem, List.append_assoc, List.cons_append] at h
  obtain ⟨hkey, h⟩ := quote_prefix hp hq h
  obtain ⟨hvalue, hrest⟩ := hread q.2 r s hw hr hs (List.cons.inj h).2
  exact ⟨Prod.ext hkey hvalue, hrest⟩

variable {xs : List Json}

theorem readsOff_list (hxs : AllNormal xs) (hread : ∀ v ∈ xs, ReadsOff v) :
    ReadsOff (.list xs) := by
  intro w r s hw hr hs h
  have hk := kind_eq (v := .list xs) (by rwa [Normal]) hw h
  cases w with
  | list ys =>
    rw [Normal, allNormal_iff] at hw
    rw [allNormal_iff] at hxs
    simp only [write, List.cons_append, List.append_assoc, List.nil_append, List.cons.injEq,
      true_and, writeList_eq_map] at h
    obtain ⟨rfl, hrest⟩ := commas_prefix (c := 93) (by decide) (fun v hv => not_ended_write hv)
      (fun v hv => ⟨hxs v hv, hread v hv⟩) hw h
    exact ⟨rfl, hrest⟩
  | bool b => cases b <;> cases hk
  | _ => cases hk

theorem readsOff_dict (hitems : Normal (.dict items)) (hread : ∀ p ∈ items, ReadsOff p.2) :
    ReadsOff (.dict items) := by
  intro w r s hw hr hs h
  have hk := kind_eq hitems hw h
  cases w with
  | dict items' =>
    rw [Normal, itemsNormal_iff] at hitems hw
    simp only [write, List.cons_append, List.append_assoc, List.nil_append, List.cons.injEq,
      true_and, sorted_writeItems hitems.1, sorted_writeItems hw.1] at h
    rw [writeItems_eq_map, writeItems_eq_map, List.map_map, List.map_map] at h
    have hstart : ∀ p : Text × Json, Encodable p.1 ∧ Normal p.2 → ∀ r,
        ¬ Ended ((writeItem ∘ fun p => (p.1, write p.2)) p ++ r) := by
      intro p _ r hended
      exact absurd (hended 34 (by simp [writeItem, quote])) (by decide)
    obtain ⟨rfl, hrest⟩ := commas_prefix (c := 125) (by decide) hstart
      (fun p hp => ⟨hitems.2 p hp, fun q r s hq hr hs h =>
        writeItem_prefix (hitems.2 p hp).1 hq.1 hq.2 (hread p hp) hr hs h⟩) hw.2 h
    exact ⟨rfl, hrest⟩
  | bool b => cases b <;> cases hk
  | _ => cases hk

theorem readsOff_leaf (hv : Normal v) (hlist : ∀ xs, v ≠ .list xs)
    (hdict : ∀ items, v ≠ .dict items) : ReadsOff v := by
  intro w r s hw hr hs h
  have hk := kind_eq hv hw h
  cases v with
  | list xs => exact absurd rfl (hlist xs)
  | dict items => exact absurd rfl (hdict items)
  | null =>
    cases w with
    | null => exact ⟨rfl, List.append_cancel_left h⟩
    | bool b => cases b <;> cases hk
    | _ => cases hk
  | bool b =>
    cases w with
    | bool b' =>
      have hb : b = b' := by
        cases b <;> cases b' <;> first | rfl | cases hk
      subst hb
      exact ⟨rfl, List.append_cancel_left h⟩
    | _ => cases b <;> cases hk
  | num literal =>
    cases w with
    | num literal' =>
      rw [Normal] at hv hw
      obtain ⟨rfl, hrest⟩ := literal_prefix hv hw hr hs (by simpa [write] using h)
      exact ⟨rfl, hrest⟩
    | bool b => cases b <;> cases hk
    | _ => cases hk
  | str t =>
    cases w with
    | str u =>
      rw [Normal] at hv hw
      obtain ⟨rfl, hrest⟩ := quote_prefix hv hw (by simpa [write] using h)
      exact ⟨rfl, hrest⟩
    | bool b => cases b <;> cases hk
    | _ => cases hk

mutual

/-- Every value in normal form can be read off. -/
theorem readsOff : (v : Json) → Normal v → ReadsOff v
  | .list xs, hv => by
    rw [Normal] at hv
    exact readsOff_list hv (readsOff_all xs hv)
  | .dict items, hv => readsOff_dict hv (readsOff_items items (by rw [Normal] at hv; exact hv.2))
  | .null, hv => readsOff_leaf hv (by simp) (by simp)
  | .bool b, hv => readsOff_leaf hv (by simp) (by simp)
  | .num literal, hv => readsOff_leaf hv (by simp) (by simp)
  | .str t, hv => readsOff_leaf hv (by simp) (by simp)

theorem readsOff_all : (xs : List Json) → AllNormal xs → ∀ v ∈ xs, ReadsOff v
  | [], _, _, hmem => by cases hmem
  | x :: rest, hxs, v, hmem => by
    rw [AllNormal] at hxs
    rcases List.mem_cons.mp hmem with heq | hmem
    · exact heq ▸ readsOff x hxs.1
    · exact readsOff_all rest hxs.2 v hmem

theorem readsOff_items : (items : List (Text × Json)) → ItemsNormal items →
    ∀ p ∈ items, ReadsOff p.2
  | [], _, _, hmem => by cases hmem
  | (k, x) :: rest, hitems, p, hmem => by
    rw [ItemsNormal] at hitems
    rcases List.mem_cons.mp hmem with heq | hmem
    · exact heq ▸ readsOff x hitems.2.1
    · exact readsOff_items rest hitems.2.2 p hmem

end

/-- Two values in normal form that are written alike are the same. -/
theorem write_inj {v w : Json} (hv : Normal v) (hw : Normal w) (h : write v = write w) : v = w :=
  (readsOff v hv w [] [] hw (by simp [Ended]) (by simp [Ended]) (by rw [h])).1

/-! ## What is written is ASCII -/

theorem mem_commas {ts : List Text} (h : c ∈ commas ts) : c = 44 ∨ ∃ t ∈ ts, c ∈ t := by
  induction ts using commas.induct with
  | case1 => cases h
  | case2 t => exact Or.inr ⟨t, List.mem_singleton.mpr rfl, h⟩
  | case3 t u rest ih =>
    simp only [commas, List.mem_append, List.mem_cons] at h
    rcases h with h | h | h
    · exact Or.inr ⟨t, List.mem_cons_self, h⟩
    · exact Or.inl h
    · rcases ih h with h | ⟨w, hw, hc⟩
      · exact Or.inl h
      · exact Or.inr ⟨w, List.mem_cons_of_mem _ hw, hc⟩

theorem quote_low {t : Text} (h : Encodable t) (hc : c ∈ quote t) : c < 128 :=
  (quote_ascii h c hc).2

/-- Every character of the text is an ASCII one. -/
def Low (t : Text) : Prop := ∀ c ∈ t, c < 128

instance (t : Text) : Decidable (Low t) := by
  unfold Low
  infer_instance

theorem low_list (h : ∀ v ∈ xs, Low (write v)) : Low (write (.list xs)) := by
  intro c hc
  simp only [write, List.mem_cons, List.mem_append, List.not_mem_nil, or_false] at hc
  rcases hc with rfl | hc | rfl
  · omega
  · rcases mem_commas hc with rfl | ⟨t, ht, hct⟩
    · omega
    · rw [writeList_eq_map] at ht
      obtain ⟨v, hv, rfl⟩ := List.mem_map.mp ht
      exact h v hv c hct
  · omega

theorem low_dict (hkeys : ∀ p ∈ items, Encodable p.1) (h : ∀ p ∈ items, Low (write p.2)) :
    Low (write (.dict items)) := by
  intro c hc
  simp only [write, List.mem_cons, List.mem_append, List.not_mem_nil, or_false] at hc
  rcases hc with rfl | hc | rfl
  · omega
  · rcases mem_commas hc with rfl | ⟨t, ht, hct⟩
    · omega
    · obtain ⟨q, hq, rfl⟩ := List.mem_map.mp ht
      rw [sorted, List.mem_insertionSort, writeItems_eq_map] at hq
      obtain ⟨p, hp, rfl⟩ := List.mem_map.mp hq
      simp only [writeItem, List.mem_append, List.mem_cons] at hct
      rcases hct with hct | rfl | hct
      · exact quote_low (hkeys p hp) hct
      · omega
      · exact h p hp c hct
  · omega

mutual

theorem write_low : (v : Json) → Normal v → Low (write v)
  | .null, _ => by decide
  | .bool true, _ => by decide
  | .bool false, _ => by decide
  | .num literal, hv => by
    rw [Normal] at hv
    intro c hc
    rw [write] at hc
    exact (hv.2 c hc).1
  | .str t, hv => by
    rw [Normal] at hv
    intro c hc
    rw [write] at hc
    exact quote_low hv hc
  | .list xs, hv => low_list (write_low_all xs (by rwa [Normal] at hv))
  | .dict items, hv => by
    rw [Normal] at hv
    exact low_dict (fun p hp => ((itemsNormal_iff items).mp hv.2 p hp).1)
      (write_low_items items hv.2)

theorem write_low_all : (xs : List Json) → AllNormal xs → ∀ v ∈ xs, Low (write v)
  | [], _, _, hmem => by cases hmem
  | x :: rest, hxs, v, hmem => by
    rw [AllNormal] at hxs
    rcases List.mem_cons.mp hmem with heq | hmem
    · exact heq ▸ write_low x hxs.1
    · exact write_low_all rest hxs.2 v hmem

theorem write_low_items : (items : List (Text × Json)) → ItemsNormal items →
    ∀ p ∈ items, Low (write p.2)
  | [], _, _, hmem => by cases hmem
  | (k, x) :: rest, hitems, p, hmem => by
    rw [ItemsNormal] at hitems
    rcases List.mem_cons.mp hmem with heq | hmem
    · exact heq ▸ write_low x hitems.2.1
    · exact write_low_items rest hitems.2.2 p hmem

end

/-- The string of a text of ASCII characters. -/
def asciiString (t : Text) : String := String.ofList (t.map Char.ofNat)

theorem asciiString_inj {t u : Text} (ht : Low t) (hu : Low u)
    (h : asciiString t = asciiString u) : t = u := by
  have hmap : t.map Char.ofNat = u.map Char.ofNat := String.ofList_injective h
  have hback : ∀ t : Text, Low t → (t.map Char.ofNat).map Char.toNat = t := by
    intro t ht
    rw [List.map_map]
    refine (List.map_congr_left fun c hc => ?_).trans (List.map_id t)
    have hlow := ht c hc
    have hvalid : c.isValidChar := Or.inl (by omega)
    have hchar : Char.ofNat c = Char.ofNatAux c hvalid := dif_pos hvalid
    exact congrArg Char.toNat hchar
  rw [← hback t ht, ← hback u hu, hmap]

/-- `dumps` as a string tells values in normal form apart. -/
theorem asciiString_write_inj {v w : Json} (hv : Normal v) (hw : Normal w)
    (h : asciiString (write v) = asciiString (write w)) : v = w :=
  write_inj hv hw (asciiString_inj (write_low v hv) (write_low w hw) h)

end json
