-- Ids whose seed is a JSON text of a tenant and of components of any kind. What stands in the
-- components goes through a projection that forgets what kind of object a text was.
import Operious.Lib.JsonWriter
import Operious.Python

namespace operious.identity

open json utf8

/-! ## Components -/

structure FloatLiteral where
  text : Text
  number : IsNumber text
  not_int : ∃ c ∈ text, c ≠ 45 ∧ isDigit c = false

/-- A key of a mapping by its `str`, and whether it is a string itself. -/
structure Key where
  text : String
  isStr : Bool
  deriving DecidableEq

inductive Component (Uuid : Type)
  | null
  | bool (b : Bool)
  | int (i : Int)
  | float (x : FloatLiteral)
  | str (s : String)
  | uuid (u : Uuid)
  | datetime (t : Instant)
  | enum (member value : String)
  | mapping (items : List (Key × Component Uuid))
  | list (items : List (Component Uuid))
  | tuple (items : List (Component Uuid))
  | set (items : List String)
  | bytes (data : List UInt8)
  /-- Any other object, by its `str`. -/
  | other (text : String)

variable {Uuid : Type}

def intLiteral : Int → Text
  | .ofNat n => ofString n.repr
  | .negSucc n => 45 :: ofString (n + 1).repr

def strLe (a b : String) : Bool := textLe (ofString a) (ofString b)

/-- `sorted(items, key=...)` of items with strings for keys. -/
def sortKeys {V : Type} (items : List (String × V)) : List (String × V) :=
  items.insertionSort fun a b => strLe a.1 b.1 = true

/-- `{key: value for key, value in sorted(items)}`: of two values of a key the later one counts. -/
def byKey {V : Type} (items : List (String × V)) : List (String × V) :=
  (Dict.ofList (sortKeys items)).items

/-- `data.hex()`. -/
def hex (data : List UInt8) : String :=
  asciiString (data.flatMap fun b => [hexDigit (b.toNat / 16), hexDigit (b.toNat % 16)])

def sortStrings (items : List String) : List String :=
  items.insertionSort fun a b => strLe a b = true

section

variable [Stdlib Uuid]

mutual

def json_safe : Component Uuid → Json
  | .null => .null
  | .bool b => .bool b
  | .int i => .num (intLiteral i)
  | .float x => .num x.text
  | .str s => .str (ofString s)
  | .uuid u => .str (ofString (Stdlib.str u))
  | .datetime t => .str (ofString (Stdlib.isoformat Uuid t))
  | .enum _ value => .str (ofString value)
  | .mapping items => .dict ((byKey (safe_items items)).map fun p => (ofString p.1, p.2))
  | .list items => .list (safe_list items)
  | .tuple items => .list (safe_list items)
  | .set items => .list ((sortStrings items).map fun s => .str (ofString s))
  | .bytes data => .str (ofString (hex data))
  | .other text => .str (ofString text)

def safe_list : List (Component Uuid) → List Json
  | [] => []
  | v :: rest => json_safe v :: safe_list rest

def safe_items : List (Key × Component Uuid) → List (String × Json)
  | [] => []
  | (key, v) :: rest => (key.text, json_safe v) :: safe_items rest

end

/-- The seed with its keys as `sort_keys` orders them. The tenant is `tenant_id or ""`. -/
def seedObject (tenant_id : Option String) (seed_components : List (Component Uuid)) : Json :=
  .dict [(ofString "seed_components", .list (safe_list seed_components)),
    (ofString "tenant_id", .str (ofString (tenant_id.getD "")))]

def derive_runtime_id (name_space : Uuid) (tenant_id : Option String)
    (seed_components : List (Component Uuid)) : Uuid :=
  Stdlib.uuid5 name_space (asciiString (write (seedObject tenant_id seed_components)))

end

/-! ## What the projection keeps -/

mutual

/-- JSON and nothing else: the projection forgets nothing of it. -/
def Exact : Component Uuid → Prop
  | .null => True
  | .bool _ => True
  | .int _ => True
  | .float _ => True
  | .str _ => True
  | .list items => AllExact items
  | .mapping items => ItemsExact items
  | _ => False

def AllExact : List (Component Uuid) → Prop
  | [] => True
  | v :: rest => Exact v ∧ AllExact rest

def ItemsExact : List (Key × Component Uuid) → Prop
  | [] => True
  | (key, v) :: rest => key.isStr = true ∧ Exact v ∧ ItemsExact rest

end

mutual

/-- Every mapping lists its keys once and in order: the order is no part of its value. -/
def Ordered : Component Uuid → Prop
  | .list items => AllOrdered items
  | .tuple items => AllOrdered items
  | .mapping items => (items.map Prod.fst).Nodup ∧
      (items.map fun p => p.1.text).Pairwise (fun a b => strLe a b = true) ∧ ItemsOrdered items
  | _ => True

def AllOrdered : List (Component Uuid) → Prop
  | [] => True
  | v :: rest => Ordered v ∧ AllOrdered rest

def ItemsOrdered : List (Key × Component Uuid) → Prop
  | [] => True
  | (_, v) :: rest => Ordered v ∧ ItemsOrdered rest

end

theorem allExact_iff (items : List (Component Uuid)) : AllExact items ↔ ∀ v ∈ items, Exact v := by
  induction items with
  | nil => simp [AllExact]
  | cons v rest ih => simp [AllExact, ih]

variable (items : List (Key × Component Uuid))

theorem itemsExact_iff :
    ItemsExact items ↔ ∀ p ∈ items, p.1.isStr = true ∧ Exact p.2 := by
  induction items with
  | nil => simp [ItemsExact]
  | cons p rest ih =>
    obtain ⟨key, v⟩ := p
    simp [ItemsExact, ih, and_assoc]

theorem allOrdered_iff (items : List (Component Uuid)) :
    AllOrdered items ↔ ∀ v ∈ items, Ordered v := by
  induction items with
  | nil => simp [AllOrdered]
  | cons v rest ih => simp [AllOrdered, ih]

theorem itemsOrdered_iff :
    ItemsOrdered items ↔ ∀ p ∈ items, Ordered p.2 := by
  induction items with
  | nil => simp [ItemsOrdered]
  | cons p rest ih =>
    obtain ⟨key, v⟩ := p
    simp [ItemsOrdered, ih]

theorem safe_list_eq_map [Stdlib Uuid] (items : List (Component Uuid)) :
    safe_list items = items.map json_safe := by
  induction items with
  | nil => rfl
  | cons v rest ih => rw [safe_list, ih, List.map_cons]

theorem safe_items_eq_map [Stdlib Uuid] :
    safe_items items = items.map fun p => (p.1.text, json_safe p.2) := by
  induction items with
  | nil => rfl
  | cons p rest ih =>
    obtain ⟨key, v⟩ := p
    rw [safe_items, ih, List.map_cons]

/-! ## The order of keys -/

theorem textLe_total (s t : Text) : textLe s t = true ∨ textLe t s = true := by
  induction s generalizing t with
  | nil => exact Or.inl (by cases t <;> rfl)
  | cons a s ih =>
    cases t with
    | nil => exact Or.inr rfl
    | cons b t =>
      have := ih t
      simp only [textLe, Bool.or_eq_true, decide_eq_true_eq, Bool.and_eq_true, beq_iff_eq]
      grind

theorem textLe_trans {s t u : Text} (h : textLe s t = true) (h' : textLe t u = true) :
    textLe s u = true := by
  induction s generalizing t u with
  | nil => cases u <;> rfl
  | cons a s ih =>
    cases t with
    | nil => simp [textLe] at h
    | cons b t =>
      cases u with
      | nil => simp [textLe] at h'
      | cons c u =>
        simp only [textLe, Bool.or_eq_true, decide_eq_true_eq, Bool.and_eq_true,
          beq_iff_eq] at h h' ⊢
        have := @ih t u
        grind

section

variable {V : Type}

instance : Std.Total (fun a b : String × V => strLe a.1 b.1 = true) :=
  ⟨fun _ _ => textLe_total _ _⟩

instance : IsTrans (String × V) (fun a b => strLe a.1 b.1 = true) :=
  ⟨fun _ _ _ => textLe_trans⟩

theorem pairwise_sortKeys (items : List (String × V)) :
    ((sortKeys items).map Prod.fst).Pairwise fun a b => strLe a b = true := by
  rw [List.pairwise_map]
  exact List.pairwise_insertionSort _ items

theorem pairwise_byKey (items : List (String × V)) :
    ((byKey items).map Prod.fst).Pairwise fun a b => strLe a b = true :=
  (pairwise_sortKeys items).sublist (Dict.keys_ofList_sublist _)

theorem nodup_byKey (items : List (String × V)) : ((byKey items).map Prod.fst).Nodup :=
  (Dict.ofList _).distinct

variable {items : List (String × V)}

theorem mem_of_mem_byKey {p : String × V} (h : p ∈ byKey items) : p ∈ items :=
  (List.mem_insertionSort _).mp (Dict.mem_items_ofList h)

theorem byKey_eq_self (hd : (items.map Prod.fst).Nodup)
    (hs : (items.map Prod.fst).Pairwise fun a b => strLe a b = true) : byKey items = items := by
  rw [List.pairwise_map] at hs
  have hsorted : sortKeys items = items := hs.insertionSort_eq
  rw [byKey, hsorted, Dict.items_ofList hd]

theorem put_map {W : Type} (f : V → W) (k : String) (v : V) (l : List (String × V)) :
    Dict.put k (f v) (l.map fun p => (p.1, f p.2)) =
      (Dict.put k v l).map fun p => (p.1, f p.2) := by
  induction l with
  | nil => rfl
  | cons p rest ih =>
    simp only [List.map_cons, Dict.put]
    split
    · rfl
    · rw [ih, List.map_cons]

theorem byKey_map {W : Type} (f : V → W) (items : List (String × V)) :
    byKey (items.map fun p => (p.1, f p.2)) = (byKey items).map fun p => (p.1, f p.2) := by
  have hsort : sortKeys (items.map fun p => (p.1, f p.2)) =
      (sortKeys items).map fun p => (p.1, f p.2) :=
    (List.map_insertionSort (fun a b : String × V => strLe a.1 b.1 = true)
      (fun a b : String × W => strLe a.1 b.1 = true) (fun p : String × V => (p.1, f p.2)) items
      fun _ _ _ _ => Iff.rfl).symm
  have hupdate : ∀ (l : List (String × V)) (d : Dict String V) (e : Dict String W),
      e.items = d.items.map (fun p => (p.1, f p.2)) →
      (e.update (l.map fun p => (p.1, f p.2))).items =
        (d.update l).items.map fun p => (p.1, f p.2) := by
    intro l
    induction l with
    | nil => exact fun d e h => h
    | cons p rest ih =>
      intro d e h
      refine ih (d.set p.1 p.2) (e.set p.1 (f p.2)) ?_
      change Dict.put p.1 (f p.2) e.items = (Dict.put p.1 p.2 d.items).map _
      rw [h, put_map]
  rw [byKey, hsort]
  exact hupdate (sortKeys items) .empty .empty rfl

end

/-! ## What is projected is in normal form -/

theorem digit_of_mem_repr {n c : Nat} (h : c ∈ ofString n.repr) : 48 ≤ c ∧ c ≤ 57 := by
  rw [ofString_eq, Nat.toList_repr] at h
  obtain ⟨d, hd, rfl⟩ := List.mem_map.mp h
  have hdigit := Nat.isDigit_of_mem_toDigits (by omega) (by omega) hd
  simp only [Char.isDigit, Bool.and_eq_true, decide_eq_true_eq] at hdigit
  exact ⟨hdigit.1, hdigit.2⟩

variable {i : Int}

theorem mem_intLiteral {c : Nat} (h : c ∈ intLiteral i) : c = 45 ∨ (48 ≤ c ∧ c ≤ 57) := by
  cases i with
  | ofNat n => exact Or.inr (digit_of_mem_repr h)
  | negSucc n =>
    rcases List.mem_cons.mp h with h | h
    · exact Or.inl h
    · exact Or.inr (digit_of_mem_repr h)

theorem repr_ne_nil (n : Nat) : ofString n.repr ≠ [] := by
  simp [ofString_eq]

theorem isNumber_intLiteral (i : Int) : IsNumber (intLiteral i) := by
  constructor
  · have hne : intLiteral i ≠ [] := by
      cases i with
      | ofNat n => exact repr_ne_nil n
      | negSucc n => exact List.cons_ne_nil _ _
    obtain ⟨c, rest, hc⟩ := List.exists_cons_of_ne_nil hne
    refine ⟨c, rest, hc, ?_⟩
    have hmem : c ∈ intLiteral i := by simp [hc]
    rcases mem_intLiteral hmem with rfl | h
    · decide
    · simp only [List.mem_cons, List.not_mem_nil, or_false]
      omega
  · intro c hc
    have h := mem_intLiteral hc
    simp only [List.mem_cons, List.not_mem_nil, or_false]
    omega

theorem intLiteral_inj {j : Int} (h : intLiteral i = intLiteral j) : i = j := by
  have hminus : ∀ {n : Nat} {t : Text}, ofString n.repr ≠ 45 :: t := by
    intro n t hn
    have hmem : 45 ∈ ofString n.repr := by simp [hn]
    have := digit_of_mem_repr hmem
    omega
  cases i with
  | ofNat m =>
    cases j with
    | ofNat n => rw [repr_inj (ofString_injective h)]
    | negSucc n => exact absurd h hminus
  | negSucc m =>
    cases j with
    | ofNat n => exact absurd h.symm hminus
    | negSucc n =>
      have hs := repr_inj (ofString_injective (List.cons.inj h).2)
      rw [Nat.succ.inj hs]

variable [Stdlib Uuid]

mutual

theorem normal_json_safe : (v : Component Uuid) → Normal (json_safe v)
  | .null => trivial
  | .bool b => trivial
  | .int i => isNumber_intLiteral i
  | .float x => x.number
  | .str s => encodable_ofString s
  | .uuid u => encodable_ofString _
  | .datetime t => encodable_ofString _
  | .enum _ value => encodable_ofString value
  | .mapping items => by
    rw [json_safe, json.Normal]
    refine ⟨?_, ?_⟩
    · have h := pairwise_byKey (safe_items items)
      rw [List.pairwise_map] at h
      rw [List.map_map, List.pairwise_map]
      exact h
    · rw [itemsNormal_iff]
      intro p hp
      obtain ⟨q, hq, rfl⟩ := List.mem_map.mp hp
      have hmem := mem_of_mem_byKey hq
      exact ⟨encodable_ofString _, normal_safe_items items q hmem⟩
  | .list items | .tuple items => by
    rw [json_safe, json.Normal, allNormal_iff]
    exact normal_safe_list items
  | .set items => by
    rw [json_safe, json.Normal, allNormal_iff]
    intro v hv
    obtain ⟨s, -, rfl⟩ := List.mem_map.mp hv
    exact encodable_ofString s
  | .bytes data => encodable_ofString _
  | .other text => encodable_ofString text

theorem normal_safe_list : (items : List (Component Uuid)) → ∀ v ∈ safe_list items, Normal v
  | [], _, hmem => by cases hmem
  | x :: rest, v, hmem => by
    rw [safe_list] at hmem
    rcases List.mem_cons.mp hmem with heq | hmem
    · exact heq ▸ normal_json_safe x
    · exact normal_safe_list rest v hmem

theorem normal_safe_items : (items : List (Key × Component Uuid)) →
    ∀ p ∈ safe_items items, Normal p.2
  | [], _, hmem => by cases hmem
  | (key, x) :: rest, p, hmem => by
    rw [safe_items] at hmem
    rcases List.mem_cons.mp hmem with heq | hmem
    · exact heq ▸ normal_json_safe x
    · exact normal_safe_items rest p hmem

end

/-! ## The projection as a component -/

mutual

/-- The component that is JSON and has the same projection. -/
def plain : Component Uuid → Component Uuid
  | .uuid u => .str (Stdlib.str u)
  | .datetime t => .str (Stdlib.isoformat Uuid t)
  | .enum _ value => .str value
  | .mapping items => .mapping ((byKey (plain_items items)).map fun p => (⟨p.1, true⟩, p.2))
  | .list items => .list (plain_list items)
  | .tuple items => .list (plain_list items)
  | .set items => .list ((sortStrings items).map .str)
  | .bytes data => .str (hex data)
  | .other text => .str text
  | v => v

def plain_list : List (Component Uuid) → List (Component Uuid)
  | [] => []
  | v :: rest => plain v :: plain_list rest

def plain_items : List (Key × Component Uuid) → List (String × Component Uuid)
  | [] => []
  | (key, v) :: rest => (key.text, plain v) :: plain_items rest

end

theorem safe_items_plain {items : List (String × Component Uuid)} :
    safe_items (items.map fun p => ((⟨p.1, true⟩ : Key), p.2)) =
      items.map fun p => (p.1, json_safe p.2) := by
  rw [safe_items_eq_map, List.map_map]
  rfl

theorem byKey_byKey {V : Type} (items : List (String × V)) : byKey (byKey items) = byKey items :=
  byKey_eq_self (nodup_byKey items) (pairwise_byKey items)

mutual

theorem json_safe_plain : (v : Component Uuid) → json_safe (plain v) = json_safe v
  | .null => rfl
  | .bool _ => rfl
  | .int _ => rfl
  | .float _ => rfl
  | .str _ => rfl
  | .uuid _ => rfl
  | .datetime _ => rfl
  | .enum _ _ => rfl
  | .mapping items => by
    rw [plain, json_safe, json_safe, safe_items_plain, byKey_map, byKey_byKey, ← byKey_map,
      safe_items_of_plain items]
  | .list items => by rw [plain, json_safe, json_safe, safe_list_plain items]
  | .tuple items => by rw [plain, json_safe, json_safe, safe_list_plain items]
  | .set items => by
    rw [plain, json_safe, json_safe, safe_list_eq_map, List.map_map]
    rfl
  | .bytes _ => rfl
  | .other _ => rfl

theorem safe_list_plain : (items : List (Component Uuid)) →
    safe_list (plain_list items) = safe_list items
  | [] => rfl
  | v :: rest => by
    rw [plain_list, safe_list, safe_list, json_safe_plain v, safe_list_plain rest]

theorem safe_items_of_plain : (items : List (Key × Component Uuid)) →
    ((plain_items items).map fun p => (p.1, json_safe p.2)) = safe_items items
  | [] => rfl
  | (key, v) :: rest => by
    rw [plain_items, List.map_cons, safe_items, json_safe_plain v, safe_items_of_plain rest]

end

mutual

theorem exact_plain : (v : Component Uuid) → Exact (plain v) ∧ Ordered (plain v)
  | .null => ⟨trivial, trivial⟩
  | .bool _ => ⟨trivial, trivial⟩
  | .int _ => ⟨trivial, trivial⟩
  | .float _ => ⟨trivial, trivial⟩
  | .str _ => ⟨trivial, trivial⟩
  | .uuid _ => ⟨trivial, trivial⟩
  | .datetime _ => ⟨trivial, trivial⟩
  | .enum _ _ => ⟨trivial, trivial⟩
  | .mapping items => by
    have hitems := exact_plain_items items
    rw [plain, Exact, Ordered, itemsExact_iff, itemsOrdered_iff]
    refine ⟨?_, ?_, ?_, ?_⟩
    · intro p hp
      obtain ⟨q, hq, rfl⟩ := List.mem_map.mp hp
      exact ⟨rfl, (hitems q (mem_of_mem_byKey hq)).1⟩
    · have hd := nodup_byKey (plain_items items)
      have hinj : Function.Injective fun s : String => (⟨s, true⟩ : Key) :=
        fun s t h => congrArg Key.text h
      have hmap := hd.map hinj
      rwa [List.map_map] at hmap ⊢
    · have hs := pairwise_byKey (plain_items items)
      rw [List.map_map]
      exact hs
    · intro p hp
      obtain ⟨q, hq, rfl⟩ := List.mem_map.mp hp
      exact (hitems q (mem_of_mem_byKey hq)).2
  | .list items | .tuple items => by
    rw [plain, Exact, Ordered, allExact_iff, allOrdered_iff]
    exact ⟨fun v hv => (exact_plain_list items v hv).1, fun v hv => (exact_plain_list items v hv).2⟩
  | .set items => by
    rw [plain, Exact, Ordered, allExact_iff, allOrdered_iff]
    constructor
    · intro v hv
      obtain ⟨s, -, rfl⟩ := List.mem_map.mp hv
      trivial
    · intro v hv
      obtain ⟨s, -, rfl⟩ := List.mem_map.mp hv
      trivial
  | .bytes _ => ⟨trivial, trivial⟩
  | .other _ => ⟨trivial, trivial⟩

theorem exact_plain_list : (items : List (Component Uuid)) →
    ∀ v ∈ plain_list items, Exact v ∧ Ordered v
  | [], _, hmem => by cases hmem
  | x :: rest, v, hmem => by
    rw [plain_list] at hmem
    rcases List.mem_cons.mp hmem with heq | hmem
    · exact heq ▸ exact_plain x
    · exact exact_plain_list rest v hmem

theorem exact_plain_items : (items : List (Key × Component Uuid)) →
    ∀ p ∈ plain_items items, Exact p.2 ∧ Ordered p.2
  | [], _, hmem => by cases hmem
  | (key, x) :: rest, p, hmem => by
    rw [plain_items] at hmem
    rcases List.mem_cons.mp hmem with heq | hmem
    · exact heq ▸ exact_plain x
    · exact exact_plain_items rest p hmem

end

/-! ## JSON comes through -/

theorem map_inj_of {α β γ : Type*} {f : α → γ} {g : β → γ} {xs : List α} {ys : List β}
    {R : α → β → Prop} (h : ∀ x ∈ xs, ∀ y ∈ ys, f x = g y → R x y) (heq : xs.map f = ys.map g) :
    List.Forall₂ R xs ys := by
  induction xs generalizing ys with
  | nil =>
    cases ys with
    | nil => exact List.Forall₂.nil
    | cons y ys => cases heq
  | cons x xs ih =>
    cases ys with
    | nil => cases heq
    | cons y ys =>
      simp only [List.map_cons, List.cons.injEq] at heq
      exact List.Forall₂.cons (h x List.mem_cons_self y List.mem_cons_self heq.1)
        (ih (fun x hx y hy => h x (List.mem_cons_of_mem _ hx) y (List.mem_cons_of_mem _ hy)) heq.2)

def Told (v : Component Uuid) : Prop :=
  ∀ w : Component Uuid, Exact w → Ordered w → json_safe v = json_safe w → v = w

variable {items : List (Key × Component Uuid)}

theorem byKey_safe_items (hexact : Exact (.mapping items)) (hordered : Ordered (.mapping items)) :
    byKey (safe_items items) = safe_items items := by
  rw [Exact, itemsExact_iff] at hexact
  rw [Ordered] at hordered
  rw [safe_items_eq_map]
  apply byKey_eq_self
  · rw [List.map_map]
    have hinj : ∀ p ∈ items, ∀ q ∈ items, p.1.text = q.1.text → p.1 = q.1 := by
      intro p hp q hq h
      obtain ⟨hp, -⟩ := hexact p hp
      obtain ⟨hq, -⟩ := hexact q hq
      cases hk : p.1
      cases hk' : q.1
      simp_all
    have hnodup : items.Nodup := List.Nodup.of_map _ hordered.1
    have hd := hordered.1
    rw [List.nodup_map_iff_inj_on hnodup] at hd ⊢
    exact fun p hp q hq h => hd p hp q hq (hinj p hp q hq h)
  · rw [List.map_map]
    exact hordered.2.1

theorem told_list {items : List (Component Uuid)} (h : ∀ v ∈ items, Told v) :
    Told (.list items) := by
  intro w hexact hordered hsafe
  cases w with
  | list items' =>
    rw [Exact, allExact_iff] at hexact
    rw [Ordered, allOrdered_iff] at hordered
    simp only [json_safe, safe_list_eq_map, Json.list.injEq] at hsafe
    have hall : List.Forall₂ (· = ·) items items' :=
      map_inj_of (fun v hv w hw hvw => h v hv w (hexact w hw) (hordered w hw) hvw) hsafe
    rw [List.forall₂_eq_eq_eq] at hall
    rw [hall]
  | _ => first | exact False.elim hexact | exact absurd hsafe (by simp [json_safe])

theorem told_mapping (hexact : Exact (.mapping items)) (hordered : Ordered (.mapping items))
    (h : ∀ p ∈ items, Told p.2) : Told (.mapping items) := by
  intro w hexact' hordered' hsafe
  cases w with
  | mapping items' =>
    simp only [json_safe, byKey_safe_items hexact hordered, byKey_safe_items hexact' hordered',
      Json.dict.injEq] at hsafe
    rw [safe_items_eq_map, safe_items_eq_map, List.map_map, List.map_map] at hsafe
    rw [Exact, itemsExact_iff] at hexact hexact'
    rw [Ordered, itemsOrdered_iff] at hordered'
    have hall : List.Forall₂ (· = ·) items items' := by
      refine map_inj_of (fun p hp q hq hpq => ?_) hsafe
      simp only [Function.comp, Prod.mk.injEq] at hpq
      have hkey : p.1 = q.1 := by
        have htext := ofString_injective hpq.1
        have hp := (hexact p hp).1
        have hq := (hexact' q hq).1
        cases hk : p.1
        cases hk' : q.1
        simp_all
      exact Prod.ext hkey (h p hp q.2 (hexact' q hq).2 (hordered'.2.2 q hq) hpq.2)
    rw [List.forall₂_eq_eq_eq] at hall
    rw [hall]
  | _ => first | exact False.elim hexact' | exact absurd hsafe (by simp [json_safe])

theorem float_ne_int {x : FloatLiteral} (h : x.text = intLiteral i) : False := by
  obtain ⟨c, hc, hminus, hdigit⟩ := x.not_int
  rw [h] at hc
  have hmem := mem_intLiteral hc
  simp only [isDigit, Bool.and_eq_false_iff, decide_eq_false_iff_not] at hdigit
  omega

theorem FloatLiteral.text_inj {x y : FloatLiteral} (h : x.text = y.text) : x = y := by
  cases x
  cases y
  cases h
  rfl

theorem told_number_int (i : Int) : Told (.int i : Component Uuid) := by
  intro w hexact _ hsafe
  cases w with
  | int j =>
    simp only [json_safe, Json.num.injEq] at hsafe
    rw [intLiteral_inj hsafe]
  | float x =>
    simp only [json_safe, Json.num.injEq] at hsafe
    exact (float_ne_int hsafe.symm).elim
  | _ => first | exact False.elim hexact | exact absurd hsafe (by simp [json_safe])

theorem told_number_float (x : FloatLiteral) : Told (.float x : Component Uuid) := by
  intro w hexact _ hsafe
  cases w with
  | int j =>
    simp only [json_safe, Json.num.injEq] at hsafe
    exact (float_ne_int hsafe).elim
  | float y =>
    simp only [json_safe, Json.num.injEq] at hsafe
    rw [FloatLiteral.text_inj hsafe]
  | _ => first | exact False.elim hexact | exact absurd hsafe (by simp [json_safe])

theorem told_str (s : String) : Told (.str s : Component Uuid) := by
  intro w hexact _ hsafe
  cases w with
  | str t =>
    simp only [json_safe, Json.str.injEq] at hsafe
    rw [ofString_injective hsafe]
  | _ => first | exact False.elim hexact | exact absurd hsafe (by simp [json_safe])

theorem told_constant : Told (.null : Component Uuid) ∧ ∀ b, Told (.bool b : Component Uuid) := by
  constructor
  · intro w hexact _ hsafe
    cases w with
    | null => rfl
    | _ => first | exact False.elim hexact | exact absurd hsafe (by simp [json_safe])
  · intro b w hexact _ hsafe
    cases w with
    | bool c =>
      simp only [json_safe, Json.bool.injEq] at hsafe
      rw [hsafe]
    | _ => first | exact False.elim hexact | exact absurd hsafe (by simp [json_safe])

mutual

theorem told : (v : Component Uuid) → Exact v → Ordered v → Told v
  | .null, _, _ => told_constant.1
  | .bool b, _, _ => told_constant.2 b
  | .int i, _, _ => told_number_int i
  | .float x, _, _ => told_number_float x
  | .str s, _, _ => told_str s
  | .list items, hexact, hordered => by
    rw [Exact] at hexact
    rw [Ordered] at hordered
    exact told_list (told_all items hexact hordered)
  | .mapping items, hexact, hordered => by
    refine told_mapping hexact hordered (told_items items ?_ ?_)
    · rwa [Exact] at hexact
    · rw [Ordered] at hordered
      exact hordered.2.2
  | .uuid _, hexact, _ => hexact.elim
  | .datetime _, hexact, _ => hexact.elim
  | .enum _ _, hexact, _ => hexact.elim
  | .tuple _, hexact, _ => hexact.elim
  | .set _, hexact, _ => hexact.elim
  | .bytes _, hexact, _ => hexact.elim
  | .other _, hexact, _ => hexact.elim

theorem told_all : (items : List (Component Uuid)) → AllExact items → AllOrdered items →
    ∀ v ∈ items, Told v
  | [], _, _, _, hmem => by cases hmem
  | x :: rest, hexact, hordered, v, hmem => by
    rw [AllExact] at hexact
    rw [AllOrdered] at hordered
    rcases List.mem_cons.mp hmem with heq | hmem
    · exact heq ▸ told x hexact.1 hordered.1
    · exact told_all rest hexact.2 hordered.2 v hmem

theorem told_items : (items : List (Key × Component Uuid)) → ItemsExact items →
    ItemsOrdered items → ∀ p ∈ items, Told p.2
  | [], _, _, _, hmem => by cases hmem
  | (key, x) :: rest, hexact, hordered, p, hmem => by
    rw [ItemsExact] at hexact
    rw [ItemsOrdered] at hordered
    rcases List.mem_cons.mp hmem with heq | hmem
    · exact heq ▸ told x hexact.2.1 hordered.1
    · exact told_items rest hexact.2.2 hordered.2 p hmem

end

/-! ## Keys -/

/-- `uuid5` tells a namespace and a seed from all others. -/
class SeedsApart (Uuid : Type) [Stdlib Uuid] : Prop extends LawfulStdlib Uuid where
  uuid5_apart : ∀ {ns ns' : Uuid} {a b : String},
    Stdlib.uuid5 ns a = Stdlib.uuid5 ns' b → ns = ns' ∧ a = b

@[ext] structure RuntimeKey (Uuid : Type) where
  name_space : Uuid
  tenant_id : Option String
  seed_components : List (Component Uuid)
  ordered : ∀ v ∈ seed_components, Ordered v

namespace RuntimeKey

def id (key : RuntimeKey Uuid) : Uuid :=
  derive_runtime_id key.name_space key.tenant_id key.seed_components

def IsJson (key : RuntimeKey Uuid) : Prop := ∀ v ∈ key.seed_components, Exact v

end RuntimeKey

theorem normal_seedObject (tenant_id : Option String) (components : List (Component Uuid)) :
    Normal (seedObject tenant_id components) := by
  rw [seedObject, json.Normal, itemsNormal_iff]
  have hkeys : [ofString "seed_components", ofString "tenant_id"].Pairwise
      fun a b => textLe a b = true := by
    decide
  refine ⟨hkeys, ?_⟩
  intro p hp
  simp only [List.mem_cons, List.not_mem_nil, or_false] at hp
  rcases hp with rfl | rfl
  · refine ⟨encodable_ofString _, ?_⟩
    rw [json.Normal, allNormal_iff]
    exact normal_safe_list components
  · exact ⟨encodable_ofString _, encodable_ofString _⟩

namespace RuntimeKey

theorem id_eq_id_iff [SeedsApart Uuid] (x y : RuntimeKey Uuid) :
    x.id = y.id ↔ x.name_space = y.name_space ∧
      x.tenant_id.getD "" = y.tenant_id.getD "" ∧
      x.seed_components.map json_safe = y.seed_components.map json_safe := by
  unfold id derive_runtime_id
  constructor
  · intro h
    obtain ⟨hns, hseed⟩ := SeedsApart.uuid5_apart h
    have hobject := asciiString_write_inj (normal_seedObject _ _) (normal_seedObject _ _) hseed
    simp only [seedObject, safe_list_eq_map, Json.dict.injEq, List.cons.injEq, Prod.mk.injEq,
      Json.list.injEq, Json.str.injEq, true_and, and_true] at hobject
    exact ⟨hns, ofString_injective hobject.2, hobject.1⟩
  · rintro ⟨hns, htenant, hcomponents⟩
    rw [hns, seedObject, seedObject, htenant, safe_list_eq_map, safe_list_eq_map, hcomponents]

def plain (key : RuntimeKey Uuid) (tenant_id : Option String) : RuntimeKey Uuid where
  name_space := key.name_space
  tenant_id
  seed_components := plain_list key.seed_components
  ordered v hv := (exact_plain_list _ v hv).2

theorem isJson_plain (key : RuntimeKey Uuid) (tenant_id : Option String) :
    (key.plain tenant_id).IsJson :=
  fun v hv => (exact_plain_list _ v hv).1

theorem id_plain [SeedsApart Uuid] (key : RuntimeKey Uuid) {tenant_id : Option String}
    (h : tenant_id.getD "" = key.tenant_id.getD "") : (key.plain tenant_id).id = key.id := by
  refine (id_eq_id_iff _ _).mpr ⟨rfl, h, ?_⟩
  rw [← safe_list_eq_map, ← safe_list_eq_map]
  exact safe_list_plain key.seed_components

theorem alone_iff [SeedsApart Uuid] (x : RuntimeKey Uuid) :
    (∀ y : RuntimeKey Uuid, y.IsJson → y.id = x.id → y = x) ↔
      (x.tenant_id ≠ none ∧ x.tenant_id ≠ some "") ∧ x.IsJson := by
  constructor
  · intro h
    have hsame : ∀ tenant_id : Option String, tenant_id.getD "" = x.tenant_id.getD "" →
        x.plain tenant_id = x := fun tenant_id ht =>
      h (x.plain tenant_id) (x.isJson_plain tenant_id) (x.id_plain ht)
    refine ⟨⟨?_, ?_⟩, ?_⟩
    · intro hnone
      have htenant := congrArg RuntimeKey.tenant_id (hsame (some "") (by rw [hnone]; rfl))
      rw [hnone] at htenant
      cases htenant
    · intro hempty
      have htenant := congrArg RuntimeKey.tenant_id (hsame none (by rw [hempty]; rfl))
      rw [hempty] at htenant
      cases htenant
    · rw [← hsame x.tenant_id rfl]
      exact x.isJson_plain x.tenant_id
  · rintro ⟨⟨hmissing, hempty⟩, hjson⟩ y hy hid
    obtain ⟨hns, htenant, hcomponents⟩ := (id_eq_id_iff y x).mp hid
    have hall : List.Forall₂ (· = ·) y.seed_components x.seed_components :=
      map_inj_of (fun v hv w hw hvw => told v (hy v hv) (y.ordered v hv) w (hjson w hw)
        (x.ordered w hw) hvw) hcomponents
    rw [List.forall₂_eq_eq_eq] at hall
    refine RuntimeKey.ext hns ?_ hall
    cases hx : x.tenant_id with
    | none => exact absurd hx hmissing
    | some t =>
      have ht : t ≠ "" := fun h => hempty (by rw [hx, h])
      cases hyt : y.tenant_id with
      | none =>
        rw [hx, hyt] at htenant
        exact absurd htenant.symm ht
      | some s =>
        rw [hx, hyt] at htenant
        exact congrArg some htenant

end RuntimeKey

end operious.identity
