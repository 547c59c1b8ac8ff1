-- Which strings of an object are left in clear. The key is in hand where an item is a string
-- itself, but the elements of a list are encrypted without it.
import Operious.DataProtection.RoundTrip

namespace operious.data_protection

open utf8 json effects

/-! ## Where a string stands -/

/-- A string under a sensitive key, as an element of a list under one, or anywhere else. -/
inductive Place
  | plain
  | listed
  | direct
deriving DecidableEq

def Place.under (key : Text) : Place :=
  if sensitiveJsonKeys.contains key then .direct else .plain

def Place.inList : Place → Place
  | .plain => .plain
  | _ => .listed

theorem inList_ne_direct (p : Place) : p.inList ≠ .direct := by
  cases p <;> decide

mutual

/-- What `P` says of every string of the value and of its place. -/
def Strings (P : Place → Text → Prop) (place : Place) : Json → Prop
  | .str t => P place t
  | .list xs => StringsElements P place.inList xs
  | .dict items => StringsItems P items
  | _ => True

def StringsItems (P : Place → Text → Prop) : List (Text × Json) → Prop
  | [] => True
  | (key, item) :: rest => Strings P (.under key) item ∧ StringsItems P rest

def StringsElements (P : Place → Text → Prop) (place : Place) : List Json → Prop
  | [] => True
  | x :: xs => Strings P place x ∧ StringsElements P place xs

end

mutual

/-- Two values of one shape: `S` relates every string of the first, by its place, to what stands
in the same position of the second. -/
def Matches (S : Place → Text → Json → Prop) (place : Place) : Json → Json → Prop
  | .str t, y => S place t y
  | .list xs, .list ys => MatchesElements S place.inList xs ys
  | .dict items, .dict items' => MatchesItems S items items'
  | .null, .null => True
  | .bool b, .bool c => b = c
  | .num l, .num m => l = m
  | _, _ => False

def MatchesItems (S : Place → Text → Json → Prop) :
    List (Text × Json) → List (Text × Json) → Prop
  | [], [] => True
  | (key, x) :: rest, (key', y) :: rest' =>
    key = key' ∧ Matches S (.under key) x y ∧ MatchesItems S rest rest'
  | _, _ => False

def MatchesElements (S : Place → Text → Json → Prop) (place : Place) :
    List Json → List Json → Prop
  | [], [] => True
  | x :: xs, y :: ys => Matches S place x y ∧ MatchesElements S place xs ys
  | _, _ => False

end

mutual

/-- Equal outside encryption markers. -/
def Masked : Json → Json → Prop
  | .dict items, .dict items' =>
    (isJsonMarker items = true ∧ isJsonMarker items' = true) ∨ MaskedItems items items'
  | .list xs, .list ys => MaskedElements xs ys
  | x, y => x = y

def MaskedItems : List (Text × Json) → List (Text × Json) → Prop
  | [], [] => True
  | (key, x) :: rest, (key', y) :: rest' => key = key' ∧ Masked x y ∧ MaskedItems rest rest'
  | _, _ => False

def MaskedElements : List Json → List Json → Prop
  | [], [] => True
  | x :: xs, y :: ys => Masked x y ∧ MaskedElements xs ys
  | _, _ => False

end

def IsMarker (x : Json) : Prop := ∃ items, x = .dict items ∧ isJsonMarker items = true

/-- Two inputs that differ only in sensitive strings, of equal length. -/
def AlikeAt (place : Place) (t : Text) (y : Json) : Prop :=
  ∃ u, y = .str u ∧ (place = .plain → u = t) ∧ u.length = t.length

/-- No sensitive string is left in clear: a marker stands in its position. -/
def CoveredAt (place : Place) (_ : Text) (y : Json) : Prop := place ≠ .plain → IsMarker y

def EncryptedAt (place : Place) (t : Text) (y : Json) : Prop :=
  if place = .direct then IsMarker y else y = .str t

/-- No string stands in a list under a sensitive key. -/
def Unlisted (place : Place) (_ : Text) : Prop := place ≠ .listed

/-! ## Rules of the two relations -/

mutual

theorem Matches.imp {P : Place → Text → Prop} {S S' : Place → Text → Json → Prop}
    (h : ∀ p t y, P p t → S p t y → S' p t y) {place : Place} :
    ∀ {x y : Json}, Strings P place x → Matches S place x y → Matches S' place x y
  | .str t, y, hx, hy => by
    rw [Strings] at hx
    rw [Matches] at hy ⊢
    exact h _ _ _ hx hy
  | .list xs, .list ys, hx, hy => by
    rw [Strings] at hx
    rw [Matches] at hy ⊢
    exact MatchesElements.imp h hx hy
  | .dict items, .dict items', hx, hy => by
    rw [Strings] at hx
    rw [Matches] at hy ⊢
    exact MatchesItems.imp h hx hy
  | .null, .null, _, _ => by simp only [Matches]
  | .bool b, .bool c, _, hy => by simpa only [Matches] using hy
  | .num l, .num m, _, hy => by simpa only [Matches] using hy

theorem MatchesItems.imp {P : Place → Text → Prop} {S S' : Place → Text → Json → Prop}
    (h : ∀ p t y, P p t → S p t y → S' p t y) :
    ∀ {items items' : List (Text × Json)}, StringsItems P items → MatchesItems S items items' →
      MatchesItems S' items items'
  | [], [], _, _ => by simp only [MatchesItems]
  | (key, x) :: rest, (key', y) :: rest', hx, hy => by
    rw [StringsItems] at hx
    rw [MatchesItems] at hy ⊢
    exact ⟨hy.1, Matches.imp h hx.1 hy.2.1, MatchesItems.imp h hx.2 hy.2.2⟩

theorem MatchesElements.imp {P : Place → Text → Prop} {S S' : Place → Text → Json → Prop}
    (h : ∀ p t y, P p t → S p t y → S' p t y) {place : Place} :
    ∀ {xs ys : List Json}, StringsElements P place xs → MatchesElements S place xs ys →
      MatchesElements S' place xs ys
  | [], [], _, _ => by simp only [MatchesElements]
  | x :: xs, y :: ys, hx, hy => by
    rw [StringsElements] at hx
    rw [MatchesElements] at hy ⊢
    exact ⟨Matches.imp h hx.1 hy.1, MatchesElements.imp h hx.2 hy.2⟩

end

mutual

theorem Matches.strings {P : Place → Text → Prop} {S S' : Place → Text → Json → Prop}
    (h : ∀ p t y, S p t y → S' p t y → P p t) {place : Place} :
    ∀ {x y : Json}, Matches S place x y → Matches S' place x y → Strings P place x
  | .str t, y, hx, hy => by
    rw [Matches] at hx hy
    rw [Strings]
    exact h _ _ _ hx hy
  | .list xs, .list ys, hx, hy => by
    rw [Matches] at hx hy
    rw [Strings]
    exact MatchesElements.strings h hx hy
  | .dict items, .dict items', hx, hy => by
    rw [Matches] at hx hy
    rw [Strings]
    exact MatchesItems.strings h hx hy
  | .null, _, _, _ => by simp only [Strings]
  | .bool b, _, _, _ => by simp only [Strings]
  | .num l, _, _, _ => by simp only [Strings]

theorem MatchesItems.strings {P : Place → Text → Prop} {S S' : Place → Text → Json → Prop}
    (h : ∀ p t y, S p t y → S' p t y → P p t) :
    ∀ {items items' : List (Text × Json)}, MatchesItems S items items' →
      MatchesItems S' items items' → StringsItems P items
  | [], _, _, _ => by simp only [StringsItems]
  | (key, x) :: rest, (key', y) :: rest', hx, hy => by
    rw [MatchesItems] at hx hy
    rw [StringsItems]
    exact ⟨Matches.strings h hx.2.1 hy.2.1, MatchesItems.strings h hx.2.2 hy.2.2⟩

theorem MatchesElements.strings {P : Place → Text → Prop} {S S' : Place → Text → Json → Prop}
    (h : ∀ p t y, S p t y → S' p t y → P p t) {place : Place} :
    ∀ {xs ys : List Json}, MatchesElements S place xs ys → MatchesElements S' place xs ys →
      StringsElements P place xs
  | [], _, _, _ => by simp only [StringsElements]
  | x :: xs, y :: ys, hx, hy => by
    rw [MatchesElements] at hx hy
    rw [StringsElements]
    exact ⟨Matches.strings h hx.1 hy.1, MatchesElements.strings h hx.2 hy.2⟩

end

mutual

/-- Alike inputs without a listed secret have outputs that are equal outside markers. -/
theorem masked_of_alike {place : Place} :
    ∀ {v w out out' : Json}, Strings Unlisted place v → Matches AlikeAt place v w →
      Matches EncryptedAt place v out → Matches EncryptedAt place w out' → Masked out out'
  | .str t, w, out, out', hplace, halike, hout, hout' => by
    rw [Strings, Unlisted] at hplace
    rw [Matches] at halike hout
    obtain ⟨u, rfl, hplain, -⟩ := halike
    rw [Matches] at hout'
    unfold EncryptedAt at hout hout'
    split at hout
    · rename_i hdirect
      rw [if_pos hdirect] at hout'
      obtain ⟨m, rfl, hm⟩ := hout
      obtain ⟨m', rfl, hm'⟩ := hout'
      rw [Masked]
      exact .inl ⟨hm, hm'⟩
    · rename_i hdirect
      rw [if_neg hdirect] at hout'
      have hp : place = .plain := by
        cases place with
        | plain => rfl
        | listed => exact absurd rfl hplace
        | direct => exact absurd rfl hdirect
      rw [hout, hout', hplain hp]
      simp only [Masked]
  | .list xs, .list ys, .list out, .list out', hplace, halike, hout, hout' => by
    rw [Strings] at hplace
    rw [Matches] at halike hout hout'
    rw [Masked]
    exact maskedElements_of_alike hplace halike hout hout'
  | .dict items, .dict items', .dict out, .dict out', hplace, halike, hout, hout' => by
    rw [Strings] at hplace
    rw [Matches] at halike hout hout'
    rw [Masked]
    exact .inr (maskedItems_of_alike hplace halike hout hout')
  | .null, .null, .null, .null, _, _, _, _ => by simp only [Masked]
  | .bool _, .bool _, .bool _, .bool _, _, halike, hout, hout'
  | .num _, .num _, .num _, .num _, _, halike, hout, hout' => by
    rw [Matches] at halike hout hout'
    simp only [Masked, ← hout, ← hout', halike]

theorem maskedItems_of_alike :
    ∀ {v w out out' : List (Text × Json)}, StringsItems Unlisted v → MatchesItems AlikeAt v w →
      MatchesItems EncryptedAt v out → MatchesItems EncryptedAt w out' → MaskedItems out out'
  | [], [], [], [], _, _, _, _ => by simp only [MaskedItems]
  | (_, _) :: _, (_, _) :: _, (_, _) :: _, (_, _) :: _, hplace, halike, hout, hout' => by
    rw [StringsItems] at hplace
    rw [MatchesItems] at halike hout hout'
    obtain ⟨rfl, halike, hrest⟩ := halike
    rw [MaskedItems]
    exact ⟨hout.1.symm.trans hout'.1, masked_of_alike hplace.1 halike hout.2.1 hout'.2.1,
      maskedItems_of_alike hplace.2 hrest hout.2.2 hout'.2.2⟩

theorem maskedElements_of_alike {place : Place} :
    ∀ {v w out out' : List Json}, StringsElements Unlisted place v →
      MatchesElements AlikeAt place v w → MatchesElements EncryptedAt place v out →
      MatchesElements EncryptedAt place w out' → MaskedElements out out'
  | [], [], [], [], _, _, _, _ => by simp only [MaskedElements]
  | _ :: _, _ :: _, _ :: _, _ :: _, hplace, halike, hout, hout' => by
    rw [StringsElements] at hplace
    rw [MatchesElements] at halike hout hout'
    rw [MaskedElements]
    exact ⟨masked_of_alike hplace.1 halike.1 hout.1 hout'.1,
      maskedElements_of_alike hplace.2 halike.2 hout.2 hout'.2⟩

end

/-! ## What a run of the encryption does with each string -/

section

variable {Uuid : Type} [Stdlib Uuid] [Platform Uuid] {k : DataKey Uuid}

theorem isJsonMarker_of_encryptMarker {plaintext : Bytes} {field : Text}
    {marker : List (Text × Text)} {svc svc' : DataProtectionService Uuid}
    (h : run (encryptMarker plaintext k field) svc = (.ok marker, svc')) :
    isJsonMarker (markerItems marker) = true := by
  rw [encryptMarker] at h
  obtain ⟨nonce, svc1, -, h⟩ := run_bind_eq_ok.mp h
  obtain ⟨aad, svc2, -, h⟩ := run_bind_eq_ok.mp h
  obtain ⟨ciphertext, svc3, -, h⟩ := run_bind_eq_ok.mp h
  rw [run_pure] at h
  cases h
  simp [isJsonMarker, markerItems, Dict.find, isMarkerVersion]

mutual

theorem encryptJsonMapping_matches {field : Text} :
    ∀ {items out : List (Text × Json)} {svc svc' : DataProtectionService Uuid},
      run (encryptJsonMapping k field items) svc = (.ok out, svc') →
        MatchesItems EncryptedAt items out
  | [], out, svc, svc', h => by
    rw [encryptJsonMapping, run_pure] at h
    cases h
    simp only [MatchesItems]
  | (key, item) :: rest, out, svc, svc', h => by
    rw [encryptJsonMapping] at h
    obtain ⟨y, svc1, hitem, h⟩ := run_bind_eq_ok.mp h
    obtain ⟨ys, svc2, hrest, h⟩ := run_bind_eq_ok.mp h
    rw [run_pure] at h
    cases h
    rw [MatchesItems]
    exact ⟨rfl, encryptJsonItem_matches hitem, encryptJsonMapping_matches hrest⟩
termination_by structural items => items

theorem encryptJsonItem_matches {field key : Text} :
    ∀ {item out : Json} {svc svc' : DataProtectionService Uuid},
      run (encryptJsonItem k field key item) svc = (.ok out, svc') →
        Matches EncryptedAt (.under key) item out
  | .str t, out, svc, svc', h => by
    rw [encryptJsonItem] at h
    rw [Matches, Place.under]
    split at h
    · rename_i hkey
      obtain ⟨plaintext, svc1, -, h⟩ := run_bind_eq_ok.mp h
      obtain ⟨marker, svc2, hmarker, h⟩ := run_bind_eq_ok.mp h
      rw [run_pure] at h
      cases h
      rw [if_pos (List.contains_iff_mem.mpr hkey), EncryptedAt, if_pos rfl]
      exact ⟨_, rfl, isJsonMarker_of_encryptMarker hmarker⟩
    · rename_i hkey
      rw [run_pure] at h
      cases h
      rw [if_neg (mt List.contains_iff_mem.mp hkey), EncryptedAt, if_neg (by decide)]
  | .dict items, out, svc, svc', h => by
    rw [encryptJsonItem] at h
    obtain ⟨ys, svc1, hitems, h⟩ := run_bind_eq_ok.mp h
    rw [run_pure] at h
    cases h
    rw [Matches]
    exact encryptJsonMapping_matches hitems
  | .list xs, out, svc, svc', h => by
    rw [encryptJsonItem] at h
    obtain ⟨ys, svc1, hxs, h⟩ := run_bind_eq_ok.mp h
    rw [run_pure] at h
    cases h
    rw [Matches]
    exact encryptJsonElements_matches (inList_ne_direct _) hxs
  | .null, _, _, _, h => by
    cases h
    simp only [Matches]
  | .bool _, _, _, _, h => by
    cases h
    simp only [Matches]
  | .num _, _, _, _, h => by
    cases h
    simp only [Matches]
termination_by structural item => item

theorem encryptJsonValue_matches {field : Text} {place : Place} (hplace : place ≠ .direct) :
    ∀ {x out : Json} {svc svc' : DataProtectionService Uuid},
      run (encryptJsonValue k field x) svc = (.ok out, svc') → Matches EncryptedAt place x out
  | .dict items, out, svc, svc', h => by
    rw [encryptJsonValue] at h
    obtain ⟨ys, svc1, hitems, h⟩ := run_bind_eq_ok.mp h
    rw [run_pure] at h
    cases h
    rw [Matches]
    exact encryptJsonMapping_matches hitems
  | .list xs, out, svc, svc', h => by
    rw [encryptJsonValue] at h
    obtain ⟨ys, svc1, hxs, h⟩ := run_bind_eq_ok.mp h
    rw [run_pure] at h
    cases h
    rw [Matches]
    exact encryptJsonElements_matches (inList_ne_direct _) hxs
  | .str t, _, _, _, h => by
    cases h
    rw [Matches, EncryptedAt, if_neg hplace]
  | .null, _, _, _, h => by
    cases h
    simp only [Matches]
  | .bool _, _, _, _, h => by
    cases h
    simp only [Matches]
  | .num _, _, _, _, h => by
    cases h
    simp only [Matches]
termination_by structural item => item

theorem encryptJsonElements_matches {field : Text} {place : Place} (hplace : place ≠ .direct) :
    ∀ {xs out : List Json} {svc svc' : DataProtectionService Uuid},
      run (encryptJsonElements k field xs) svc = (.ok out, svc') →
        MatchesElements EncryptedAt place xs out
  | [], out, svc, svc', h => by
    rw [encryptJsonElements, run_pure] at h
    cases h
    simp only [MatchesElements]
  | x :: xs, out, svc, svc', h => by
    rw [encryptJsonElements] at h
    obtain ⟨y, svc1, hx, h⟩ := run_bind_eq_ok.mp h
    obtain ⟨ys, svc2, hxs, h⟩ := run_bind_eq_ok.mp h
    rw [run_pure] at h
    cases h
    rw [MatchesElements]
    exact ⟨encryptJsonValue_matches hplace hx, encryptJsonElements_matches hplace hxs⟩
termination_by structural xs => xs

end

variable [DecidableEq Uuid]

theorem encryptJsonValues_matches {value out : List (Text × Json)} {tenant_id : String}
    {subject_id : Option String} {field : Text} {tenant_scoped : Bool}
    {svc svc' : DataProtectionService Uuid}
    (h : run (encryptJsonValues value tenant_id subject_id field tenant_scoped) svc =
      (.ok out, svc')) : MatchesItems EncryptedAt value out := by
  rw [encryptJsonValues] at h
  obtain ⟨data_key, svc1, -, h⟩ := run_bind_eq_ok.mp h
  exact encryptJsonMapping_matches h

/-- What was written for `value` has a marker in the position of every sensitive string, and an
input that differs in such strings alone is written the same outside markers. -/
def Concealed (Uuid : Type) [Stdlib Uuid] [Platform Uuid] [DecidableEq Uuid]
    (value out : List (Text × Json)) : Prop :=
  MatchesItems CoveredAt value out ∧
    ∀ (value' out' : List (Text × Json)) (tenant_id : String) (subject_id : Option String)
      (field : Text) (tenant_scoped : Bool) (svc svc' : DataProtectionService Uuid),
      MatchesItems AlikeAt value value' →
      run (encryptJsonValues value' tenant_id subject_id field tenant_scoped) svc =
        (.ok out', svc') → MaskedItems out out'

/-- An object is concealed if and only if no string stands in a list, at any depth, that is the
value of a sensitive key. -/
theorem sensitive_strings_concealed_iff {value out : List (Text × Json)} {tenant_id : String}
    {subject_id : Option String} {field : Text} {tenant_scoped : Bool}
    {svc svc' : DataProtectionService Uuid}
    (h : run (encryptJsonValues value tenant_id subject_id field tenant_scoped) svc =
      (.ok out, svc')) : Concealed Uuid value out ↔ StringsItems Unlisted value := by
  have hout := encryptJsonValues_matches h
  constructor
  · rintro ⟨hcovered, -⟩
    refine MatchesItems.strings (fun p t y hc he hp => ?_) hcovered hout
    subst hp
    obtain ⟨m, hm, -⟩ := hc (by decide)
    rw [EncryptedAt, if_neg (by decide), hm] at he
    cases he
  · intro hplace
    refine ⟨MatchesItems.imp (fun p t y hp he hne => ?_) hplace hout, ?_⟩
    · cases p with
      | plain => exact absurd rfl hne
      | listed => exact absurd rfl hp
      | direct => exact he
    · intro value' out' _ _ _ _ _ _ halike hrun
      exact maskedItems_of_alike hplace halike hout (encryptJsonValues_matches hrun)

end

/-- A reply is concealed, with a list of tags beside it. -/
theorem a_reply_is_concealed :
    ∃ out svc', run (encryptJsonValues [(ofString "reply", .str (ofString "hi")),
        (ofString "tags", .list [.str (ofString "new")])] "acme" none (ofString "payload") true)
        sampleService = (.ok out, svc') ∧
      Concealed String [(ofString "reply", .str (ofString "hi")),
        (ofString "tags", .list [.str (ofString "new")])] out := by
  have hplain : PlainItems (ofString "payload") [(ofString "reply", .str (ofString "hi")),
      (ofString "tags", .list [.str (ofString "new")])] :=
    ⟨fun _ => ⟨encodable_ofString _, by decide⟩, ⟨trivial, trivial⟩, trivial⟩
  obtain ⟨out, svc', hrun, -⟩ := encryptJsonValues_ready sampleService_ready rfl hplain
  refine ⟨out, svc', hrun, (sensitive_strings_concealed_iff hrun).mpr ?_⟩
  simp only [StringsItems, Strings, StringsElements, Unlisted]
  decide

/-- The strings of a list under `body` are written as they are. -/
theorem a_listed_body_stays_in_clear :
    ∃ svc', run (encryptJsonValues [(ofString "body", .list [.str (ofString "secret")])] "acme"
        none (ofString "payload") true) sampleService =
        (.ok [(ofString "body", .list [.str (ofString "secret")])], svc') ∧
      ¬ Concealed String [(ofString "body", .list [.str (ofString "secret")])]
        [(ofString "body", .list [.str (ofString "secret")])] := by
  obtain ⟨k, svc', hkey, -⟩ := requireKey_ready sampleService_ready
  refine ⟨svc', ?_, ?_⟩
  · rw [encryptJsonValues, run_bind_ok hkey]
    rfl
  · rintro ⟨hcovered, -⟩
    simp only [MatchesItems, Matches, MatchesElements, CoveredAt] at hcovered
    obtain ⟨m, hm, -⟩ := hcovered.2.1.1 (by decide)
    cases hm

end operious.data_protection
