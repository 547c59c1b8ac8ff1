-- What was encrypted comes back while its key is present, unless the content looks encrypted
-- itself: a text or bytes with the prefix, or an object with the marker in it, at any depth.
import Operious.DataProtection.DataKeys

namespace operious.data_protection

open utf8 json effects

section

variable {Uuid : Type}

theorem decodeUtf8_encodeUtf8 {t : Text} (h : Encodable t) :
    ∃ b, encodeUtf8 t = .ok b ∧ decodeUtf8 b = .ok t := by
  obtain ⟨b, henc, hdec⟩ := decode_encode h
  exact ⟨b, by simp [encodeUtf8, henc], by simp [decodeUtf8, hdec]⟩

theorem isPrefixOf_append {α : Type} [BEq α] [LawfulBEq α] (p l : List α) :
    p.isPrefixOf (p ++ l) = true :=
  List.isPrefixOf_iff_prefix.mpr (List.prefix_append p l)

/-! ## One marker -/

/-- The object holds the fields of the marker. -/
def Carries (items : List (Text × Json)) (marker : List (Text × Text)) : Prop :=
  ∀ key t, Dict.find key marker = some t → Dict.find key items = some (.str t)

theorem carries_markerItems (marker : List (Text × Text)) : Carries (markerItems marker) marker := by
  intro key t h
  rw [markerItems, Dict.find_map_values, h]
  rfl

theorem carries_sorted {marker : List (Text × Text)} (hd : (marker.map Prod.fst).Nodup) :
    Carries ((sorted marker).map fun p => (p.1, .str p.2)) marker := by
  intro key t h
  rw [find_sorted hd, h]
  rfl

variable {svc : DataProtectionService Uuid} {subject_id : Option String} {tenant_scoped : Bool}
  {field : Text} {tenant_id : String}

section

variable [Stdlib Uuid] [Platform Uuid] [DecidableEq Uuid] [LawfulPlatform Uuid]

theorem encryptMarker_spec {k : DataKey Uuid} (hlen : k.key.length = dataKeyBytes)
    (hfield : Encodable field) (plaintext : Bytes) (svc : DataProtectionService Uuid) :
    ∃ marker, run (encryptMarker plaintext k field) svc = (.ok marker, svc.draw) ∧ marker ≠ [] ∧
      (∀ p ∈ marker, Encodable p.1 ∧ Encodable p.2) ∧ (marker.map Prod.fst).Nodup ∧
      ∀ items, Carries items marker → isJsonMarker items = true ∧
        ∀ later, Present later k → decryptMarker later (.dict items) = .ok plaintext := by
  have henc : Encodable (ofString ("opdp.payload.v1|" ++ Stdlib.str k.data_key_id ++ "|" ++
      k.tenant_id ++ "|" ++ k.scope.value ++ "|" ++ k.scope_id ++ "|") ++ field) :=
    encodable_append.mpr ⟨encodable_ofString _, hfield⟩
  obtain ⟨aad, haad, -⟩ := decodeUtf8_encodeUtf8 henc
  obtain ⟨ct, hct, hopen⟩ := @LawfulPlatform.seals Uuid _ _ _ _ _ plaintext aad hlen
    (@LawfulPlatform.urandom_length Uuid _ _ _ svc.drawn nonceBytes)
  have haad' : payloadAad k field = .ok aad := haad
  refine ⟨[(jsonMarker, jsonMarkerVersion), (ofString "kid", ofString (Stdlib.str k.data_key_id)),
    (ofString "f", field), (ofString "n", b64e (Platform.urandom Uuid svc.drawn nonceBytes)),
    (ofString "ct", b64e ct)], ?_, List.cons_ne_nil _ _, ?_, ?_, ?_⟩
  · simp only [encryptMarker, run_bind, run_urandom, run_lift, haad', hct, raised, run_pure]
  · simp only [List.forall_mem_cons]
    exact ⟨⟨encodable_ofString _, encodable_ofString _⟩,
      ⟨encodable_ofString _, encodable_ofString _⟩, ⟨encodable_ofString _, hfield⟩,
      ⟨encodable_ofString _, b64e_encodable _⟩, ⟨encodable_ofString _, b64e_encodable _⟩, by simp⟩
  · simp only [List.map_cons, List.map_nil]
    decide
  · intro items hitems
    have hmarker : isJsonMarker items = true := by
      have h := hitems jsonMarker jsonMarkerVersion (by rfl)
      simp [isJsonMarker, isMarkerVersion, h]
    refine ⟨hmarker, ?_⟩
    rintro later ⟨-, row, hrow, hid, hkey⟩
    have hkid := hitems (ofString "kid") _ (by rfl)
    have hf := hitems (ofString "f") _ (by rfl)
    have hn := hitems (ofString "n") _ (by rfl)
    have hc := hitems (ofString "ct") _ (by rfl)
    have hread : readMarker Uuid (.dict items) = some (k.data_key_id, field,
        Platform.urandom Uuid svc.drawn nonceBytes, ct) := by
      simp only [readMarker, textAt, hkid, hf, hn, hc, Option.map_some, Option.bind_eq_bind,
        Option.bind_some, LawfulPlatform.str_text, LawfulPlatform.parse_str, b64d_b64e]
    have hget : later.data_keys.get? k.data_key_id = some row := by
      rw [← hid]
      exact DataKeys.get?_of_mem hrow
    simp only [decryptMarker, hmarker, Bool.not_true, Bool.false_eq_true, if_false, hread, hget,
      hkey, haad', bind, Except.bind, hopen]

/-! ## Texts and bytes -/

/-- Every key that `svc` has, `later` has too: none was erased, and the ring still unwraps. -/
def StillPresent (svc later : DataProtectionService Uuid) : Prop :=
  ∀ k, Present svc k → Present later k

theorem encryptText_ready (h : Ready svc tenant_id subject_id tenant_scoped)
    (hfield : Encodable field) {t : Text} (ht : Encodable t) (hplain : isTextMarker t = false) :
    ∃ out svc', run (encryptText t tenant_id subject_id field tenant_scoped) svc =
        (.ok out, svc') ∧ ∀ later, StillPresent svc' later → decryptText later out = .ok t := by
  obtain ⟨k, svc', hkey, hpresent, -⟩ := requireKey_ready h
  obtain ⟨b, henc, hdec⟩ := decodeUtf8_encodeUtf8 ht
  obtain ⟨marker, hrun, hne, hmenc, hd, hopen⟩ := encryptMarker_spec hpresent.1 hfield b svc'
  refine ⟨textPrefix ++ b64e (jsonBytes marker), svc'.draw, ?_, ?_⟩
  · simp only [encryptText, hplain, Bool.false_eq_true, if_false]
    rw [run_bind_ok hkey, henc, run_bind_ok (run_lift _ _), run_bind_ok hrun, run_pure]
  · intro later hlater
    have hmarker : isTextMarker (textPrefix ++ b64e (jsonBytes marker)) = true :=
      isPrefixOf_append _ _
    have hlook := (hopen _ (carries_sorted hd)).2 later (hlater k hpresent)
    simp only [decryptText, hmarker, Bool.not_true, Bool.false_eq_true, if_false, List.drop_left,
      b64d_b64e, Option.bind_some, loadsBytes_jsonBytes hne hmenc hd, hlook, bind, Except.bind,
      hdec]

theorem encryptBytes_ready (h : Ready svc tenant_id subject_id tenant_scoped)
    (hfield : Encodable field) {b : Bytes} (hplain : bytesPrefix.isPrefixOf b = false) :
    ∃ out svc', run (encryptBytes b tenant_id subject_id field tenant_scoped) svc =
        (.ok out, svc') ∧ ∀ later, StillPresent svc' later → decryptBytes later out = .ok b := by
  obtain ⟨k, svc', hkey, hpresent, -⟩ := requireKey_ready h
  obtain ⟨marker, hrun, hne, hmenc, hd, hopen⟩ := encryptMarker_spec hpresent.1 hfield b svc'
  refine ⟨bytesPrefix ++ jsonBytes marker, svc'.draw, ?_, ?_⟩
  · simp only [encryptBytes, hplain, Bool.false_eq_true, if_false]
    rw [run_bind_ok hkey, run_bind_ok hrun, run_pure]
  · intro later hlater
    have hlook := (hopen _ (carries_sorted hd)).2 later (hlater k hpresent)
    simp only [decryptBytes, isPrefixOf_append, Bool.not_true, Bool.false_eq_true, if_false,
      List.drop_left, loadsBytes_jsonBytes hne hmenc hd, hlook]

end

/-! ## JSON objects -/

mutual

/-- Nothing in the items looks encrypted, and what is encrypted has UTF-8: the texts under
sensitive keys, and their field paths. -/
def PlainItems (field : Text) : List (Text × Json) → Prop
  | [] => True
  | (key, item) :: rest => PlainItem field key item ∧ PlainItems field rest

def PlainItem (field key : Text) : Json → Prop
  | .str t => key ∈ sensitiveJsonKeys → Encodable t ∧ Encodable (childField field key)
  | .dict items => isJsonMarker items = false ∧ PlainItems (childField field key) items
  | .list xs => PlainElements (elementField (childField field key)) xs
  | _ => True

def PlainValue (field : Text) : Json → Prop
  | .dict items => isJsonMarker items = false ∧ PlainItems field items
  | .list xs => PlainElements (elementField field) xs
  | _ => True

def PlainElements (field : Text) : List Json → Prop
  | [] => True
  | x :: xs => PlainValue field x ∧ PlainElements field xs

end

/-- Nothing changed but what was drawn. -/
def OnlyDrew (svc svc' : DataProtectionService Uuid) : Prop :=
  svc'.ring = svc.ring ∧ svc'.data_keys = svc.data_keys

theorem OnlyDrew.trans {svc svc' svc'' : DataProtectionService Uuid} (h : OnlyDrew svc svc')
    (h' : OnlyDrew svc' svc'') : OnlyDrew svc svc'' :=
  ⟨h'.1.trans h.1, h'.2.trans h.2⟩

theorem jsonMarker_not_sensitive : jsonMarker ∉ sensitiveJsonKeys := by
  unfold jsonMarker sensitiveJsonKeys
  rw [List.mem_map_of_injective ofString_injective]
  decide

variable [Stdlib Uuid] [Platform Uuid] [DecidableEq Uuid] {k : DataKey Uuid}

mutual

theorem encryptJsonMapping_spec [LawfulPlatform Uuid] (hlen : k.key.length = dataKeyBytes) {field : Text} :
    ∀ {items : List (Text × Json)}, PlainItems field items → ∀ svc, ∃ out svc',
      run (encryptJsonMapping k field items) svc = (.ok out, svc') ∧ OnlyDrew svc svc' ∧
      isJsonMarker out = isJsonMarker items ∧
      ∀ later, Present later k → decryptJsonItems later out = .ok items
  | [], _, svc => ⟨[], svc, rfl, ⟨rfl, rfl⟩, rfl, fun _ _ => rfl⟩
  | (key, item) :: rest, h, svc => by
    rw [PlainItems] at h
    obtain ⟨e, svc1, he, hdrew, hversion, hopen⟩ := encryptJsonItem_spec hlen h.1 svc
    obtain ⟨out, svc2, hrest, hdrew', hmarker, hopen'⟩ := encryptJsonMapping_spec hlen h.2 svc1
    refine ⟨(key, e) :: out, svc2, ?_, hdrew.trans hdrew', ?_, ?_⟩
    · rw [encryptJsonMapping, run_bind_ok he, run_bind_ok hrest, run_pure]
    · unfold isJsonMarker at hmarker ⊢
      by_cases hk : key = jsonMarker
      · simp only [Dict.find, hk, if_true, Option.any_some, hversion hk]
      · simp only [Dict.find, hk, if_false, hmarker]
    · intro later hlater
      simp only [decryptJsonItems, hopen later hlater, hopen' later hlater, bind, Except.bind]

theorem encryptJsonItem_spec [LawfulPlatform Uuid] (hlen : k.key.length = dataKeyBytes) {field key : Text} :
    ∀ {item : Json}, PlainItem field key item → ∀ svc, ∃ out svc',
      run (encryptJsonItem k field key item) svc = (.ok out, svc') ∧ OnlyDrew svc svc' ∧
      (key = jsonMarker → isMarkerVersion out = isMarkerVersion item) ∧
      ∀ later, Present later k → decryptJsonValue later out = .ok item
  | .str t, h, svc => by
    rw [PlainItem] at h
    by_cases hkey : key ∈ sensitiveJsonKeys
    · obtain ⟨ht, hfield⟩ := h hkey
      obtain ⟨b, henc, hdec⟩ := decodeUtf8_encodeUtf8 ht
      obtain ⟨marker, hrun, -, -, -, hopen⟩ := encryptMarker_spec hlen hfield b svc
      obtain ⟨hmarker, hopen⟩ := hopen _ (carries_markerItems marker)
      refine ⟨.dict (markerItems marker), svc.draw, ?_, ⟨rfl, rfl⟩, ?_, ?_⟩
      · rw [encryptJsonItem, if_pos hkey, henc, run_bind_ok (run_lift _ _), run_bind_ok hrun,
          run_pure]
      · rintro rfl
        exact absurd hkey jsonMarker_not_sensitive
      · intro later hlater
        simp only [decryptJsonValue, hmarker, if_true, hopen later hlater, hdec, bind, Except.bind]
    · refine ⟨.str t, svc, ?_, ⟨rfl, rfl⟩, fun _ => rfl, fun _ _ => rfl⟩
      rw [encryptJsonItem, if_neg hkey, run_pure]
  | .dict items, h, svc => by
    rw [PlainItem] at h
    obtain ⟨out, svc', hrun, hdrew, hmarker, hopen⟩ := encryptJsonMapping_spec hlen h.2 svc
    refine ⟨.dict out, svc', ?_, hdrew, fun _ => rfl, fun later hlater => ?_⟩
    · rw [encryptJsonItem, run_bind_ok hrun, run_pure]
    · simp only [decryptJsonValue, hmarker, h.1, Bool.false_eq_true, if_false, hopen later hlater,
        bind, Except.bind]
  | .list xs, h, svc => by
    rw [PlainItem] at h
    obtain ⟨out, svc', hrun, hdrew, hopen⟩ := encryptJsonElements_spec hlen h svc
    refine ⟨.list out, svc', ?_, hdrew, fun _ => rfl, fun later hlater => ?_⟩
    · rw [encryptJsonItem, run_bind_ok hrun, run_pure]
    · simp only [decryptJsonValue, hopen later hlater, bind, Except.bind]
  | .null, _, svc => ⟨.null, svc, rfl, ⟨rfl, rfl⟩, fun _ => rfl, fun _ _ => rfl⟩
  | .bool b, _, svc => ⟨.bool b, svc, rfl, ⟨rfl, rfl⟩, fun _ => rfl, fun _ _ => rfl⟩
  | .num l, _, svc => ⟨.num l, svc, rfl, ⟨rfl, rfl⟩, fun _ => rfl, fun _ _ => rfl⟩

theorem encryptJsonValue_spec [LawfulPlatform Uuid] (hlen : k.key.length = dataKeyBytes) {field : Text} :
    ∀ {value : Json}, PlainValue field value → ∀ svc, ∃ out svc',
      run (encryptJsonValue k field value) svc = (.ok out, svc') ∧ OnlyDrew svc svc' ∧
      ∀ later, Present later k → decryptJsonValue later out = .ok value
  | .dict items, h, svc => by
    rw [PlainValue] at h
    obtain ⟨out, svc', hrun, hdrew, hmarker, hopen⟩ := encryptJsonMapping_spec hlen h.2 svc
    refine ⟨.dict out, svc', ?_, hdrew, fun later hlater => ?_⟩
    · rw [encryptJsonValue, run_bind_ok hrun, run_pure]
    · simp only [decryptJsonValue, hmarker, h.1, Bool.false_eq_true, if_false, hopen later hlater,
        bind, Except.bind]
  | .list xs, h, svc => by
    rw [PlainValue] at h
    obtain ⟨out, svc', hrun, hdrew, hopen⟩ := encryptJsonElements_spec hlen h svc
    refine ⟨.list out, svc', ?_, hdrew, fun later hlater => ?_⟩
    · rw [encryptJsonValue, run_bind_ok hrun, run_pure]
    · simp only [decryptJsonValue, hopen later hlater, bind, Except.bind]
  | .str t, _, svc => ⟨.str t, svc, rfl, ⟨rfl, rfl⟩, fun _ _ => rfl⟩
  | .null, _, svc => ⟨.null, svc, rfl, ⟨rfl, rfl⟩, fun _ _ => rfl⟩
  | .bool b, _, svc => ⟨.bool b, svc, rfl, ⟨rfl, rfl⟩, fun _ _ => rfl⟩
  | .num l, _, svc => ⟨.num l, svc, rfl, ⟨rfl, rfl⟩, fun _ _ => rfl⟩

theorem encryptJsonElements_spec [LawfulPlatform Uuid] (hlen : k.key.length = dataKeyBytes) {field : Text} :
    ∀ {xs : List Json}, PlainElements field xs → ∀ svc, ∃ out svc',
      run (encryptJsonElements k field xs) svc = (.ok out, svc') ∧ OnlyDrew svc svc' ∧
      ∀ later, Present later k → decryptJsonElements later out = .ok xs
  | [], _, svc => ⟨[], svc, rfl, ⟨rfl, rfl⟩, fun _ _ => rfl⟩
  | x :: xs, h, svc => by
    rw [PlainElements] at h
    obtain ⟨y, svc1, hy, hdrew, hopen⟩ := encryptJsonValue_spec hlen h.1 svc
    obtain ⟨ys, svc2, hys, hdrew', hopen'⟩ := encryptJsonElements_spec hlen h.2 svc1
    refine ⟨y :: ys, svc2, ?_, hdrew.trans hdrew', fun later hlater => ?_⟩
    · rw [encryptJsonElements, run_bind_ok hy, run_bind_ok hys, run_pure]
    · simp only [decryptJsonElements, hopen later hlater, hopen' later hlater, bind, Except.bind]

end

variable [LawfulPlatform Uuid]

theorem encryptJsonValues_ready (h : Ready svc tenant_id subject_id tenant_scoped)
    {value : List (Text × Json)} (hmarker : isJsonMarker value = false)
    (hplain : PlainItems field value) :
    ∃ out svc', run (encryptJsonValues value tenant_id subject_id field tenant_scoped) svc =
        (.ok out, svc') ∧
      ∀ later, StillPresent svc' later → decryptJsonValues later out = .ok (.dict value) := by
  obtain ⟨k, svc', hkey, hpresent, -⟩ := requireKey_ready h
  obtain ⟨out, svc'', hrun, hdrew, hsame, hopen⟩ := encryptJsonMapping_spec hpresent.1 hplain svc'
  refine ⟨out, svc'', ?_, ?_⟩
  · rw [encryptJsonValues, run_bind_ok hkey, hrun]
  · intro later hlater
    have hk : Present svc'' k := by
      unfold Present
      rw [hdrew.1, hdrew.2]
      exact hpresent
    simp only [decryptJsonValues, decryptJsonValue, hsame, hmarker, Bool.false_eq_true, if_false,
      hopen later (hlater k hk), bind, Except.bind]

/-- Whatever does not look encrypted and can be written in UTF-8 comes back, and it does so from
every service that still has the key. -/
theorem plain_content_round_trips {svc : DataProtectionService Uuid} {tenant_id : String}
    {subject_id : Option String} {tenant_scoped : Bool} {field : Text}
    (hready : Ready svc tenant_id subject_id tenant_scoped) (hfield : Encodable field) :
    (∀ t : Text, Encodable t → isTextMarker t = false → ∃ out svc',
      run (encryptText t tenant_id subject_id field tenant_scoped) svc = (.ok out, svc') ∧
        ∀ later, StillPresent svc' later → decryptText later out = .ok t) ∧
    (∀ b : Bytes, bytesPrefix.isPrefixOf b = false → ∃ out svc',
      run (encryptBytes b tenant_id subject_id field tenant_scoped) svc = (.ok out, svc') ∧
        ∀ later, StillPresent svc' later → decryptBytes later out = .ok b) ∧
    (∀ v : List (Text × Json), isJsonMarker v = false → PlainItems field v → ∃ out svc',
      run (encryptJsonValues v tenant_id subject_id field tenant_scoped) svc = (.ok out, svc') ∧
        ∀ later, StillPresent svc' later → decryptJsonValues later out = .ok (.dict v)) :=
  ⟨fun _ ht hplain => encryptText_ready hready hfield ht hplain,
    fun _ hplain => encryptBytes_ready hready hfield hplain,
    fun _ hmarker hplain => encryptJsonValues_ready hready hmarker hplain⟩

end

/-! ## A service to run the model on -/

/-- The escapes of `escapeBar` undone. -/
def unescapeBar : List Char → List Char
  | '~' :: 'b' :: rest => '|' :: unescapeBar rest
  | '~' :: 't' :: rest => '~' :: unescapeBar rest
  | c :: rest => c :: unescapeBar rest
  | [] => []

theorem unescapeBar_cons {c : Char} (h : c ≠ '~') (rest : List Char) :
    unescapeBar (c :: rest) = c :: unescapeBar rest := by
  rw [unescapeBar]
  · intro _ heq
    exact absurd heq h
  · intro _ heq
    exact absurd heq h

theorem unescapeBar_escapeBar (cs : List Char) : unescapeBar (cs.flatMap escapeBar) = cs := by
  induction cs with
  | nil => rfl
  | cons c cs ih =>
    rw [List.flatMap_cons]
    by_cases h1 : c = '|'
    · subst h1
      simp only [escapeBar, if_true, List.cons_append, List.nil_append, unescapeBar, ih]
    · by_cases h2 : c = '~'
      · subst h2
        simp only [escapeBar, h1, if_true, if_false, List.cons_append, List.nil_append, unescapeBar,
          ih]
      · have hesc : escapeBar c = [c] := by simp only [escapeBar, h1, h2, if_false]
        rw [hesc, List.singleton_append, unescapeBar_cons h2, ih]

/-- A sealed payload carries its key, nonce and associated data after it. -/
instance : Platform String where
  encrypt key nonce data aad := .ok (data ++ (aad ++ nonce ++ key))
  decrypt key nonce data aad :=
    if (aad ++ nonce ++ key).isSuffixOf data then
      .ok (data.take (data.length - (aad ++ nonce ++ key).length))
    else .error .invalidTag
  urandom draw length := List.replicate length (UInt8.ofNat draw)
  uuid4 draw := "id-" ++ draw.repr
  parse t := (t.mapM toChar?).map fun cs => String.ofList (unescapeBar cs)
  str
    | .str t => t
    | _ => []
  repr s := "'" ++ s ++ "'"
  decode b := some (b.map UInt8.toNat)

instance : LawfulPlatform String where
  seals {key nonce} data aad _ _ := by
    refine ⟨_, rfl, ?_⟩
    have hsuffix : (aad ++ nonce ++ key).isSuffixOf (data ++ (aad ++ nonce ++ key)) = true :=
      List.isSuffixOf_iff_suffix.mpr (List.suffix_append _ _)
    simp only [Platform.decrypt, hsuffix, if_true]
    simp
  urandom_length draw length := List.length_replicate
  parse_str id := by
    simp only [Platform.parse, mapM_toChar?_ofString, Option.map_some, Stdlib.str,
      ascii.chars_eq_toList, String.toList_ofList, unescapeBar_escapeBar, String.ofList_toList]
  str_text t := rfl
  decode_ascii {t} h := by
    simp only [Platform.decode, List.map_map, Option.some.injEq]
    conv_rhs => rw [← List.map_id t]
    apply List.map_congr_left
    intro c hc
    have hlt := (h c hc).2
    exact UInt8.toNat_ofNat_of_lt' (by simp only [UInt8.size]; omega)

def oneKeyRing (key : Bytes) (h : key.length = dataKeyBytes) : MasterKeyRing where
  active_version := "v1"
  keys := Dict.ofList [("v1", key)]
  active_in_ring := rfl
  keys_cut key hkey := by
    rw [List.mem_singleton.mp hkey]
    exact h
  legacy_keys_cut key hkey := absurd hkey List.not_mem_nil

def sampleRing : MasterKeyRing := oneKeyRing (List.replicate 32 7) rfl

/-- A service without any key. -/
def sampleService : DataProtectionService String where
  ring := sampleRing

theorem sampleService_ready : Ready sampleService "acme" none true where
  keys _ hrow := nomatch hrow
  tenant := rfl
  subject h := nomatch h
  fresh _ hrow := nomatch hrow

/-- A text, bytes and an object with a sensitive text in it, under a key that is made for them. -/
theorem a_reply_round_trips :
    (∃ out svc', run (encryptText (ofString "hello") "acme" none (ofString "body") true)
        sampleService = (.ok out, svc') ∧
      ∀ later, StillPresent svc' later → decryptText later out = .ok (ofString "hello")) ∧
    (∃ out svc', run (encryptBytes [1, 2, 3] "acme" none (ofString "body") true) sampleService =
        (.ok out, svc') ∧
      ∀ later, StillPresent svc' later → decryptBytes later out = .ok [1, 2, 3]) ∧
    (∃ out svc', run (encryptJsonValues [(ofString "reply", .str (ofString "hi")),
        (ofString "tags", .list [.null])] "acme" none (ofString "body") true) sampleService =
        (.ok out, svc') ∧
      ∀ later, StillPresent svc' later → decryptJsonValues later out =
        .ok (.dict [(ofString "reply", .str (ofString "hi")), (ofString "tags", .list [.null])])) := by
  obtain ⟨htext, hbytes, hjson⟩ :=
    plain_content_round_trips sampleService_ready (encodable_ofString "body")
  refine ⟨htext _ (encodable_ofString _) rfl, hbytes _ rfl, hjson _ rfl ?_⟩
  exact ⟨fun _ => ⟨encodable_ofString _, by decide⟩, ⟨trivial, trivial⟩, trivial⟩

/-- Content that looks encrypted is kept as it is and cannot be read any more: a text and bytes
that begin with the prefix, and an object with the marker's item. A lone surrogate is refused. -/
theorem content_that_looks_encrypted_is_lost :
    (run (encryptText (ofString "opdp:v1:hello") "acme" none (ofString "body") true)
        sampleService = (.ok (ofString "opdp:v1:hello"), sampleService) ∧
      decryptText sampleService (ofString "opdp:v1:hello") =
        .error (.dataProtection "encrypted text marker is invalid")) ∧
    (run (encryptBytes (ascii "OPDP1:hello") "acme" none (ofString "body") true) sampleService =
        (.ok (ascii "OPDP1:hello"), sampleService) ∧
      decryptBytes sampleService (ascii "OPDP1:hello") =
        .error (.dataProtection "encrypted bytes marker is invalid")) ∧
    (∃ svc', run (encryptJsonValues [(ofString "note", .dict [(jsonMarker, .str jsonMarkerVersion)])]
        "acme" none (ofString "body") true) sampleService =
        (.ok [(ofString "note", .dict [(jsonMarker, .str jsonMarkerVersion)])], svc') ∧
      decryptJsonValues svc' [(ofString "note", .dict [(jsonMarker, .str jsonMarkerVersion)])] =
        .error (.dataProtection "encrypted marker is invalid")) ∧
    (run (encryptText [0xd800] "acme" none (ofString "body") true) sampleService).1 =
      .error .unicode := by
  obtain ⟨k, svc', hkey, -⟩ := requireKey_ready sampleService_ready
  refine ⟨⟨rfl, by decide +kernel⟩, ⟨rfl, by decide +kernel⟩, ⟨svc', ?_, rfl⟩, ?_⟩
  · rw [encryptJsonValues, run_bind_ok hkey]
    rfl
  · have hplain : isTextMarker [0xd800] = false := rfl
    have hlone : encodeUtf8 [0xd800] = .error .unicode := rfl
    simp only [encryptText, hplain, Bool.false_eq_true, if_false]
    rw [run_bind_ok hkey, hlone, run_bind_error (run_lift _ _)]

end operious.data_protection
