-- The rotation of the master keys. The loop rewrites the rows one by one, so a row that does not
-- unwrap stops it with the rows before it rewrapped. A rotation that returns leaves every data key
-- as it was, and everything encrypted decrypts as before.
import Operious.DataProtection.RoundTrip

namespace operious.data_protection

open utf8 json effects

section

variable {Uuid : Type} [Stdlib Uuid] [Platform Uuid] [DecidableEq Uuid]

/-- One pass of the loop. `now` is the clock when the row is reached. -/
def rotateRow (new_ring : MasterKeyRing) (now : Instant) (row : DataProtectionDataKeyRow Uuid) :
    Session Uuid Unit := do
  let svc ← get
  let data_key ← lift (svc.ring.unwrapKey row)
  let (version, encrypted) ←
    new_ring.wrapKey data_key row.tenant_id row.scope row.scope_id row.data_key_id none
  modify fun svc => svc.withKeys (svc.data_keys.rewrap row.data_key_id version encrypted now)
  let _ ← lift (new_ring.unwrapKey
    { row with master_key_version := version, encrypted_key := encrypted, rewrapped_at := some now })
  return ()

def rotateRows (new_ring : MasterKeyRing) (now : Uuid → Instant) :
    List (DataProtectionDataKeyRow Uuid) → Session Uuid Nat
  | [] => return 0
  | row :: rest => do
    rotateRow new_ring (now row.data_key_id) row
    let rewrapped ← rotateRows new_ring now rest
    return rewrapped + 1

def rotateMasterKey (new_ring : MasterKeyRing) (now : Uuid → Instant) : Session Uuid Nat := do
  let svc ← get
  let rewrapped ← rotateRows new_ring now svc.data_keys.rows
  flush
  modify fun svc => { svc with ring := new_ring }
  return rewrapped

/-! ## One row -/

/-- The row carries the same data key, wrapped by another ring. -/
structure Rewrapped (ring new_ring : MasterKeyRing) (row row' : DataProtectionDataKeyRow Uuid) :
    Prop where
  id : row'.data_key_id = row.data_key_id
  tenant : row'.tenant_id = row.tenant_id
  scope : row'.scopeKey = row.scopeKey
  key : ∃ key, ring.unwrapKey row = .ok key ∧ new_ring.unwrapKey row' = .ok key
  marked : row'.rewrapped_at.isSome

variable {row : DataProtectionDataKeyRow Uuid} {before after : List (DataProtectionDataKeyRow Uuid)}

omit [Stdlib Uuid] [Platform Uuid] in
theorem rewrap_rows {keys : DataKeys Uuid} (h : keys.rows = before ++ row :: after)
    (version : String) (encrypted : Bytes) (now : Instant) :
    (keys.rewrap row.data_key_id version encrypted now).rows = before ++
      { row with
        master_key_version := version, encrypted_key := encrypted, rewrapped_at := some now } ::
      after := by
  have hd := keys.ids_distinct
  rw [h, List.map_append, List.map_cons, List.nodup_append, List.nodup_cons] at hd
  obtain ⟨-, ⟨hafter, -⟩, hbefore⟩ := hd
  simp only [DataKeys.rewrap, h, List.map_append, List.map_cons, if_true]
  congr 1
  · conv_rhs => rw [← List.map_id before]
    apply List.map_congr_left
    intro r hr
    have hne : r.data_key_id ≠ row.data_key_id :=
      hbefore _ (List.mem_map_of_mem hr) _ List.mem_cons_self
    rw [if_neg hne]
    rfl
  · congr 1
    conv_rhs => rw [← List.map_id after]
    apply List.map_congr_left
    intro r hr
    have hne : r.data_key_id ≠ row.data_key_id := by
      intro heq
      exact hafter (List.mem_map.mpr ⟨r, hr, heq⟩)
    rw [if_neg hne]
    rfl

variable [LawfulPlatform Uuid]

variable {svc : DataProtectionService Uuid}

theorem rotateRow_ok (h : svc.data_keys.rows = before ++ row :: after) {key : Bytes}
    (hkey : svc.ring.unwrapKey row = .ok key) (new_ring : MasterKeyRing) (now : Instant) :
    ∃ row' svc', run (rotateRow new_ring now row) svc = (.ok (), svc') ∧ svc'.ring = svc.ring ∧
      svc'.data_keys.rows = before ++ row' :: after ∧ Rewrapped svc.ring new_ring row row' := by
  obtain ⟨envelope, hwrap, hunwrap⟩ := wrapKey_active new_ring key row.tenant_id row.scope
    row.scope_id row.data_key_id svc
  refine ⟨_, svc.draw.withKeys (svc.data_keys.rewrap row.data_key_id new_ring.active_version envelope
    now), ?_, rfl, rewrap_rows h _ _ _, rfl, rfl, rfl, ⟨key, hkey, hunwrap (some now)⟩, rfl⟩
  unfold rotateRow
  rw [run_bind_ok (run_get _), hkey, run_bind_ok (run_lift _ _), run_bind_ok hwrap,
    run_bind_ok (run_modify _ _), hunwrap (some now), run_bind_ok (run_lift _ _), run_pure]
  rfl

variable {e : ServiceError}

omit [LawfulPlatform Uuid] in
theorem rotateRow_error (h : svc.ring.unwrapKey row = .error e) (new_ring : MasterKeyRing)
    (now : Instant) : run (rotateRow new_ring now row) svc = (.error e, svc) := by
  unfold rotateRow
  rw [run_bind_ok (run_get _), h, run_bind_error (run_lift _ _)]

/-! ## The loop -/

variable {rows : List (DataProtectionDataKeyRow Uuid)}

theorem rotateRows_ok (new_ring : MasterKeyRing) (now : Uuid → Instant)
    (svc : DataProtectionService Uuid) (before : List (DataProtectionDataKeyRow Uuid))
    (h : svc.data_keys.rows = before ++ rows)
    (hkeys : ∀ row ∈ rows, ∃ key, svc.ring.unwrapKey row = .ok key) :
    ∃ rows' svc', run (rotateRows new_ring now rows) svc = (.ok rows.length, svc') ∧
      svc'.ring = svc.ring ∧ svc'.data_keys.rows = before ++ rows' ∧
      List.Forall₂ (Rewrapped svc.ring new_ring) rows rows' := by
  induction rows generalizing svc before with
  | nil => exact ⟨[], svc, rfl, rfl, h, .nil⟩
  | cons row rest ih =>
    obtain ⟨key, hkey⟩ := hkeys row List.mem_cons_self
    obtain ⟨row', svc1, hrow, hring, hrows, hre⟩ :=
      rotateRow_ok h hkey new_ring (now row.data_key_id)
    obtain ⟨rest', svc2, hrest, hring', hrows', hall⟩ := ih svc1 (before ++ [row'])
      (by rw [hrows]; simp) (fun r hr => by
        rw [hring]
        exact hkeys r (List.mem_cons_of_mem _ hr))
    rw [hring] at hring' hall
    refine ⟨row' :: rest', svc2, ?_, hring', by simpa using hrows', .cons hre hall⟩
    rw [rotateRows, run_bind_ok hrow, run_bind_ok hrest, run_pure]
    rfl

theorem rotateRows_error (new_ring : MasterKeyRing) (now : Uuid → Instant)
    (svc : DataProtectionService Uuid) (before : List (DataProtectionDataKeyRow Uuid))
    {after : List (DataProtectionDataKeyRow Uuid)}
    (h : svc.data_keys.rows = before ++ (rows ++ row :: after))
    (hkeys : ∀ r ∈ rows, ∃ key, svc.ring.unwrapKey r = .ok key)
    (hrow : svc.ring.unwrapKey row = .error e) :
    ∃ rows' svc', run (rotateRows new_ring now (rows ++ row :: after)) svc = (.error e, svc') ∧
      svc'.ring = svc.ring ∧ svc'.data_keys.rows = before ++ (rows' ++ row :: after) ∧
      List.Forall₂ (Rewrapped svc.ring new_ring) rows rows' := by
  induction rows generalizing svc before with
  | nil =>
    refine ⟨[], svc, ?_, rfl, h, .nil⟩
    rw [List.nil_append, rotateRows, run_bind_error (rotateRow_error hrow _ _)]
  | cons r rest ih =>
    obtain ⟨key, hkey⟩ := hkeys r List.mem_cons_self
    obtain ⟨r', svc1, hr, hring, hrows, hre⟩ := rotateRow_ok h hkey new_ring (now r.data_key_id)
    obtain ⟨rest', svc2, hrest, hring', hrows', hall⟩ := ih svc1 (before ++ [r'])
      (by rw [hrows]; simp) (fun s hs => by
        rw [hring]
        exact hkeys s (List.mem_cons_of_mem _ hs)) (by rw [hring]; exact hrow)
    rw [hring] at hring' hall
    refine ⟨r' :: rest', svc2, ?_, hring', by simpa using hrows', .cons hre hall⟩
    rw [List.cons_append, rotateRows, run_bind_ok hr, run_bind_error hrest]

omit [DecidableEq Uuid] [LawfulPlatform Uuid] in
theorem first_failure {ring : MasterKeyRing}
    (h : ¬ ∀ row ∈ rows, ∃ key, ring.unwrapKey row = .ok key) :
    ∃ before row after e, rows = before ++ row :: after ∧
      (∀ r ∈ before, ∃ key, ring.unwrapKey r = .ok key) ∧ ring.unwrapKey row = .error e := by
  induction rows with
  | nil => exact absurd (fun _ hr => nomatch hr) h
  | cons r rest ih =>
    cases hr : ring.unwrapKey r with
    | error e => exact ⟨[], r, rest, e, rfl, (fun _ hm => nomatch hm), hr⟩
    | ok key =>
      rw [List.forall_mem_cons, not_and] at h
      obtain ⟨before, row, after, e, heq, hbefore, hrow⟩ := ih (h ⟨key, hr⟩)
      refine ⟨r :: before, row, after, e, by rw [heq]; rfl, ?_, hrow⟩
      rw [List.forall_mem_cons]
      exact ⟨⟨key, hr⟩, hbefore⟩

/-! ## What a rotation leaves -/

def AllUnwrap (svc : DataProtectionService Uuid) : Prop :=
  ∀ row ∈ svc.data_keys.rows, ∃ key, svc.ring.unwrapKey row = .ok key

/-- Under every id the two services have the same data key, or none. -/
def SameDataKeys (svc svc' : DataProtectionService Uuid) : Prop :=
  ∀ id, (svc'.data_keys.get? id).map svc'.ring.dataKey =
    (svc.data_keys.get? id).map svc.ring.dataKey

variable {ring new_ring : MasterKeyRing}

omit [DecidableEq Uuid] [LawfulPlatform Uuid] in
theorem Rewrapped.dataKey_eq {row row' : DataProtectionDataKeyRow Uuid}
    (h : Rewrapped ring new_ring row row') : new_ring.dataKey row' = ring.dataKey row := by
  obtain ⟨key, hkey, hkey'⟩ := h.key
  have hscope := h.scope
  simp only [DataProtectionDataKeyRow.scopeKey, Prod.mk.injEq] at hscope
  simp only [MasterKeyRing.dataKey, hkey, hkey', bind, Except.bind, h.id, hscope.1, hscope.2.1,
    hscope.2.2]

variable {rows rows' : List (DataProtectionDataKeyRow Uuid)}

omit [LawfulPlatform Uuid] in
theorem find?_rewrapped (h : List.Forall₂ (Rewrapped ring new_ring) rows rows') (id : Uuid) :
    (rows'.find? fun row => row.data_key_id = id).map new_ring.dataKey =
      (rows.find? fun row => row.data_key_id = id).map ring.dataKey := by
  induction h with
  | nil => rfl
  | cons hrow hrest ih =>
    simp only [List.find?_cons, hrow.id]
    split
    · exact congrArg some hrow.dataKey_eq
    · exact ih

theorem rotateMasterKey_ok (h : AllUnwrap svc) (new_ring : MasterKeyRing) (now : Uuid → Instant) :
    ∃ svc', run (rotateMasterKey new_ring now) svc = (.ok svc.data_keys.rows.length, svc') ∧
      svc'.ring = new_ring ∧
      List.Forall₂ (Rewrapped svc.ring new_ring) svc.data_keys.rows svc'.data_keys.rows := by
  obtain ⟨rows', svc1, hrun, -, hrows, hall⟩ := rotateRows_ok new_ring now svc [] rfl h
  refine ⟨{ svc1.flushed with ring := new_ring }, ?_, rfl, ?_⟩
  · rw [rotateMasterKey, run_bind_ok (run_get _), run_bind_ok hrun, run_bind_ok (run_flush _),
      run_bind_ok (run_modify _ _), run_pure]
  · have hrows' : ({ svc1.flushed with ring := new_ring } : DataProtectionService Uuid).data_keys.rows
        = rows' := hrows
    rw [hrows']
    exact hall

omit [DecidableEq Uuid] [LawfulPlatform Uuid] in
theorem unwraps_of_rewrapped (h : List.Forall₂ (Rewrapped ring new_ring) rows rows') :
    ∀ row ∈ rows', ∃ key, new_ring.unwrapKey row = .ok key := by
  induction h with
  | nil => exact fun _ hr => nomatch hr
  | cons hrow hrest ih =>
    intro r hr
    rcases List.mem_cons.mp hr with rfl | hr
    · obtain ⟨key, -, hkey⟩ := hrow.key
      exact ⟨key, hkey⟩
    · exact ih r hr

/-- One rotation after the other. -/
def rotateAll : List (MasterKeyRing × (Uuid → Instant)) → Session Uuid Unit
  | [] => return ()
  | (new_ring, now) :: rest => do
    let _ ← rotateMasterKey new_ring now
    rotateAll rest

theorem rotateAll_ok (rotations : List (MasterKeyRing × (Uuid → Instant))) (h : AllUnwrap svc) :
    ∃ svc', run (rotateAll rotations) svc = (.ok (), svc') ∧ AllUnwrap svc' ∧
      SameDataKeys svc svc' := by
  induction rotations generalizing svc with
  | nil => exact ⟨svc, rfl, h, fun _ => rfl⟩
  | cons rotation rest ih =>
    obtain ⟨new_ring, now⟩ := rotation
    obtain ⟨svc1, hrun, hring, hall⟩ := rotateMasterKey_ok h new_ring now
    rw [← hring] at hall
    obtain ⟨svc2, hrest, hunwrap, hsame⟩ := ih (unwraps_of_rewrapped hall)
    refine ⟨svc2, ?_, hunwrap, fun id => (hsame id).trans (find?_rewrapped hall id)⟩
    rw [rotateAll, run_bind_ok hrun, hrest]

/-! ## Decryption sees the data keys alone -/

section

omit [LawfulPlatform Uuid]

variable {svc svc' : DataProtectionService Uuid}

theorem decryptMarker_same (h : SameDataKeys svc svc') (marker : Json) :
    decryptMarker svc' marker = decryptMarker svc marker := by
  unfold decryptMarker
  cases marker with
  | dict items =>
    simp only
    split
    · rfl
    · split
      · rfl
      · rename_i id field nonce ct _
        have hid := h id
        cases hrow : svc.data_keys.get? id with
        | none =>
          rw [hrow, Option.map_none, Option.map_eq_none_iff] at hid
          simp only [hid]
        | some row =>
          rw [hrow, Option.map_some, Option.map_eq_some_iff] at hid
          obtain ⟨row', hrow', hkey⟩ := hid
          simp only [hrow', hkey]
  | _ => rfl

mutual

theorem decryptJsonValue_same (h : SameDataKeys svc svc') :
    ∀ value : Json, decryptJsonValue svc' value = decryptJsonValue svc value
  | .dict items => by
    simp only [decryptJsonValue, decryptMarker_same h, decryptJsonItems_same h items]
  | .list xs => by simp only [decryptJsonValue, decryptJsonElements_same h xs]
  | .null => rfl
  | .bool _ => rfl
  | .num _ => rfl
  | .str _ => rfl

theorem decryptJsonItems_same (h : SameDataKeys svc svc') :
    ∀ items : List (Text × Json), decryptJsonItems svc' items = decryptJsonItems svc items
  | [] => rfl
  | (key, item) :: rest => by
    simp only [decryptJsonItems, decryptJsonValue_same h item, decryptJsonItems_same h rest]

theorem decryptJsonElements_same (h : SameDataKeys svc svc') :
    ∀ xs : List Json, decryptJsonElements svc' xs = decryptJsonElements svc xs
  | [] => rfl
  | x :: xs => by
    simp only [decryptJsonElements, decryptJsonValue_same h x, decryptJsonElements_same h xs]

end

theorem decrypt_same (h : SameDataKeys svc svc') :
    (∀ t, decryptText svc' t = decryptText svc t) ∧
    (∀ b, decryptBytes svc' b = decryptBytes svc b) ∧
    (∀ v, decryptJsonValues svc' v = decryptJsonValues svc v) := by
  refine ⟨fun t => ?_, fun b => ?_, fun v => decryptJsonValue_same h _⟩
  · simp only [decryptText, decryptMarker_same h]
  · simp only [decryptBytes, decryptMarker_same h]

end

/-- Where every row unwraps, any rotations go through, every row unwraps to the data key it had,
and everything decrypts as before. Where one does not, a rotation raises and keeps the ring, and
from the first such row on the rows are as they were. The rows before it are rewrapped. -/
theorem rotations_keep_every_key (svc : DataProtectionService Uuid) :
    (AllUnwrap svc → ∀ rotations : List (MasterKeyRing × (Uuid → Instant)), ∃ svc',
      run (rotateAll rotations) svc = (.ok (), svc') ∧ AllUnwrap svc' ∧ SameDataKeys svc svc' ∧
        (∀ t, decryptText svc' t = decryptText svc t) ∧
        (∀ b, decryptBytes svc' b = decryptBytes svc b) ∧
        (∀ v, decryptJsonValues svc' v = decryptJsonValues svc v)) ∧
    (¬ AllUnwrap svc → ∃ rows row after e, svc.data_keys.rows = rows ++ row :: after ∧
      svc.ring.unwrapKey row = .error e ∧
      ∀ (new_ring : MasterKeyRing) (now : Uuid → Instant), ∃ rows' svc',
        run (rotateMasterKey new_ring now) svc = (.error e, svc') ∧ svc'.ring = svc.ring ∧
          svc'.data_keys.rows = rows' ++ row :: after ∧
          List.Forall₂ (Rewrapped svc.ring new_ring) rows rows') := by
  constructor
  · intro h rotations
    obtain ⟨svc', hrun, hunwrap, hsame⟩ := rotateAll_ok rotations h
    exact ⟨svc', hrun, hunwrap, hsame, decrypt_same hsame⟩
  · intro h
    obtain ⟨rows, row, after, e, hrows, hkeys, hrow⟩ := first_failure h
    refine ⟨rows, row, after, e, hrows, hrow, fun new_ring now => ?_⟩
    obtain ⟨rows', svc', hrun, hring, hrows', hall⟩ :=
      rotateRows_error new_ring now svc [] hrows hkeys hrow
    refine ⟨rows', svc', ?_, hring, hrows', hall⟩
    rw [rotateMasterKey, run_bind_ok (run_get _), hrows, run_bind_error hrun]

end

/-! ## A table with a broken row -/

/-- The data key of `sampleKeyRow` as the first version of `sampleRing` wraps it. -/
def sampleKeyRow : DataProtectionDataKeyRow String where
  data_key_id := "id-0"
  tenant_id := "acme"
  scope := .tenant
  scope_id := tenantScopeId
  master_key_version := "v1"
  encrypted_key := wrappedKeyPrefix ++ jsonBytes [(ofString "n", b64e (List.replicate 12 0)),
    (ofString "ct", b64e (List.replicate 32 1 ++ (dataKeyAad "acme" .tenant tenantScopeId "id-0" "v1" ++
      List.replicate 12 0 ++ List.replicate 32 7)))]

def brokenRow : DataProtectionDataKeyRow String :=
  { sampleKeyRow with data_key_id := "id-9", scope := .subject, scope_id := "sam", encrypted_key := [] }

def wholeService : DataProtectionService String where
  ring := sampleRing
  data_keys := ⟨[sampleKeyRow], by decide, by decide⟩

def brokenService : DataProtectionService String where
  ring := sampleRing
  data_keys := ⟨[sampleKeyRow, brokenRow], by decide, by decide⟩

/-- A ring that uses the label of `sampleRing` for other material. -/
def relabelledRing : MasterKeyRing := oneKeyRing (List.replicate 32 9) rfl

theorem sampleKeyRow_unwraps : sampleRing.unwrapKey sampleKeyRow = .ok (List.replicate 32 1) := by
  have hprefix : wrappedKeyPrefix.isPrefixOf sampleKeyRow.encrypted_key = true :=
    isPrefixOf_append _ _
  have hmaster : sampleRing.master String "v1" = .ok (List.replicate 32 7) := rfl
  have hread := @readEnvelope_written String _ _ _ (List.replicate 12 0)
    (List.replicate 32 1 ++ (dataKeyAad "acme" .tenant tenantScopeId "id-0" "v1" ++
      List.replicate 12 0 ++ List.replicate 32 7))
  have hdrop : sampleKeyRow.encrypted_key.drop wrappedKeyPrefix.length = jsonBytes
      [(ofString "n", b64e (List.replicate 12 0)), (ofString "ct", b64e (List.replicate 32 1 ++
        (dataKeyAad "acme" .tenant tenantScopeId "id-0" "v1" ++ List.replicate 12 0 ++
          List.replicate 32 7)))] := List.drop_left
  obtain ⟨sealed, hseal, hopen⟩ := @LawfulPlatform.seals String _ _ _
    (List.replicate 32 7) (List.replicate 12 0) (List.replicate 32 1)
    (dataKeyAad "acme" .tenant tenantScopeId "id-0" "v1") rfl rfl
  cases hseal
  simp only [MasterKeyRing.unwrapKey, hprefix, Bool.not_true, Bool.false_eq_true, if_false, hdrop,
    hread]
  simp only [sampleKeyRow, hmaster, bind, Except.bind, hopen]

theorem wholeService_unwraps : AllUnwrap wholeService := by
  intro row hrow
  rw [List.mem_singleton.mp hrow]
  exact ⟨_, sampleKeyRow_unwraps⟩

theorem brokenRow_does_not_unwrap : sampleRing.unwrapKey brokenRow =
    .error (.dataProtection "data key row has an unsupported envelope") := rfl

theorem brokenService_does_not_unwrap : ¬ AllUnwrap brokenService := by
  intro h
  obtain ⟨key, hkey⟩ := h brokenRow (List.mem_cons_of_mem _ List.mem_cons_self)
  have hbroken : brokenService.ring.unwrapKey brokenRow =
      .error (.dataProtection "data key row has an unsupported envelope") := rfl
  rw [hbroken] at hkey
  cases hkey

/-- Two rotations that use one label for different material, and a rotation that is stopped. -/
theorem relabelled_rotations_keep_the_key :
    (∃ svc', run (rotateAll [(relabelledRing, fun _ => 0), (sampleRing, fun _ => 1)]) wholeService =
        (.ok (), svc') ∧ AllUnwrap svc' ∧ SameDataKeys wholeService svc' ∧
        (∀ t, decryptText svc' t = decryptText wholeService t) ∧
        (∀ b, decryptBytes svc' b = decryptBytes wholeService b) ∧
        (∀ v, decryptJsonValues svc' v = decryptJsonValues wholeService v)) ∧
    (∃ rows row after e, brokenService.data_keys.rows = rows ++ row :: after ∧
      brokenService.ring.unwrapKey row = .error e ∧
      ∀ (new_ring : MasterKeyRing) (now : String → Instant), ∃ rows' svc',
        run (rotateMasterKey new_ring now) brokenService = (.error e, svc') ∧
          svc'.ring = brokenService.ring ∧ svc'.data_keys.rows = rows' ++ row :: after ∧
          List.Forall₂ (Rewrapped brokenService.ring new_ring) rows rows') :=
  ⟨(rotations_keep_every_key wholeService).1 wholeService_unwraps _,
    (rotations_keep_every_key brokenService).2 brokenService_does_not_unwrap⟩

/-- The rotation raises at the second row, and the first row has been changed. -/
theorem a_stopped_rotation_has_changed_a_row :
    sampleRing.unwrapKey brokenRow =
        .error (.dataProtection "data key row has an unsupported envelope") ∧
      ∃ svc', run (rotateMasterKey relabelledRing fun _ => 0) brokenService =
          (.error (.dataProtection "data key row has an unsupported envelope"), svc') ∧
        sampleKeyRow ∈ brokenService.data_keys.rows ∧ sampleKeyRow ∉ svc'.data_keys.rows := by
  refine ⟨brokenRow_does_not_unwrap, ?_⟩
  have hrows₀ : brokenService.data_keys.rows = [] ++ ([sampleKeyRow] ++ brokenRow :: []) := rfl
  obtain ⟨rows', svc', hrun, -, hrows, hall⟩ :=
    rotateRows_error relabelledRing (fun _ => 0) brokenService [] hrows₀
      wholeService_unwraps brokenRow_does_not_unwrap
  refine ⟨svc', ?_, List.mem_cons_self, ?_⟩
  · have hrows' : brokenService.data_keys.rows = [sampleKeyRow] ++ brokenRow :: [] := rfl
    rw [rotateMasterKey, run_bind_ok (run_get _), hrows', run_bind_error hrun]
  · obtain ⟨row', rest, hre, hnil, rfl⟩ := List.forall₂_cons_left_iff.mp hall
    cases hnil
    rw [hrows]
    intro hm
    simp only [List.nil_append, List.cons_append, List.mem_cons, List.not_mem_nil, or_false] at hm
    rcases hm with heq | heq
    · have hmark := hre.marked
      rw [← heq] at hmark
      exact absurd hmark (by decide)
    · exact absurd (congrArg (·.data_key_id) heq) (by decide)

end operious.data_protection
