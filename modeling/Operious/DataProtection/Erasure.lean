-- What any run of the service leaves of the keys. Only two operations delete keys: an approval
-- deletes the key of one subject that no hold covers, and the erasure of a tenant deletes all its
-- keys where no hold of the whole tenant stands.
import Operious.DataProtection.LegalHold

namespace operious.data_protection

open utf8 json effects

variable (tenant_id : String)

section

variable {Uuid : Type}

/-! ## What the operations keep -/

/-- A hold of a whole tenant has the one scope id that the query asks for, and a request names a
subject. -/
structure WellFormed (svc : DataProtectionService Uuid) : Prop where
  tenant_holds : ∀ hold ∈ svc.legal_holds.values, hold.scope = .tenant →
    hold.scope_id = tenantScopeId
  requests : ∀ row ∈ svc.erasure_requests.values, row.subject_id.isEmpty = false

def KeysKept (svc svc' : DataProtectionService Uuid) : Prop :=
  ∀ row ∈ svc.data_keys.rows, ∃ row' ∈ svc'.data_keys.rows,
    row'.data_key_id = row.data_key_id ∧ row'.scopeKey = row.scopeKey

/-- No key is deleted, and what was well formed stays so. -/
structure Calm (svc svc' : DataProtectionService Uuid) : Prop where
  keys : KeysKept svc svc'
  wellFormed : WellFormed svc → WellFormed svc'

instance : IsPreorder (DataProtectionService Uuid) Calm where
  refl svc := ⟨fun row hrow => ⟨row, hrow, rfl, rfl⟩, id⟩
  trans svc svc' svc'' h h' := by
    refine ⟨fun row hrow => ?_, fun hwf => h'.wellFormed (h.wellFormed hwf)⟩
    obtain ⟨row', hrow', hid, hscope⟩ := h.keys row hrow
    obtain ⟨row'', hrow'', hid', hscope'⟩ := h'.keys row' hrow'
    exact ⟨row'', hrow'', hid'.trans hid, hscope'.trans hscope⟩

theorem calm_of_keys {svc svc' : DataProtectionService Uuid} (hkeys : KeysKept svc svc')
    (hholds : svc'.legal_holds = svc.legal_holds)
    (hrequests : svc'.erasure_requests = svc.erasure_requests) : Calm svc svc' := by
  refine ⟨hkeys, fun h => ⟨?_, ?_⟩⟩
  · rw [hholds]
    exact h.tenant_holds
  · rw [hrequests]
    exact h.requests

theorem keysKept_of_eq {svc svc' : DataProtectionService Uuid}
    (h : svc'.data_keys = svc.data_keys) : KeysKept svc svc' := by
  intro row hrow
  rw [h]
  exact ⟨row, hrow, rfl, rfl⟩

section

variable [DecidableEq Uuid]

theorem liftHold_tenant {holds : Dict Uuid (DataProtectionLegalHoldRow Uuid)} (l : Lift Uuid)
    (h : ∀ hold ∈ holds.values, hold.scope = .tenant → hold.scope_id = tenantScopeId) :
    ∀ hold ∈ (liftHold holds l).values, hold.scope = .tenant → hold.scope_id = tenantScopeId := by
  intro hold hm
  unfold liftHold at hm
  split at hm
  · exact h hold hm
  · rename_i row hrow
    obtain ⟨k, hk⟩ := (Dict.mem_values_iff _ _).mp hm
    rcases Dict.get?_set_cases hk with ⟨-, rfl⟩ | ⟨-, hold'⟩
    · exact h row ((Dict.mem_values_iff _ _).mpr ⟨_, hrow⟩)
    · exact h hold ((Dict.mem_values_iff _ _).mpr ⟨k, hold'⟩)

theorem calm_flushed (svc : DataProtectionService Uuid) : Calm svc svc.flushed := by
  refine ⟨keysKept_of_eq rfl, fun h => ⟨?_, h.requests⟩⟩
  have hall : ∀ (lifts : List (Lift Uuid)) (holds : Dict Uuid (DataProtectionLegalHoldRow Uuid)),
      (∀ hold ∈ holds.values, hold.scope = .tenant → hold.scope_id = tenantScopeId) →
      ∀ hold ∈ (lifts.foldl liftHold holds).values, hold.scope = .tenant →
        hold.scope_id = tenantScopeId := by
    intro lifts
    induction lifts with
    | nil => exact fun _ hholds => hholds
    | cons l lifts ih => exact fun holds hholds => ih _ (liftHold_tenant l hholds)
  exact hall svc.unflushed svc.legal_holds h.tenant_holds

theorem keeps_flush : Keeps Calm (flush : Session Uuid Unit) := calm_flushed

theorem keeps_ensureTenant :
    Keeps Calm (ensureTenant tenant_id : Session Uuid Unit) :=
  Keeps.ite (Keeps.throw _) keeps_flush

end

variable [Platform Uuid]

theorem keeps_urandom (length : Nat) : Keeps Calm (urandom length : Session Uuid Bytes) :=
  fun _ => calm_of_keys (keysKept_of_eq rfl) rfl rfl

theorem keeps_uuid4 : Keeps Calm (uuid4 : Session Uuid Uuid) :=
  fun _ => calm_of_keys (keysKept_of_eq rfl) rfl rfl

variable [Stdlib Uuid]

theorem keeps_wrapKey (ring : MasterKeyRing) (data_key : Bytes) (tenant_id : String)
    (scope : KeyScope) (scope_id : String) (id : Uuid) (version : Option String) :
    Keeps Calm (ring.wrapKey data_key tenant_id scope scope_id id version) :=
  Keeps.bind (Keeps.lift _) fun _ => Keeps.bind (keeps_urandom _) fun _ =>
    Keeps.bind (Keeps.lift _) fun _ => Keeps.pure _

theorem keeps_encryptMarker (plaintext : Bytes) (k : DataKey Uuid) (field : Text) :
    Keeps Calm (encryptMarker plaintext k field) :=
  Keeps.bind (keeps_urandom _) fun _ => Keeps.bind (Keeps.lift _) fun _ =>
    Keeps.bind (Keeps.lift _) fun _ => Keeps.pure _

mutual

theorem keeps_encryptJsonMapping (k : DataKey Uuid) (field : Text) :
    ∀ items : List (Text × Json), Keeps Calm (encryptJsonMapping k field items)
  | [] => Keeps.pure _
  | (key, item) :: rest =>
    Keeps.bind (keeps_encryptJsonItem k field key item) fun _ =>
      Keeps.bind (keeps_encryptJsonMapping k field rest) fun _ => Keeps.pure _

theorem keeps_encryptJsonItem (k : DataKey Uuid) (field key : Text) :
    ∀ item : Json, Keeps Calm (encryptJsonItem k field key item)
  | .str _ =>
    Keeps.ite
      (Keeps.bind (Keeps.lift _) fun _ => Keeps.bind (keeps_encryptMarker _ k _) fun _ =>
        Keeps.pure _)
      (Keeps.pure _)
  | .dict items => Keeps.bind (keeps_encryptJsonMapping k _ items) fun _ => Keeps.pure _
  | .list xs => Keeps.bind (keeps_encryptJsonElements k _ xs) fun _ => Keeps.pure _
  | .null => Keeps.pure _
  | .bool _ => Keeps.pure _
  | .num _ => Keeps.pure _

theorem keeps_encryptJsonValue (k : DataKey Uuid) (field : Text) :
    ∀ value : Json, Keeps Calm (encryptJsonValue k field value)
  | .dict items => Keeps.bind (keeps_encryptJsonMapping k _ items) fun _ => Keeps.pure _
  | .list xs => Keeps.bind (keeps_encryptJsonElements k _ xs) fun _ => Keeps.pure _
  | .null => Keeps.pure _
  | .bool _ => Keeps.pure _
  | .num _ => Keeps.pure _
  | .str _ => Keeps.pure _

theorem keeps_encryptJsonElements (k : DataKey Uuid) (field : Text) :
    ∀ xs : List Json, Keeps Calm (encryptJsonElements k field xs)
  | [] => Keeps.pure _
  | x :: xs =>
    Keeps.bind (keeps_encryptJsonValue k field x) fun _ =>
      Keeps.bind (keeps_encryptJsonElements k field xs) fun _ => Keeps.pure _

end

variable [DecidableEq Uuid]

theorem keeps_createDataKey (scope : KeyScope) (scope_id : String) :
    Keeps Calm (createDataKey tenant_id scope scope_id :
      Session Uuid (DataProtectionDataKeyRow Uuid)) := by
  refine Keeps.bind (keeps_ensureTenant _) fun _ => Keeps.bind keeps_uuid4 fun id =>
    Keeps.bind (keeps_urandom _) fun key => Keeps.bind Keeps.get fun svc =>
    Keeps.bind (keeps_wrapKey _ _ _ _ _ _ _) fun wrapped => ?_
  obtain ⟨version, envelope⟩ := wrapped
  refine Keeps.get_bind fun svc => ?_
  split
  · rename_i keys hinsert
    refine calm_of_keys ?_ rfl rfl
    intro row hrow
    unfold DataKeys.insert at hinsert
    split at hinsert
    · cases hinsert
      exact ⟨row, List.mem_append_left _ hrow, rfl, rfl⟩
    · cases hinsert
  · split
    · exact refl_of Calm svc
    · exact refl_of Calm svc

theorem keeps_requireKey (subject_id : Option String) (tenant_scoped : Bool) :
    Keeps Calm (requireKey tenant_id subject_id tenant_scoped : Session Uuid (DataKey Uuid)) := by
  unfold requireKey
  refine Keeps.ite (Keeps.throw _) (Keeps.bind Keeps.get fun svc => ?_)
  split
  · exact Keeps.bind (Keeps.pure _) fun _ => Keeps.lift _
  · exact Keeps.bind (keeps_createDataKey _ _ _) fun _ => Keeps.lift _

theorem keeps_encryptText (value : Text) (tenant_id : String) (subject_id : Option String)
    (field : Text) (tenant_scoped : Bool) :
    Keeps Calm (encryptText value tenant_id subject_id field tenant_scoped : Session Uuid Text) :=
  Keeps.ite (Keeps.pure _) (Keeps.bind (keeps_requireKey _ _ _) fun _ =>
    Keeps.bind (Keeps.lift _) fun _ => Keeps.bind (keeps_encryptMarker _ _ _) fun _ =>
    Keeps.pure _)

theorem keeps_encryptBytes (value : Bytes) (tenant_id : String) (subject_id : Option String)
    (field : Text) (tenant_scoped : Bool) :
    Keeps Calm (encryptBytes value tenant_id subject_id field tenant_scoped : Session Uuid Bytes) :=
  Keeps.ite (Keeps.pure _) (Keeps.bind (keeps_requireKey _ _ _) fun _ =>
    Keeps.bind (keeps_encryptMarker _ _ _) fun _ => Keeps.pure _)

theorem keeps_encryptJsonValues (value : List (Text × Json)) (tenant_id : String)
    (subject_id : Option String) (field : Text) (tenant_scoped : Bool) :
    Keeps Calm (encryptJsonValues value tenant_id subject_id field tenant_scoped :
      Session Uuid (List (Text × Json))) :=
  Keeps.bind (keeps_requireKey _ _ _) fun _ => keeps_encryptJsonMapping _ _ _

omit [Platform Uuid] [Stdlib Uuid] in
theorem keysKept_rewrap (svc : DataProtectionService Uuid) (id : Uuid) (version : String)
    (encrypted : Bytes) (now : Instant) :
    KeysKept svc (svc.withKeys (svc.data_keys.rewrap id version encrypted now)) := by
  intro row hrow
  refine ⟨_, List.mem_map_of_mem hrow, ?_⟩
  split
  · exact ⟨rfl, rfl⟩
  · exact ⟨rfl, rfl⟩

variable (new_ring : MasterKeyRing)

theorem keeps_rotateRow (now : Instant)
    (row : DataProtectionDataKeyRow Uuid) : Keeps Calm (rotateRow new_ring now row) :=
  Keeps.bind Keeps.get fun _ => Keeps.bind (Keeps.lift _) fun _ =>
    Keeps.bind (keeps_wrapKey _ _ _ _ _ _ _) fun _ =>
    Keeps.bind (Keeps.modify fun _ => calm_of_keys (keysKept_rewrap _ _ _ _ _) rfl rfl) fun _ =>
    Keeps.bind (Keeps.lift _) fun _ => Keeps.pure _

theorem keeps_rotateRows (now : Uuid → Instant)
    (rows : List (DataProtectionDataKeyRow Uuid)) : Keeps Calm (rotateRows new_ring now rows) := by
  induction rows with
  | nil => exact Keeps.pure _
  | cons row rest ih =>
    exact Keeps.bind (keeps_rotateRow _ _ _) fun _ => Keeps.bind ih fun _ => Keeps.pure _

theorem keeps_rotateMasterKey (now : Uuid → Instant) :
    Keeps Calm (rotateMasterKey new_ring now : Session Uuid Nat) :=
  Keeps.bind Keeps.get fun _ => Keeps.bind (keeps_rotateRows _ _ _) fun _ =>
    Keeps.bind keeps_flush fun _ =>
    Keeps.bind (Keeps.modify fun _ => calm_of_keys (keysKept_of_eq rfl) rfl rfl) fun _ =>
    Keeps.pure _

end

/-! ## The operations on holds and requests -/

section

variable {Uuid : Type} [DecidableEq Uuid]

theorem scopeId_tenant {scope : String} {value : Option String} {s : HoldScope} {id : String}
    (h : scopeId scope value = .ok (s, id)) (hs : s = .tenant) : id = tenantScopeId := by
  unfold scopeId at h
  simp only at h
  split at h
  · cases h
    rfl
  · split_ifs at h <;> cases h <;> cases hs

theorem nonempty_ok {value field text : String} (h : nonempty value field = .ok text) :
    text.isEmpty = false := by
  unfold nonempty at h
  simp only at h
  split at h
  · cases h
  · rename_i hne
    cases h
    simpa using hne

variable {svc : DataProtectionService Uuid}

theorem calm_withHold {hold_id : Uuid} {row : DataProtectionLegalHoldRow Uuid}
    (h : row.scope = .tenant → row.scope_id = tenantScopeId) :
    Calm svc (svc.withHold hold_id row) := by
  refine ⟨keysKept_of_eq rfl, fun hwf => ⟨?_, hwf.requests⟩⟩
  intro hold hm
  obtain ⟨k, hk⟩ := (Dict.mem_values_iff _ _).mp hm
  rcases Dict.get?_set_cases hk with ⟨-, rfl⟩ | ⟨-, hold'⟩
  · exact h
  · exact hwf.tenant_holds hold ((Dict.mem_values_iff _ _).mpr ⟨k, hold'⟩)

variable {row : DataProtectionErasureRequestRow Uuid}

theorem wellFormed_withRequest {request_id : Uuid} (hwf : WellFormed svc)
    (h : row.subject_id.isEmpty = false) : WellFormed (svc.withRequest request_id row) := by
  refine ⟨hwf.tenant_holds, fun r hm => ?_⟩
  obtain ⟨k, hk⟩ := (Dict.mem_values_iff _ _).mp hm
  rcases Dict.get?_set_cases hk with ⟨-, rfl⟩ | ⟨-, hold'⟩
  · exact h
  · exact hwf.requests r ((Dict.mem_values_iff _ _).mpr ⟨k, hold'⟩)

theorem keeps_saveRequest (request_id : Uuid) (h : row.subject_id.isEmpty = false) :
    Keeps Calm (saveRequest request_id row) :=
  Keeps.bind (Keeps.modify fun _ =>
    ⟨keysKept_of_eq rfl, fun hwf => wellFormed_withRequest hwf h⟩) fun _ => keeps_flush

variable [Platform Uuid]

theorem keeps_createLegalHold (tenant_id scope : String) (scope_id : Option String)
    (reason created_by : String) (now : Instant) :
    Keeps Calm (createLegalHold tenant_id scope scope_id reason created_by now :
      Session Uuid Uuid) := by
  refine Keeps.lift_bind fun checked hchecked => ?_
  obtain ⟨s, id⟩ := checked
  refine Keeps.bind keeps_uuid4 fun hold_id => Keeps.bind (keeps_ensureTenant _) fun _ =>
    Keeps.bind Keeps.get fun svc => Keeps.ite (Keeps.throw _) ?_
  exact Keeps.bind (Keeps.modify fun _ => calm_withHold fun hs => scopeId_tenant hchecked hs)
    fun _ => Keeps.bind keeps_flush fun _ => Keeps.pure _

theorem keeps_releaseLegalHold (hold_id : IdArgument Uuid)
    (lifted_by : String) (now : Instant) :
    Keeps Calm (releaseLegalHold tenant_id hold_id lifted_by now) := by
  refine Keeps.bind (Keeps.lift _) fun id => Keeps.bind Keeps.get fun svc => ?_
  split
  · exact Keeps.throw _
  · exact Keeps.bind (Keeps.modify fun _ => calm_of_keys (keysKept_of_eq rfl) rfl rfl) fun _ =>
      Keeps.bind (Keeps.lift _) fun _ =>
      Keeps.bind (Keeps.modify fun _ => calm_of_keys (keysKept_of_eq rfl) rfl rfl) fun _ =>
      Keeps.bind keeps_flush fun _ => Keeps.pure _

theorem keeps_proposeErasure (tenant_id subject_id reason proposed_by : String) (now : Instant) :
    Keeps Calm (proposeErasure tenant_id subject_id reason proposed_by now :
      Session Uuid (DataProtectionErasureRequestRow Uuid)) := by
  refine Keeps.bind keeps_uuid4 fun id => Keeps.bind (keeps_ensureTenant _) fun _ =>
    Keeps.lift_bind fun subject hsubject => Keeps.bind (Keeps.lift _) fun _ =>
    Keeps.bind (Keeps.lift _) fun _ => Keeps.bind Keeps.get fun svc => Keeps.ite (Keeps.throw _) ?_
  exact Keeps.bind (keeps_saveRequest id (nonempty_ok hsubject)) fun _ => Keeps.pure _

/-! ## The two operations that delete keys -/

/-- The subject's key was deleted on a request that somebody else than its proposer approved, in a
state where no hold covers it. -/
structure Executed (svc svc' : DataProtectionService Uuid) (tenant_id subject_id : String) :
    Prop where
  keys : svc'.data_keys = svc.data_keys.delete (isSubjectKey tenant_id subject_id)
  unheld : hasActiveLegalHold svc tenant_id (some subject_id) none = false
  request : ∃ row ∈ svc'.erasure_requests.values, row.tenant_id = tenant_id ∧
    row.subject_id = subject_id ∧ row.status = .executed ∧
    ∃ approver, row.approved_by = some approver ∧ approver ≠ row.proposed_by
  named : WellFormed svc → subject_id.isEmpty = false
  wellFormed : WellFormed svc → WellFormed svc'

omit [Platform Uuid] in
theorem run_saveRequest (request_id : Uuid) (row : DataProtectionErasureRequestRow Uuid)
    (svc : DataProtectionService Uuid) :
    run (saveRequest request_id row) svc = (.ok (), (svc.withRequest request_id row).flushed) := rfl

omit [DecidableEq Uuid] [Platform Uuid] in
theorem run_deleteSubjectKey (tenant_id subject_id : String) (svc : DataProtectionService Uuid) :
    run (deleteSubjectKey tenant_id subject_id) svc =
      (.ok (), svc.withKeys (svc.data_keys.delete (isSubjectKey tenant_id subject_id))) := rfl

omit [DecidableEq Uuid] [Platform Uuid] in
theorem wellFormed_withKeys (h : WellFormed svc) (keys : DataKeys Uuid) :
    WellFormed (svc.withKeys keys) :=
  ⟨h.tenant_holds, h.requests⟩

theorem approveErasure_cases (svc : DataProtectionService Uuid) (tenant_id : String)
    (request_id : IdArgument Uuid) (approved_by : String) (now : Instant) :
    Calm svc (run (approveErasure tenant_id request_id approved_by now) svc).2 ∨
    ∃ subject_id, Executed svc
      (run (approveErasure tenant_id request_id approved_by now) svc).2 tenant_id subject_id := by
  unfold approveErasure
  cases happrover : nonempty approved_by "approved_by" with
  | error e => exact Or.inl (by rw [run_bind_error (run_lift _ _)]; exact refl_of Calm svc)
  | ok approver =>
  cases hid : request_id.get "request_id" with
  | error e =>
    rw [run_bind_ok (run_lift _ _), run_bind_error (run_lift _ _)]
    exact Or.inl (refl_of Calm svc)
  | ok id =>
  rw [run_bind_ok (run_lift _ _), run_bind_ok (run_lift _ _), run_bind_ok (run_get _)]
  split
  · exact Or.inl (refl_of Calm svc)
  rename_i row hrow
  obtain ⟨hget, htenant⟩ := Option.filter_eq_some_iff.mp hrow
  have hnamed (hwf : WellFormed svc) : row.subject_id.isEmpty = false :=
    hwf.requests row ((Dict.mem_values_iff _ _).mpr ⟨id, hget⟩)
  split
  · exact Or.inl (refl_of Calm svc)
  split
  · exact Or.inl (refl_of Calm svc)
  rename_i hne
  split
  · -- a hold covers the subject: the request is rejected and the key stays
    rw [run_bind_ok (run_saveRequest _ _ _)]
    refine Or.inl (trans_of Calm (b := svc.withRequest id _) ?_ (calm_flushed _))
    exact ⟨keysKept_of_eq rfl, fun hwf => wellFormed_withRequest hwf (hnamed hwf)⟩
  · rename_i hheld
    rw [run_bind_ok (run_saveRequest _ _ _), run_bind_ok (run_deleteSubjectKey _ _ _),
      run_bind_ok (run_saveRequest _ _ _), run_pure]
    refine Or.inr ⟨row.subject_id, rfl, by simpa using hheld, ?_, hnamed, ?_⟩
    · refine ⟨_, (Dict.mem_values_iff _ _).mpr ⟨id, Dict.get?_set_self _ _ _⟩, by simpa using htenant,
        rfl, rfl, approver, rfl, hne⟩
    · intro hwf
      refine (calm_flushed _).wellFormed (wellFormed_withRequest (wellFormed_withKeys
        ((calm_flushed _).wellFormed (wellFormed_withRequest hwf ?_)) _) ?_)
      · exact hnamed hwf
      · exact hnamed hwf

omit [Platform Uuid] in
theorem eraseTenantKeys_cases (svc : DataProtectionService Uuid) (tenant_id : String) :
    Calm svc (run (eraseTenantKeys tenant_id : Session Uuid Nat) svc).2 ∨
    (hasActiveLegalHold svc tenant_id none none = false ∧
      (run (eraseTenantKeys tenant_id : Session Uuid Nat) svc).2 =
        (svc.withKeys (svc.data_keys.delete fun row => row.tenant_id = tenant_id)).flushed) := by
  unfold eraseTenantKeys
  rw [run_bind_ok (run_get _)]
  split
  · exact Or.inl (refl_of Calm svc)
  · rename_i hheld
    exact Or.inr ⟨by simpa using hheld, rfl⟩

/-! ## Runs -/

def TenantHeld (svc : DataProtectionService Uuid) (tenant_id : String) : Prop :=
  ∃ hold ∈ svc.legal_holds.values, hold.tenant_id = tenant_id ∧ hold.lifted_at = none ∧
    hold.scope = .tenant

def SubjectHeld (svc : DataProtectionService Uuid) (tenant_id subject_id : String) : Prop :=
  ∃ hold ∈ svc.legal_holds.values, hold.tenant_id = tenant_id ∧ hold.lifted_at = none ∧
    hold.scope = .subject ∧ hold.scope_id = subject_id

omit [DecidableEq Uuid] [Platform Uuid] in
theorem active_of_tenantHeld (hwf : WellFormed svc) {tenant_id : String}
    (h : TenantHeld svc tenant_id) (subject_id session_id : Option String) :
    hasActiveLegalHold svc tenant_id subject_id session_id = true := by
  obtain ⟨hold, hm, htenant, hlift, hscope⟩ := h
  refine List.any_eq_true.mpr ⟨hold, hm, ?_⟩
  simp [covers, htenant, hlift, hscope, hwf.tenant_holds hold hm hscope]

variable {tenant_id subject_id : String}

omit [DecidableEq Uuid] [Platform Uuid] in
theorem active_of_subjectHeld (hsubject : subject_id.isEmpty = false)
    (h : SubjectHeld svc tenant_id subject_id) :
    hasActiveLegalHold svc tenant_id (some subject_id) none = true := by
  obtain ⟨hold, hm, htenant, hlift, hscope, hid⟩ := h
  refine List.any_eq_true.mpr ⟨hold, hm, ?_⟩
  simp [covers, htenant, hlift, hscope, hid, hsubject]

def Deletes (svc' : DataProtectionService Uuid) (row : DataProtectionDataKeyRow Uuid) : Prop :=
  ∀ row' ∈ svc'.data_keys.rows, row'.data_key_id ≠ row.data_key_id

/-- What a step that deletes a subject's key is: the erasure of its tenant, or the approval of a
request for it. -/
def LawfulDeletions (svc : DataProtectionService Uuid) (op : Operation Uuid)
    (svc' : DataProtectionService Uuid) : Prop :=
  ∀ row ∈ svc.data_keys.rows, row.scope = .subject → Deletes svc' row →
    ¬ TenantHeld svc row.tenant_id ∧
      (op = .eraseTenantKeys row.tenant_id ∨
        ¬ SubjectHeld svc row.tenant_id row.scope_id ∧
          ∃ request ∈ svc'.erasure_requests.values, request.tenant_id = row.tenant_id ∧
            request.subject_id = row.scope_id ∧ request.status = .executed ∧
            ∃ approver, request.approved_by = some approver ∧ approver ≠ request.proposed_by)

variable {op : Operation Uuid}

omit [DecidableEq Uuid] [Platform Uuid] in
theorem lawful_of_calm {svc svc' : DataProtectionService Uuid} (h : Calm svc svc') :
    LawfulDeletions svc op svc' := by
  intro row hrow _ hdel
  obtain ⟨row', hrow', hid, -⟩ := h.keys row hrow
  exact absurd hid (hdel row' hrow')

omit [DecidableEq Uuid] [Platform Uuid] in
theorem lawful_of_executed {svc svc' : DataProtectionService Uuid} (hwf : WellFormed svc)
    (h : Executed svc svc' tenant_id subject_id) : LawfulDeletions svc op svc' := by
  intro row hrow _ hdel
  have hkey : isSubjectKey tenant_id subject_id row = true := by
    by_contra hne
    refine hdel row ?_ rfl
    rw [h.keys]
    exact List.mem_filter.mpr ⟨hrow, by simpa using hne⟩
  have hscope : row.scopeKey = (tenant_id, .subject, subject_id) := by
    simpa [isSubjectKey] using hkey
  simp only [DataProtectionDataKeyRow.scopeKey, Prod.mk.injEq] at hscope
  obtain ⟨rfl, -, rfl⟩ := hscope
  have hunheld := h.unheld
  refine ⟨fun hheld => ?_, Or.inr ⟨fun hheld => ?_, h.request⟩⟩
  · rw [active_of_tenantHeld hwf hheld] at hunheld
    cases hunheld
  · rw [active_of_subjectHeld (h.named hwf) hheld] at hunheld
    cases hunheld

omit [Platform Uuid] in
theorem lawful_of_tenant_erased {tenant_id : String} (hwf : WellFormed svc)
    (hheld : hasActiveLegalHold svc tenant_id none none = false) :
    LawfulDeletions svc (.eraseTenantKeys tenant_id)
      (svc.withKeys (svc.data_keys.delete fun row => row.tenant_id = tenant_id)).flushed := by
  intro row hrow _ hdel
  have htenant : row.tenant_id = tenant_id := by
    by_contra hne
    exact hdel row (List.mem_filter.mpr ⟨hrow, by simpa using hne⟩) rfl
  subst htenant
  refine ⟨fun hold => ?_, Or.inl rfl⟩
  rw [active_of_tenantHeld hwf hold] at hheld
  cases hheld

variable [Stdlib Uuid]

/-- The step lemma: every operation keeps what is well formed, and deletes a subject's key only
as the law allows. -/
theorem next_lawful {svc svc' : DataProtectionService Uuid} (hwf : WellFormed svc)
    (h : svc.next op = some svc') : WellFormed svc' ∧ LawfulDeletions svc op svc' := by
  have hcalm (hc : Calm svc svc') : WellFormed svc' ∧ LawfulDeletions svc op svc' :=
    ⟨hc.wellFormed hwf, lawful_of_calm hc⟩
  cases h
  have hkeeps {α : Type} {x : Session Uuid α} (hx : Keeps Calm x) :
      Calm svc (run (x >>= fun _ => pure ()) svc).2 :=
    (Keeps.bind hx fun _ => Keeps.pure _) svc
  cases op with
  | createLegalHold => exact hcalm (hkeeps (keeps_createLegalHold _ _ _ _ _ _))
  | releaseLegalHold => exact hcalm (hkeeps (keeps_releaseLegalHold _ _ _ _))
  | encryptText => exact hcalm (hkeeps (keeps_encryptText _ _ _ _ _))
  | encryptBytes => exact hcalm (hkeeps (keeps_encryptBytes _ _ _ _ _))
  | encryptJsonValues => exact hcalm (hkeeps (keeps_encryptJsonValues _ _ _ _ _))
  | proposeErasure => exact hcalm (hkeeps (keeps_proposeErasure _ _ _ _ _))
  | approveErasure tenant_id request_id approved_by now =>
    have hrun := run_discard (approveErasure tenant_id request_id approved_by now) () svc
    rw [Operation.perform, hrun] at hcalm ⊢
    rcases approveErasure_cases svc tenant_id request_id approved_by now with hc | ⟨subject_id, hex⟩
    · exact hcalm hc
    · exact ⟨hex.wellFormed hwf, lawful_of_executed hwf hex⟩
  | eraseSubjectKey => exact hcalm (hkeeps (Keeps.throw _))
  | eraseTenantKeys tenant_id =>
    have hrun := run_discard (eraseTenantKeys tenant_id : Session Uuid Nat) () svc
    rw [Operation.perform, hrun] at hcalm ⊢
    rcases eraseTenantKeys_cases svc tenant_id with hc | ⟨hheld, heq⟩
    · exact hcalm hc
    · rw [heq]
      exact ⟨(calm_flushed _).wellFormed (wellFormed_withKeys hwf _),
        lawful_of_tenant_erased hwf hheld⟩
  | rotateMasterKey => exact hcalm (hkeeps (keeps_rotateMasterKey _ _))

end

/-- A hold on one subject, the key of that subject, and then the erasure of the tenant. -/
def heldSubjectErased : List (Operation String) :=
  [.createLegalHold "acme" "subject" (some "sam") "dispute" "ann" 0,
    .encryptText (ofString "hello") "acme" (some "sam") (ofString "body") false]

def holdsAndKeys (svc : DataProtectionService String) :
    List (String × HoldScope × String) × List (String × KeyScope × String) :=
  ((svc.legal_holds.values.filter (·.lifted_at.isNone)).map fun hold =>
      (hold.tenant_id, hold.scope, hold.scope_id),
    svc.data_keys.rows.map (·.scopeKey))

end operious.data_protection
