-- Each step of the outbox in Postgres against the same call of the store in memory, made at once at
-- the instant of the step.
import Operious.Escalation.Outbox

namespace operious.escalation

variable {Uuid : Type} [Stdlib Uuid] [DecidableEq Uuid]

open PostgresEscalationPersistence (update)

/-! ## What must hold of a step -/

/-- The call that ends in the step leaves the rows as the call in memory does. -/
def EffectAgrees (w : World Uuid) (act : Act Uuid) : Prop :=
  ∀ ended ∈ ending w act, ended.2.2 = (InMemoryEscalationPersistence.perform w.table ended.1).2

def AnswerAgrees (w : World Uuid) (act : Act Uuid) : Prop :=
  ∀ ended ∈ ending w act, ended.2 = InMemoryEscalationPersistence.perform w.table ended.1

/-- A row that is published or failed keeps its status. -/
def TerminalKept (t t' : OutboxTable Uuid) : Prop :=
  ∀ id, ∀ record ∈ t.outbox.get? id, record.status.terminal = true →
    ∃ record' ∈ t'.outbox.get? id, record'.status = record.status

/-- A requeue that changes anything releases a claim that is older than its bound. -/
def ReleasesStale (w : World Uuid) (act : Act Uuid) (w' : World Uuid) : Prop :=
  ∀ ended ∈ ending w act, ∀ outbox_id stale_before requeued_at reason expected_tenant_id,
    ended.1 = .requeueStale outbox_id stale_before requeued_at reason expected_tenant_id →
    w'.table ≠ w.table →
    ∃ record ∈ w.table.outbox.get? outbox_id, record.stale stale_before = true

/-! ## When it does -/

/-- The row that the UPDATE meets still has the metadata that it writes over, and a requeue meets a claim
that is still stale, or a row that it would not change. -/
def CurrentCall (t : OutboxTable Uuid) (seen : Metadata) : OutboxCall Uuid → Prop
  | .claim .. => True
  | .markPublished .. => True
  | .markFailed outbox_id claim_id _ failed_at _ expected_tenant_id =>
    ∀ record ∈ t.get_escalation_outbox outbox_id expected_tenant_id,
      record.publishingUnder claim_id = true →
        failureMetadata Uuid seen failed_at = failureMetadata Uuid record.metadata failed_at
  | .requeueStale outbox_id stale_before requeued_at reason expected_tenant_id =>
    ∀ record ∈ t.get_escalation_outbox outbox_id expected_tenant_id,
      if record.stale stale_before then
        requeueMetadata Uuid seen requeued_at reason =
          requeueMetadata Uuid record.metadata requeued_at reason
      else record.requeuedWith seen requeued_at reason = record

/-- No other call has ended the life of the row under this one: a publication meets no published row, a
failure meets its claim and a requeue a stale one, each with the metadata that it writes over. -/
def UndisputedCall (t : OutboxTable Uuid) (seen : Metadata) : OutboxCall Uuid → Prop
  | .claim .. => True
  | .markPublished outbox_id _ _ expected_tenant_id =>
    ∃ record ∈ t.get_escalation_outbox outbox_id expected_tenant_id, record.status ≠ .published
  | .markFailed outbox_id claim_id _ failed_at _ expected_tenant_id =>
    ∀ record ∈ t.get_escalation_outbox outbox_id expected_tenant_id,
      record.publishingUnder claim_id = true ∧
        failureMetadata Uuid seen failed_at = failureMetadata Uuid record.metadata failed_at
  | .requeueStale outbox_id stale_before requeued_at reason expected_tenant_id =>
    ∀ record ∈ t.get_escalation_outbox outbox_id expected_tenant_id,
      record.stale stale_before = true ∧ requeueMetadata Uuid seen requeued_at reason =
        requeueMetadata Uuid record.metadata requeued_at reason

/-- What a condition on the UPDATE of a call says of a step. -/
def AtUpdate (C : OutboxTable Uuid → Metadata → OutboxCall Uuid → Prop) (w : World Uuid) :
    Act Uuid → Prop
  | .read .. => True
  | .update caller => ∀ entry ∈ w.calls.find? (·.1 = caller), C w.table entry.2.2 entry.2.1

/-! ## Rows -/

variable {record : EscalationOutboxRecord Uuid}

variable {t : OutboxTable Uuid}

section

omit [Stdlib Uuid]

theorem get_of_found {id : Uuid} {expected_tenant_id : Option String}
    (h : t.get_escalation_outbox id expected_tenant_id = some record) :
    t.outbox.get? record.outbox_id = some record := by
  have hget : t.outbox.get? id = some record := (Option.filter_eq_some_iff.mp h).1
  rw [t.keyed hget]
  exact hget

@[simp] theorem get_put_self (t : OutboxTable Uuid) (record : EscalationOutboxRecord Uuid) :
    (t.put record).outbox.get? record.outbox_id = some record := Dict.get?_set_self _ _ _

theorem put_inj {record record' : EscalationOutboxRecord Uuid}
    (hid : record.outbox_id = record'.outbox_id) :
    t.put record = t.put record' ↔ record = record' := by
  constructor
  · intro h
    have hget := congrArg (·.outbox.get? record.outbox_id) h
    rw [get_put_self, hid, get_put_self] at hget
    exact Option.some.inj hget
  · rintro rfl
    rfl

theorem put_found (h : t.outbox.get? record.outbox_id = some record) : t.put record = t :=
  OutboxTable.ext (Dict.set_of_get? h) rfl

theorem put_eq_self {record record' : EscalationOutboxRecord Uuid}
    (hid : record'.outbox_id = record.outbox_id)
    (h : t.outbox.get? record.outbox_id = some record) : t.put record' = t ↔ record' = record := by
  rw [← put_inj hid, put_found h]

theorem outcome_inj {record record' : EscalationOutboxRecord Uuid} :
    ((.ok (some record), t.put record) : Answer Uuid × OutboxTable Uuid) =
      (.ok (some record'), t.put record') ↔ record = record' := by
  constructor
  · intro h
    exact Option.some.inj (Except.ok.inj (congrArg Prod.fst h))
  · rintro rfl
    rfl

end

/-! ## Reads that answer -/

theorem read_agrees {call : OutboxCall Uuid} {answer : Answer Uuid}
    (h : PostgresEscalationPersistence.read t call = .inl answer) :
    InMemoryEscalationPersistence.perform t call = (answer, t) := by
  cases call with
  | claim escalation_id publisher_id claim_id claimed_at expected_tenant_id => cases h
  | markPublished outbox_id claim_id published_at expected_tenant_id =>
    rw [PostgresEscalationPersistence.read] at h
    rw [InMemoryEscalationPersistence.perform,
      InMemoryEscalationPersistence.mark_escalation_outbox_published]
    cases hrow : t.get_escalation_outbox outbox_id expected_tenant_id with
    | none =>
      rw [hrow] at h
      cases h
      rfl
    | some record =>
      rw [hrow] at h
      simp only at h ⊢
      split at h
      · split at h <;> cases h
        · simp_all
        · simp_all
      · cases h
  | markFailed outbox_id claim_id error failed_at dead_letter expected_tenant_id =>
    rw [PostgresEscalationPersistence.read] at h
    rw [InMemoryEscalationPersistence.perform,
      InMemoryEscalationPersistence.mark_escalation_outbox_failed]
    cases hrow : t.get_escalation_outbox outbox_id expected_tenant_id with
    | none =>
      rw [hrow] at h
      cases h
      rfl
    | some record =>
      rw [hrow] at h
      simp only at h ⊢
      split at h
      · split at h <;> cases h
        · simp_all
        · simp_all
      · split at h <;> cases h
        simp_all
  | requeueStale outbox_id stale_before requeued_at reason expected_tenant_id =>
    rw [PostgresEscalationPersistence.read] at h
    rw [InMemoryEscalationPersistence.perform,
      InMemoryEscalationPersistence.requeue_stale_escalation_outbox]
    cases hrow : t.get_escalation_outbox outbox_id expected_tenant_id with
    | none =>
      rw [hrow] at h
      cases h
      rfl
    | some record =>
      rw [hrow] at h
      simp only at h ⊢
      split at h <;> cases h
      simp_all

/-! ## Updates -/

theorem claim_agrees (t : OutboxTable Uuid) (seen : Metadata) (escalation_id : Uuid)
    (publisher_id : String) (claim_id : Uuid) (claimed_at : Instant)
    (expected_tenant_id : Option String) :
    update t seen (.claim escalation_id publisher_id claim_id claimed_at expected_tenant_id) =
      InMemoryEscalationPersistence.perform t
        (.claim escalation_id publisher_id claim_id claimed_at expected_tenant_id) := by
  rw [update, InMemoryEscalationPersistence.perform,
    InMemoryEscalationPersistence.claim_escalation_outbox]
  cases t.get_escalation_outbox_by_escalation escalation_id expected_tenant_id with
  | none => rfl
  | some record =>
    cases hpending : decide (record.status = .pending) with
    | true => simp [Option.filter, of_decide_eq_true hpending]
    | false => simp [Option.filter, of_decide_eq_false hpending]

section

variable {t : OutboxTable Uuid} {seen : Metadata} {outbox_id claim_id : Uuid}
  {published_at failed_at stale_before requeued_at : Instant} {error reason : String}
  {dead_letter : Bool} {expected_tenant_id : Option String}

omit [Stdlib Uuid] in
theorem publishing_of_under (h : record.publishingUnder claim_id = true) :
    record.status = .publishing ∧ record.claim_id = some claim_id := by
  simpa [EscalationOutboxRecord.publishingUnder] using h

omit [DecidableEq Uuid] in
theorem unknownOutbox_ne {text : String} (h : text.toList.head? ≠ some 'u') :
    unknownOutbox outbox_id ≠ text := by
  have hhead : (unknownOutbox outbox_id).toList.head? = some 'u' := by
    unfold unknownOutbox
    rw [String.toList_append, String.toList_append, List.append_assoc, List.head?_append_of_ne_nil _
      (by decide)]
    rfl
  exact fun heq => h (heq ▸ hhead)

theorem published_effect (seen : Metadata) :
    (update t seen (.markPublished outbox_id claim_id published_at expected_tenant_id)).2 =
      (InMemoryEscalationPersistence.perform t
        (.markPublished outbox_id claim_id published_at expected_tenant_id)).2 := by
  rw [update, InMemoryEscalationPersistence.perform,
    InMemoryEscalationPersistence.mark_escalation_outbox_published]
  cases t.get_escalation_outbox outbox_id expected_tenant_id with
  | none => simp
  | some record =>
    cases hunder : record.publishingUnder claim_id with
    | true => simp [Option.filter, hunder, (publishing_of_under hunder).1]
    | false =>
      simp only [Option.filter, hunder, Bool.false_eq_true, if_false, Bool.not_false, if_true]
      split
      · split <;> simp
      · simp

theorem published_agrees_iff (seen : Metadata) :
    update t seen (.markPublished outbox_id claim_id published_at expected_tenant_id) =
        InMemoryEscalationPersistence.perform t
          (.markPublished outbox_id claim_id published_at expected_tenant_id) ↔
      ∃ record ∈ t.get_escalation_outbox outbox_id expected_tenant_id, record.status ≠ .published := by
  rw [update, InMemoryEscalationPersistence.perform,
    InMemoryEscalationPersistence.mark_escalation_outbox_published]
  cases t.get_escalation_outbox outbox_id expected_tenant_id with
  | none =>
    have hne : unknownOutbox outbox_id ≠
        "only the active escalation outbox claim can be published" := unknownOutbox_ne (by decide)
    refine iff_of_false (fun h => hne (Except.error.inj (congrArg Prod.fst h)).symm) ?_
    rintro ⟨_, h, _⟩
    cases h
  | some record =>
    cases hunder : record.publishingUnder claim_id with
    | true =>
      have hstatus : record.status = .publishing := (publishing_of_under hunder).1
      simp [Option.filter, hunder, hstatus]
    | false =>
      cases hpublished : decide (record.status = .published) with
      | false => simp [Option.filter, hunder, of_decide_eq_false hpublished]
      | true =>
        have hstatus : record.status = .published := of_decide_eq_true hpublished
        cases hclaim : decide (record.claim_id = some claim_id) with
        | true => simp [Option.filter, hunder, hstatus, of_decide_eq_true hclaim]
        | false => simp [Option.filter, hunder, hstatus, of_decide_eq_false hclaim]

variable {seen' : Metadata}

omit [DecidableEq Uuid] in
theorem failedWith_inj :
    record.failedWith seen error failed_at dead_letter =
        record.failedWith seen' error failed_at dead_letter ↔
      failureMetadata Uuid seen failed_at = failureMetadata Uuid seen' failed_at := by
  constructor
  · exact congrArg EscalationOutboxRecord.metadata
  · intro h
    unfold EscalationOutboxRecord.failedWith
    rw [h]

omit [DecidableEq Uuid] in
theorem requeuedWith_inj :
    record.requeuedWith seen requeued_at reason = record.requeuedWith seen' requeued_at reason ↔
      requeueMetadata Uuid seen requeued_at reason = requeueMetadata Uuid seen' requeued_at reason := by
  constructor
  · exact congrArg EscalationOutboxRecord.metadata
  · intro h
    unfold EscalationOutboxRecord.requeuedWith
    rw [h]

/-- A failure writes what it writes in memory where its metadata are those of the row. -/
theorem failed_effect_iff :
    (update t seen
        (.markFailed outbox_id claim_id error failed_at dead_letter expected_tenant_id)).2 =
      (InMemoryEscalationPersistence.perform t
        (.markFailed outbox_id claim_id error failed_at dead_letter expected_tenant_id)).2 ↔
    ∀ record ∈ t.get_escalation_outbox outbox_id expected_tenant_id,
      record.publishingUnder claim_id = true →
        failureMetadata Uuid seen failed_at = failureMetadata Uuid record.metadata failed_at := by
  rw [update, InMemoryEscalationPersistence.perform,
    InMemoryEscalationPersistence.mark_escalation_outbox_failed]
  cases t.get_escalation_outbox outbox_id expected_tenant_id with
  | none => exact iff_of_true rfl (fun _ h => by cases h)
  | some record =>
    cases hunder : record.publishingUnder claim_id with
    | true =>
      have hstatus : record.status ≠ .failed := by
        rw [(publishing_of_under hunder).1]
        decide
      simp only [Option.filter, hunder, hstatus, if_true, if_false, Bool.not_true, Bool.false_eq_true]
      have hid : (record.failedWith seen error failed_at dead_letter).outbox_id =
          (record.failedWith record.metadata error failed_at dead_letter).outbox_id := rfl
      rw [put_inj hid, failedWith_inj]
      simp [hunder]
    | false =>
      cases hfailed : decide (record.status = .failed) with
      | false => simp [Option.filter, hunder, of_decide_eq_false hfailed]
      | true =>
        cases hclaim : decide (record.claim_id = some claim_id) with
        | true => simp [Option.filter, hunder, of_decide_eq_true hfailed, of_decide_eq_true hclaim]
        | false => simp [Option.filter, hunder, of_decide_eq_true hfailed, of_decide_eq_false hclaim]

theorem failed_agrees_iff :
    update t seen
        (.markFailed outbox_id claim_id error failed_at dead_letter expected_tenant_id) =
      InMemoryEscalationPersistence.perform t
        (.markFailed outbox_id claim_id error failed_at dead_letter expected_tenant_id) ↔
    ∀ record ∈ t.get_escalation_outbox outbox_id expected_tenant_id,
      record.publishingUnder claim_id = true ∧
        failureMetadata Uuid seen failed_at = failureMetadata Uuid record.metadata failed_at := by
  rw [update, InMemoryEscalationPersistence.perform,
    InMemoryEscalationPersistence.mark_escalation_outbox_failed]
  cases t.get_escalation_outbox outbox_id expected_tenant_id with
  | none => exact iff_of_true rfl (fun _ h => by cases h)
  | some record =>
    cases hunder : record.publishingUnder claim_id with
    | true =>
      have hstatus : record.status ≠ .failed := by
        rw [(publishing_of_under hunder).1]
        decide
      simp only [Option.filter, hunder, hstatus, if_true, if_false, Bool.not_true, Bool.false_eq_true,
        outcome_inj, failedWith_inj]
      simp [hunder]
    | false =>
      have hother : unknownOutbox outbox_id ≠
          "escalation outbox failure claim does not match" := unknownOutbox_ne (by decide)
      have hactive : unknownOutbox outbox_id ≠
          "only the active escalation outbox claim can fail publication" :=
        unknownOutbox_ne (by decide)
      refine iff_of_false ?_ fun h => Bool.false_ne_true (hunder.symm.trans (h record rfl).1)
      simp only [Option.filter, hunder, Bool.false_eq_true, if_false, Bool.not_false, if_true]
      split
      · split <;> simp [hother]
      · simp [hactive]

theorem requeue_effect_iff :
    (update t seen
        (.requeueStale outbox_id stale_before requeued_at reason expected_tenant_id)).2 =
      (InMemoryEscalationPersistence.perform t
        (.requeueStale outbox_id stale_before requeued_at reason expected_tenant_id)).2 ↔
    ∀ record ∈ t.get_escalation_outbox outbox_id expected_tenant_id,
      if record.stale stale_before then
        requeueMetadata Uuid seen requeued_at reason =
          requeueMetadata Uuid record.metadata requeued_at reason
      else record.requeuedWith seen requeued_at reason = record := by
  rw [update, InMemoryEscalationPersistence.perform,
    InMemoryEscalationPersistence.requeue_stale_escalation_outbox]
  cases hrow : t.get_escalation_outbox outbox_id expected_tenant_id with
  | none => exact iff_of_true rfl (fun _ h => by cases h)
  | some record =>
    have hid : (record.requeuedWith seen requeued_at reason).outbox_id = record.outbox_id := rfl
    have hthere : t.outbox.get? record.outbox_id = some record := get_of_found hrow
    cases hstale : record.stale stale_before with
    | true =>
      have hsame : (record.requeuedWith seen requeued_at reason).outbox_id =
          (record.requeuedWith record.metadata requeued_at reason).outbox_id := rfl
      simp only [hstale, Bool.not_true, Bool.false_eq_true, if_false]
      rw [put_inj hsame, requeuedWith_inj]
      simp [hstale]
    | false =>
      simp only [hstale, Bool.not_false, if_true]
      rw [put_eq_self hid hthere]
      simp [hstale]

theorem requeue_agrees_iff :
    update t seen
        (.requeueStale outbox_id stale_before requeued_at reason expected_tenant_id) =
      InMemoryEscalationPersistence.perform t
        (.requeueStale outbox_id stale_before requeued_at reason expected_tenant_id) ↔
    ∀ record ∈ t.get_escalation_outbox outbox_id expected_tenant_id,
      record.stale stale_before = true ∧ requeueMetadata Uuid seen requeued_at reason =
        requeueMetadata Uuid record.metadata requeued_at reason := by
  rw [update, InMemoryEscalationPersistence.perform,
    InMemoryEscalationPersistence.requeue_stale_escalation_outbox]
  cases t.get_escalation_outbox outbox_id expected_tenant_id with
  | none => exact iff_of_true rfl (fun _ h => by cases h)
  | some record =>
    cases hstale : record.stale stale_before with
    | true =>
      simp only [hstale, Bool.not_true, Bool.false_eq_true, if_false, outcome_inj, requeuedWith_inj]
      simp [hstale]
    | false =>
      refine iff_of_false ?_ fun h => Bool.false_ne_true (hstale.symm.trans (h record rfl).1)
      simp [hstale]

end

/-! ## Steps -/

theorem ending_iff {P : OutboxTable Uuid → OutboxCall Uuid × Answer Uuid × OutboxTable Uuid → Prop}
    {C : OutboxTable Uuid → Metadata → OutboxCall Uuid → Prop}
    (hread : ∀ {t : OutboxTable Uuid} {call answer},
      PostgresEscalationPersistence.read t call = .inl answer → P t (call, answer, t))
    (hupdate : ∀ {t : OutboxTable Uuid} {seen call}, P t (call, update t seen call) ↔ C t seen call)
    (w : World Uuid) (act : Act Uuid) :
    (∀ ended ∈ ending w act, P w.table ended) ↔ AtUpdate C w act := by
  cases act with
  | read caller call =>
    refine iff_of_true (fun ended h => ?_) trivial
    rw [ending] at h
    split at h
    · rename_i hanswer
      cases h
      exact hread hanswer
    · cases h
  | update caller =>
    rw [ending, AtUpdate]
    cases w.calls.find? (·.1 = caller) with
    | none => exact iff_of_true (fun _ h => by cases h) (fun _ h => by cases h)
    | some entry =>
      constructor
      · rintro h _ ⟨⟩
        exact hupdate.mp (h _ rfl)
      · rintro h _ ⟨⟩
        exact hupdate.mpr (h _ rfl)

theorem effect_agrees_iff (w : World Uuid) (act : Act Uuid) :
    EffectAgrees w act ↔ AtUpdate CurrentCall w act := by
  refine ending_iff (P := fun t ended =>
    ended.2.2 = (InMemoryEscalationPersistence.perform t ended.1).2) (fun h => ?_) ?_ w act
  · rw [read_agrees h]
  · intro t seen call
    cases call with
    | claim escalation_id publisher_id claim_id claimed_at expected_tenant_id =>
      exact iff_of_true (congrArg Prod.snd (claim_agrees t seen _ _ _ _ _)) trivial
    | markPublished outbox_id claim_id published_at expected_tenant_id =>
      exact iff_of_true (published_effect seen) trivial
    | markFailed outbox_id claim_id error failed_at dead_letter expected_tenant_id =>
      exact failed_effect_iff
    | requeueStale outbox_id stale_before requeued_at reason expected_tenant_id =>
      exact requeue_effect_iff

theorem answer_agrees_iff (w : World Uuid) (act : Act Uuid) :
    AnswerAgrees w act ↔ AtUpdate UndisputedCall w act := by
  refine ending_iff (P := fun t ended => ended.2 = InMemoryEscalationPersistence.perform t ended.1)
    (fun h => (read_agrees h).symm) ?_ w act
  intro t seen call
  cases call with
  | claim escalation_id publisher_id claim_id claimed_at expected_tenant_id =>
    exact iff_of_true (claim_agrees t seen _ _ _ _ _) trivial
  | markPublished outbox_id claim_id published_at expected_tenant_id => exact published_agrees_iff seen
  | markFailed outbox_id claim_id error failed_at dead_letter expected_tenant_id =>
    exact failed_agrees_iff
  | requeueStale outbox_id stale_before requeued_at reason expected_tenant_id =>
    exact requeue_agrees_iff

/-! ## What the calls in memory keep -/

/-- A call in memory leaves the rows alone, or replaces one whose life has not ended; a requeue replaces one
whose claim is stale. -/
theorem perform_cases (t : OutboxTable Uuid) (call : OutboxCall Uuid) :
    (InMemoryEscalationPersistence.perform t call).2 = t ∨
      ∃ record record', t.outbox.get? record.outbox_id = some record ∧
        record.status.terminal = false ∧ record'.outbox_id = record.outbox_id ∧
        (InMemoryEscalationPersistence.perform t call).2 = t.put record' ∧
        ∀ outbox_id stale_before requeued_at reason expected_tenant_id,
          call = .requeueStale outbox_id stale_before requeued_at reason expected_tenant_id →
          record.outbox_id = outbox_id ∧ record.stale stale_before = true := by
  cases call with
  | claim escalation_id publisher_id claim_id claimed_at expected_tenant_id =>
    rw [InMemoryEscalationPersistence.perform, InMemoryEscalationPersistence.claim_escalation_outbox]
    cases hrow : t.get_escalation_outbox_by_escalation escalation_id expected_tenant_id with
    | none => exact Or.inl rfl
    | some record =>
      obtain ⟨outbox_id, -, hfound⟩ := Option.bind_eq_some_iff.mp hrow
      simp only
      split
      · exact Or.inl rfl
      · rename_i hpending
        refine Or.inr ⟨record, record.claimed publisher_id claim_id claimed_at, get_of_found hfound, ?_,
          rfl, rfl, fun _ _ _ _ _ h => by cases h⟩
        rw [not_not.mp hpending]
        rfl
  | markPublished outbox_id claim_id published_at expected_tenant_id =>
    rw [InMemoryEscalationPersistence.perform,
      InMemoryEscalationPersistence.mark_escalation_outbox_published]
    cases hrow : t.get_escalation_outbox outbox_id expected_tenant_id with
    | none => exact Or.inl rfl
    | some record =>
      simp only
      split
      · split <;> exact Or.inl rfl
      · split
        · exact Or.inl rfl
        · rename_i hunder
          simp only [Bool.not_eq_true', Bool.not_eq_false] at hunder
          refine Or.inr ⟨record, record.publishedAt published_at, get_of_found hrow, ?_, rfl, rfl,
            fun _ _ _ _ _ h => by cases h⟩
          rw [(publishing_of_under hunder).1]
          rfl
  | markFailed outbox_id claim_id error failed_at dead_letter expected_tenant_id =>
    rw [InMemoryEscalationPersistence.perform,
      InMemoryEscalationPersistence.mark_escalation_outbox_failed]
    cases hrow : t.get_escalation_outbox outbox_id expected_tenant_id with
    | none => exact Or.inl rfl
    | some record =>
      simp only
      split
      · split <;> exact Or.inl rfl
      · split
        · exact Or.inl rfl
        · rename_i hunder
          simp only [Bool.not_eq_true', Bool.not_eq_false] at hunder
          refine Or.inr ⟨record, record.failedWith record.metadata error failed_at dead_letter,
            get_of_found hrow, ?_, rfl, rfl, fun _ _ _ _ _ h => by cases h⟩
          rw [(publishing_of_under hunder).1]
          rfl
  | requeueStale outbox_id stale_before requeued_at reason expected_tenant_id =>
    rw [InMemoryEscalationPersistence.perform,
      InMemoryEscalationPersistence.requeue_stale_escalation_outbox]
    cases hrow : t.get_escalation_outbox outbox_id expected_tenant_id with
    | none => exact Or.inl rfl
    | some record =>
      simp only
      split
      · exact Or.inl rfl
      · rename_i hstale
        simp only [Bool.not_eq_true', Bool.not_eq_false] at hstale
        have hstatus : record.status = .publishing := by
          simp only [EscalationOutboxRecord.stale, Bool.and_eq_true, decide_eq_true_eq] at hstale
          exact hstale.1
        refine Or.inr ⟨record, record.requeuedWith record.metadata requeued_at reason, get_of_found hrow,
          by rw [hstatus]; rfl, rfl, rfl, ?_⟩
        rintro _ _ _ _ _ ⟨⟩
        exact ⟨t.keyed (Option.filter_eq_some_iff.mp hrow).1, hstale⟩

omit [Stdlib Uuid] in
theorem terminalKept_refl (t : OutboxTable Uuid) : TerminalKept t t :=
  fun _ record hrecord _ => ⟨record, hrecord, rfl⟩

theorem perform_terminal (t : OutboxTable Uuid) (call : OutboxCall Uuid) :
    TerminalKept t (InMemoryEscalationPersistence.perform t call).2 := by
  rcases perform_cases t call with hsame | ⟨record, record', hrecord, hlive, hid, hput, -⟩
  · rw [hsame]
    exact terminalKept_refl t
  · rw [hput]
    intro id old hold hterminal
    refine ⟨old, ?_, rfl⟩
    have hne : record'.outbox_id ≠ id := by
      rintro rfl
      rw [hid, hrecord] at hold
      cases hold
      rw [hlive] at hterminal
      cases hterminal
    exact (Dict.get?_set_ne _ _ hne).trans hold

/-! ## Runs -/

variable {act : Act Uuid}

theorem step_table {w w' : World Uuid} (h : step w act = some w') :
    w'.table = w.table ∨ ∃ ended ∈ ending w act, w'.table = ended.2.2 := by
  cases act with
  | read caller call =>
    rw [step] at h
    split at h <;> cases h <;> exact Or.inl rfl
  | update caller =>
    rw [step] at h
    rw [ending]
    cases hcall : w.calls.find? (·.1 = caller) with
    | none =>
      rw [hcall] at h
      cases h
    | some entry =>
      rw [hcall] at h
      cases h
      exact Or.inr ⟨_, rfl, rfl⟩

theorem kept_of_agrees {w w' : World Uuid} (h : step w act = some w')
    (hagrees : EffectAgrees w act) : TerminalKept w.table w'.table ∧ ReleasesStale w act w' := by
  constructor
  · rcases step_table h with hsame | ⟨ended, hended, htable⟩
    · rw [hsame]
      exact terminalKept_refl _
    · rw [htable, hagrees ended hended]
      exact perform_terminal _ _
  · intro ended hended outbox_id stale_before requeued_at reason expected_tenant_id hcall hchanged
    rcases step_table h with hsame | ⟨ended', hended', htable⟩
    · exact absurd hsame hchanged
    · cases Option.mem_unique hended hended'
      rw [htable, hagrees ended hended] at hchanged
      rcases perform_cases w.table ended.1 with hsame | ⟨record, record', hrecord, -, -, -, hstale⟩
      · exact absurd hsame hchanged
      · obtain ⟨hid, hold⟩ := hstale _ _ _ _ _ hcall
        exact ⟨record, hid ▸ hrecord, hold⟩

/-- A row that is published or failed keeps its status, a requeue releases stale claims only, and every step
leaves the rows as the call in memory does, exactly in the runs whose UPDATEs are current. The calls answer
as those in memory do exactly in the runs whose UPDATEs are undisputed. -/
theorem outbox_refines_memory_iff (w : World Uuid) (acts : List (Act Uuid)) :
    (runs.Along step (fun w act w' => TerminalKept w.table w'.table ∧ ReleasesStale w act w' ∧
        EffectAgrees w act) w acts ↔
      runs.Meets step (AtUpdate CurrentCall) w acts) ∧
    (runs.Along step (fun w act _ => AnswerAgrees w act) w acts ↔
      runs.Meets step (AtUpdate UndisputedCall) w acts) := by
  constructor
  · refine runs.along_iff_meets (I := fun _ => True) (fun _ _ _ _ _ _ => trivial) ?_ trivial
    intro w act w' _ hstep
    rw [← effect_agrees_iff]
    constructor
    · exact fun h => h.2.2
    · intro hagrees
      obtain ⟨hterminal, hstale⟩ := kept_of_agrees hstep hagrees
      exact ⟨hterminal, hstale, hagrees⟩
  · refine runs.along_iff_meets (I := fun _ => True) (fun _ _ _ _ _ _ => trivial) ?_ trivial
    exact fun w act _ _ _ => answer_agrees_iff w act

def publishingRow : EscalationOutboxRecord String where
  outbox_id := "outbox"
  escalation_id := "escalation"
  tenant_id := "acme"
  status := .publishing
  created_at := 0
  claimed_at := some 1
  publisher_id := some "publisher"
  claim_id := some "claim"
  republish_count := 1

def publishingWorld : World String where
  table :=
    { outbox := Dict.empty.set "outbox" publishingRow
      outbox_by_escalation := Dict.empty.set "escalation" "outbox"
      keyed := fun h => by
        rcases Dict.get?_set_cases h with ⟨rfl, rfl⟩ | ⟨-, hold⟩
        · rfl
        · cases hold }
  calls := []

/-- The reconciler reads the row while its claim is stale; the publisher publishes it; the UPDATE of the
reconciler comes last. -/
def lateRequeue : List (Act String) :=
  [.read 1 (.requeueStale "outbox" 5 6 "stale_publishing_claim" none),
    .read 2 (.markPublished "outbox" "claim" 7 (some "acme")), .update 2, .update 1]

/-- What was published is pending again. -/
theorem published_is_rearmed :
    (runs.after step publishingWorld (lateRequeue.take 3)).map (fun w =>
      (w.table.outbox.get? "outbox").map (·.status)) = some (some .published) ∧
    (runs.after step publishingWorld lateRequeue).map (fun w =>
      (w.table.outbox.get? "outbox").map (·.status)) = some (some .pending) := by
  decide +kernel

end operious.escalation
