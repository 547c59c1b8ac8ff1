-- The life of an outbound row: who owns it in each state, what a sent row holds, that a finished
-- row stays as it is, and that its count is the number of its claims and within the budget.
import Operious.Lib.Runs
import Operious.Outbound.SendRuntime

namespace operious.outbound

open InMemoryOutboundSendOutboxPersistence OutboundSendOutboxRuntime StoreCall

variable {Uuid : Type}

/-! ## The life of a row -/

/-- A row that was claimed `claims` times. -/
structure RowKept (claims : Nat) (row : OutboundSendOutboxRecord Uuid) : Prop where
  pending : row.status = .pending →
    row.claim_id = none ∧ row.worker_id = none ∧ row.claimed_at = none
  claimed : row.status = .claimed →
    row.claim_id.isSome ∧ row.worker_id.isSome ∧ row.claimed_at.isSome
  sent : row.status = .sent → row.sent_at.isSome ∧ row.provider_message_id.isSome
  counted : row.attempt_count = claims

theorem RowKept.fresh {row : OutboundSendOutboxRecord Uuid} (h : Fresh row) : RowKept 0 row where
  pending _ := h.unclaimed
  claimed hs := by rw [h.pending] at hs; cases hs
  sent hs := by rw [h.pending] at hs; cases hs
  counted := h.uncounted

variable {old new : OutboundSendOutboxRecord Uuid} {call : StoreCall Uuid}

theorem RowKept.moved {n : Nat} (h : RowKept n old) (m : Moved call old new) :
    RowKept (n + call.counts) new where
  pending hs := by
    have howned := m.owned
    rw [m.status] at hs
    cases call <;> cases hs <;> simpa [owner] using howned
  claimed hs := by
    have howned := m.owned
    rw [m.status] at hs
    cases call with
    | claim =>
      simp only [owner, Prod.mk.injEq] at howned
      simp [howned]
    | markAttempted | recordProviderMessageId =>
      simp only [owner, Prod.mk.injEq] at howned
      rw [howned.1, howned.2.1, howned.2.2]
      exact h.claimed m.guard
    | _ => cases hs
  sent hs := m.confirmed (m.status ▸ hs)
  counted := by rw [m.count, h.counted]

theorem StoreCall.Moved.unfinished (m : Moved call old new) : old.status.terminal = false := by
  rw [m.guard]
  cases call <;> rfl

variable {w : Written Uuid} {id : Uuid}

section

variable [DecidableEq Uuid] {rt : OutboundSendOutboxRuntime} {l l' l'' : Ledger Uuid}

def FinishedStay (l l' : Ledger Uuid) : Prop :=
  ∀ id row, l.store.records.get? id = some row → row.status.terminal →
    l'.store.records.get? id = some row

/-! ## The steps that the operations are made of -/

def Ledger.put (l : Ledger Uuid) (id : Uuid) (row : OutboundSendOutboxRecord Uuid)
    (claims : List Uuid) : Ledger Uuid :=
  ⟨{ l.store with records := l.store.records.set id row }, claims⟩

/-- One step: a call that is no claim, a claim, a claim and a dead letter in one, or a new row.
Only an exempt claim finds a row that has used up the budget. -/
inductive Advance (rt : OutboundSendOutboxRuntime) (exempt : Bool) (l : Ledger Uuid) :
    Ledger Uuid → Prop
  | called (call : StoreCall Uuid) (old new : OutboundSendOutboxRecord Uuid)
      (plain : call.counts = 0) (stored : l.store.records.get? call.outbox_id = some old)
      (move : Moved call old new) : Advance rt exempt l (l.put call.outbox_id new l.claims)
  | claimed (id c : Uuid) (worker : String) (t : Instant) (old new : OutboundSendOutboxRecord Uuid)
      (stored : l.store.records.get? id = some old) (move : Moved (.claim id c worker t) old new)
      (budget : exempt = true ∨ old.attempt_count < rt.max_attempts) :
      Advance rt exempt l (l.put id new (id :: l.claims))
  | buried (id c : Uuid) (worker error : String) (t t' : Instant)
      (old mid new : OutboundSendOutboxRecord Uuid)
      (stored : l.store.records.get? id = some old) (claim : Moved (.claim id c worker t) old mid)
      (dead : Moved (.deadLetter id c error t') mid new) :
      Advance rt exempt l (l.put id new (id :: l.claims))
  | created (record : OutboundSendOutboxRecord Uuid) (fresh : Fresh record)
      (free : l.store.records.get? record.outbox_id = none) (by_unique : Dict (UniqueKey Uuid) Uuid) :
      Advance rt exempt l
        ⟨⟨l.store.records.set record.outbox_id record, by_unique⟩, l.claims⟩

/-- What holds between the operations. -/
structure Kept (l : Ledger Uuid) : Prop where
  keyed : ∀ id row, l.store.records.get? id = some row → row.outbox_id = id
  rows : ∀ id row, l.store.records.get? id = some row → RowKept (l.claims.count id) row
  stored : ∀ id ∈ l.claims, l.store.records.get? id ≠ none

theorem Kept.start : Kept (Ledger.start : Ledger Uuid) where
  keyed _ _ h := by simp [Ledger.start, InMemoryOutboundSendOutboxPersistence.new] at h
  rows _ _ h := by simp [Ledger.start, InMemoryOutboundSendOutboxPersistence.new] at h
  stored _ h := by simp [Ledger.start] at h

variable {claims : List Uuid}

theorem Kept.put (h : Kept l) (hold : l.store.records.get? id = some old)
    (hid : new.outbox_id = old.outbox_id) (hnew : RowKept (claims.count id) new)
    (hclaims : claims = l.claims ∨ claims = id :: l.claims) :
    Kept (l.put id new claims) where
  keyed id' row hrow := by
    rcases Dict.get?_set_cases hrow with ⟨rfl, rfl⟩ | ⟨-, hrow⟩
    · exact hid.trans (h.keyed _ _ hold)
    · exact h.keyed id' row hrow
  rows id' row hrow := by
    rcases Dict.get?_set_cases hrow with ⟨rfl, rfl⟩ | ⟨hne, hrow⟩
    · exact hnew
    · have hcount : claims.count id' = l.claims.count id' := by
        rcases hclaims with rfl | rfl
        · rfl
        · exact List.count_cons_of_ne hne
      have hkept := h.rows id' row hrow
      rw [← hcount] at hkept
      exact hkept
  stored id' hmem := by
    by_cases hid' : id = id'
    · subst hid'
      simp [Ledger.put]
    · have hmem' : id' ∈ l.claims := by
        rcases hclaims with rfl | rfl
        · exact hmem
        · exact (List.mem_cons.mp hmem).resolve_left (Ne.symm hid')
      simpa [Ledger.put, Dict.get?_set_ne _ _ hid'] using h.stored id' hmem'

theorem Advance.kept {exempt : Bool} (h : Kept l) (ha : Advance rt exempt l l') : Kept l' := by
  cases ha with
  | called call old new plain stored move =>
    have hrow := (h.rows _ _ stored).moved move
    rw [plain] at hrow
    exact h.put stored move.same_id hrow (Or.inl rfl)
  | claimed id c worker t old new stored move =>
    refine h.put stored move.same_id ?_ (Or.inr rfl)
    rw [List.count_cons_self]
    exact (h.rows _ _ stored).moved move
  | buried id c worker error t t' old mid new stored claim dead =>
    refine h.put stored (dead.same_id.trans claim.same_id) ?_ (Or.inr rfl)
    rw [List.count_cons_self]
    exact ((h.rows _ _ stored).moved claim).moved dead
  | created record fresh free by_unique =>
    refine ⟨fun id row hrow => ?_, fun id row hrow => ?_, fun id hmem => ?_⟩
    · rcases Dict.get?_set_cases hrow with ⟨rfl, rfl⟩ | ⟨-, hrow⟩
      · rfl
      · exact h.keyed id row hrow
    · rcases Dict.get?_set_cases hrow with ⟨rfl, rfl⟩ | ⟨-, hrow⟩
      · -- No claim of an id goes before its row.
        have hnone : l.claims.count row.outbox_id = 0 :=
          List.count_eq_zero.mpr fun hmem => h.stored _ hmem free
        rw [hnone]
        exact .fresh fresh
      · exact h.rows id row hrow
    · by_cases hid : record.outbox_id = id
      · subst hid
        simp
      · simpa [Dict.get?_set_ne _ _ hid] using h.stored id hmem

theorem Advance.finished_stay {exempt : Bool} (ha : Advance rt exempt l l') :
    FinishedStay l l' := by
  intro id row hrow hfinished
  have hput : ∀ (id' : Uuid) (old new : OutboundSendOutboxRecord Uuid) (claims : List Uuid),
      l.store.records.get? id' = some old → old.status.terminal = false →
      (l.put id' new claims).store.records.get? id = some row := by
    intro id' old new claims stored live
    by_cases hid : id' = id
    · subst hid
      rw [hrow] at stored
      cases stored
      rw [live] at hfinished
      cases hfinished
    · exact (Dict.get?_set_ne _ _ hid).trans hrow
  cases ha with
  | called call old new plain stored move => exact hput _ _ _ _ stored move.unfinished
  | claimed id' c worker t old new stored move => exact hput _ _ _ _ stored move.unfinished
  | buried id' c worker error t t' old mid new stored claim =>
    exact hput _ _ _ _ stored claim.unfinished
  | created record fresh free by_unique =>
    by_cases hid : record.outbox_id = id
    · subst hid
      rw [hrow] at free
      cases free
    · exact (Dict.get?_set_ne _ _ hid).trans hrow

/-- A row within the budget: only a dead letter has one claim more. -/
def Budgeted (rt : OutboundSendOutboxRuntime) (row : OutboundSendOutboxRecord Uuid) : Prop :=
  row.attempt_count ≤ rt.max_attempts + 1 ∧
    (row.status ≠ .deadLettered → row.attempt_count ≤ rt.max_attempts)

def AllBudgeted (rt : OutboundSendOutboxRuntime) (l : Ledger Uuid) : Prop :=
  ∀ id row, l.store.records.get? id = some row → Budgeted rt row

theorem AllBudgeted.put (h : AllBudgeted rt l) {new : OutboundSendOutboxRecord Uuid}
    (hnew : Budgeted rt new) : AllBudgeted rt (l.put id new claims) := by
  intro id' row hrow
  rcases Dict.get?_set_cases hrow with ⟨-, rfl⟩ | ⟨-, hrow⟩
  · exact hnew
  · exact h id' row hrow

theorem Advance.budgeted (h : AllBudgeted rt l) (ha : Advance rt false l l') :
    AllBudgeted rt l' := by
  cases ha with
  | called call old new plain stored move =>
    refine h.put ?_
    have hcount := move.count
    have hlive : old.status ≠ .deadLettered := by
      intro hdead
      have := move.unfinished
      rw [hdead] at this
      cases this
    have hle := (h _ _ stored).2 hlive
    unfold Budgeted
    omega
  | claimed id c worker t old new stored move budget =>
    refine h.put ?_
    have hcount := move.count
    simp only [Bool.false_eq_true, false_or] at budget
    simp only [StoreCall.counts] at hcount
    unfold Budgeted
    omega
  | buried id c worker error t t' old mid new stored claim dead =>
    refine h.put ?_
    have hclaim := claim.count
    have hdead := dead.count
    have hguard := claim.guard
    have hstatus := dead.status
    simp only [StoreCall.counts, StoreCall.needs, StoreCall.leaves] at hclaim hdead hguard hstatus
    have hle := (h _ _ stored).2 (by rw [hguard]; decide)
    exact ⟨by omega, fun hne => absurd hstatus hne⟩
  | created record fresh free by_unique =>
    intro id row hrow
    rcases Dict.get?_set_cases hrow with ⟨-, rfl⟩ | ⟨-, hrow⟩
    · unfold Budgeted
      rw [fresh.uncounted]
      exact ⟨Nat.zero_le _, fun _ => Nat.zero_le _⟩
    · exact h id row hrow

/-! ## Several steps -/

/-- Some steps, one after the other. -/
abbrev Advances (rt : OutboundSendOutboxRuntime) (exempt : Bool) : Ledger Uuid → Ledger Uuid → Prop :=
  Relation.ReflTransGen (Advance rt exempt)

theorem Advances.kept {exempt : Bool} (h : Kept l) (ha : Advances rt exempt l l') : Kept l' := by
  induction ha with
  | refl => exact h
  | tail _ step ih => exact step.kept ih

theorem Advances.finished_stay {exempt : Bool} (ha : Advances rt exempt l l') :
    FinishedStay l l' := by
  induction ha with
  | refl => exact fun id row hrow _ => hrow
  | tail _ step ih =>
    intro id row hrow hfinished
    exact step.finished_stay id row (ih id row hrow hfinished) hfinished

theorem Advances.budgeted (h : AllBudgeted rt l) (ha : Advances rt false l l') :
    AllBudgeted rt l' := by
  induction ha with
  | refl => exact h
  | tail _ step ih => exact step.budgeted ih

theorem advances_of_performed {exempt : Bool} (h : Performed call l.store w)
    (plain : call.counts = 0) : Advances rt exempt l { l with store := w.2 } := by
  cases h with
  | refused => exact .refl
  | moved old new found stored move => exact .single (.called call old new plain stored move)

end

/-! ## The lifecycle of the store -/

section

variable [DecidableEq Uuid] [Stdlib Uuid] {rt : OutboundSendOutboxRuntime}
  {l l' : Ledger Uuid}

/-- A call with a token that no claim of its row has gives none and leaves the store alone. -/
def RefusesOthers (s : InMemoryOutboundSendOutboxPersistence Uuid) : Prop :=
  ∀ (call : StoreCall Uuid) (c : Uuid), call.token = some c →
    (∀ row, s.records.get? call.outbox_id = some row →
      ¬ (row.status = .claimed ∧ row.claim_id = some c)) →
    call.perform none s = (none, s)

def Lifecycle (l : Ledger Uuid) (_ : Operation Uuid) (l' : Ledger Uuid) : Prop :=
  (∀ id row, l'.store.records.get? id = some row → RowKept (l'.claims.count id) row) ∧
    FinishedStay l l' ∧ RefusesOthers l'.store

/-- No row was claimed more often than the budget allows, but for the claim that buries it. -/
def WithinBudget (rt : OutboundSendOutboxRuntime) (_ : Ledger Uuid) (_ : Operation Uuid)
    (l' : Ledger Uuid) : Prop :=
  ∀ id row, l'.store.records.get? id = some row → row.attempt_count ≤ rt.max_attempts + 1

/-- The record that an operation creates has an id of its own, or the key of a row that is there.
The id joins the fields of the key with bars, so two keys can have one id. -/
def OwnId (l : Ledger Uuid) : Operation Uuid → Prop
  | .create request =>
    match makeOutboundSendOutboxRecord request with
    | .error _ => True
    | .ok record =>
      l.store.by_unique.get? record.uniqueKey ≠ none ∨
        l.store.records.get? record.outbox_id = none
  | _ => True

instance (l : Ledger Uuid) (operation : Operation Uuid) : Decidable (OwnId l operation) := by
  unfold OwnId
  split
  · split <;> infer_instance
  · infer_instance

/-- Whether an operation is a claim that ignores the budget. The dead-letter sweep makes such
claims too, but not as an operation. -/
def Operation.exempt : Operation Uuid → Bool
  | .claimDue _ _ _ allow_exhausted => allow_exhausted
  | _ => false

/-! ## What the operations do -/

/-- The outcome of a claim: the ledger as it was, or a claim of a row that was due. -/
inductive ClaimDone (rt : OutboundSendOutboxRuntime) (l : Ledger Uuid) (allow_exhausted : Bool) :
    OutboundSendOutboxClaimResult Uuid × Ledger Uuid → Prop
  | refused (result : OutboundSendOutboxClaimResult Uuid) (unclaimed : result.claimed = false) :
      ClaimDone rt l allow_exhausted (result, l)
  | claimed (id c : Uuid) (worker : String) (t : Instant) (old new : OutboundSendOutboxRecord Uuid)
      (stored : l.store.records.get? id = some old) (move : Moved (.claim id c worker t) old new)
      (budget : allow_exhausted = true ∨ old.attempt_count < rt.max_attempts) :
      ClaimDone rt l allow_exhausted
        ({ claimed := true, outbox := some new }, l.put id new (id :: l.claims))

variable {allow_exhausted : Bool}

omit [DecidableEq Uuid] [Stdlib Uuid] in
theorem within_of_not_refused {current : OutboundSendOutboxRecord Uuid} {now : Instant}
    (h : rt.claimRefusal current now allow_exhausted = none) :
    allow_exhausted = true ∨ current.attempt_count < rt.max_attempts := by
  unfold claimRefusal shouldDeadLetter at h
  split_ifs at h with h1 h2 h3
  cases allow_exhausted with
  | true => exact Or.inl rfl
  | false =>
    simp at h3
    exact Or.inr h3.1

theorem claimDueOutbox_done (h : Kept l) {outbox_id : Uuid} {worker_id : String}
    {claimed_at : Instant} {out : OutboundSendOutboxClaimResult Uuid × Ledger Uuid}
    (hok : rt.claimDueOutbox l outbox_id worker_id claimed_at allow_exhausted = .ok out) :
    ClaimDone rt l allow_exhausted out := by
  unfold claimDueOutbox at hok
  split at hok
  · cases hok
  · simp only [getOutboundSendOutbox] at hok
    split at hok
    · cases hok
      exact .refused _ rfl
    · rename_i current hcurrent
      split at hok
      · cases hok
        exact .refused _ rfl
      · rename_i hrefusal
        obtain ⟨c, -, hok⟩ := bind_eq_ok.mp hok
        have hdone := performed none l.store (.claim current.outbox_id c worker_id claimed_at)
        simp only [perform] at hdone
        generalize hw :
          l.store.claimOutboundSendOutbox current.outbox_id c worker_id claimed_at = w
        rw [hw] at hok hdone
        cases hdone with
        | refused =>
          cases hok
          exact .refused _ rfl
        | moved old new found stored move =>
          cases hok
          have hid := h.keyed _ _ hcurrent
          subst hid
          simp only [StoreCall.outbox_id] at stored
          rw [hcurrent] at stored
          cases stored
          refine .claimed _ c worker_id claimed_at current new hcurrent move ?_
          exact within_of_not_refused hrefusal

omit [Stdlib Uuid] in
theorem deadLetter_of_claimed {c : Uuid} {worker error : String} {t t' : Instant}
    {old mid : OutboundSendOutboxRecord Uuid} (claim : Moved (.claim id c worker t) old mid)
    (h : Performed (.deadLetter id c error t') (l.put id mid (id :: l.claims)).store w) :
    ∃ new, Moved (.deadLetter id c error t') mid new ∧
      w.2 = (l.put id new (id :: l.claims)).store := by
  have hmid : (l.put id mid (id :: l.claims)).store.records.get? id = some mid :=
    Dict.get?_set_self _ _ _
  cases h with
  | refused unfound =>
    have howned := claim.owned
    simp only [owner, Prod.mk.injEq] at howned
    have hfound := matchingClaim_eq_some.mpr ⟨hmid, claim.status, howned.1⟩
    simp only [found] at unfound
    rw [hfound] at unfound
    cases unfound
  | moved old' new found stored move =>
    simp only [StoreCall.outbox_id] at stored
    rw [hmid] at stored
    cases stored
    refine ⟨new, move, ?_⟩
    simp [Ledger.put, StoreCall.outbox_id, Dict.set_set]

theorem deadLetterExhausted_advances (exempt : Bool) (h : Kept l) {args : ExhaustedArgs}
    {outbox : OutboundSendOutboxRecord Uuid}
    {out : Option (OutboundSendOutboxRecord Uuid) × Ledger Uuid}
    (hok : rt.deadLetterExhausted args l outbox = .ok out) : Advances rt exempt l out.2 := by
  unfold deadLetterExhausted at hok
  split at hok
  · cases hok
    exact .refl
  · obtain ⟨⟨claim, l₁⟩, hclaim, hok⟩ := bind_eq_ok.mp hok
    cases claimDueOutbox_done h hclaim with
    | refused result unclaimed =>
      simp only [unclaimed] at hok
      cases hok
      exact .refl
    | claimed id c worker t old mid stored move =>
      have howned := move.owned
      simp only [owner, Prod.mk.injEq] at howned
      have hid : mid.outbox_id = id := move.same_id.trans (h.keyed _ _ stored)
      simp only [howned.1, hid] at hok
      have hdone := performed none (l.put id mid (id :: l.claims)).store
        (.deadLetter id c args.reason args.now)
      simp only [perform] at hdone
      obtain ⟨new, dead, hstore⟩ := deadLetter_of_claimed move hdone
      cases hok
      have hburied : Advance rt exempt l (l.put id new (id :: l.claims)) :=
        .buried id c worker args.reason t args.now old mid new stored move dead
      refine .single ?_
      simp only [hstore]
      exact hburied

theorem sweepExhausted_advances {exempt : Bool} (h : Kept l) (args : ExhaustedArgs)
    (page : List (OutboundSendOutboxRecord Uuid)) (result : OutboundSendOutboxSweepResult Uuid) :
    Advances rt exempt l (rt.sweepExhausted args page result l).2 := by
  induction page generalizing l result with
  | nil => exact .refl
  | cons outbox rest ih =>
    unfold sweepExhausted
    cases hrow : rt.deadLetterExhausted args l outbox with
    | error e => exact .refl
    | ok out =>
      have hfirst := deadLetterExhausted_advances exempt h hrow
      exact hfirst.trans (ih (hfirst.kept h) _)

omit [DecidableEq Uuid] [Stdlib Uuid] in
theorem staleCall_plain (args : StaleArgs) (outbox : OutboundSendOutboxRecord Uuid) :
    (staleCall args outbox).counts = 0 := by
  unfold staleCall
  split_ifs <;> rfl

theorem sweepStale_advances {exempt : Bool} (args : StaleArgs)
    (page : List (OutboundSendOutboxRecord Uuid)) (result : OutboundSendOutboxSweepResult Uuid)
    (s : InMemoryOutboundSendOutboxPersistence Uuid) (hs : l.store = s) :
    Advances rt exempt l { l with store := (sweepStale args page (result, s)).2 } := by
  subst hs
  induction page generalizing l result with
  | nil => exact .refl
  | cons outbox rest ih =>
    have hfirst : Advances rt exempt l
        { l with store := ((staleCall args outbox).perform none l.store).2 } :=
      advances_of_performed (performed none l.store _) (staleCall_plain args outbox)
    exact hfirst.trans (ih (l := { l with store := _ }) _)

theorem next_advances (h : Kept l) {operation : Operation Uuid} (hown : OwnId l operation)
    (hs : rt.next l operation = some l') : Advances rt operation.exempt l l' := by
  unfold next at hs
  cases operation with
  | create request =>
    simp only [OwnId] at hown
    cases hmake : makeOutboundSendOutboxRecord request with
    | error e =>
      simp only [hmake] at hs
      cases hs
      exact .refl
    | ok record =>
      simp only [hmake] at hs hown
      cases hs
      unfold createOutboundSendOutbox
      split
      · exact .refl
      · rename_i hkey
        have hfree := hown.resolve_left (fun hne => hne hkey)
        exact .single
          (.created record (makeOutboundSendOutboxRecord_fresh hmake) hfree _)
  | claimDue outbox_id worker_id claimed_at allow_exhausted =>
    cases hclaim : rt.claimDueOutbox l outbox_id worker_id claimed_at allow_exhausted with
    | error e =>
      simp only [hclaim] at hs
      cases hs
      exact .refl
    | ok out =>
      simp only [hclaim] at hs
      cases hs
      cases claimDueOutbox_done h hclaim with
      | refused => exact .refl
      | claimed id c worker t old new stored move budget =>
        exact .single (.claimed id c worker t old new stored move budget)
  | requeueStaleClaimed args =>
    cases hs
    exact sweepStale_advances args _ _ _ rfl
  | deadLetterExhaustedPending args =>
    cases hs
    exact sweepExhausted_advances h args _ _
  | _ =>
    cases hs
    exact advances_of_performed (performed none l.store _) rfl

omit [DecidableEq Uuid] [Stdlib Uuid] in
theorem token_plain {c : Uuid} (h : call.token = some c) : call.needs = .claimed := by
  cases call <;> first | rfl | cases h

theorem refusesOthers (s : InMemoryOutboundSendOutboxPersistence Uuid) : RefusesOthers s := by
  intro call c htoken hother
  have hdone := performed none s call
  generalize call.perform none s = w at hdone
  cases hdone with
  | refused => rfl
  | moved old new found stored move =>
    refine absurd ⟨?_, move.holds c htoken⟩ (hother old stored)
    rw [move.guard, token_plain htoken]

/-- Over every run of operations in which each created record has an id of its own, the life of
every row goes as it should; and when no operation is an exempt claim, no row is claimed more often
than the budget and one dead letter allow. -/
theorem lifecycle_kept (rt : OutboundSendOutboxRuntime) (operations : List (Operation Uuid))
    (hown : runs.Meets rt.next OwnId Ledger.start operations) :
    runs.Along rt.next Lifecycle Ledger.start operations ∧
      ((∀ operation ∈ operations, operation.exempt = false) →
        runs.Along rt.next (WithinBudget rt) Ledger.start operations) := by
  constructor
  · refine runs.along_when (I := Kept) ?_ Kept.start hown
    intro l operation l' h howns hs
    have hadvances := next_advances h howns hs
    have hkept := hadvances.kept h
    exact ⟨hkept, hkept.rows, hadvances.finished_stay, refusesOthers l'.store⟩
  · intro hexempt
    refine runs.along_when (I := fun l => Kept l ∧ AllBudgeted rt l) ?_
      ⟨Kept.start, fun id row hrow => ?_⟩ (hown.and_all hexempt)
    · rintro l operation l' ⟨h, hbudget⟩ ⟨howns, hplain⟩ hs
      have hadvances := next_advances h howns hs
      rw [hplain] at hadvances
      have hbudget' := hadvances.budgeted hbudget
      exact ⟨⟨hadvances.kept h, hbudget'⟩, fun id row hrow => (hbudget' id row hrow).1⟩
    · simp [Ledger.start, InMemoryOutboundSendOutboxPersistence.new] at hrow

/-! ## Two runs over plain texts, with a budget of one -/

def oneAttempt : OutboundSendOutboxRuntime := { max_attempts := 1 }

def digest : String := "e3b0c44298fc1c149afbf4c8996fb92427ae41e4649b934ca495991b7852b855"

def sendRequest (recipient action : String) : SendRequest String where
  tenant_id := "t"
  channel := "email"
  action := action
  draft_id := "d"
  proposal_id := "p"
  session_id := "s"
  dispatch_id := "x"
  governance_decision_id := "g"
  recipient := recipient
  draft_body_sha256 := digest
  created_at := 0

/-- The id of the row that both requests below give. -/
def sharedId : String := "t|d|email|r|b|c"

/-- The row as the first claim returns it. -/
def sharedRow : OutboundSendOutboxRecord String where
  outbox_id := sharedId
  tenant_id := "t"
  channel := "email"
  action := "c"
  draft_id := "d"
  proposal_id := "p"
  session_id := "s"
  dispatch_id := "x"
  governance_decision_id := "g"
  recipient := "r|b"
  draft_body_sha256 := digest
  status := .claimed
  created_at := 0
  updated_at := 0
  claimed_at := some 0
  claim_id := some "t~bd~bemail~br~bb~bc|w|1"
  worker_id := some "w"
  attempt_count := 1

/-- One claim within the budget, and then the dead letter of the sweep. -/
def spent : List (Operation String) :=
  [.create (sendRequest "r|b" "c"),
    .claimDue sharedId "w" 0 false,
    .reschedule sharedRow "t~bd~bemail~br~bb~bc|w|1" "boom" 0 none,
    .deadLetterExhaustedPending { now := seconds 100 }]

/-- The same first claim, and one more by a caller that allows exhausted rows. -/
def reclaimed : List (Operation String) :=
  [.create (sendRequest "r|b" "c"),
    .claimDue sharedId "w" 0 false,
    .reschedule sharedRow "t~bd~bemail~br~bb~bc|w|1" "boom" 0 none,
    .claimDue sharedId "w" (seconds 100) true,
    .reschedule sharedRow "t~bd~bemail~br~bb~bc|w|2" "boom" (seconds 100) none]

def claimOnceMore : Operation String := .claimDue sharedId "w" (seconds 200) true

def delivered : List (Operation String) :=
  [.create (sendRequest "r|b" "c"),
    .claimDue sharedId "w" 0 false,
    .markSent sharedId "t~bd~bemail~br~bb~bc|w|1" "m1" 0]

/-- Another request, whose fields join to the same id. -/
def createOver : Operation String := .create (sendRequest "r" "b|c")

theorem the_spent_row_is_kept :
    runs.Along oneAttempt.next Lifecycle Ledger.start spent ∧
      runs.Along oneAttempt.next (WithinBudget oneAttempt) Ledger.start spent := by
  obtain ⟨hlife, hbudget⟩ := lifecycle_kept oneAttempt spent (by decide +kernel)
  exact ⟨hlife, hbudget (by decide)⟩

/-- The row that the runs are about. -/
def Ledger.sharedRow (l : Ledger String) : Option (OutboundSendOutboxRecord String) :=
  l.store.records.get? sharedId

/-- An exempt claim needs no sweep, so two of them go past the budget. A row that is sent does not
stay: the store puts a new record under its id. -/
theorem exempt_claims_and_shared_ids_break_the_lifecycle :
    ¬ runs.Along oneAttempt.next (WithinBudget oneAttempt) Ledger.start
        (reclaimed ++ [claimOnceMore]) ∧
      ¬ runs.Along oneAttempt.next Lifecycle Ledger.start (delivered ++ [createOver]) := by
  constructor
  · intro h
    have hcount : ∀ l ∈ runs.after oneAttempt.next Ledger.start reclaimed,
        ∀ l' ∈ oneAttempt.next l claimOnceMore,
          l'.sharedRow.any fun row => row.attempt_count > oneAttempt.max_attempts + 1 := by
      decide +kernel
    obtain ⟨l, hl⟩ : ∃ l, runs.after oneAttempt.next Ledger.start reclaimed = some l :=
      Option.isSome_iff_exists.mp (by decide +kernel)
    obtain ⟨row, hrow, hmore⟩ := (Option.any_eq_true _ _).mp (hcount l hl _ rfl)
    have hle := h.last hl rfl sharedId row hrow
    simp at hmore
    omega
  · intro h
    have hsent : ∀ l ∈ runs.after oneAttempt.next Ledger.start delivered,
        l.sharedRow.any (fun row => row.status.terminal) ∧
          ∀ l' ∈ oneAttempt.next l createOver,
            l'.sharedRow.any fun row => row.status = .pending := by
      decide +kernel
    obtain ⟨l, hl⟩ : ∃ l, runs.after oneAttempt.next Ledger.start delivered = some l :=
      Option.isSome_iff_exists.mp (by decide +kernel)
    obtain ⟨hfinished, hpending⟩ := hsent l hl
    obtain ⟨row, hrow, hterminal⟩ := (Option.any_eq_true _ _).mp hfinished
    obtain ⟨row', hrow', hstatus⟩ := (Option.any_eq_true _ _).mp (hpending _ rfl)
    have hstays := (h.last hl rfl).2.1 sharedId row hrow hterminal
    have hsame : row' = row := Option.some.inj (hrow'.symm.trans hstays)
    subst hsame
    simp only [decide_eq_true_eq] at hstatus
    rw [hstatus] at hterminal
    cases hterminal

end

end operious.outbound
