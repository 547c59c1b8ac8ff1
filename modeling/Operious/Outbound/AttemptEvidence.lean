-- The attempt on a claimed row against the claim that marked it: no path that releases a claim takes the
-- attempt of the row back, so a later claim of the row starts with it.
import Operious.Outbound.Lifecycle

namespace operious.outbound

open InMemoryOutboundSendOutboxPersistence OutboundSendOutboxRuntime StoreCall
open runs

namespace attempt_evidence

variable {Uuid : Type} [DecidableEq Uuid] [Stdlib Uuid]

/-! ## Which claims marked an attempt -/

/-- The ledger with the claims under which `mark_send_attempted` succeeded, as row and token. -/
structure Marked (Uuid : Type) where
  ledger : Ledger Uuid
  marks : List (Uuid × Uuid)

def Marked.start : Marked Uuid := ⟨.start, []⟩

/-- A mark that lands is noted. A row that is created has none, also when it takes the place of another. -/
def marksAfter (m : Marked Uuid) : Operation Uuid → List (Uuid × Uuid)
  | .markSendAttempted outbox_id claim_id _ =>
    match m.ledger.store.matchingClaim outbox_id claim_id with
    | none => m.marks
    | some _ => (outbox_id, claim_id) :: m.marks
  | .create request =>
    match makeOutboundSendOutboxRecord request with
    | .error _ => m.marks
    | .ok record =>
      match m.ledger.store.by_unique.get? record.uniqueKey with
      | some _ => m.marks
      | none => m.marks.filter (·.1 ≠ record.outbox_id)
  | _ => m.marks

def nextMarked (rt : OutboundSendOutboxRuntime) (m : Marked Uuid) (operation : Operation Uuid) :
    Option (Marked Uuid) :=
  (rt.next m.ledger operation).map fun l => ⟨l, marksAfter m operation⟩

def MarkedNow (marks : List (Uuid × Uuid)) (row : OutboundSendOutboxRecord Uuid) : Prop :=
  ∃ c, row.claim_id = some c ∧ (row.outbox_id, c) ∈ marks

/-- A claimed row shows an attempt exactly when its claim marked one, and a sweep makes every stale claim
pending that has marked none. -/
structure BelongsToClaim (m : Marked Uuid) (operation : Operation Uuid) (m' : Marked Uuid) : Prop where
  evidence : ∀ id row, m'.ledger.store.records.get? id = some row → row.status = .claimed →
    (row.send_attempted_at.isSome ↔ MarkedNow m'.marks row)
  requeued : ∀ args, operation = .requeueStaleClaimed args →
    ∀ row ∈ (m.ledger.store.listOutboundSendOutbox (staleQuery args)).records, ¬ MarkedNow m.marks row →
      ∃ row', m'.ledger.store.records.get? row.outbox_id = some row' ∧ row'.status = .pending

/-- The claim of this row goes through. -/
def Claims (rt : OutboundSendOutboxRuntime) (worker_id : String) (claimed_at : Instant)
    (allow_exhausted : Bool) (row : OutboundSendOutboxRecord Uuid) : Prop :=
  worker_id.isEmpty = false ∧ (strip worker_id).isEmpty = false ∧
    rt.claimRefusal row claimed_at allow_exhausted = none

/-- A claim is taken of a row without an attempt only, and a sweep lists a claim that has marked none only
without a provider id. -/
def StartsClean (rt : OutboundSendOutboxRuntime) (m : Marked Uuid) : Operation Uuid → Prop
  | .claimDue outbox_id worker_id claimed_at allow_exhausted =>
    ∀ row, m.ledger.store.records.get? outbox_id = some row →
      Claims rt worker_id claimed_at allow_exhausted row → row.send_attempted_at = none
  | .requeueStaleClaimed args =>
    ∀ row ∈ (m.ledger.store.listOutboundSendOutbox (staleQuery args)).records, ¬ MarkedNow m.marks row →
      row.provider_message_id = none
  | _ => True

/-! ## The tokens -/

/-- The token of one of the first `count` claims of a row. -/
def Issued (id : Uuid) (count : Nat) (c : Uuid) : Prop :=
  ∃ worker n, n ≤ count ∧ deriveOutboundSendClaimId id worker n = .ok c

variable {c : Uuid}

variable {id : Uuid}

omit [DecidableEq Uuid] in
theorem Issued.mono {count count' : Nat} (h : Issued id count c) (hle : count ≤ count') :
    Issued id count' c := by
  obtain ⟨worker, n, hn, hc⟩ := h
  exact ⟨worker, n, hn.trans hle, hc⟩

variable {worker : String}

omit [DecidableEq Uuid] in
theorem derive_ok {n : Nat} (h : deriveOutboundSendClaimId id worker n = .ok c) :
    c = Stdlib.uuid5 claimNamespace (Stdlib.str id ++ "|" ++ strip worker ++ "|" ++ n.repr) := by
  unfold deriveOutboundSendClaimId at h
  split at h
  · cases h
  · obtain ⟨text, htext, hc⟩ := bind_eq_ok.mp h
    simp only [requiredText] at htext
    split at htext <;> cases htext
    exact (Except.ok.inj hc).symm

omit [DecidableEq Uuid] in
theorem not_issued [LawfulStdlib Uuid] {count : Nat}
    (h : deriveOutboundSendClaimId id worker (count + 1) = .ok c) : ¬ Issued id count c := by
  rintro ⟨worker', n, hn, hc⟩
  have hseed := congrArg String.toList
    (LawfulStdlib.uuid5_inj _ ((derive_ok h).symm.trans (derive_ok hc)))
  simp only [String.toList_append, List.append_assoc, String.reduceToList, List.singleton_append] at hseed
  obtain ⟨-, hrest⟩ := cut_at_bar (LawfulStdlib.str_no_bar id) (LawfulStdlib.str_no_bar id) hseed
  obtain ⟨-, hcount⟩ := cut_at_last_bar (repr_no_bar _) (repr_no_bar n) hrest
  have hsame : count + 1 = n := repr_inj (String.toList_injective hcount)
  omega

/-! ## What holds between the operations -/

structure Sound (s : InMemoryOutboundSendOutboxPersistence Uuid) (marks : List (Uuid × Uuid)) : Prop where
  keyed : ∀ id row, s.records.get? id = some row → row.outbox_id = id
  held : ∀ id row c, s.records.get? id = some row → row.claim_id = some c → Issued id row.attempt_count c
  noted : ∀ id c, (id, c) ∈ marks → ∃ row, s.records.get? id = some row ∧ Issued id row.attempt_count c
  evidence : ∀ id row, s.records.get? id = some row → row.status = .claimed →
    (row.send_attempted_at.isSome ↔ MarkedNow marks row)

variable {s : InMemoryOutboundSendOutboxPersistence Uuid} {marks : List (Uuid × Uuid)} {id : Uuid}
  {old new : OutboundSendOutboxRecord Uuid}

/-- One row is written over, perhaps with one more mark of its own. -/
theorem Sound.put (h : Sound s marks) {marks' : List (Uuid × Uuid)}
    (hstored : s.records.get? id = some old) (hid : new.outbox_id = old.outbox_id)
    (hcount : old.attempt_count ≤ new.attempt_count)
    (hheld : ∀ c, new.claim_id = some c → Issued id new.attempt_count c)
    (hmarks : marks' = marks ∨ ∃ c, old.claim_id = some c ∧ marks' = (id, c) :: marks)
    (hevidence : new.status = .claimed → (new.send_attempted_at.isSome ↔ MarkedNow marks' new))
    (by_unique : Dict (UniqueKey Uuid) Uuid) : Sound ⟨s.records.set id new, by_unique⟩ marks' where
  keyed id' row hrow := by
    rcases Dict.get?_set_cases hrow with ⟨rfl, rfl⟩ | ⟨-, hrow⟩
    · exact hid.trans (h.keyed _ _ hstored)
    · exact h.keyed _ _ hrow
  held id' row c hrow hc := by
    rcases Dict.get?_set_cases hrow with ⟨rfl, rfl⟩ | ⟨-, hrow⟩
    · exact hheld c hc
    · exact h.held _ _ c hrow hc
  noted id' c hmark := by
    have hbefore : ∃ row, s.records.get? id' = some row ∧ Issued id' row.attempt_count c := by
      rcases hmarks with rfl | ⟨c', hold, rfl⟩
      · exact h.noted id' c hmark
      · rcases List.mem_cons.mp hmark with heq | hmark
        · obtain ⟨rfl, rfl⟩ := Prod.mk.inj heq
          exact ⟨old, hstored, h.held _ _ _ hstored hold⟩
        · exact h.noted id' c hmark
    obtain ⟨row, hrow, hissued⟩ := hbefore
    rcases eq_or_ne id id' with rfl | hne
    · obtain rfl := Option.some.inj (hstored.symm.trans hrow)
      exact ⟨new, Dict.get?_set_self _ _ _, hissued.mono hcount⟩
    · exact ⟨row, (Dict.get?_set_ne _ _ hne).trans hrow, hissued⟩
  evidence id' row hrow hclaimed := by
    rcases Dict.get?_set_cases hrow with ⟨rfl, rfl⟩ | ⟨hne, hrow⟩
    · exact hevidence hclaimed
    · rw [h.evidence _ _ hrow hclaimed, MarkedNow, MarkedNow]
      rcases hmarks with rfl | ⟨c', -, rfl⟩
      · rfl
      · -- the new mark is of another row
        have hother : ∀ c, (row.outbox_id, c) ≠ (id, c') := by
          rw [h.keyed _ _ hrow]
          exact fun c heq => hne (Prod.mk.inj heq).1.symm
        simp [hother]

variable {call : StoreCall Uuid}

theorem Sound.moved (h : Sound s marks) (hplain : call.counts = 0) (hattempt : call.attempt = none)
    (hstored : s.records.get? call.outbox_id = some old) (move : Moved call old new) :
    Sound { s with records := s.records.set call.outbox_id new } marks := by
  have howned := move.owned
  have hcount : new.attempt_count = old.attempt_count := by rw [move.count, hplain, Nat.add_zero]
  refine h.put hstored move.same_id hcount.ge (fun c hc => ?_) (.inl rfl) (fun hclaimed => ?_) _
  · rw [hcount]
    refine h.held _ _ c hstored ?_
    cases call with
    | claim => cases hplain
    | reschedule | requeueStale => cases (Prod.mk.inj howned).1.symm.trans hc
    | _ => exact (Prod.mk.inj howned).1.symm.trans hc
  · -- what stays claimed keeps its token and its attempt
    rw [move.status] at hclaimed
    have hattempted := move.attempted
    rw [hattempt, Option.none_or] at hattempted
    have htoken : new.claim_id = old.claim_id ∧ old.status = .claimed := by
      cases call with
      | recordProviderMessageId => exact ⟨(Prod.mk.inj howned).1, move.guard⟩
      | claim => cases hplain
      | markAttempted => cases hattempt
      | _ => cases hclaimed
    rw [hattempted, h.evidence _ _ hstored htoken.2, MarkedNow, MarkedNow, htoken.1, move.same_id]

variable {t : Instant}

theorem Sound.marked (h : Sound s marks) (hstored : s.records.get? id = some old)
    (move : Moved (.markAttempted id c t) old new) :
    Sound { s with records := s.records.set id new } ((id, c) :: marks) := by
  have hheld := move.holds c rfl
  have htoken : new.claim_id = old.claim_id := (Prod.mk.inj move.owned).1
  refine h.put hstored move.same_id move.count.ge (fun c' hc' => ?_) (.inr ⟨c, hheld, rfl⟩) (fun _ => ?_) _
  · rw [move.count]
    exact h.held _ _ c' hstored (htoken ▸ hc')
  · have hmarked : MarkedNow ((id, c) :: marks) new :=
      ⟨c, htoken.trans hheld, by rw [move.same_id, h.keyed _ _ hstored]; exact List.mem_cons_self⟩
    exact iff_of_true (by rw [move.attempted]; rfl) hmarked

theorem Sound.fresh_claim [LawfulStdlib Uuid] (h : Sound s marks)
    (hstored : s.records.get? id = some old) (move : Moved (.claim id c worker t) old new)
    (hc : deriveOutboundSendClaimId old.outbox_id worker (old.attempt_count + 1) = .ok c) :
    ¬ MarkedNow marks new := by
  rintro ⟨c', hc', hmark⟩
  obtain rfl : c = c' := Option.some.inj ((Prod.mk.inj move.owned).1.symm.trans hc')
  rw [move.same_id, h.keyed _ _ hstored] at hmark
  rw [h.keyed _ _ hstored] at hc
  obtain ⟨row, hrow, hissued⟩ := h.noted id c hmark
  obtain rfl := Option.some.inj (hstored.symm.trans hrow)
  exact not_issued hc hissued

omit [DecidableEq Uuid] in
theorem issued_next {c' : Uuid} (hid : old.outbox_id = id)
    (move : Moved (.claim id c worker t) old new)
    (hc : deriveOutboundSendClaimId old.outbox_id worker (old.attempt_count + 1) = .ok c)
    (hc' : new.claim_id = some c') : Issued id new.attempt_count c' := by
  obtain rfl : c = c' := Option.some.inj ((Prod.mk.inj move.owned).1.symm.trans hc')
  exact ⟨worker, _, move.count.ge, hid ▸ hc⟩

/-! ## The claim -/

variable {rt : OutboundSendOutboxRuntime} {l : Ledger Uuid}

omit [DecidableEq Uuid] in
theorem derive_of_text (id : Uuid) (n : Nat) (h : (strip worker).isEmpty = false) :
    ∃ c, deriveOutboundSendClaimId id worker (n + 1) = .ok c := by
  refine ⟨Stdlib.uuid5 claimNamespace
    (Stdlib.str id ++ "|" ++ strip worker ++ "|" ++ (n + 1).repr), ?_⟩
  rw [deriveOutboundSendClaimId, if_neg (Nat.not_lt_of_le (Nat.succ_le_succ n.zero_le)), requiredText]
  simp only [h]
  rfl

omit [DecidableEq Uuid] in
theorem derive_blank (id : Uuid) (n : Nat) (h : (strip worker).isEmpty = true) (c : Uuid) :
    deriveOutboundSendClaimId id worker (n + 1) ≠ .ok c := by
  rw [deriveOutboundSendClaimId, if_neg (Nat.not_lt_of_le (Nat.succ_le_succ n.zero_le)), requiredText]
  simp only [h]
  exact nofun

variable {row : OutboundSendOutboxRecord Uuid}

variable {exempt : Bool}

omit [DecidableEq Uuid] [Stdlib Uuid] in
theorem due_of_not_refused (h : rt.claimRefusal row t exempt = none) :
    row.status = .pending ∧ ∀ n ∈ row.next_attempt_at, n ≤ t := by
  unfold claimRefusal at h
  split at h
  · cases h
  · rename_i hpending
    split at h
    · cases h
    · rename_i hdue
      refine ⟨not_not.mp hpending, fun n hn => ?_⟩
      rw [Option.mem_def.mp hn] at hdue
      exact not_lt.mp (by simpa using hdue)

/-- A claim that goes through writes its row under the token of the next claim; any other leaves the ledger
as it was. -/
theorem claimDueOutbox_cases (hkeyed : ∀ id row, l.store.records.get? id = some row → row.outbox_id = id)
    (id : Uuid) (worker : String) (t : Instant) (exempt : Bool) :
    (∃ row c new, l.store.records.get? id = some row ∧ Claims rt worker t exempt row ∧
        deriveOutboundSendClaimId row.outbox_id worker (row.attempt_count + 1) = .ok c ∧
        Moved (.claim id c worker t) row new ∧
        rt.claimDueOutbox l id worker t exempt =
          .ok ({ claimed := true, outbox := some new }, l.put id new (id :: l.claims))) ∨
      (∀ row, l.store.records.get? id = some row → ¬ Claims rt worker t exempt row) ∧
        ∀ out, rt.claimDueOutbox l id worker t exempt = .ok out → out.1.claimed = false ∧ out.2 = l := by
  unfold claimDueOutbox
  cases hempty : worker.isEmpty with
  | true => exact .inr ⟨fun _ _ h => (by cases hempty.symm.trans h.1), fun _ h => by cases h⟩
  | false =>
    simp only [Bool.false_eq_true, if_false, getOutboundSendOutbox]
    cases hrow : l.store.records.get? id with
    | none => exact .inr ⟨fun _ h => (by cases h), fun _ h => by cases h; exact ⟨rfl, rfl⟩⟩
    | some row =>
      simp only
      cases hrefusal : rt.claimRefusal row t exempt with
      | some reason =>
        refine .inr ⟨fun row' h hclaims => ?_, fun _ h => by cases h; exact ⟨rfl, rfl⟩⟩
        obtain rfl := Option.some.inj h
        cases hrefusal.symm.trans hclaims.2.2
      | none =>
        cases hblank : (strip worker).isEmpty with
        | true =>
          refine .inr ⟨fun _ _ hclaims => (by cases hblank.symm.trans hclaims.2.1), fun _ h => ?_⟩
          obtain ⟨c, hc, -⟩ := bind_eq_ok.mp h
          exact absurd hc (derive_blank _ _ hblank c)
        | false =>
          obtain ⟨c, hc⟩ := derive_of_text row.outbox_id row.attempt_count hblank
          have hid := hkeyed id row hrow
          obtain ⟨hpending, hdue⟩ := due_of_not_refused hrefusal
          have hdone := performed none l.store (.claim id c worker t)
          simp only [perform] at hdone
          generalize hwritten : l.store.claimOutboundSendOutbox id c worker t = w at hdone
          cases hdone with
          | refused hnone =>
            cases (duePending_eq_some.mpr ⟨hrow, hpending, hdue⟩).symm.trans hnone
          | moved old new _ hstored move =>
            obtain rfl := Option.some.inj (hrow.symm.trans hstored)
            refine .inl ⟨row, c, new, rfl, ⟨hempty, hblank, hrefusal⟩, hc, move, ?_⟩
            rw [hc]
            simp only [hid, hwritten, bind, Except.bind]
            rfl

/-! ## The sweeps -/

/-- A sweep of exhausted rows leaves a row as it was, or dead under the token of its last claim. -/
theorem Sound.exhausted (h : Sound l.store marks) {args : ExhaustedArgs}
    {outbox : OutboundSendOutboxRecord Uuid} {out : Option (OutboundSendOutboxRecord Uuid) × Ledger Uuid}
    (hok : rt.deadLetterExhausted args l outbox = .ok out) : Sound out.2.store marks := by
  unfold deadLetterExhausted at hok
  split at hok
  · cases hok
    exact h
  · obtain ⟨⟨claim, l₁⟩, hclaim, hok⟩ := bind_eq_ok.mp hok
    rcases claimDueOutbox_cases h.keyed outbox.outbox_id deadLetterReconciler args.now true with
      ⟨row, c, mid, hrow, -, hc, move, heq⟩ | ⟨-, hleft⟩
    · obtain ⟨rfl, rfl⟩ := Prod.mk.inj (Except.ok.inj (heq.symm.trans hclaim))
      have hid : mid.outbox_id = outbox.outbox_id := move.same_id.trans (h.keyed _ _ hrow)
      have htoken : mid.claim_id = some c := (Prod.mk.inj move.owned).1
      simp only [htoken, hid] at hok
      have hdone := performed none (l.put outbox.outbox_id mid (outbox.outbox_id :: l.claims)).store
        (.deadLetter outbox.outbox_id c args.reason args.now)
      simp only [perform] at hdone
      obtain ⟨new, dead, hstore⟩ := deadLetter_of_claimed move hdone
      cases hok
      simp only [hstore]
      have hlast : new.claim_id = mid.claim_id := (Prod.mk.inj dead.owned).1
      refine h.put hrow (dead.same_id.trans move.same_id) ?_ (fun c' hc' => ?_) (.inl rfl) (fun hclaimed => ?_) _
      · rw [dead.count, move.count]
        exact Nat.le_succ _
      · rw [dead.count]
        exact issued_next (h.keyed _ _ hrow) move hc (hlast ▸ hc')
      · cases dead.status.symm.trans hclaimed
    · obtain ⟨hunclaimed, hleft⟩ := hleft _ hclaim
      dsimp only at hunclaimed hleft
      simp only [hunclaimed] at hok
      cases hok
      rwa [hleft]

theorem Sound.sweepExhausted (h : Sound l.store marks) (args : ExhaustedArgs)
    (page : List (OutboundSendOutboxRecord Uuid)) (result : OutboundSendOutboxSweepResult Uuid) :
    Sound (rt.sweepExhausted args page result l).2.store marks := by
  induction page generalizing l result with
  | nil => exact h
  | cons outbox rest ih =>
    unfold OutboundSendOutboxRuntime.sweepExhausted
    cases hrow : rt.deadLetterExhausted args l outbox with
    | error e => exact h
    | ok out => exact ih (h.exhausted hrow) _

theorem Sound.performed (h : Sound s marks) (hplain : call.counts = 0)
    (hattempt : call.attempt = none) : Sound (call.perform none s).2 marks := by
  have hdone := StoreCall.performed none s call
  generalize call.perform none s = w at hdone
  cases hdone with
  | refused => exact h
  | moved old new found stored move => exact h.moved hplain hattempt stored move

omit [DecidableEq Uuid] [Stdlib Uuid] in
theorem staleCall_attempt (args : StaleArgs) (outbox : OutboundSendOutboxRecord Uuid) :
    (staleCall args outbox).attempt = none := by
  unfold staleCall
  split_ifs <;> rfl

omit [DecidableEq Uuid] [Stdlib Uuid] in
theorem staleCall_outbox_id (args : StaleArgs) (outbox : OutboundSendOutboxRecord Uuid) :
    (staleCall args outbox).outbox_id = outbox.outbox_id := by
  unfold staleCall
  split_ifs <;> rfl

theorem Sound.sweepStale (h : Sound s marks) (args : StaleArgs) (page : List (OutboundSendOutboxRecord Uuid))
    (result : OutboundSendOutboxSweepResult Uuid) :
    Sound (OutboundSendOutboxRuntime.sweepStale args page (result, s)).2 marks := by
  induction page generalizing s result with
  | nil => exact h
  | cons outbox rest ih => exact ih (h.performed (staleCall_plain args outbox) (staleCall_attempt args outbox)) _

variable {args : StaleArgs}

omit [Stdlib Uuid] in
theorem staleCall_found (hrow : s.records.get? row.outbox_id = some row)
    (hclaimed : row.status = .claimed) (hstale : ∃ t ∈ row.claimed_at, t ≤ args.stale_before) :
    (staleCall args row).found s = some row := by
  have hclaim : s.staleClaim row.outbox_id args.stale_before = some row :=
    staleClaim_eq_some.mpr ⟨hrow, hclaimed, hstale⟩
  unfold staleCall
  split
  · rename_i hprovider
    simp [found, hclaim, hprovider]
  · rename_i hprovider
    split
    · exact hclaim
    · rename_i hattempted
      simp only [found, hclaim]
      simp_all [Option.isSome_iff_ne_none]

variable {page : List (OutboundSendOutboxRecord Uuid)}

theorem sweepStale_frame (result : OutboundSendOutboxSweepResult Uuid)
    (hnot : id ∉ page.map (·.outbox_id)) :
    (OutboundSendOutboxRuntime.sweepStale args page (result, s)).2.records.get? id = s.records.get? id := by
  induction page generalizing s result with
  | nil => rfl
  | cons outbox rest ih =>
    rw [List.map_cons, List.mem_cons, not_or] at hnot
    refine (ih _ hnot.2).trans ?_
    have hdone := StoreCall.performed none s (staleCall args outbox)
    generalize (staleCall args outbox).perform none s = w at hdone
    cases hdone with
    | refused => rfl
    | moved old new found stored move =>
      rw [staleCall_outbox_id]
      exact Dict.get?_set_ne _ _ (Ne.symm hnot.1)

theorem sweepStale_leaves (result : OutboundSendOutboxSweepResult Uuid)
    (hd : (page.map (·.outbox_id)).Nodup)
    (hpage : ∀ row ∈ page, s.records.get? row.outbox_id = some row ∧ row.status = .claimed ∧
      ∃ t ∈ row.claimed_at, t ≤ args.stale_before) :
    ∀ row ∈ page, ∃ row', (OutboundSendOutboxRuntime.sweepStale args page (result, s)).2.records.get?
      row.outbox_id = some row' ∧ row'.status = (staleCall args row).leaves := by
  induction page generalizing s result with
  | nil => exact fun _ h => nomatch h
  | cons outbox rest ih =>
    rw [List.map_cons, List.nodup_cons] at hd
    obtain ⟨hstored, hclaimed, hstale⟩ := hpage outbox List.mem_cons_self
    have hfound := staleCall_found hstored hclaimed hstale
    obtain ⟨new, hnew, move⟩ : ∃ new, ((staleCall args outbox).perform none s).2.records =
        s.records.set outbox.outbox_id new ∧ Moved (staleCall args outbox) outbox new := by
      have hdone := StoreCall.performed none s (staleCall args outbox)
      generalize (staleCall args outbox).perform none s = w at hdone
      cases hdone with
      | refused hnone => cases hfound.symm.trans hnone
      | moved old new found stored move =>
        obtain rfl := Option.some.inj (hfound.symm.trans found)
        exact ⟨new, by rw [staleCall_outbox_id], move⟩
    intro row hrow
    rcases List.mem_cons.mp hrow with rfl | hrow
    · refine ⟨new, (sweepStale_frame _ hd.1).trans ?_, move.status⟩
      rw [hnew, Dict.get?_set_self]
    · refine ih _ hd.2 (fun r hr => ⟨?_, (hpage r (List.mem_cons_of_mem _ hr)).2⟩) row hrow
      have hne : outbox.outbox_id ≠ r.outbox_id := fun heq =>
        hd.1 (heq ▸ List.mem_map_of_mem hr)
      rw [hnew, Dict.get?_set_ne _ _ hne, (hpage r (List.mem_cons_of_mem _ hr)).1]

omit [Stdlib Uuid] in
theorem stale_page (hkeyed : ∀ id row, s.records.get? id = some row → row.outbox_id = id) (args : StaleArgs) :
    ((s.listOutboundSendOutbox (staleQuery args)).records.map (·.outbox_id)).Nodup ∧
      ∀ row ∈ (s.listOutboundSendOutbox (staleQuery args)).records,
        s.records.get? row.outbox_id = some row ∧ row.status = .claimed ∧
          ∃ t ∈ row.claimed_at, t ≤ args.stale_before := by
  have hperm := List.perm_insertionSort dueBefore (s.records.values.filter (staleQuery args).admits)
  constructor
  · have hlisted : ((s.records.values.filter (staleQuery args).admits).map (·.outbox_id)).Nodup :=
      (ids_nodup hkeyed).sublist (List.filter_sublist.map _)
    exact ((hperm.map _).nodup_iff.mpr hlisted).sublist
      (((List.take_sublist _ _).trans (List.drop_sublist _ _)).map _)
  · intro row hrow
    have hmem := hperm.mem_iff.mp (List.mem_of_mem_drop (List.mem_of_mem_take hrow))
    obtain ⟨hvalue, hadmits⟩ := List.mem_filter.mp hmem
    obtain ⟨id, hid⟩ := (Dict.mem_values_iff _ _).mp hvalue
    simp only [OutboundSendOutboxQuery.admits, staleQuery, Option.all_none, Option.all_some, Bool.true_and,
      Bool.and_true, Bool.and_eq_true, decide_eq_true_eq] at hadmits
    refine ⟨by rw [hkeyed id row hid, hid], hadmits.1.2, ?_⟩
    cases hclaimed : row.claimed_at with
    | none => simp [hclaimed] at hadmits
    | some t => exact ⟨t, rfl, by simpa [hclaimed] using hadmits.2⟩

/-! ## One operation -/

theorem Sound.created (h : Sound s marks) {record : OutboundSendOutboxRecord Uuid} (hfresh : Fresh record)
    (by_unique : Dict (UniqueKey Uuid) Uuid) :
    Sound ⟨s.records.set record.outbox_id record, by_unique⟩
      (marks.filter (·.1 ≠ record.outbox_id)) where
  keyed id row hrow := by
    rcases Dict.get?_set_cases hrow with ⟨rfl, rfl⟩ | ⟨-, hrow⟩
    · rfl
    · exact h.keyed _ _ hrow
  held id row c hrow hc := by
    rcases Dict.get?_set_cases hrow with ⟨rfl, rfl⟩ | ⟨-, hrow⟩
    · cases hfresh.unclaimed.1.symm.trans hc
    · exact h.held _ _ c hrow hc
  noted id c hmark := by
    obtain ⟨hmark, hne⟩ := List.mem_filter.mp hmark
    obtain ⟨row, hrow, hissued⟩ := h.noted id c hmark
    exact ⟨row, (Dict.get?_set_ne _ _ (Ne.symm (of_decide_eq_true hne))).trans hrow, hissued⟩
  evidence id row hrow hclaimed := by
    rcases Dict.get?_set_cases hrow with ⟨rfl, rfl⟩ | ⟨hne, hrow⟩
    · cases hfresh.pending.symm.trans hclaimed
    · have hother : id ≠ record.outbox_id := Ne.symm hne
      rw [h.evidence _ _ hrow hclaimed, MarkedNow, MarkedNow, h.keyed _ _ hrow]
      simp only [List.mem_filter, ne_eq, hother, not_false_eq_true, decide_true, and_true]

variable {m m' : Marked Uuid}

variable {operation : Operation Uuid}

theorem Sound.belongs (h : Sound m'.ledger.store m'.marks)
    (hnot : ∀ args, operation ≠ .requeueStaleClaimed args) : BelongsToClaim m operation m' :=
  ⟨h.evidence, fun args heq => absurd heq (hnot args)⟩

theorem requeued_iff (h : Sound s marks) (args : StaleArgs) :
    (∀ row ∈ (s.listOutboundSendOutbox (staleQuery args)).records, ¬ MarkedNow marks row →
        ∃ row', (requeueStaleClaimed s args).2.records.get? row.outbox_id = some row' ∧
          row'.status = .pending) ↔
      ∀ row ∈ (s.listOutboundSendOutbox (staleQuery args)).records, ¬ MarkedNow marks row →
        row.provider_message_id = none := by
  obtain ⟨hd, hpage⟩ := stale_page h.keyed args
  refine forall₂_congr fun row hrow => forall_congr' fun hunmarked => ?_
  obtain ⟨hstored, hclaimed, -⟩ := hpage row hrow
  have hunattempted : row.send_attempted_at = none := by
    rw [← Option.not_isSome_iff_eq_none, h.evidence _ _ hstored hclaimed]
    exact hunmarked
  obtain ⟨row', hrow', hstatus⟩ := sweepStale_leaves
    { scanned := (s.listOutboundSendOutbox (staleQuery args)).records.length } hd hpage row hrow
  have hpending : (staleCall args row).leaves = .pending ↔ row.provider_message_id = none := by
    cases hprovider : row.provider_message_id <;>
      simp [staleCall, hunattempted, hprovider, leaves]
  rw [← hpending]
  constructor
  · rintro ⟨row'', hrow'', hpending⟩
    obtain rfl := Option.some.inj (hrow'.symm.trans hrow'')
    exact hstatus.symm.trans hpending
  · exact fun hleaves => ⟨row', hrow', hstatus.trans hleaves⟩

theorem Sound.claimDue [LawfulStdlib Uuid] (h : Sound m.ledger.store m.marks) {id : Uuid}
    (hnext : nextMarked rt m (.claimDue id worker t exempt) = some m') :
    (StartsClean rt m (.claimDue id worker t exempt) → Sound m'.ledger.store m'.marks) ∧
      (BelongsToClaim m (.claimDue id worker t exempt) m' ↔
        StartsClean rt m (.claimDue id worker t exempt)) := by
  obtain ⟨l', hl', rfl⟩ := Option.map_eq_some_iff.mp hnext
  simp only [OutboundSendOutboxRuntime.next, Option.some.injEq] at hl'
  rcases claimDueOutbox_cases h.keyed id worker t exempt with
    ⟨row, c, new, hrow, hclaims, hc, move, heq⟩ | ⟨hnone, hleft⟩
  · rw [heq] at hl'
    subst hl'
    have hunmarked : ¬ MarkedNow m.marks new := h.fresh_claim hrow move hc
    have hattempted : new.send_attempted_at = row.send_attempted_at := move.attempted
    have hsound : row.send_attempted_at = none →
        Sound (m.ledger.put id new (id :: m.ledger.claims)).store m.marks := by
      intro hclean
      refine h.put hrow move.same_id (by rw [move.count]; exact Nat.le_succ _)
        (fun c' hc' => issued_next (h.keyed _ _ hrow) move hc hc') (.inl rfl) (fun _ => ?_) _
      exact iff_of_false (by rw [hattempted, hclean]; exact Bool.false_ne_true) hunmarked
    refine ⟨fun hclean => hsound (hclean row hrow hclaims), fun hbelongs row' hrow' _ => ?_, fun hclean => ?_⟩
    · obtain rfl := Option.some.inj (hrow.symm.trans hrow')
      rw [← hattempted, ← Option.not_isSome_iff_eq_none,
        hbelongs.evidence id new (Dict.get?_set_self _ _ _) move.status]
      exact hunmarked
    · have hsound := hsound (hclean row hrow hclaims)
      exact ⟨hsound.evidence, fun args heq => by cases heq⟩
  · have hsame : m.ledger = l' := by
      cases hclaim : rt.claimDueOutbox m.ledger id worker t exempt with
      | error e =>
        rw [hclaim] at hl'
        exact hl'
      | ok out =>
        rw [hclaim] at hl'
        exact (hleft out hclaim).2.symm.trans hl'
    subst hsame
    exact ⟨fun _ => h, fun _ row hrow hclaims => absurd hclaims (hnone row hrow), fun _ =>
      ⟨h.evidence, fun args heq => by cases heq⟩⟩

theorem Sound.next [LawfulStdlib Uuid] (h : Sound m.ledger.store m.marks)
    (hnext : nextMarked rt m operation = some m') :
    (StartsClean rt m operation → Sound m'.ledger.store m'.marks) ∧
      (BelongsToClaim m operation m' ↔ StartsClean rt m operation) := by
  -- an operation that claims nothing and sweeps nothing keeps what holds
  have hquiet : ∀ {m'' : Marked Uuid} {operation : Operation Uuid}, Sound m''.ledger.store m''.marks →
      StartsClean rt m operation → (∀ args, operation ≠ .requeueStaleClaimed args) →
      (StartsClean rt m operation → Sound m''.ledger.store m''.marks) ∧
        (BelongsToClaim m operation m'' ↔ StartsClean rt m operation) :=
    fun hsound hclean hnot => ⟨fun _ => hsound, iff_of_true (hsound.belongs hnot) hclean⟩
  cases operation with
  | claimDue id worker t exempt => exact h.claimDue hnext
  | requeueStaleClaimed args =>
    cases hnext
    have hsound := h.sweepStale args (m.ledger.store.listOutboundSendOutbox (staleQuery args)).records
      { scanned := (m.ledger.store.listOutboundSendOutbox (staleQuery args)).records.length }
    refine ⟨fun _ => hsound, fun hbelongs => (requeued_iff h args).mp (hbelongs.requeued args rfl), fun hclean =>
      ⟨hsound.evidence, fun args' heq => ?_⟩⟩
    cases heq
    exact (requeued_iff h args).mpr hclean
  | create request =>
    cases hnext
    refine hquiet ?_ trivial fun _ heq => by cases heq
    simp only [marksAfter]
    cases hmake : makeOutboundSendOutboxRecord request with
    | error e => exact h
    | ok record =>
      simp only [createOutboundSendOutbox]
      cases m.ledger.store.by_unique.get? record.uniqueKey with
      | some existing_id => exact h
      | none => exact h.created (makeOutboundSendOutboxRecord_fresh hmake) _
  | markSendAttempted id c t =>
    cases hnext
    refine hquiet ?_ trivial fun _ heq => by cases heq
    have hdone := StoreCall.performed none m.ledger.store (.markAttempted id c t)
    simp only [callOf, marksAfter]
    generalize StoreCall.perform none m.ledger.store (.markAttempted id c t) = w at hdone
    cases hdone with
    | refused hnone =>
      have hnone : m.ledger.store.matchingClaim id c = none := hnone
      rw [hnone]
      exact h
    | moved old new hfound hstored move =>
      have hfound : m.ledger.store.matchingClaim id c = some old := hfound
      rw [hfound]
      exact h.marked hstored move
  | deadLetterExhaustedPending args =>
    cases hnext
    exact hquiet (h.sweepExhausted args _ _) trivial fun _ heq => by cases heq
  | _ =>
    cases hnext
    exact hquiet (h.performed rfl rfl) trivial fun _ heq => by cases heq

/-- In every run, claimed rows show the attempts of their claims, and sweeps requeue the claims that marked
none, exactly when every claim is of a row without an attempt and no sweep lists an unmarked claim with a
provider id. -/
theorem attempts_belong_iff [LawfulStdlib Uuid] (rt : OutboundSendOutboxRuntime)
    (operations : List (Operation Uuid)) :
    Along (nextMarked rt) BelongsToClaim Marked.start operations ↔
      Meets (nextMarked rt) (StartsClean rt) Marked.start operations := by
  refine along_iff_meets (I := fun m => Sound m.ledger.store m.marks)
    (fun m operation m' h hclean hnext => (h.next hnext).1 hclean) (fun m operation m' h hnext =>
      (h.next hnext).2) ⟨?_, ?_, ?_, ?_⟩
  · exact fun _ _ h => by cases h
  · exact fun _ _ _ h => by cases h
  · exact fun _ _ h => by cases h
  · exact fun _ _ h => by cases h

/-! ## A second claim -/

/-- The first claim marks its attempt and is rescheduled; the second worker dies before it marks one. -/
def retried : List (Operation String) :=
  [.create (sendRequest "r|b" "c"), .claimDue sharedId "w" 0 false,
    .markSendAttempted sharedId "t~bd~bemail~br~bb~bc|w|1" 1,
    .reschedule sharedRow "t~bd~bemail~br~bb~bc|w|1" "boom" 2 none]

def secondClaim : Operation String := .claimDue sharedId "w" (seconds 100) false

theorem a_first_claim_shows_its_own_attempt :
    Along (nextMarked {}) BelongsToClaim Marked.start (retried.take 3) ↔
      Meets (nextMarked {}) (StartsClean {}) Marked.start (retried.take 3) :=
  attempts_belong_iff {} (retried.take 3)

/-- The second claim shows the attempt of the first, and the sweep flags it. -/
theorem a_second_claim_shows_the_first_attempt :
    ¬ Along (nextMarked {}) BelongsToClaim Marked.start (retried ++ [secondClaim]) := by
  intro h
  have hrun : ((after (nextMarked {}) Marked.start retried).bind fun m =>
      (nextMarked {} m secondClaim).bind fun m' => (m'.ledger.store.records.get? sharedId).map fun row =>
        (row.status, row.send_attempted_at.isSome, row.claim_id,
          decide ((row.outbox_id, "t~bd~bemail~br~bb~bc|w|2") ∈ m'.marks))) =
      some (.claimed, true, some "t~bd~bemail~br~bb~bc|w|2", false) := by
    decide +kernel
  obtain ⟨m, hm, hrun⟩ := Option.bind_eq_some_iff.mp hrun
  obtain ⟨m', hnext, hrun⟩ := Option.bind_eq_some_iff.mp hrun
  obtain ⟨row, hrow, hrun⟩ := Option.map_eq_some_iff.mp hrun
  simp only [Prod.mk.injEq] at hrun
  obtain ⟨hclaimed, hattempted, hclaim, hunmarked⟩ := hrun
  obtain ⟨c, hc, hmark⟩ := ((h.last hm hnext).evidence _ _ hrow hclaimed).mp hattempted
  obtain rfl := Option.some.inj (hclaim.symm.trans hc)
  exact absurd hmark (of_decide_eq_false hunmarked)

end attempt_evidence

end operious.outbound
