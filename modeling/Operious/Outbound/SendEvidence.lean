-- Send evidence is final. A row that holds a provider message id was sent, so it may only become
-- sent. Three branches do not look at the id: the except branch after a lost `mark_sent`, the
-- requeue of a stale page, and a worker that goes on to the provider without its claim.
import Operious.Outbound.SendWorld

namespace operious.outbound

namespace SendWorld

open InMemoryOutboundSendOutboxPersistence OutboundSendOutboxRuntime

variable {Uuid : Type} [DecidableEq Uuid]

/-- A row with a provider message id keeps one, and it stays as it was or becomes sent. No worker
calls the provider for such a row. -/
def EvidenceFinal (w : World Uuid) (action : Action Uuid) (w' : World Uuid) : Prop :=
  (∀ id row, w.store.records.get? id = some row → row.provider_message_id.isSome →
    ∃ row', w'.store.records.get? id = some row' ∧ row'.provider_message_id.isSome ∧
      (row'.status = row.status ∨ row'.status = .sent)) ∧
    ∀ caller outcome run, action = .send caller outcome →
      w.threads.get? caller = some (.sending run) →
      ∀ row, w.store.records.get? run.outbox.outbox_id = some row →
        row.provider_message_id = none

/-- The row of a run, while it is under the claim that the run made. -/
def ownRow (s : InMemoryOutboundSendOutboxPersistence Uuid) (run : SendRun Uuid) :
    Option (OutboundSendOutboxRecord Uuid) :=
  (s.records.get? run.outbox.outbox_id).filter fun row =>
    row.status = .claimed && row.attempt_count = run.outbox.attempt_count

/-- The condition on a step. A worker calls the provider, stores a provider id and settles only
under its own claim; a `mark_sent` is lost only while no provider id is stored; and a requeue goes
through only on a row without one, as the page of the sweep showed. -/
def KeepsItsClaim (w : World Uuid) (action : Action Uuid) : Prop :=
  (∀ row ∈ requeueTarget w action, row.provider_message_id = none) ∧
    match action with
    | .send caller _ =>
      match w.threads.get? caller with
      | some (.sending run) => (ownRow w.store run).isSome
      | _ => True
    | .call caller reply _ =>
      match w.threads.get? caller with
      | some (.recording run _) | some (.settling run _ _) =>
        reply.stored → (w.store.matchingClaim run.outbox.outbox_id run.claim_id).isSome →
          (ownRow w.store run).isSome
      | some (.markingSent run _) =>
        reply.stored = false → ∀ row ∈ ownRow w.store run, row.provider_message_id = none
      | _ => True
    | _ => True

instance (w : World Uuid) (action : Action Uuid) : Decidable (KeepsItsClaim w action) := by
  unfold KeepsItsClaim
  refine @instDecidableAnd _ _ inferInstance ?_
  split
  · split <;> infer_instance
  · split <;> infer_instance
  · infer_instance

/-! ## What a run in flight knows -/

/-- The run of a thread that holds a claim. -/
def Pc.run : Pc Uuid → Option (SendRun Uuid)
  | .idle | .claiming .. | .sweeping .. => none
  | .marking run | .sending run | .recording run _ | .markingSent run _ | .settling run _ _ =>
    some run

/-- Whether a run has not heard from the provider yet, or not that the reply was sent. -/
def Pc.unconfirmed : Pc Uuid → Bool
  | .marking _ | .sending _ | .settling .. => true
  | _ => false

/-- The row of a run is there, was claimed as often as the run knows, and carries its token while
it is under its claim. -/
structure Holds (s : InMemoryOutboundSendOutboxPersistence Uuid) (run : SendRun Uuid) : Prop where
  known : ∃ row, s.records.get? run.outbox.outbox_id = some row ∧
    run.outbox.attempt_count ≤ row.attempt_count
  token : ∀ row, ownRow s run = some row → row.claim_id = some run.claim_id

/-- The row holds no provider id while it is under the claim of the run. -/
def Clean (s : InMemoryOutboundSendOutboxPersistence Uuid) (run : SendRun Uuid) : Prop :=
  ∀ row, ownRow s run = some row → row.provider_message_id = none

variable {s : InMemoryOutboundSendOutboxPersistence Uuid} {run : SendRun Uuid}
  {row old new : OutboundSendOutboxRecord Uuid} {call : StoreCall Uuid}

theorem ownRow_eq_some : ownRow s run = some row ↔
    s.records.get? run.outbox.outbox_id = some row ∧ row.status = .claimed ∧
      row.attempt_count = run.outbox.attempt_count := by
  simp [ownRow, Option.filter_eq_some_iff]

theorem ownRow_after (h : Holds s run) (stored : s.records.get? call.outbox_id = some old)
    (move : StoreCall.Moved call old new)
    (hown : ownRow { s with records := s.records.set call.outbox_id new } run = some row) :
    ownRow s run = some row ∨
      row = new ∧ call.counts = 0 ∧ call.leaves = .claimed ∧ ownRow s run = some old := by
  obtain ⟨hrow, hclaimed, hcount⟩ := ownRow_eq_some.mp hown
  rcases Dict.get?_set_cases hrow with ⟨hid, rfl⟩ | ⟨-, hrow⟩
  · right
    obtain ⟨row', hrow', hle⟩ := h.known
    rw [hid, stored] at hrow'
    cases hrow'
    have hmoved := move.count
    have hplain : call.counts = 0 := by omega
    have hneeds : old.status = .claimed := by
      rw [move.guard]
      cases call <;> first | rfl | cases hplain
    exact ⟨rfl, hplain, move.status ▸ hclaimed,
      ownRow_eq_some.mpr ⟨hid ▸ stored, hneeds, by omega⟩⟩
  · exact Or.inl (ownRow_eq_some.mpr ⟨hrow, hclaimed, hcount⟩)

theorem Holds.moved (h : Holds s run) (stored : s.records.get? call.outbox_id = some old)
    (move : StoreCall.Moved call old new) :
    Holds { s with records := s.records.set call.outbox_id new } run where
  known := by
    obtain ⟨row, hrow, hle⟩ := h.known
    by_cases hid : call.outbox_id = run.outbox.outbox_id
    · rw [hid, hrow] at stored
      cases stored
      refine ⟨new, ?_, ?_⟩
      · simp [hid]
      · rw [move.count]
        omega
    · exact ⟨row, (Dict.get?_set_ne _ _ hid).trans hrow, hle⟩
  token row hown := by
    rcases ownRow_after h stored move hown with hown | ⟨rfl, hplain, hleaves, hold⟩
    · exact h.token row hown
    · have howned := move.owned
      cases call with
      | claim => cases hplain
      | markAttempted | recordProviderMessageId =>
        simp only [StoreCall.owner, Prod.mk.injEq] at howned
        rw [howned.1]
        exact h.token old hold
      | _ => cases hleaves

theorem Clean.moved (h : Clean s run) (hholds : Holds s run)
    (stored : s.records.get? call.outbox_id = some old) (move : StoreCall.Moved call old new)
    (hevidence : call.leaves = .claimed → ownRow s run = some old → call.evidence = none) :
    Clean { s with records := s.records.set call.outbox_id new } run := by
  intro row hown
  rcases ownRow_after hholds stored move hown with hown | ⟨rfl, -, hleaves, hown⟩
  · exact h row hown
  · rw [move.provider, hevidence hleaves hown, h old hown]
    rfl

/-! ## The invariant -/

structure Sound (w : World Uuid) : Prop where
  keyed : ∀ id row, w.store.records.get? id = some row → row.outbox_id = id
  evident : ∀ id row, w.store.records.get? id = some row → row.provider_message_id ≠ none →
    row.status = .claimed ∨ row.status = .sent
  holds : ∀ caller pc run, w.threads.get? caller = some pc → pc.run = some run →
    Holds w.store run
  clean : ∀ caller pc run, w.threads.get? caller = some pc → pc.run = some run →
    pc.unconfirmed = true → Clean w.store run
  apart : ∀ caller caller' pc pc' run run', w.threads.get? caller = some pc →
    w.threads.get? caller' = some pc' → pc.run = some run → pc'.run = some run' →
    run.outbox.outbox_id = run'.outbox.outbox_id →
    run.outbox.attempt_count = run'.outbox.attempt_count → caller = caller'

theorem Sound.start : Sound (World.start : World Uuid) where
  keyed _ _ h := by simp [World.start, InMemoryOutboundSendOutboxPersistence.new] at h
  evident _ _ h := by simp [World.start, InMemoryOutboundSendOutboxPersistence.new] at h
  holds _ _ _ h := by simp [World.start] at h
  clean _ _ _ h := by simp [World.start] at h
  apart _ _ _ _ _ _ h := by simp [World.start] at h

variable {w w' : World Uuid} {caller : Nat} {pc pc' : Pc Uuid}

theorem Sound.thread (h : Sound w) (hpc : w.threads.get? caller = some pc ∨ pc'.run = none)
    (hrun : ∀ run, pc'.run = some run → pc.run = some run)
    (hclean : ∀ run, pc'.run = some run → pc'.unconfirmed = true → Clean w.store run)
    (attempted : List Uuid) :
    Sound { store := w.store, threads := w.threads.set caller pc', attempted } where
  keyed := h.keyed
  evident := h.evident
  holds c pc₁ run hget hr := by
    rcases Dict.get?_set_cases hget with ⟨-, rfl⟩ | ⟨-, hget⟩
    · rcases hpc with hpc | hnone
      · exact h.holds caller pc run hpc (hrun run hr)
      · rw [hnone] at hr
        cases hr
    · exact h.holds c pc₁ run hget hr
  clean c pc₁ run hget hr hunconfirmed := by
    rcases Dict.get?_set_cases hget with ⟨-, rfl⟩ | ⟨-, hget⟩
    · exact hclean run hr hunconfirmed
    · exact h.clean c pc₁ run hget hr hunconfirmed
  apart c c' pc₁ pc₂ run run' hget hget' hr hr' hid hcount := by
    have hold : ∀ {c pc₁ run}, (w.threads.set caller pc').get? c = some pc₁ → pc₁.run = some run →
        ∃ pc₀, w.threads.get? c = some pc₀ ∧ pc₀.run = some run := by
      intro c pc₁ run hget hr
      rcases Dict.get?_set_cases hget with ⟨rfl, rfl⟩ | ⟨-, hget⟩
      · rcases hpc with hpc | hnone
        · exact ⟨pc, hpc, hrun run hr⟩
        · rw [hnone] at hr
          cases hr
      · exact ⟨pc₁, hget, hr⟩
    obtain ⟨pc₁, hget, hr⟩ := hold hget hr
    obtain ⟨pc₂, hget', hr'⟩ := hold hget' hr'
    exact h.apart c c' pc₁ pc₂ run run' hget hget' hr hr' hid hcount

theorem Sound.dropped (h : Sound w) (hnone : pc'.run = none) (attempted : List Uuid) :
    Sound { store := w.store, threads := w.threads.set caller pc', attempted } := by
  have hpc : w.threads.get? caller = some .idle ∨ pc'.run = none := Or.inr hnone
  refine h.thread hpc ?_ ?_ attempted
  · intro run hrun
    rw [hnone] at hrun
    cases hrun
  · intro run hrun
    rw [hnone] at hrun
    cases hrun

theorem Sound.moved (h : Sound w) (stored : w.store.records.get? call.outbox_id = some old)
    (move : StoreCall.Moved call old new)
    (hevident : new.provider_message_id ≠ none → new.status = .claimed ∨ new.status = .sent)
    (hclean : ∀ c pc run, w.threads.get? c = some pc → pc.run = some run → pc.unconfirmed = true →
      call.leaves = .claimed → ownRow w.store run = some old → call.evidence = none)
    (attempted : List Uuid) :
    Sound
      { store := { w.store with records := w.store.records.set call.outbox_id new }
        threads := w.threads, attempted } where
  keyed id row hrow := by
    rcases Dict.get?_set_cases hrow with ⟨rfl, rfl⟩ | ⟨-, hrow⟩
    · exact move.same_id.trans (h.keyed _ _ stored)
    · exact h.keyed id row hrow
  evident id row hrow := by
    rcases Dict.get?_set_cases hrow with ⟨-, rfl⟩ | ⟨-, hrow⟩
    · exact hevident
    · exact h.evident id row hrow
  holds c pc run hget hr := (h.holds c pc run hget hr).moved stored move
  clean c pc run hget hr hunconfirmed :=
    (h.clean c pc run hget hr hunconfirmed).moved (h.holds c pc run hget hr) stored move
      (hclean c pc run hget hr hunconfirmed)
  apart := h.apart

/-- A thread whose claim went through: its run is the newest on the row. -/
theorem Sound.claimed (h : Sound w) {row : OutboundSendOutboxRecord Uuid} {c : Uuid} {t : Instant}
    (hrow : w.store.records.get? row.outbox_id = some row) (htoken : row.claim_id = some c)
    (hclean : row.provider_message_id = none)
    (hnewest : ∀ caller pc run, w.threads.get? caller = some pc → pc.run = some run →
      run.outbox.outbox_id = row.outbox_id → run.outbox.attempt_count < row.attempt_count)
    (attempted : List Uuid) :
    Sound
      { store := w.store, threads := w.threads.set caller (.marking ⟨row, c, t⟩), attempted } where
  keyed := h.keyed
  evident := h.evident
  holds c' pc run hget hr := by
    rcases Dict.get?_set_cases hget with ⟨-, rfl⟩ | ⟨-, hget⟩
    · cases hr
      refine ⟨⟨row, hrow, le_refl _⟩, fun row' hown => ?_⟩
      obtain ⟨hrow', -, -⟩ := ownRow_eq_some.mp hown
      rw [hrow] at hrow'
      cases hrow'
      exact htoken
    · exact h.holds c' pc run hget hr
  clean c' pc run hget hr hunconfirmed := by
    rcases Dict.get?_set_cases hget with ⟨-, rfl⟩ | ⟨-, hget⟩
    · cases hr
      intro row' hown
      obtain ⟨hrow', -, -⟩ := ownRow_eq_some.mp hown
      rw [hrow] at hrow'
      cases hrow'
      exact hclean
    · exact h.clean c' pc run hget hr hunconfirmed
  apart c₁ c₂ pc₁ pc₂ run run' hget hget' hr hr' hid hcount := by
    rcases Dict.get?_set_cases hget with ⟨rfl, rfl⟩ | ⟨-, hold⟩
    · rcases Dict.get?_set_cases hget' with ⟨rfl, rfl⟩ | ⟨-, hold'⟩
      · rfl
      · cases hr
        have := hnewest c₂ pc₂ run' hold' hr' hid.symm
        simp only at hcount
        omega
    · rcases Dict.get?_set_cases hget' with ⟨rfl, rfl⟩ | ⟨-, hold'⟩
      · cases hr'
        have := hnewest c₁ pc₁ run hold hr hid
        simp only at hcount
        omega
      · exact h.apart c₁ c₂ pc₁ pc₂ run run' hold hold' hr hr' hid hcount

/-! ## The steps -/

section

variable [Stdlib Uuid] {rt : OutboundSendOutboxRuntime} {reply : Reply} {seen : Option Metadata}

omit [Stdlib Uuid] in
theorem settleCall_found (s : InMemoryOutboundSendOutboxPersistence Uuid) (run : SendRun Uuid)
    (error : String) :
    (settleCall rt run error).found s =
      s.matchingClaim run.outbox.outbox_id run.claim_id := by
  unfold settleCall
  split <;> rfl

omit [DecidableEq Uuid] [Stdlib Uuid] in
theorem settleCall_outbox_id (run : SendRun Uuid) (error : String) :
    (settleCall rt run error).outbox_id = run.outbox.outbox_id := by
  unfold settleCall
  split <;> rfl

section

omit [Stdlib Uuid]

/-- A call that goes through on a row with a provider id leaves it claimed, or sent. -/
theorem evidence_stays (h : Sound w) (hkeeps : KeepsItsClaim w (.call caller reply seen))
    (hpc : w.threads.get? caller = some pc) (hcall : pc.call rt = some call)
    (hstored : reply.stored = true) (hfound : call.found w.store = some old)
    (stored : w.store.records.get? call.outbox_id = some old)
    (move : StoreCall.Moved call old new) (hevidence : old.provider_message_id ≠ none) :
    old.status = .claimed ∧ (new.status = .claimed ∨ new.status = .sent) := by
  obtain ⟨hrequeue, hkeeps⟩ := hkeeps
  simp only [requeueTarget, hpc] at hrequeue hkeeps
  have hguard := move.guard
  have hstatus := move.status
  cases pc with
  | idle | sending => cases hcall
  | claiming =>
    cases hcall
    have hevident := h.evident _ _ stored hevidence
    simp [StoreCall.needs] at hguard
    simp [hguard] at hevident
  | marking | recording =>
    cases hcall
    exact ⟨hguard, Or.inl hstatus⟩
  | markingSent =>
    cases hcall
    exact ⟨hguard, Or.inr hstatus⟩
  | settling run error caught =>
    cases hcall
    rw [settleCall_found] at hfound
    rw [settleCall_outbox_id] at stored
    have hown := hkeeps hstored (by rw [hfound]; rfl)
    obtain ⟨row, hrow⟩ := Option.isSome_iff_exists.mp hown
    have hclean := h.clean caller _ run hpc rfl rfl row hrow
    obtain ⟨hrow, -, -⟩ := ownRow_eq_some.mp hrow
    rw [stored] at hrow
    cases hrow
    exact absurd hclean hevidence
  | sweeping args rest =>
    cases rest with
    | nil => cases hcall
    | cons outbox rest =>
      cases hcall
      simp only [hstored, if_true] at hrequeue
      unfold staleCall at hfound move hrequeue hguard hstatus
      split_ifs at hfound move hrequeue hguard hstatus with hprovider hattempted
      · exact ⟨hguard, Or.inr hstatus⟩
      · exact absurd (hrequeue old hfound) hevidence
      · exact absurd (move.ambiguous rfl).2 hevidence

theorem evident_of_stored (h : Sound w) (hkeeps : KeepsItsClaim w (.call caller reply seen))
    (hpc : w.threads.get? caller = some pc) (hcall : pc.call rt = some call)
    (hstored : reply.stored = true) (hfound : call.found w.store = some old)
    (stored : w.store.records.get? call.outbox_id = some old)
    (move : StoreCall.Moved call old new) (hevidence : new.provider_message_id ≠ none) :
    new.status = .claimed ∨ new.status = .sent := by
  rw [move.provider] at hevidence
  by_cases hnew : call.evidence = none
  · rw [hnew, Option.none_or] at hevidence
    exact (evidence_stays h hkeeps hpc hcall hstored hfound stored move hevidence).2
  · rw [move.status]
    cases call with
    | markSent => exact Or.inr rfl
    | recordProviderMessageId => exact Or.inl rfl
    | _ => exact absurd rfl hnew

/-- Only the owner of a claim stores a provider id under it, and its run has heard from the
provider by then. -/
theorem no_foreign_evidence (h : Sound w) (hkeeps : KeepsItsClaim w (.call caller reply seen))
    (hpc : w.threads.get? caller = some pc) (hcall : pc.call rt = some call)
    (hstored : reply.stored = true) (hfound : call.found w.store = some old)
    (stored : w.store.records.get? call.outbox_id = some old) {c : Nat} {run : SendRun Uuid}
    (hget : w.threads.get? c = some pc') (hrun : pc'.run = some run)
    (hunconfirmed : pc'.unconfirmed = true) (hleaves : call.leaves = .claimed)
    (hown : ownRow w.store run = some old) : call.evidence = none := by
  obtain ⟨-, hkeeps⟩ := hkeeps
  simp only [hpc] at hkeeps
  cases pc with
  | recording run₀ message =>
    cases hcall
    simp only [StoreCall.found] at hfound
    simp only [StoreCall.outbox_id] at stored
    have hsome := hkeeps hstored (by rw [hfound]; rfl)
    obtain ⟨row, hrow⟩ := Option.isSome_iff_exists.mp hsome
    obtain ⟨hrow, -, hcount₀⟩ := ownRow_eq_some.mp hrow
    rw [stored] at hrow
    cases hrow
    obtain ⟨hold, -, hcount⟩ := ownRow_eq_some.mp hown
    have hid : run.outbox.outbox_id = run₀.outbox.outbox_id :=
      (h.keyed _ _ hold).symm.trans (h.keyed _ _ stored)
    have hsame := h.apart c caller pc' _ run run₀ hget hpc hrun rfl hid (by omega)
    subst hsame
    rw [hpc] at hget
    cases hget
    cases hunconfirmed
  | idle | sending => cases hcall
  | claiming | marking => cases hcall; rfl
  | markingSent => cases hcall; cases hleaves
  | settling run error caught =>
    cases hcall
    unfold settleCall at hleaves
    split at hleaves <;> cases hleaves
  | sweeping args rest =>
    cases rest with
    | nil => cases hcall
    | cons outbox rest =>
      cases hcall
      unfold staleCall
      split_ifs <;> rfl

end

theorem sound_store (h : Sound w) (hkeeps : KeepsItsClaim w (.call caller reply seen))
    (hpc : w.threads.get? caller = some pc) (hcall : pc.call rt = some call)
    (attempted : List Uuid) :
    Sound
      { store := (storeAfter w.store call reply seen).2, threads := w.threads, attempted } := by
  rcases storeAfter_cases w.store call reply seen with
    hsame | ⟨old, new, hstored, hfound, stored, move, hmoved⟩
  · rw [hsame]
    exact ⟨h.keyed, h.evident, h.holds, h.clean, h.apart⟩
  · rw [hmoved]
    refine h.moved stored move ?_ ?_ attempted
    · exact evident_of_stored h hkeeps hpc hcall hstored hfound stored move
    · intro c pc' run hget hrun hunconfirmed hleaves hown
      exact no_foreign_evidence h hkeeps hpc hcall hstored hfound stored hget hrun hunconfirmed
        hleaves hown

omit [Stdlib Uuid] in
theorem sound_claim (h : Sound w) {id c : Uuid} {worker : String} {ts : Instant}
    (stored : w.store.records.get? id = some old)
    (move : StoreCall.Moved (.claim id c worker ts) old new) (attempted : List Uuid)
    (hstore : Sound
      { store := { w.store with records := w.store.records.set id new }, threads := w.threads,
        attempted }) :
    Sound
      { store := { w.store with records := w.store.records.set id new }
        threads := w.threads.set caller (.marking ⟨new, c, ts⟩), attempted } := by
  have hid : new.outbox_id = id := move.same_id.trans (h.keyed _ _ stored)
  have howned := move.owned
  have hprovider := move.provider
  have hguard := move.guard
  have hcount := move.count
  simp only [StoreCall.owner, Prod.mk.injEq] at howned
  simp only [StoreCall.evidence, Option.none_or] at hprovider
  simp only [StoreCall.needs] at hguard
  simp only [StoreCall.counts] at hcount
  have hclean : new.provider_message_id = none := by
    by_contra hne
    have hevident := h.evident _ _ stored (hprovider ▸ hne)
    simp [hguard] at hevident
  have hnew : (w.store.records.set id new).get? new.outbox_id = some new := by simp [hid]
  refine hstore.claimed hnew howned.1 hclean ?_ attempted
  intro c' pc run hget hrun hrow
  obtain ⟨row, hrow', hle⟩ := (h.holds c' pc run hget hrun).known
  rw [hrow, hid, stored] at hrow'
  cases hrow'
  omega

variable {written : Option (OutboundSendOutboxRecord Uuid)}

omit [DecidableEq Uuid] [Stdlib Uuid] in
theorem run_of_after (hclaiming : ∀ id c worker ts, pc ≠ .claiming id c worker ts)
    (h : (pc.after written reply).run = some run) : pc.run = some run := by
  cases pc with
  | claiming id c worker ts => exact absurd rfl (hclaiming id c worker ts)
  | settling run error caught => cases reply <;> cases caught <;> first | exact h | cases h
  | _ => cases reply <;> first | exact h | cases h

omit [DecidableEq Uuid] [Stdlib Uuid] in
theorem unconfirmed_of_after (hrun : pc.run = some run)
    (h : (pc.after written reply).unconfirmed = true) :
    pc.unconfirmed = true ∨
      ∃ message stored error, pc = .markingSent run message ∧ reply = .raises stored error := by
  cases pc with
  | markingSent run' message =>
    cases hrun
    cases reply with
    | returns => cases h
    | raises stored error => exact Or.inr ⟨message, stored, error, rfl, rfl⟩
  | recording => cases reply <;> cases h
  | marking | sending | settling => exact Or.inl rfl
  | _ => cases hrun

theorem clean_of_mark_sent_raised (h : Sound w) {message error : String} {stored : Bool}
    (hkeeps : KeepsItsClaim w (.call caller (.raises stored error) seen))
    (hpc : w.threads.get? caller = some (.markingSent run message)) :
    Clean (storeAfter w.store (.markSent run.outbox.outbox_id run.claim_id message run.ts)
      (.raises stored error) seen).2 run := by
  obtain ⟨-, hkeeps⟩ := hkeeps
  simp only [hpc] at hkeeps
  have hholds := h.holds caller _ run hpc rfl
  intro row hown
  cases stored with
  | false => exact hkeeps rfl row hown
  | true =>
    have hdone := StoreCall.performed seen w.store
      (.markSent run.outbox.outbox_id run.claim_id message run.ts)
    simp only [storeAfter, Reply.stored, if_true] at hown
    generalize (StoreCall.markSent run.outbox.outbox_id run.claim_id message run.ts).perform seen
      w.store = out at hdone hown
    cases hdone with
    | refused unfound =>
      -- The guard fails, so the row is not under this claim: it would carry its token.
      obtain ⟨hrow, hclaimed, -⟩ := ownRow_eq_some.mp hown
      have hfound := StoreCall.matchingClaim_eq_some.mpr ⟨hrow, hclaimed, hholds.token row hown⟩
      simp only [StoreCall.found] at unfound
      rw [hfound] at unfound
      cases unfound
    | moved old new found hstored move =>
      rcases ownRow_after hholds hstored move hown with hbefore | ⟨-, -, hleaves, -⟩
      · obtain ⟨hrow, hclaimed, -⟩ := ownRow_eq_some.mp hown
        simp only [StoreCall.outbox_id, Dict.get?_set_self] at hrow
        cases hrow
        rw [move.status] at hclaimed
        cases hclaimed
      · cases hleaves

theorem sound_call (h : Sound w) (hkeeps : KeepsItsClaim w (.call caller reply seen))
    (hs : next rt w (.call caller reply seen) = some w') : Sound w' := by
  obtain ⟨pc, call, hpc, hcall, rfl⟩ := next_call hs
  have hstore := sound_store h hkeeps hpc hcall
    (attemptedAfter w.attempted (storeAfter w.store call reply seen).1 call)
  by_cases hclaiming : ∃ id c worker ts, pc = .claiming id c worker ts
  · obtain ⟨id, c, worker, ts, rfl⟩ := hclaiming
    cases hcall
    rcases storeAfter_cases w.store (.claim id c worker ts) reply seen with
      hsame | ⟨old, new, -, -, stored, move, hmoved⟩
    · rw [hsame] at hstore ⊢
      exact hstore.dropped (by cases reply <;> rfl) _
    · rw [hmoved] at hstore ⊢
      cases reply with
      | raises => exact hstore.dropped rfl _
      | returns =>
        have howned := move.owned
        simp only [StoreCall.owner, Prod.mk.injEq] at howned
        simp only [Pc.after, howned.1]
        exact sound_claim h stored move _ hstore
  · have hother : ∀ id c worker ts, pc ≠ .claiming id c worker ts :=
      fun id c worker ts heq => hclaiming ⟨id, c, worker, ts, heq⟩
    refine hstore.thread (Or.inl hpc) (fun run hrun => run_of_after hother hrun) ?_ _
    intro run hrun hunconfirmed
    have hrun := run_of_after hother hrun
    rcases unconfirmed_of_after hrun hunconfirmed with hbefore | ⟨message, stored, error, rfl, rfl⟩
    · exact hstore.clean caller pc run hpc hrun hbefore
    · cases hcall
      exact clean_of_mark_sent_raised h hkeeps hpc

omit [Stdlib Uuid] in
theorem Sound.created (h : Sound w) {record : OutboundSendOutboxRecord Uuid}
    (fresh : Fresh record) (free : w.store.records.get? record.outbox_id = none)
    (by_unique : Dict (UniqueKey Uuid) Uuid) :
    Sound { w with store := ⟨w.store.records.set record.outbox_id record, by_unique⟩ } := by
  have hother : ∀ caller pc run, w.threads.get? caller = some pc → pc.run = some run →
      record.outbox_id ≠ run.outbox.outbox_id := by
    intro caller pc run hget hrun hid
    obtain ⟨row, hrow, -⟩ := (h.holds caller pc run hget hrun).known
    rw [← hid, free] at hrow
    cases hrow
  have hown : ∀ caller pc run, w.threads.get? caller = some pc → pc.run = some run →
      ownRow ⟨w.store.records.set record.outbox_id record, by_unique⟩ run =
        ownRow w.store run := by
    intro caller pc run hget hrun
    simp only [ownRow, Dict.get?_set_ne _ _ (hother caller pc run hget hrun)]
  refine ⟨fun id row hrow => ?_, fun id row hrow => ?_, fun c pc run hget hrun => ⟨?_, ?_⟩,
    fun c pc run hget hrun hunconfirmed => ?_, h.apart⟩
  · rcases Dict.get?_set_cases hrow with ⟨rfl, rfl⟩ | ⟨-, hrow⟩
    · rfl
    · exact h.keyed id row hrow
  · rcases Dict.get?_set_cases hrow with ⟨-, rfl⟩ | ⟨-, hrow⟩
    · exact fun hne => absurd fresh.unsent hne
    · exact h.evident id row hrow
  · obtain ⟨row, hrow, hle⟩ := (h.holds c pc run hget hrun).known
    exact ⟨row, (Dict.get?_set_ne _ _ (hother c pc run hget hrun)).trans hrow, hle⟩
  · rw [hown c pc run hget hrun]
    exact (h.holds c pc run hget hrun).token
  · unfold Clean
    rw [hown c pc run hget hrun]
    exact h.clean c pc run hget hrun hunconfirmed

omit [DecidableEq Uuid] [Stdlib Uuid] in
theorem run_of_afterSend {outcome : SendOutcome} {run' : SendRun Uuid}
    (h : (afterSend run outcome).run = some run') : run = run' := by
  cases outcome <;> exact Option.some.inj h

theorem beginProcess_run (rt : OutboundSendOutboxRuntime)
    (s : InMemoryOutboundSendOutboxPersistence Uuid) (id : Uuid) (worker : String)
    (now : Instant) : (beginProcess rt s id worker now).run = none := by
  unfold beginProcess
  split
  · rfl
  · split
    · rfl
    · split
      · rfl
      · split <;> rfl

variable {action : Action Uuid}

theorem sound_next (h : Sound w) (hkeeps : KeepsItsClaim w action)
    (hs : next rt w action = some w') : Sound w' := by
  cases action with
  | create request =>
    rcases next_create hs with rfl | ⟨record, fresh, free, by_unique, rfl⟩
    · exact h
    · exact h.created fresh free by_unique
  | process c id worker now =>
    cases hs
    exact h.dropped (beginProcess_run rt w.store id worker now) _
  | sweep c args page =>
    simp only [next] at hs
    split_ifs at hs
    cases hs
    exact h.dropped rfl _
  | call c reply seen => exact sound_call h hkeeps hs
  | send c outcome =>
    simp only [next] at hs
    split at hs
    · rename_i run hpc
      cases hs
      refine h.thread (Or.inl hpc) ?_ ?_ _
      · intro run' hrun
        rw [← run_of_afterSend hrun]
        rfl
      · intro run' hrun _
        rw [← run_of_afterSend hrun]
        exact h.clean c _ run hpc rfl rfl
    · cases hs

theorem evidenceFinal_next (h : Sound w) (hkeeps : KeepsItsClaim w action)
    (hs : next rt w action = some w') : EvidenceFinal w action w' := by
  constructor
  · intro id row hrow hevidence
    have hsame : w'.store.records.get? id = some row →
        ∃ row', w'.store.records.get? id = some row' ∧ row'.provider_message_id.isSome ∧
          (row'.status = row.status ∨ row'.status = .sent) :=
      fun hrow' => ⟨row, hrow', hevidence, Or.inl rfl⟩
    cases action with
    | create request =>
      rcases next_create hs with rfl | ⟨record, -, free, by_unique, rfl⟩
      · exact hsame hrow
      · refine hsame ((Dict.get?_set_ne _ _ ?_).trans hrow)
        rintro rfl
        rw [hrow] at free
        cases free
    | process => cases hs; exact hsame hrow
    | sweep =>
      simp only [next] at hs
      split_ifs at hs
      cases hs
      exact hsame hrow
    | send =>
      simp only [next] at hs
      split at hs
      · cases hs
        exact hsame hrow
      · cases hs
    | call c reply seen =>
      obtain ⟨pc, call, hpc, hcall, rfl⟩ := next_call hs
      rcases storeAfter_cases w.store call reply seen with
        heq | ⟨old, new, hstored, hfound, stored, move, hmoved⟩
      · refine hsame ?_
        rw [heq]
        exact hrow
      · by_cases hid : call.outbox_id = id
        · subst hid
          rw [hrow] at stored
          cases stored
          have hne : row.provider_message_id ≠ none := Option.isSome_iff_ne_none.mp hevidence
          obtain ⟨hbefore, hafter⟩ :=
            evidence_stays h hkeeps hpc hcall hstored hfound hrow move hne
          rw [hmoved]
          refine ⟨new, Dict.get?_set_self _ _ _, ?_, ?_⟩
          · rw [move.provider]
            cases call.evidence with
            | none => exact hevidence
            | some message => rfl
          · rw [hbefore]
            exact hafter
        · refine hsame ?_
          rw [hmoved]
          exact (Dict.get?_set_ne _ _ hid).trans hrow
  · rintro c outcome run rfl hpc row hrow
    obtain ⟨-, hkeeps⟩ := hkeeps
    simp only [hpc] at hkeeps
    obtain ⟨row', hown⟩ := Option.isSome_iff_exists.mp hkeeps
    have hclean := h.clean c _ run hpc rfl rfl row' hown
    obtain ⟨hrow', -, -⟩ := ownRow_eq_some.mp hown
    rw [hrow] at hrow'
    cases hrow'
    exact hclean

/-- Along every run of the workers and the sweeps in which each worker keeps to its claim, no
`mark_sent` is lost after the evidence, and no requeue meets evidence, the evidence of a send is
final: the row may only become sent, and it is not sent again. -/
theorem evidence_final_when_claims_kept (rt : OutboundSendOutboxRuntime)
    (actions : List (Action Uuid))
    (hmeets : runs.Meets (next rt) KeepsItsClaim World.start actions) :
    runs.Along (next rt) EvidenceFinal World.start actions := by
  refine runs.along_when (I := Sound) ?_ Sound.start hmeets
  intro w action w' h hkeeps hs
  exact ⟨sound_next h hkeeps hs, evidenceFinal_next h hkeeps hs⟩

/-! ## Two runs over plain texts -/

/-- A worker sends the reply and stores the id of the provider. -/
def storesEvidence : List (Action String) :=
  [.create replyRequest, .process 0 replyId "w" 0, .call 0 .returns none,
    .call 0 .returns none, .send 0 (.sent "m1"), .call 0 .returns none]

/-- The worker stops there, and the sweep finds the evidence. -/
def sweptToSent : List (Action String) :=
  storesEvidence ++
    [.sweep 1 { stale_before := 5, requeued_at := 6 }
        [{ claimedReply with
            send_attempted_at := some 0, provider_message_id := some "m1" }],
      .call 1 .returns none]

theorem a_swept_reply_is_sent :
    runs.Along (next {}) EvidenceFinal World.start sweptToSent :=
  evidence_final_when_claims_kept {} sweptToSent (by decide +kernel)

/-- The call of `mark_sent` is lost, so the except branch settles the row. -/
def losesMarkSent : List (Action String) :=
  storesEvidence ++ [.call 0 (.raises false "OperationalError: boom") none]

/-- The row is pending again, and the next worker comes to the provider with it. -/
def sendsAgain : List (Action String) :=
  losesMarkSent ++
    [.call 0 .returns none, .process 0 replyId "w" (seconds 100), .call 0 .returns none,
      .call 0 .returns none]
/-- Whether a thread is about to call the provider for a row that has a provider id. -/
def resends (w : World Uuid) (caller : Nat) : Bool :=
  match w.threads.get? caller with
  | some (.sending run) =>
    (w.store.records.get? run.outbox.outbox_id).any (·.provider_message_id.isSome)
  | _ => false

theorem a_lost_mark_sent_is_resent :
    ¬ runs.Along (next {}) EvidenceFinal World.start (losesMarkSent ++ [.call 0 .returns none]) ∧
      (runs.after (next {}) World.start sendsAgain).any (resends · 0) := by
  refine ⟨fun h => ?_, by decide +kernel⟩
  have hrun : ∀ w ∈ runs.after (next {}) World.start losesMarkSent,
      ∀ w' ∈ next {} w (.call 0 .returns none),
        (w.store.records.get? replyId).any
          (fun row => row.provider_message_id.isSome && row.status = .claimed) ∧
        (w'.store.records.get? replyId).any fun row => row.status = .pending := by
    decide +kernel
  have hlong : (runs.after (next {}) (World.start : World String)
      (losesMarkSent ++ [.call 0 .returns none])).isSome := by decide +kernel
  rw [runs.after_concat] at hlong
  obtain ⟨w', hlong⟩ := Option.isSome_iff_exists.mp hlong
  obtain ⟨w, hw, hw'⟩ := Option.bind_eq_some_iff.mp hlong
  obtain ⟨hbefore, hafter⟩ := hrun w hw w' hw'
  obtain ⟨row, hrow, hbefore⟩ := (Option.any_eq_true _ _).mp hbefore
  obtain ⟨row', hrow', hpending⟩ := (Option.any_eq_true _ _).mp hafter
  simp only [Bool.and_eq_true, decide_eq_true_eq] at hbefore hpending
  obtain ⟨after, hafter, -, hstatus⟩ := (h.last hw hw').1 replyId row hrow hbefore.1
  rw [hrow'] at hafter
  cases hafter
  rw [hpending, hbefore.2] at hstatus
  rcases hstatus with hclaimed | hsent
  · cases hclaimed
  · cases hsent

end

end SendWorld

end operious.outbound
