-- The ledgers of all sessions over all interleavings of the calls of all runtimes.
import Operious.Session.Coherence

namespace operious.session

open awaits InMemorySessionPersistence

variable {Uuid : Type} [DecidableEq Uuid] [Stdlib Uuid]

/-- Calls of runtimes side by side on one store. -/
abbrev SessionPool (Uuid : Type) :=
  Pool Nat (Call Uuid) Call.Answer (SessionEnvelope Uuid) (World Uuid)

def starts (_ : Nat) (t : Task (Call Uuid) Call.Answer (SessionEnvelope Uuid)) : Prop :=
  ∃ call : RuntimeCall Uuid, t = call.task

/-- Some interleaving of calls leads from `p` to `q`. -/
def Leads (p q : SessionPool Uuid) : Prop := Pool.Leads starts answers p q

/-- A pool that an interleaving leads to from empty tables. -/
def Reached (p : SessionPool Uuid) : Prop := Leads (Pool.idle World.new) p

def alone (p : SessionPool Uuid) (i : Nat) (call : RuntimeCall Uuid) : SessionPool Uuid :=
  Pool.alone perform p i call.task

variable {p : SessionPool Uuid}

theorem leads_alone {i : Nat} (call : RuntimeCall Uuid) (free : p.tasks i = none) :
    Leads p (alone p i call) :=
  Pool.leads_alone free ⟨call, rfl⟩

theorem Reached.alone {p : SessionPool Uuid} {i : Nat} (h : Reached p) (call : RuntimeCall Uuid)
    (free : p.tasks i = none) : Reached (alone p i call) :=
  Relation.ReflTransGen.trans h (leads_alone call free)

/-! ## What holds along every interleaving -/

variable [LawfulStdlib Uuid]

/-- The pool keeps to the ledger protocol, and a task that has ended owes nothing. -/
abbrev Kept (p : SessionPool Uuid) (g : Ghost Uuid) : Prop :=
  Sound ledgerProtocol answers (fun i _ y => ledgerProtocol.fresh i y) p g

theorem start_sat (i : Nat) (t : Task (Call Uuid) Call.Answer (SessionEnvelope Uuid))
    (x : World Uuid × Ghost Uuid) (h : starts i t) (hinv : ledgerProtocol.inv x)
    (hfresh : ledgerProtocol.fresh i x) :
    Sat ledgerProtocol answers i t (fun _ y => ledgerProtocol.fresh i y) x := by
  obtain ⟨call, rfl⟩ := h
  exact Sat.weaken (ledgerDiscipline.keeps call hinv hfresh) fun _ _ _ hr => hr.1

theorem Reached.kept (h : Reached p) : ∃ g, Kept p g := by
  have hidle : Kept (Pool.idle (World.new : World Uuid)) ⟨fun _ => none, fun _ => none⟩ := by
    refine Sound.idle ⟨indexed_new, ?_, ?_, ?_⟩ (fun _ _ ho => nomatch ho)
    · exact fun _ _ he => nomatch he
    · exact fun _ => Ledger.absent
    · exact fun _ _ _ hc => nomatch hc
  obtain ⟨g, -, hkept⟩ := hidle.leads start_sat h
  exact ⟨g, hkept⟩

theorem Reached.moved {q : SessionPool Uuid} (h : Reached p) (hpq : Leads p q) (id : Uuid) :
    Moved p.world.store q.world.store id := by
  obtain ⟨g, hkept⟩ := h.kept
  obtain ⟨g', hmoves, -⟩ := hkept.leads start_sat hpq
  exact hmoves.1 id

omit [LawfulStdlib Uuid] in
theorem Kept.owner_none {g : Ghost Uuid} (h : Kept p g) (hq : p.Quiet) (id : Uuid) :
    g.owner id = none := by
  cases ho : g.owner id with
  | none => rfl
  | some i =>
    cases ht : p.tasks i with
    | none => exact absurd ho (h.fresh i ht id)
    | some t =>
      obtain ⟨_, hfresh⟩ := h.quiet hq ht
      exact absurd ho (hfresh id)

omit [LawfulStdlib Uuid] in
theorem perform_row_or_log (c : Call Uuid) (w : World Uuid) (id : Uuid) :
    (perform c w).2.store.row id = w.store.row id ∨
      (perform c w).2.store.log id = w.store.log id := by
  cases c with
  | save_session record =>
    by_cases h : w.store.Newer record
    · rw [perform_save_session_ok h]
      exact Or.inr rfl
    · obtain ⟨message, hs⟩ := perform_save_session_error h
      rw [hs]
      exact Or.inr rfl
  | save_event record =>
    by_cases h : w.store.Accepts record
    · rw [perform_save_event_ok h]
      exact Or.inl rfl
    · obtain ⟨message, store, hs, hsame⟩ := perform_save_event_error h
      rw [hs]
      exact Or.inl (hsame.row id)
  | save_correlation record =>
    simp only [perform, InMemorySessionPersistence.save_correlation]
    split
    · exact Or.inl rfl
    · exact Or.inl rfl
  | get_session session_id tenant => exact Or.inl rfl
  | get_event event_id tenant => exact Or.inl rfl
  | get_event_by_idempotency_key session_id key => exact Or.inl rfl
  | list_events query tenant => exact Or.inl rfl
  | registry_get registry session_id => exact Or.inl rfl
  | registry_register registry session => exact Or.inl rfl
  | registry_update registry session => exact Or.inl rfl

theorem Reached.first_row (h : Reached p) {id : Uuid} {row : SessionRecord Uuid}
    (hrow : p.world.store.row id = some row) :
    ∃ p₀ first, Reached p₀ ∧ Leads p₀ p ∧ p₀.world.store.row id = some first ∧
      p₀.world.store.log id = [] := by
  induction h generalizing row with
  | refl => cases hrow
  | @tail q r hq hstep ih =>
    cases hqrow : q.world.store.row id with
    | some row' =>
      obtain ⟨p₀, first, hreached, hleads, hfirst, hlog⟩ := ih hqrow
      exact ⟨p₀, first, hreached, hleads.tail hstep, hfirst, hlog⟩
    | none =>
      refine ⟨r, row, Relation.ReflTransGen.tail hq hstep, Relation.ReflTransGen.refl, hrow, ?_⟩
      have hqlog : q.world.store.log id = [] := by
        obtain ⟨g, hkept⟩ := Reached.kept hq
        have hledger := hkept.inv.ledgers id
        rw [hqrow] at hledger
        exact hledger.of_absent.1
      cases hstep with
      | start i t free may =>
        rw [show (⟨q.world, _⟩ : SessionPool Uuid).world.store.row id = none from hqrow] at hrow
        cases hrow
      | resume i c k a w waits answer =>
        have hw : w = (perform c q.world).2 := by rw [show perform c q.world = (a, w) from answer]
        subst hw
        rcases perform_row_or_log c q.world id with hsame | hsame
        · rw [hsame, hqrow] at hrow
          cases hrow
        · exact hsame.trans hqlog

/-- The ledgers of all sessions, over every interleaving of the calls of any number of runtimes. -/
theorem ledgers_are_coherent {p : SessionPool Uuid} (h : Reached p) (id : Uuid) :
    (p.world.store.log id).map SessionEventRecord.sequence =
        List.range (p.world.store.log id).length ∧
      (∀ e ∈ p.world.store.log id, e.event_id = derive_event_id id e.sequence) ∧
      (∀ (m n : Nat) (e e' : SessionEventRecord Uuid) (key : String),
        (p.world.store.log id)[m]? = some e → (p.world.store.log id)[n]? = some e' →
        e.idempotency_key = some key → e'.idempotency_key = some key → m = n) ∧
      (p.Quiet → ∀ row, p.world.store.row id = some row → ∃ p₀ first, Reached p₀ ∧ Leads p₀ p ∧
        p₀.world.store.row id = some first ∧ p₀.world.store.log id = [] ∧
        Coherent (p.world.store.log id) row first) ∧
      (∀ row, p.world.store.row id = some row → is_terminal row.lifecycle_phase = true →
        ∀ q, Leads p q → ∃ row' added, q.world.store.row id = some row' ∧
          row'.lifecycle_phase = row.lifecycle_phase ∧
          q.world.store.log id = p.world.store.log id ++ added ∧
          ∀ e ∈ added, recorded_lifecycle e = true ∧
            new_phase? e = some row.lifecycle_phase.value) := by
  obtain ⟨g, hkept⟩ := h.kept
  have hinv : Inv (p.world, g) := hkept.inv
  refine ⟨hinv.indexed.sequences id, hinv.ids id, ?_, ?_, ?_⟩
  · intro m n e e' key hm hn hkey hkey'
    have he := (hinv.indexed.keyed id key e).mpr ⟨List.mem_of_getElem? hm, hkey⟩
    have he' := (hinv.indexed.keyed id key e').mpr ⟨List.mem_of_getElem? hn, hkey'⟩
    rw [he] at he'
    cases he'
    rw [← hinv.indexed.sequence_eq hm, ← hinv.indexed.sequence_eq hn]
  · intro hq row hrow
    obtain ⟨p₀, first, hreached, hleads, hfirst, hnil⟩ := h.first_row hrow
    obtain ⟨g₀, hkept₀⟩ := hreached.kept
    obtain ⟨g', hmoves, hkept'⟩ := hkept₀.leads start_sat hleads
    have hledger₀ := hkept₀.inv.ledgers id
    rw [show p₀.world.store.row id = some first from hfirst,
      show p₀.world.store.log id = [] from hnil] at hledger₀
    have hopening := hmoves.2 id first hledger₀.first_of_nil
    have hledger := hkept'.inv.ledgers id
    rw [show p.world.store.row id = some row from hrow, Kept.owner_none hkept' hq id] at hledger
    obtain ⟨r, hr, hcoherent⟩ := hledger.coherent_of_unowned
    rw [show g'.opening id = some first from hopening] at hr
    cases hr
    exact ⟨p₀, first, hreached, hleads, hfirst, hnil, hcoherent⟩
  · intro row hrow hterminal q hpq
    have hmoved := h.moved hpq id
    obtain ⟨added, hlog, hadded⟩ := hmoved.log
    obtain ⟨row', hrow', -, -, hphase⟩ := hmoved.row row hrow
    exact ⟨row', added, hrow', hphase hterminal, hlog, hadded row hrow hterminal⟩

/-! ## A run of three calls -/

def sampleTerminate : RuntimeCall String :=
  .record_lifecycle ⟨1⟩
    { session_id := "s1", phase := .terminated, reason := some "done", recorded_at := none } 7

def samplePool (kind : SessionEventKind) : SessionPool String :=
  alone (alone (Pool.idle World.new) 0 (sampleOpen 0 "s1")) 1
    (.append_event ⟨1⟩ (sampleAppend "s1" kind (some "k")) 6)

theorem samplePool_reached (kind : SessionEventKind) : Reached (samplePool kind) :=
  Reached.alone (Reached.alone Relation.ReflTransGen.refl _ rfl) _ rfl

theorem samplePool_quiet (kind : SessionEventKind) : (samplePool kind).Quiet := by
  intro i t ht
  rcases of_update_eq_some ht with ⟨-, rfl⟩ | ⟨-, ht⟩
  · exact ⟨_, rfl⟩
  rcases of_update_eq_some ht with ⟨-, rfl⟩ | ⟨-, ht⟩
  · exact ⟨_, rfl⟩
  · cases ht

theorem a_terminated_ledger_is_coherent :
    ((alone (samplePool .customer_message) 2 sampleTerminate).world.store.log "s1").map
        SessionEventRecord.sequence = [0, 1, 2] ∧
      ∀ e ∈ (alone (samplePool .customer_message) 2 sampleTerminate).world.store.log "s1",
        e.event_id = derive_event_id "s1" e.sequence := by
  have h := ledgers_are_coherent
    ((samplePool_reached .customer_message).alone (i := 2) sampleTerminate rfl) "s1"
  refine ⟨?_, h.2.1⟩
  rw [h.1]
  decide +kernel

/-- Read by kind alone, neither the last lifecycle event nor the last context event has to be the
one that the row holds: `append_event` takes these kinds too, and changes neither. -/
theorem a_kind_is_not_a_phase :
    ¬ ∀ p : SessionPool String, Reached p → p.Quiet → ∀ id row, p.world.store.row id = some row →
      (lastRecorded (fun e => isLifecycleKind e.kind) (p.world.store.log id)).elim
          (row.lifecycle_phase = .initiated)
          (fun e => new_phase? e = some row.lifecycle_phase.value) ∧
        ∀ e, lastRecorded (fun e => e.kind = .context_attached) (p.world.store.log id) = some e →
          HoldsContext e row := by
  intro h
  have hphase : ((samplePool .termination_recorded).world.store.row "s1").map
      (fun r => r.lifecycle_phase) = some .initiated := by decide +kernel
  have hlast : (lastRecorded (fun e => isLifecycleKind e.kind)
      ((samplePool .termination_recorded).world.store.log "s1")).map new_phase? = some none := by
    decide +kernel
  obtain ⟨row, hrow, -⟩ := Option.map_eq_some_iff.1 hphase
  obtain ⟨e, he, hnone⟩ := Option.map_eq_some_iff.1 hlast
  have hread := (h _ (samplePool_reached .termination_recorded) (samplePool_quiet _) "s1" row
    hrow).1
  rw [he] at hread
  exact absurd (hnone.symm.trans hread) (by simp)

end operious.session
