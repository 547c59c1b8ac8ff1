-- Any number of runtimes, each with copies of its own, on one in-memory persistence: between its two
-- writes a call owes the second one, and only the store's checks of sequence and revision keep the others
-- away from the session until then.
import Operious.Session.Discipline

namespace operious.session

open awaits InMemorySessionPersistence

variable {Uuid : Type}

/-! ## A ledger and its row -/

/-- The last event of those that pass `p`. -/
def lastRecorded (p : SessionEventRecord Uuid → Bool) (log : List (SessionEventRecord Uuid)) :
    Option (SessionEventRecord Uuid) := (log.filter p).getLast?

theorem lastRecorded_concat (p : SessionEventRecord Uuid → Bool)
    (log : List (SessionEventRecord Uuid)) (e : SessionEventRecord Uuid) :
    lastRecorded p (log ++ [e]) = if p e then some e else lastRecorded p log := by
  unfold lastRecorded
  rw [List.filter_append]
  by_cases h : p e
  · simp [h]
  · simp [h]

/-- The row is the fold of the events. `opening` is the row as it was first saved. -/
structure Coherent (log : List (SessionEventRecord Uuid)) (row opening : SessionRecord Uuid) :
    Prop where
  nonempty : log ≠ []
  revision : row.revision = log.length
  head : row.sequence_head = (log.length : Int) - 1
  phase : (lastRecorded recorded_lifecycle log).elim (row.lifecycle_phase = .initiated)
    fun e => new_phase? e = some row.lifecycle_phase.value
  context : (lastRecorded recorded_context log).elim (SameContext opening row)
    fun e => HoldsContext e row

theorem SameContext.forget (row : SessionRecord Uuid) : SameContext row row.forget :=
  ⟨rfl, rfl, rfl, rfl⟩

theorem sameContext_of_context_eq {c u : OperationalSession Uuid} (h : u.context = c.context) :
    SameContext (session_to_record c) (session_to_record u) := by
  constructor
  · simp only [session_to_record, h]
  · simp only [session_to_record, h]
  · simp only [session_to_record, h]
  · simp only [session_to_record, h]

variable {log : List (SessionEventRecord Uuid)} {event : SessionTimelineEvent Uuid}

/-- One more event, with the update that goes with it. -/
theorem Coherent.extend [Stdlib Uuid] {row opening : SessionRecord Uuid}
    {session updated : OperationalSession Uuid} (h : Coherent log row opening)
    (hcopy : session_to_record session = row.forget) (he : Extends session event updated) :
    Coherent (log ++ [event_to_record event]) (session_to_record updated) opening := by
  have hrevision : session.revision = row.revision := congrArg SessionRecord.revision hcopy
  have hhead : session.sequence_head = row.sequence_head :=
    congrArg SessionRecord.sequence_head hcopy
  have hphase : session.lifecycle.phase = row.lifecycle_phase :=
    congrArg SessionRecord.lifecycle_phase hcopy
  have hsame : SameContext row (session_to_record session) := by
    rw [hcopy]
    exact SameContext.forget row
  refine ⟨by simp, ?_, ?_, ?_, ?_⟩
  · rw [List.length_append, ← h.revision, ← hrevision]
    exact he.revision
  · have hupdated : (session_to_record updated).sequence_head = event.sequence := he.head
    have hsequence := he.sequence
    have hlog := h.head
    simp only [List.length_append, List.length_cons, List.length_nil]
    omega
  · rw [lastRecorded_concat]
    by_cases hrec : recorded_lifecycle (event_to_record event) = true
    · rw [if_pos hrec]
      exact he.phase hrec
    · rw [if_neg hrec]
      have hupdated : (session_to_record updated).lifecycle_phase = row.lifecycle_phase :=
        (he.same_phase (by simpa using hrec)).trans hphase
      rw [hupdated]
      exact h.phase
  · rw [lastRecorded_concat]
    by_cases hrec : recorded_context (event_to_record event) = true
    · rw [if_pos hrec]
      exact he.context hrec
    · rw [if_neg hrec]
      have hupdated : SameContext row (session_to_record updated) :=
        hsame.trans (sameContext_of_context_eq (he.same_context (by simpa using hrec)))
      have hcontext := h.context
      cases hlast : lastRecorded recorded_context log with
      | none =>
        rw [hlast] at hcontext
        exact SameContext.trans hcontext hupdated
      | some e =>
        rw [hlast] at hcontext
        exact HoldsContext.same hcontext hupdated

/-! ## What a step may do to a session -/

variable {c : OperationalSession Uuid}

section

variable [DecidableEq Uuid]

/-- Events are only added, the row only gets newer, and of a terminal session the phase stays and
only events that record this phase again are added. -/
structure Moved (s t : InMemorySessionPersistence Uuid) (id : Uuid) : Prop where
  log : ∃ added, t.log id = s.log id ++ added ∧
    ∀ row, s.row id = some row → is_terminal row.lifecycle_phase = true →
      ∀ e ∈ added, recorded_lifecycle e = true ∧ new_phase? e = some row.lifecycle_phase.value
  row : ∀ row, s.row id = some row → ∃ row', t.row id = some row' ∧
    row.revision ≤ row'.revision ∧ (row.revision = row'.revision → row' = row) ∧
      (is_terminal row.lifecycle_phase = true → row'.lifecycle_phase = row.lifecycle_phase)

variable {s t : InMemorySessionPersistence Uuid}

variable {id : Uuid}

theorem Moved.of_eq (hlog : t.log id = s.log id) (hrow : t.row id = s.row id) :
    Moved s t id where
  log := ⟨[], by simpa using hlog, fun _ _ _ _ he => nomatch he⟩
  row row h := ⟨row, hrow.trans h, le_refl _, fun _ => rfl, fun _ => rfl⟩

theorem Moved.trans {s t u : InMemorySessionPersistence Uuid} (h : Moved s t id)
    (h' : Moved t u id) : Moved s u id := by
  obtain ⟨added, hlog, hterminal⟩ := h.log
  obtain ⟨added', hlog', hterminal'⟩ := h'.log
  constructor
  · refine ⟨added ++ added', by rw [hlog', hlog, List.append_assoc], ?_⟩
    intro row hrow hphase e he
    rcases List.mem_append.mp he with he | he
    · exact hterminal row hrow hphase e he
    · obtain ⟨row', hrow', -, -, hsame⟩ := h.row row hrow
      rw [← hsame hphase]
      exact hterminal' row' hrow' (by rw [hsame hphase]; exact hphase) e he
  · intro row hrow
    obtain ⟨row', hrow', hle, heq, hsame⟩ := h.row row hrow
    obtain ⟨row'', hrow'', hle', heq', hsame'⟩ := h'.row row' hrow'
    refine ⟨row'', hrow'', le_trans hle hle', ?_, ?_⟩
    · intro hrevision
      have hrow1 := heq (by omega)
      have hrow2 := heq' (by omega)
      rw [hrow2, hrow1]
    · intro hphase
      rw [hsame' (by rw [hsame hphase]; exact hphase), hsame hphase]

structure Copy (s : InMemorySessionPersistence Uuid) (id : Uuid) (c : OperationalSession Uuid) :
    Prop where
  own : c.identity.session_id = id
  head : c.sequence_head + 1 = c.revision
  positive : 1 ≤ c.revision
  row : ∃ row, s.row id = some row ∧ c.revision ≤ row.revision ∧
    (c.revision = row.revision → session_to_record c = row.forget)

theorem Copy.moved (h : Copy s id c) (hst : Moved s t id) : Copy t id c := by
  obtain ⟨row, hrow, hle, hsame⟩ := h.row
  obtain ⟨row', hrow', hle', heq, -⟩ := hst.row row hrow
  refine ⟨h.own, h.head, h.positive, row', hrow', le_trans hle hle', ?_⟩
  intro hrevision
  rw [heq (by omega)]
  exact hsame (by omega)

end

/-! ## What is owed -/

/-- What only the proof keeps: the task that owes a write of a session, and the row of each session
as it was first saved. -/
structure Ghost (Uuid : Type) where
  owner : Uuid → Option Nat
  opening : Uuid → Option (SessionRecord Uuid)

/-- The states of one session: its events, its row, the task that owes a write, and the row as it
was first saved. -/
inductive Ledger : List (SessionEventRecord Uuid) → Option (SessionRecord Uuid) → Option Nat →
    Option (SessionRecord Uuid) → Prop
  | absent : Ledger [] none none none
  /-- Saved, and its first event is owed. -/
  | opening (i : Nat) (row : SessionRecord Uuid) (revision : row.revision = 1)
      (head : row.sequence_head = 0) (phase : row.lifecycle_phase = .initiated) :
      Ledger [] (some row) (some i) (some row)
  | whole (log : List (SessionEventRecord Uuid)) (row first : SessionRecord Uuid)
      (coherent : Coherent log row first) : Ledger log (some row) none (some first)
  /-- The last event is stored, and the row that goes with it is owed. -/
  | half (i : Nat) (log : List (SessionEventRecord Uuid)) (e : SessionEventRecord Uuid)
      (row first : SessionRecord Uuid) (coherent : Coherent log row first) :
      Ledger (log ++ [e]) (some row) (some i) (some first)

variable {first : Option (SessionRecord Uuid)} {owner : Option Nat}

theorem Ledger.of_absent (h : Ledger log none owner first) :
    log = [] ∧ owner = none ∧ first = none := by
  cases h
  exact ⟨rfl, rfl, rfl⟩

variable {row : SessionRecord Uuid}

theorem Ledger.first_of_nil (h : Ledger [] (some row) owner first) : first = some row := by
  generalize hlog : ([] : List (SessionEventRecord Uuid)) = log at h
  cases h with
  | opening i row revision head phase => rfl
  | whole log row first coherent => exact absurd hlog.symm coherent.nonempty
  | half i log e row first coherent => simp at hlog

theorem Ledger.coherent_of_unowned (h : Ledger log (some row) none first) :
    ∃ r, first = some r ∧ Coherent log row r := by
  cases h with
  | whole log row first coherent => exact ⟨first, rfl, coherent⟩

theorem Ledger.revision_pos (h : Ledger log (some row) owner first) : 1 ≤ row.revision := by
  cases h with
  | opening i row revision head phase => omega
  | whole log row first coherent | half i log e row first coherent =>
    have hpos := List.length_pos_iff.mpr coherent.nonempty
    have hrevision := coherent.revision
    omega

theorem Ledger.head_eq (h : Ledger log (some row) owner first) :
    row.sequence_head + 1 = row.revision := by
  cases h with
  | opening i row revision head phase => omega
  | whole log row first coherent | half i log e row first coherent =>
    have hhead := coherent.head
    have hrevision := coherent.revision
    omega

section

variable [DecidableEq Uuid] [Stdlib Uuid]

structure Inv (x : World Uuid × Ghost Uuid) : Prop where
  indexed : x.1.store.Indexed
  ids : ∀ id, ∀ e ∈ x.1.store.log id, e.event_id = derive_event_id id e.sequence
  ledgers : ∀ id, Ledger (x.1.store.log id) (x.1.store.row id) (x.2.owner id) (x.2.opening id)
  copies : ∀ registry id c, (x.1.registries registry).get? id = some c → Copy x.1.store id c

/-- What the runtimes agree on: a session of which a task owes a write belongs to that task. -/
def ledgerProtocol : Protocol Nat (World Uuid × Ghost Uuid) where
  inv := Inv
  moves x y := (∀ id, Moved x.1.store y.1.store id) ∧
    ∀ id first, x.2.opening id = some first → y.2.opening id = some first
  keeps i x y := ∀ id,
    (x.2.owner id = some i → y.1.store.log id = x.1.store.log id ∧
      y.1.store.row id = x.1.store.row id ∧ y.2.owner id = some i) ∧
    (y.2.owner id = some i → x.2.owner id = some i)
  fresh i x := ∀ id, x.2.owner id ≠ some i
  moves_refl _ := ⟨fun _ => Moved.of_eq rfl rfl, fun _ _ h => h⟩
  moves_trans h h' := ⟨fun id => (h.1 id).trans (h'.1 id), fun id first hf =>
    h'.2 id first (h.2 id first hf)⟩
  keeps_refl _ _ := fun _ => ⟨fun h => ⟨rfl, rfl, h⟩, fun h => h⟩
  keeps_trans h h' := fun id =>
    ⟨fun ho =>
      have hy := (h id).1 ho
      have hz := (h' id).1 hy.2.2
      ⟨hz.1.trans hy.1, hz.2.1.trans hy.2.1, hz.2.2⟩,
    fun ho => (h id).2 ((h' id).2 ho)⟩
  fresh_keeps hf hk := fun id ho => hf id ((hk id).2 ho)

/-! ## Steps that keep to the protocol -/

variable {i : Nat} {id : Uuid} {x : World Uuid × Ghost Uuid}

/-- The ghost with another owner and another first row of one session. -/
def Ghost.at (g : Ghost Uuid) (id : Uuid) (owner : Option Nat)
    (first : Option (SessionRecord Uuid)) : Ghost Uuid where
  owner := Function.update g.owner id owner
  opening := Function.update g.opening id first

variable {t : InMemorySessionPersistence Uuid}

theorem allows_same {registries : Nat → SessionRegistry Uuid} (hinv : Inv x) (hindexed : t.Indexed)
    (hlog : ∀ id, t.log id = x.1.store.log id) (hrow : ∀ id, t.row id = x.1.store.row id)
    (hcopies : ∀ registry id c, (registries registry).get? id = some c → Copy x.1.store id c) :
    ledgerProtocol.Allows i x (⟨t, registries⟩, x.2) := by
  have hmoved (id : Uuid) : Moved x.1.store t id := Moved.of_eq (hlog id) (hrow id)
  refine ⟨⟨hindexed, ?_, ?_, ?_⟩, ⟨hmoved, fun _ _ h => h⟩, fun j _ id => ?_⟩
  · intro id e he
    exact hinv.ids id e (by rw [← hlog id]; exact he)
  · intro id
    have hledger := hinv.ledgers id
    rw [← hlog id, ← hrow id] at hledger
    exact hledger
  · intro registry id c hc
    exact (hcopies registry id c hc).moved (hmoved id)
  · exact ⟨fun ho => ⟨hlog id, hrow id, ho⟩, fun ho => ho⟩

/-- A step that writes one session, which no other task owns. -/
theorem allows_write (hinv : Inv x) (hindexed : t.Indexed)
    (hlog : ∀ id', id' ≠ id → t.log id' = x.1.store.log id')
    (hrow : ∀ id', id' ≠ id → t.row id' = x.1.store.row id')
    (hids : ∀ e ∈ t.log id, e.event_id = derive_event_id id e.sequence)
    (hledger : Ledger (t.log id) (t.row id) owner first) (hmoved : Moved x.1.store t id)
    (hfirst : ∀ r, x.2.opening id = some r → first = some r)
    (howned : ∀ j, x.2.owner id = some j → j = i) (howner : ∀ j, owner = some j → j = i) :
    ledgerProtocol.Allows i x (⟨t, x.1.registries⟩, x.2.at id owner first) := by
  have hmoves (id' : Uuid) : Moved x.1.store t id' := by
    by_cases h : id' = id
    · subst h
      exact hmoved
    · exact Moved.of_eq (hlog id' h) (hrow id' h)
  refine ⟨⟨hindexed, ?_, ?_, ?_⟩, ⟨hmoves, ?_⟩, fun j hj id' => ?_⟩
  · intro id' e he
    by_cases h : id' = id
    · subst h
      exact hids e he
    · exact hinv.ids id' e (by rw [← hlog id' h]; exact he)
  · intro id'
    by_cases h : id' = id
    · subst h
      simpa [Ghost.at] using hledger
    · have hother := hinv.ledgers id'
      rw [← hlog id' h, ← hrow id' h] at hother
      simpa [Ghost.at, Function.update_of_ne h] using hother
  · intro registry id' c hc
    exact (hinv.copies registry id' c hc).moved (hmoves id')
  · intro id' r hr
    by_cases h : id' = id
    · subst h
      simpa [Ghost.at] using hfirst r hr
    · simpa [Ghost.at, Function.update_of_ne h] using hr
  · by_cases h : id' = id
    · subst h
      refine ⟨fun ho => absurd (howned j ho) hj, fun ho => ?_⟩
      simp only [Ghost.at, Function.update_self] at ho
      exact absurd (howner j ho) hj
    · refine ⟨fun ho => ⟨hlog id' h, hrow id' h, ?_⟩, fun ho => ?_⟩
      · simpa [Ghost.at, Function.update_of_ne h] using ho
      · simpa [Ghost.at, Function.update_of_ne h] using ho

theorem fresh_at {w : World Uuid} {g : Ghost Uuid} (h : ∀ id', id' ≠ id → g.owner id' ≠ some i) :
    ledgerProtocol.fresh i (w, g.at id none first) := by
  intro id'
  by_cases hid : id' = id
  · subst hid
    simp [Ghost.at]
  · simpa [Ghost.at, Function.update_of_ne hid] using h id' hid

omit [Stdlib Uuid] in
theorem whole_of_next {store : InMemorySessionPersistence Uuid}
    (hledger : Ledger log (some row) owner first) (hcopy : Copy store id c)
    (hrow : store.row id = some row) (hnext : c.sequence_head + 1 = (log.length : Int)) :
    ∃ r, owner = none ∧ first = some r ∧ Coherent log row r ∧
      session_to_record c = row.forget := by
  obtain ⟨row', hrow', hle, hsame⟩ := hcopy.row
  rw [hrow] at hrow'
  cases hrow'
  have hhead := hcopy.head
  have hpositive := hcopy.positive
  cases hledger with
  | opening i row revision head phase =>
    simp only [List.length_nil, Nat.cast_zero] at hnext
    omega
  | whole log row r coherent =>
    have hrevision := coherent.revision
    exact ⟨r, rfl, rfl, coherent, hsame (by omega)⟩
  | half i log e row r coherent =>
    have hrevision := coherent.revision
    simp only [List.length_append, List.length_cons, List.length_nil] at hnext
    omega

theorem mayRemember (hinv : Inv x) (hfresh : ledgerProtocol.fresh i x) (hcopy : Copy x.1.store id c)
    (registry : Nat) : MayRemember ledgerProtocol i registry c x := by
  intro records hrecords
  refine ⟨allows_same hinv hinv.indexed (fun _ => rfl) (fun _ => rfl) ?_, hfresh⟩
  intro registry' id' c' hc
  by_cases h : registry' = registry
  · subst h
    rw [Function.update_self] at hc
    rcases hrecords id' c' hc with hc | ⟨rfl, rfl⟩
    · exact hinv.copies registry' id' c' hc
    · rw [hcopy.own]
      exact hcopy
  · rw [Function.update_of_ne h] at hc
    exact hinv.copies registry' id' c' hc

structure OwesRow (i : Nat) (id : Uuid) (c : OperationalSession Uuid)
    (event : SessionTimelineEvent Uuid) (x : World Uuid × Ghost Uuid) : Prop where
  own : c.identity.session_id = id
  owner : x.2.owner id = some i
  others : ∀ id', id' ≠ id → x.2.owner id' ≠ some i
  ledger : ∃ log row first, x.1.store.log id = log ++ [event_to_record event] ∧
    x.1.store.row id = some row ∧ x.2.opening id = some first ∧ Coherent log row first ∧
    session_to_record c = row.forget

variable {y : World Uuid × Ghost Uuid}

theorem OwesRow.rely (h : OwesRow i id c event x) (hxy : ledgerProtocol.Rely i x y) :
    OwesRow i id c event y := by
  obtain ⟨log, row, first, hlog, hrow, hfirst, hrest⟩ := h.ledger
  obtain ⟨hylog, hyrow, hyowner⟩ := (hxy.keeps id).1 h.owner
  refine ⟨h.own, hyowner, fun id' hne ho => h.others id' hne ((hxy.keeps id').2 ho), ?_⟩
  exact ⟨log, row, first, hylog.trans hlog, hyrow.trans hrow, hxy.moves.2 id first hfirst, hrest⟩

variable (runtime : SessionRuntime)

/-- The second write of an update always succeeds. -/
theorem save_row_keeps {c updated : OperationalSession Uuid}
    (howes : OwesRow i id c event x) (he : Extends c event updated) :
    Keeps ledgerProtocol i
      (do let _ ← save_session (session_to_record updated); runtime.registry_update updated)
      (fun _ _ => True) x := by
  apply Keeps.step
  intro t ht
  have hinv : Inv t := ht.inv
  have howes := howes.rely ht
  obtain ⟨log, row, first, hlog, hrow, hfirst, hcoherent, hsame⟩ := howes.ledger
  have hid : (session_to_record updated).session_id = id := by
    rw [← howes.own]
    exact congrArg SessionIdentity.session_id he.identity
  have hrevision : (session_to_record updated).revision = row.revision + 1 := by
    have hc : c.revision = row.revision := congrArg SessionRecord.revision hsame
    rw [← hc]
    exact he.revision
  have hnewer : t.1.store.Newer (session_to_record updated) := by
    intro existing hexisting
    rw [hid, hrow] at hexisting
    cases hexisting
    omega
  rw [perform_save_session_ok hnewer]
  have hcoherent' := hcoherent.extend hsame he
  have hrow' : (t.1.store.saved (session_to_record updated)).row id =
      some (session_to_record updated) := by
    rw [← hid]
    exact row_saved_self _ _
  refine ⟨t.2.at id none (some first), ?_, (fun e h => nomatch h), fun v _ hinv' => ?_⟩
  · refine allows_write hinv (hinv.indexed.saved _) (fun _ _ => rfl) ?_ (hinv.ids id) ?_
      ⟨⟨[], by simp, fun _ _ _ _ h => nomatch h⟩, ?_⟩ ?_ ?_ (fun j hj => nomatch hj)
    · intro id' hne
      exact row_saved_ne _ (by rw [hid]; exact hne)
    · rw [hrow', log_saved, hlog]
      exact Ledger.whole _ _ _ hcoherent'
    · intro r hr
      rw [hrow] at hr
      cases hr
      refine ⟨_, hrow', by omega, fun h => by omega, fun hterminal => ?_⟩
      have hphase : c.lifecycle.phase = row.lifecycle_phase :=
        congrArg SessionRecord.lifecycle_phase hsame
      rw [← hphase]
      exact (he.terminal (by rw [hphase]; exact hterminal)).2
    · intro r hr
      rw [hfirst] at hr
      exact hr
    · intro j hj
      rw [howes.owner] at hj
      exact (Option.some.inj hj).symm
  · have hpositive : 1 ≤ updated.revision := by
      rw [he.revision]
      omega
    have hcopy : Copy (t.1.store.saved (session_to_record updated)) id updated := by
      refine ⟨hid, ?_, hpositive, _, hrow', le_refl _, fun _ => rfl⟩
      have hhead := hcoherent'.head
      have hrevision' := hcoherent'.revision
      simp only [session_to_record] at hhead hrevision'
      omega
    exact Keeps.registry_update runtime (fresh_at howes.others) fun u hu hfresh' =>
      mayRemember hu.inv hfresh' (hcopy.moved (hu.moves.1 id)) runtime.registry

theorem persist_keeps {c updated : OperationalSession Uuid}
    (hfresh : ledgerProtocol.fresh i x) (hcopy : Copy x.1.store id c)
    (he : Extends c event updated) :
    Keeps ledgerProtocol i (runtime.persist_session_update updated event) (fun _ _ => True) x := by
  unfold SessionRuntime.persist_session_update
  apply Keeps.step
  intro t ht
  have hinv : Inv t := ht.inv
  have hfresh := ledgerProtocol.fresh_keeps hfresh ht.keeps
  have hcopy := hcopy.moved (ht.moves.1 id)
  have hown : event.session_id = id := he.session_id.trans hcopy.own
  have hsession : (event_to_record event).session_id = id := hown
  by_cases ha : t.1.store.Accepts (event_to_record event)
  · rw [perform_save_event_ok ha]
    have hlength : event.sequence = (t.1.store.log id).length := by
      have hnext := ha.next
      rw [hsession, hinv.indexed.next_sequence] at hnext
      exact hnext
    obtain ⟨row, hrow, -⟩ := hcopy.row
    have hledger := hinv.ledgers id
    rw [hrow] at hledger
    have hsequence := he.sequence
    obtain ⟨first, hnone, hfirst, hcoherent, hsame⟩ :=
      whole_of_next hledger hcopy hrow (by omega)
    have hlogstored : (t.1.store.stored (event_to_record event)).log id =
        t.1.store.log id ++ [event_to_record event] := by
      rw [log_stored, if_pos hsession]
    refine ⟨t.2.at id (some i) (some first), ?_, (fun e h => nomatch h), fun v _ hinv' => ?_⟩
    · refine allows_write hinv (hinv.indexed.stored ha) ?_ (fun _ _ => rfl) ?_ ?_ ?_ ?_ ?_ ?_
      · intro id' h
        rw [log_stored, if_neg (by rw [hsession]; exact Ne.symm h)]
      · intro e hmem
        rw [hlogstored] at hmem
        rcases List.mem_append.mp hmem with hmem | hmem
        · exact hinv.ids id e hmem
        · rw [List.mem_singleton.mp hmem, ← hown]
          exact he.event_id
      · rw [hlogstored, show (t.1.store.stored (event_to_record event)).row id = some row from hrow]
        exact Ledger.half i _ _ row first hcoherent
      · refine ⟨⟨[event_to_record event], hlogstored, ?_⟩,
          fun r hr => ⟨r, hr, le_refl _, fun _ => rfl, fun _ => rfl⟩⟩
        intro r hr hterminal e hmem
        rw [hrow] at hr
        cases hr
        have hphase : c.lifecycle.phase = row.lifecycle_phase :=
          congrArg SessionRecord.lifecycle_phase hsame
        obtain ⟨hrec, hupdated⟩ := he.terminal (by rw [hphase]; exact hterminal)
        rw [List.mem_singleton.mp hmem]
        refine ⟨hrec, ?_⟩
        rw [he.phase hrec, hupdated, hphase]
      · intro r hr
        rw [hfirst] at hr
        exact hr
      · intro j hj
        rw [hnone] at hj
        cases hj
      · intro j hj
        exact (Option.some.inj hj).symm
    · refine save_row_keeps runtime (?_ : OwesRow i id c event _) he
      refine ⟨hcopy.own, by simp [Ghost.at], fun id' hne => ?_, ?_⟩
      · simpa [Ghost.at, Function.update_of_ne hne] using hfresh id'
      · exact ⟨_, row, first, hlogstored, hrow, by simp [Ghost.at], hcoherent, hsame⟩
  · obtain ⟨message, store, hperform, hsame⟩ := perform_save_event_error ha
    have hindexed := hinv.indexed.save_event (event_to_record event)
    rw [show (t.1.store.save_event (event_to_record event)).2 = store from
      congrArg (fun p => p.2.store) hperform] at hindexed
    rw [hperform]
    refine ⟨t.2, ?_, fun _ _ => hfresh, fun v h _ => nomatch h⟩
    exact allows_same hinv hindexed hsame.log hsame.row hinv.copies

/-- The first event that a task owes after the row. -/
structure OwesEvent (i : Nat) (id : Uuid) (row : SessionRecord Uuid)
    (x : World Uuid × Ghost Uuid) : Prop where
  owner : x.2.owner id = some i
  others : ∀ id', id' ≠ id → x.2.owner id' ≠ some i
  log : x.1.store.log id = []
  row_eq : x.1.store.row id = some row
  opening : x.2.opening id = some row

theorem OwesEvent.rely (h : OwesEvent i id row x) (hxy : ledgerProtocol.Rely i x y) :
    OwesEvent i id row y := by
  obtain ⟨hlog, hrow, howner⟩ := (hxy.keeps id).1 h.owner
  exact ⟨howner, fun id' hne ho => h.others id' hne ((hxy.keeps id').2 ho), hlog.trans h.log,
    hrow.trans h.row_eq, hxy.moves.2 id row h.opening⟩

theorem OwesEvent.id_free [LawfulStdlib Uuid] (hinv : Inv x) (h : OwesEvent i id row x) :
    x.1.store.events.get? (derive_event_id id 0) = none := by
  cases hget : x.1.store.events.get? (derive_event_id id 0) with
  | none => rfl
  | some e =>
    obtain ⟨hmem, hid⟩ := (hinv.indexed.events _ e).mp hget
    rw [hinv.ids _ e hmem] at hid
    obtain ⟨hsession, -⟩ := derive_event_id_inj hid
    rw [hsession, h.log] at hmem
    cases hmem

variable {session : OperationalSession Uuid}

/-- The first event of a session that was just saved. -/
theorem open_event_keeps [LawfulStdlib Uuid]
    (howes : OwesEvent i session.identity.session_id (session_to_record session) x)
    (ho : Opens session event) :
    Keeps ledgerProtocol i
      (do
        save_event (event_to_record event)
        runtime.registry_register session
        pure (⟨session, none, none, false⟩ : SessionResult Uuid))
      (fun _ _ => True) x := by
  apply Keeps.step
  intro t ht
  have hinv : Inv t := ht.inv
  have howes := howes.rely ht
  have hsession : (event_to_record event).session_id = session.identity.session_id :=
    ho.session_id
  have hsequence : (event_to_record event).sequence = 0 := ho.sequence
  have hid : (event_to_record event).event_id =
      derive_event_id session.identity.session_id 0 := by
    rw [← hsession]
    exact ho.event_id
  have ha : t.1.store.Accepts (event_to_record event) := by
    refine ⟨?_, fun key hkey => ?_, ?_⟩
    · rw [hid]
      exact howes.id_free hinv
    · rw [show (event_to_record event).idempotency_key = none from ho.key] at hkey
      cases hkey
    · rw [hsession, howes.log, hsequence]
      rfl
  rw [perform_save_event_ok ha]
  have hlog : (t.1.store.stored (event_to_record event)).log session.identity.session_id =
      [event_to_record event] := by
    rw [log_stored, if_pos hsession, howes.log]
    rfl
  refine ⟨t.2.at session.identity.session_id none (some (session_to_record session)), ?_,
    (fun e h => nomatch h), fun v _ hinv' => ?_⟩
  · refine allows_write hinv (hinv.indexed.stored ha) ?_ (fun _ _ => rfl) ?_ ?_
      ⟨⟨[event_to_record event], ?_, ?_⟩,
        fun r hr => ⟨r, hr, le_refl _, fun _ => rfl, fun _ => rfl⟩⟩ ?_ ?_
      (fun j hj => nomatch hj)
    · intro id' h
      rw [log_stored, if_neg (by rw [hsession]; exact Ne.symm h)]
    · intro e hmem
      rw [hlog] at hmem
      rw [List.mem_singleton.mp hmem, hid, hsequence]
    · rw [hlog, row_stored, howes.row_eq]
      refine Ledger.whole _ _ _ ⟨by simp, ?_, ?_, ?_, ?_⟩
      · exact ho.revision
      · exact ho.head
      · have hrec : recorded_lifecycle (event_to_record event) = false := by
          unfold recorded_lifecycle
          rw [show (event_to_record event).kind = _ from ho.kind]
          rfl
        simp [lastRecorded, hrec, session_to_record, ho.phase]
      · have hrec : recorded_context (event_to_record event) = false := by
          unfold recorded_context
          rw [show (event_to_record event).kind = _ from ho.kind]
          rfl
        simp [lastRecorded, hrec, SameContext.refl]
    · rw [hlog, howes.log]
      rfl
    · intro r hr hterminal
      rw [howes.row_eq] at hr
      cases hr
      rw [show (session_to_record session).lifecycle_phase = .initiated from ho.phase] at hterminal
      cases hterminal
    · intro r hr
      rw [howes.opening] at hr
      exact hr
    · intro j hj
      rw [howes.owner] at hj
      exact (Option.some.inj hj).symm
  · have hcopy : Copy (t.1.store.stored (event_to_record event)) session.identity.session_id
        session :=
      ⟨rfl, by rw [ho.head, ho.revision]; rfl, by rw [ho.revision], _, howes.row_eq, le_refl _,
        fun _ => rfl⟩
    refine Keeps.bind hinv'
      (Keeps.registry_register runtime (fresh_at howes.others) fun u hu hfresh =>
        mayRemember hu.inv hfresh (hcopy.moved (hu.moves.1 _)) runtime.registry) ?_
    intro _ u _ hfresh _ _
    exact Keeps.pure hfresh fun _ _ => trivial

/-- The writes of an opening: whoever saves the row first also stores the first event. -/
theorem opening_keeps [LawfulStdlib Uuid]
    (hfresh : ledgerProtocol.fresh i x) (ho : Opens session event) :
    Keeps ledgerProtocol i (runtime.open_ledger session event) (fun _ _ => True) x := by
  unfold SessionRuntime.open_ledger
  apply Keeps.step
  intro t ht
  have hinv : Inv t := ht.inv
  have hfresh := ledgerProtocol.fresh_keeps hfresh ht.keeps
  by_cases hnewer : t.1.store.Newer (session_to_record session)
  · rw [perform_save_session_ok hnewer]
    have hledger := hinv.ledgers session.identity.session_id
    have habsent : t.1.store.row session.identity.session_id = none := by
      cases hrow : t.1.store.row session.identity.session_id with
      | none => rfl
      | some row =>
        rw [hrow] at hledger
        have hpos := hledger.revision_pos
        have hlt : row.revision < session.revision := hnewer row hrow
        rw [ho.revision] at hlt
        omega
    rw [habsent] at hledger
    obtain ⟨hlog, hnone, hfirst⟩ : t.1.store.log session.identity.session_id = [] ∧
        t.2.owner session.identity.session_id = none ∧
        t.2.opening session.identity.session_id = none := hledger.of_absent
    have hrow : (t.1.store.saved (session_to_record session)).row session.identity.session_id =
        some (session_to_record session) := row_saved_self _ _
    refine ⟨t.2.at session.identity.session_id (some i) (some (session_to_record session)), ?_,
      (fun e h => nomatch h), fun v hv hinv' => ?_⟩
    · refine allows_write hinv (hinv.indexed.saved _) (fun _ _ => rfl) ?_ (hinv.ids _) ?_
        ⟨⟨[], by simp, fun _ _ _ _ h => nomatch h⟩, ?_⟩ ?_ ?_ ?_
      · exact fun id' hne => row_saved_ne _ hne
      · rw [hrow, log_saved, hlog]
        exact Ledger.opening i _ ho.revision ho.head ho.phase
      · intro r hr
        rw [habsent] at hr
        cases hr
      · intro r hr
        rw [hfirst] at hr
        cases hr
      · intro j hj
        rw [hnone] at hj
        cases hj
      · intro j hj
        exact (Option.some.inj hj).symm
    · have howes : OwesEvent i session.identity.session_id (session_to_record session)
          ((⟨t.1.store.saved (session_to_record session), t.1.registries⟩ : World Uuid),
            t.2.at session.identity.session_id (some i) (some (session_to_record session))) := by
        refine ⟨by simp [Ghost.at], fun id' hne => ?_, hlog, hrow, by simp [Ghost.at]⟩
        simpa [Ghost.at, Function.update_of_ne hne] using hfresh id'
      have hsaved : v = session_to_record session := (Except.ok.inj hv).symm
      subst hsaved
      rw [record_to_session_valid (session_to_record_valid session), compute_ok_bind]
      apply Keeps.step
      intro u hu
      have howes := howes.rely hu
      refine ⟨u.2, Protocol.Allows.refl hu.inv, (fun e h => nomatch h), fun found hfound _ => ?_⟩
      -- no event has the id of the first one yet
      have hid : event.event_id = derive_event_id session.identity.session_id 0 := by
        rw [← ho.session_id]
        exact ho.event_id
      have hnone : found = none := by
        have hget : u.1.store.get_event event.event_id _ = found := Except.ok.inj hfound
        unfold InMemorySessionPersistence.get_event at hget
        rw [hid, howes.id_free hu.inv] at hget
        exact hget.symm
      rw [hnone]
      exact open_event_keeps runtime howes ho
  · obtain ⟨message, herror⟩ := perform_save_session_error hnewer
    rw [herror]
    exact ⟨t.2, Protocol.Allows.refl hinv, fun _ _ => hfresh, fun v h _ => nomatch h⟩

def ledgerDiscipline [LawfulStdlib Uuid] : Discipline
    (ledgerProtocol : Protocol Nat (World Uuid × Ghost Uuid)) where
  Known id c x := Copy x.1.store id c
  known_moves h hc := hc.moved (h.1 _)
  known_cached hinv hc := hinv.copies _ _ _ hc
  known_row := by
    intro id r c x hinv hrow hc
    have hledger := hinv.ledgers id
    rw [hrow] at hledger
    have hrecord := session_to_record_of_record_to_session hc
    have hrevision : c.revision = r.revision := congrArg SessionRecord.revision hrecord
    have hhead : c.sequence_head = r.sequence_head := congrArg SessionRecord.sequence_head hrecord
    have hid : c.identity.session_id = r.session_id := congrArg SessionRecord.session_id hrecord
    refine ⟨hid.trans (hinv.indexed.rows id r hrow), ?_, ?_, r, hrow, by omega, fun _ => hrecord⟩
    · rw [hhead, hrevision]
      exact hledger.head_eq
    · rw [hrevision]
      exact hledger.revision_pos
  remember hinv hfresh hc registry := mayRemember hinv hfresh hc registry
  correlation := by
    intro i x hinv hfresh record
    refine ⟨x.2, ?_, hfresh⟩
    exact allows_same hinv (hinv.indexed.save_correlation record)
      (log_save_correlation record) (row_save_correlation record) hinv.copies
  persist runtime _ hfresh hc he := persist_keeps runtime hfresh hc he
  opening runtime _ hfresh ho := opening_keeps runtime hfresh ho

end

end operious.session
