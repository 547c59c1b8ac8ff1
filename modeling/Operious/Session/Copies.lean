-- What holds of every store that runtimes and other writers share: the rows only get newer, the events are
-- only added, and a cached session is its row unless it is older. A writer keeps to it when it saves a
-- record that it has read, one revision on.
import Operious.Session.Discipline

namespace operious.session

open awaits InMemorySessionPersistence

variable {Uuid : Type} [DecidableEq Uuid]

/-! ## What every step does to a session -/

/-- Events are only added, and the row only gets newer. -/
structure Grown (s t : InMemorySessionPersistence Uuid) (id : Uuid) : Prop where
  log : ∃ added, t.log id = s.log id ++ added
  row : ∀ row, s.row id = some row → ∃ row', t.row id = some row' ∧
    row.revision ≤ row'.revision ∧ (row.revision = row'.revision → row' = row)

variable {s t : InMemorySessionPersistence Uuid} {id : Uuid}

theorem Grown.of_eq (hlog : t.log id = s.log id) (hrow : t.row id = s.row id) : Grown s t id where
  log := ⟨[], by simpa using hlog⟩
  row row h := ⟨row, hrow.trans h, le_refl _, fun _ => rfl⟩

theorem Grown.trans {s t u : InMemorySessionPersistence Uuid} (h : Grown s t id)
    (h' : Grown t u id) : Grown s u id := by
  obtain ⟨added, hlog⟩ := h.log
  obtain ⟨added', hlog'⟩ := h'.log
  refine ⟨⟨added ++ added', by rw [hlog', hlog, List.append_assoc]⟩, fun row hrow => ?_⟩
  obtain ⟨row', hrow', hle, heq⟩ := h.row row hrow
  obtain ⟨row'', hrow'', hle', heq'⟩ := h'.row row' hrow'
  refine ⟨row'', hrow'', le_trans hle hle', fun hrevision => ?_⟩
  rw [heq' (by omega), heq (by omega)]

variable {e : SessionEventRecord Uuid}

theorem Grown.mem (h : Grown s t id) (he : e ∈ s.log id) : e ∈ t.log id := by
  obtain ⟨added, hlog⟩ := h.log
  rw [hlog]
  exact List.mem_append_left _ he

theorem Grown.length_le (h : Grown s t id) : (s.log id).length ≤ (t.log id).length := by
  obtain ⟨added, hlog⟩ := h.log
  rw [hlog, List.length_append]
  omega

/-! ## Records and copies -/

/-- A record that a row of the store may be: it loads, and its head is the sequence of a stored event
or, before there is one, of the first. -/
structure Fits (s : InMemorySessionPersistence Uuid) (r : SessionRecord Uuid) : Prop where
  valid : r.Valid
  revision : 1 ≤ r.revision
  head_nonneg : 0 ≤ r.sequence_head
  head_lt : r.sequence_head < max 1 ((s.log r.session_id).length : Int)

variable {r : SessionRecord Uuid}

theorem Fits.grown (h : Fits s r) (hst : Grown s t r.session_id) : Fits t r := by
  refine ⟨h.valid, h.revision, h.head_nonneg, ?_⟩
  have hlt := h.head_lt
  have hle := hst.length_le
  omega

/-- A session as some runtime once saw it in the store. -/
structure Seen (s : InMemorySessionPersistence Uuid) (id : Uuid) (c : OperationalSession Uuid) :
    Prop where
  own : c.identity.session_id = id
  head : 0 ≤ c.sequence_head
  row : ∃ row, s.row id = some row ∧ c.revision ≤ row.revision ∧
    (c.revision = row.revision → session_to_record c = row.forget)

variable {c : OperationalSession Uuid}

theorem Seen.grown (h : Seen s id c) (hst : Grown s t id) : Seen t id c := by
  obtain ⟨row, hrow, hle, hsame⟩ := h.row
  obtain ⟨row', hrow', hle', heq⟩ := hst.row row hrow
  refine ⟨h.own, h.head, row', hrow', le_trans hle hle', fun hrevision => ?_⟩
  rw [heq (by omega)]
  exact hsame (by omega)

theorem Seen.of_row {s : InMemorySessionPersistence Uuid} (hindexed : s.Indexed)
    (hrow : s.row id = some r) (hfits : Fits s r) (hload : record_to_session r = .ok c) :
    Seen s id c := by
  have hcopy := session_to_record_of_record_to_session hload
  have hid : c.identity.session_id = r.session_id := congrArg SessionRecord.session_id hcopy
  have hhead : c.sequence_head = r.sequence_head := congrArg SessionRecord.sequence_head hcopy
  have hrevision : c.revision = r.revision := congrArg SessionRecord.revision hcopy
  refine ⟨?_, ?_, r, hrow, hrevision.le, fun _ => hcopy⟩
  · rw [hid, hindexed.rows id r hrow]
  · rw [hhead]
    exact hfits.head_nonneg

/-! ## The protocol -/

/-- What holds between any two steps. -/
structure Sane (w : World Uuid) : Prop where
  indexed : w.store.Indexed
  models : ∀ id, ∀ e ∈ w.store.log id, ∃ event, event_to_record event = e
  owned : ∀ id, w.store.log id ≠ [] → ∃ row, w.store.row id = some row
  rows : ∀ id row, w.store.row id = some row → Fits w.store row
  copies : ∀ registry id c, (w.registries registry).get? id = some c → Seen w.store id c

theorem sane_new : Sane (World.new : World Uuid) where
  indexed := indexed_new
  models _ _ he := nomatch he
  owned _ h := absurd rfl h
  rows _ _ h := nomatch h
  copies _ _ _ h := nomatch h

/-- No writer owes another one anything. -/
def copiesProtocol : Protocol Nat (World Uuid × Unit) where
  inv x := Sane x.1
  moves x y := ∀ id, Grown x.1.store y.1.store id
  keeps _ _ _ := True
  fresh _ _ := True
  moves_refl _ _ := Grown.of_eq rfl rfl
  moves_trans h h' id := (h id).trans (h' id)
  keeps_refl _ _ := trivial
  keeps_trans _ _ := trivial
  fresh_keeps _ _ := trivial

/-! ## Steps that keep to the protocol -/

variable {i : Nat} {x : World Uuid × Unit}

variable {w : World Uuid}

theorem allows_of_sane {g : Unit} (hsane : Sane w) (hgrown : ∀ id, Grown x.1.store w.store id) :
    copiesProtocol.Allows i x (w, g) :=
  ⟨hsane, hgrown, fun _ _ => trivial⟩

theorem sane_same {t : InMemorySessionPersistence Uuid} {registries : Nat → SessionRegistry Uuid}
    (h : Sane w) (hindexed : t.Indexed) (hlog : ∀ id, t.log id = w.store.log id)
    (hrow : ∀ id, t.row id = w.store.row id)
    (hcopies : ∀ registry id c, (registries registry).get? id = some c → Seen w.store id c) :
    Sane ⟨t, registries⟩ := by
  have hgrown (id : Uuid) : Grown w.store t id := Grown.of_eq (hlog id) (hrow id)
  refine ⟨hindexed, ?_, ?_, ?_, ?_⟩
  · intro id e he
    exact h.models id e (by rw [← hlog id]; exact he)
  · intro id hne
    obtain ⟨row, h'⟩ := h.owned id (by rw [← hlog id]; exact hne)
    exact ⟨row, (hrow id).trans h'⟩
  · intro id row h'
    exact (h.rows id row ((hrow id).symm.trans h')).grown (hgrown _)
  · intro registry id c hc
    exact (hcopies registry id c hc).grown (hgrown id)

theorem mayRemember_seen (h : Sane x.1) (hseen : Seen x.1.store id c) (registry : Nat) :
    MayRemember copiesProtocol i registry c x := by
  intro records hrecords
  refine ⟨allows_of_sane (sane_same h h.indexed (fun _ => rfl) (fun _ => rfl) ?_)
    fun id => Grown.of_eq rfl rfl, trivial⟩
  intro registry' id' c' hc
  by_cases hreg : registry' = registry
  · subst hreg
    rw [Function.update_self] at hc
    rcases hrecords id' c' hc with hc | ⟨rfl, rfl⟩
    · exact h.copies registry' id' c' hc
    · rw [hseen.own]
      exact hseen
  · rw [Function.update_of_ne hreg] at hc
    exact h.copies registry' id' c' hc

section

variable [Stdlib Uuid]

theorem sane_save_event (h : Sane w) (hmodel : ∃ event, event_to_record event = e)
    (hrow : ∃ row, w.store.row e.session_id = some row) :
    Sane (perform (.save_event e) w).2 ∧
      ∀ id, Grown w.store (perform (.save_event e) w).2.store id := by
  by_cases ha : w.store.Accepts e
  · rw [perform_save_event_ok ha]
    have hgrown (id : Uuid) : Grown w.store (w.store.stored e) id := by
      refine ⟨?_, fun row h => ⟨row, h, le_refl _, fun _ => rfl⟩⟩
      rw [log_stored]
      split
      · exact ⟨[e], rfl⟩
      · exact ⟨[], by simp⟩
    refine ⟨⟨h.indexed.stored ha, ?_, ?_, ?_, ?_⟩, hgrown⟩
    · intro id e' he'
      rcases mem_log_stored.mp he' with he' | ⟨rfl, -⟩
      · exact h.models id e' he'
      · exact hmodel
    · intro id hne
      by_cases hid : e.session_id = id
      · rw [← hid]
        exact hrow
      · rw [log_stored, if_neg hid] at hne
        exact h.owned id hne
    · intro id row hrow'
      exact (h.rows id row hrow').grown (hgrown _)
    · intro registry id c hc
      exact (h.copies registry id c hc).grown (hgrown id)
  · obtain ⟨message, store, hperform, hsame⟩ := perform_save_event_error ha
    rw [hperform]
    exact ⟨sane_same h (h.indexed.same hsame) hsame.log hsame.row h.copies,
      fun id => Grown.of_eq (hsame.log id) (hsame.row id)⟩

theorem sane_save_session (h : Sane w) (hfits : Fits w.store r) :
    Sane (perform (.save_session r) w).2 ∧
      ∀ id, Grown w.store (perform (.save_session r) w).2.store id := by
  by_cases hnewer : w.store.Newer r
  · rw [perform_save_session_ok hnewer]
    have hgrown (id : Uuid) : Grown w.store (w.store.saved r) id := by
      refine ⟨⟨[], by simp⟩, fun row hrow => ?_⟩
      by_cases hid : id = r.session_id
      · subst hid
        have hlt := hnewer row hrow
        exact ⟨r, row_saved_self _ _, hlt.le, fun heq => by omega⟩
      · exact ⟨row, by rw [row_saved_ne _ hid]; exact hrow, le_refl _, fun _ => rfl⟩
    refine ⟨⟨h.indexed.saved r, h.models, ?_, ?_, ?_⟩, hgrown⟩
    · intro id hne
      obtain ⟨row, hrow⟩ := h.owned id hne
      obtain ⟨row', hrow', -⟩ := (hgrown id).row row hrow
      exact ⟨row', hrow'⟩
    · intro id row hrow
      by_cases hid : id = r.session_id
      · rw [hid, row_saved_self] at hrow
        cases hrow
        exact hfits.grown (hgrown _)
      · rw [row_saved_ne _ hid] at hrow
        exact (h.rows id row hrow).grown (hgrown _)
    · intro registry id c hc
      exact (h.copies registry id c hc).grown (hgrown id)
  · obtain ⟨message, hperform⟩ := perform_save_session_error hnewer
    rw [hperform]
    exact ⟨h, fun id => Grown.of_eq rfl rfl⟩

theorem keeps_save_event (hmodel : ∃ event, event_to_record event = e)
    (hrow : ∃ row, x.1.store.row e.session_id = some row) :
    Keeps copiesProtocol i (save_event e) (fun _ t => e ∈ t.1.store.log e.session_id) x := by
  refine Sat.call (fun v t u hu hv => ⟨trivial, fun a ha => (hu.moves _).mem (hv.2 a ha)⟩) ?_
  intro t ht v w hv
  obtain ⟨row, hrow⟩ := hrow
  obtain ⟨row', hrow', -⟩ := (ht.moves _).row row hrow
  obtain ⟨hsane, hgrown⟩ := sane_save_event ht.inv hmodel ⟨row', hrow'⟩
  rw [show perform (.save_event e) t.1 = (v, w) from hv] at hsane hgrown
  refine ⟨(), allows_of_sane hsane hgrown, trivial, fun a ha => ?_⟩
  subst ha
  by_cases ha : t.1.store.Accepts e
  · have hw := hv.symm.trans (perform_save_event_ok ha)
    cases hw
    exact mem_log_stored.mpr (Or.inr ⟨rfl, rfl⟩)
  · obtain ⟨message, store, herror, -⟩ := perform_save_event_error ha
    cases hv.symm.trans herror

theorem keeps_save_session (hfits : Fits x.1.store r) :
    Keeps copiesProtocol i (save_session r)
      (fun saved t => saved = r ∧ ∃ row, t.1.store.row r.session_id = some row ∧
        r.revision ≤ row.revision ∧ (r.revision = row.revision → row = r)) x := by
  refine Sat.call (fun v t u hu hv => ⟨trivial, fun saved hsaved => ?_⟩) ?_
  · obtain ⟨-, hv⟩ := hv
    obtain ⟨rfl, row, hrow, hle, hsame⟩ := hv saved hsaved
    obtain ⟨row', hrow', hle', heq⟩ := (hu.moves _).row row hrow
    refine ⟨rfl, row', hrow', le_trans hle hle', fun hrevision => ?_⟩
    rw [heq (by omega), hsame (by omega)]
  · intro t ht v w hv
    have hfits' : Fits t.1.store r := hfits.grown (ht.moves _)
    obtain ⟨hsane, hgrown⟩ := sane_save_session ht.inv hfits'
    rw [show perform (.save_session r) t.1 = (v, w) from hv] at hsane hgrown
    refine ⟨(), allows_of_sane hsane hgrown, trivial, fun saved hsaved => ?_⟩
    subst hsaved
    by_cases hnewer : t.1.store.Newer r
    · cases hv.symm.trans (perform_save_session_ok hnewer)
      exact ⟨rfl, r, row_saved_self _ _, le_refl _, fun _ => rfl⟩
    · obtain ⟨message, herror⟩ := perform_save_session_error hnewer
      cases hv.symm.trans herror

omit [Stdlib Uuid] in
theorem Seen.of_saved {s : InMemorySessionPersistence Uuid} (hhead : 0 ≤ c.sequence_head)
    (hrow : ∃ row, s.row c.identity.session_id = some row ∧
      c.revision ≤ row.revision ∧ (c.revision = row.revision → row = session_to_record c)) :
    Seen s c.identity.session_id c := by
  obtain ⟨row, hrow, hle, hsame⟩ := hrow
  exact ⟨rfl, hhead, row, hrow, hle, fun h => by rw [hsame h]; rfl⟩

variable {event : SessionTimelineEvent Uuid}

theorem persist_keeps_copies {c updated : OperationalSession Uuid} (runtime : SessionRuntime)
    (hsane : Sane x.1) (hseen : Seen x.1.store id c) (he : Extends c event updated) :
    Keeps copiesProtocol i (runtime.persist_session_update updated event) (fun _ _ => True) x := by
  obtain ⟨row, hrow, -⟩ := hseen.row
  have hid : (event_to_record event).session_id = id := he.session_id.trans hseen.own
  refine Keeps.bind hsane (keeps_save_event ⟨event, rfl⟩ ⟨row, by rw [hid]; exact hrow⟩) ?_
  intro _ t ht _ _ hmem
  have hown : updated.identity.session_id = event.session_id := by
    rw [he.identity, he.session_id]
  have hhead : updated.sequence_head = event.sequence := he.head
  have hnonneg : 0 ≤ updated.sequence_head := by
    rw [hhead]
    exact Int.natCast_nonneg _
  have hfits : Fits t.1.store (session_to_record updated) := by
    refine ⟨session_to_record_valid updated, ?_, hnonneg, ?_⟩
    · exact le_trans (Nat.le_add_left 1 c.revision) he.revision.symm.le
    · have hlt : event.sequence < (t.1.store.log event.session_id).length :=
        ht.indexed.sequence_lt hmem
      change updated.sequence_head < max 1 ((t.1.store.log updated.identity.session_id).length : Int)
      rw [hhead, hown]
      omega
  refine Keeps.bind ht (keeps_save_session hfits) ?_
  rintro _ u _ _ _ ⟨-, hsaved⟩
  have hseen : Seen u.1.store updated.identity.session_id updated :=
    Seen.of_saved hnonneg hsaved
  exact Keeps.registry_update runtime trivial fun v hv _ =>
    mayRemember_seen hv.inv (hseen.grown (hv.moves _)) runtime.registry

theorem opening_keeps_copies {session : OperationalSession Uuid} (runtime : SessionRuntime)
    (hsane : Sane x.1) (ho : Opens session event) :
    Keeps copiesProtocol i (runtime.open_ledger session event) (fun _ _ => True) x := by
  have hhead : session.sequence_head = 0 := ho.head
  have hfits : Fits x.1.store (session_to_record session) := by
    refine ⟨session_to_record_valid session, ho.revision.symm.le, hhead.symm.le, ?_⟩
    change session.sequence_head < _
    omega
  refine Keeps.bind hsane (keeps_save_session hfits) ?_
  rintro saved t ht _ - ⟨rfl, hsaved⟩
  have hseen : Seen t.1.store session.identity.session_id session :=
    Seen.of_saved hhead.symm.le hsaved
  apply Keeps.compute trivial
  intro loaded hload
  have hcopy := session_to_record_of_record_to_session hload
  have hown : loaded.identity.session_id = session.identity.session_id :=
    congrArg SessionRecord.session_id hcopy
  have hloaded : Seen t.1.store session.identity.session_id loaded := by
    obtain ⟨row, hrow, hle, hsame⟩ := hsaved
    have hrevision : loaded.revision = session.revision := congrArg SessionRecord.revision hcopy
    have hsequence : loaded.sequence_head = session.sequence_head :=
      congrArg SessionRecord.sequence_head hcopy
    refine ⟨hown, by rw [hsequence, hhead], row, hrow, by rw [hrevision]; exact hle, fun h => ?_⟩
    rw [hsame (by rw [← h, hrevision]; rfl)]
    exact hcopy
  refine Keeps.bind (Q := fun _ _ => True) ht
    (Keeps.read trivial (fun _ => rfl) (fun _ _ _ _ _ => trivial) fun _ _ _ _ => trivial) ?_
  intro found u hu _ hgrown _
  cases found with
  | none =>
    obtain ⟨row, hrow, -⟩ := (hseen.grown (hgrown _)).row
    have hid : (event_to_record event).session_id = session.identity.session_id := ho.session_id
    refine Keeps.bind hu (keeps_save_event ⟨event, rfl⟩ ⟨row, by rw [hid]; exact hrow⟩) ?_
    intro _ v hv _ hgrown' _
    refine Keeps.bind hv (Keeps.registry_register runtime trivial fun z hz _ =>
      mayRemember_seen hz.inv
        (((hseen.grown (hgrown _)).grown (hgrown' _)).grown (hz.moves _)) runtime.registry) ?_
    exact fun _ _ _ _ _ _ => Keeps.pure trivial fun _ _ => trivial
  | some _ =>
    refine Keeps.bind hu (Keeps.registry_register runtime trivial fun z hz _ =>
      mayRemember_seen hz.inv ((hloaded.grown (hgrown _)).grown (hz.moves _))
        runtime.registry) ?_
    exact fun _ _ _ _ _ _ => Keeps.pure trivial fun _ _ => trivial

def copiesDiscipline : Discipline (copiesProtocol : Protocol Nat (World Uuid × Unit)) where
  Known id c x := Seen x.1.store id c
  known_moves h hc := hc.grown (h _)
  known_cached hinv hc := hinv.copies _ _ _ hc
  known_row hinv hrow hload := Seen.of_row hinv.indexed hrow (hinv.rows _ _ hrow) hload
  remember hinv _ hc registry := mayRemember_seen hinv hc registry
  correlation := by
    intro i x hinv _ record
    refine ⟨(), allows_of_sane ?_ ?_, trivial⟩
    · exact sane_same hinv (hinv.indexed.save_correlation record) (log_save_correlation record)
        (row_save_correlation record) hinv.copies
    · exact fun id => Grown.of_eq (log_save_correlation record id) (row_save_correlation record id)
  persist runtime hinv _ hc he := persist_keeps_copies runtime hinv hc he
  opening runtime hinv _ ho := opening_keeps_copies runtime hinv ho

end

end operious.session
