-- Replays side by side with each other and with the sweeps. A claim is fenced by the count that goes into
-- its id; but a sweep gives a row back to the state that it asks for, so its window never moves on.
import Mathlib.Logic.Function.Basic
import Operious.DeadLetters.Records
import Operious.Lib.Runs

namespace operious.dead_letters

open operious.ingress (IngressDispatchOutboxStatus)
open runs

section

variable {ι Uuid : Type} [DecidableEq ι] [DecidableEq Uuid] [Stdlib Uuid]

/-! ## The system -/

/-- The rows, the claim that each operator holds, and the claims that were committed, the last one first. -/
structure System (ι Uuid : Type) where
  rows : List (DeadLetterTaskRow Uuid) := []
  operators : ι → Option (DeadLetterReplayClaim Uuid) := fun _ => none
  claims : List (DeadLetterReplayClaim Uuid) := []

inductive Event (ι Uuid : Type)
  /-- A worker records the row, unless its id is taken. -/
  | record (row : DeadLetterTaskRow Uuid)
  /-- `replay_dead_letter`, to the commit of the claim. The outbox rows of the replays have these states. -/
  | claim (i : ι) (dlq_id : Uuid) (tenant_id replayed_by : String) (replayed_at : Instant)
      (status : Uuid → Option IngressDispatchOutboxStatus)
  /-- The task was published, or the publisher raised; and the mark is committed. -/
  | mark (i : ι) (outcome : Except String Unit) (settled_at : Instant)
  | recover (sweep : Sweep) (reason : String) (recovered_at : Instant)
  /-- The operator dies. -/
  | stop (i : ι)

def DeadLetterTaskRow.recorded (row : DeadLetterTaskRow Uuid) : DeadLetterTaskRow Uuid where
  dead_letter_task_id := row.dead_letter_task_id
  tenant_id := row.tenant_id
  task_name := row.task_name
  queue := row.queue
  created_at := row.created_at
  metadata := row.metadata
  celery_kwargs := row.celery_kwargs
  task_payload := row.task_payload

variable (parse : String → Option Uuid) (s : System ι Uuid)

def System.place (i : ι) (claim : Option (DeadLetterReplayClaim Uuid)) : System ι Uuid :=
  { s with operators := Function.update s.operators i claim }

def Event.next (s : System ι Uuid) : Event ι Uuid → Option (System ι Uuid)
  | record row =>
    if s.rows.any (·.dead_letter_task_id = row.dead_letter_task_id) then some s
    else some { s with rows := s.rows ++ [row.recorded] }
  | claim i dlq_id tenant_id replayed_by replayed_at status =>
    match s.rows.find? fun row => row.dead_letter_task_id = dlq_id && row.tenant_id = tenant_id with
    | none => some s
    | some row =>
      match claim_dead_letter_replay parse status row replayed_by replayed_at with
      | .error _ => some s
      | .ok (row', held) =>
        some { s.place i (some held) with
          rows := s.rows.map fun r =>
            if r.dead_letter_task_id = row.dead_letter_task_id then row' else r
          claims := held :: s.claims }
  | mark i outcome settled_at =>
    match s.operators i with
    | some held =>
      some { s.place i none with rows := s.rows.map (mark_dead_letter_replay held outcome settled_at) }
    | none => none
  | recover sweep reason recovered_at =>
    some { s with rows := recover_dead_letter_replays sweep reason recovered_at s.rows }
  | stop i => some (s.place i none)

/-! ## The law -/

/-- The committed claims of a row, the last one first. -/
def claimsOf (claims : List (DeadLetterReplayClaim Uuid)) (dlq_id : Uuid) :
    List (DeadLetterReplayClaim Uuid) :=
  claims.filter (·.dlq_id = dlq_id)

/-- Another claim of the row was committed after this one. -/
def Superseded (s : System ι Uuid) (claim : DeadLetterReplayClaim Uuid) : Prop :=
  ∃ last ∈ (claimsOf s.claims claim.dlq_id).head?, last.claim_id ≠ claim.claim_id

/-- The claims of a row have ids of their own, and the row counts them; a mark under a claim that was
superseded changes nothing; and what was replayed is what was published. -/
structure Fenced (before : System ι Uuid) (event : Event ι Uuid) (after : System ι Uuid) : Prop where
  distinct : ∀ dlq_id, ((claimsOf after.claims dlq_id).map (·.claim_id)).Nodup
  counted : ∀ row ∈ after.rows,
    row.replay_attempt_count = (claimsOf after.claims row.dead_letter_task_id).length
  superseded : ∀ i outcome settled_at claim, event = .mark i outcome settled_at →
    before.operators i = some claim → Superseded before claim → after.rows = before.rows
  published : ∀ row ∈ after.rows, row.replayed = true ↔ row.replay_state = .published

def DeadLetterTaskRow.claimId (row : DeadLetterTaskRow Uuid) (count : Nat) : Uuid :=
  derive_replay_claim_id row.dead_letter_task_id row.tenant_id count

structure RowSound (claims : List (DeadLetterReplayClaim Uuid)) (row : DeadLetterTaskRow Uuid) : Prop where
  counted : row.replay_attempt_count = (claimsOf claims row.dead_letter_task_id).length
  derived : ∀ claim ∈ claimsOf claims row.dead_letter_task_id,
    ∃ count ≤ row.replay_attempt_count, claim.claim_id = row.claimId count
  last : ∀ claim ∈ (claimsOf claims row.dead_letter_task_id).head?,
    claim.claim_id = row.claimId row.replay_attempt_count
  current : row.replay_state = .claimed → row.replay_claim_id = some (row.claimId row.replay_attempt_count)
  published : row.replayed = true ↔ row.replay_state = .published

structure Sound (s : System ι Uuid) : Prop where
  rows : ∀ row ∈ s.rows, RowSound s.claims row
  known : ∀ claim ∈ s.claims, ∃ row ∈ s.rows, row.dead_letter_task_id = claim.dlq_id
  distinct : ∀ dlq_id, ((claimsOf s.claims dlq_id).map (·.claim_id)).Nodup

variable {parse} {s s' : System ι Uuid}

structure Keeps (row row' : DeadLetterTaskRow Uuid) : Prop where
  id : row'.dead_letter_task_id = row.dead_letter_task_id
  tenant : row'.tenant_id = row.tenant_id
  count : row'.replay_attempt_count = row.replay_attempt_count
  claim : row'.replay_state = .claimed →
    row.replay_state = .claimed ∧ row'.replay_claim_id = row.replay_claim_id
  published : (row.replayed = true ↔ row.replay_state = .published) →
    (row'.replayed = true ↔ row'.replay_state = .published)

omit [DecidableEq Uuid] [Stdlib Uuid] in
theorem Keeps.refl (row : DeadLetterTaskRow Uuid) : Keeps row row :=
  ⟨rfl, rfl, rfl, fun h => ⟨h, rfl⟩, fun h => h⟩

theorem mark_keeps (claim : DeadLetterReplayClaim Uuid) (outcome : Except String Unit)
    (settled_at : Instant) (row : DeadLetterTaskRow Uuid) :
    Keeps row (mark_dead_letter_replay claim outcome settled_at row) := by
  unfold mark_dead_letter_replay
  split
  · cases outcome with
    | ok => exact ⟨rfl, rfl, rfl, (fun h => nomatch h), fun _ => iff_of_true rfl rfl⟩
    | error => exact ⟨rfl, rfl, rfl, (fun h => nomatch h), fun _ => iff_of_false nofun nofun⟩
  · exact .refl row

theorem sweep_keeps (sweep : Sweep) (window : List Uuid) (reason : String) (recovered_at : Instant)
    (row : DeadLetterTaskRow Uuid) : Keeps row (sweep.sweep window reason recovered_at row) := by
  unfold Sweep.sweep
  split
  · rename_i hswept
    have hopen : row.replayed = false := by
      simp only [Sweep.selects, Bool.and_eq_true, Bool.not_eq_true'] at hswept
      exact hswept.1.1.2
    exact ⟨rfl, rfl, rfl, (fun h => nomatch h),
      fun _ => iff_of_false (fun h => nomatch hopen.symm.trans h) nofun⟩
  · exact .refl row

variable {claims : List (DeadLetterReplayClaim Uuid)}

variable {row : DeadLetterTaskRow Uuid}

variable {row' : DeadLetterTaskRow Uuid}

theorem RowSound.keeps (h : RowSound claims row) (hkeeps : Keeps row row') :
    RowSound claims row' := by
  have hclaimId : row'.claimId = row.claimId := by
    unfold DeadLetterTaskRow.claimId
    rw [hkeeps.id, hkeeps.tenant]
  refine ⟨?_, ?_, ?_, fun hclaimed => ?_, hkeeps.published h.published⟩
  · rw [hkeeps.count, hkeeps.id]
    exact h.counted
  · rw [hkeeps.count, hkeeps.id, hclaimId]
    exact h.derived
  · rw [hkeeps.count, hkeeps.id, hclaimId]
    exact h.last
  · obtain ⟨hbefore, hsame⟩ := hkeeps.claim hclaimed
    rw [hsame, hkeeps.count, hclaimId]
    exact h.current hbefore

omit [DecidableEq ι] in
theorem Sound.map (h : Sound s) {f : DeadLetterTaskRow Uuid → DeadLetterTaskRow Uuid}
    (hf : ∀ row ∈ s.rows, Keeps row (f row)) (operators : ι → Option (DeadLetterReplayClaim Uuid)) :
    Sound { s with rows := s.rows.map f, operators := operators } where
  rows row' hrow' := by
    obtain ⟨row, hrow, rfl⟩ := List.mem_map.mp hrow'
    exact (h.rows row hrow).keeps (hf row hrow)
  known claim hclaim := by
    obtain ⟨row, hrow, hid⟩ := h.known claim hclaim
    exact ⟨f row, List.mem_map_of_mem hrow, (hf row hrow).id.trans hid⟩
  distinct := h.distinct

/-! ## The claims -/

omit [DecidableEq Uuid] in
theorem claimId_inj [LawfulStdlib Uuid] {m n : Nat} (h : row.claimId m = row.claimId n) :
    m = n := by
  have htext := congrArg String.toList (LawfulStdlib.uuid5_inj _ h)
  simp only [String.toList_append] at htext
  exact repr_inj (String.toList_injective (List.append_cancel_left htext))

omit [DecidableEq Uuid] in
theorem claim_dead_letter_replay_ok {status : Uuid → Option IngressDispatchOutboxStatus}
    {replayed_by : String} {replayed_at : Instant} {claim : DeadLetterReplayClaim Uuid}
    (h : claim_dead_letter_replay parse status row replayed_by replayed_at = .ok (row', claim)) :
    row' = row.claim replayed_by replayed_at ∧ replay_kwargs_for_row row = .ok claim.kwargs ∧
      ∃ queue_name, claim = {
        dlq_id := row.dead_letter_task_id, queue_name, kwargs := claim.kwargs, task_name := row.task_name
        replayed_at, replayed_by, claim_id := row.claimId (row.replay_attempt_count + 1) } := by
  unfold claim_dead_letter_replay at h
  obtain ⟨-, -, h⟩ := bind_eq_ok.mp h
  obtain ⟨queue_name, -, h⟩ := bind_eq_ok.mp h
  obtain ⟨kwargs, hkwargs, h⟩ := bind_eq_ok.mp h
  cases h
  exact ⟨rfl, hkwargs, queue_name, rfl⟩

variable {dlq_id : Uuid}

omit [Stdlib Uuid] in
theorem claimsOf_cons_self {claim : DeadLetterReplayClaim Uuid} (h : claim.dlq_id = dlq_id) :
    claimsOf (claim :: claims) dlq_id = claim :: claimsOf claims dlq_id :=
  List.filter_cons_of_pos (decide_eq_true h)

omit [Stdlib Uuid] in
theorem claimsOf_cons_ne {claim : DeadLetterReplayClaim Uuid} (h : claim.dlq_id ≠ dlq_id) :
    claimsOf (claim :: claims) dlq_id = claimsOf claims dlq_id :=
  List.filter_cons_of_neg fun heq => h (of_decide_eq_true heq)

theorem RowSound.claim {claims : List (DeadLetterReplayClaim Uuid)} {row : DeadLetterTaskRow Uuid}
    {claim : DeadLetterReplayClaim Uuid} (h : RowSound claims row) (replayed_by : String)
    (replayed_at : Instant) (hdlq : claim.dlq_id = row.dead_letter_task_id)
    (hid : claim.claim_id = row.claimId (row.replay_attempt_count + 1)) :
    RowSound (claim :: claims) (row.claim replayed_by replayed_at) := by
  have hclaims : claimsOf (claim :: claims) (row.claim replayed_by replayed_at).dead_letter_task_id =
      claim :: claimsOf claims row.dead_letter_task_id := claimsOf_cons_self hdlq
  refine ⟨?_, ?_, ?_, fun _ => rfl, iff_of_false nofun nofun⟩
  · rw [hclaims]
    exact congrArg (· + 1) h.counted
  · rw [hclaims]
    rintro other hother
    rcases List.mem_cons.mp hother with rfl | hother
    · exact ⟨_, le_rfl, hid⟩
    · obtain ⟨count, hcount, hother⟩ := h.derived other hother
      exact ⟨count, hcount.trans (Nat.le_succ _), hother⟩
  · rw [hclaims]
    rintro other hother
    rw [List.head?_cons, Option.mem_some_iff] at hother
    rw [← hother]
    exact hid

theorem RowSound.other {claim : DeadLetterReplayClaim Uuid} (h : RowSound claims row)
    (hne : claim.dlq_id ≠ row.dead_letter_task_id) : RowSound (claim :: claims) row := by
  have hclaims : claimsOf (claim :: claims) row.dead_letter_task_id = claimsOf claims row.dead_letter_task_id :=
    claimsOf_cons_ne hne
  refine ⟨?_, ?_, ?_, h.current, h.published⟩ <;> rw [hclaims]
  · exact h.counted
  · exact h.derived
  · exact h.last

theorem Sound.claim [LawfulStdlib Uuid] (h : Sound s) {i : ι} {dlq_id : Uuid}
    {tenant_id replayed_by : String} {replayed_at : Instant}
    {status : Uuid → Option IngressDispatchOutboxStatus}
    (hnext : Event.next parse s (.claim i dlq_id tenant_id replayed_by replayed_at status) = some s') :
    Sound s' := by
  rw [Event.next] at hnext
  split at hnext
  · obtain rfl := Option.some.inj hnext
    exact h
  · rename_i row hfound
    split at hnext
    · obtain rfl := Option.some.inj hnext
      exact h
    · rename_i row' claim hclaim
      obtain rfl := Option.some.inj hnext
      obtain ⟨rfl, -, _, heq⟩ := claim_dead_letter_replay_ok hclaim
      have hdlq : claim.dlq_id = row.dead_letter_task_id := congrArg (·.dlq_id) heq
      have hid : claim.claim_id = row.claimId (row.replay_attempt_count + 1) := congrArg (·.claim_id) heq
      have hrow : row ∈ s.rows := List.mem_of_find?_eq_some hfound
      refine ⟨fun r hr => ?_, fun other hother => ?_, fun id => ?_⟩
      · obtain ⟨r, hmem, rfl⟩ := List.mem_map.mp hr
        split
        · exact (h.rows row hrow).claim replayed_by replayed_at hdlq hid
        · rename_i hne
          exact (h.rows r hmem).other fun heq => hne (heq.symm.trans hdlq)
      · have hclaimed : ∃ r ∈ s.rows, r.dead_letter_task_id = other.dlq_id := by
          rcases List.mem_cons.mp hother with rfl | hother
          · exact ⟨row, hrow, hdlq.symm⟩
          · exact h.known other hother
        obtain ⟨r, hmem, hr⟩ := hclaimed
        refine ⟨_, List.mem_map_of_mem hmem, ?_⟩
        split
        · rename_i heq
          exact heq.symm.trans hr
        · exact hr
      · rcases eq_or_ne claim.dlq_id id with rfl | hne
        · rw [claimsOf_cons_self rfl, List.map_cons, List.nodup_cons]
          refine ⟨fun hmem => ?_, h.distinct claim.dlq_id⟩
          -- an earlier claim of the row has a count that is smaller
          obtain ⟨other, hother, hsame⟩ := List.mem_map.mp hmem
          rw [hdlq] at hother
          obtain ⟨count, hcount, hother⟩ := (h.rows row hrow).derived other hother
          have heq := claimId_inj (hother.symm.trans (hsame.trans hid))
          omega
        · rw [claimsOf_cons_ne hne]
          exact h.distinct id

theorem Sound.record (h : Sound s)
    (hnext : Event.next parse s (.record row : Event ι Uuid) = some s') : Sound s' := by
  rw [Event.next] at hnext
  split at hnext
  · obtain rfl := Option.some.inj hnext
    exact h
  · rename_i hnew
    obtain rfl := Option.some.inj hnext
    have hnone : claimsOf s.claims row.dead_letter_task_id = [] := by
      rw [claimsOf, List.filter_eq_nil_iff]
      intro claim hclaim heq
      obtain ⟨r, hr, hid⟩ := h.known claim hclaim
      exact hnew (List.any_eq_true.mpr ⟨r, hr, decide_eq_true (hid.trans (of_decide_eq_true heq))⟩)
    refine ⟨fun r hr => ?_, fun claim hclaim => ?_, h.distinct⟩
    · rcases List.mem_append.mp hr with hr | hr
      · exact h.rows r hr
      · obtain rfl := List.mem_singleton.mp hr
        have hclaims : claimsOf s.claims row.recorded.dead_letter_task_id = [] := hnone
        refine ⟨?_, ?_, ?_, nofun, iff_of_false nofun nofun⟩ <;> rw [hclaims]
        · rfl
        · exact fun claim hclaim => nomatch hclaim
        · exact fun claim hclaim => nomatch hclaim
    · obtain ⟨r, hr, hid⟩ := h.known claim hclaim
      exact ⟨r, List.mem_append_left _ hr, hid⟩

omit [DecidableEq ι] in
theorem Sound.mark_superseded (h : Sound s) {claim : DeadLetterReplayClaim Uuid}
    (hsuperseded : Superseded s claim) (outcome : Except String Unit) (settled_at : Instant) :
    s.rows.map (mark_dead_letter_replay claim outcome settled_at) = s.rows := by
  refine (List.map_congr_left fun row hrow => ?_).trans (List.map_id s.rows)
  obtain ⟨last, hlast, hne⟩ := hsuperseded
  refine if_neg fun hunder => hne ?_
  simp only [DeadLetterTaskRow.claimedUnder, Bool.and_eq_true, decide_eq_true_eq] at hunder
  obtain ⟨⟨⟨hdlq, hclaimed⟩, hid⟩, -⟩ := hunder
  rw [← hdlq] at hlast
  have hsound := h.rows row hrow
  rw [hsound.last last hlast]
  exact Option.some.inj ((hsound.current hclaimed).symm.trans hid)

variable {event : Event ι Uuid}

omit [DecidableEq ι] in
theorem Sound.fenced (h : Sound s')
    (hmark : ∀ i outcome settled_at claim, event = .mark i outcome settled_at →
      s.operators i = some claim → Superseded s claim → s'.rows = s.rows) : Fenced s event s' where
  distinct := h.distinct
  counted row hrow := (h.rows row hrow).counted
  superseded := hmark
  published row hrow := (h.rows row hrow).published

theorem Sound.next [LawfulStdlib Uuid] (h : Sound s) (hnext : event.next parse s = some s') :
    Sound s' ∧ Fenced s event s' := by
  cases event with
  | record row =>
    have hsound : Sound s' := h.record hnext
    exact ⟨hsound, hsound.fenced fun _ _ _ _ he => nomatch he⟩
  | claim =>
    have hsound : Sound s' := h.claim hnext
    exact ⟨hsound, hsound.fenced fun _ _ _ _ he => nomatch he⟩
  | mark i outcome settled_at =>
    rw [Event.next] at hnext
    split at hnext
    · rename_i claim hheld
      obtain rfl := Option.some.inj hnext
      have hsound := h.map (fun row _ => mark_keeps claim outcome settled_at row) (s.place i none).operators
      refine ⟨hsound, hsound.fenced fun j _ _ other he hother hsuperseded => ?_⟩
      obtain ⟨rfl, rfl, rfl⟩ := Event.mark.inj he
      obtain rfl := Option.some.inj (hheld.symm.trans hother)
      exact h.mark_superseded hsuperseded outcome settled_at
    · cases hnext
  | recover sweep reason recovered_at =>
    obtain rfl := Option.some.inj hnext
    have hsound := h.map
      (fun row _ => sweep_keeps sweep (sweep.window s.rows) reason recovered_at row) s.operators
    exact ⟨hsound, hsound.fenced fun _ _ _ _ he => nomatch he⟩
  | stop i =>
    obtain rfl := Option.some.inj hnext
    have hsound : Sound (s.place i none) := ⟨h.rows, h.known, h.distinct⟩
    exact ⟨hsound, hsound.fenced fun _ _ _ _ he => nomatch he⟩

omit [DecidableEq ι] in
theorem Sound.start : Sound ({} : System ι Uuid) :=
  ⟨fun _ h => (List.not_mem_nil h).elim, fun _ h => (List.not_mem_nil h).elim, fun _ => List.nodup_nil⟩

theorem sound_after [LawfulStdlib Uuid] {events : List (Event ι Uuid)}
    (h : after (Event.next parse) {} events = some s) : Sound s :=
  invariant (fun _ _ _ hsound hnext => (hsound.next hnext).1) .start ⟨events, h⟩

/-! ## The drain -/

variable {sweep : Sweep} {rows : List (DeadLetterTaskRow Uuid)}

def Drained (sweep : Sweep) (rows : List (DeadLetterTaskRow Uuid)) : Prop :=
  ∀ row ∈ rows, sweep.tenant_id.all (· = row.tenant_id) = true →
    row.stale sweep.claimed_before_or_at = false

/-- Each row that is claimed since the cutoff or before is among the first rows that the sweep asks for. -/
def InWindow (sweep : Sweep) (rows : List (DeadLetterTaskRow Uuid)) : Prop :=
  ∀ row ∈ rows, sweep.tenant_id.all (· = row.tenant_id) = true →
    row.stale sweep.claimed_before_or_at = true → row.dead_letter_task_id ∈ sweep.window rows

instance : Decidable (InWindow sweep rows) :=
  inferInstanceAs (Decidable (∀ row ∈ rows, sweep.tenant_id.all (· = row.tenant_id) = true →
    row.stale sweep.claimed_before_or_at = true → row.dead_letter_task_id ∈ sweep.window rows))

/-- The sweeps one after the other, each with its reason and instant. -/
def sweeps (sweep : Sweep) (rows : List (DeadLetterTaskRow Uuid)) (stamps : List (String × Instant)) :
    List (DeadLetterTaskRow Uuid) :=
  stamps.foldl (fun rows stamp => recover_dead_letter_replays sweep stamp.1 stamp.2 rows) rows

theorem selects_sweep (sweep : Sweep) (window : List Uuid) (reason : String) (recovered_at : Instant)
    (row : DeadLetterTaskRow Uuid) :
    sweep.selects (sweep.sweep window reason recovered_at row) = sweep.selects row := by
  unfold Sweep.sweep
  split
  · rename_i hswept
    have hselected := (Bool.and_eq_true_iff.mp hswept).1
    rw [hselected]
    simp only [Sweep.selects, Bool.and_eq_true] at hselected
    simp only [Sweep.selects, DeadLetterTaskRow.recover, Bool.and_eq_true]
    exact ⟨hselected.1, rfl⟩
  · rfl

theorem created_at_sweep (sweep : Sweep) (window : List Uuid) (reason : String) (recovered_at : Instant)
    (row : DeadLetterTaskRow Uuid) :
    (sweep.sweep window reason recovered_at row).created_at = row.created_at := by
  unfold Sweep.sweep
  split <;> rfl

theorem window_recover (sweep : Sweep) (reason : String) (recovered_at : Instant)
    (rows : List (DeadLetterTaskRow Uuid)) :
    sweep.window (recover_dead_letter_replays sweep reason recovered_at rows) = sweep.window rows := by
  set f := sweep.sweep (sweep.window rows) reason recovered_at with hf
  have hselects : sweep.selects ∘ f = sweep.selects := funext fun row => selects_sweep _ _ _ _ row
  have hid : ∀ row, (f row).dead_letter_task_id = row.dead_letter_task_id :=
    fun row => (sweep_keeps sweep _ reason recovered_at row).id
  have hbefore : ∀ a b, a.before b ↔ (f a).before (f b) := by
    intro a b
    unfold DeadLetterTaskRow.before
    rw [hid, hid, created_at_sweep, created_at_sweep]
  have hsorted := List.map_insertionSort DeadLetterTaskRow.before DeadLetterTaskRow.before f
    (rows.filter sweep.selects) fun a _ b _ => hbefore a b
  unfold Sweep.window recover_dead_letter_replays
  rw [← hf, List.filter_map, hselects, ← hsorted, ← List.map_take, List.map_map]
  exact List.map_congr_left fun row _ => hid row

theorem InWindow.of_recover {reason : String} {recovered_at : Instant}
    (h : InWindow sweep (recover_dead_letter_replays sweep reason recovered_at rows)) :
    InWindow sweep rows := by
  intro row hrow htenant hstale
  rcases Decidable.em (row.dead_letter_task_id ∈ sweep.window rows) with hin | hout
  · exact hin
  · have hleft : sweep.sweep (sweep.window rows) reason recovered_at row = row := by
      refine if_neg fun hswept => hout ?_
      exact List.contains_iff_mem.mp (Bool.and_eq_true_iff.mp hswept).2
    have hmem : row ∈ recover_dead_letter_replays sweep reason recovered_at rows := by
      have hmapped := List.mem_map_of_mem (f := sweep.sweep (sweep.window rows) reason recovered_at) hrow
      rwa [hleft] at hmapped
    rw [← window_recover sweep reason recovered_at rows]
    exact h row hmem htenant hstale

theorem InWindow.of_drained {stamps : List (String × Instant)}
    (h : Drained sweep (sweeps sweep rows stamps)) : InWindow sweep rows := by
  induction stamps generalizing rows with
  | nil => exact fun row hrow htenant hstale => absurd hstale (Bool.eq_false_iff.mp (h row hrow htenant))
  | cons stamp stamps ih => exact (ih h).of_recover

theorem InWindow.drained (h : InWindow sweep rows)
    (hpublished : ∀ row ∈ rows, row.replayed = true ↔ row.replay_state = .published) (reason : String)
    (recovered_at : Instant) : Drained sweep (recover_dead_letter_replays sweep reason recovered_at rows) := by
  intro row' hrow' htenant
  obtain ⟨row, hrow, rfl⟩ := List.mem_map.mp hrow'
  rw [(sweep_keeps sweep _ reason recovered_at row).tenant] at htenant
  unfold Sweep.sweep
  split
  · rfl
  · rename_i hleft
    refine Bool.eq_false_iff.mpr fun hstale => hleft ?_
    have hclaimed : row.replay_state = .claimed := by
      simp only [DeadLetterTaskRow.stale, Bool.and_eq_true, decide_eq_true_eq] at hstale
      exact hstale.1
    have hopen : row.replayed = false := by
      refine Bool.eq_false_iff.mpr fun hreplayed => ?_
      have hpublished := (hpublished row hrow).mp hreplayed
      rw [hclaimed] at hpublished
      cases hpublished
    have hselected : sweep.selects row = true := by
      simp only [Sweep.selects, htenant, hopen, hstale, Bool.or_true, Bool.not_false, Bool.and_self]
    exact Bool.and_eq_true_iff.mpr ⟨hselected, List.contains_iff_mem.mpr (h row hrow htenant hstale)⟩

theorem drains_iff (hpublished : ∀ row ∈ rows, row.replayed = true ↔ row.replay_state = .published) :
    (∃ stamps, Drained sweep (sweeps sweep rows stamps)) ↔ InWindow sweep rows := by
  constructor
  · rintro ⟨stamps, h⟩
    exact .of_drained h
  · intro h
    exact ⟨[("dead-letter replay recovery", 0)], h.drained hpublished _ _⟩

/-- Whatever operators and sweeps run side by side, the replays of every row are fenced; and the claims up
to a cutoff are drained by sweeps exactly where they are among the rows that the first sweep gets. -/
theorem replays_fenced_and_drained_iff [LawfulStdlib Uuid] (parse : String → Option Uuid)
    (events : List (Event ι Uuid)) :
    Along (Event.next parse) Fenced {} events ∧
      ∀ s, after (Event.next parse) {} events = some s → ∀ sweep : Sweep,
        (∃ stamps, Drained sweep (sweeps sweep s.rows stamps)) ↔ InWindow sweep s.rows := by
  have hstep : ∀ (s : System ι Uuid) event s', Sound s → Event.next parse s event = some s' →
      Sound s' ∧ Fenced s event s' := fun _ _ _ h hnext => h.next hnext
  refine ⟨along hstep .start events, fun s hs sweep => ?_⟩
  exact drains_iff fun row hrow => ((sound_after hs).rows row hrow).published

end

/-! ## A failed row before a stale one -/

/-- The replay of an old row fails, and the operator of a newer row dies after the claim. -/
def failedBeforeStale : List (Event Nat String) :=
  let row (id : String) (created_at : Instant) : DeadLetterTaskRow String :=
    { dead_letter_task_id := id, tenant_id := "t", task_name := "execute_diagnostic_agent", created_at
      celery_kwargs := some .empty }
  [.record (row "a" 1), .record (row "b" 2), .claim 0 "a" "t" "o" 3 (fun _ => none),
   .mark 0 (.error "ConnectionError") 4, .claim 0 "b" "t" "o" 5 (fun _ => none), .stop 0]

/-- No number of sweeps of one row gets to the claim that is stale. -/
theorem stale_claim_is_never_recovered :
    ∃ s, after (Event.next some) ({} : System Nat String) failedBeforeStale = some s ∧
      ¬ ∃ stamps, Drained { claimed_before_or_at := 9, limit := 1 }
        (sweeps { claimed_before_or_at := 9, limit := 1 } s.rows stamps) := by
  have hrun : (after (Event.next some) ({} : System Nat String) failedBeforeStale).map
      (fun s => decide (InWindow { claimed_before_or_at := 9, limit := 1 } s.rows)) = some false := by
    decide +kernel
  obtain ⟨s, hs, hout⟩ := Option.map_eq_some_iff.mp hrun
  refine ⟨s, hs, ?_⟩
  rintro ⟨stamps, hdrained⟩
  exact of_decide_eq_false hout (.of_drained hdrained)

/-- The replays of the two rows are fenced. -/
theorem failed_and_stale_are_fenced :
    Along (Event.next some) Fenced ({} : System Nat String) failedBeforeStale :=
  (replays_fenced_and_drained_iff some failedBeforeStale).1

end operious.dead_letters
