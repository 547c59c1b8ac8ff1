-- Admission against pressure: when more pressure, or a probe that is lost, makes the gate less strict.
import Operious.Admission.Gate
import Mathlib.Algebra.Order.BigOperators.Group.List

namespace operious.admission

open operious.governance (PyException)

variable {Uuid F : Type}

/-! ## Probes that raise -/

def Raises {α : Type} (probe : Except PyException α) : Prop := ∃ exc, probe = .error exc

/-- Two probes both raise, or both answer with related answers. -/
def Answers {α : Type} (related : α → α → Prop) : Except PyException α → Except PyException α → Prop
  | .ok a, .ok b => related a b
  | .error _, .error _ => True
  | _, _ => False

variable {q : String}

section

variable {telemetry telemetry' : Telemetry F}

theorem dedupe_reasons_ne_nil {reasons : List String} :
    dedupe_reasons reasons ≠ [] ↔ ∃ reason ∈ reasons, reason ≠ "" := by
  rw [ne_eq, List.eq_nil_iff_forall_not_mem]
  simp [dedupe_reasons, List.mem_eraseDups]

theorem Answers.raises_iff {α : Type} {related : α → α → Prop} {a b : Except PyException α}
    (h : Answers related a b) : Raises a ↔ Raises b := by
  cases a <;> cases b <;> simp_all [Answers, Raises]

/-- The age of a queue is lost: the probe raises, or the score of a queue that may hold a message is no
number. -/
def AgeLost (telemetry : Telemetry F) (q : String) : Prop :=
  Raises (telemetry.queue_oldest q) ∨
    knownEmpty (single_queue_depth_sample telemetry q) = false ∧
      ∃ exc, telemetry.queue_oldest q = .ok (.scored (.error exc))

/-- Some probe of a telemetry is lost, as far as the gate looks at it. -/
def Lost (queue_names : List String) (telemetry : Telemetry F) : Prop :=
  Raises telemetry.redis_memory ∨
    (∃ q ∈ queue_names, Raises (telemetry.queue_depth q)) ∨ ∃ q ∈ queue_names, AgeLost telemetry q

theorem redis_memory_reason : (∃ reason ∈ (redis_memory_pct_sample telemetry).unavailable_reasons,
    reason ≠ "") ↔ Raises telemetry.redis_memory := by
  unfold redis_memory_pct_sample Raises
  cases telemetry.redis_memory <;> simp

theorem queue_depth_reason :
    (∃ reason ∈ (single_queue_depth_sample telemetry q).unavailable_reasons, reason ≠ "") ↔
      Raises (telemetry.queue_depth q) := by
  unfold single_queue_depth_sample Raises
  cases telemetry.queue_depth q <;> simp

theorem queue_age_reason :
    (∃ reason ∈ (single_queue_age_seconds_sample telemetry q
      (single_queue_depth_sample telemetry q)).unavailable_reasons, reason ≠ "") ↔
      AgeLost telemetry q := by
  unfold single_queue_age_seconds_sample AgeLost Raises
  rcases telemetry.queue_oldest q with exc | _ | exc | age
  · simp
  · simp
  · cases hempty : knownEmpty (single_queue_depth_sample telemetry q) <;> simp
  · cases hempty : knownEmpty (single_queue_depth_sample telemetry q) <;> simp

theorem queue_depth_value_le
    (h : Answers (· ≤ ·) (telemetry.queue_depth q) (telemetry'.queue_depth q)) :
    (single_queue_depth_sample telemetry q).value.getD 0 ≤
      (single_queue_depth_sample telemetry' q).value.getD 0 := by
  unfold single_queue_depth_sample
  rcases hd : telemetry.queue_depth q with exc | d <;>
    rcases hd' : telemetry'.queue_depth q with exc' | d' <;> simp_all [Answers]

theorem knownEmpty_antitone
    (h : Answers (· ≤ ·) (telemetry.queue_depth q) (telemetry'.queue_depth q))
    (hfull : knownEmpty (single_queue_depth_sample telemetry q) = false) :
    knownEmpty (single_queue_depth_sample telemetry' q) = false := by
  unfold single_queue_depth_sample at *
  rcases hd : telemetry.queue_depth q with exc | d <;>
    rcases hd' : telemetry'.queue_depth q with exc' | d' <;> simp_all [Answers, knownEmpty]
  omega

theorem queue_age_value {depth_sample : TelemetrySample Int} {v : F} :
    (single_queue_age_seconds_sample telemetry q depth_sample).value = some v ↔
      telemetry.queue_oldest q = .ok (.scored (.ok v)) ∧ knownEmpty depth_sample = false := by
  unfold single_queue_age_seconds_sample
  rcases telemetry.queue_oldest q with exc | _ | exc | age
  · simp
  · simp
  · cases knownEmpty depth_sample <;> simp
  · cases knownEmpty depth_sample <;> simp

end

variable [LinearOrder F]

/-! ## More pressure -/

/-- A reading is at least as high as another, where no reading is the lowest. -/
def NotLess (a b : Option F) : Prop := ∀ v, a = some v → ∃ w, b = some w ∧ v ≤ w

def OldestEntry.NotLess : OldestEntry F → OldestEntry F → Prop
  | .missing, .missing => True
  | .missing, .scored (.ok _) => True
  | .scored age, .scored age' => Answers (· ≤ ·) age age'
  | _, _ => False

/-- In every signal a situation is at least as bad as another, and the same probes answer. -/
structure AtLeastAsBad (queue_names : List String) (telemetry telemetry' : Telemetry F)
    (db_pool_wait_ms db_pool_wait_ms' : Option F) : Prop where
  memory : Answers NotLess telemetry.redis_memory telemetry'.redis_memory
  db_pool : NotLess db_pool_wait_ms db_pool_wait_ms'
  depth : ∀ q ∈ queue_names, Answers (· ≤ ·) (telemetry.queue_depth q) (telemetry'.queue_depth q)
  age : ∀ q ∈ queue_names,
    Answers OldestEntry.NotLess (telemetry.queue_oldest q) (telemetry'.queue_oldest q)

structure ProbesLost (queue_names : List String) (telemetry telemetry' : Telemetry F) : Prop where
  memory : telemetry'.redis_memory = telemetry.redis_memory ∨ Raises telemetry'.redis_memory
  depth : ∀ q ∈ queue_names,
    telemetry'.queue_depth q = telemetry.queue_depth q ∨ Raises (telemetry'.queue_depth q)
  age : ∀ q ∈ queue_names,
    telemetry'.queue_oldest q = telemetry.queue_oldest q ∨ Raises (telemetry'.queue_oldest q)
  lost : Raises telemetry'.redis_memory ∨
    ∃ q ∈ queue_names, Raises (telemetry'.queue_depth q) ∨ Raises (telemetry'.queue_oldest q)

/-! ## What the chain reaches first -/

section

variable (thresholds : AdmissionGateThresholds F) (channel_class : AdmissionChannelClass)
  (p : Pressure F)

/-- In the order of the chain the first level that is reached is a reject level, or none is reached and
a voice channel has lost telemetry. -/
def RejectFirst : Prop :=
  reaches p.redis_memory_pct thresholds.redis_memory_pct_reject ∨
  reaches p.db_pool_wait_ms thresholds.db_pool_wait_reject_ms ∨
  ¬ reaches p.db_pool_wait_ms thresholds.db_pool_wait_warn_ms ∧
    (thresholds.queue_depth_reject ≤ p.queue_depth ∨
    ¬ thresholds.queue_depth_warn ≤ p.queue_depth ∧
      (reaches p.queue_age_seconds thresholds.queue_age_reject_seconds ∨
      ¬ reaches p.queue_age_seconds thresholds.queue_age_warn_seconds ∧
        channel_class = .VOICE ∧ p.unavailable_reasons ≠ []))

/-- In the order of the chain the first level that is reached is a warn level. -/
def WarnFirst : Prop :=
  ¬ reaches p.redis_memory_pct thresholds.redis_memory_pct_reject ∧
  ¬ reaches p.db_pool_wait_ms thresholds.db_pool_wait_reject_ms ∧
    (reaches p.db_pool_wait_ms thresholds.db_pool_wait_warn_ms ∨
    ¬ thresholds.queue_depth_reject ≤ p.queue_depth ∧
      (thresholds.queue_depth_warn ≤ p.queue_depth ∨
      ¬ reaches p.queue_age_seconds thresholds.queue_age_reject_seconds ∧
        reaches p.queue_age_seconds thresholds.queue_age_warn_seconds))

structure Calm : Prop where
  memory : ¬ reaches p.redis_memory_pct thresholds.redis_memory_pct_reject
  db_reject : ¬ reaches p.db_pool_wait_ms thresholds.db_pool_wait_reject_ms
  db_warn : ¬ reaches p.db_pool_wait_ms thresholds.db_pool_wait_warn_ms
  depth_reject : ¬ thresholds.queue_depth_reject ≤ p.queue_depth
  depth_warn : ¬ thresholds.queue_depth_warn ≤ p.queue_depth
  age_reject : ¬ reaches p.queue_age_seconds thresholds.queue_age_reject_seconds
  age_warn : ¬ reaches p.queue_age_seconds thresholds.queue_age_warn_seconds

end

section

variable {thresholds : AdmissionGateThresholds F} {channel_class : AdmissionChannelClass}
  {p p' : Pressure F}

theorem verdict_reject : (verdict thresholds channel_class p).1 = .REJECT ↔
    RejectFirst thresholds channel_class p := by
  unfold verdict RejectFirst
  split_ifs <;> try simp_all
  cases channel_class <;> simp_all

theorem verdict_of_warnFirst (h : WarnFirst thresholds p) :
    (verdict thresholds channel_class p).1 = .DEFER := by
  unfold WarnFirst at h
  unfold verdict
  split_ifs <;> simp_all

theorem verdict_of_calm (h : Calm thresholds p) : (verdict thresholds channel_class p).1 =
    if p.unavailable_reasons = [] then .ADMIT
    else match channel_class with
      | .REALTIME_CHAT => .DEFER
      | .VOICE => .REJECT
      | _ => .ADMIT := by
  obtain ⟨hmemory, hdbr, hdbw, hdepthr, hdepthw, hager, hagew⟩ := h
  simp only [verdict, if_neg hmemory, if_neg hdbr, if_neg hdbw, if_neg hdepthr, if_neg hdepthw,
    if_neg hager, if_neg hagew]
  split_ifs
  · rfl
  · cases channel_class <;> rfl

theorem calm_or_verdict : Calm thresholds p ∨ (WarnFirst thresholds p ∧
      (verdict thresholds channel_class p).1 = .DEFER) ∨
    (verdict thresholds channel_class p).1 = .REJECT := by
  by_cases hwarn : WarnFirst thresholds p
  · exact Or.inr (Or.inl ⟨hwarn, verdict_of_warnFirst hwarn⟩)
  · by_cases hreject : RejectFirst thresholds channel_class p
    · exact Or.inr (Or.inr (verdict_reject.mpr hreject))
    · unfold WarnFirst at hwarn
      unfold RejectFirst at hreject
      refine Or.inl ⟨?_, ?_, ?_, ?_, ?_, ?_, ?_⟩ <;> tauto

/-! ## Two pressures -/

/-- Every signal of a pressure is at least as high as that of another. -/
structure Pressure.NotLess (p p' : Pressure F) : Prop where
  memory : admission.NotLess p.redis_memory_pct p'.redis_memory_pct
  db_pool : admission.NotLess p.db_pool_wait_ms p'.db_pool_wait_ms
  depth : p.queue_depth ≤ p'.queue_depth
  age : admission.NotLess p.queue_age_seconds p'.queue_age_seconds
  lost : p.unavailable_reasons ≠ [] → p'.unavailable_reasons ≠ []

theorem NotLess.reaches {a b : Option F} {level : F} (h : NotLess a b) (ha : reaches a level) :
    reaches b level := by
  obtain ⟨v, hv, hle⟩ := ha
  obtain ⟨w, hw, hvw⟩ := h v hv
  exact ⟨w, hw, hle.trans hvw⟩

theorem Pressure.NotLess.calm (h : p.NotLess p') (hcalm : Calm thresholds p') :
    Calm thresholds p where
  memory := fun hr => hcalm.memory (h.memory.reaches hr)
  db_reject := fun hr => hcalm.db_reject (h.db_pool.reaches hr)
  db_warn := fun hr => hcalm.db_warn (h.db_pool.reaches hr)
  depth_reject := fun hr => hcalm.depth_reject (hr.trans h.depth)
  depth_warn := fun hr => hcalm.depth_warn (hr.trans h.depth)
  age_reject := fun hr => hcalm.age_reject (h.age.reaches hr)
  age_warn := fun hr => hcalm.age_warn (h.age.reaches hr)

theorem Pressure.NotLess.verdict_le (h : p.NotLess p') :
    (verdict thresholds channel_class p).1.rank ≤ (verdict thresholds channel_class p').1.rank ↔
      (RejectFirst thresholds channel_class p → ¬ WarnFirst thresholds p') := by
  constructor
  · intro hle hreject hwarn
    rw [verdict_reject.mpr hreject, verdict_of_warnFirst hwarn] at hle
    exact absurd hle (by decide)
  · intro hhides
    rcases @calm_or_verdict F _ thresholds channel_class p' with hcalm | ⟨hwarn, hdefer⟩ | hreject
    · rw [verdict_of_calm hcalm, verdict_of_calm (h.calm hcalm)]
      by_cases hlost : p.unavailable_reasons = []
      · rw [if_pos hlost]
        exact Nat.zero_le _
      · rw [if_neg hlost, if_neg (h.lost hlost)]
    · rw [hdefer]
      have hnot : (verdict thresholds channel_class p).1 ≠ .REJECT :=
        fun hreject => hhides (verdict_reject.mp hreject) hwarn
      revert hnot
      cases (verdict thresholds channel_class p).1 <;> decide
    · rw [hreject]
      cases (verdict thresholds channel_class p).1 <;> decide

theorem verdict_voice (hlost : p.unavailable_reasons ≠ []) :
    (verdict thresholds .VOICE p).1 = .REJECT ↔ ¬ WarnFirst thresholds p := by
  rcases @calm_or_verdict F _ thresholds .VOICE p with hcalm | ⟨hwarn, hdefer⟩ | hreject
  · rw [verdict_of_calm hcalm, if_neg hlost]
    simp [WarnFirst, hcalm.db_warn, hcalm.depth_warn, hcalm.age_warn]
  · simp [hdefer, hwarn]
  · refine iff_of_true hreject fun hwarn => ?_
    rw [verdict_of_warnFirst hwarn] at hreject
    cases hreject

end

/-! ## Two telemetries -/

section

variable {queue_names : List String} {telemetry telemetry' : Telemetry F}
  {db_pool_wait_ms db_pool_wait_ms' : Option F}

theorem pressureOf_unavailable :
    (pressureOf queue_names telemetry db_pool_wait_ms).unavailable_reasons ≠ [] ↔
      Lost queue_names telemetry := by
  have hflat {α : Type} (sample : String → TelemetrySample α) :
      (∃ reason ∈ (queue_names.map sample).flatMap (·.unavailable_reasons), reason ≠ "") ↔
        ∃ q ∈ queue_names, ∃ reason ∈ (sample q).unavailable_reasons, reason ≠ "" := by
    simp only [List.mem_flatMap, List.mem_map]
    constructor
    · rintro ⟨reason, ⟨_, ⟨q, hq, rfl⟩, hmem⟩, hne⟩
      exact ⟨q, hq, reason, hmem, hne⟩
    · rintro ⟨q, hq, reason, hmem, hne⟩
      exact ⟨reason, ⟨_, ⟨q, hq, rfl⟩, hmem⟩, hne⟩
  simp only [pressureOf, dedupe_reasons_ne_nil, List.mem_append, or_and_right, exists_or,
    queue_depth_sample, queue_age_seconds_sample, hflat, redis_memory_reason, queue_depth_reason,
    queue_age_reason, Lost, or_assoc]

/-! ## The samples of a worse situation -/

theorem redis_memory_value_notLess
    (h : Answers NotLess telemetry.redis_memory telemetry'.redis_memory) :
    NotLess (redis_memory_pct_sample telemetry).value (redis_memory_pct_sample telemetry').value := by
  unfold redis_memory_pct_sample
  rcases hm : telemetry.redis_memory with exc | v <;>
    rcases hm' : telemetry'.redis_memory with exc' | v' <;> simp_all [Answers, NotLess]

theorem queue_age_value_notLess
    (hdepth : Answers (· ≤ ·) (telemetry.queue_depth q) (telemetry'.queue_depth q))
    (h : Answers OldestEntry.NotLess (telemetry.queue_oldest q) (telemetry'.queue_oldest q)) :
    NotLess
      (single_queue_age_seconds_sample telemetry q (single_queue_depth_sample telemetry q)).value
      (single_queue_age_seconds_sample telemetry' q (single_queue_depth_sample telemetry' q)).value := by
  intro v hv
  obtain ⟨ho, hfull⟩ := queue_age_value.mp hv
  rw [ho] at h
  rcases ho' : telemetry'.queue_oldest q with exc' | _ | exc' | age' <;>
    simp only [ho', Answers, OldestEntry.NotLess] at h
  exact ⟨age', queue_age_value.mpr ⟨ho', knownEmpty_antitone hdepth hfull⟩, h⟩

theorem ageLost_mono (hdepth : Answers (· ≤ ·) (telemetry.queue_depth q) (telemetry'.queue_depth q))
    (h : Answers OldestEntry.NotLess (telemetry.queue_oldest q) (telemetry'.queue_oldest q))
    (hlost : AgeLost telemetry q) : AgeLost telemetry' q := by
  rcases hlost with hraises | ⟨hfull, exc, ho⟩
  · exact Or.inl (h.raises_iff.mp hraises)
  · rw [ho] at h
    rcases ho' : telemetry'.queue_oldest q with exc' | _ | exc' | age' <;>
      simp only [ho', Answers, OldestEntry.NotLess] at h
    exact Or.inr ⟨knownEmpty_antitone hdepth hfull, exc', ho'⟩

theorem max?_notLess {l l' : List F} (h : ∀ a ∈ l, ∃ b ∈ l', a ≤ b) : NotLess l.max? l'.max? := by
  intro v hv
  obtain ⟨b, hb, hle⟩ := h v (List.max?_mem hv)
  obtain ⟨w, hw⟩ := Option.isSome_iff_exists.mp (List.isSome_max?_of_mem hb)
  exact ⟨w, hw, hle.trans ((List.max?_eq_some_iff.mp hw).2 b hb)⟩

theorem AtLeastAsBad.pressure
    (h : AtLeastAsBad queue_names telemetry telemetry' db_pool_wait_ms db_pool_wait_ms') :
    (pressureOf queue_names telemetry db_pool_wait_ms).NotLess
      (pressureOf queue_names telemetry' db_pool_wait_ms') where
  memory := redis_memory_value_notLess h.memory
  db_pool := h.db_pool
  depth := by
    simp only [pressureOf, queue_depth_sample, Option.getD_some, List.map_map]
    exact List.sum_le_sum fun q hq => queue_depth_value_le (h.depth q hq)
  age := by
    refine max?_notLess fun a ha => ?_
    simp only [List.mem_filterMap, List.mem_map] at ha ⊢
    obtain ⟨_, ⟨q, hq, rfl⟩, hvalue⟩ := ha
    obtain ⟨b, hb, hle⟩ := queue_age_value_notLess (h.depth q hq) (h.age q hq) a hvalue
    exact ⟨b, ⟨_, ⟨q, hq, rfl⟩, hb⟩, hle⟩
  lost := by
    rw [pressureOf_unavailable, pressureOf_unavailable]
    rintro (hmemory | ⟨q, hq, hdepth⟩ | ⟨q, hq, hage⟩)
    · exact Or.inl (h.memory.raises_iff.mp hmemory)
    · exact Or.inr (Or.inl ⟨q, hq, (h.depth q hq).raises_iff.mp hdepth⟩)
    · exact Or.inr (Or.inr ⟨q, hq, ageLost_mono (h.depth q hq) (h.age q hq) hage⟩)

theorem ProbesLost.pressure (h : ProbesLost queue_names telemetry telemetry') :
    (pressureOf queue_names telemetry' db_pool_wait_ms).unavailable_reasons ≠ [] := by
  rw [pressureOf_unavailable]
  rcases h.lost with hmemory | ⟨q, hq, hdepth | hage⟩
  · exact Or.inl hmemory
  · exact Or.inr (Or.inl ⟨q, hq, hdepth⟩)
  · exact Or.inr (Or.inr ⟨q, hq, Or.inl hage⟩)

end

/-! ## The law -/

section

variable (Uuid) [Stdlib Uuid] (thresholds : AdmissionGateThresholds F) (request : AdmissionRequest)
  (telemetry telemetry' : Telemetry F) (db_pool_wait_ms db_pool_wait_ms' : Option F)

/-- The gate is at least as strict in a situation that is at least as bad, and for a voice channel it
still rejects when probes are lost. -/
structure RestrictsWithPressure : Prop where
  pressure : ∀ targets, queue_targets request = .ok targets →
    AtLeastAsBad targets telemetry telemetry' db_pool_wait_ms db_pool_wait_ms' →
    ∀ d d' : AdmissionDecision Uuid F, evaluate thresholds request telemetry db_pool_wait_ms = .ok d →
      evaluate thresholds request telemetry' db_pool_wait_ms' = .ok d' →
      d.outcome.rank ≤ d'.outcome.rank
  voice : classify_admission_channel Uuid request.channel = .VOICE →
    ∀ targets, queue_targets request = .ok targets → ProbesLost targets telemetry telemetry' →
    db_pool_wait_ms' = db_pool_wait_ms →
    ∀ d d' : AdmissionDecision Uuid F, evaluate thresholds request telemetry db_pool_wait_ms = .ok d →
      evaluate thresholds request telemetry' db_pool_wait_ms' = .ok d' →
      d.outcome = .REJECT → d'.outcome = .REJECT

/-- Two situations that the law compares. -/
def Compared (targets : List String) : Prop :=
  AtLeastAsBad targets telemetry telemetry' db_pool_wait_ms db_pool_wait_ms' ∨
    classify_admission_channel Uuid request.channel = .VOICE ∧
      ProbesLost targets telemetry telemetry' ∧ db_pool_wait_ms' = db_pool_wait_ms

/-- No warn level of the second situation hides what rejects in the first one. -/
def NoWarnHides : Prop :=
  ∀ targets, queue_targets request = .ok targets →
    Compared Uuid request telemetry telemetry' db_pool_wait_ms db_pool_wait_ms' targets →
    RejectFirst thresholds (classify_admission_channel Uuid request.channel)
      (pressureOf targets telemetry db_pool_wait_ms) →
    ¬ WarnFirst thresholds (pressureOf targets telemetry' db_pool_wait_ms')

end

section

variable [Stdlib Uuid] {thresholds : AdmissionGateThresholds F} {request : AdmissionRequest}
  {telemetry telemetry' : Telemetry F} {db_pool_wait_ms db_pool_wait_ms' : Option F}

theorem evaluate_outcome {targets : List String} (h : queue_targets request = .ok targets) :
    ∃ d : AdmissionDecision Uuid F, evaluate thresholds request telemetry db_pool_wait_ms = .ok d ∧
      d.outcome = (verdict thresholds (classify_admission_channel Uuid request.channel)
        (pressureOf targets telemetry db_pool_wait_ms)).1 := by
  unfold evaluate
  rw [h]
  exact ⟨_, rfl, rfl⟩

/-- The gate follows the pressure exactly where no warn level hides a rejection. -/
theorem restricts_with_pressure_iff :
    RestrictsWithPressure Uuid thresholds request telemetry telemetry' db_pool_wait_ms
        db_pool_wait_ms' ↔
      NoWarnHides Uuid thresholds request telemetry telemetry' db_pool_wait_ms db_pool_wait_ms' := by
  constructor
  · intro h targets htargets hcompared
    obtain ⟨d, hd, hout⟩ := @evaluate_outcome Uuid F _ _ thresholds request telemetry
      db_pool_wait_ms _ htargets
    obtain ⟨d', hd', hout'⟩ := @evaluate_outcome Uuid F _ _ thresholds request telemetry'
      db_pool_wait_ms' _ htargets
    rcases hcompared with hworse | ⟨hvoice, hlost, hdb⟩
    · refine hworse.pressure.verdict_le.mp ?_
      rw [← hout, ← hout']
      exact h.pressure targets htargets hworse d d' hd hd'
    · intro hreject
      have hrejects := h.voice hvoice targets htargets hlost hdb d d' hd hd'
        (hout.trans (verdict_reject.mpr hreject))
      rw [hout', hvoice] at hrejects
      exact (verdict_voice hlost.pressure).mp hrejects
  · intro h
    refine { pressure := ?_, voice := ?_ }
    · intro targets htargets hworse d d' hd hd'
      obtain ⟨e, he, hout⟩ := @evaluate_outcome Uuid F _ _ thresholds request telemetry
        db_pool_wait_ms _ htargets
      obtain ⟨e', he', hout'⟩ := @evaluate_outcome Uuid F _ _ thresholds request telemetry'
        db_pool_wait_ms' _ htargets
      obtain rfl : e = d := Except.ok.inj (he.symm.trans hd)
      obtain rfl : e' = d' := Except.ok.inj (he'.symm.trans hd')
      rw [hout, hout']
      exact hworse.pressure.verdict_le.mpr (h targets htargets (Or.inl hworse))
    · intro hvoice targets htargets hlost hdb d d' hd hd' hreject
      obtain ⟨e, he, hout⟩ := @evaluate_outcome Uuid F _ _ thresholds request telemetry
        db_pool_wait_ms _ htargets
      obtain ⟨e', he', hout'⟩ := @evaluate_outcome Uuid F _ _ thresholds request telemetry'
        db_pool_wait_ms' _ htargets
      obtain rfl : e = d := Except.ok.inj (he.symm.trans hd)
      obtain rfl : e' = d' := Except.ok.inj (he'.symm.trans hd')
      have hnot := h targets htargets (Or.inr ⟨hvoice, hlost, hdb⟩)
        (verdict_reject.mp (hout.symm.trans hreject))
      rw [hout', hvoice]
      exact (verdict_voice hlost.pressure).mpr hnot

end

/-! ## A queue that is deferred because the pool is slow, too -/

def defaultThresholds : AdmissionGateThresholds Int where
  queue_depth_warn := 500
  queue_depth_reject := 2000
  queue_age_warn_seconds := 120
  queue_age_reject_seconds := 600
  redis_memory_pct_reject := 90
  db_pool_wait_warn_ms := 250
  db_pool_wait_reject_ms := 1000

def ticketRequest : AdmissionRequest where
  queue_name := some "tickets"
  channel := some "email"

/-- Two thousand messages wait, and nothing else is wrong. -/
def longQueue : Telemetry Int where
  redis_memory := .ok (some 10)
  queue_depth _ := .ok 2000
  queue_oldest _ := .ok .missing

/-- The queue is rejected, and with a wait of 250 ms for a connection it is only deferred. -/
theorem slow_pool_admits_a_long_queue :
    ¬ ∀ (thresholds : AdmissionGateThresholds Int),
      thresholds.queue_depth_warn ≤ thresholds.queue_depth_reject →
      thresholds.queue_age_warn_seconds ≤ thresholds.queue_age_reject_seconds →
      thresholds.db_pool_wait_warn_ms ≤ thresholds.db_pool_wait_reject_ms →
      ∀ (request : AdmissionRequest) (telemetry telemetry' : Telemetry Int)
        (db_pool_wait_ms db_pool_wait_ms' : Option Int),
      RestrictsWithPressure String thresholds request telemetry telemetry' db_pool_wait_ms
        db_pool_wait_ms' := by
  intro h
  have htargets : queue_targets ticketRequest = .ok ["tickets"] := by rfl
  have hworse : AtLeastAsBad ["tickets"] longQueue longQueue (some 0) (some 250) := {
    memory := fun v hv => ⟨v, hv, le_refl v⟩
    db_pool := fun v hv => ⟨250, rfl, by cases hv; decide⟩
    depth := fun _ _ => le_refl (2000 : Int)
    age := fun _ _ => trivial }
  obtain ⟨d, hd, hout⟩ := @evaluate_outcome String Int _ _ defaultThresholds ticketRequest longQueue
    (some 0) _ htargets
  obtain ⟨d', hd', hout'⟩ := @evaluate_outcome String Int _ _ defaultThresholds ticketRequest longQueue
    (some 250) _ htargets
  have hle := (h defaultThresholds (by decide) (by decide) (by decide) ticketRequest longQueue longQueue
    (some 0) (some 250)).pressure _ htargets hworse d d' hd hd'
  have hreject : d.outcome = .REJECT := by
    rw [hout]
    decide +kernel
  have hdefer : d'.outcome = .DEFER := by
    rw [hout']
    decide +kernel
  rw [hreject, hdefer] at hle
  exact absurd hle (by decide)

/-- A call that the memory of redis rejects is only deferred when its probe is lost and the queue has
reached its warn level. -/
example :
    (verdict defaultThresholds .VOICE (pressureOf ["calls"]
      { longQueue with redis_memory := .ok (some 95), queue_depth := fun _ => .ok 600 } none)).1 =
      .REJECT ∧
    (verdict defaultThresholds .VOICE (pressureOf ["calls"]
      { longQueue with
        redis_memory := .error ⟨"ConnectionError", "timed out"⟩
        queue_depth := fun _ => .ok 600 } none)).1 = .DEFER := by
  decide +kernel

end operious.admission
