-- The calls of all tenants side by side. A bucket counts the calls that were let pass and those that
-- were refused, in the order of their pipelines; so a bound is kept, and a refusal is paid for by
-- admissions where no counter expires early, no names meet, and no call that its minute let pass is lost
-- to its hour.
import Operious.Runtime.ProviderQuota

namespace operious.agents.quota

open runs

/-! ## The law -/

def System.tally (s : System) (c : Caller) (w : Window) (b : Int) (f : Phase → Bool) : Nat :=
  s.calls.countP fun call => decide (call.caller = c ∧ w.bucket call.now = b) && f call.phase

def Window.refusal : Window → Phase
  | minute => .refused .requests_per_minute false
  | hour => .refused .requests_per_hour true

/-- The call was let pass by the window and has not come to its end. -/
def Window.underway (w : Window) (phase : Phase) : Bool := w = .minute && phase = .check .hour

def System.Uses (s : System) (slot : Slot) : Prop :=
  slot ∈ s.recorded ∨ ∃ call ∈ s.calls, (∃ w, slot = call.slot w) ∨ slot = call.token_slot

/-- In no bucket are more calls admitted than the limit; a call is refused for a window only where as
many as the limit are admitted in its bucket, or are on the way; and no two counters have one name. -/
structure QuotaExact (limits : Limits) (s : System) : Prop where
  bound : ∀ w c b, (s.tally c w b (· = .admitted) : Int) ≤ max (limits.requests w) 0
  refused : ∀ w c b, 0 < s.tally c w b (· = w.refusal) →
    limits.requests w ≤ s.tally c w b (· = .admitted) + s.tally c w b w.underway
  apart : ∀ slot slot', s.Uses slot → s.Uses slot' → slot.key = slot'.key → slot = slot'

/-! ## The condition -/

/-- The call was let pass by its minute and refused behind it. -/
def Phase.lost : Phase → Bool
  | refused _ after_minute => after_minute
  | _ => false

def Call.SameMinute (call other : Call) : Prop :=
  other.caller = call.caller ∧ Window.minute.bucket other.now = Window.minute.bucket call.now

instance (call other : Call) : Decidable (call.SameMinute other) := by
  unfold Call.SameMinute
  infer_instance

def System.expired (s : System) (key : String) : Bool :=
  (s.redis.get? key).any fun counter => counter.expires_at ≤ s.clock

def System.full (limits : Limits) (s : System) (call : Call) (w : Window) : Prop :=
  limits.requests w ≤ s.redis.count s.clock (call.slot w).key

instance (limits : Limits) (s : System) (call : Call) (w : Window) :
    Decidable (s.full limits call w) := by
  unfold System.full
  infer_instance

/-- The pipeline of a call finds its counter in time; and when its minute is full no call of that minute
was lost to the hour, and when its hour is full or fails no call of its minute was refused for the
minute. -/
def Counts (limits : Limits) (s : System) (call : Call) (w : Window) (available : Bool) : Prop :=
  (available = true → s.expired (call.slot w).key = false) ∧
  match w with
  | .minute => available = true → s.full limits call .minute →
      ∀ other ∈ s.calls, call.SameMinute other → other.phase.lost = false
  | .hour => available = false ∨ s.full limits call .hour →
      ∀ other ∈ s.calls, call.SameMinute other → other.phase ≠ Window.minute.refusal

instance (limits : Limits) (s : System) (call : Call) (w : Window) (available : Bool) :
    Decidable (Counts limits s call w available) := by
  unfold Counts
  cases w <;> infer_instance

def InOrder (limits : Limits) (s : System) : Event → Prop
  | .tick _ => True
  | .arrive caller _ => caller.Plain
  | .read_tokens _ _ => True
  | .count n w available => ∀ call ∈ s.calls[n]?, Counts limits s call w available
  | .record_token_usage caller _ _ => caller.Plain

instance (limits : Limits) (s : System) (event : Event) : Decidable (InOrder limits s event) := by
  unfold InOrder
  cases event <;> infer_instance

/-! ## The invariant -/

/-- The call was counted in the window. -/
def Window.charged : Window → Phase → Bool
  | minute, phase => phase = .check .hour || phase = .admitted ||
      phase = .refused .requests_per_minute false || phase.lost
  | hour, phase => phase = .admitted || phase = .refused .requests_per_hour true

/-- The call was counted in the window and let pass. -/
def Window.passed : Window → Phase → Bool
  | minute, phase => phase = .check .hour || phase = .admitted || phase.lost
  | hour, phase => phase = .admitted

/-- What is stored under a name, expired or not. -/
def System.stored (s : System) (key : String) : Nat := ((s.redis.get? key).map Counter.count).getD 0

structure Sound (limits : Limits) (s : System) : Prop where
  plain : ∀ call ∈ s.calls, call.caller.Plain
  recorded : ∀ slot ∈ s.recorded, slot.caller.Plain
  counted : ∀ w c b, c.Plain →
    s.stored ({ caller := c, kind := .requests w, bucket := b } : Slot).key = s.tally c w b w.charged
  passed : ∀ w c b, s.tally c w b w.passed = min (s.tally c w b w.charged) (limits.requests w).toNat
  unmixed : ∀ call ∈ s.calls, ∀ other ∈ s.calls, call.SameMinute other → call.phase.lost = true →
    other.phase ≠ Window.minute.refusal

section

variable {limits : Limits} {s : System}

theorem count_of_unexpired {key : String} (h : s.expired key = false) :
    s.redis.count s.clock key = s.stored key := by
  unfold System.expired at h
  unfold Redis.count System.stored
  cases hcounter : s.redis.get? key with
  | none => rfl
  | some counter =>
    rw [hcounter, Option.any_some, decide_eq_false_iff_not, not_le] at h
    exact if_pos h

/-! ### One call goes on -/

variable {n : Nat} {call : Call} {phase : Phase}

theorem tally_place (phase : Phase) (hcall : s.calls[n]? = some call) (c : Caller) (w : Window) (b : Int)
    (f : Phase → Bool) :
    (s.place n call phase).tally c w b f +
        (if (decide (call.caller = c ∧ w.bucket call.now = b) && f call.phase) then 1 else 0) =
      s.tally c w b f +
        (if (decide (call.caller = c ∧ w.bucket call.now = b) && f phase) then 1 else 0) := by
  obtain ⟨hn, rfl⟩ := List.getElem?_eq_some_iff.mp hcall
  have hle := List.boole_getElem_le_countP (p := fun call : Call =>
    decide (call.caller = c ∧ w.bucket call.now = b) && f call.phase) hn
  have hset := List.countP_set (p := fun call : Call =>
    decide (call.caller = c ∧ w.bucket call.now = b) && f call.phase) (a := { s.calls[n] with phase }) hn
  dsimp only at hle hset
  unfold System.tally System.place
  dsimp only
  rw [hset]
  omega

variable {f : Phase → Bool}

theorem tally_place_same (hcall : s.calls[n]? = some call) (c : Caller) (w : Window) (b : Int)
    (hf : f phase = f call.phase) : (s.place n call phase).tally c w b f = s.tally c w b f := by
  have htally := tally_place phase hcall c w b f
  rw [hf] at htally
  exact Nat.add_right_cancel htally

variable {w : Window}

variable {c : Caller} {b : Int}

theorem tally_place_other (hcall : s.calls[n]? = some call) (f : Phase → Bool)
    (h : ¬ (call.caller = c ∧ w.bucket call.now = b)) :
    (s.place n call phase).tally c w b f = s.tally c w b f := by
  have htally := tally_place phase hcall c w b f
  simp only [decide_eq_false h, Bool.false_and, Bool.false_eq_true, if_false, Nat.add_zero] at htally
  exact htally

theorem tally_place_new (phase : Phase) (hcall : s.calls[n]? = some call) (w : Window)
    (hold : f call.phase = false) :
    (s.place n call phase).tally call.caller w (w.bucket call.now) f =
      s.tally call.caller w (w.bucket call.now) f + if f phase then 1 else 0 := by
  have htally := tally_place phase hcall call.caller w (w.bucket call.now) f
  simpa [hold] using htally

theorem mem_place {other : Call}
    (h : other ∈ (s.place n call phase).calls) : other ∈ s.calls ∨ other = { call with phase } :=
  List.mem_or_eq_of_mem_set h

theorem plain_place (h : ∀ call ∈ s.calls, call.caller.Plain) (hcall : s.calls[n]? = some call) :
    ∀ other ∈ (s.place n call phase).calls, other.caller.Plain := by
  intro other hother
  rcases mem_place hother with hother | rfl
  · exact h other hother
  · exact h call (List.mem_of_getElem? hcall)

theorem unmixed_place (h : Sound limits s)
    (hlost : phase.lost = true → ∀ other ∈ s.calls, call.SameMinute other →
      other.phase ≠ Window.minute.refusal)
    (hrefused : phase = Window.minute.refusal → ∀ other ∈ s.calls, call.SameMinute other →
      other.phase.lost = false) :
    ∀ a ∈ (s.place n call phase).calls, ∀ other ∈ (s.place n call phase).calls, a.SameMinute other →
      a.phase.lost = true → other.phase ≠ Window.minute.refusal := by
  intro a ha other hother hsame ha'
  rcases mem_place ha with ha | rfl
  · rcases mem_place hother with hother | rfl
    · exact h.unmixed a ha other hother hsame ha'
    · intro hphase
      have hother := hrefused hphase a ha ⟨hsame.1.symm, hsame.2.symm⟩
      rw [ha'] at hother
      cases hother
  · rcases mem_place hother with hother | rfl
    · exact hlost ha' other hother hsame
    · rintro hphase
      rw [hphase] at ha'
      cases ha'

theorem Sound.place_quiet (h : Sound limits s) (hcall : s.calls[n]? = some call)
    (hcharged : ∀ w : Window, w.charged phase = w.charged call.phase)
    (hpassed : ∀ w : Window, w.passed phase = w.passed call.phase)
    (hlost : phase.lost = true → ∀ other ∈ s.calls, call.SameMinute other →
      other.phase ≠ Window.minute.refusal)
    (hrefused : phase ≠ Window.minute.refusal) : Sound limits (s.place n call phase) where
  plain := plain_place h.plain hcall
  recorded := h.recorded
  counted w c b hc := by
    rw [tally_place_same hcall c w b (hcharged w)]
    exact h.counted w c b hc
  passed w c b := by
    rw [tally_place_same hcall c w b (hcharged w), tally_place_same hcall c w b (hpassed w)]
    exact h.passed w c b
  unmixed := unmixed_place h hlost fun hphase => absurd hphase hrefused

/-! ### A call is counted -/

/-- Where a call goes that a window lets pass. -/
def Window.onward : Window → Phase
  | minute => .check .hour
  | hour => .admitted

theorem verdict_full {count : Nat} (h : limits.requests w < count) :
    w.verdict limits count = w.refusal := by
  cases w <;> exact if_pos h

theorem verdict_free {count : Nat} (h : (count : Int) ≤ limits.requests w) :
    w.verdict limits count = w.onward := by
  cases w <;> exact if_neg (not_lt.mpr h)

theorem verdict_counts (limits : Limits) (w : Window) (count : Nat) :
    w.charged (w.verdict limits count) = true ∧
      w.passed (w.verdict limits count) = decide ((count : Int) ≤ limits.requests w) ∧
      ∀ w' ≠ w, w'.charged (w.verdict limits count) = w'.charged (.check w) ∧
        w'.passed (w.verdict limits count) = w'.passed (.check w) := by
  rcases lt_or_ge (limits.requests w) count with hfull | hfree
  · rw [verdict_full hfull, decide_eq_false (not_le.mpr hfull)]
    cases w <;> refine ⟨rfl, rfl, fun w' hw' => ?_⟩ <;> cases w' <;>
      first | exact absurd rfl hw' | exact ⟨rfl, rfl⟩
  · rw [verdict_free hfree, decide_eq_true hfree]
    cases w <;> refine ⟨rfl, rfl, fun w' hw' => ?_⟩ <;> cases w' <;>
      first | exact absurd rfl hw' | exact ⟨rfl, rfl⟩

theorem not_counted_before (w : Window) : w.charged (.check w) = false ∧ w.passed (.check w) = false := by
  cases w <;> exact ⟨rfl, rfl⟩

theorem count_incrby (redis : Redis) (clock : Instant) (key : String) (amount : Nat) {seconds : Int}
    (h : 0 < seconds) :
    (redis.incrby clock key amount seconds).count clock key = redis.count clock key + amount := by
  have hlive : clock < clock + seconds * 1000000 :=
    Int.lt_add_of_pos_right _ (Int.mul_pos h (by decide))
  unfold Redis.count Redis.incrby
  rw [Dict.get?_set_self]
  exact if_pos hlive

/-- The pipeline of a call, whose counter has not expired. -/
theorem Sound.count (h : Sound limits s) (hcall : s.calls[n]? = some call)
    (hphase : call.phase = .check w) (horder : Counts limits s call w true) :
    let redis := s.redis.incrby s.clock (call.slot w).key 1 w.seconds
    Sound limits { s.place n call (w.verdict limits (redis.count s.clock (call.slot w).key)) with
      redis } := by
  intro redis
  have hunexpired := count_of_unexpired (horder.1 rfl)
  have hcount : redis.count s.clock (call.slot w).key = s.stored (call.slot w).key + 1 := by
    rw [← hunexpired]
    exact count_incrby _ _ _ _ (by cases w <;> decide)
  have hplain := h.plain call (List.mem_of_getElem? hcall)
  have hstored := h.counted w call.caller (w.bucket call.now) hplain
  have hpassed := h.passed w call.caller (w.bucket call.now)
  obtain ⟨hcharged, hpasses, hothers⟩ := verdict_counts limits w (s.stored (call.slot w).key + 1)
  obtain ⟨hnot, hnot'⟩ := not_counted_before w
  rw [← hphase] at hnot hnot'
  rw [hcount]
  set phase := w.verdict limits (s.stored (call.slot w).key + 1) with hverdict
  have hnew := tally_place_new phase hcall w hnot
  have hnew' := tally_place_new phase hcall w hnot'
  rw [hcharged, if_pos rfl] at hnew
  -- the bucket of the call is counted up, and every other one is left alone
  have hother : ∀ w' c b, ¬ (w' = w ∧ call.caller = c ∧ w.bucket call.now = b) →
      (s.place n call phase).tally c w' b w'.charged = s.tally c w' b w'.charged ∧
        (s.place n call phase).tally c w' b w'.passed = s.tally c w' b w'.passed := by
    intro w' c b hne
    by_cases hw : w' = w
    · subst hw
      have hat : ¬ (call.caller = c ∧ w'.bucket call.now = b) := fun hat => hne ⟨rfl, hat⟩
      exact ⟨tally_place_other hcall _ hat, tally_place_other hcall _ hat⟩
    · obtain ⟨hc, hp⟩ := hothers w' hw
      rw [← hphase] at hc hp
      exact ⟨tally_place_same hcall c w' b hc, tally_place_same hcall c w' b hp⟩
  have hstored' : ∀ slot : Slot, slot.caller.Plain →
      ({ s.place n call phase with redis } : System).stored slot.key =
        s.stored slot.key + if slot = call.slot w then 1 else 0 := by
    intro slot hslot
    unfold System.stored
    by_cases hsame : slot = call.slot w
    · rw [hsame, if_pos rfl]
      change ((redis.get? (call.slot w).key).map Counter.count).getD 0 = _
      rw [show redis.get? (call.slot w).key = some _ from Dict.get?_set_self ..]
      simp only [Option.map_some, Option.getD_some]
      rw [hunexpired]
      rfl
    · have hkey : (call.slot w).key ≠ slot.key :=
        fun hk => hsame (Slot.key_injective hslot hplain hk.symm)
      rw [if_neg hsame]
      change ((redis.get? slot.key).map Counter.count).getD 0 = _
      rw [show redis.get? slot.key = s.redis.get? slot.key from Dict.get?_set_ne _ _ hkey]
      rfl
  exact {
    plain := plain_place h.plain hcall
    recorded := h.recorded
    counted := by
      intro w' c b hc
      rw [hstored' _ hc, h.counted w' c b hc]
      by_cases hat : w' = w ∧ call.caller = c ∧ w.bucket call.now = b
      · obtain ⟨rfl, rfl, rfl⟩ := hat
        rw [if_pos (by rfl)]
        exact hnew.symm
      · rw [if_neg fun hslot => hat ?_, Nat.add_zero]
        · exact (hother w' c b hat).1.symm
        · simp only [Call.slot, Slot.mk.injEq, Kind.requests.injEq] at hslot
          exact ⟨hslot.2.1, hslot.1.symm, hslot.2.2.symm⟩
    passed := by
      intro w' c b
      by_cases hat : w' = w ∧ call.caller = c ∧ w.bucket call.now = b
      · obtain ⟨rfl, rfl, rfl⟩ := hat
        change (s.place n call phase).tally _ _ _ _ = min ((s.place n call phase).tally _ _ _ _) _
        rw [hnew, hnew', hpassed, hpasses]
        have hsame : s.stored (call.slot w').key =
            s.tally call.caller w' (w'.bucket call.now) w'.charged := hstored
        rw [hsame]
        by_cases hle : ((s.tally call.caller w' (w'.bucket call.now) w'.charged + 1 : Nat) : Int) ≤
            limits.requests w'
        · rw [decide_eq_true hle, if_pos rfl]
          omega
        · rw [decide_eq_false hle, if_neg Bool.false_ne_true]
          omega
      · change (s.place n call phase).tally _ _ _ _ = min ((s.place n call phase).tally _ _ _ _) _
        rw [(hother w' c b hat).1, (hother w' c b hat).2]
        exact h.passed w' c b
    unmixed := by
      refine unmixed_place h (fun hlost => ?_) fun hrefused => ?_
      · rcases lt_or_ge (limits.requests w) (s.stored (call.slot w).key + 1 : Nat) with hfull | hfree
        · rw [hverdict, verdict_full hfull] at hlost
          cases w with
          | minute => cases hlost
          | hour =>
            refine horder.2 (.inr ?_)
            unfold System.full
            rw [hunexpired]
            omega
        · rw [hverdict, verdict_free hfree] at hlost
          cases w <;> cases hlost
      · rcases lt_or_ge (limits.requests w) (s.stored (call.slot w).key + 1 : Nat) with hfull | hfree
        · rw [hverdict, verdict_full hfull] at hrefused
          cases w with
          | minute =>
            refine horder.2 rfl ?_
            unfold System.full
            rw [hunexpired]
            omega
          | hour => cases hrefused
        · rw [hverdict, verdict_free hfree] at hrefused
          cases w <;> cases hrefused }

/-! ### Every step -/

theorem Sound.arrive (h : Sound limits s) {caller : Caller} (hcaller : caller.Plain)
    (operator_state : Option OperatorCircuitState) :
    Sound limits { s with
      calls := s.calls ++ [{ caller, now := s.clock, phase := arrival operator_state }] } := by
  have hphase : ∀ w : Window, w.charged (arrival operator_state) = false ∧
      w.passed (arrival operator_state) = false := by
    intro w
    rcases operator_state with _ | _ | _ <;> cases w <;> exact ⟨rfl, rfl⟩
  have hends : (arrival operator_state).lost = false ∧
      arrival operator_state ≠ Window.minute.refusal := by
    rcases operator_state with _ | _ | _ <;> exact ⟨rfl, by decide⟩
  have htally : ∀ c w b (f : Phase → Bool), f (arrival operator_state) = false →
      ({ s with calls := s.calls ++ [{ caller, now := s.clock, phase := arrival operator_state }] } :
        System).tally c w b f = s.tally c w b f := by
    intro c w b f hf
    unfold System.tally
    rw [List.countP_append]
    simp [hf]
  exact {
    plain := List.forall_mem_append.mpr ⟨h.plain, List.forall_mem_singleton.mpr hcaller⟩
    recorded := h.recorded
    counted := by
      intro w c b hc
      rw [htally c w b _ (hphase w).1]
      exact h.counted w c b hc
    passed := by
      intro w c b
      rw [htally c w b _ (hphase w).1, htally c w b _ (hphase w).2]
      exact h.passed w c b
    unmixed := by
      intro a ha other hother hsame hlost
      rcases List.mem_append.mp ha with ha | ha
      · rcases List.mem_append.mp hother with hother | hother
        · exact h.unmixed a ha other hother hsame hlost
        · rw [List.mem_singleton.mp hother]
          exact hends.2
      · rw [List.mem_singleton.mp ha, hends.1] at hlost
        cases hlost }

theorem Sound.record_token_usage (h : Sound limits s) {slot : Slot} (hslot : slot.caller.Plain)
    (hkind : slot.kind = .tokens) (amount : Nat) :
    Sound limits { s with
      redis := s.redis.incrby s.clock slot.key amount 60
      recorded := slot :: s.recorded } where
  plain := h.plain
  recorded := List.forall_mem_cons.mpr ⟨hslot, h.recorded⟩
  counted w c b hc := by
    have hkey : slot.key ≠ ({ caller := c, kind := .requests w, bucket := b } : Slot).key := by
      intro hk
      have hsame := Slot.key_injective hslot hc hk
      rw [hsame] at hkind
      cases hkind
    refine Eq.trans ?_ (h.counted w c b hc)
    unfold System.stored Redis.incrby
    rw [Dict.get?_set_ne _ _ hkey]
  passed := h.passed
  unmixed := h.unmixed

theorem Sound.next {t : System} (h : Sound limits s) {event : Event} (horder : InOrder limits s event)
    (hnext : next limits s event = some t) : Sound limits t := by
  cases event with
  | tick microseconds =>
    cases hnext
    exact {
      plain := h.plain
      recorded := h.recorded
      counted := h.counted
      passed := h.passed
      unmixed := h.unmixed }
  | arrive caller operator_state =>
    cases hnext
    exact h.arrive horder operator_state
  | record_token_usage caller tokens available =>
    simp only [quota.next] at hnext
    split at hnext
    · cases hnext
      exact h
    · cases hnext
      have hplain : ({ caller, kind := .tokens, bucket := Window.minute.bucket s.clock } :
        Slot).caller.Plain := horder
      exact h.record_token_usage hplain rfl _
  | read_tokens n available =>
    simp only [quota.next] at hnext
    split at hnext
    · cases hnext
    rename_i call hcall
    split at hnext
    · cases hnext
    rename_i hphase
    rw [not_not] at hphase
    split at hnext
    · cases hnext
      refine h.place_quiet hcall ?_ ?_ (fun hlost => by cases hlost) (by decide) <;>
        rw [hphase] <;> intro w <;> cases w <;> rfl
    · split at hnext
      · cases hnext
        refine h.place_quiet hcall ?_ ?_ (fun hlost => by cases hlost) (by decide) <;>
          rw [hphase] <;> intro w <;> cases w <;> rfl
      · cases hnext
        refine h.place_quiet hcall ?_ ?_ (fun hlost => by cases hlost) (by decide) <;>
          rw [hphase] <;> intro w <;> cases w <;> rfl
  | count n w available =>
    simp only [quota.next] at hnext
    split at hnext
    · cases hnext
    rename_i call hcall
    have hcounts := horder call hcall
    split at hnext
    · cases hnext
    rename_i hphase
    rw [not_not] at hphase
    split at hnext
    · rename_i hfails
      rw [Bool.not_eq_true'] at hfails
      subst hfails
      cases hnext
      cases w with
      | minute =>
        refine h.place_quiet hcall ?_ ?_ (fun hlost => by cases hlost) (by decide) <;>
          rw [hphase] <;> intro w <;> cases w <;> rfl
      | hour =>
        refine h.place_quiet hcall ?_ ?_ (fun _ => hcounts.2 (.inl rfl)) (by decide) <;>
          rw [hphase] <;> intro w <;> cases w <;> rfl
    · rename_i havailable
      rw [Bool.not_eq_true', Bool.not_eq_false] at havailable
      subst havailable
      cases hnext
      exact h.count hcall hphase hcounts

/-! ## The quota -/

theorem tally_le {s : System} {f g : Phase → Bool} (h : ∀ phase, f phase = true → g phase = true) :
    s.tally c w b f ≤ s.tally c w b g := by
  refine List.countP_mono_left fun call _ hcall => ?_
  rw [Bool.and_eq_true] at hcall ⊢
  exact ⟨hcall.1, h _ hcall.2⟩

theorem tally_add {s : System} {f g k : Phase → Bool}
    (hsplit : ∀ call ∈ s.calls, call.caller = c → w.bucket call.now = b →
      f call.phase = (g call.phase || k call.phase))
    (hapart : ∀ phase, (g phase && k phase) = false) :
    s.tally c w b f = s.tally c w b g + s.tally c w b k := by
  unfold System.tally
  generalize s.calls = calls at hsplit
  induction calls with
  | nil => rfl
  | cons call rest ih =>
    obtain ⟨hcall, hrest⟩ := List.forall_mem_cons.mp hsplit
    rw [List.countP_cons, List.countP_cons, List.countP_cons, ih hrest]
    by_cases hat : call.caller = c ∧ w.bucket call.now = b
    · have hboth := hapart call.phase
      rw [decide_eq_true hat, hcall hat.1 hat.2]
      cases hg : g call.phase <;> cases hk : k call.phase <;> simp [hg, hk] at hboth ⊢ <;> omega
    · simp [decide_eq_false hat]

theorem exists_of_tally {s : System} (h : 0 < s.tally c w b f) :
    ∃ call ∈ s.calls, call.caller = c ∧ w.bucket call.now = b ∧ f call.phase = true := by
  obtain ⟨call, hcall, hp⟩ := List.countP_pos_iff.mp h
  rw [Bool.and_eq_true, decide_eq_true_eq] at hp
  exact ⟨call, hcall, hp.1.1, hp.1.2, hp.2⟩

theorem Sound.quotaExact (h : Sound limits s) : QuotaExact limits s where
  bound w c b := by
    have hle : s.tally c w b (· = .admitted) ≤ s.tally c w b w.passed := by
      refine tally_le fun phase hphase => ?_
      rw [of_decide_eq_true hphase]
      cases w <;> rfl
    have hpassed := h.passed w c b
    omega
  refused w c b hrefused := by
    have hpassed := h.passed w c b
    -- every call that was counted was let pass or refused for the window
    have hsplit : s.tally c w b w.charged =
        s.tally c w b w.passed + s.tally c w b (· = w.refusal) := by
      refine tally_add (fun call _ _ _ => ?_) fun phase => ?_
      · cases w with
        | minute =>
          simp only [Window.charged, Window.passed, Window.refusal]
          exact Bool.or_right_comm _ _ _
        | hour => rfl
      · by_cases hphase : phase = w.refusal
        · rw [hphase]
          cases w <;> rfl
        · rw [decide_eq_false hphase, Bool.and_false]
    obtain ⟨call, hcall, hcaller, hbucket, hphase⟩ := exists_of_tally hrefused
    have hadmitted : s.tally c w b w.passed =
        s.tally c w b (· = .admitted) + s.tally c w b w.underway := by
      refine tally_add (fun other hother hoc hob => ?_) fun phase => ?_
      · cases w with
        | minute =>
          have hlost : other.phase.lost = false := by
            rw [← Bool.not_eq_true]
            intro hlost
            refine h.unmixed other hother call hcall
              ⟨hcaller.trans hoc.symm, hbucket.trans hob.symm⟩ hlost ?_
            exact of_decide_eq_true hphase
          simp only [Window.passed, Window.underway, hlost, Bool.or_false, decide_true, Bool.true_and]
          exact Bool.or_comm _ _
        | hour => simp [Window.passed, Window.underway]
      · cases w with
        | minute =>
          simp only [Window.underway, decide_true, Bool.true_and]
          by_cases hadm : phase = .admitted
          · rw [hadm]
            rfl
          · rw [decide_eq_false hadm, Bool.false_and]
        | hour => simp [Window.underway]
    omega
  apart slot slot' hslot hslot' hkey := by
    have hplain : ∀ {slot : Slot}, s.Uses slot → slot.caller.Plain := by
      rintro slot (hrecorded | ⟨call, hcall, ⟨w, rfl⟩ | rfl⟩)
      · exact h.recorded slot hrecorded
      · exact h.plain call hcall
      · exact h.plain call hcall
    exact Slot.key_injective (hplain hslot) (hplain hslot') hkey

end

/-- No counter and no call yet. -/
def System.start (clock : Instant) : System := { clock }

theorem Sound.start (limits : Limits) (clock : Instant) : Sound limits (.start clock) where
  plain := List.forall_mem_nil _
  recorded := List.forall_mem_nil _
  counted _ _ _ _ := rfl
  passed _ _ _ := (Nat.zero_min _).symm
  unmixed := List.forall_mem_nil _

/-- In every run in order the quota is exact. -/
theorem quota_exact {limits : Limits} {clock : Instant} {events : List Event} {s : System}
    (horder : Meets (next limits) (InOrder limits) (.start clock) events)
    (h : after (next limits) (.start clock) events = some s) : QuotaExact limits s :=
  (invariant_when (I := Sound limits) (fun _ _ _ hsound hevent hnext => hsound.next hevent hnext)
    (Sound.start limits clock) horder h).quotaExact

/-! ## A run in order, and one in which a call pays for no admission -/

def somebody : Caller where
  tenant_id := "t"
  provider := "p"
  model := "m"

def one_and_one : Limits where
  requests_per_minute_limit := 1
  requests_per_hour_limit := 1

def whole_call (n : Nat) : List Event :=
  [.arrive somebody none, .read_tokens n true, .count n .minute true, .count n .hour true]

/-- One call is admitted, and the next one of its minute is refused. -/
def two_calls : List Event :=
  whole_call 0 ++ [.arrive somebody none, .read_tokens 1 true, .count 1 .minute true]

theorem two_calls_exact : ∃ s, after (next one_and_one) (.start 0) two_calls = some s ∧
    QuotaExact one_and_one s :=
  have horder : Meets (next one_and_one) (InOrder one_and_one) (.start 0) two_calls := by
    decide +kernel
  ⟨_, rfl, quota_exact horder rfl⟩

/-- One call is admitted; in the minute after it one is refused for the hour, and the next one for the
minute, in which no call was admitted. -/
def three_calls : List Event :=
  whole_call 0 ++ [.tick 60000000] ++ whole_call 1 ++
    [.arrive somebody none, .read_tokens 2 true, .count 2 .minute true]

theorem refused_without_admissions : ¬ ∀ (limits : Limits) (clock : Instant) (events : List Event)
    (s : System), after (next limits) (.start clock) events = some s → QuotaExact limits s := by
  intro hall
  obtain ⟨s, hs⟩ : ∃ s, after (next one_and_one) (.start 0) three_calls = some s := ⟨_, rfl⟩
  have hexact := (hall one_and_one 0 three_calls s hs).refused .minute somebody 1
  have hcounts : (after (next one_and_one) (.start 0) three_calls).map (fun s =>
      (s.tally somebody .minute 1 (· = Window.minute.refusal),
        s.tally somebody .minute 1 (· = .admitted),
        s.tally somebody .minute 1 Window.minute.underway)) = some (1, 0, 0) := by decide +kernel
  rw [hs, Option.map_some, Option.some.injEq, Prod.mk.injEq, Prod.mk.injEq] at hcounts
  rw [hcounts.1, hcounts.2.1, hcounts.2.2] at hexact
  exact absurd (hexact Nat.one_pos) (by decide)

end operious.agents.quota
