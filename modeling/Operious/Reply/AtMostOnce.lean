-- When a reply is accepted once: the conditions under which no provider call follows an accepted
-- one, and no delivery leaves the state of a sent one.
import Operious.Reply.Deliveries

namespace operious.customer_reply

namespace SendDraft

variable {Uuid Target F : Type}

/-- The delivery that a call may still transmit or mark. -/
def held : Pc Uuid Target → Option (String × Uuid)
  | .transmitting p => some p.key
  | .marking p _ => some p.key
  | _ => none

/-- The call is in flight for the delivery. -/
def InFlight [DecidableEq Uuid] (w : World Uuid Target) (key : String × Uuid) (caller : Nat) : Prop :=
  (w.calls.get? caller).bind held = some key

def Retryable (channel : ReplyChannel F Target) (row : CustomerReplyDeliveryRecord Uuid Target) :
    Prop := row.status = .failed ∧ channel.error_is_retryable row.error_code = true

/-- The mark leaves a row that nobody retries. -/
def Settles (channel : ReplyChannel F Target) : Mark → Prop
  | .sent .. => True
  | .failed error_code _ => channel.error_is_retryable (some error_code) = false

/-- Nothing is lost when the call of `caller` ends here without a mark: it was not accepted, or the
row it leaves behind is not retried. -/
def MayStop [DecidableEq Uuid] (channel : ReplyChannel F Target) (w : World Uuid Target)
    (caller : Nat) : Prop :=
  ∀ p mark, w.calls.get? caller = some (.marking p mark) → p.key ∈ w.accepted →
    ∀ row, w.ledger.get? p.key = some row → ¬ Retryable channel row

/-- What a step must keep to. A failed delivery is retried by one call at a time, an answer of
success is none that the sender takes for a failure to retry, and a call that was accepted on a
retry does not end before its mark. -/
def Careful [DecidableEq Uuid] (channel : ReplyChannel F Target) (w : World Uuid Target) :
    Action Uuid Target F → Prop
  | .send .. => True
  | .reserve caller _ _ => ∀ p row, w.calls.get? caller = some (.reserving p) →
      w.ledger.get? p.key = some row → Retryable channel row →
      p.allow_failed_delivery_retry = true → ∀ other, ¬ InFlight w p.key other
  | .transmit _ reply => reply.accepted = true → Settles channel (channel.outcome reply)
  | .mark caller _ reply => reply.stored = false → MayStop channel w caller
  | .crash caller => MayStop channel w caller

/-- The step makes no provider call for a delivery that was accepted, and no row leaves `sent`. -/
def AtMostOnce [DecidableEq Uuid] (w : World Uuid Target) (a : Action Uuid Target F)
    (u : World Uuid Target) : Prop :=
  (∀ caller reply p, a = .transmit caller reply → w.calls.get? caller = some (.transmitting p) →
    p.key ∉ w.accepted) ∧
  ∀ key row, w.ledger.get? key = some row → row.status = .sent →
    ∃ row', u.ledger.get? key = some row' ∧ row'.status = .sent

/-- What careful steps keep. -/
structure Fence [DecidableEq Uuid] (channel : ReplyChannel F Target) (w : World Uuid Target) : Prop where
  one : ∀ {key c c'}, InFlight w key c → InFlight w key c' → c = c'
  unsent : ∀ {key c}, InFlight w key c → ∃ row, w.ledger.get? key = some row ∧ row.status ≠ .sent
  fresh : ∀ {c p}, w.calls.get? c = some (.transmitting p) → p.key ∉ w.accepted
  settles : ∀ {c p mark}, w.calls.get? c = some (.marking p mark) → p.key ∈ w.accepted →
    Settles channel mark
  settled : ∀ {key}, key ∈ w.accepted → ∃ row, w.ledger.get? key = some row ∧
    (Retryable channel row → ∃ c, InFlight w key c)

variable [DecidableEq Uuid] {channel : ReplyChannel F Target} {w u : World Uuid Target}

theorem Fence.start : Fence channel (World.start : World Uuid Target) where
  one h := by simp [InFlight, World.start] at h
  unsent h := by simp [InFlight, World.start] at h
  fresh h := by simp [World.start] at h
  settles h := by simp [World.start] at h
  settled h := by simp [World.start] at h

omit [DecidableEq Uuid] in
theorem get?_set_calls {calls : Dict Nat (Pc Uuid Target)} {caller c : Nat} {pc pc' : Pc Uuid Target}
    (h : (calls.set caller pc).get? c = some pc') :
    (c = caller ∧ pc' = pc) ∨ (caller ≠ c ∧ calls.get? c = some pc') := Dict.get?_set_cases h

variable {key : String × Uuid} {pc : Pc Uuid Target} {ledger : DeliveryLedger Uuid Target}
  {accepted : List (String × Uuid)}

theorem inFlight_release {caller c : Nat} (hpc : held pc = none) :
    InFlight ⟨ledger, w.calls.set caller pc, accepted⟩ key c ↔ caller ≠ c ∧ InFlight w key c := by
  unfold InFlight
  by_cases hc : caller = c
  · simp [hc, hpc]
  · simp [Dict.get?_set_ne _ _ hc, hc]

theorem inFlight_hold {caller c : Nat} {key k : String × Uuid} (hpc : held pc = some k) :
    InFlight ⟨ledger, w.calls.set caller pc, accepted⟩ key c ↔
      (caller = c ∧ k = key) ∨ (caller ≠ c ∧ InFlight w key c) := by
  unfold InFlight
  by_cases hc : caller = c
  · simp [hc, hpc]
  · simp [Dict.get?_set_ne _ _ hc, hc]

variable {caller : Nat}

theorem Fence.release (hf : Fence channel w) (hpc : held pc = none)
    (hstop : MayStop channel w caller) :
    Fence channel { w with calls := w.calls.set caller pc } where
  one h h' := hf.one ((inFlight_release hpc).mp h).2 ((inFlight_release hpc).mp h').2
  unsent h := hf.unsent ((inFlight_release hpc).mp h).2
  fresh h := by
    rcases get?_set_calls h with ⟨-, rfl⟩ | ⟨-, h⟩
    · cases hpc
    · exact hf.fresh h
  settles h := by
    rcases get?_set_calls h with ⟨-, rfl⟩ | ⟨-, h⟩
    · cases hpc
    · exact hf.settles h
  settled {key} hkey := by
    obtain ⟨row, hrow, hretry⟩ := hf.settled hkey
    refine ⟨row, hrow, fun hretryable => ?_⟩
    obtain ⟨c, hc⟩ := hretry hretryable
    refine ⟨c, (inFlight_release hpc).mpr ⟨?_, hc⟩⟩
    rintro rfl
    -- The call that lets go was the one in flight, so it was marking.
    unfold InFlight at hc
    obtain ⟨pc', hpc', hheld⟩ := Option.bind_eq_some_iff.mp hc
    cases pc' with
    | transmitting p =>
      cases hheld
      exact hf.fresh hpc' hkey
    | marking p mark =>
      cases hheld
      exact hstop p mark hpc' hkey row hrow hretryable
    | _ => cases hheld

variable {row : CustomerReplyDeliveryRecord Uuid Target}

theorem Fence.insert (hf : Fence channel w) (hnew : w.ledger.get? key = none) :
    Fence channel { w with ledger := w.ledger.set key row } where
  one := hf.one
  unsent {k c} h := by
    obtain ⟨old, hold, hstatus⟩ := hf.unsent h
    have hk : key ≠ k := by
      rintro rfl
      simp [hnew] at hold
    exact ⟨old, by rw [Dict.get?_set_ne _ _ hk, hold], hstatus⟩
  fresh := hf.fresh
  settles := hf.settles
  settled {k} hk := by
    obtain ⟨old, hold, hretry⟩ := hf.settled hk
    have hne : key ≠ k := by
      rintro rfl
      simp [hnew] at hold
    exact ⟨old, by rw [Dict.get?_set_ne _ _ hne, hold], hretry⟩

theorem Fence.hold (hf : Fence channel w) {caller : Nat} {p : Prepared Uuid Target}
    {row : CustomerReplyDeliveryRecord Uuid Target} (hrow : w.ledger.get? p.key = some row)
    (hunsent : row.status ≠ .sent) (halone : ∀ c, ¬ InFlight w p.key c)
    (hfresh : p.key ∉ w.accepted) (hfree : (w.calls.get? caller).bind held = none) :
    Fence channel { w with calls := w.calls.set caller (.transmitting p) } := by
  have hkey : held (.transmitting p) = some p.key := rfl
  constructor
  case one =>
    intro key c c' h h'
    rcases (inFlight_hold hkey).mp h with ⟨rfl, rfl⟩ | ⟨-, h⟩ <;>
      rcases (inFlight_hold hkey).mp h' with ⟨rfl, hk⟩ | ⟨-, h'⟩
    · rfl
    · exact absurd h' (halone _)
    · exact absurd (hk ▸ h) (halone _)
    · exact hf.one h h'
  case unsent =>
    intro key c h
    rcases (inFlight_hold hkey).mp h with ⟨-, rfl⟩ | ⟨-, h⟩
    · exact ⟨row, hrow, hunsent⟩
    · exact hf.unsent h
  case fresh =>
    intro c q h
    rcases get?_set_calls h with ⟨-, h⟩ | ⟨-, h⟩
    · cases h
      exact hfresh
    · exact hf.fresh h
  case settles =>
    intro c q mark h
    rcases get?_set_calls h with ⟨-, h⟩ | ⟨-, h⟩
    · cases h
    · exact hf.settles h
  case settled =>
    intro key hk
    obtain ⟨old, hold, hretry⟩ := hf.settled hk
    refine ⟨old, hold, fun hretryable => ?_⟩
    obtain ⟨c, hc⟩ := hretry hretryable
    refine ⟨c, (inFlight_hold hkey).mpr (.inr ⟨?_, hc⟩)⟩
    rintro rfl
    simp [InFlight, hfree] at hc

/-- The provider call of the one call in flight. -/
theorem Fence.transmit (hf : Fence channel w) {p : Prepared Uuid Target} {reply : ProviderReply F}
    (hcall : w.calls.get? caller = some (.transmitting p))
    (hsettles : reply.accepted = true → Settles channel (channel.outcome reply)) :
    Fence channel { w with
      calls := w.calls.set caller (.marking p (channel.outcome reply))
      accepted := if reply.accepted then p.key :: w.accepted else w.accepted } := by
  have hkey : held (.marking p (channel.outcome reply)) = some p.key := rfl
  have hmine : InFlight w p.key caller := by simp [InFlight, hcall, held]
  have hcases : ∀ {key}, key ∈ (if reply.accepted then p.key :: w.accepted else w.accepted) →
      (reply.accepted = true ∧ key = p.key) ∨ key ∈ w.accepted := by
    intro key h
    split at h
    · rename_i haccepted
      exact (List.mem_cons.mp h).imp (⟨haccepted, ·⟩) id
    · exact .inr h
  have hother : ∀ {c pc q}, caller ≠ c → w.calls.get? c = some pc → held pc = some q → q ≠ p.key := by
    rintro c pc q hc hget hheld rfl
    exact hc (hf.one hmine (by simp [InFlight, hget, hheld]))
  constructor
  case one =>
    intro key c c' h h'
    rcases (inFlight_hold hkey).mp h with ⟨rfl, rfl⟩ | ⟨-, h⟩ <;>
      rcases (inFlight_hold hkey).mp h' with ⟨rfl, hk⟩ | ⟨-, h'⟩
    · rfl
    · exact hf.one hmine h'
    · exact hf.one h (hk ▸ hmine)
    · exact hf.one h h'
  case unsent =>
    intro key c h
    rcases (inFlight_hold hkey).mp h with ⟨-, rfl⟩ | ⟨-, h⟩
    · exact hf.unsent hmine
    · exact hf.unsent h
  case fresh =>
    intro c q h hq
    rcases get?_set_calls h with ⟨-, h⟩ | ⟨hc, h⟩
    · cases h
    · rcases hcases hq with ⟨-, hk⟩ | hq
      · exact hother hc h rfl hk
      · exact hf.fresh h hq
  case settles =>
    intro c q mark h hq
    rcases get?_set_calls h with ⟨-, h⟩ | ⟨hc, h⟩
    · cases h
      rcases hcases hq with ⟨haccepted, -⟩ | hq
      · exact hsettles haccepted
      · exact absurd hq (hf.fresh hcall)
    · rcases hcases hq with ⟨-, hk⟩ | hq
      · exact absurd hk (hother hc h rfl)
      · exact hf.settles h hq
  case settled =>
    intro key hk
    by_cases hp : key = p.key
    · subst hp
      obtain ⟨row, hrow, -⟩ := hf.unsent hmine
      exact ⟨row, hrow, fun _ => ⟨caller, (inFlight_hold hkey).mpr (.inl ⟨rfl, rfl⟩)⟩⟩
    · obtain ⟨row, hrow, hretry⟩ := hf.settled ((hcases hk).resolve_left fun h => hp h.2)
      refine ⟨row, hrow, fun hretryable => ?_⟩
      obtain ⟨c, hc⟩ := hretry hretryable
      refine ⟨c, (inFlight_hold hkey).mpr (.inr ⟨?_, hc⟩)⟩
      rintro rfl
      rw [InFlight, hcall] at hc
      exact hp (Option.some.inj hc).symm

theorem Fence.mark (hf : Fence channel w) {caller : Nat} {p : Prepared Uuid Target} {mark : Mark}
    {pc : Pc Uuid Target} {now : Instant} (row : CustomerReplyDeliveryRecord Uuid Target)
    (hcall : w.calls.get? caller = some (.marking p mark)) (hpc : held pc = none) :
    Fence channel { w with
      ledger := w.ledger.set p.key (mark.apply now row)
      calls := w.calls.set caller pc } := by
  have hmine : InFlight w p.key caller := by simp [InFlight, hcall, held]
  have hother : ∀ {key c}, caller ≠ c → InFlight w key c → p.key ≠ key := by
    rintro key c hc h rfl
    exact hc (hf.one hmine h)
  constructor
  case one =>
    intro key c c' h h'
    exact hf.one ((inFlight_release hpc).mp h).2 ((inFlight_release hpc).mp h').2
  case unsent =>
    intro key c h
    obtain ⟨hc, h⟩ := (inFlight_release hpc).mp h
    obtain ⟨old, hold, hstatus⟩ := hf.unsent h
    exact ⟨old, by rw [Dict.get?_set_ne _ _ (hother hc h), hold], hstatus⟩
  case fresh =>
    intro c q h
    rcases get?_set_calls h with ⟨-, rfl⟩ | ⟨-, h⟩
    · cases hpc
    · exact hf.fresh h
  case settles =>
    intro c q m h
    rcases get?_set_calls h with ⟨-, rfl⟩ | ⟨-, h⟩
    · cases hpc
    · exact hf.settles h
  case settled =>
    intro key hk
    by_cases hp : p.key = key
    · subst hp
      refine ⟨mark.apply now row, Dict.get?_set_self _ _ _, ?_⟩
      rintro ⟨hstatus, hretry⟩
      have hsettles := hf.settles hcall hk
      cases mark with
      | sent message_id code => cases hstatus
      | failed error_code code => exact absurd (hsettles.symm.trans hretry) Bool.false_ne_true
    · obtain ⟨old, hold, hretry⟩ := hf.settled hk
      refine ⟨old, by rw [Dict.get?_set_ne _ _ hp, hold], fun hretryable => ?_⟩
      obtain ⟨c, hc⟩ := hretry hretryable
      refine ⟨c, (inFlight_release hpc).mpr ⟨?_, hc⟩⟩
      rintro rfl
      rw [InFlight, hcall] at hc
      exact hp (Option.some.inj hc)

/-! ## The steps -/

variable [Stdlib Uuid]

theorem next_send {prepared : Except SendError (Prepared Uuid Target)}
    (hu : next channel w (.send caller prepared) = some u) :
    w.calls.get? caller = none ∧
      u = { w with calls := w.calls.set caller (afterChecks prepared) } := by
  simp only [next] at hu
  split at hu
  · cases hu
  · rename_i hnew
    exact ⟨by simpa using hnew, (Option.some.inj hu).symm⟩

variable {now : Instant} {reply : Reply}

theorem next_reserve (hu : next channel w (.reserve caller now reply) = some u) :
    ∃ p, w.calls.get? caller = some (.reserving p) ∧
      ((w.ledger.get? p.key = none ∧ u =
          { w with
            ledger := if reply.stored then w.ledger.set p.key (p.record channel now) else w.ledger
            calls := w.calls.set caller
              (reply.pc (afterReserve channel p (p.record channel now) true)) }) ∨
        ∃ row, w.ledger.get? p.key = some row ∧ u =
          { w with calls := w.calls.set caller (reply.pc (afterReserve channel p row false)) }) := by
  cases hcall : w.calls.get? caller with
  | none => simp [next, hcall] at hu
  | some pc =>
    cases pc with
    | reserving p =>
      have hkey : ((p.record channel now).tenant_id, (p.record channel now).delivery_id) = p.key :=
        rfl
      simp only [next, hcall, reserve_delivery, Option.some.injEq, hkey] at hu
      refine ⟨p, rfl, ?_⟩
      cases hrow : w.ledger.get? p.key with
      | none =>
        simp only [hrow] at hu
        exact .inl ⟨rfl, hu.symm⟩
      | some row =>
        simp only [hrow, ite_self] at hu
        exact .inr ⟨row, rfl, hu.symm⟩
    | _ => simp [next, hcall] at hu

theorem next_transmit {reply : ProviderReply F}
    (hu : next channel w (.transmit caller reply) = some u) :
    ∃ p, w.calls.get? caller = some (.transmitting p) ∧ u =
      { w with
        calls := w.calls.set caller (.marking p (channel.outcome reply))
        accepted := if reply.accepted then p.key :: w.accepted else w.accepted } := by
  cases hcall : w.calls.get? caller with
  | none => simp [next, hcall] at hu
  | some pc =>
    cases pc with
    | transmitting p =>
      simp only [next, hcall, Option.some.injEq] at hu
      exact ⟨p, rfl, hu.symm⟩
    | _ => simp [next, hcall] at hu

theorem next_mark (hu : next channel w (.mark caller now reply) = some u) :
    ∃ p mark, w.calls.get? caller = some (.marking p mark) ∧
      ((w.ledger.get? p.key = none ∧ u =
          { w with calls := w.calls.set caller (.done (.error (valueError
            (channel.name ++ " delivery not found")))) }) ∨
        ∃ row, w.ledger.get? p.key = some row ∧ u =
          { w with
            ledger := if reply.stored then w.ledger.set p.key (mark.apply now row) else w.ledger
            calls := w.calls.set caller
              (reply.pc (.done (afterMark channel mark (mark.apply now row)))) }) := by
  cases hcall : w.calls.get? caller with
  | none => simp [next, hcall] at hu
  | some pc =>
    cases pc with
    | marking p mark =>
      refine ⟨p, mark, rfl, ?_⟩
      cases hrow : w.ledger.get? p.key with
      | none =>
        simp only [next, hcall, update_delivery, hrow, Option.map_none, Option.some.injEq] at hu
        exact .inl ⟨rfl, hu.symm⟩
      | some row =>
        simp only [next, hcall, update_delivery, hrow, Option.map_some, Option.some.injEq] at hu
        exact .inr ⟨row, rfl, hu.symm⟩
    | _ => simp [next, hcall] at hu

theorem Fence.next_mark (hf : Fence channel w)
    (hu : next channel w (.mark caller now reply) = some u) :
    ∃ p mark row pc, w.calls.get? caller = some (.marking p mark) ∧ held pc = none ∧
      w.ledger.get? p.key = some row ∧ row.status ≠ .sent ∧ u =
        { w with
          ledger := if reply.stored then w.ledger.set p.key (mark.apply now row) else w.ledger
          calls := w.calls.set caller pc } := by
  obtain ⟨p, mark, hcall, hu⟩ := SendDraft.next_mark hu
  obtain ⟨there, hthere, hunsent⟩ :=
    hf.unsent (show InFlight w p.key caller by simp [InFlight, hcall, held])
  rcases hu with ⟨hnone, -⟩ | ⟨row, hrow, rfl⟩
  · simp [hnone] at hthere
  · cases hrow.symm.trans hthere
    have hpc : ∀ r, held (reply.pc (.done r : Pc Uuid Target)) = none := by
      cases reply <;> exact fun _ => rfl
    exact ⟨p, mark, _, _, hcall, hpc _, hrow, hunsent, rfl⟩

theorem next_crash (hu : next channel w (.crash caller) = some u) :
    u = { w with calls := w.calls.set caller .crashed } := by
  cases hcall : w.calls.get? caller with
  | none => simp [next, hcall] at hu
  | some pc =>
    simp only [next, hcall, Option.some.injEq] at hu
    exact hu.symm

omit [DecidableEq Uuid] [Stdlib Uuid] in
theorem afterReserve_cases (channel : ReplyChannel F Target) (p : Prepared Uuid Target)
    (row : CustomerReplyDeliveryRecord Uuid Target) (created : Bool) :
    held (afterReserve channel p row created) = none ∨
      (afterReserve channel p row created = .transmitting p ∧ (created = true ∨
        Retryable channel row ∧ p.allow_failed_delivery_retry = true)) := by
  unfold afterReserve
  split
  · exact .inl rfl
  · cases created with
    | true => exact .inr ⟨rfl, .inl rfl⟩
    | false =>
      simp only [Bool.false_eq_true, if_false]
      cases hstatus : row.status with
      | failed =>
        simp only
        split
        · rename_i hretry
          rw [Bool.and_eq_true] at hretry
          exact .inr ⟨rfl, .inr ⟨⟨hstatus, hretry.2⟩, hretry.1⟩⟩
        · exact .inl rfl
      | _ => exact .inl rfl

/-- What a reservation comes to: a new row, or a call that goes on from the row that is there. -/
theorem Fence.reserve (hf : Fence channel w)
    (hcareful : Careful channel w (.reserve caller now reply))
    (hu : next channel w (.reserve caller now reply) = some u) : Fence channel u := by
  obtain ⟨p, hcall, hu⟩ := next_reserve hu
  have hfree : (w.calls.get? caller).bind held = none := by simp [hcall, held]
  have hstop : MayStop channel w caller := by
    intro q mark h
    rw [hcall] at h
    cases h
  rcases hu with ⟨hnone, rfl⟩ | ⟨row, hrow, rfl⟩
  · have hinsert :
        Fence channel { w with ledger := w.ledger.set p.key (p.record channel now) } :=
      hf.insert hnone
    have halone : ∀ c, ¬ InFlight w p.key c := by
      intro c h
      obtain ⟨row, hthere, -⟩ := hf.unsent h
      simp [hnone] at hthere
    have hfresh : p.key ∉ w.accepted := by
      intro h
      obtain ⟨row, hthere, -⟩ := hf.settled h
      simp [hnone] at hthere
    have hstop' : MayStop channel { w with ledger := w.ledger.set p.key (p.record channel now) }
        caller := fun q mark h => absurd (hcall.symm.trans h) (by simp)
    cases reply with
    | raises stored exc =>
      cases stored with
      | true => exact hinsert.release rfl hstop'
      | false => exact hf.release rfl hstop
    | returns =>
      rcases afterReserve_cases channel p (p.record channel now) true with hheld | ⟨htransmit, -⟩
      · exact hinsert.release hheld hstop'
      · simp only [Reply.stored, if_true, htransmit]
        exact hinsert.hold (Dict.get?_set_self _ _ _) (by simp [Prepared.record]) halone hfresh hfree
  · cases reply with
    | raises stored exc => exact hf.release rfl hstop
    | returns =>
      rcases afterReserve_cases channel p row false with
        hheld | ⟨htransmit, hcreated | ⟨hretry, hallow⟩⟩
      · exact hf.release hheld hstop
      · cases hcreated
      · have halone := hcareful p row hcall hrow hretry hallow
        have hfresh : p.key ∉ w.accepted := by
          intro h
          obtain ⟨row', hthere, hinflight⟩ := hf.settled h
          cases hrow.symm.trans hthere
          obtain ⟨c, hc⟩ := hinflight hretry
          exact halone c hc
        simp only [Reply.pc, htransmit]
        exact hf.hold hrow (by simp [hretry.1]) halone hfresh hfree

theorem Fence.step {a : Action Uuid Target F} (hf : Fence channel w) (hcareful : Careful channel w a)
    (hu : next channel w a = some u) : Fence channel u := by
  cases a with
  | send caller prepared =>
    obtain ⟨hnew, rfl⟩ := next_send hu
    have hpc : held (afterChecks prepared) = none := by
      cases prepared <;> rfl
    refine hf.release hpc fun p mark h => ?_
    simp [hnew] at h
  | reserve caller now reply => exact hf.reserve hcareful hu
  | transmit caller reply =>
    obtain ⟨p, hcall, rfl⟩ := next_transmit hu
    exact hf.transmit hcall hcareful
  | mark caller now reply =>
    obtain ⟨p, mark, row, pc, hcall, hpc, -, -, rfl⟩ := hf.next_mark hu
    cases hstored : reply.stored with
    | true => exact hf.mark row hcall hpc
    | false => exact hf.release hpc (hcareful hstored)
  | crash caller =>
    obtain rfl := next_crash hu
    exact hf.release rfl hcareful

theorem Fence.stays_sent {a : Action Uuid Target F} (hf : Fence channel w)
    (hu : next channel w a = some u) (hrow : w.ledger.get? key = some row)
    (hsent : row.status = .sent) : ∃ row', u.ledger.get? key = some row' ∧ row'.status = .sent := by
  suffices h : u.ledger.get? key = w.ledger.get? key from ⟨row, h.trans hrow, hsent⟩
  cases a with
  | send caller prepared =>
    obtain ⟨-, rfl⟩ := next_send hu
    rfl
  | reserve caller now reply =>
    obtain ⟨p, -, ⟨hnone, rfl⟩ | ⟨row', -, rfl⟩⟩ := next_reserve hu
    · simp only
      split
      · refine Dict.get?_set_ne _ _ ?_
        rintro rfl
        simp [hnone] at hrow
      · rfl
    · rfl
  | transmit caller reply =>
    obtain ⟨p, -, rfl⟩ := next_transmit hu
    rfl
  | mark caller now reply =>
    obtain ⟨p, mark, old, pc, -, -, hold, hunsent, rfl⟩ := hf.next_mark hu
    simp only
    split
    · refine Dict.get?_set_ne _ _ ?_
      rintro rfl
      cases hold.symm.trans hrow
      exact hunsent hsent
    · rfl
  | crash caller =>
    obtain rfl := next_crash hu
    rfl

/-- In every interleaving of careful steps a reply is accepted at most once, and a delivery that was
sent stays sent. -/
theorem accepted_at_most_once {as : List (Action Uuid Target F)}
    (hcareful : runs.Meets (next channel) (Careful channel) World.start as) :
    runs.Along (next channel) AtMostOnce World.start as := by
  refine runs.along_when (I := Fence channel) (fun w a u hf hc hu => ⟨hf.step hc hu, ?_, ?_⟩)
    Fence.start hcareful
  · rintro caller reply p rfl hcall
    exact hf.fresh hcall
  · intro key row hrow hsent
    exact hf.stays_sent hu hrow hsent

/-! ## Runs of one reply -/

/-- What the checks of `replySend` come to. -/
def preparedReply : Prepared String EmailTarget where
  delivery_id := "t|t~bp|d"
  tenant_id := "t"
  draft_id := "t|p"
  proposal_id := "p"
  governance_decision_id := "d"
  target :=
    { source_email_address := "help@shop.example", recipient_email_address := "ana@example.com"
      subject := "Re: Support request", in_reply_to_message_id := none, references_header := none }
  draft_body_sha256 := "4f78201bb1acd1680fcaa7f20ed368a5b27517227e4d0e63fcdf8e66357d2107"
  allow_failed_delivery_retry := true

def attempt (caller : Nat) (reply : ProviderReply Int) : List (Action String EmailTarget Int) :=
  [.send caller (replySend.prepare (storesOf readyDraft eligibleProposal allowDecision)),
   .reserve caller 0 .returns, .transmit caller reply]

def acceptedReply : ProviderReply Int := .answered 200 (.ok (.dict [("MessageId", .str "m-1")]))

/-- An answer of success whose payload has no id. -/
def unreadReply : ProviderReply Int := .answered 200 (.ok (.dict []))

/-- Two callers, one after the other: the second finds the delivery sent. -/
theorem accepted_reply_runs :
    runs.Along (next email) AtMostOnce World.start
      (attempt 0 acceptedReply ++ [.mark 0 1 .returns] ++ attempt 1 acceptedReply) := by
  refine accepted_at_most_once fun t ht => ?_
  cases ht
  refine ⟨trivial, fun t ht => ?_⟩
  cases ht
  refine ⟨?_, fun t ht => ?_⟩
  · intro p row hcall hrow
    cases hcall
    cases hrow
  cases ht
  refine ⟨fun _ => trivial, fun t ht => ?_⟩
  cases ht
  refine ⟨fun h => absurd h (by decide), fun t ht => ?_⟩
  cases ht
  refine ⟨trivial, fun t ht => ?_⟩
  cases ht
  refine ⟨?_, fun t ht => ?_⟩
  · rintro p row hcall hrow ⟨hfailed, -⟩
    cases hcall
    cases hrow
    cases hfailed
  cases ht

/-- The provider accepts the reply and its payload has no id: the delivery counts as failed with the
status 502, and the next caller sends the reply again. -/
theorem unread_acceptance_is_sent_again :
    ¬ runs.Along (next email) AtMostOnce World.start
      (attempt 0 unreadReply ++ [.mark 0 1 .returns] ++ attempt 1 acceptedReply) := by
  intro h
  have hsplit : attempt 0 unreadReply ++ [.mark 0 1 .returns] ++ attempt 1 acceptedReply =
      (attempt 0 unreadReply ++ [.mark 0 1 .returns] ++ (attempt 1 acceptedReply).take 2) ++
        [.transmit 1 acceptedReply] := rfl
  rw [hsplit] at h
  exact (h.last rfl rfl).1 1 acceptedReply preparedReply rfl rfl (by decide)

end SendDraft

end operious.customer_reply
