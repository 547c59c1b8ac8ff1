-- Deliveries side by side over one registry and one store. A key has one first caller, and what is stored
-- under it is what every later save of the key returns; a save that raises leaves the key registered.
import Operious.Ingress.Ingest
import Operious.Ingress.StoreParity

namespace operious.boundary.ingests

open awaits
open operious.governance (PyException)
open utf8 (Text)

/-! ## The two ids of a delivery -/

section

variable {Uuid : Type} [Stdlib Uuid] {d d' : Delivery Uuid} {n : BoundaryNormalizationResult}

def key (d : Delivery Uuid) : Option Uuid := d.normalization.bind fun n => d.replay_key n

def event (d : Delivery Uuid) : Option Uuid :=
  d.normalization.bind fun n => (d.event_id n).toOption.join

omit [Stdlib Uuid] in
theorem toOption_eq_some {x : Except PyException Uuid} {u : Uuid} :
    x.toOption = some u ↔ x = .ok u := by
  cases x <;> simp [Except.toOption]

theorem uuid5_eq_ok {name_space id : Uuid} {name : Text} :
    boundary.uuid5 name_space name = .ok id ↔
      ∃ cs, name.mapM utf8.toChar? = some cs ∧ id = Stdlib.uuid5 name_space (String.ofList cs) := by
  unfold boundary.uuid5
  cases name.mapM utf8.toChar? with
  | none => simp
  | some cs => simp [eq_comm]

/-- The characters of the seed that both ids are derived from. -/
def Named (d : Delivery Uuid) (cs : List Char) : Prop :=
  ∃ n id, d.normalization = some n ∧ Delivery.message_id n = some id ∧
    (d.seed id).mapM utf8.toChar? = some cs

theorem key_eq_some {k : Uuid} : key d = some k ↔ ∃ cs, Named d cs ∧
    k = Stdlib.uuid5 (Stdlib.uuid "b0c1d2e3-0004-4004-8004-000000000004") (String.ofList cs) := by
  unfold key Delivery.replay_key Delivery.derive_replay_key
  constructor
  · intro h
    obtain ⟨n, hn, h⟩ := Option.bind_eq_some_iff.mp h
    obtain ⟨id, hid, h⟩ := Option.bind_eq_some_iff.mp h
    obtain ⟨cs, hcs, hk⟩ := uuid5_eq_ok.mp (toOption_eq_some.mp h)
    exact ⟨cs, ⟨n, id, hn, hid, hcs⟩, hk⟩
  · rintro ⟨cs, ⟨n, id, hn, hid, hcs⟩, hk⟩
    refine Option.bind_eq_some_iff.mpr ⟨n, hn, Option.bind_eq_some_iff.mpr ⟨id, hid, ?_⟩⟩
    exact toOption_eq_some.mpr (uuid5_eq_ok.mpr ⟨cs, hcs, hk⟩)

theorem event_eq_some {e : Uuid} : event d = some e ↔ ∃ cs, Named d cs ∧
    e = Stdlib.uuid5 (Stdlib.uuid "b0c1d2e3-0001-4001-8001-000000000001") (String.ofList cs) := by
  unfold event Delivery.event_id Delivery.derive_event_id
  constructor
  · intro h
    obtain ⟨n, hn, h⟩ := Option.bind_eq_some_iff.mp h
    cases hid : Delivery.message_id n with
    | none => simp [hid, Except.toOption] at h
    | some id =>
      rw [hid] at h
      cases hu : boundary.uuid5 (Stdlib.uuid "b0c1d2e3-0001-4001-8001-000000000001" : Uuid)
          (d.seed id) with
      | error exc => simp [hu, Except.map, Except.toOption] at h
      | ok u =>
        simp only [hu, Except.map, Except.toOption, Option.join_some, Option.some.injEq] at h
        obtain ⟨cs, hcs, hu⟩ := uuid5_eq_ok.mp hu
        exact ⟨cs, ⟨n, id, hn, hid, hcs⟩, h ▸ hu⟩
  · rintro ⟨cs, ⟨n, id, hn, hid, hcs⟩, he⟩
    refine Option.bind_eq_some_iff.mpr ⟨n, hn, ?_⟩
    rw [hid]
    simp only [uuid5_eq_ok.mpr ⟨cs, hcs, he⟩, Except.map, Except.toOption, Option.join_some]

theorem event_of_key [LawfulStdlib Uuid] {k : Uuid} (h : key d = some k) (h' : key d' = some k) :
    event d = event d' := by
  obtain ⟨cs, hcs, hk⟩ := key_eq_some.mp h
  obtain ⟨cs', hcs', hk'⟩ := key_eq_some.mp h'
  have hsame := LawfulStdlib.uuid5_inj _ (hk.symm.trans hk')
  rw [event_eq_some.mpr ⟨cs, hcs, rfl⟩, event_eq_some.mpr ⟨cs', hcs', rfl⟩, hsame]

theorem key_of_event [LawfulStdlib Uuid] {e : Uuid} (h : event d = some e) (h' : event d' = some e) :
    key d = key d' := by
  obtain ⟨cs, hcs, he⟩ := event_eq_some.mp h
  obtain ⟨cs', hcs', he'⟩ := event_eq_some.mp h'
  have hsame := LawfulStdlib.uuid5_inj _ (he.symm.trans he')
  rw [key_eq_some.mpr ⟨cs, hcs, rfl⟩, key_eq_some.mpr ⟨cs', hcs', rfl⟩, hsame]

theorem key_eq_none_iff : key d = none ↔ event d = none := by
  cases hk : key d with
  | some k =>
    obtain ⟨cs, hcs, -⟩ := key_eq_some.mp hk
    rw [event_eq_some.mpr ⟨cs, hcs, rfl⟩]
    simp
  | none =>
    cases he : event d with
    | none => simp
    | some u =>
      obtain ⟨cs, hcs, -⟩ := event_eq_some.mp he
      rw [key_eq_some.mpr ⟨cs, hcs, rfl⟩] at hk
      cases hk

theorem event_of_key_eq [LawfulStdlib Uuid] (h : key d = key d') : event d = event d' := by
  cases hk : key d with
  | some k => exact event_of_key hk (h.symm.trans hk)
  | none => rw [key_eq_none_iff.mp hk, key_eq_none_iff.mp (h.symm.trans hk)]

theorem ids_of_event_id {e : Option Uuid} (hn : d.normalization = some n) (he : d.event_id n = .ok e) :
    event d = e ∧ (d.replay_key n = none ↔ e = none) := by
  have hevent : event d = e := by
    unfold event
    rw [hn, Option.bind_some, he]
    rfl
  have hkey : key d = d.replay_key n := by
    unfold key
    rw [hn, Option.bind_some]
  rw [← hkey, ← hevent]
  exact ⟨rfl, key_eq_none_iff⟩

/-- The texts of the delivery that are hashed can be encoded. -/
def Encodes (d : Delivery Uuid) : Prop :=
  ∀ n, d.normalization = some n →
    utf8.Encodable (blob (canonicalize_payload n.canonical_payload)) ∧
      ∀ id, Delivery.message_id n = some id → utf8.Encodable (d.seed id)

omit [Stdlib Uuid] in
theorem Encodes.fingerprint [Sha256Hex] (h : Encodes d) (hn : d.normalization = some n) :
    ∃ fingerprint, content_fingerprint n.canonical_payload = .ok fingerprint := by
  obtain ⟨bytes, hbytes, -⟩ := utf8.decode_encode (h n hn).1
  unfold content_fingerprint
  rw [hbytes]
  exact ⟨_, rfl⟩

theorem Encodes.event_id (h : Encodes d) (hn : d.normalization = some n) :
    ∃ e, d.event_id n = .ok e := by
  unfold Delivery.event_id Delivery.derive_event_id
  cases hid : Delivery.message_id n with
  | none => exact ⟨none, rfl⟩
  | some id =>
    obtain ⟨cs, hcs, -⟩ := utf8.chars_of_encodable ((h n hn).2 id hid)
    simp only [uuid5_eq_ok.mpr ⟨cs, hcs, rfl⟩]
    exact ⟨_, rfl⟩

end

/-! ## What the calls agree on -/

/-- What only the proof keeps: who registered a replay key, and whose record is stored under an ingress
id. -/
structure Ghost (ι Uuid : Type) where
  owner : Uuid → Option ι := fun _ => none
  author : Uuid → Option ι := fun _ => none

abbrev State (ι Uuid : Type) := World Uuid × Ghost ι Uuid

section

variable {ι Uuid : Type} [DecidableEq Uuid] [Stdlib Uuid]

structure IsOf (d : Delivery Uuid) (r : BoundaryIngressRecord Uuid) : Prop where
  ingress_id : r.ingress_id = d.ingress_id
  replay_key : r.replay_key = key d
  event_id : r.event_id = event d
  ok : key d ≠ none → r.normalization_status = .ok

/-- The key is registered, and what `m` made of it is new just if `m` registered it. -/
def Registers (m : ι) (k : Uuid) (disposition : BoundaryReplayDisposition) (x : State ι Uuid) : Prop :=
  (∃ reg, x.1.registry.get? k = some reg) ∧ (disposition = .new ↔ x.2.owner k = some m)

variable (deliveries : ι → Delivery Uuid)

structure Inv (x : State ι Uuid) : Prop where
  registered : ∀ k reg, x.1.registry.get? k = some reg → ∃ m, x.2.owner k = some m ∧
    key (deliveries m) = some k ∧ event (deliveries m) = some reg.event_id
  owned : ∀ k m, x.2.owner k = some m → ∃ reg, x.1.registry.get? k = some reg
  indexed : Indexed x.1.store
  authored : ∀ id r, x.1.store.ingress.get? id = some r → ∃ m, x.2.author id = some m ∧
    IsOf (deliveries m) r ∧ ∀ k, r.replay_key = some k → Registers m k r.replay_disposition x

/-- Registered keys keep their event and their owner, and stored records stay. -/
structure Moves (x y : State ι Uuid) : Prop where
  registry : ∀ k reg, x.1.registry.get? k = some reg →
    ∃ reg', y.1.registry.get? k = some reg' ∧ reg'.event_id = reg.event_id
  store : ∀ id r, x.1.store.ingress.get? id = some r → y.1.store.ingress.get? id = some r
  owner : ∀ k m, x.2.owner k = some m → y.2.owner k = some m

/-- Nobody enters anything in the name of `i`. -/
structure Leaves (i : ι) (x y : State ι Uuid) : Prop where
  owner : ∀ k, y.2.owner k = some i → x.2.owner k = some i
  author : ∀ id, y.2.author id = some i → x.2.author id = some i

def ingestProtocol : Protocol ι (State ι Uuid) where
  inv := Inv deliveries
  moves := Moves
  keeps := Leaves
  fresh i x := (∀ k, x.2.owner k ≠ some i) ∧ ∀ id, x.2.author id ≠ some i
  moves_refl _ := ⟨fun _ reg h => ⟨reg, h, rfl⟩, fun _ _ h => h, fun _ _ h => h⟩
  moves_trans hxy hyz :=
    { registry := by
        intro k reg h
        obtain ⟨reg', h', heq⟩ := hxy.registry k reg h
        obtain ⟨reg'', h'', heq'⟩ := hyz.registry k reg' h'
        exact ⟨reg'', h'', heq'.trans heq⟩
      store := fun id r h => hyz.store id r (hxy.store id r h)
      owner := fun k m h => hyz.owner k m (hxy.owner k m h) }
  keeps_refl _ _ := ⟨fun _ h => h, fun _ h => h⟩
  keeps_trans hxy hyz :=
    ⟨fun k h => hxy.owner k (hyz.owner k h), fun id h => hxy.author id (hyz.author id h)⟩
  fresh_keeps hfresh hkeeps :=
    ⟨fun k h => hfresh.1 k (hkeeps.owner k h), fun id h => hfresh.2 id (hkeeps.author id h)⟩

variable {deliveries} {i : ι} {x y z : State ι Uuid}

variable {disposition : BoundaryReplayDisposition}

omit [Stdlib Uuid] in
theorem Registers.of_rely {m : ι} {k : Uuid} (h : Registers m k disposition x) (hmoves : Moves x y)
    (hleaves : ∀ k, y.2.owner k = some m → x.2.owner k = some m) : Registers m k disposition y := by
  obtain ⟨⟨reg, hreg⟩, hnew⟩ := h
  obtain ⟨reg', hreg', -⟩ := hmoves.registry k reg hreg
  exact ⟨⟨reg', hreg'⟩, hnew.trans ⟨hmoves.owner k m, hleaves k⟩⟩

/-! ### What one call of the registry or the store does -/

variable {reg : BoundaryReplayRecord Uuid}

/-- A step that enters a key for `i`. -/
theorem allows_register (hinv : Inv deliveries x) {k e : Uuid} (hkey : key (deliveries i) = some k)
    (hevent : event (deliveries i) = some e) (hreg : reg.event_id = e)
    (hfree : x.1.registry.get? k = none) :
    (ingestProtocol deliveries).Allows i x
      ({ x.1 with registry := x.1.registry.set k reg },
        { x.2 with owner := Function.update x.2.owner k (some i) }) := by
  have hother : ∀ k' reg', x.1.registry.get? k' = some reg' → k ≠ k' := by
    rintro k' reg' h rfl
    rw [hfree] at h
    cases h
  have hunowned : ∀ k' m, x.2.owner k' = some m → k' ≠ k := by
    intro k' m h hk
    obtain ⟨reg', hreg'⟩ := hinv.owned k' m h
    exact hother k' reg' hreg' hk.symm
  refine ⟨⟨?_, ?_, hinv.indexed, ?_⟩, ⟨?_, fun _ _ h => h, ?_⟩, fun j hj => ⟨?_, fun _ h => h⟩⟩
  · intro k' reg' h
    rcases Dict.get?_set_cases h with ⟨rfl, rfl⟩ | ⟨hk', hold⟩
    · exact ⟨i, Function.update_self .., hkey, by rw [hevent, hreg]⟩
    · obtain ⟨m, hm, hids⟩ := hinv.registered k' reg' hold
      exact ⟨m, (Function.update_of_ne (hunowned k' m hm) ..).trans hm, hids⟩
  · intro k' m h
    rcases of_update_eq_some h with ⟨rfl, -⟩ | ⟨hk', h⟩
    · exact ⟨reg, Dict.get?_set_self ..⟩
    · obtain ⟨reg', hreg'⟩ := hinv.owned k' m h
      exact ⟨reg', (Dict.get?_set_ne _ _ (Ne.symm hk')).trans hreg'⟩
  · intro id r hr
    obtain ⟨m, hm, hof, hregisters⟩ := hinv.authored id r hr
    refine ⟨m, hm, hof, fun k' hk' => ?_⟩
    obtain ⟨⟨reg', hreg'⟩, hnew⟩ := hregisters k' hk'
    have hne := hother k' reg' hreg'
    refine ⟨⟨reg', (Dict.get?_set_ne _ _ hne).trans hreg'⟩, ?_⟩
    simp only [Function.update_of_ne (Ne.symm hne), hnew]
  · intro k' reg' h
    exact ⟨reg', (Dict.get?_set_ne _ _ (hother k' reg' h)).trans h, rfl⟩
  · intro k' m h
    exact (Function.update_of_ne (hunowned k' m h) ..).trans h
  · intro k' h
    rcases of_update_eq_some h with ⟨-, hij⟩ | ⟨-, h⟩
    · exact absurd hij hj
    · exact h

theorem allows_observe (hinv : Inv deliveries x) {k : Uuid}
    {reg reg' : BoundaryReplayRecord Uuid} (hreg : x.1.registry.get? k = some reg)
    (hevent : reg'.event_id = reg.event_id) :
    (ingestProtocol deliveries).Allows i x ({ x.1 with registry := x.1.registry.set k reg' }, x.2) := by
  have hstays : ∀ k' old, x.1.registry.get? k' = some old →
      ∃ new, (x.1.registry.set k reg').get? k' = some new ∧ new.event_id = old.event_id := by
    intro k' old h
    by_cases hk : k = k'
    · subst hk
      rw [hreg] at h
      cases h
      exact ⟨reg', Dict.get?_set_self .., hevent⟩
    · exact ⟨old, (Dict.get?_set_ne _ _ hk).trans h, rfl⟩
  refine ⟨⟨?_, ?_, hinv.indexed, ?_⟩, ⟨hstays, fun _ _ h => h, fun _ _ h => h⟩,
    fun _ _ => ⟨fun _ h => h, fun _ h => h⟩⟩
  · intro k' new h
    rcases Dict.get?_set_cases h with ⟨rfl, rfl⟩ | ⟨-, hold⟩
    · obtain ⟨m, hm, hk, he⟩ := hinv.registered _ reg hreg
      exact ⟨m, hm, hk, by rw [he, hevent]⟩
    · exact hinv.registered k' new hold
  · intro k' m h
    obtain ⟨old, hold⟩ := hinv.owned k' m h
    obtain ⟨new, hnew, -⟩ := hstays k' old hold
    exact ⟨new, hnew⟩
  · intro id r hr
    obtain ⟨m, hm, hof, hregisters⟩ := hinv.authored id r hr
    refine ⟨m, hm, hof, fun k' hk' => ?_⟩
    obtain ⟨⟨old, hold⟩, hdisposition⟩ := hregisters k' hk'
    obtain ⟨new, hnew, -⟩ := hstays k' old hold
    exact ⟨⟨new, hnew⟩, hdisposition⟩

variable {record existing : BoundaryIngressRecord Uuid}

theorem of_resolve {s : InMemoryBoundaryPersistence Uuid} (h : Indexed s)
    (hfound : s.resolve_duplicate_ingress record = some existing) :
    s.ingress.get? existing.ingress_id = some existing ∧
      (existing.ingress_id = record.ingress_id ∨
        (∃ k, existing.replay_key = some k ∧ record.replay_key = some k) ∨
          ∃ e, existing.event_id = some e ∧ record.event_id = some e) := by
  unfold InMemoryBoundaryPersistence.resolve_duplicate_ingress at hfound
  rw [Option.or_eq_some_iff] at hfound
  rcases hfound with hid | ⟨-, hfound⟩
  · have hsame := h.ingress_id _ _ hid
    exact ⟨hsame ▸ hid, .inl hsame⟩
  rw [Option.or_eq_some_iff] at hfound
  rcases hfound with hkey | ⟨-, hevent⟩
  · obtain ⟨id, hfind, hget⟩ := Option.bind_eq_some_iff.mp hkey
    obtain ⟨k, hk, hfind⟩ := Option.bind_eq_some_iff.mp hfind
    obtain ⟨r, hr, hrk⟩ := (h.replay_key k id).mp hfind
    rw [hget] at hr
    cases hr
    exact ⟨h.ingress_id _ _ hget ▸ hget, .inr (.inl ⟨k, hrk, hk⟩)⟩
  · obtain ⟨id, hfind, hget⟩ := Option.bind_eq_some_iff.mp hevent
    obtain ⟨e, he, hfind⟩ := Option.bind_eq_some_iff.mp hfind
    obtain ⟨r, hr, hre⟩ := (h.event_id e id).mp hfind
    rw [hget] at hr
    cases hr
    exact ⟨h.ingress_id _ _ hget ▸ hget, .inr (.inr ⟨e, hre, he⟩)⟩

/-- A step that stores a record in the name of `i`. -/
theorem allows_store [LawfulStdlib Uuid] (hinv : Inv deliveries x)
    {record : BoundaryIngressRecord Uuid} (hof : IsOf (deliveries i) record)
    (hregisters : ∀ k, record.replay_key = some k → Registers i k record.replay_disposition x)
    (hnone : x.1.store.resolve_duplicate_ingress record = none) :
    (ingestProtocol deliveries).Allows i x
        ({ x.1 with store :=
            (x.1.store.index record).create_ingress_dispatch_outbox record none },
          { x.2 with author := Function.update x.2.author record.ingress_id (some i) }) ∧
      ((x.1.store.index record).create_ingress_dispatch_outbox record none).ingress.get?
        record.ingress_id = some record := by
  have hfresh := firstStored_eq_none.mp ((hinv.indexed.resolve record).symm.trans hnone)
  obtain ⟨hindexed, hingress, -⟩ := hinv.indexed.store hfresh
  obtain ⟨hfree, -⟩ := hinv.indexed.free hfresh
  have hother : ∀ id r, x.1.store.ingress.get? id = some r → record.ingress_id ≠ id := by
    rintro id r hr rfl
    rw [hfree] at hr
    cases hr
  refine ⟨⟨⟨hinv.registered, hinv.owned, hindexed, ?_⟩, ⟨?_, ?_, fun _ _ h => h⟩,
    fun j hj => ⟨fun _ h => h, ?_⟩⟩, ?_⟩
  · intro id r hr
    rw [hingress] at hr
    rcases Dict.get?_set_cases hr with ⟨rfl, rfl⟩ | ⟨-, hold⟩
    · exact ⟨i, Function.update_self .., hof, hregisters⟩
    · obtain ⟨m, hm, hold', hids⟩ := hinv.authored id r hold
      exact ⟨m, (Function.update_of_ne (Ne.symm (hother id r hold)) ..).trans hm, hold', hids⟩
  · exact fun k reg h => ⟨reg, h, rfl⟩
  · intro id r hr
    rw [hingress]
    exact (Dict.get?_set_ne _ _ (hother id r hr)).trans hr
  · intro id h
    rcases of_update_eq_some h with ⟨-, hij⟩ | ⟨-, h⟩
    · exact absurd hij hj
    · exact h
  · rw [hingress]
    exact Dict.get?_set_self ..

/-! ### What a call returns -/

variable (deliveries) in
/-- What holds once the call `i` has returned an envelope: what was saved without error is stored, and
what could not be saved is the delivery's own. -/
structure Returned (i : ι) (envelope : BoundaryIngressEnvelope Uuid) (x : State ι Uuid) : Prop where
  failed : envelope.result = none → envelope.error ≠ none
  stored : ∀ r, envelope.result = some r → envelope.error = none →
    x.1.store.ingress.get? r.ingress_id = some r ∧ r.replay_key = key (deliveries i) ∧
      r.event_id = event (deliveries i)
  kept : ∀ r, envelope.result = some r → envelope.error ≠ none → IsOf (deliveries i) r ∧
    (∀ k, r.replay_key = some k → Registers i k r.replay_disposition x) ∧
      ∀ id, x.2.author id ≠ some i

variable (deliveries) in
/-- What a call ends with. It raises on nothing that can be encoded. -/
def Post (i : ι) : Except PyException (BoundaryIngressEnvelope Uuid) → State ι Uuid → Prop
  | .error _, _ => ¬ Encodes (deliveries i)
  | .ok envelope, x => Returned deliveries i envelope x

variable (deliveries) in
/-- The lineage is what the registry says of the delivery, and nothing of it is stored. -/
structure Ready (i : ι) (lineage : Lineage Uuid) (x : State ι Uuid) : Prop where
  event_id : lineage.event_id = event (deliveries i)
  registers : ∀ k, key (deliveries i) = some k → Registers i k lineage.disposition x
  unstored : ∀ id, x.2.author id ≠ some i

variable {lineage : Lineage Uuid}

theorem Ready.of_rely (h : Ready deliveries i lineage x)
    (hxy : (ingestProtocol deliveries).Rely i x y) : Ready deliveries i lineage y :=
  ⟨h.event_id, fun k hk => (h.registers k hk).of_rely hxy.moves hxy.keeps.owner,
    fun id hid => h.unstored id (hxy.keeps.author id hid)⟩

def OneKey (deliveries : ι → Delivery Uuid) : Prop :=
  ∀ i j, (deliveries i).ingress_id = (deliveries j).ingress_id →
    key (deliveries i) = key (deliveries j)

omit [DecidableEq Uuid] in
theorem isOf_candidate {n : BoundaryNormalizationResult}
    (hn : (deliveries i).normalization = some n) (h : lineage.event_id = event (deliveries i)) :
    IsOf (deliveries i) ((deliveries i).candidate n lineage) := by
  have hkey : key (deliveries i) = (deliveries i).replay_key n := by
    unfold key
    rw [hn, Option.bind_some]
  refine ⟨rfl, hkey.symm, h, fun hsome => ?_⟩
  change n.status = .ok
  by_contra hbad
  refine hsome (hkey.trans ?_)
  unfold Delivery.replay_key Delivery.message_id
  rw [if_neg hbad, Option.bind_none]

theorem ids_of_resolve [LawfulStdlib Uuid] (hids : OneKey deliveries) (hinv : Inv deliveries x)
    (hof : IsOf (deliveries i) record)
    (hfound : x.1.store.resolve_duplicate_ingress record = some existing) :
    x.1.store.ingress.get? existing.ingress_id = some existing ∧
      existing.replay_key = key (deliveries i) ∧ existing.event_id = event (deliveries i) := by
  obtain ⟨hget, hway⟩ := of_resolve hinv.indexed hfound
  obtain ⟨m, -, hm, -⟩ := hinv.authored _ _ hget
  have hkey : key (deliveries m) = key (deliveries i) := by
    rcases hway with hid | ⟨k, hk, hk'⟩ | ⟨e, he, he'⟩
    · exact hids m i (hm.ingress_id.symm.trans (hid.trans hof.ingress_id))
    · rw [← hm.replay_key, ← hof.replay_key, hk, hk']
    · exact key_of_event (hm.event_id.symm.trans he) (hof.event_id.symm.trans he')
  exact ⟨hget, hm.replay_key.trans hkey, hm.event_id.trans (event_of_key_eq hkey)⟩

theorem sat_persist [LawfulStdlib Uuid] (hids : OneKey deliveries) {n : BoundaryNormalizationResult}
    (hn : (deliveries i).normalization = some n) (h : Ready deliveries i lineage x) :
    Sat (ingestProtocol deliveries) exec i (persist ((deliveries i).candidate n lineage)).run
      (Post deliveries i) x := by
  have hof : IsOf (deliveries i) ((deliveries i).candidate n lineage) := isOf_candidate hn h.event_id
  refine Sat.raising_call fun y hy r w hr => ?_
  have hready := h.of_rely hy
  have hregisters : ∀ k, ((deliveries i).candidate n lineage).replay_key = some k →
      Registers i k ((deliveries i).candidate n lineage).replay_disposition y :=
    fun k hk => hready.registers k (hof.replay_key.symm.trans hk)
  rcases hr with hsaved | ⟨⟨exc, rfl⟩, rfl⟩
  · cases hfound : y.1.store.resolve_duplicate_ingress ((deliveries i).candidate n lineage) with
    | some existing =>
      simp only [perform, InMemoryBoundaryPersistence.save_ingress, hfound] at hsaved
      cases hsaved
      refine ⟨y.2, Protocol.Allows.refl hy.inv, fun z hz => ⟨?_, ?_, ?_⟩⟩
      · intro hnone
        cases hnone
      · intro r hr _
        cases hr
        obtain ⟨hget, hkey, hevent⟩ := ids_of_resolve hids hy.inv hof hfound
        exact ⟨hz.moves.store _ _ hget, hkey, hevent⟩
      · intro r _ herror
        exact absurd rfl herror
    | none =>
      simp only [perform, InMemoryBoundaryPersistence.save_ingress, hfound] at hsaved
      cases hsaved
      obtain ⟨hallows, hget⟩ := allows_store hy.inv hof hregisters hfound
      refine ⟨_, hallows, fun z hz => ⟨?_, ?_, ?_⟩⟩
      · intro hnone
        cases hnone
      · intro r hr _
        cases hr
        exact ⟨hz.moves.store _ _ hget, hof.replay_key, hof.event_id⟩
      · intro r _ herror
        exact absurd rfl herror
  · refine ⟨y.2, Protocol.Allows.refl hy.inv, fun z hz => ⟨?_, ?_, ?_⟩⟩
    · intro hnone
      cases hnone
    · intro r _ hnoerror
      cases hnoerror
    · intro r hr _
      cases hr
      exact ⟨hof, fun k hk => (hregisters k hk).of_rely hz.moves hz.keeps.owner,
        fun id hid => hready.unstored id (hz.keeps.author id hid)⟩

/-! ### The calls of the registry -/

theorem exec_get {k : Uuid} {w w' : World Uuid} {r : Option (BoundaryReplayRecord Uuid)}
    (h : exec (.get k) w r w') : r = w.registry.get? k ∧ w' = w := by
  rcases h with h | ⟨hno, -⟩
  · cases h
    exact ⟨rfl, rfl⟩
  · exact hno.elim

/-- A registered key that `i` does not own stays so. -/
def Known (i : ι) (k : Uuid) (x : State ι Uuid) : Prop :=
  (∃ reg, x.1.registry.get? k = some reg) ∧ x.2.owner k ≠ some i

omit [Stdlib Uuid] in
theorem Known.registers {k : Uuid} (h : Known i k x) (hold : disposition ≠ .new) :
    Registers i k disposition x :=
  ⟨h.1, iff_of_false hold h.2⟩

theorem Known.of_rely {k : Uuid} (h : Known i k x) (hxy : (ingestProtocol deliveries).Rely i x y) :
    Known i k y := by
  obtain ⟨⟨reg, hreg⟩, howner⟩ := h
  obtain ⟨reg', hreg', -⟩ := hxy.moves.registry k reg hreg
  exact ⟨⟨reg', hreg'⟩, fun hi => howner (hxy.keeps.owner k hi)⟩

theorem event_of_registered [LawfulStdlib Uuid] (hinv : Inv deliveries x) {k : Uuid}
    (hkey : key (deliveries i) = some k) (hreg : x.1.registry.get? k = some reg) :
    some reg.event_id = event (deliveries i) := by
  obtain ⟨m, -, hm, hevent⟩ := hinv.registered k reg hreg
  exact hevent.symm.trans (event_of_key hm hkey)

omit [DecidableEq Uuid] [Stdlib Uuid] in
theorem classify_some (existing : BoundaryReplayRecord Uuid) (fingerprint : String) :
    (classify (some existing) fingerprint).disposition ≠ .new := by
  unfold classify
  simp only
  split <;> decide

theorem sat_register [LawfulStdlib Uuid] {n : BoundaryNormalizationResult} {fingerprint : String}
    {k e : Uuid} (hkey : key (deliveries i) = some k) (hevent : event (deliveries i) = some e)
    (hfresh : (ingestProtocol deliveries).fresh i x) :
    Sat (ingestProtocol deliveries) exec i (register (deliveries i) n fingerprint k e).run
      (fun r y => ∃ lineage, r = .ok lineage ∧ Ready deliveries i lineage y) x := by
  refine Sat.raising_call fun y hy r w hr => ?_
  have hyfresh := (ingestProtocol deliveries).fresh_keeps hfresh hy.keeps
  rcases hr with hr | ⟨hno, -⟩
  swap
  · exact hno.elim
  cases hreg : y.1.registry.get? k with
  | none =>
    simp only [perform, record_first_seen, Delivery.first_seen, hreg, World.changed] at hr
    cases hr
    have hentry : ((deliveries i).first_seen n k e fingerprint).event_id = e := rfl
    have hallows := allows_register hy.inv hkey hevent hentry hreg
    refine ⟨_, hallows, fun z hz => ⟨_, rfl, hevent.symm, fun k' hk' => ?_, fun id hid => ?_⟩⟩
    · cases hkey.symm.trans hk'
      obtain ⟨reg', hreg', -⟩ := hz.moves.registry k _ (Dict.get?_set_self ..)
      have howner := hz.moves.owner k i (Function.update_self ..)
      exact ⟨⟨reg', hreg'⟩, iff_of_true rfl howner⟩
    · exact hyfresh.2 id (hz.keeps.author id hid)
  | some reg =>
    simp only [perform, record_first_seen, Delivery.first_seen, hreg, World.changed] at hr
    cases hr
    have hknown : Known i k y := ⟨⟨reg, hreg⟩, hyfresh.1 k⟩
    refine ⟨y.2, Protocol.Allows.refl hy.inv, ?_⟩
    refine Sat.raising_call fun u hu r w hr => ?_
    obtain ⟨rfl, rfl⟩ := exec_get hr
    have hknownu := hknown.of_rely hu
    obtain ⟨⟨regu, hregu⟩, -⟩ := hknownu
    refine ⟨u.2, Protocol.Allows.refl hu.inv, ?_⟩
    rw [hregu]
    refine Sat.raising_bind hu.inv (Sat.raising_call fun v hv r w hr => ?_)
    obtain ⟨rfl, rfl⟩ := exec_get hr
    obtain ⟨⟨regv, hregv⟩, -⟩ := (hknown.of_rely hu).of_rely hv
    refine ⟨v.2, Protocol.Allows.refl hv.inv, fun z hz t ht => ⟨_, rfl, ?_, fun k' hk' => ?_, ?_⟩⟩
    · exact event_of_registered hu.inv hkey hregu
    · cases hkey.symm.trans hk'
      have hdisposition : (classify (v.1.registry.get? k) fingerprint).disposition ≠ .new := by
        rw [hregv]
        exact classify_some regv fingerprint
      exact ((((hknown.of_rely hu).of_rely hv).of_rely hz).of_rely ht).registers hdisposition
    · intro id hid
      exact hyfresh.2 id (hu.keeps.author id (hv.keeps.author id (hz.keeps.author id
        (ht.keeps.author id hid))))

variable (deliveries) in
inductive Decided (i : ι) (x : State ι Uuid) : BoundaryReplayDecision Uuid → Prop
  | invalid (h : key (deliveries i) = none) : Decided i x { disposition := .invalid_key }
  | new (k : Uuid) (h : key (deliveries i) = some k) : Decided i x { disposition := .new }
  | known (k : Uuid) (h : key (deliveries i) = some k) (disposition : BoundaryReplayDisposition)
      (replay : disposition = .replay_of_known ∨ disposition = .lineage_drift)
      (reg : BoundaryReplayRecord Uuid) (there : x.1.registry.get? k = some reg) :
      Decided i x { disposition, original_event_id := some reg.event_id }

theorem sat_classify (fingerprint : String) {n : BoundaryNormalizationResult}
    (hn : (deliveries i).normalization = some n) (hfresh : (ingestProtocol deliveries).fresh i x) :
    Sat (ingestProtocol deliveries) exec i
      (classify_replay ((deliveries i).replay_key n) fingerprint).run
      (fun r y => (ingestProtocol deliveries).fresh i y ∧ ∃ z decision,
        (ingestProtocol deliveries).Rely i z y ∧ r = .ok decision ∧ Inv deliveries z ∧
          Decided deliveries i z decision) x := by
  have hkey : key (deliveries i) = (deliveries i).replay_key n := by
    unfold key
    rw [hn, Option.bind_some]
  rw [← hkey]
  cases hk : key (deliveries i) with
  | none =>
    refine fun y hy => ⟨(ingestProtocol deliveries).fresh_keeps hfresh hy.keeps, y,
      { disposition := .invalid_key }, ?_⟩
    exact ⟨Protocol.Rely.refl _ hy.inv, rfl, hy.inv, .invalid hk⟩
  | some k =>
    refine Sat.raising_call fun y hy r w hr => ?_
    obtain ⟨rfl, rfl⟩ := exec_get hr
    have hyfresh := (ingestProtocol deliveries).fresh_keeps hfresh hy.keeps
    refine ⟨y.2, Protocol.Allows.refl hy.inv, fun z hz => ?_⟩
    refine ⟨(ingestProtocol deliveries).fresh_keeps hyfresh hz.keeps, y,
      classify (y.1.registry.get? k) fingerprint, hz, rfl, hy.inv, ?_⟩
    cases hreg : y.1.registry.get? k with
    | none => exact .new k hk
    | some reg =>
      refine .known k hk _ ?_ reg hreg
      split
      · exact .inl rfl
      · exact .inr rfl

theorem sat_keep_books [LawfulStdlib Uuid] {n : BoundaryNormalizationResult} {fingerprint : String}
    {decision : BoundaryReplayDecision Uuid} {e : Option Uuid}
    (hn : (deliveries i).normalization = some n) (he : (deliveries i).event_id n = .ok e)
    (hfresh : (ingestProtocol deliveries).fresh i y) (hxy : (ingestProtocol deliveries).Rely i x y)
    (hinv : Inv deliveries x) (hdecided : Decided deliveries i x decision) :
    Sat (ingestProtocol deliveries) exec i (keep_books (deliveries i) n fingerprint decision e).run
      (fun r z => ∃ lineage, r = .ok lineage ∧ Ready deliveries i lineage z) y := by
  have hkey : key (deliveries i) = (deliveries i).replay_key n := by
    unfold key
    rw [hn, Option.bind_some]
  obtain ⟨hevent, -⟩ := ids_of_event_id hn he
  unfold keep_books
  rw [← hkey, ← hevent]
  cases hdecided with
  | invalid hk =>
    rw [hk]
    refine fun z hz => ⟨_, rfl, rfl, fun k h => ?_, fun id hid => ?_⟩
    · rw [hk] at h
      cases h
    · exact hfresh.2 id (hz.keeps.author id hid)
  | new k hk =>
    rw [hk]
    cases hev : event (deliveries i) with
    | none =>
      rw [key_eq_none_iff.mpr hev] at hk
      cases hk
    | some u => exact sat_register hk hev hfresh
  | known k hk disposition hreplay reg hreg =>
    have hold : disposition ≠ .new := by
      rcases hreplay with rfl | rfl <;> decide
    have hknown : Known i k y := by
      obtain ⟨reg', hreg', -⟩ := hxy.moves.registry k reg hreg
      exact ⟨⟨reg', hreg'⟩, hfresh.1 k⟩
    have hobserve : Sat (ingestProtocol deliveries) exec i
        (do
          let observed : Except PyException Unit ← Raising.call
            (Call.record_observation k disposition fingerprint (deliveries i).started_at)
          Raising.compute observed
          return ⟨disposition, some reg.event_id, some reg.event_id⟩ :
            Coroutine Uuid (Lineage Uuid)).run
        (fun r z => ∃ lineage, r = .ok lineage ∧ Ready deliveries i lineage z) y := by
      refine Sat.raising_call fun u hu r w hr => ?_
      obtain ⟨⟨regu, hregu⟩, -⟩ := hknown.of_rely hu
      rcases hr with hr | ⟨hno, -⟩
      swap
      · exact hno.elim
      simp only [perform, record_observation, hregu, World.changed] at hr
      cases hr
      refine ⟨u.2, allows_observe hu.inv hregu rfl, fun z hz => ⟨_, rfl, ?_, fun k' hk' => ?_, ?_⟩⟩
      · exact event_of_registered hinv hk hreg
      · cases hk.symm.trans hk'
        obtain ⟨reg', hreg', -⟩ := hz.moves.registry k _ (Dict.get?_set_self ..)
        refine Known.registers ⟨⟨reg', hreg'⟩, fun hi => ?_⟩ hold
        exact hfresh.1 k (hu.keeps.owner k (hz.keeps.owner k hi))
      · exact fun id hid => hfresh.2 id (hu.keeps.author id (hz.keeps.author id hid))
    rw [hk]
    rcases hreplay with rfl | rfl
    · exact hobserve
    · exact hobserve

theorem sat_ingest [Sha256Hex] [LawfulStdlib Uuid] (hids : OneKey deliveries)
    (hinv : Inv deliveries x) (hfresh : (ingestProtocol deliveries).fresh i x) :
    Sat (ingestProtocol deliveries) exec i (ingest (deliveries i)).run (Post deliveries i) x := by
  unfold ingest
  cases hn : (deliveries i).normalization with
  | none =>
    refine fun y hy => ⟨fun _ => ?_, fun r hr => ?_, fun r hr => ?_⟩
    · exact Option.some_ne_none _
    · cases hr
    · cases hr
  | some n =>
    simp only
    cases hf : content_fingerprint n.canonical_payload with
    | error exc =>
      refine fun y hy hencodes => ?_
      obtain ⟨fingerprint, hok⟩ := Encodes.fingerprint hencodes hn
      rw [hf] at hok
      cases hok
    | ok fingerprint =>
      refine Sat.raising_bind hinv fun y hy => ?_
      have hyfresh := (ingestProtocol deliveries).fresh_keeps hfresh hy.keeps
      refine Sat.raising_bind hy.inv (Sat.weaken (sat_classify fingerprint hn hyfresh) ?_)
      rintro _ z hz ⟨hzfresh, u, decision, huz, rfl, hu, hdecided⟩
      cases he : (deliveries i).event_id n with
      | error exc =>
        refine fun v hv hencodes => ?_
        obtain ⟨e, hok⟩ := Encodes.event_id hencodes hn
        rw [he] at hok
        cases hok
      | ok e =>
        refine Sat.raising_bind hz fun v hv => ?_
        have hvfresh := (ingestProtocol deliveries).fresh_keeps hzfresh hv.keeps
        have hbooks := @sat_keep_books _ _ _ _ _ i u v _ n fingerprint decision e hn he hvfresh
          (huz.trans hv) hu hdecided
        refine Sat.raising_bind hv.inv (Sat.weaken hbooks ?_)
        rintro _ t ht ⟨lineage, rfl, hready⟩
        exact sat_persist hids hn hready

end

/-! ## Interleavings -/

section

variable {ι Uuid : Type} [DecidableEq Uuid] [Stdlib Uuid]

/-- Calls of `ingest` that were started, over one registry and one store. -/
abbrev Ingests (ι Uuid : Type) [DecidableEq Uuid] [Stdlib Uuid] :=
  Pool ι (Call Uuid) Call.Answer (Except PyException (BoundaryIngressEnvelope Uuid)) (World Uuid)

/-- Some interleaving of the deliveries leads from `p` to `q`. Any save may raise. -/
abbrev Leads [Sha256Hex] [DecidableEq ι] (deliveries : ι → Delivery Uuid) (p q : Ingests ι Uuid) : Prop :=
  Pool.Leads (fun i t => t = (ingest (deliveries i)).run) exec p q

def HasReturned (q : Ingests ι Uuid) (i : ι) (envelope : BoundaryIngressEnvelope Uuid) : Prop :=
  q.tasks i = some (.done (.ok envelope))

/-- What is left of the calls after an interleaving from `p`, where `p` is one itself. -/
structure Kept (deliveries : ι → Delivery Uuid) (p q : Ingests ι Uuid) : Prop where
  total : ∀ i exc, q.tasks i = some (.done (.error exc)) → ¬ Encodes (deliveries i)
  canonical : ∀ i j envelope envelope' r r', HasReturned q i envelope → HasReturned q j envelope' →
    envelope.result = some r → envelope'.result = some r' → r.replay_disposition = .new →
      r'.replay_disposition = .new → ∀ k, r.replay_key = some k → r'.replay_key = some k → r = r'
  lineage : ∀ i envelope r k, HasReturned q i envelope → envelope.result = some r →
    r.replay_key = some k →
      ∃ reg, q.world.registry.get? k = some reg ∧ r.event_id = some reg.event_id
  stored : ∀ i envelope k, HasReturned q i envelope → envelope.error = none →
    key (deliveries i) = some k → ∃ r, q.world.store.ingress.get? r.ingress_id = some r ∧
      r.replay_key = some k ∧ envelope.result = some r ∧
        (is_dispatch_outbox_eligible r = true ↔ r.replay_disposition = .new ∧
          r.tenant_id.any (fun tenant_id => strip tenant_id ≠ "") = true ∧
            (dispatch_channel_for_ingress r).isSome = true)
  first : ∀ i envelope k, HasReturned p i envelope → envelope.error = none →
    key (deliveries i) = some k →
      (∀ j, p.tasks j ≠ none → key (deliveries j) = some k → j = i) →
        ∀ j envelope', HasReturned q j envelope' → envelope'.error = none →
          key (deliveries j) = some k → envelope'.result = envelope.result ∧
            ∃ r, envelope'.result = some r ∧ r.replay_disposition = .new

variable {deliveries : ι → Delivery Uuid} {p q : Ingests ι Uuid} {g : Ghost ι Uuid}

/-- The pool keeps to what the calls agree on. -/
abbrev Agreed (deliveries : ι → Delivery Uuid) (q : Ingests ι Uuid) (g : Ghost ι Uuid) : Prop :=
  awaits.Sound (ingestProtocol deliveries) exec (Post deliveries) q g

variable {envelope : BoundaryIngressEnvelope Uuid}

variable {i : ι}

theorem Agreed.returned (h : Agreed deliveries q g) (hr : HasReturned q i envelope) :
    Returned deliveries i envelope (q.world, g) :=
  h.tasks i _ hr _ (Protocol.Rely.refl _ h.inv)

theorem stored_unique {s : InMemoryBoundaryPersistence Uuid} (h : Indexed s) {k : Uuid}
    {r r' : BoundaryIngressRecord Uuid} (hr : s.ingress.get? r.ingress_id = some r)
    (hr' : s.ingress.get? r'.ingress_id = some r') (hk : r.replay_key = some k)
    (hk' : r'.replay_key = some k) : r = r' := by
  have hfound := (h.replay_key k r.ingress_id).mpr ⟨r, hr, hk⟩
  have hfound' := (h.replay_key k r'.ingress_id).mpr ⟨r', hr', hk'⟩
  have hid : r.ingress_id = r'.ingress_id := Option.some.inj (hfound.symm.trans hfound')
  rw [hid, hr'] at hr
  exact (Option.some.inj hr).symm

/-- A stored record that is new is the first caller's, and that caller saved it. -/
theorem Agreed.canonical (h : Agreed deliveries q g) {j : ι}
    {envelope envelope' : BoundaryIngressEnvelope Uuid} {r r' : BoundaryIngressRecord Uuid}
    {k : Uuid} (hi : HasReturned q i envelope) (hj : HasReturned q j envelope')
    (hr : envelope.result = some r) (hr' : envelope'.result = some r')
    (hnew : r.replay_disposition = .new) (hnew' : r'.replay_disposition = .new)
    (hk : r.replay_key = some k) (hk' : r'.replay_key = some k) : r = r' := by
  have hireturned := h.returned hi
  have hjreturned := h.returned hj
  -- a stored new record is not of a caller whose save raised
  have hcross : ∀ (m : ι) (t t' : BoundaryIngressRecord Uuid),
      q.world.store.ingress.get? t.ingress_id = some t → t.replay_key = some k →
      t.replay_disposition = .new →
      ((∀ k, t'.replay_key = some k → Registers m k t'.replay_disposition (q.world, g)) ∧
        ∀ id, g.author id ≠ some m) → t'.replay_key = some k → t'.replay_disposition ≠ .new := by
    intro m t t' ht htk htnew ⟨hregisters, hunstored⟩ htk' htnew'
    obtain ⟨a, ha, -, haregisters⟩ := h.inv.authored _ t ht
    have howner := (haregisters k htk).2.mp htnew
    have howner' := (hregisters k htk').2.mp htnew'
    have hsame : a = m := Option.some.inj (howner.symm.trans howner')
    exact hunstored _ (hsame ▸ ha)
  cases herror : envelope.error with
  | none =>
    obtain ⟨hget, -, -⟩ := hireturned.stored r hr herror
    cases herror' : envelope'.error with
    | none =>
      obtain ⟨hget', -, -⟩ := hjreturned.stored r' hr' herror'
      exact stored_unique h.inv.indexed hget hget' hk hk'
    | some exc =>
      obtain ⟨-, hkept⟩ := hjreturned.kept r' hr' (by simp [herror'])
      exact absurd hnew' (hcross j r r' hget hk hnew hkept hk')
  | some exc =>
    obtain ⟨-, hkept⟩ := hireturned.kept r hr (by simp [herror])
    cases herror' : envelope'.error with
    | none =>
      obtain ⟨hget', -, -⟩ := hjreturned.stored r' hr' herror'
      exact absurd hnew (hcross i r' r hget' hk' hnew' hkept hk)
    | some exc' =>
      obtain ⟨-, hkept'⟩ := hjreturned.kept r' hr' (by simp [herror'])
      have hiowner := (hkept.1 k hk).2.mp hnew
      have hjowner := (hkept'.1 k hk').2.mp hnew'
      have hij : i = j := Option.some.inj (hiowner.symm.trans hjowner)
      subst hij
      unfold HasReturned at hi hj
      rw [hi] at hj
      cases hj
      exact Option.some.inj (hr.symm.trans hr')

variable {r : BoundaryIngressRecord Uuid}

theorem Agreed.lineage [LawfulStdlib Uuid] (h : Agreed deliveries q g) {k : Uuid}
    (hi : HasReturned q i envelope) (hr : envelope.result = some r) (hk : r.replay_key = some k) :
    ∃ reg, q.world.registry.get? k = some reg ∧ r.event_id = some reg.event_id := by
  have hof : ∀ m, IsOf (deliveries m) r → (∃ reg, q.world.registry.get? k = some reg) →
      ∃ reg, q.world.registry.get? k = some reg ∧ r.event_id = some reg.event_id := by
    rintro m hm ⟨reg, hreg⟩
    have hevent := event_of_registered h.inv (hm.replay_key.symm.trans hk) hreg
    exact ⟨reg, hreg, hm.event_id.trans hevent.symm⟩
  cases herror : envelope.error with
  | none =>
    obtain ⟨hget, -, -⟩ := (h.returned hi).stored r hr herror
    obtain ⟨m, -, hm, hregisters⟩ := h.inv.authored _ r hget
    exact hof m hm (hregisters k hk).1
  | some exc =>
    obtain ⟨hm, hregisters, -⟩ := (h.returned hi).kept r hr (by simp [herror])
    exact hof i hm (hregisters k hk).1

theorem Agreed.stored (h : Agreed deliveries q g) {k : Uuid} (hi : HasReturned q i envelope)
    (herror : envelope.error = none) (hkey : key (deliveries i) = some k) :
    ∃ r, q.world.store.ingress.get? r.ingress_id = some r ∧ r.replay_key = some k ∧
      envelope.result = some r := by
  have hreturned := h.returned hi
  cases hr : envelope.result with
  | none => exact absurd herror (hreturned.failed hr)
  | some r =>
    obtain ⟨hget, hk, -⟩ := hreturned.stored r hr herror
    exact ⟨r, hget, hk.trans hkey, rfl⟩

theorem Agreed.eligible (h : Agreed deliveries q g) {k : Uuid}
    (hget : q.world.store.ingress.get? r.ingress_id = some r) (hk : r.replay_key = some k) :
    is_dispatch_outbox_eligible r = true ↔ r.replay_disposition = .new ∧
      r.tenant_id.any (fun tenant_id => strip tenant_id ≠ "") = true ∧
        (dispatch_channel_for_ingress r).isSome = true := by
  obtain ⟨m, -, hm, -⟩ := h.inv.authored _ r hget
  have hkey : key (deliveries m) = some k := hm.replay_key.symm.trans hk
  have hok : r.normalization_status = .ok := hm.ok (by simp [hkey])
  have hevent : r.event_id.isSome = true := by
    rw [hm.event_id, Option.isSome_iff_ne_none]
    intro hnone
    rw [key_eq_none_iff.mpr hnone] at hkey
    cases hkey
  unfold is_dispatch_outbox_eligible
  simp only [hok, hevent, decide_true, Bool.and_true, Bool.and_eq_true, decide_eq_true_eq]
  tauto

theorem Agreed.first (h : Agreed deliveries p g) {k : Uuid}
    (hget : p.world.store.ingress.get? r.ingress_id = some r) (hk : r.replay_key = some k)
    (halone : ∀ j, p.tasks j ≠ none → key (deliveries j) = some k → j = i) :
    r.replay_disposition = .new := by
  obtain ⟨m, hauthor, hm, hregisters⟩ := h.inv.authored _ r hget
  have hmi : m = i := by
    refine halone m (fun hnone => ?_) (hm.replay_key.symm.trans hk)
    exact (h.fresh m hnone).2 _ hauthor
  obtain ⟨⟨reg, hreg⟩, hnew⟩ := hregisters k hk
  obtain ⟨o, howner, hokey, -⟩ := h.inv.registered k reg hreg
  have hoi : o = i := halone o (fun hnone => (h.fresh o hnone).1 k howner) hokey
  exact hnew.mpr (howner.trans (congrArg some (hoi.trans hmi.symm)))

variable [Sha256Hex] [DecidableEq ι]

theorem agreed_of_leads [LawfulStdlib Uuid] (hids : OneKey deliveries) (h : Agreed deliveries p g)
    (hpq : Leads deliveries p q) :
    ∃ g', Moves (p.world, g) (q.world, g') ∧ Agreed deliveries q g' := by
  refine awaits.Sound.leads h ?_ hpq
  rintro i t x rfl hinv hfresh
  exact sat_ingest hids hinv hfresh

omit [Sha256Hex] [DecidableEq ι] in
theorem agreed_idle : Agreed deliveries (Pool.idle {}) {} := by
  have hnone : ∀ {V : Type} {k : Uuid} {v : V}, (Dict.empty : Dict Uuid V).get? k ≠ some v :=
    fun h => by cases h
  refine awaits.Sound.idle ⟨?_, ?_, ⟨?_, ?_, ?_, ?_, ?_⟩, ?_⟩ fun i => ⟨fun k h => ?_, fun id h => ?_⟩
  · exact fun k reg h => absurd h hnone
  · intro k m h
    cases h
  · exact fun id r h => absurd h hnone
  · exact fun k id => iff_of_false hnone fun h => hnone h.choose_spec.1
  · exact fun k id => iff_of_false hnone fun h => hnone h.choose_spec.1
  · refine fun id => iff_of_false (fun h => by cases h) fun h => ?_
    exact absurd h.choose_spec.1 List.not_mem_nil
  · exact fun k o h => absurd h hnone
  · exact fun id r h => absurd h hnone
  · cases h
  · cases h

/-- Whatever the order of the steps, deliveries whose ingress ids stand for one key each never raise
but on a text that cannot be encoded, share the record of the first caller of their key, and keep its
event. -/
theorem ingests_kept [LawfulStdlib Uuid] (deliveries : ι → Delivery Uuid) (hids : OneKey deliveries)
    {p q : Ingests ι Uuid} (hp : Leads deliveries (Pool.idle {}) p) (hpq : Leads deliveries p q) :
    Kept deliveries p q := by
  obtain ⟨g, -, hg⟩ := agreed_of_leads hids agreed_idle hp
  obtain ⟨g', hmoves, hg'⟩ := agreed_of_leads hids hg hpq
  refine ⟨?_, ?_, ?_, ?_, ?_⟩
  · intro i exc hi
    exact hg'.tasks i _ hi _ (Protocol.Rely.refl _ hg'.inv)
  · intro i j envelope envelope' r r' hi hj hr hr' hnew hnew' k hk hk'
    exact hg'.canonical hi hj hr hr' hnew hnew' hk hk'
  · intro i envelope r k hi hr hk
    exact hg'.lineage hi hr hk
  · intro i envelope k hi herror hkey
    obtain ⟨r, hget, hk, hr⟩ := hg'.stored hi herror hkey
    exact ⟨r, hget, hk, hr, hg'.eligible hget hk⟩
  · intro i envelope k hi herror hkey halone j envelope' hj herror' hkey'
    obtain ⟨r, hget, hk, hr⟩ := hg.stored hi herror hkey
    obtain ⟨r', hget', hk', hr'⟩ := hg'.stored hj herror' hkey'
    have hsame : r' = r := stored_unique hg'.inv.indexed hget' (hmoves.store _ r hget) hk' hk
    exact ⟨by rw [hr', hr, hsame], r', hr', hsame ▸ hg.first hget hk halone⟩

end

/-! ## A mail that comes twice -/

@[reducible] def plainDigest : Sha256Hex where
  sha256_hex bytes := String.ofList (bytes.map fun b => Char.ofNat b.toNat)

attribute [local instance] plainDigest

def mail (message_id : Text) (tenant_id : Option Text) (sequence : Int) : Delivery String where
  source_type := .email
  source_id := "support@shop.example"
  source_tenant_id := tenant_id
  adapter_name := "email"
  body := .str "hello"
  adapter := some (.ok { status := .ok, external_message_id := some message_id })
  runtime_instance_id := "r"
  sequence
  started_at := sequence

def twice (second : Bool) : Delivery String := mail [109] (some [116]) (if second then 2 else 1)

def down : (c : Call String) → World String → c.Answer × World String
  | .save_ingress _, w => (.error ⟨"OperationalError", "database is down"⟩, w)
  | c, w => perform c w

/-- Two calls one after the other, each with the store as it then is. -/
def oneByOne (deliveries : Bool → Delivery String)
    (first second : (c : Call String) → World String → c.Answer × World String) :
    Ingests Bool String :=
  Pool.alone second (Pool.alone first (Pool.idle {}) false (ingest (deliveries false)).run) true
    (ingest (deliveries true)).run

theorem leads_perform {ι : Type} [DecidableEq ι] {deliveries : ι → Delivery String}
    {p : Ingests ι String} {i : ι} (free : p.tasks i = none) :
    Leads deliveries p (Pool.alone perform p i (ingest (deliveries i)).run) :=
  Pool.Leads.mono (fun _ _ _ _ h => .inl h) (Pool.leads_alone free rfl)

theorem leads_down {ι : Type} [DecidableEq ι] {deliveries : ι → Delivery String}
    {p : Ingests ι String} {i : ι} (free : p.tasks i = none) :
    Leads deliveries p (Pool.alone down p i (ingest (deliveries i)).run) := by
  refine Pool.Leads.mono (fun c w r w' h => ?_) (Pool.leads_alone free rfl)
  cases c with
  | save_ingress record =>
    cases h
    exact .inr ⟨⟨_, rfl⟩, rfl⟩
  | get k => exact .inl h
  | record_first_seen record => exact .inl h
  | record_observation k disposition fingerprint seen_at => exact .inl h

/-- How a call has ended: the disposition of its result and whether it is without error, or what it
raised. -/
def ended {ι : Type} (q : Ingests ι String) (i : ι) :
    Option (Except PyException (Option BoundaryReplayDisposition × Bool)) :=
  match q.tasks i with
  | some (.done (.ok envelope)) =>
    some (.ok (envelope.result.map (·.replay_disposition), envelope.error.isNone))
  | some (.done (.error exc)) => some (.error exc)
  | _ => none

theorem twice_kept : Kept twice (Pool.alone perform (Pool.idle {}) false (ingest (twice false)).run)
    (oneByOne twice perform perform) := by
  refine ingests_kept twice ?_ (leads_perform rfl) (leads_perform (by decide +kernel))
  have hkey : ∀ b, key (twice b) = key (twice false) := by decide +kernel
  exact fun i j _ => (hkey i).trans (hkey j).symm

/-- The second delivery of a mail is handed the record of the first, new as it is. An id that cannot be
encoded raises. A save that fails leaves the mail registered, so that its next delivery is stored as a
replay. A mail without a tenant is stored and not due for dispatch. -/
theorem a_replay_is_new_again :
    (∃ q, Leads twice (Pool.idle {}) q ∧ key (twice true) = key (twice false) ∧
      ∀ i, ended q i = some (.ok (some .new, true))) ∧
    (∃ q, Leads (fun _ : Bool => mail [0xd800] none 1) (Pool.idle {}) q ∧
      ended q false = some (.error ⟨"UnicodeEncodeError", "surrogates not allowed"⟩)) ∧
    (∃ q, Leads twice (Pool.idle {}) q ∧ ended q false = some (.ok (some .new, false)) ∧
      ended q true = some (.ok (some .replay_of_known, true)) ∧
      q.world.store.ingress.values.any is_dispatch_outbox_eligible = false) ∧
    (∃ q, Leads (fun _ : Bool => mail [109] none 1) (Pool.idle {}) q ∧
      ended q false = some (.ok (some .new, true)) ∧
      q.world.store.ingress.values.any is_dispatch_outbox_eligible = false) := by
  refine ⟨⟨oneByOne twice perform perform, ?_, ?_, ?_⟩, ⟨_, leads_perform (i := false) rfl, ?_⟩,
    ⟨oneByOne twice down perform, ?_, ?_, ?_, ?_⟩, ⟨_, leads_perform (i := false) rfl, ?_, ?_⟩⟩
  · exact (leads_perform rfl).trans (leads_perform (by decide +kernel))
  · decide +kernel
  · decide +kernel
  · decide +kernel
  · exact (leads_down rfl).trans (leads_perform (by decide +kernel))
  · decide +kernel
  · decide +kernel
  · decide +kernel
  · decide +kernel
  · decide +kernel

end operious.boundary.ingests
