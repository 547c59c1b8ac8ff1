-- The fields of a message of SNS as they were sent and as the verifier reads them, and the text that is
-- signed for them.
import Operious.Ingress.SnsMessages

namespace operious.boundary.email_ses

open utf8 (Text Encodable encode ofString)
open urllib (Unicode SplitResult)

/-! ## Errors -/

section errors

variable {α β : Type}

theorem ok_bind (a : α) (f : α → Except Exc β) : (Except.ok a >>= f) = f a := rfl

/-- A part that raises the verifier's own error at most. -/
def Own (x : Except Exc α) : Prop := ∀ exc, x = .error exc → ∃ message, exc = .sns message

theorem own_ok (a : α) : Own (.ok a : Except Exc α) := fun _ h => nomatch h

theorem own_sns (message : String) : Own (.error (.sns message) : Except Exc α) :=
  fun _ h => ⟨message, (Except.error.inj h).symm⟩

theorem Own.bind {x : Except Exc α} {f : α → Except Exc β} (hx : Own x)
    (hf : ∀ a, x = .ok a → Own (f a)) : Own (x >>= f) := by
  cases x with
  | error exc => exact fun exc' h => hx exc' (congrArg _ (Except.error.inj h))
  | ok a => exact hf a rfl

end errors

/-! ## Stripped texts -/

theorem strip_sublist (t : Text) : (strip t).Sublist t := by
  have hfront := List.dropWhile_sublist isBlank (l := t)
  have hback := (List.dropWhile_sublist isBlank (l := (t.dropWhile isBlank).reverse)).reverse
  rw [List.reverse_reverse] at hback
  exact hback.trans hfront

theorem length_strip_le (t : Text) : (strip t).length ≤ t.length := (strip_sublist t).length_le

theorem strip_eq_of_length {t : Text} (h : t.length ≤ (strip t).length) : strip t = t :=
  (strip_sublist t).eq_of_length_le h

/-- A text that the verifier reads as it was sent. -/
def Plain (t : Text) : Prop := t ≠ [] ∧ strip t = t

variable {payload : Payload} {expected : Text} {e : Envelope} {key : String}

theorem optional_eq_some_iff {value : Text} :
    optional_sns_text payload key = some value ↔
      value ≠ [] ∧ ∃ t, payload.get? key = some (.text t) ∧ strip t = value := by
  unfold optional_sns_text
  split
  · rename_i t ht
    split
    · rename_i hblank
      constructor
      · intro h
        cases h
      · rintro ⟨hvalue, u, hu, rfl⟩
        cases ht.symm.trans hu
        exact absurd hblank hvalue
    · rename_i hblank
      constructor
      · intro h
        cases h
        exact ⟨hblank, t, ht, rfl⟩
      · rintro ⟨-, u, hu, rfl⟩
        cases ht.symm.trans hu
        rfl
  · rename_i hother
    constructor
    · intro h
      cases h
    · rintro ⟨-, u, hu, -⟩
      exact absurd hu (hother u)

theorem optional_of_plain {t : Text} (ht : Plain t) (h : payload.get? key = some (.text t)) :
    optional_sns_text payload key = some t :=
  optional_eq_some_iff.mpr ⟨ht.1, t, h, ht.2⟩

theorem required_eq_ok_iff {value : Text} :
    required_sns_text payload key = .ok value ↔ optional_sns_text payload key = some value := by
  unfold required_sns_text
  cases optional_sns_text payload key <;> simp

theorem required_of_none (h : optional_sns_text payload key = none) :
    required_sns_text payload key = .error (.sns ("sns field " ++ key ++ " is required")) := by
  unfold required_sns_text
  rw [h]

theorem own_required (payload : Payload) (key : String) : Own (required_sns_text payload key) := by
  unfold required_sns_text
  split
  · exact own_ok _
  · exact own_sns _

/-! ## The signed fields -/

def size (fields : List (String × Text)) : Nat :=
  (fields.map fun f => (ofString f.1).length + f.2.length + 2).sum

variable {fields : List (String × Text)}

theorem length_join_fields (h : fields ≠ []) : (join_fields fields).length = size fields := by
  induction fields with
  | nil => exact absurd rfl h
  | cons f rest ih =>
    cases rest with
    | nil =>
      simp [join_fields, size]
      omega
    | cons g rest =>
      have ih := ih (List.cons_ne_nil g rest)
      simp only [join_fields, size, List.flatMap_cons, List.cons_append, List.nil_append,
        List.intercalate_cons_cons, List.length_append, List.length_cons, List.length_nil,
        List.map_cons, List.sum_cons] at ih ⊢
      omega

/-- The fields as the verifier reads them. -/
def stripped (fields : List (String × Text)) : List (String × Text) :=
  fields.map fun f => (f.1, strip f.2)

theorem size_stripped_le (fields : List (String × Text)) : size (stripped fields) ≤ size fields := by
  induction fields with
  | nil => exact le_refl _
  | cons f rest ih =>
    have hf := length_strip_le f.2
    simp only [stripped, size, List.map_cons, List.sum_cons] at ih ⊢
    omega

theorem strip_eq_of_size (h : size fields ≤ size (stripped fields)) :
    ∀ f ∈ fields, strip f.2 = f.2 := by
  induction fields with
  | nil => exact fun f hf => absurd hf List.not_mem_nil
  | cons f rest ih =>
    have hf := length_strip_le f.2
    have hrest := size_stripped_le rest
    simp only [stripped, size, List.map_cons, List.sum_cons] at h hrest ih ⊢
    refine List.forall_mem_cons.mpr ⟨strip_eq_of_length (by omega), ih (by omega)⟩

theorem mapM_required_eq_ok (h : ∀ f ∈ fields, optional_sns_text payload f.1 = some f.2) :
    ((fields.map Prod.fst).mapM fun name =>
      (required_sns_text payload name).map fun value => (name, value)) = .ok fields := by
  induction fields with
  | nil => rfl
  | cons f rest ih =>
    obtain ⟨hf, hrest⟩ := List.forall_mem_cons.mp h
    rw [List.map_cons, List.mapM_cons, required_eq_ok_iff.mpr hf, ih hrest]
    rfl

theorem mapM_required_inv {names : List String}
    (h : (names.mapM fun name =>
      (required_sns_text payload name).map fun value => (name, value)) = .ok fields) :
    fields.map Prod.fst = names ∧ ∀ f ∈ fields, optional_sns_text payload f.1 = some f.2 := by
  induction names generalizing fields with
  | nil =>
    cases h
    exact ⟨rfl, fun f hf => absurd hf List.not_mem_nil⟩
  | cons name rest ih =>
    rw [List.mapM_cons] at h
    obtain ⟨f, hf, h⟩ := bind_eq_ok.mp h
    obtain ⟨fs, hfs, h⟩ := bind_eq_ok.mp h
    cases h
    obtain ⟨hnames, htexts⟩ := ih hfs
    cases hr : required_sns_text payload name with
    | error x =>
      rw [hr] at hf
      cases hf
    | ok value =>
      rw [hr] at hf
      cases hf
      refine ⟨by rw [List.map_cons, hnames], List.forall_mem_cons.mpr ⟨?_, htexts⟩⟩
      exact required_eq_ok_iff.mp hr

theorem eq_stripped {fields sent : List (String × Text)}
    (hnames : fields.map Prod.fst = sent.map Prod.fst)
    (htexts : ∀ f ∈ fields, optional_sns_text payload f.1 = some f.2)
    (hsent : ∀ f ∈ sent, payload.get? f.1 = some (.text f.2)) :
    fields = stripped sent ∧ ∀ f ∈ sent, strip f.2 ≠ [] := by
  induction sent generalizing fields with
  | nil => exact ⟨List.map_eq_nil_iff.mp hnames, fun f hf => absurd hf List.not_mem_nil⟩
  | cons g rest ih =>
    cases fields with
    | nil => cases hnames
    | cons f fs =>
      obtain ⟨hname, hnames⟩ := List.cons.inj hnames
      obtain ⟨hf, hfs⟩ := List.forall_mem_cons.mp htexts
      obtain ⟨hg, hrest⟩ := List.forall_mem_cons.mp hsent
      obtain ⟨rfl, hkept⟩ := ih hnames hfs hrest
      obtain ⟨hvalue, t, ht, hstrip⟩ := optional_eq_some_iff.mp hf
      rw [hname, hg] at ht
      cases ht
      refine ⟨?_, List.forall_mem_cons.mpr ⟨?_, hkept⟩⟩
      · have hf : f = (g.1, strip g.2) := Prod.ext hname hstrip.symm
        rw [hf]
        rfl
      · rw [hstrip]
        exact hvalue

theorem own_canonical (payload : Payload) (kind : Kind) : Own (canonical_sns_string payload kind) := by
  unfold canonical_sns_string
  refine Own.bind ?_ fun _ _ => own_ok _
  generalize signed_names kind (optional_sns_text payload "Subject").isSome = names
  induction names with
  | nil => exact own_ok _
  | cons name rest ih =>
    rw [List.mapM_cons]
    refine Own.bind ?_ fun _ _ => ih.bind fun _ _ => own_ok _
    have hname := own_required payload name
    cases hr : required_sns_text payload name with
    | ok value => exact own_ok _
    | error exc =>
      obtain ⟨message, rfl⟩ := hname exc hr
      exact own_sns message

theorem own_decode (value : Text) : Own (decode_signature value) := by
  unfold decode_signature
  split
  · exact own_ok _
  · exact own_sns _

theorem own_digest (version : Text) : Own (signature_digest version) := by
  unfold signature_digest
  split_ifs
  · exact own_ok _
  · exact own_ok _
  · exact own_sns _

/-! ## Envelopes and payloads -/

namespace Envelope

def subject : Envelope → Option Text
  | notification _ _ subject _ _ => subject
  | subscription_confirmation .. => none

/-- A message whose fields the verifier reads as they were sent. -/
def Plain (e : Envelope) : Prop := ∀ f ∈ e.fields, email_ses.Plain f.2

theorem fields_ne_nil (e : Envelope) : e.fields ≠ [] := by
  cases e <;> simp [fields]

theorem names_of_fields (e : Envelope) :
    e.fields.map Prod.fst = signed_names e.kind e.subject.isSome := by
  cases e with
  | notification _ _ subject _ _ => cases subject <;> rfl
  | subscription_confirmation _ _ _ _ _ _ => rfl

theorem mem_type (e : Envelope) : ("Type", e.kind.text) ∈ e.fields := by
  cases e <;> simp [fields, kind]

theorem mem_topic_arn (e : Envelope) : ("TopicArn", e.topic_arn) ∈ e.fields := by
  cases e <;> simp [fields, topic_arn]

theorem mem_message (e : Envelope) : ("Message", e.message) ∈ e.fields := by
  cases e <;> simp [fields, message]

theorem mem_message_id (e : Envelope) : ("MessageId", e.message_id) ∈ e.fields := by
  cases e <;> simp [fields, message_id]

theorem mem_timestamp (e : Envelope) : ("Timestamp", e.timestamp) ∈ e.fields := by
  cases e <;> simp [fields, timestamp]

end Envelope

theorem canonical_of_plain (hcarries : Carries payload e) (hplain : e.Plain) :
    canonical_sns_string payload e.kind = .ok e.canonical := by
  have htexts : ∀ f ∈ e.fields, optional_sns_text payload f.1 = some f.2 := fun f hf =>
    optional_of_plain (hplain f hf) (hcarries.fields f hf)
  have hnames : signed_names e.kind (optional_sns_text payload "Subject").isSome =
      e.fields.map Prod.fst := by
    rw [e.names_of_fields]
    cases e with
    | subscription_confirmation _ _ _ _ _ _ => rfl
    | notification _ _ subject _ _ =>
      cases subject with
      | none => rw [hcarries.no_subject rfl]; rfl
      | some s => rw [htexts ("Subject", s) (by simp [Envelope.fields])]; rfl
  unfold canonical_sns_string
  rw [hnames, mapM_required_eq_ok htexts]
  rfl

/-- A payload that gives the signed text reads as it was sent: a stripped text is shorter. -/
theorem plain_of_canonical (hcarries : Carries payload e)
    (h : canonical_sns_string payload e.kind = .ok e.canonical) : e.Plain := by
  obtain ⟨fields, hfields, h⟩ := bind_eq_ok.mp h
  have hlength : (join_fields fields).length = e.canonical.length :=
    congrArg List.length (Except.ok.inj h)
  obtain ⟨hnames, htexts⟩ := mapM_required_inv hfields
  rw [Envelope.canonical, length_join_fields e.fields_ne_nil] at hlength
  by_cases hsubject : fields.map Prod.fst = e.fields.map Prod.fst
  · obtain ⟨rfl, hkept⟩ := eq_stripped hsubject htexts hcarries.fields
    have hne : stripped e.fields ≠ [] := by
      intro hnil
      exact e.fields_ne_nil (List.map_eq_nil_iff.mp hnil)
    rw [length_join_fields hne] at hlength
    have hstrip := strip_eq_of_size hlength.ge
    intro f hf
    exact ⟨by rw [← hstrip f hf]; exact hkept f hf, hstrip f hf⟩
  · -- A subject of blanks alone is left out of the text, which is then too short.
    exfalso
    cases e with
    | subscription_confirmation _ _ _ _ _ _ => exact hsubject hnames
    | notification message message_id subject timestamp topic_arn =>
      cases hs : optional_sns_text payload "Subject" with
      | some s =>
        rw [hs] at hnames
        cases subject with
        | none =>
          cases hs.symm.trans (hcarries.no_subject rfl)
        | some t => exact hsubject hnames
      | none =>
        rw [hs] at hnames
        cases subject with
        | none => exact hsubject hnames
        | some t =>
          let sent : Envelope := .notification message message_id none timestamp topic_arn
          have hsent : ∀ f ∈ sent.fields, payload.get? f.1 = some (.text f.2) := by
            intro f hf
            refine hcarries.fields f ?_
            simp only [sent, Envelope.fields] at hf ⊢
            simp at hf ⊢
            tauto
          have hnames' : fields.map Prod.fst = sent.fields.map Prod.fst := hnames
          obtain ⟨rfl, -⟩ := eq_stripped hnames' htexts hsent
          have hle := size_stripped_le sent.fields
          have hne : stripped sent.fields ≠ [] := by
            intro hnil
            exact sent.fields_ne_nil (List.map_eq_nil_iff.mp hnil)
          rw [length_join_fields hne] at hlength
          simp only [sent, Envelope.fields, size] at hle hlength
          simp at hle hlength
          omega

end operious.boundary.email_ses
