-- The characters of a text, in a form that closed runs evaluate fast.
import Mathlib.Data.List.Basic

namespace ascii

/-- The characters of a text, as `String.toList` gives them. Those of an ASCII text are read off
its bytes, which a closed run computes at a fraction of the cost. -/
def chars (s : String) : List Char :=
  let bytes := s.toByteArray.data.toList
  if bytes.all (· < 128) then bytes.map fun b => Char.ofNat b.toNat else s.toList

theorem utf8Encode_data (l : List Char) :
    l.utf8Encode.data.toList = l.flatMap String.utf8EncodeChar := by
  rw [List.utf8Encode, List.data_toByteArray, List.toList_toArray]

/-- A character whose bytes are all below 128 has one, its own number. -/
theorem map_utf8EncodeChar {c : Char} (h : ∀ b ∈ String.utf8EncodeChar c, b < 128) :
    (String.utf8EncodeChar c).map (fun b => Char.ofNat b.toNat) = [c] := by
  have hbig (n k : Nat) (hk : 128 ≤ k) (hn : n < 256 - k) : ¬ UInt8.ofNat (n + k) < 128 := by
    rw [UInt8.lt_iff_toNat_lt, UInt8.toNat_ofNat']
    simp only [UInt8.toNat_ofNat]
    omega
  simp only [String.utf8EncodeChar] at h ⊢
  split_ifs at h ⊢ with h1 h2 h3
  · have hc : (UInt8.ofNat c.val.toNat).toNat = c.toNat := by
      rw [UInt8.toNat_ofNat']
      exact Nat.mod_eq_of_lt (by omega)
    simp only [List.map_cons, List.map_nil, hc, Char.ofNat_toNat]
  · exact absurd (h _ List.mem_cons_self) (hbig _ _ (by omega) (by omega))
  · exact absurd (h _ List.mem_cons_self) (hbig _ _ (by omega) (by omega))
  · exact absurd (h _ List.mem_cons_self) (hbig _ _ (by omega) (by omega))

theorem map_flatMap_utf8EncodeChar {l : List Char}
    (h : ∀ b ∈ l.flatMap String.utf8EncodeChar, b < 128) :
    (l.flatMap String.utf8EncodeChar).map (fun b => Char.ofNat b.toNat) = l := by
  induction l with
  | nil => rfl
  | cons c l ih =>
    rw [List.flatMap_cons] at h ⊢
    rw [List.map_append, map_utf8EncodeChar fun b hb => h b (List.mem_append_left _ hb),
      ih fun b hb => h b (List.mem_append_right _ hb), List.singleton_append]

theorem chars_eq_toList (s : String) : chars s = s.toList := by
  unfold chars
  simp only
  split_ifs with hall
  · have hbytes : s.toByteArray.data.toList = s.toList.flatMap String.utf8EncodeChar := by
      rw [← utf8Encode_data, String.utf8Encode_toList]
    rw [hbytes] at hall ⊢
    exact map_flatMap_utf8EncodeChar fun b hb => of_decide_eq_true (List.all_eq_true.mp hall b hb)
  · rfl

end ascii

-- Texts as lists of code points, which may hold the surrogates that no encoding has, and their
-- UTF-8. The bytes are those of the strings of Lean.
namespace utf8

/-- A text: its code points. A lone surrogate may be among them. -/
abbrev Text := List Nat

def ofString (s : String) : Text := (ascii.chars s).map Char.toNat

theorem ofString_eq (s : String) : ofString s = s.toList.map Char.toNat :=
  congrArg _ (ascii.chars_eq_toList s)

def toChar? (n : Nat) : Option Char :=
  if h : n.isValidChar then some (Char.ofNatAux n h) else none

/-- Whether every code point is a character: none is a surrogate or out of range. -/
def Encodable (t : Text) : Prop := ∀ n ∈ t, n.isValidChar

instance (t : Text) : Decidable (Encodable t) := by
  unfold Encodable
  infer_instance

/-- The UTF-8 bytes of a text, or none when a code point has none. -/
def encode (t : Text) : Option (List UInt8) :=
  (t.mapM toChar?).map fun cs => (String.ofList cs).toByteArray.data.toList

def decode (b : List UInt8) : Option Text :=
  (String.fromUTF8? ⟨b.toArray⟩).map ofString

theorem toChar?_eq_some {n : Nat} (h : n.isValidChar) : ∃ c, toChar? n = some c ∧ c.toNat = n := by
  refine ⟨Char.ofNatAux n h, dif_pos h, ?_⟩
  rfl

/-- An encodable text is the code points of a string. -/
theorem chars_of_encodable {t : Text} (h : Encodable t) :
    ∃ cs, t.mapM toChar? = some cs ∧ cs.map Char.toNat = t := by
  induction t with
  | nil => exact ⟨[], rfl, rfl⟩
  | cons n t ih =>
    obtain ⟨c, hc, hn⟩ := toChar?_eq_some (h n List.mem_cons_self)
    obtain ⟨cs, hcs, ht⟩ := ih fun m hm => h m (List.mem_cons_of_mem _ hm)
    exact ⟨c :: cs, by simp [hc, hcs], by simp [hn, ht]⟩

theorem fromUTF8?_toByteArray (s : String) : String.fromUTF8? s.toByteArray = some s := by
  unfold String.fromUTF8?
  rw [dif_pos s.isValidUTF8]
  rfl

/-- A text that can be encoded comes back. -/
theorem decode_encode {t : Text} (h : Encodable t) : ∃ b, encode t = some b ∧ decode b = some t := by
  obtain ⟨cs, hcs, ht⟩ := chars_of_encodable h
  refine ⟨(String.ofList cs).toByteArray.data.toList, ?_, ?_⟩
  · unfold encode
    rw [hcs]
    rfl
  · unfold decode
    simp only [Array.toArray_toList]
    rw [fromUTF8?_toByteArray]
    rw [Option.map_some, ofString_eq, String.toList_ofList, ht]

theorem mapM_toChar?_isSome (t : Text) : (t.mapM toChar?).isSome ↔ Encodable t := by
  refine ⟨fun h => ?_, fun h => ?_⟩
  · induction t with
    | nil => exact fun n hn => absurd hn List.not_mem_nil
    | cons n t ih =>
      rw [List.mapM_cons] at h
      cases hn : toChar? n with
      | none => simp [hn] at h
      | some c =>
        cases ht : t.mapM toChar? with
        | none => simp [hn, ht] at h
        | some cs =>
          have hvalid : n.isValidChar := by
            by_contra hinvalid
            rw [toChar?, dif_neg hinvalid] at hn
            cases hn
          exact List.forall_mem_cons.mpr ⟨hvalid, ih (by rw [ht]; rfl)⟩
  · obtain ⟨cs, hcs, -⟩ := chars_of_encodable h
    rw [hcs]
    rfl

/-- The texts that have bytes. -/
theorem encode_isSome (t : Text) : (encode t).isSome ↔ Encodable t := by
  unfold encode
  rw [Option.isSome_map, mapM_toChar?_isSome]

theorem encodable_ofString (s : String) : Encodable (ofString s) := by
  intro n hn
  rw [ofString_eq] at hn
  obtain ⟨c, -, rfl⟩ := List.mem_map.mp hn
  exact c.valid

theorem encodable_append {t u : Text} : Encodable (t ++ u) ↔ Encodable t ∧ Encodable u := by
  simp [Encodable, or_imp, forall_and]

theorem toNat_injective : Function.Injective Char.toNat := fun _ _ h => Char.toNat_inj.mp h

theorem ofString_injective : Function.Injective ofString := by
  intro s t h
  rw [ofString_eq, ofString_eq] at h
  exact String.toList_injective (List.map_injective_iff.mpr toNat_injective h)

theorem mapM_toChar?_ofString (s : String) : (ofString s).mapM toChar? = some s.toList := by
  obtain ⟨cs, hcs, ht⟩ := chars_of_encodable (encodable_ofString s)
  rw [hcs, List.map_injective_iff.mpr toNat_injective (ht.trans (ofString_eq s))]

end utf8
