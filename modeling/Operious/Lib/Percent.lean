-- Percent-encoding, with no character left out of it that means something in a URL.
import Mathlib.Data.List.Basic

namespace percent

/-- The characters that are written as they are. -/
def unreserved (c : Char) : Bool :=
  ('A' ≤ c && c ≤ 'Z') || ('a' ≤ c && c ≤ 'z') || ('0' ≤ c && c ≤ '9') ||
    c = '_' || c = '.' || c = '-' || c = '~'

def hexDigit (n : Nat) : Char := Char.ofNat (if n < 10 then 48 + n else 55 + n)

def quoteByte (b : UInt8) : List Char :=
  ['%', hexDigit (b.toNat / 16), hexDigit (b.toNat % 16)]

def quoteChar (c : Char) : List Char :=
  if unreserved c then [c] else (String.utf8EncodeChar c).flatMap quoteByte

/-- `quote(text, safe="")`. -/
def quote (text : List Char) : List Char := text.flatMap quoteChar

example : quote "a b/c".toList = "a%20b%2Fc".toList := by decide +kernel

example : quote ['é'] = "%C3%A9".toList := by decide +kernel

theorem length_quoteChar (c : Char) : 1 ≤ (quoteChar c).length := by
  unfold quoteChar
  split
  · exact Nat.le_refl 1
  · have hbytes : 1 ≤ (String.utf8EncodeChar c).length := by
      rw [String.length_utf8EncodeChar]
      exact c.utf8Size_pos
    cases h : String.utf8EncodeChar c with
    | nil => simp [h] at hbytes
    | cons b rest => simp [quoteByte]

/-- A text is not longer than it is percent-encoded. -/
theorem length_le_length_quote (text : List Char) : text.length ≤ (quote text).length := by
  induction text with
  | nil => exact Nat.le_refl 0
  | cons c rest ih =>
    have hc := length_quoteChar c
    simp only [quote, List.flatMap_cons, List.length_append, List.length_cons]
    simp only [quote] at ih
    omega

theorem quote_of_unreserved {text : List Char} (h : ∀ c ∈ text, unreserved c = true) :
    quote text = text := by
  induction text with
  | nil => rfl
  | cons c rest ih =>
    have hc : quoteChar c = [c] := if_pos (h c List.mem_cons_self)
    have hrest := ih fun d hd => h d (List.mem_cons_of_mem c hd)
    rw [quote, List.flatMap_cons, hc]
    exact congrArg (c :: ·) hrest

/-- The letters of a percent-encoded text: the sign and what is written as it is. -/
theorem head_quoteChar {c d : Char} (h : (quoteChar c).head? = some d) :
    d = '%' ∨ d = c ∧ unreserved c = true := by
  unfold quoteChar at h
  split at h
  · rename_i hc
    exact .inr ⟨(Option.some.inj h).symm, hc⟩
  · left
    cases hbytes : String.utf8EncodeChar c with
    | nil => simp [hbytes] at h
    | cons b rest => simpa [hbytes, quoteByte, eq_comm] using h

/-- Percent-encoding leaves as they are the texts of unreserved characters, and no others. -/
theorem quote_eq_self_iff {text : List Char} :
    quote text = text ↔ ∀ c ∈ text, unreserved c = true := by
  constructor
  · intro h
    induction text with
    | nil => simp
    | cons c rest ih =>
      have hc := length_quoteChar c
      have hrest := length_le_length_quote rest
      have hcut : quoteChar c ++ quote rest = [c] ++ rest := h
      have hlength := congrArg List.length hcut
      simp only [List.length_append, List.length_singleton] at hlength
      obtain ⟨hhead, htail⟩ := List.append_inj hcut (by simp; omega)
      intro d hd
      obtain rfl | hd := List.mem_cons.mp hd
      · have hfirst : (quoteChar d).head? = some d := by rw [hhead]; rfl
        obtain rfl | ⟨-, hunreserved⟩ := head_quoteChar hfirst
        · exact absurd hhead (by decide +kernel)
        · exact hunreserved
      · exact ih htail d hd
  · exact quote_of_unreserved

end percent
