-- The chunker of a tenant's documents. A window starts where the one before it ended less the overlap,
-- or one character after its start, and it ends at a blank when there is one behind the smallest size.
-- So a window can end where the one before it did, and its chunk repeats what was said.
import Mathlib.Data.List.Chain
import Mathlib.Data.List.Infix
import Mathlib.Logic.Relation
import Operious.Resolution.Records

namespace operious.knowledge

open operious.resolution (Sha256 sha256_text)

structure KnowledgeChunk where
  ordinal : Nat
  content : List Char
  content_hash : String
  token_count : Nat
  char_start : Nat
  char_end : Nat
  deriving DecidableEq, Repr

/-- The sizes that the constructor lets pass. -/
structure DeterministicKnowledgeChunker where
  target_size : Nat
  overlap : Nat
  min_size : Nat
  overlap_lt : overlap < target_size
  min_size_pos : 0 < min_size
  min_size_le : min_size ≤ target_size

/-- The constructor, with the texts of its errors. -/
def DeterministicKnowledgeChunker.init (target_size overlap min_size : Int) :
    Except String DeterministicKnowledgeChunker :=
  if target_size ≤ 0 then .error "target_size must be > 0"
  else if overlap < 0 then .error "overlap must be >= 0"
  else if hoverlap : overlap ≥ target_size then .error "overlap must be smaller than target_size"
  else if hmin : min_size ≤ 0 then .error "min_size must be > 0"
  else if htarget : min_size > target_size then .error "min_size must be <= target_size"
  else .ok {
    target_size := target_size.toNat
    overlap := overlap.toNat
    min_size := min_size.toNat
    overlap_lt := by omega
    min_size_pos := by omega
    min_size_le := by omega }

/-! ## The model -/

/-- `text[start:end]`. -/
def slice (text : List Char) (start e : Nat) : List Char := (text.take e).drop start

/-- `text.rfind(" ", lo, hi)`: the last blank from `lo` on and before `hi`. -/
def rfind_blank (text : List Char) (lo hi : Nat) : Option Nat :=
  (List.range hi).reverse.find? fun i => lo ≤ i && text[i]? == some ' '

def stable_boundary (text : List Char) (start raw_end min_size : Nat) : Nat :=
  if raw_end ≥ text.length then text.length
  else
    match rfind_blank text (min text.length (start + min_size)) (raw_end + 1) with
    | none => raw_end
    | some boundary => if boundary ≤ start then raw_end else boundary

def estimate_tokens (text : List Char) : Nat :=
  if text = [] then 0 else max 1 ((text.length + 3) / 4)

/-- The loop that steps over white space: the first place from `n` on without it. -/
def skip_spaces (text : List Char) (n : Nat) : Nat :=
  n + (text.drop n).findIdx fun ch => !isSpace ch

namespace DeterministicKnowledgeChunker

variable (c : DeterministicKnowledgeChunker) (text : List Char)

/-- Where the window from `start` ends. -/
def window_end (start : Nat) : Nat :=
  stable_boundary text start (min text.length (start + c.target_size)) c.min_size

/-- Where the pass after the one from `start` starts. A difference below zero gives way to `start + 1`,
as zero does. -/
def next_start (start : Nat) : Nat :=
  skip_spaces text (max (c.window_end text start - c.overlap) (start + 1))

theorem lt_next_start (start : Nat) : start < c.next_start text start := by
  unfold next_start skip_spaces
  omega

section

variable [Sha256]

/-- The chunk of the window from `start`, or none when the window is all white space. -/
def chunk_of (ordinal start : Nat) : Option KnowledgeChunk :=
  let window := slice text start (c.window_end text start)
  let chunk_text := (window.dropWhile isSpace).rdropWhile isSpace
  if chunk_text = [] then none
  else some {
    ordinal
    content := chunk_text
    content_hash := sha256_text (String.ofList chunk_text)
    token_count := estimate_tokens chunk_text
    char_start := start + window.length - (window.dropWhile isSpace).length
    char_end := c.window_end text start - (window.length - (window.rdropWhile isSpace).length) }

/-- The loop, from a pass that starts at `start`. -/
def chunkFrom (chunks : List KnowledgeChunk) (start : Nat) : List KnowledgeChunk :=
  if start < text.length then
    let chunks := chunks ++ (c.chunk_of text chunks.length start).toList
    if c.window_end text start ≥ text.length then chunks
    else chunkFrom chunks (c.next_start text start)
  else chunks
termination_by text.length - start
decreasing_by
  have := c.lt_next_start text start
  omega

def chunk (content : String) : List KnowledgeChunk :=
  c.chunkFrom (strip content).toList [] 0

end

end DeterministicKnowledgeChunker

/-! ## The law -/

/-- At the place stands a character other than white space. -/
def Solid (text : List Char) (i : Nat) : Prop := ∃ ch, text[i]? = some ch ∧ isSpace ch = false

/-- The text neither begins nor ends with white space. -/
def Stripped (text : List Char) : Prop := text ≠ [] → Solid text 0 ∧ Solid text (text.length - 1)

/-- The span of `a` lies in the span of `b`. -/
def KnowledgeChunk.Within (a b : KnowledgeChunk) : Prop :=
  b.char_start ≤ a.char_start ∧ a.char_end ≤ b.char_end

structure Covers (c : DeterministicKnowledgeChunker) (text : List Char) (chunks : List KnowledgeChunk) :
    Prop where
  numbered : chunks.map KnowledgeChunk.ordinal = List.range chunks.length
  increasing : chunks.Pairwise fun a b => a.char_start < b.char_start
  content : ∀ ch ∈ chunks, ch.content = slice text ch.char_start ch.char_end
  bare : ∀ ch ∈ chunks, ch.content ≠ [] ∧ Stripped ch.content
  bounded : ∀ ch ∈ chunks, ch.content.length ≤ c.target_size
  covered : ∀ i, Solid text i → ∃ ch ∈ chunks, ch.char_start ≤ i ∧ i < ch.char_end
  shared : chunks.IsChain fun a b =>
    min a.char_end b.char_end - max a.char_start b.char_start ≤ c.overlap
  unnested : chunks.Pairwise fun a b => ¬ a.Within b ∧ ¬ b.Within a

/-- After a pass of the loop from `start`, one from `next` is made. -/
def DeterministicKnowledgeChunker.Follows (c : DeterministicKnowledgeChunker) (text : List Char)
    (start next : Nat) : Prop :=
  c.window_end text start < text.length ∧ next = c.next_start text start

/-- Each pass of the loop takes in a character other than white space behind the window of the pass
before. -/
def DeterministicKnowledgeChunker.Advances (c : DeterministicKnowledgeChunker) (text : List Char) :
    Prop :=
  ∀ start next, Relation.ReflTransGen (c.Follows text) 0 start → c.Follows text start next →
    ∃ i, c.window_end text start ≤ i ∧ i < c.window_end text next ∧ Solid text i

/-! ## One window -/

variable {text : List Char} {i : Nat}

theorem solid_lt (h : Solid text i) : i < text.length := by
  obtain ⟨ch, hch, -⟩ := h
  exact (List.getElem?_eq_some_iff.mp hch).1

theorem rfind_blank_some {lo hi : Nat} (h : rfind_blank text lo hi = some i) :
    lo ≤ i ∧ i < hi ∧ text[i]? = some ' ' := by
  have hi' := List.mem_range.mp (List.mem_reverse.mp (List.mem_of_find?_eq_some h))
  have hp := List.find?_some h
  simp only [Bool.and_eq_true, decide_eq_true_eq, beq_iff_eq] at hp
  exact ⟨hp.1, hi', hp.2⟩

variable {start : Nat}

theorem window_end_spec (c : DeterministicKnowledgeChunker) (h : start < text.length) :
    start < c.window_end text start ∧ c.window_end text start ≤ text.length ∧
      c.window_end text start ≤ start + c.target_size := by
  have hsize := c.overlap_lt
  unfold DeterministicKnowledgeChunker.window_end stable_boundary
  split
  · omega
  · split
    · omega
    · rename_i boundary hfind
      obtain ⟨-, hhi, -⟩ := rfind_blank_some hfind
      split <;> omega

theorem skip_spaces_ge (text : List Char) (n : Nat) : n ≤ skip_spaces text n := Nat.le_add_right ..

theorem not_solid_of_lt_skip {n : Nat} (hn : n ≤ i) (hi : i < skip_spaces text n) :
    ¬ Solid text i := by
  intro ⟨ch, hch, hsolid⟩
  have hlt : i - n < (text.drop n).findIdx fun ch => !isSpace ch := by
    unfold skip_spaces at hi
    omega
  have hspace := List.not_of_lt_findIdx hlt
  have hget : (text.drop n)[i - n]? = some ch := by
    rw [List.getElem?_drop, Nat.add_sub_cancel' hn, hch]
  obtain ⟨hlen, hget⟩ := List.getElem?_eq_some_iff.mp hget
  rw [hget] at hspace
  simp [hsolid] at hspace

theorem solid_skip {n last : Nat} (hn : n ≤ last) (hlast : Solid text last) :
    Solid text (skip_spaces text n) ∧ skip_spaces text n ≤ last := by
  have hle : skip_spaces text n ≤ last :=
    Nat.le_of_not_lt fun h => not_solid_of_lt_skip hn h hlast
  have hlt : skip_spaces text n < text.length := Nat.lt_of_le_of_lt hle (solid_lt hlast)
  refine ⟨⟨text[skip_spaces text n], List.getElem?_eq_getElem hlt, ?_⟩, hle⟩
  have hidx : ((text.drop n).findIdx fun ch => !isSpace ch) < (text.drop n).length := by
    rw [List.length_drop]
    unfold skip_spaces at hlt
    omega
  have hget := List.findIdx_getElem (w := hidx)
  rw [List.getElem_drop] at hget
  simpa [skip_spaces] using hget

theorem next_start_spec (c : DeterministicKnowledgeChunker) (htext : Stripped text)
    (h : start < text.length) (hend : c.window_end text start < text.length) :
    Solid text (c.next_start text start) ∧
      c.window_end text start ≤ c.next_start text start + c.overlap ∧
      ∀ i, c.window_end text start ≤ i → i < c.next_start text start → ¬ Solid text i := by
  obtain ⟨hstart, -, -⟩ := window_end_spec c h
  have hne : text ≠ [] := List.ne_nil_of_length_pos (Nat.zero_lt_of_lt h)
  have hlast := (htext hne).2
  obtain ⟨hsolid, -⟩ := solid_skip (n := max (c.window_end text start - c.overlap) (start + 1))
    (by omega) hlast
  refine ⟨hsolid, ?_, fun i hi hlt => not_solid_of_lt_skip ?_ hlt⟩
  · have := skip_spaces_ge text (max (c.window_end text start - c.overlap) (start + 1))
    unfold DeterministicKnowledgeChunker.next_start
    omega
  · omega

variable {e : Nat}

theorem slice_getElem? (h : start + i < e) : (slice text start e)[i]? = text[start + i]? := by
  unfold slice
  rw [List.getElem?_drop, List.getElem?_take_of_lt h]

theorem slice_length (h : e ≤ text.length) : (slice text start e).length = e - start := by
  unfold slice
  rw [List.length_drop, List.length_take, Nat.min_eq_left h]

theorem solid_slice (h : start + i < e) :
    Solid (slice text start e) i ↔ Solid text (start + i) := by
  unfold Solid
  rw [slice_getElem? h]

theorem dropWhile_of_solid (h : Solid text 0) : text.dropWhile isSpace = text := by
  obtain ⟨ch, hch, hsolid⟩ := h
  rw [List.dropWhile_eq_self_iff]
  intro hpos
  rw [List.getElem?_eq_getElem hpos, Option.some.injEq] at hch
  rw [hch, hsolid]
  exact Bool.false_ne_true

theorem rstrip_spec (h : Solid text 0) :
    0 < (text.rdropWhile isSpace).length ∧
      Solid text ((text.rdropWhile isSpace).length - 1) ∧
      ∀ i, (text.rdropWhile isSpace).length ≤ i → ¬ Solid text i := by
  have hsplit := List.rdropWhile_append_rtakeWhile (p := isSpace) (l := text)
  have hrest : ∀ i, (text.rdropWhile isSpace).length ≤ i → ¬ Solid text i := by
    intro i hi ⟨ch, hch, hsolid⟩
    rw [← hsplit, List.getElem?_append_right hi] at hch
    have hspace := List.mem_rtakeWhile_imp (List.mem_of_getElem? hch)
    rw [hsolid] at hspace
    cases hspace
  have hpos : 0 < (text.rdropWhile isSpace).length :=
    Nat.pos_of_ne_zero fun hzero => hrest 0 (Nat.le_of_eq hzero) h
  refine ⟨hpos, ?_, hrest⟩
  have hne : text.rdropWhile isSpace ≠ [] := List.ne_nil_of_length_pos hpos
  refine ⟨(text.rdropWhile isSpace).getLast hne, ?_, ?_⟩
  · have hlast := List.getLast_eq_getElem hne
    have hget := (List.rdropWhile_prefix isSpace text).getElem
      (Nat.sub_lt hpos Nat.one_pos)
    rw [hlast, hget]
    exact List.getElem?_eq_getElem _
  · simpa using List.rdropWhile_last_not isSpace text hne

section

variable (c : DeterministicKnowledgeChunker) (text : List Char)

/-- What the chunk of the window from `start` is. -/
structure IsChunk (ordinal start : Nat) (ch : KnowledgeChunk) : Prop where
  ordinal : ch.ordinal = ordinal
  char_start : ch.char_start = start
  content : ch.content = slice text start ch.char_end
  lt_end : start < ch.char_end
  end_le : ch.char_end ≤ c.window_end text start
  last : Solid text (ch.char_end - 1)
  rest : ∀ i, ch.char_end ≤ i → i < c.window_end text start → ¬ Solid text i

variable {c text}

theorem chunk_of_spec [Sha256] (ordinal : Nat) (h : Solid text start) :
    ∃ ch, c.chunk_of text ordinal start = some ch ∧ IsChunk c text ordinal start ch := by
  obtain ⟨hstart, hend, -⟩ := window_end_spec c (solid_lt h)
  set e := c.window_end text start with he
  have hlength : (slice text start e).length = e - start := slice_length hend
  have hfirst : Solid (slice text start e) 0 := (solid_slice hstart).mpr h
  have hdrop := dropWhile_of_solid hfirst
  obtain ⟨hpos, hlast, hrest⟩ := rstrip_spec hfirst
  have hle : ((slice text start e).rdropWhile isSpace).length ≤ e - start := by
    rw [← hlength]
    exact (List.rdropWhile_prefix isSpace _).length_le
  set kept := (slice text start e).rdropWhile isSpace with hkept
  have hspan : e - ((slice text start e).length - kept.length) = start + kept.length := by omega
  have hne : kept ≠ [] := List.ne_nil_of_length_pos hpos
  have hch : c.chunk_of text ordinal start = some {
      ordinal
      content := kept
      content_hash := sha256_text (String.ofList kept)
      token_count := estimate_tokens kept
      char_start := start
      char_end := start + kept.length } := by
    unfold DeterministicKnowledgeChunker.chunk_of
    simp only [← he, hdrop, ← hkept, if_neg hne, hspan, Nat.add_sub_cancel]
  refine ⟨_, hch, ?_⟩
  exact {
    ordinal := rfl
    char_start := rfl
    content := by
      have hprefix := List.prefix_iff_eq_take.mp (List.rdropWhile_prefix isSpace (slice text start e))
      rw [← hkept] at hprefix
      conv_lhs => rw [ hprefix]
      unfold slice
      rw [List.take_drop, List.take_take, Nat.min_eq_left (by omega)]
    lt_end := Nat.lt_add_of_pos_right hpos
    end_le := by
      rw [← he]
      exact Nat.add_le_of_le_sub' hstart.le hle
    last := by
      have hplace : start + kept.length - 1 = start + (kept.length - 1) := by omega
      rw [hplace]
      exact (solid_slice (by omega)).mp hlast
    rest := by
      intro i hi hlt
      have hplace : start + (i - start) = i := Nat.add_sub_cancel' (Nat.le_of_add_right_le hi)
      have hblank := hrest (i - start) (Nat.le_sub_of_add_le' hi)
      rwa [solid_slice (by omega), hplace] at hblank }

/-! ## All windows -/

variable (c text) in
/-- The chunks that the passes of the loop make, from one that starts at `start` on. -/
inductive Tiles : Nat → Nat → List KnowledgeChunk → Prop
  | last {ordinal start : Nat} {ch : KnowledgeChunk} (solid : Solid text start)
      (first : IsChunk c text ordinal start ch) (done : text.length ≤ c.window_end text start) :
      Tiles ordinal start [ch]
  | step {ordinal start next : Nat} {ch : KnowledgeChunk} {chunks : List KnowledgeChunk}
      (solid : Solid text start) (first : IsChunk c text ordinal start ch)
      (follows : c.Follows text start next) (rest : Tiles (ordinal + 1) next chunks) :
      Tiles ordinal start (ch :: chunks)

theorem chunkFrom_eq [Sha256] (htext : Stripped text) (chunks : List KnowledgeChunk) {start : Nat}
    (h : Solid text start) :
    ∃ made, c.chunkFrom text chunks start = chunks ++ made ∧
      Tiles c text chunks.length start made := by
  have hlt := solid_lt h
  obtain ⟨ch, hch, hspec⟩ := chunk_of_spec (c := c) chunks.length h
  rw [DeterministicKnowledgeChunker.chunkFrom, if_pos hlt]
  simp only [hch, Option.toList_some]
  split
  · rename_i hdone
    exact ⟨[ch], rfl, .last h hspec hdone⟩
  · rename_i hdone
    have hend := Nat.lt_of_not_le hdone
    obtain ⟨hsolid, -, -⟩ := next_start_spec c htext hlt hend
    have hbehind := c.lt_next_start text start
    obtain ⟨made, hmade, htiles⟩ := chunkFrom_eq htext (chunks ++ [ch]) hsolid
    rw [List.length_append, List.length_singleton] at htiles
    exact ⟨ch :: made, by rw [hmade, List.append_assoc]; rfl, .step h hspec ⟨hend, rfl⟩ htiles⟩
termination_by text.length - start

namespace Tiles

variable {ordinal start : Nat} {chunks : List KnowledgeChunk}

theorem head (h : Tiles c text ordinal start chunks) :
    ∃ ch rest, chunks = ch :: rest ∧ IsChunk c text ordinal start ch := by
  cases h with
  | last _ first _ => exact ⟨_, _, rfl, first⟩
  | step _ first _ _ => exact ⟨_, _, rfl, first⟩

theorem each (h : Tiles c text ordinal start chunks) : ∀ ch ∈ chunks,
    ∃ k s, start ≤ s ∧ Solid text s ∧ IsChunk c text k s ch := by
  induction h with
  | last solid first _ =>
    intro ch hch
    rw [List.mem_singleton.mp hch]
    exact ⟨_, _, Nat.le_refl _, solid, first⟩
  | step solid first follows _ ih =>
    intro ch hch
    obtain rfl | hch := List.mem_cons.mp hch
    · exact ⟨_, _, Nat.le_refl _, solid, first⟩
    · obtain ⟨k, s, hs, hsolid, hspec⟩ := ih ch hch
      rw [follows.2] at hs
      exact ⟨k, s, (c.lt_next_start text _).le.trans hs, hsolid, hspec⟩

/-- The content of a chunk is its span of the text, of a bounded size and without white space at the ends. -/
theorem bare (h : Tiles c text ordinal start chunks) : ∀ ch ∈ chunks,
    ch.content = slice text ch.char_start ch.char_end ∧ ch.content.length ≤ c.target_size ∧
      ch.content ≠ [] ∧ Stripped ch.content := by
  intro ch hch
  obtain ⟨k, s, -, hsolid, hspec⟩ := h.each ch hch
  obtain ⟨-, hend, hsize⟩ := window_end_spec c (solid_lt hsolid)
  have hlt := hspec.lt_end
  have hle := hspec.end_le
  have hcontent := hspec.content
  have hlen : (slice text s ch.char_end).length = ch.char_end - s := slice_length (hle.trans hend)
  rw [← hcontent] at hlen
  rw [hspec.char_start]
  refine ⟨hcontent, by omega, List.ne_nil_of_length_pos (by omega), fun _ => ⟨?_, ?_⟩⟩
  · rw [hcontent]
    exact (solid_slice hlt).mpr hsolid
  · have hplace : s + (ch.content.length - 1) = ch.char_end - 1 := by omega
    have hlast := hspec.last
    rw [← hplace, ← solid_slice (e := ch.char_end) (by omega), ← hcontent] at hlast
    exact hlast

theorem numbered (h : Tiles c text ordinal start chunks) :
    chunks.map KnowledgeChunk.ordinal = List.range' ordinal chunks.length := by
  induction h with
  | last _ first _ => simp [first.ordinal]
  | step _ first _ _ ih => rw [List.map_cons, first.ordinal, ih, List.length_cons, List.range'_succ]

theorem increasing (h : Tiles c text ordinal start chunks) :
    chunks.Pairwise fun a b => a.char_start < b.char_start := by
  induction h with
  | last _ _ _ => exact List.pairwise_singleton _ _
  | step _ first follows rest ih =>
    refine List.pairwise_cons.mpr ⟨fun ch hch => ?_, ih⟩
    obtain ⟨k, s, hs, -, hspec⟩ := rest.each ch hch
    rw [first.char_start, hspec.char_start]
    rw [follows.2] at hs
    exact Nat.lt_of_lt_of_le (c.lt_next_start text _) hs

theorem covered (h : Tiles c text ordinal start chunks) (htext : Stripped text) : ∀ i, start ≤ i →
    Solid text i → ∃ ch ∈ chunks, ch.char_start ≤ i ∧ i < ch.char_end := by
  have hfirst : ∀ {k s ch} (_ : IsChunk c text k s ch) {i}, s ≤ i → Solid text i →
      i < c.window_end text s → ch.char_start ≤ i ∧ i < ch.char_end := by
    intro k s ch first i hi hsolid hlt
    rw [first.char_start]
    exact ⟨hi, Nat.lt_of_not_le fun hge => first.rest i hge hlt hsolid⟩
  induction h with
  | last _ first done =>
    intro i hi hsolid
    have hlt := Nat.lt_of_lt_of_le (solid_lt hsolid) done
    exact ⟨_, List.mem_singleton_self _, hfirst first hi hsolid hlt⟩
  | step solid first follows _ ih =>
    intro i hi hsolid
    obtain ⟨-, -, hgap⟩ := next_start_spec c htext (solid_lt solid) follows.1
    rcases Nat.lt_or_ge i (c.window_end text _) with hlt | hge
    · exact ⟨_, List.mem_cons_self, hfirst first hi hsolid hlt⟩
    · have hnext := Nat.le_of_not_lt fun hlt => hgap i hge (follows.2 ▸ hlt) hsolid
      obtain ⟨ch, hch, hspan⟩ := ih i hnext hsolid
      exact ⟨ch, List.mem_cons_of_mem _ hch, hspan⟩

theorem chain_iff {R : KnowledgeChunk → KnowledgeChunk → Prop} {P : Nat → Nat → Prop}
    (hpair : ∀ {k k' s next a b}, Solid text s → c.Follows text s next → IsChunk c text k s a →
      IsChunk c text k' next b → (R a b ↔ P s next))
    (h : Tiles c text ordinal start chunks) : chunks.IsChain R ↔ ∀ s next,
      Relation.ReflTransGen (c.Follows text) start s → c.Follows text s next → P s next := by
  induction h with
  | last _ _ done =>
    refine iff_of_true (List.isChain_singleton _) fun s next hs hnext => ?_
    rcases hs.cases_head with rfl | ⟨_, hfirst, -⟩
    · exact absurd done (Nat.not_le_of_lt hnext.1)
    · exact absurd done (Nat.not_le_of_lt hfirst.1)
  | @step _ start next ch chunks solid first follows rest ih =>
    obtain ⟨ch', rest', rfl, hfirst'⟩ := rest.head
    rw [List.isChain_cons_cons, hpair solid follows first hfirst', ih]
    constructor
    · rintro ⟨hhere, hlater⟩ s next' hs hnext
      rcases hs.cases_head with rfl | ⟨mid, hmid, hs⟩
      · rwa [hnext.2, ← follows.2]
      · rw [hmid.2, ← follows.2] at hs
        exact hlater s next' hs hnext
    · intro hall
      exact ⟨hall _ _ .refl follows, fun s next' hs hnext => hall s next' (hs.head follows) hnext⟩

theorem shared (h : Tiles c text ordinal start chunks) (htext : Stripped text) :
    chunks.IsChain fun a b =>
      min a.char_end b.char_end - max a.char_start b.char_start ≤ c.overlap := by
  refine (h.chain_iff (P := fun _ _ => True) ?_).mpr fun _ _ _ _ => trivial
  intro k k' s next a b hsolid hfollows ha hb
  obtain ⟨-, hback, -⟩ := next_start_spec c htext (solid_lt hsolid) hfollows.1
  rw [← hfollows.2, ← hb.char_start] at hback
  have hend := ha.end_le
  exact iff_of_true (by omega) trivial

theorem unnested_iff (h : Tiles c text ordinal start chunks) :
    (chunks.Pairwise fun a b => ¬ a.Within b ∧ ¬ b.Within a) ↔
      ∀ s next, Relation.ReflTransGen (c.Follows text) start s → c.Follows text s next →
        ∃ i, c.window_end text s ≤ i ∧ i < c.window_end text next ∧ Solid text i := by
  have hpair : (chunks.Pairwise fun a b => ¬ a.Within b ∧ ¬ b.Within a) ↔
      chunks.Pairwise fun a b => a.char_end < b.char_end := by
    refine ⟨fun hp => ?_, fun hp => ?_⟩
    · refine (h.increasing.and hp).imp fun {a b} hab => ?_
      exact Nat.lt_of_not_le fun hle => hab.2.2 ⟨hab.1.le, hle⟩
    · refine (h.increasing.and hp).imp fun {a b} hab => ?_
      exact ⟨fun hw => absurd hw.1 (Nat.not_le_of_lt hab.1),
        fun hw => absurd hw.2 (Nat.not_le_of_lt hab.2)⟩
  have htrans : IsTrans KnowledgeChunk fun a b => a.char_end < b.char_end :=
    ⟨fun _ _ _ => Nat.lt_trans⟩
  rw [hpair, ← List.isChain_iff_pairwise]
  refine h.chain_iff fun {k k' s next a b} _ _ ha hb => ⟨fun hlt => ?_, ?_⟩
  · -- the last character of the later chunk is behind the window of the earlier one
    have hpos := hb.lt_end
    refine ⟨b.char_end - 1, Nat.le_of_not_lt fun hlt' => ?_, ?_, hb.last⟩
    · exact ha.rest _ (Nat.le_sub_one_of_lt hlt) hlt' hb.last
    · exact Nat.lt_of_lt_of_le (Nat.sub_one_lt_of_lt hpos) hb.end_le
  · rintro ⟨i, hge, hlt, hsolid⟩
    have hin := Nat.lt_of_not_le fun hle => hb.rest i hle hlt hsolid
    exact Nat.lt_of_le_of_lt (ha.end_le.trans hge) hin

end Tiles

end

/-! ## The chunker -/

theorem stripped_strip (content : String) : Stripped (strip content).toList := by
  intro hne
  have hpos := List.length_pos_of_ne_nil hne
  have hdrop : (strip content).toList.dropWhile isSpace = (strip content).toList := by
    have hself := congrArg String.toList (strip_strip content)
    rw [strip_toList] at hself
    have hle := (List.rdropWhile_prefix isSpace ((strip content).toList.dropWhile isSpace)).length_le
    rw [hself] at hle
    exact (List.dropWhile_suffix isSpace).eq_of_length_le hle
  have hfirst : Solid (strip content).toList 0 := by
    refine ⟨(strip content).toList[0], List.getElem?_eq_getElem hpos, ?_⟩
    simpa using List.dropWhile_eq_self_iff.mp hdrop hpos
  have hkept : (strip content).toList.rdropWhile isSpace = (strip content).toList := by
    rw [strip_toList, List.rdropWhile_idempotent]
  obtain ⟨-, hlast, -⟩ := rstrip_spec hfirst
  rw [hkept] at hlast
  exact ⟨hfirst, hlast⟩

section

variable [Sha256] {c : DeterministicKnowledgeChunker} {text : List Char}

theorem covers_iff (htext : Stripped text) :
    Covers c text (c.chunkFrom text [] 0) ↔ c.Advances text := by
  rcases eq_or_ne text [] with rfl | hne
  · rw [DeterministicKnowledgeChunker.chunkFrom, if_neg (by simp)]
    refine iff_of_true ?_ fun start next _ hnext => absurd hnext.1 (Nat.not_lt_zero _)
    exact {
      numbered := rfl
      increasing := .nil
      content := fun ch hch => by cases hch
      bare := fun ch hch => by cases hch
      bounded := fun ch hch => by cases hch
      covered := fun i hi => absurd (solid_lt hi) (Nat.not_lt_zero i)
      shared := .nil
      unnested := .nil }
  obtain ⟨made, hmade, htiles⟩ := chunkFrom_eq (c := c) htext [] (htext hne).1
  rw [List.nil_append] at hmade
  rw [hmade]
  refine ⟨fun h => htiles.unnested_iff.mp h.unnested, fun h => ?_⟩
  exact {
    numbered := by rw [htiles.numbered, List.length_nil, List.range_eq_range']
    increasing := htiles.increasing
    content := fun ch hch => (htiles.bare ch hch).1
    bare := fun ch hch => (htiles.bare ch hch).2.2
    bounded := fun ch hch => (htiles.bare ch hch).2.1
    covered := fun i hi => htiles.covered htext i (Nat.zero_le i) hi
    shared := htiles.shared htext
    unnested := htiles.unnested_iff.mpr h }

variable (c) in
/-- Whatever the overlap, the chunks of a text are numbered spans of it, of a bounded size, and each character
other than white space is in one. -/
theorem chunks_keep_the_text (content : String) :
    (c.chunk content).map KnowledgeChunk.ordinal = List.range (c.chunk content).length ∧
      ((c.chunk content).Pairwise fun a b => a.char_start < b.char_start) ∧
      (∀ ch ∈ c.chunk content, ch.content = slice (strip content).toList ch.char_start ch.char_end ∧
        ch.content.length ≤ c.target_size ∧ ch.content ≠ [] ∧ Stripped ch.content) ∧
      (∀ i, Solid (strip content).toList i →
        ∃ ch ∈ c.chunk content, ch.char_start ≤ i ∧ i < ch.char_end) ∧
      (c.chunk content).IsChain fun a b =>
        min a.char_end b.char_end - max a.char_start b.char_start ≤ c.overlap := by
  have htext := stripped_strip content
  unfold DeterministicKnowledgeChunker.chunk
  generalize (strip content).toList = text at htext ⊢
  rcases eq_or_ne text [] with rfl | hne
  · rw [DeterministicKnowledgeChunker.chunkFrom, if_neg (by simp)]
    exact ⟨rfl, .nil, fun _ h => (nomatch h), fun i hi => absurd (solid_lt hi) (Nat.not_lt_zero i), .nil⟩
  · obtain ⟨made, hmade, htiles⟩ := chunkFrom_eq (c := c) htext [] (htext hne).1
    rw [List.nil_append] at hmade
    rw [hmade]
    exact ⟨by rw [htiles.numbered, List.length_nil, List.range_eq_range'], htiles.increasing,
      htiles.bare, fun i hi => htiles.covered htext i (Nat.zero_le i) hi, htiles.shared htext⟩

omit [Sha256] in
theorem advances_of_no_overlap (hnone : c.overlap = 0) (htext : Stripped text) : c.Advances text := by
  intro start next _ ⟨hend, hnext⟩
  have hstart : start < text.length := by
    by_contra hge
    have hlen : text.length ≤ min text.length (start + c.target_size) := by omega
    unfold DeterministicKnowledgeChunker.window_end stable_boundary at hend
    rw [if_pos hlen] at hend
    exact Nat.lt_irrefl _ hend
  obtain ⟨hsolid, hback, -⟩ := next_start_spec c htext hstart hend
  rw [hnone, Nat.add_zero] at hback
  rw [hnext]
  exact ⟨_, hback, (window_end_spec c (solid_lt hsolid)).1, hsolid⟩

end

/-! ## A text on which an overlap repeats -/

/-- A word that the overlap cuts before its last letter, a window of blanks, and a letter. -/
def word_and_blanks (c : DeterministicKnowledgeChunker) : List Char :=
  List.replicate (c.target_size - c.overlap + 1) 'a' ++
    (List.replicate c.target_size ' ' ++ ['b'])

section

variable {c : DeterministicKnowledgeChunker}

theorem word_and_blanks_length :
    (word_and_blanks c).length = c.target_size - c.overlap + 1 + (c.target_size + 1) := by
  simp [word_and_blanks]

theorem word_get (h : i ≤ c.target_size - c.overlap) : (word_and_blanks c)[i]? = some 'a' := by
  have hlt := Nat.lt_add_one_of_le h
  unfold word_and_blanks
  rw [List.getElem?_append_left (by rwa [List.length_replicate]), List.getElem?_replicate, if_pos hlt]

theorem blanks_get (h : c.target_size - c.overlap < i)
    (hi : i < c.target_size - c.overlap + 1 + c.target_size) :
    (word_and_blanks c)[i]? = some ' ' := by
  unfold word_and_blanks
  rw [List.getElem?_append_right (by rw [List.length_replicate]; omega), List.length_replicate,
    List.getElem?_append_left (by rw [List.length_replicate]; omega), List.getElem?_replicate,
    if_pos (by omega)]

theorem rfind_blank_self {lo : Nat} (hlo : lo ≤ i) (h : text[i]? = some ' ') :
    rfind_blank text lo (i + 1) = some i := by
  unfold rfind_blank
  rw [List.range_succ, List.reverse_append]
  simp [hlo, h]

theorem window_end_of_blank (hblank : text[start + c.target_size]? = some ' ') :
    c.window_end text start = start + c.target_size := by
  have hlt := (List.getElem?_eq_some_iff.mp hblank).1
  have hmin := c.min_size_le
  have hsize := c.overlap_lt
  unfold DeterministicKnowledgeChunker.window_end stable_boundary
  rw [Nat.min_eq_right hlt.le, if_neg (Nat.not_le_of_lt hlt),
    rfind_blank_self (by omega) hblank]
  exact if_neg (by omega)

theorem word_and_blanks_stripped : Stripped (word_and_blanks c) := by
  refine fun _ => ⟨⟨'a', word_get (Nat.zero_le _), by decide⟩, 'b', ?_, by decide⟩
  rw [word_and_blanks_length]
  unfold word_and_blanks
  rw [List.getElem?_append_right (by simp), List.getElem?_append_right (by simp)]
  have hplace : c.target_size - c.overlap + 1 + (c.target_size + 1) - 1 -
      (List.replicate (c.target_size - c.overlap + 1) 'a').length -
        (List.replicate c.target_size ' ').length = 0 := by
    simp only [List.length_replicate]
    omega
  rw [hplace]
  rfl

theorem word_and_blanks_repeats (hsome : 0 < c.overlap) : ¬ c.Advances (word_and_blanks c) := by
  have hsize := c.overlap_lt
  have hend : c.window_end (word_and_blanks c) 0 = c.target_size := by
    have hfirst : c.window_end (word_and_blanks c) 0 = 0 + c.target_size :=
      window_end_of_blank (blanks_get (by omega) (by omega))
    rwa [Nat.zero_add] at hfirst
  have hword : Solid (word_and_blanks c) (c.target_size - c.overlap) :=
    ⟨'a', word_get (Nat.le_refl _), by decide⟩
  have hnext : c.next_start (word_and_blanks c) 0 = c.target_size - c.overlap := by
    unfold DeterministicKnowledgeChunker.next_start
    rw [hend, Nat.zero_add, Nat.max_eq_left (Nat.sub_pos_of_lt hsize)]
    exact Nat.le_antisymm (solid_skip (Nat.le_refl _) hword).2 (skip_spaces_ge ..)
  have hend' : c.window_end (word_and_blanks c) (c.target_size - c.overlap) =
      c.target_size - c.overlap + c.target_size :=
    window_end_of_blank (blanks_get (by omega) (by omega))
  intro hadvances
  obtain ⟨i, hge, hlt, ch, hch, hsolid⟩ := hadvances 0 _ .refl
    ⟨by rw [hend, word_and_blanks_length]; omega, hnext.symm⟩
  rw [hend] at hge
  rw [hend'] at hlt
  rw [blanks_get (by omega) (by omega), Option.some.injEq] at hch
  rw [← hch] at hsolid
  revert hsolid
  decide

/-- The chunks of a text cover it without redundancy exactly when each pass of the loop takes in a character
behind the window of the pass before; and they do of every text exactly when there is no overlap. -/
theorem chunks_cover_iff [Sha256] (c : DeterministicKnowledgeChunker) :
    (∀ content, Covers c (strip content).toList (c.chunk content) ↔
      c.Advances (strip content).toList) ∧
    ((∀ content, Covers c (strip content).toList (c.chunk content)) ↔ c.overlap = 0) := by
  have hiff : ∀ content, Covers c (strip content).toList (c.chunk content) ↔
      c.Advances (strip content).toList := fun content => covers_iff (stripped_strip content)
  refine ⟨hiff, fun hall => ?_, fun hnone content => ?_⟩
  · by_contra hsome
    have hself : (strip (String.ofList (word_and_blanks c))).toList = word_and_blanks c := by
      have hne : word_and_blanks c ≠ [] := List.ne_nil_of_length_pos (by
        rw [word_and_blanks_length]
        exact Nat.succ_pos _)
      obtain ⟨hfirst, hlast⟩ := word_and_blanks_stripped (c := c) hne
      rw [strip_toList, String.toList_ofList, dropWhile_of_solid hfirst, List.rdropWhile_eq_self_iff]
      intro hne'
      obtain ⟨ch, hch, hsolid⟩ := hlast
      rw [List.getLast_eq_getElem, (List.getElem?_eq_some_iff.mp hch).2, hsolid]
      exact Bool.false_ne_true
    have hadvances := (hiff _).mp (hall (String.ofList (word_and_blanks c)))
    rw [hself] at hadvances
    exact word_and_blanks_repeats (Nat.pos_of_ne_zero hsome) hadvances
  · exact (hiff content).mpr (advances_of_no_overlap hnone (stripped_strip content))

end

def three_two_one : DeterministicKnowledgeChunker where
  target_size := 3
  overlap := 2
  min_size := 1
  overlap_lt := by decide
  min_size_pos := Nat.one_pos
  min_size_le := by decide

theorem b_within_ab : ¬ ∀ (_ : Sha256) (content : String),
    Covers three_two_one (strip content).toList (three_two_one.chunk content) := by
  intro hall
  let same : Sha256 := ⟨fun text => text⟩
  have hcovers := covers_iff (stripped_strip "ab cd") |>.mp (hall same "ab cd")
  have htext : (strip "ab cd").toList = ['a', 'b', ' ', 'c', 'd'] := by decide +kernel
  rw [htext] at hcovers
  have hends : three_two_one.window_end ['a', 'b', ' ', 'c', 'd'] 0 = 2 ∧
      three_two_one.next_start ['a', 'b', ' ', 'c', 'd'] 0 = 1 ∧
      three_two_one.window_end ['a', 'b', ' ', 'c', 'd'] 1 = 2 := by decide
  obtain ⟨i, hge, hlt, -⟩ := hcovers 0 1 .refl ⟨by rw [hends.1]; decide, hends.2.1.symm⟩
  rw [hends.1] at hge
  rw [hends.2.2] at hlt
  exact absurd hlt (Nat.not_lt_of_le hge)

end operious.knowledge
