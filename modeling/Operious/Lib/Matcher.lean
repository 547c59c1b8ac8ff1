-- Matchers that try their readings of the start of a text in an order, as a backtracking engine does,
-- and the language of what each one reads.
import Mathlib.Computability.Language

/-- The readings of the start of a text, the one tried first in front: what is read, and the rest. -/
abbrev Matcher (α : Type*) := List α → List (List α × List α)

namespace Matcher

variable {α : Type*}

def one (p : α → Bool) : Matcher α
  | [] => []
  | c :: cs => if p c then [([c], cs)] else []

def empty : Matcher α := fun cs => [([], cs)]

def seq (m n : Matcher α) : Matcher α := fun cs =>
  (m cs).flatMap fun p => (n p.2).map fun q => (p.1 ++ q.1, q.2)

def alt (m n : Matcher α) : Matcher α := fun cs => m cs ++ n cs

/-- One of the matchers, the first ones tried first. -/
def oneOf (ms : List (Matcher α)) : Matcher α := fun cs => ms.flatMap fun m => m cs

def manyFrom (m : Matcher α) : Nat → Matcher α
  | 0 => empty
  | n + 1 => alt
    (fun cs => (m cs).flatMap fun p =>
      if p.1.isEmpty then [] else (manyFrom m n p.2).map fun q => (p.1 ++ q.1, q.2))
    empty

/-- As many readings in a row as there are, and then fewer. -/
def many (m : Matcher α) : Matcher α := fun cs => manyFrom m cs.length cs

/-- The expressions one after the other, each character matched as `same` says. -/
def literal (same : α → α → Bool) : List α → Matcher α
  | [] => empty
  | c :: cs => seq (one (same c)) (literal same cs)

/-- The matcher reads exactly the texts of the language. -/
def Reads (m : Matcher α) (L : Language α) : Prop :=
  ∀ cs taken rest, (taken, rest) ∈ m cs ↔ taken ∈ L ∧ taken ++ rest = cs

/-- The texts of one character. -/
def single (p : α → Bool) : Language α := {cs | ∃ c, cs = [c] ∧ p c = true}

variable {cs : List α}

theorem mem_single {p : α → Bool} : cs ∈ single p ↔ ∃ c, cs = [c] ∧ p c = true := Iff.rfl

/-- The texts that spell another, each character as `same` says. -/
def spelling (same : α → α → Bool) (cs : List α) : Language α :=
  {taken | List.Forall₂ (fun c x => same c x = true) cs taken}

theorem mem_spelling {same : α → α → Bool} {cs taken : List α} :
    taken ∈ spelling same cs ↔ List.Forall₂ (fun c x => same c x = true) cs taken := Iff.rfl

theorem reads_one (p : α → Bool) : Reads (one p) (single p) := by
  intro cs taken rest
  rw [mem_single]
  cases cs with
  | nil =>
    refine iff_of_false (by simp [one]) ?_
    rintro ⟨⟨c, rfl, -⟩, hcs⟩
    cases hcs
  | cons c cs =>
    by_cases hc : p c = true
    · simp only [one, hc, if_true, List.mem_singleton, Prod.mk.injEq]
      constructor
      · rintro ⟨rfl, rfl⟩
        exact ⟨⟨c, rfl, hc⟩, rfl⟩
      · rintro ⟨⟨c', rfl, -⟩, hcs⟩
        cases hcs
        exact ⟨rfl, rfl⟩
    · simp only [one, hc, Bool.false_eq_true, if_false, List.not_mem_nil, false_iff]
      rintro ⟨⟨c', rfl, hc'⟩, hcs⟩
      cases hcs
      exact hc hc'

theorem reads_empty : Reads (empty : Matcher α) 1 := by
  intro cs taken rest
  simp only [empty, List.mem_singleton, Prod.mk.injEq, Language.mem_one]
  constructor
  · rintro ⟨rfl, rfl⟩
    exact ⟨rfl, rfl⟩
  · rintro ⟨rfl, rfl⟩
    exact ⟨rfl, rfl⟩

theorem Reads.seq {m n : Matcher α} {L M : Language α} (hm : Reads m L) (hn : Reads n M) :
    Reads (seq m n) (L * M) := by
  intro cs taken rest
  simp only [Matcher.seq, List.mem_flatMap, List.mem_map, Prod.exists, Prod.mk.injEq,
    Language.mem_mul]
  constructor
  · rintro ⟨a, tail, ha, b, rest', hb, rfl, rfl⟩
    obtain ⟨haL, rfl⟩ := (hm _ _ _).mp ha
    obtain ⟨hbM, rfl⟩ := (hn _ _ _).mp hb
    exact ⟨⟨a, haL, b, hbM, rfl⟩, List.append_assoc a b rest'⟩
  · rintro ⟨⟨a, ha, b, hb, rfl⟩, rfl⟩
    refine ⟨a, b ++ rest, (hm _ _ _).mpr ⟨ha, (List.append_assoc a b rest).symm⟩, b, rest,
      (hn _ _ _).mpr ⟨hb, rfl⟩, rfl, rfl⟩

theorem Reads.alt {m n : Matcher α} {L M : Language α} (hm : Reads m L) (hn : Reads n M) :
    Reads (alt m n) (L + M) := by
  intro cs taken rest
  rw [Matcher.alt, List.mem_append, hm, hn, Language.mem_add, or_and_right]

theorem reads_oneOf {ι : Type*} {is : List ι} {m : ι → Matcher α} {L : ι → Language α}
    (h : ∀ i ∈ is, Reads (m i) (L i)) : Reads (oneOf (is.map m)) {cs | ∃ i ∈ is, cs ∈ L i} := by
  intro cs taken rest
  simp only [oneOf, List.mem_flatMap, List.mem_map, exists_exists_and_eq_and]
  constructor
  · rintro ⟨i, hi, hread⟩
    obtain ⟨hL, hcs⟩ := (h i hi _ _ _).mp hread
    exact ⟨⟨i, hi, hL⟩, hcs⟩
  · rintro ⟨⟨i, hi, hL⟩, hcs⟩
    exact ⟨i, hi, (h i hi _ _ _).mpr ⟨hL, hcs⟩⟩

variable {L : Language α}

theorem manyFrom_sound {m : Matcher α} (hm : Reads m L) (n : Nat) :
    ∀ {cs taken rest : List α}, (taken, rest) ∈ manyFrom m n cs →
      taken ∈ KStar.kstar L ∧ taken ++ rest = cs := by
  induction n with
  | zero =>
    intro cs taken rest h
    obtain ⟨htaken, hcs⟩ := (reads_empty _ _ _).mp h
    exact ⟨(Language.mem_one _).mp htaken ▸ Language.nil_mem_kstar L, hcs⟩
  | succ n ih =>
    intro cs taken rest h
    rcases List.mem_append.mp h with h | h
    · obtain ⟨⟨a, tail⟩, ha, h⟩ := List.mem_flatMap.mp h
      dsimp only at h
      split_ifs at h
      · cases h
      obtain ⟨⟨b, rest'⟩, hb, hpair⟩ := List.mem_map.mp h
      cases hpair
      obtain ⟨haL, rfl⟩ := (hm _ _ _).mp ha
      obtain ⟨hbL, rfl⟩ := ih hb
      obtain ⟨parts, rfl, hparts⟩ := Language.mem_kstar.mp hbL
      refine ⟨Language.mem_kstar.mpr ⟨a :: parts, by simp, ?_⟩, List.append_assoc _ _ _⟩
      exact List.forall_mem_cons.mpr ⟨haL, hparts⟩
    · obtain ⟨htaken, hcs⟩ := (reads_empty _ _ _).mp h
      exact ⟨(Language.mem_one _).mp htaken ▸ Language.nil_mem_kstar L, hcs⟩

theorem manyFrom_complete {m : Matcher α} (hm : Reads m L) (rest : List α) :
    ∀ (parts : List (List α)) (n : Nat), (∀ part ∈ parts, part ∈ L ∧ part ≠ []) →
      parts.flatten.length ≤ n →
      (parts.flatten, rest) ∈ manyFrom m n (parts.flatten ++ rest) := by
  intro parts
  induction parts with
  | nil =>
    intro n _ _
    cases n with
    | zero => simp [manyFrom, empty]
    | succ n => simp [manyFrom, Matcher.alt, empty]
  | cons part parts ih =>
    intro n hparts hlen
    obtain ⟨⟨hpart, hne⟩, hrest⟩ := List.forall_mem_cons.mp hparts
    have hpos := List.length_pos_iff.mpr hne
    rw [List.flatten_cons, List.length_append] at hlen
    cases n with
    | zero => omega
    | succ n =>
      refine List.mem_append_left _ (List.mem_flatMap.mpr ⟨(part, parts.flatten ++ rest), ?_, ?_⟩)
      · exact (hm _ _ _).mpr ⟨hpart, by simp⟩
      · have hkept : part.isEmpty = false := by simpa using hne
        simp only [hkept, Bool.false_eq_true, if_false]
        exact List.mem_map.mpr ⟨(parts.flatten, rest), ih n hrest (by omega), by simp⟩

theorem Reads.many {m : Matcher α} {L : Language α} (hm : Reads m L) :
    Reads (many m) (KStar.kstar L) := by
  intro cs taken rest
  constructor
  · exact manyFrom_sound hm _
  · rintro ⟨htaken, rfl⟩
    obtain ⟨parts, rfl, hparts⟩ := Language.mem_kstar_iff_exists_nonempty.mp htaken
    refine manyFrom_complete hm rest parts _ (fun part hpart => hparts part hpart) ?_
    simp

/-- What every character of the parts has, every character of the whole has. -/
theorem forall_mem_kstar {p : α → Prop} (h : ∀ cs ∈ L, ∀ c ∈ cs, p c) (hcs : cs ∈ KStar.kstar L) :
    ∀ c ∈ cs, p c := by
  obtain ⟨parts, rfl, hparts⟩ := Language.mem_kstar.mp hcs
  intro c hc
  obtain ⟨part, hpart, hc⟩ := List.mem_flatten.mp hc
  exact h part (hparts part hpart) c hc

theorem reads_literal (same : α → α → Bool) (cs : List α) :
    Reads (literal same cs) (spelling same cs) := by
  induction cs with
  | nil =>
    intro cs taken rest
    rw [mem_spelling, List.forall₂_nil_left_iff]
    exact reads_empty cs taken rest
  | cons c cs ih =>
    intro text taken rest
    rw [literal, (reads_one (same c)).seq ih, mem_spelling, Language.mem_mul,
      List.forall₂_cons_left_iff]
    refine and_congr_left fun _ => ?_
    constructor
    · rintro ⟨a, ⟨x, rfl, hx⟩, b, hb, rfl⟩
      exact ⟨x, b, hx, hb, rfl⟩
    · rintro ⟨x, b, hx, hb, rfl⟩
      exact ⟨[x], ⟨x, rfl, hx⟩, b, hb, rfl⟩

/-! ## Scans -/

/-- The matches of a text from left to right. The first `skip` characters are those of a match that
began before. -/
def scanFrom {β : Type*} (read : List α → Option (β × List α)) : (skip : Nat) → List α → List β
  | _, [] => []
  | skip + 1, _ :: rest => scanFrom read skip rest
  | 0, c :: rest =>
    match read (c :: rest) with
    | some (b, rest') => b :: scanFrom read (rest.length - rest'.length) rest
    | none => scanFrom read 0 rest

/-- The match is one of those of the text: each begins where the one before it ends, or later, as soon
as there is one. -/
inductive Scanned {β : Type*} (read : List α → Option (β × List α)) : List α → β → Prop
  | here {cs rest : List α} {b : β} : read cs = some (b, rest) → Scanned read cs b
  | after {cs rest : List α} {b b' : β} : read cs = some (b', rest) → Scanned read rest b →
      Scanned read cs b
  | skip {c : α} {cs : List α} {b : β} : read (c :: cs) = none → Scanned read cs b →
      Scanned read (c :: cs) b

/-- A match takes at least one character, and leaves the end of the text. -/
def Consumes {β : Type*} (read : List α → Option (β × List α)) : Prop :=
  ∀ cs b rest, read cs = some (b, rest) → ∃ c taken, cs = c :: (taken ++ rest)

section

variable {β : Type*} {read : List α → Option (β × List α)}

theorem scanFrom_drop (skip : Nat) (cs : List α) :
    scanFrom read skip cs = scanFrom read 0 (cs.drop skip) := by
  induction cs generalizing skip with
  | nil => cases skip <;> simp [scanFrom]
  | cons c rest ih =>
    cases skip with
    | zero => rfl
    | succ skip => simpa [scanFrom] using ih skip

theorem scanFrom_of_read (hread : Consumes read) {cs rest : List α} {b : β}
    (h : read cs = some (b, rest)) : scanFrom read 0 cs = b :: scanFrom read 0 rest := by
  obtain ⟨c, taken, rfl⟩ := hread cs b rest h
  simp only [scanFrom, h]
  rw [scanFrom_drop]
  simp

theorem mem_scan_iff (hread : Consumes read) {b : β} :
    b ∈ scanFrom read 0 cs ↔ Scanned read cs b := by
  constructor
  · intro h
    induction hlen : cs.length using Nat.strong_induction_on generalizing cs with
    | _ n ih =>
      cases cs with
      | nil => simp [scanFrom] at h
      | cons c rest =>
        cases hfound : read (c :: rest) with
        | none =>
          simp only [scanFrom, hfound] at h
          exact .skip hfound (ih rest.length (by simp [← hlen]) h rfl)
        | some found =>
          obtain ⟨b', rest'⟩ := found
          rw [scanFrom_of_read hread hfound, List.mem_cons] at h
          rcases h with rfl | h
          · exact .here hfound
          · obtain ⟨c', taken, hcs⟩ := hread _ _ _ hfound
            have hlt : rest'.length < n := by
              rw [← hlen, hcs]
              simp only [List.length_cons, List.length_append]
              omega
            exact .after hfound (ih _ hlt h rfl)
  · intro h
    induction h with
    | here hfound =>
      rw [scanFrom_of_read hread hfound]
      exact List.mem_cons_self
    | after hfound _ ih =>
      rw [scanFrom_of_read hread hfound]
      exact List.mem_cons_of_mem _ ih
    | skip hfound _ ih => simpa [scanFrom, hfound] using ih

/-- A text has a match exactly when one begins somewhere in it. -/
theorem exists_scanned_iff :
    (∃ b, Scanned read cs b) ↔ ∃ before rest b rest', before ++ rest = cs ∧
      read rest = some (b, rest') := by
  constructor
  · rintro ⟨b, h⟩
    induction h with
    | @here cs rest b hfound => exact ⟨[], cs, b, rest, rfl, hfound⟩
    | @after cs rest b b' hfound _ _ => exact ⟨[], cs, b', rest, rfl, hfound⟩
    | @skip c cs b _ _ ih =>
      obtain ⟨before, rest, b', rest', rfl, hfound⟩ := ih
      exact ⟨c :: before, rest, b', rest', rfl, hfound⟩
  · rintro ⟨before, rest, b, rest', rfl, hfound⟩
    induction before with
    | nil => exact ⟨b, .here hfound⟩
    | cons c before ih =>
      cases hfirst : read (c :: (before ++ rest)) with
      | some found => exact ⟨found.1, .here hfirst⟩
      | none =>
        obtain ⟨b', hb'⟩ := ih
        exact ⟨b', .skip hfirst hb'⟩

/-- What is scanned was read somewhere in the text. -/
theorem Scanned.read_at (hread : Consumes read) {b : β} (h : Scanned read cs b) :
    ∃ before rest rest', before ++ rest = cs ∧ read rest = some (b, rest') := by
  induction h with
  | @here cs rest b hfound => exact ⟨[], cs, rest, rfl, hfound⟩
  | @after cs rest b b' hfound _ ih =>
    obtain ⟨c, taken, rfl⟩ := hread _ _ _ hfound
    obtain ⟨before, rest₁, rest', rfl, hb⟩ := ih
    exact ⟨c :: (taken ++ before), rest₁, rest', by simp, hb⟩
  | @skip c cs b _ _ ih =>
    obtain ⟨before, rest, rest', rfl, hb⟩ := ih
    exact ⟨c :: before, rest, rest', rfl, hb⟩

end

end Matcher
