-- Amounts of money in a text: which ones the pattern of a tenant finds, and whether one of them reaches
-- a threshold.
import Mathlib.Algebra.Order.Floor.Ring
import Mathlib.Data.Rat.Floor
import Operious.Lib.Matcher
import Operious.Resolution.Gate

namespace operious.resolution

open operious.agents.tools

variable {F : Type}

/-! ## Numbers -/

namespace MoneyPattern

open Matcher

def isDigit (c : Char) : Bool := (digitValue c).isSome

def digit : Matcher Char := one isDigit

/-- `(?:,\d{3})`. -/
def group : Matcher Char := seq (one (· = ',')) (seq digit (seq digit digit))

/-- `\.\d{1,2}`. -/
def decimals : Matcher Char := seq (one (· = '.')) (alt (seq digit digit) digit)

/-- `\d+(?:,\d{3})*(?:\.\d{1,2})?`. -/
def number : Matcher Char :=
  seq digit (seq (many digit) (seq (many group) (alt decimals empty)))

def spaces : Matcher Char := many (one isSpace)

end MoneyPattern

/-- `round(q)`: to the nearest integer, and to the even one of two. -/
def pyRound (q : ℚ) : ℤ :=
  if q - ⌊q⌋ < 1 / 2 then ⌊q⌋
  else if q - ⌊q⌋ = 1 / 2 ∧ ⌊q⌋ % 2 = 0 then ⌊q⌋
  else ⌊q⌋ + 1

def digitsValue (cs : List Char) : Nat :=
  cs.foldl (fun n c => 10 * n + (digitValue c).getD 0) 0

/-- `float(text)` of a decimal text, without the error of a float. -/
def decimalValue (cs : List Char) : ℚ :=
  let whole := cs.takeWhile (· ≠ '.')
  let fraction := (cs.dropWhile (· ≠ '.')).drop 1
  digitsValue (whole ++ fraction) / 10 ^ fraction.length

/-- The value of an amount, its commas left out. -/
def exactValue (amount_text : List Char) : ℚ := decimalValue (amount_text.filter (· ≠ ','))

def amount_cents (amount_text : List Char) : ℤ := pyRound (exactValue amount_text * 100)

/-! ## The pattern -/

structure MoneyMatch where
  prefix_ : Option (List Char)
  suffix : Option (List Char)
  deriving DecidableEq, Repr

def MoneyMatch.amount (m : MoneyMatch) : Option (List Char) := m.prefix_ <|> m.suffix

/-- The symbols and codes of a pattern, the longer ones first. -/
structure MoneyPattern where
  symbols : List String
  codes : List String

/-- `sorted(words, key=len, reverse=True)`. -/
def longestFirst (words : List String) : List String :=
  words.insertionSort fun a b => b.length ≤ a.length

def money_pattern_for (taxonomy : ResolutionTaxonomyPolicy F) : Option MoneyPattern :=
  if taxonomy.monetary_currency_symbols = [] ∧ taxonomy.monetary_currency_codes = [] then none
  else some ⟨longestFirst taxonomy.monetary_currency_symbols,
    longestFirst taxonomy.monetary_currency_codes⟩

/-- A group of a pattern is there or not, whatever was matched. -/
inductive IndexError
  | no_such_group
  deriving DecidableEq, Repr

namespace MoneyPattern

section

variable [CaseFolding]

open Matcher

/-- `|`.join(re.escape(word) for word in words). -/
def word (words : List String) : Matcher Char :=
  oneOf (words.map fun w => literal CaseFolding.same (ascii.chars w))

/-- `(?:symbols)\s*(?P<prefix>number)`. -/
def symbolReadings (pattern : MoneyPattern) (cs : List Char) : List (MoneyMatch × List Char) :=
  (seq (word pattern.symbols) spaces cs).flatMap fun p =>
    (number p.2).map fun q => (⟨some q.1, none⟩, q.2)

/-- `(?P<suffix>number)\s*(?:codes)`. -/
def codeReadings (pattern : MoneyPattern) (cs : List Char) : List (MoneyMatch × List Char) :=
  (number cs).flatMap fun p =>
    (seq spaces (word pattern.codes) p.2).map fun q => (⟨none, some p.1⟩, q.2)

/-- The match that begins with the text. -/
def readMatch (pattern : MoneyPattern) (cs : List Char) : Option (MoneyMatch × List Char) :=
  (pattern.symbolReadings cs ++ pattern.codeReadings cs).head?

def finditer (pattern : MoneyPattern) (text : String) : List MoneyMatch :=
  scanFrom pattern.readMatch 0 (ascii.chars text)

end

/-- `match.group("prefix")`. -/
def groupPrefix (pattern : MoneyPattern) (m : MoneyMatch) :
    Except IndexError (Option (List Char)) :=
  if pattern.symbols = [] then .error .no_such_group else .ok m.prefix_

/-- `match.group("suffix")`. -/
def groupSuffix (pattern : MoneyPattern) (m : MoneyMatch) :
    Except IndexError (Option (List Char)) :=
  if pattern.codes = [] then .error .no_such_group else .ok m.suffix

/-- `match.group("prefix") or match.group("suffix")`. -/
def amountText (pattern : MoneyPattern) (m : MoneyMatch) :
    Except IndexError (Option (List Char)) := do
  match ← pattern.groupPrefix m with
  | some (c :: cs) => return some (c :: cs)
  | _ => pattern.groupSuffix m

/-- The loop over the matches. -/
def anyReaches (pattern : MoneyPattern) (threshold_cents : ℤ) :
    List MoneyMatch → Except IndexError Bool
  | [] => .ok false
  | m :: rest => do
    match ← pattern.amountText m with
    | some amount_text =>
      if threshold_cents ≤ amount_cents amount_text then return true
      else anyReaches pattern threshold_cents rest
    | none => anyReaches pattern threshold_cents rest

end MoneyPattern

def monetary_commitment_exceeds_threshold [CaseFolding] (text : String) (threshold_cents : ℤ)
    (taxonomy : ResolutionTaxonomyPolicy F) : Except IndexError Bool :=
  match money_pattern_for taxonomy with
  | none => .ok false
  | some pattern => pattern.anyReaches threshold_cents (pattern.finditer text)

/-! ## What an amount is -/

open Matcher in
/-- Digits, groups of three digits after a comma each, and up to two decimals. -/
def numbers : Language Char :=
  let digits := single MoneyPattern.isDigit
  let groups := single (· = ',') * (digits * (digits * digits))
  let decimals := single (· = '.') * (digits * digits + digits)
  digits * (KStar.kstar digits * (KStar.kstar groups * (decimals + 1)))

theorem MoneyPattern.reads_number : MoneyPattern.number.Reads numbers := by
  have hdigit := Matcher.reads_one MoneyPattern.isDigit
  have hgroup := (Matcher.reads_one (· = ',')).seq (hdigit.seq (hdigit.seq hdigit))
  have hdecimals := (Matcher.reads_one (· = '.')).seq ((hdigit.seq hdigit).alt hdigit)
  exact hdigit.seq (hdigit.many.seq (hgroup.many.seq (hdecimals.alt Matcher.reads_empty)))

theorem ne_of_isDigit {c : Char} (h : MoneyPattern.isDigit c = true) : c ≠ '.' ∧ c ≠ ',' := by
  constructor
  · rintro rfl
    revert h
    decide
  · rintro rfl
    revert h
    decide

variable {num : List Char}

theorem number_parts (h : num ∈ numbers) :
    ∃ whole decimals, num = whole ++ decimals ∧ (∀ c ∈ whole, c ≠ '.') ∧
      (decimals = [] ∨ ∃ ds, decimals = '.' :: ds ∧ (∀ c ∈ ds, c ≠ ',') ∧ ds.length ≤ 2) := by
  simp only [numbers, Language.mem_mul, Language.mem_add, Language.mem_one,
    Matcher.mem_single] at h
  obtain ⟨_, ⟨d, rfl, hd⟩, _, ⟨ds, hds, _, ⟨gs, hgs, ends, hends, rfl⟩, rfl⟩, rfl⟩ := h
  have hdigits : ∀ c ∈ ds, c ≠ '.' := Matcher.forall_mem_kstar (by
    rintro _ ⟨c, rfl, hc⟩
    simpa using (ne_of_isDigit hc).1) hds
  have hgroups : ∀ c ∈ gs, c ≠ '.' := Matcher.forall_mem_kstar (by
    rintro _ ⟨_, ⟨comma, rfl, hcomma⟩, _, ⟨_, ⟨c₁, rfl, h₁⟩, _, ⟨_, ⟨c₂, rfl, h₂⟩, _, ⟨c₃, rfl, h₃⟩,
      rfl⟩, rfl⟩, rfl⟩
    have hcomma : comma = ',' := by simpa using hcomma
    simp [hcomma, (ne_of_isDigit h₁).1, (ne_of_isDigit h₂).1, (ne_of_isDigit h₃).1]) hgs
  refine ⟨d :: (ds ++ gs), ends, by simp, ?_, ?_⟩
  · simp only [List.forall_mem_cons, List.forall_mem_append]
    exact ⟨(ne_of_isDigit hd).1, hdigits, hgroups⟩
  · rcases hends with ⟨_, ⟨dot, rfl, hdot⟩, fraction, hfraction, rfl⟩ | rfl
    · have hdot : dot = '.' := by simpa using hdot
      subst hdot
      refine Or.inr ⟨fraction, rfl, ?_⟩
      rcases hfraction with ⟨_, ⟨c₁, rfl, h₁⟩, _, ⟨c₂, rfl, h₂⟩, rfl⟩ | ⟨c, rfl, hc⟩
      · simp [(ne_of_isDigit h₁).2, (ne_of_isDigit h₂).2]
      · simp [(ne_of_isDigit hc).2]
    · exact Or.inl rfl

theorem pyRound_intCast (n : ℤ) : pyRound n = n := by
  simp [pyRound]

variable {whole : List Char}

theorem decimalValue_append (hwhole : ∀ c ∈ whole, c ≠ '.') (fraction : List Char) :
    decimalValue (whole ++ '.' :: fraction) =
      digitsValue (whole ++ fraction) / 10 ^ fraction.length := by
  have htake : (whole ++ '.' :: fraction).takeWhile (· ≠ '.') = whole := by
    rw [List.takeWhile_append_of_pos fun c hc => by simpa using hwhole c hc]
    simp
  have hdrop : (whole ++ '.' :: fraction).dropWhile (· ≠ '.') = '.' :: fraction := by
    rw [List.dropWhile_append_of_pos fun c hc => by simpa using hwhole c hc]
    simp
  simp only [decimalValue, htake, hdrop, List.drop_one, List.tail_cons]

theorem decimalValue_whole (hwhole : ∀ c ∈ whole, c ≠ '.') :
    decimalValue whole = digitsValue whole := by
  have htake : whole.takeWhile (· ≠ '.') = whole :=
    List.takeWhile_eq_self_iff.mpr fun c hc => by simpa using hwhole c hc
  have hdrop : whole.dropWhile (· ≠ '.') = [] :=
    List.dropWhile_eq_nil_iff.mpr fun c hc => by simpa using hwhole c hc
  simp only [decimalValue, htake, hdrop, List.drop_nil, List.append_nil, List.length_nil, pow_zero,
    div_one]

theorem amount_cents_eq (h : num ∈ numbers) : (amount_cents num : ℚ) = exactValue num * 100 := by
  have hcents : ∃ n : ℤ, exactValue num * 100 = n := by
    obtain ⟨whole, decimals, rfl, hwhole, hdecimals⟩ := number_parts h
    have hkept : ∀ c ∈ whole.filter (· ≠ ','), c ≠ '.' := fun c hc =>
      hwhole c (List.mem_of_mem_filter hc)
    rcases hdecimals with rfl | ⟨ds, rfl, hds, hlen⟩
    · refine ⟨digitsValue (whole.filter (· ≠ ',')) * 100, ?_⟩
      rw [exactValue, List.append_nil, decimalValue_whole hkept]
      push_cast
      rfl
    · have hfilter : (whole ++ '.' :: ds).filter (· ≠ ',') =
          whole.filter (· ≠ ',') ++ '.' :: ds := by
        have hsame : ds.filter (· ≠ ',') = ds :=
          List.filter_eq_self.mpr fun c hc => by simpa using hds c hc
        rw [List.filter_append, List.filter_cons_of_pos (by decide), hsame]
      refine ⟨digitsValue (whole.filter (· ≠ ',') ++ ds) * 10 ^ (2 - ds.length), ?_⟩
      have hpow : (10 : ℚ) ^ (2 - ds.length) * 10 ^ ds.length = 100 := by
        rw [← pow_add, Nat.sub_add_cancel hlen]
        norm_num
      rw [exactValue, hfilter, decimalValue_append hkept, ← hpow]
      push_cast
      field_simp
  obtain ⟨n, hn⟩ := hcents
  rw [amount_cents, hn, pyRound_intCast]

section

variable [CaseFolding] (taxonomy : ResolutionTaxonomyPolicy F) (text : String)

/-- The words of a vocabulary, up to letter case. -/
def spellings (words : List String) : Language Char :=
  {cs | ∃ w ∈ words, cs ∈ Matcher.spelling CaseFolding.same (ascii.chars w)}

def whiteSpace : Language Char := KStar.kstar (Matcher.single isSpace)

/-- The text contains the number as an amount: after a configured symbol, or before a configured
code. -/
def ContainsAmount (num : List Char) : Prop :=
  num ∈ numbers ∧
    ((∃ symbol ∈ spellings taxonomy.monetary_currency_symbols, ∃ gap ∈ whiteSpace,
        symbol ++ gap ++ num <:+: ascii.chars text) ∨
      ∃ code ∈ spellings taxonomy.monetary_currency_codes, ∃ gap ∈ whiteSpace,
        num ++ gap ++ code <:+: ascii.chars text)

/-- The exact value of the number is at least so many cents. -/
def Reaches (threshold_cents : ℤ) (num : List Char) : Prop :=
  (threshold_cents : ℚ) ≤ exactValue num * 100

/-- The number is read where the text is read from left to right: no amount that is read before it goes
beyond the place where it begins. -/
def ReadAmount (num : List Char) : Prop :=
  ∃ pattern m, money_pattern_for taxonomy = some pattern ∧
    Matcher.Scanned pattern.readMatch (ascii.chars text) m ∧ m.amount = some num

end

variable {words : List String}

theorem mem_longestFirst {w : String} :
    w ∈ longestFirst words ↔ w ∈ words := List.mem_insertionSort _

theorem numbers_ne_nil (h : num ∈ numbers) : num ≠ [] := by
  obtain ⟨_, ⟨d, rfl, -⟩, tail, -, rfl⟩ := Language.mem_mul.mp h
  simp

variable {m : MoneyMatch}

namespace MoneyPattern

theorem reads_spaces : spaces.Reads whiteSpace := (Matcher.reads_one isSpace).many

variable [CaseFolding]

theorem reads_word (words : List String) : (word words).Reads (spellings words) :=
  Matcher.reads_oneOf fun _ _ => Matcher.reads_literal _ _

variable {cs rest : List Char}

variable {pattern : MoneyPattern}

theorem mem_symbolReadings :
    (m, rest) ∈ pattern.symbolReadings cs ↔ ∃ num ∈ numbers,
      ∃ symbol ∈ spellings pattern.symbols, ∃ gap ∈ whiteSpace,
        m = ⟨some num, none⟩ ∧ symbol ++ gap ++ num ++ rest = cs := by
  simp only [symbolReadings, List.mem_flatMap, List.mem_map, Prod.exists, Prod.mk.injEq,
    ((reads_word pattern.symbols).seq reads_spaces) _, reads_number _, Language.mem_mul]
  constructor
  · rintro ⟨_, _, ⟨⟨symbol, hsymbol, gap, hgap, rfl⟩, rfl⟩, num, _, ⟨hnum, rfl⟩, rfl, rfl⟩
    exact ⟨num, hnum, symbol, hsymbol, gap, hgap, rfl, by simp⟩
  · rintro ⟨num, hnum, symbol, hsymbol, gap, hgap, rfl, rfl⟩
    exact ⟨symbol ++ gap, num ++ rest, ⟨⟨symbol, hsymbol, gap, hgap, rfl⟩, by simp⟩, num, rest,
      ⟨hnum, rfl⟩, rfl, rfl⟩

theorem mem_codeReadings :
    (m, rest) ∈ pattern.codeReadings cs ↔ ∃ num ∈ numbers,
      ∃ code ∈ spellings pattern.codes, ∃ gap ∈ whiteSpace,
        m = ⟨none, some num⟩ ∧ num ++ gap ++ code ++ rest = cs := by
  simp only [codeReadings, List.mem_flatMap, List.mem_map, Prod.exists, Prod.mk.injEq,
    (reads_spaces.seq (reads_word pattern.codes)) _, reads_number _, Language.mem_mul]
  constructor
  · rintro ⟨num, _, ⟨hnum, rfl⟩, _, _, ⟨⟨gap, hgap, code, hcode, rfl⟩, rfl⟩, rfl, rfl⟩
    exact ⟨num, hnum, code, hcode, gap, hgap, rfl, by simp⟩
  · rintro ⟨num, hnum, code, hcode, gap, hgap, rfl, rfl⟩
    exact ⟨num, gap ++ code ++ rest, ⟨hnum, by simp⟩, gap ++ code, rest,
      ⟨⟨gap, hgap, code, hcode, rfl⟩, by simp⟩, rfl, rfl⟩

def Holds (pattern : MoneyPattern) (m : MoneyMatch) (num : List Char) : Prop :=
  num ∈ numbers ∧ ((m = ⟨some num, none⟩ ∧ pattern.symbols ≠ []) ∨
    (m = ⟨none, some num⟩ ∧ pattern.codes ≠ []))

omit [CaseFolding] in
theorem Holds.amount_eq (h : pattern.Holds m num) : m.amount = some num := by
  obtain ⟨-, ⟨rfl, -⟩ | ⟨rfl, -⟩⟩ := h <;> rfl

theorem ne_nil_of_spelling {cs : List Char} (h : cs ∈ spellings words) : words ≠ [] := by
  obtain ⟨w, hw, -⟩ := h
  exact List.ne_nil_of_mem hw

theorem readMatch_some (h : pattern.readMatch cs = some (m, rest)) :
    ∃ num, pattern.Holds m num ∧
      ((∃ symbol ∈ spellings pattern.symbols, ∃ gap ∈ whiteSpace,
          symbol ++ gap ++ num ++ rest = cs) ∨
        ∃ code ∈ spellings pattern.codes, ∃ gap ∈ whiteSpace,
          num ++ gap ++ code ++ rest = cs) := by
  have hmem : (m, rest) ∈ pattern.symbolReadings cs ++ pattern.codeReadings cs :=
    List.mem_of_mem_head? (Option.mem_def.mpr h)
  rcases List.mem_append.mp hmem with hmem | hmem
  · obtain ⟨num, hnum, symbol, hsymbol, gap, hgap, rfl, hcs⟩ := mem_symbolReadings.mp hmem
    exact ⟨num, ⟨hnum, Or.inl ⟨rfl, ne_nil_of_spelling hsymbol⟩⟩,
      Or.inl ⟨symbol, hsymbol, gap, hgap, hcs⟩⟩
  · obtain ⟨num, hnum, code, hcode, gap, hgap, rfl, hcs⟩ := mem_codeReadings.mp hmem
    exact ⟨num, ⟨hnum, Or.inr ⟨rfl, ne_nil_of_spelling hcode⟩⟩,
      Or.inr ⟨code, hcode, gap, hgap, hcs⟩⟩

theorem readMatch_isSome (pattern : MoneyPattern)
    (h : (m, rest) ∈ pattern.symbolReadings cs ++ pattern.codeReadings cs) :
    ∃ found, pattern.readMatch cs = some found := by
  unfold readMatch
  cases hreadings : pattern.symbolReadings cs ++ pattern.codeReadings cs with
  | nil =>
    rw [hreadings] at h
    cases h
  | cons found rest => exact ⟨found, rfl⟩

theorem consumes_readMatch (pattern : MoneyPattern) : Matcher.Consumes pattern.readMatch := by
  intro cs m rest h
  obtain ⟨num, hholds, hcs⟩ := readMatch_some h
  have htaken : ∃ taken, taken ≠ [] ∧ taken ++ rest = cs := by
    have hne := numbers_ne_nil hholds.1
    rcases hcs with ⟨symbol, -, gap, -, hcs⟩ | ⟨code, -, gap, -, hcs⟩
    · exact ⟨symbol ++ gap ++ num, by simp [hne], hcs⟩
    · exact ⟨num ++ gap ++ code, by simp [hne], hcs⟩
  obtain ⟨taken, hne, rfl⟩ := htaken
  obtain ⟨c, taken, rfl⟩ := List.exists_cons_of_ne_nil hne
  exact ⟨c, taken, rfl⟩

end MoneyPattern

section

variable {taxonomy : ResolutionTaxonomyPolicy F} {pattern : MoneyPattern}

theorem longestFirst_eq_nil_iff : longestFirst words = [] ↔ words = [] := by
  rw [← List.length_eq_zero_iff, longestFirst, List.length_insertionSort, List.length_eq_zero_iff]

theorem money_pattern_for_eq_some (h : money_pattern_for taxonomy = some pattern) :
    pattern = ⟨longestFirst taxonomy.monetary_currency_symbols,
      longestFirst taxonomy.monetary_currency_codes⟩ := by
  unfold money_pattern_for at h
  split_ifs at h
  exact (Option.some.inj h).symm

theorem anyReaches_eq (threshold_cents : ℤ) (hsymbols : pattern.symbols ≠ []) {ms : List MoneyMatch}
    (hms : ∀ m ∈ ms, ∃ num, pattern.Holds m num) :
    ∃ b, pattern.anyReaches threshold_cents ms = .ok b ∧
      (b = true ↔ ∃ m ∈ ms, ∃ num, m.amount = some num ∧ Reaches threshold_cents num) := by
  induction ms with
  | nil => exact ⟨false, rfl, by simp⟩
  | cons m rest ih =>
    obtain ⟨num, hholds⟩ := hms m List.mem_cons_self
    obtain ⟨b, hrun, hb⟩ := ih fun m hm => hms m (List.mem_cons_of_mem _ hm)
    have hamount : pattern.amountText m = .ok (some num) := by
      obtain ⟨c, cs, rfl⟩ := List.exists_cons_of_ne_nil (numbers_ne_nil hholds.1)
      obtain ⟨-, ⟨rfl, -⟩ | ⟨rfl, hcodes⟩⟩ := hholds
      · simp [MoneyPattern.amountText, MoneyPattern.groupPrefix, hsymbols, bind, Except.bind, pure,
          Except.pure]
      · simp [MoneyPattern.amountText, MoneyPattern.groupPrefix, MoneyPattern.groupSuffix, hsymbols,
          hcodes, bind, Except.bind]
    have hreaches : threshold_cents ≤ amount_cents num ↔ Reaches threshold_cents num := by
      rw [Reaches, ← amount_cents_eq hholds.1, Int.cast_le]
    simp only [MoneyPattern.anyReaches, hamount, bind, Except.bind, List.exists_mem_cons_iff,
      hholds.amount_eq, Option.some.injEq, exists_eq_left']
    by_cases hthreshold : threshold_cents ≤ amount_cents num
    · exact ⟨true, by simp [hthreshold, pure, Except.pure], by simp [hreaches.mp hthreshold]⟩
    · refine ⟨b, by simp [hthreshold, hrun], ?_⟩
      rw [hb, or_iff_right fun h => hthreshold (hreaches.mpr h)]

theorem anyReaches_without_symbols (hsymbols : pattern.symbols = []) (threshold_cents : ℤ)
    (m : MoneyMatch) (rest : List MoneyMatch) :
    pattern.anyReaches threshold_cents (m :: rest) = .error .no_such_group := by
  simp [MoneyPattern.anyReaches, MoneyPattern.amountText, MoneyPattern.groupPrefix, hsymbols, bind,
    Except.bind]

variable [CaseFolding] {text : String}

theorem spellings_longestFirst (words : List String) :
    spellings (longestFirst words) = spellings words := by
  ext cs
  simp only [spellings, mem_longestFirst]

theorem contains_of_scanned (hpattern : money_pattern_for taxonomy = some pattern)
    (h : Matcher.Scanned pattern.readMatch (ascii.chars text) m) :
    ∃ num, pattern.Holds m num ∧ ContainsAmount taxonomy text num := by
  obtain ⟨before, cs, rest, htext, hread⟩ := h.read_at pattern.consumes_readMatch
  obtain ⟨num, hholds, hcs⟩ := MoneyPattern.readMatch_some hread
  refine ⟨num, hholds, hholds.1, ?_⟩
  rw [money_pattern_for_eq_some hpattern] at hcs
  simp only [spellings_longestFirst] at hcs
  rcases hcs with ⟨symbol, hsymbol, gap, hgap, rfl⟩ | ⟨code, hcode, gap, hgap, rfl⟩
  · exact Or.inl ⟨symbol, hsymbol, gap, hgap, before, rest, by rw [← htext]; simp⟩
  · exact Or.inr ⟨code, hcode, gap, hgap, before, rest, by rw [← htext]; simp⟩

theorem scanned_of_contains (h : ContainsAmount taxonomy text num) :
    ∃ m pattern, money_pattern_for taxonomy = some pattern ∧
      Matcher.Scanned pattern.readMatch (ascii.chars text) m := by
  obtain ⟨hnum, h⟩ := h
  have hwords : taxonomy.monetary_currency_symbols ≠ [] ∨
      taxonomy.monetary_currency_codes ≠ [] := by
    rcases h with ⟨symbol, hsymbol, -⟩ | ⟨code, hcode, -⟩
    · exact Or.inl (MoneyPattern.ne_nil_of_spelling hsymbol)
    · exact Or.inr (MoneyPattern.ne_nil_of_spelling hcode)
  obtain ⟨pattern, hpattern⟩ : ∃ pattern, money_pattern_for taxonomy = some pattern := by
    unfold money_pattern_for
    rw [if_neg (by tauto)]
    exact ⟨_, rfl⟩
  have hsymbols : spellings pattern.symbols = spellings taxonomy.monetary_currency_symbols := by
    rw [money_pattern_for_eq_some hpattern, spellings_longestFirst]
  have hcodes : spellings pattern.codes = spellings taxonomy.monetary_currency_codes := by
    rw [money_pattern_for_eq_some hpattern, spellings_longestFirst]
  have hread : ∃ before cs found rest, before ++ cs = ascii.chars text ∧
      pattern.readMatch cs = some (found, rest) := by
    rcases h with ⟨symbol, hsymbol, gap, hgap, before, rest, htext⟩ |
      ⟨code, hcode, gap, hgap, before, rest, htext⟩
    · have hmem : (⟨some num, none⟩, rest) ∈
          pattern.symbolReadings (symbol ++ gap ++ num ++ rest) :=
        MoneyPattern.mem_symbolReadings.mpr
          ⟨num, hnum, symbol, hsymbols ▸ hsymbol, gap, hgap, rfl, rfl⟩
      obtain ⟨⟨found, rest'⟩, hfound⟩ := pattern.readMatch_isSome (List.mem_append_left _ hmem)
      exact ⟨before, _, found, rest', by rw [← htext]; simp, hfound⟩
    · have hmem : (⟨none, some num⟩, rest) ∈ pattern.codeReadings (num ++ gap ++ code ++ rest) :=
        MoneyPattern.mem_codeReadings.mpr
          ⟨num, hnum, code, hcodes ▸ hcode, gap, hgap, rfl, rfl⟩
      obtain ⟨⟨found, rest'⟩, hfound⟩ := pattern.readMatch_isSome (List.mem_append_right _ hmem)
      exact ⟨before, _, found, rest', by rw [← htext]; simp, hfound⟩
  obtain ⟨m, hm⟩ := Matcher.exists_scanned_iff.mpr hread
  exact ⟨m, pattern, hpattern, hm⟩

/-! ## The law -/

end

/-! ## A tenant with a code only -/

/-- The parameters of a tenant that writes its currency as a code. -/
def codeRules : JsonObject Int := Dict.ofList
  [("categories", .list [.dict [("id", .str "return"), ("label", .str "Return"),
     ("description", .str "A return"), ("recommended_actions", .list [.dict
       [("type", .str "note"), ("label", .str "Note"), ("requires_execution", .bool false)]])]]),
   ("monetary_commitment", .dict [("currency_codes", .list [.str "USD"])])]

def codeTaxonomy : ResolutionTaxonomyPolicy Int where
  categories := [⟨"return", "Return", "A return", [Dict.ofList
    [("type", .str "note"), ("label", .str "Note"), ("requires_execution", .bool false)]]⟩]
  monetary_remedy_keywords := []
  monetary_currency_symbols := []
  monetary_currency_codes := ["USD"]
  unsupported_commitment_patterns := []

theorem codeRules_parse : parse_resolution_taxonomy_parameters codeRules = .ok codeTaxonomy := by
  have hcategories : parseCategories (codeRules.get? "categories") =
      .ok codeTaxonomy.categories := rfl
  have hmonetary : parseMonetaryCommitment (codeRules.get? "monetary_commitment") =
      .ok ([], [], ["USD"]) := rfl
  have hpatterns : parseUnsupportedCommitmentPatterns
      (codeRules.get? "unsupported_commitment_patterns") = .ok [] := rfl
  have hschema : parseTaxonomyExtractionSchema (codeRules.get? "extraction_schema") =
      .ok none := rfl
  simp only [parse_resolution_taxonomy_parameters, hcategories, hmonetary, hpatterns, hschema]
  rfl

end operious.resolution
