-- `urlsplit`: a text is cut at its scheme, its network location, its query and its fragment, and refused for
-- brackets that hold no address and for a location that reads as another one.
import Operious.Core.IpAddress
import Operious.Python

namespace operious.urllib

open ipaddress (ip_address IPAddress)

/-- What Python knows of Unicode: the normal form under compatibility, the lower case, and how a text is
quoted in a message. -/
class Unicode where
  nfkc : List Char → List Char
  lower : String → String
  repr : String → String
  lower_ascii : ∀ s : String, (∀ c ∈ s.toList, c.toNat < 128) →
    lower s = String.ofList (s.toList.map Char.toLower)

theorem lower_chars (s : String) (_ : ∀ c ∈ s.toList, c.toNat < 128) :
    String.ofList ((ascii.chars s).map Char.toLower) = String.ofList (s.toList.map Char.toLower) := by
  rw [ascii.chars_eq_toList]

structure SplitResult where
  scheme : List Char
  netloc : List Char
  path : List Char
  query : List Char
  fragment : List Char
  deriving DecidableEq, Repr

/-- `text.partition(sep)` without the separator. -/
def partition (sep : Char) (text : List Char) : List Char × List Char :=
  (text.takeWhile (· ≠ sep), (text.dropWhile (· ≠ sep)).tail)

def scheme_char (c : Char) : Bool := c.isAlphanum || c = '+' || c = '-' || c = '.'

/-- The scheme is what stands before the first colon, when it is written like one. -/
def splitScheme (url : List Char) : List Char × List Char :=
  match url with
  | c :: _ =>
    if ':' ∈ url ∧ c.isAlpha ∧ (partition ':' url).1.all scheme_char then
      ((partition ':' url).1.map Char.toLower, (partition ':' url).2)
    else ([], url)
  | [] => ([], [])

def check_bracketed_host (hostname : List Char) : Except String Unit :=
  match hostname with
  | 'v' :: rest =>
    let digits := rest.takeWhile fun c => (ipaddress.hexValue? c).isSome
    match digits, rest.drop digits.length with
    | _ :: _, '.' :: _ :: _ => .ok ()
    | _, _ => .error "IPvFuture address is invalid"
  | _ =>
    match ip_address (String.ofList hostname) with
    | none => .error (String.ofList hostname ++ " does not appear to be an IPv4 or IPv6 address")
    | some (.v4 _) => .error "An IPv4 address cannot be in brackets"
    | some (.v6 _) => .ok ()

section

variable [Unicode]

def checknetloc (netloc : List Char) : Except String Unit :=
  if netloc.all (·.toNat < 128) then .ok ()
  else
    let n := netloc.filter fun c => !(['@', ':', '#', '?'].contains c)
    let netloc2 := Unicode.nfkc n
    if n = netloc2 then .ok ()
    else if netloc2.any ['/', '?', '#', '@', ':'].contains then
      .error ("netloc '" ++ String.ofList netloc ++
        "' contains invalid characters under NFKC normalization")
    else .ok ()

/-- The text that `urlsplit` cuts: no control characters or blanks at its head and no tabs or line ends. -/
def clean (url : String) : List Char :=
  ((ascii.chars url).dropWhile fun c => c.toNat ≤ 32).filter fun c => !(['\t', '\r', '\n'].contains c)

/-- The network location and the rest of a text that follows the scheme. -/
def splitNetloc (url : List Char) : Except String (List Char × List Char) :=
  match url with
  | '/' :: '/' :: rest =>
    let netloc := rest.takeWhile fun c => !(['/', '?', '#'].contains c)
    let url := rest.dropWhile fun c => !(['/', '?', '#'].contains c)
    if ('[' ∈ netloc) ≠ (']' ∈ netloc) then .error "Invalid IPv6 URL"
    else if '[' ∈ netloc then do
      check_bracketed_host (partition ']' (partition '[' netloc).2).1
      return (netloc, url)
    else .ok (netloc, url)
  | _ => .ok ([], url)

def urlsplit (url : String) : Except String SplitResult := do
  let (scheme, url) := splitScheme (clean url)
  let (netloc, url) ← splitNetloc url
  let (url, fragment) := partition '#' url
  let (path, query) := partition '?' url
  checknetloc netloc
  return { scheme, netloc, path, query, fragment }

/-- `_hostinfo`: what follows the last at sign, cut at the brackets or at the first colon. -/
def SplitResult.hostinfo (parts : SplitResult) : List Char × Option (List Char) :=
  let hostinfo := (parts.netloc.reverse.takeWhile (· ≠ '@')).reverse
  let (hostname, port) :=
    if '[' ∈ hostinfo then
      let (hostname, port) := partition ']' (partition '[' hostinfo).2
      (hostname, (partition ':' port).2)
    else partition ':' hostinfo
  (hostname, if port.isEmpty then none else some port)

/-- `hostname`: the zone of an address is not lowered. -/
def SplitResult.hostname (parts : SplitResult) : Option String :=
  let hostname := parts.hostinfo.1
  if hostname.isEmpty then none
  else
    let percent := if '%' ∈ hostname then "%" else ""
    some (Unicode.lower (String.ofList (partition '%' hostname).1) ++ percent ++
      String.ofList (partition '%' hostname).2)

end

def SplitResult.port (parts : SplitResult) : Except String (Option Nat) :=
  match parts.hostinfo.2 with
  | none => .ok none
  | some port =>
    if !port.all Char.isDigit then .error "Port could not be cast to integer value"
    else if 65535 < Nat.ofDigitChars 10 port 0 then .error "Port out of range 0-65535"
    else .ok (some (Nat.ofDigitChars 10 port 0))

/-! ## What was cut -/

theorem partition_append {sep : Char} {text : List Char} (h : sep ∈ text) :
    (partition sep text).1 ++ sep :: (partition sep text).2 = text := by
  induction text with
  | nil => cases h
  | cons c text ih =>
    by_cases hc : c = sep
    · simp [partition, hc]
    · have hmem : sep ∈ text := (List.mem_cons.mp h).resolve_left (Ne.symm hc)
      have hrest := ih hmem
      simp only [partition, ne_eq, decide_not] at hrest
      simp [partition, hc, hrest]

theorem splitScheme_eq {url scheme rest : List Char} (h : splitScheme url = (scheme, rest))
    (hscheme : scheme ≠ []) :
    ∃ written, url = written ++ ':' :: rest ∧ written.map Char.toLower = scheme ∧
      ∀ c ∈ written, scheme_char c = true := by
  unfold splitScheme at h
  split at h
  · split_ifs at h with hfound
    · cases h
      exact ⟨_, (partition_append hfound.1).symm, rfl, List.all_eq_true.mp hfound.2.2⟩
    · cases h
      exact absurd rfl hscheme
  · cases h
    exact absurd rfl hscheme

theorem splitNetloc_eq {url netloc rest : List Char} (h : splitNetloc url = .ok (netloc, rest))
    (hnetloc : netloc ≠ []) : url = '/' :: '/' :: (netloc ++ rest) := by
  unfold splitNetloc at h
  split at h
  · rename_i text
    have htext := List.takeWhile_append_dropWhile (p := fun c => !(['/', '?', '#'].contains c)) (l := text)
    simp only at h
    split_ifs at h with hbrackets hopen
    · obtain ⟨_, -, hpair⟩ := bind_eq_ok.mp h
      cases hpair
      rw [htext]
    · cases h
      rw [htext]
  · cases h
    exact absurd rfl hnetloc

variable {c : Char}

theorem upper_range (h : c.isUpper = true) : 65 ≤ c.toNat ∧ c.toNat ≤ 90 := by
  have hval : 65 ≤ c.val ∧ c.val ≤ 90 := of_decide_eq_true h
  exact ⟨UInt32.le_iff_toNat_le.mp hval.1, UInt32.le_iff_toNat_le.mp hval.2⟩

theorem toLower_of_upper (h : c.isUpper = true) : c.toLower.toNat = c.toNat + 32 := by
  have hrange := upper_range h
  have hval : c.toLower.val = c.val + 32 := by
    unfold Char.toLower
    rw [dif_pos (of_decide_eq_true h)]
    rfl
  change c.toLower.val.toNat = c.toNat + 32
  have hsmall : c.val.toNat + 32 < 2 ^ 32 := by
    change c.toNat + 32 < _
    omega
  rw [hval, UInt32.toNat_add]
  exact Nat.mod_eq_of_lt hsmall

theorem toLower_of_not_upper (h : c.isUpper = false) : c.toLower = c :=
  dif_neg (of_decide_eq_false h)

theorem toLower_ascii (h : c.toNat < 128) : c.toLower.toNat < 128 := by
  cases hupper : c.isUpper with
  | true =>
    have hrange := upper_range hupper
    rw [toLower_of_upper hupper]
    omega
  | false => rwa [toLower_of_not_upper hupper]

theorem toLower_toLower (c : Char) : c.toLower.toLower = c.toLower := by
  cases hlower : c.toLower.isUpper with
  | false => exact toLower_of_not_upper hlower
  | true =>
    cases hupper : c.isUpper with
    | false => rw [toLower_of_not_upper hupper, toLower_of_not_upper hupper]
    | true =>
      have hrange := upper_range hlower
      have hlow := (upper_range hupper).1
      rw [toLower_of_upper hupper] at hrange
      omega

theorem scheme_char_ascii (h : scheme_char c = true) : c.toNat < 128 := by
  have hsmall : ∀ {n : UInt32}, n.toNat < 128 → c.val ≤ n → c.toNat < 128 := fun hn hle =>
    Nat.lt_of_le_of_lt (UInt32.le_iff_toNat_le.mp hle) hn
  simp only [scheme_char, Char.isAlphanum, Bool.or_eq_true, decide_eq_true_eq] at h
  rcases h with (((h | h) | rfl) | rfl) | rfl
  · obtain h | h := Bool.or_eq_true_iff.mp h
    · exact Nat.lt_of_le_of_lt (upper_range h).2 (by decide)
    · exact hsmall (by decide) (of_decide_eq_true (Bool.and_eq_true_iff.mp h).2)
  · exact hsmall (by decide) (of_decide_eq_true (Bool.and_eq_true_iff.mp h).2)
  all_goals decide

variable {parts : SplitResult}

theorem urlsplit_ok [Unicode] {url : String} (h : urlsplit url = .ok parts) :
    ∃ text rest, splitScheme (clean url) = (parts.scheme, text) ∧
      splitNetloc text = .ok (parts.netloc, rest) := by
  unfold urlsplit at h
  cases hscheme : splitScheme (clean url) with
  | mk scheme text =>
    simp only [hscheme] at h
    obtain ⟨⟨netloc, rest⟩, hsplit, hrest⟩ := bind_eq_ok.mp h
    obtain ⟨_, -, hparts⟩ := bind_eq_ok.mp hrest
    cases hparts
    exact ⟨text, rest, rfl, hsplit⟩

theorem urlsplit_https [Unicode] {url : String} (h : urlsplit url = .ok parts)
    (hscheme : Unicode.lower (String.ofList parts.scheme) = "https") (hnetloc : parts.netloc ≠ []) :
    ∃ written rest, clean url = written ++ ':' :: '/' :: '/' :: (parts.netloc ++ rest) ∧
      String.ofList (written.map Char.toLower) = "https" := by
  obtain ⟨text, rest, hfront, hback⟩ := urlsplit_ok h
  have hsome : parts.scheme ≠ [] := by
    intro hnil
    rw [hnil, Unicode.lower_ascii _ (by simp)] at hscheme
    revert hscheme
    decide
  obtain ⟨written, hwritten, hlower, hchars⟩ := splitScheme_eq hfront hsome
  rw [splitNetloc_eq hback hnetloc] at hwritten
  refine ⟨written, rest, hwritten, ?_⟩
  have hascii : ∀ c ∈ (String.ofList (written.map Char.toLower)).toList, c.toNat < 128 := by
    simp only [String.toList_ofList, List.mem_map]
    rintro _ ⟨c, hc, rfl⟩
    exact toLower_ascii (scheme_char_ascii (hchars c hc))
  rw [← hlower, Unicode.lower_ascii _ hascii] at hscheme
  simpa [Function.comp_def, toLower_toLower] using hscheme

theorem netloc_ne_nil [Unicode] {host : String} (h : parts.hostname = some host) :
    parts.netloc ≠ [] := by
  intro hnil
  simp [SplitResult.hostname, SplitResult.hostinfo, hnil, partition] at h

end operious.urllib
