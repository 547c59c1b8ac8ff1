-- The guard of outbound URLs: https, an allowed host, and addresses none of which is blocked. What it takes
-- for a URL that passed to reach public hosts only.
import Operious.Core.UrlSplit

namespace operious.ssrf

open cidr ipaddress urllib

/-! ## The code -/

def ALLOWED_SCHEMES : List String := ["https"]

/-- What a resolver raises: an `OSError`, or an exception of another class. -/
inductive ResolverError
  | os_error
  | other (exception : String)
  deriving DecidableEq, Repr

abbrev Resolver := String → Nat → Except ResolverError (List String)

structure ValidatedPublicHTTPSURL where
  url : String
  hostname : String
  port : Nat
  pinned_ip : String
  deriving DecidableEq, Repr

inductive Raised
  | ssrf_validation_error (message : String)
  | value_error (message : String)
  | of_resolver (exception : String)
  deriving DecidableEq, Repr

def unmapped : IPAddress → IPAddress
  | .v4 ip => .v4 ip
  | .v6 address =>
    match address.ipv4_mapped with
    | some ip => .v4 ip
    | none => .v6 address

def is_blocked_ip (ip : IPAddress) : Bool :=
  let ip := unmapped ip
  ip.is_loopback || ip.is_link_local || ip.is_private || ip.is_multicast || ip.is_reserved ||
    ip.is_unspecified

section

variable [Unicode]

/-- What is checked before the resolver is asked. -/
def destination (url : String) (allowed_hosts : List String) : Except Raised (String × Nat) :=
  match urlsplit url with
  | .error message => .error (.value_error message)
  | .ok parts =>
    let scheme := String.ofList parts.scheme
    if Unicode.lower scheme ∉ ALLOWED_SCHEMES then
      .error (.ssrf_validation_error ("scheme " ++ Unicode.repr scheme ++
        " is not allowed; HTTPS is required"))
    else
      match parts.hostname with
      | none => .error (.ssrf_validation_error "URL has no host")
      | some host =>
        let allowlist := allowed_hosts.map Unicode.lower
        if host = "" then .error (.ssrf_validation_error "URL has no host")
        else if allowlist ≠ [] ∧ Unicode.lower host ∉ allowlist then
          .error (.ssrf_validation_error ("host " ++ Unicode.repr host ++ " is not in the allowlist"))
        else
          match parts.port with
          | .error _ => .error (.ssrf_validation_error "URL has an invalid port")
          | .ok port => .ok (host, if port.getD 0 = 0 then 443 else port.getD 0)

/-- The loop over the addresses: each is checked and the first is kept. -/
def pin (host : String) : Option String → List String → Except Raised (Option String)
  | pinned_ip, [] => .ok pinned_ip
  | pinned_ip, raw :: addresses =>
    match ip_address raw with
    | none => .error (.ssrf_validation_error (Unicode.repr host ++
        " resolved to an unparseable address " ++ Unicode.repr raw))
    | some ip =>
      if is_blocked_ip ip then
        .error (.ssrf_validation_error (Unicode.repr host ++ " resolves to blocked address " ++ raw))
      else pin host (pinned_ip.or (some ip.str)) addresses

def validate_public_https_url (url : String) (allowed_hosts : List String) (resolve : Resolver) :
    Except Raised ValidatedPublicHTTPSURL :=
  match destination url allowed_hosts with
  | .error raised => .error raised
  | .ok (host, port) =>
    match resolve host port with
    | .error .os_error =>
      .error (.ssrf_validation_error ("DNS resolution failed for " ++ Unicode.repr host))
    | .error (.other exception) => .error (.of_resolver exception)
    | .ok [] => .error (.ssrf_validation_error (Unicode.repr host ++ " resolved to no addresses"))
    | .ok (raw :: addresses) =>
      match pin host none (raw :: addresses) with
      | .error raised => .error raised
      | .ok none =>
        .error (.ssrf_validation_error (Unicode.repr host ++ " resolved to no usable addresses"))
      | .ok (some pinned_ip) => .ok { url, hostname := host, port, pinned_ip }

end

/-! ## What is reached from everywhere -/

/-- An address of version four that is reached from everywhere. -/
structure RoutableV4 (ip : IPv4Address) : Prop where
  not_shared : IPv4Address.public_network.contains ip = false
  not_private : IPv4Address.is_private ip = false
  not_loopback : IPv4Address.is_loopback ip = false
  not_link_local : IPv4Address.is_link_local ip = false
  not_multicast : IPv4Address.is_multicast ip = false
  not_reserved : IPv4Address.is_reserved ip = false
  not_unspecified : IPv4Address.is_unspecified ip = false

/-- The blocks whose addresses carry one of version four: in the last bits, after the first sixteen, as
server and client of a tunnel, and behind a translator. -/
def compatible_network := v6Block [] 96

def sixtofour_network := v6Block [0x2002] 16

def teredo_network := v6Block [0x2001, 0] 32

def nat64_network := v6Block [0x64, 0xff9b] 96

def embedded (ip : BitVec 128) : List IPv4Address :=
  (if compatible_network.contains ip || nat64_network.contains ip then [ip.setWidth 32] else []) ++
    (if sixtofour_network.contains ip then [(ip >>> 80).setWidth 32] else []) ++
    (if teredo_network.contains ip then [(ip >>> 64).setWidth 32, (~~~ip).setWidth 32] else [])

/-- An address of version six that is reached from everywhere and carries none that is not. -/
structure RoutableV6 (address : IPv6Address) : Prop where
  not_private : address.is_private = false
  not_loopback : address.is_loopback = false
  not_link_local : address.is_link_local = false
  not_site_local : address.is_site_local = false
  not_multicast : address.is_multicast = false
  not_reserved : address.is_reserved = false
  not_unspecified : address.is_unspecified = false
  carries : ∀ ip ∈ embedded address.ip, RoutableV4 ip

def Routable (ip : IPAddress) : Prop :=
  match unmapped ip with
  | .v4 ip => RoutableV4 ip
  | .v6 address => RoutableV6 address

/-- The two blocks that the guard leaves out: the addresses that carriers share, and those of a site. -/
def unlisted (ip : IPAddress) : Bool :=
  match unmapped ip with
  | .v4 ip => IPv4Address.public_network.contains ip
  | .v6 address => address.is_site_local

/-! ## Carried addresses -/

variable {address : IPv6Address}

theorem outside_of_not_reserved (outer inner : Block 128)
    (houter : outer ∈ IPv6Address.reserved_networks) (hlen : outer.prefixlen ≤ inner.prefixlen)
    (hbase : outer.contains inner.base = true) (h : address.is_reserved = false) :
    inner.contains address.ip = false := by
  cases hin : inner.contains address.ip with
  | false => rfl
  | true =>
    have hreserved : address.is_reserved = true :=
      List.any_eq_true.mpr ⟨outer, houter, Block.contains_of_inner hlen hbase hin⟩
    rw [h] at hreserved
    cases hreserved

theorem outside_of_not_private (outer inner : Block 128)
    (houter : outer ∈ IPv6Address.private_networks) (hlen : outer.prefixlen ≤ inner.prefixlen)
    (hbase : outer.contains inner.base = true)
    (hapart : ∀ e ∈ IPv6Address.private_networks_exceptions,
      e.contains inner.base = false ∧ inner.contains e.base = false)
    (hmapped : address.ipv4_mapped = none) (h : address.is_private = false) :
    inner.contains address.ip = false := by
  cases hin : inner.contains address.ip with
  | false => rfl
  | true =>
    have hexceptions : IPv6Address.private_networks_exceptions.all (!·.contains address.ip) = true := by
      refine List.all_eq_true.mpr fun e he => ?_
      rw [Block.disjoint (hapart e he).1 (hapart e he).2 hin, Bool.not_false]
    have hprivate : address.is_private = true := by
      unfold IPv6Address.is_private
      rw [hmapped]
      refine Bool.and_eq_true_iff.mpr ⟨List.any_eq_true.mpr ⟨outer, houter, ?_⟩, hexceptions⟩
      exact Block.contains_of_inner hlen hbase hin
    rw [h] at hprivate
    cases hprivate

theorem embedded_eq_nil (hmapped : address.ipv4_mapped = none)
    (hprivate : address.is_private = false) (hreserved : address.is_reserved = false) :
    embedded address.ip = [] := by
  have hcompatible : compatible_network.contains address.ip = false :=
    outside_of_not_reserved (v6Block [] 8) _ (by decide) (by decide) (by decide) hreserved
  have hnat64 : nat64_network.contains address.ip = false :=
    outside_of_not_reserved (v6Block [] 8) _ (by decide) (by decide) (by decide) hreserved
  have hsixtofour : sixtofour_network.contains address.ip = false :=
    outside_of_not_private (v6Block [0x2002] 16) _ (by decide) (by decide) (by decide) (by decide)
      hmapped hprivate
  have hteredo : teredo_network.contains address.ip = false :=
    outside_of_not_private (v6Block [0x2001] 23) _ (by decide) (by decide) (by decide) (by decide)
      hmapped hprivate
  simp [embedded, hcompatible, hnat64, hsixtofour, hteredo]

theorem routable_iff {ip : IPAddress} (h : is_blocked_ip ip = false) :
    Routable ip ↔ unlisted ip = false := by
  unfold is_blocked_ip at h
  unfold Routable unlisted
  simp only [Bool.or_eq_false_iff] at h
  obtain ⟨⟨⟨⟨⟨hloopback, hlink⟩, hprivate⟩, hmulticast⟩, hreserved⟩, hunspecified⟩ := h
  have hmapped : ∀ address, unmapped ip = .v6 address → address.ipv4_mapped = none := by
    intro address haddress
    cases ip with
    | v4 ip => cases haddress
    | v6 ip =>
      cases hm : ip.ipv4_mapped with
      | none =>
        simp only [unmapped, hm] at haddress
        cases haddress
        exact hm
      | some ip4 =>
        simp only [unmapped, hm] at haddress
        cases haddress
  cases hip : unmapped ip with
  | v4 ip4 =>
    rw [hip] at hloopback hlink hprivate hmulticast hreserved hunspecified
    constructor
    · exact fun hroutable => hroutable.not_shared
    · intro hshared
      exact ⟨hshared, hprivate, hloopback, hlink, hmulticast, hreserved, hunspecified⟩
  | v6 address =>
    rw [hip] at hloopback hlink hprivate hmulticast hreserved hunspecified
    have hcarries := embedded_eq_nil (hmapped address hip) hprivate hreserved
    constructor
    · exact fun hroutable => hroutable.not_site_local
    · intro hsite
      refine ⟨hprivate, hloopback, hlink, hsite, hmulticast, hreserved, hunspecified, ?_⟩
      simp [hcarries]

/-! ## Which answers are safe -/

/-- A resolved text that the loop refuses: no address, or a blocked one. -/
def refused (raw : String) : Bool := (ip_address raw).all is_blocked_ip

section

variable [Unicode] {url : String} {allowed_hosts : List String} {resolve : Resolver}

structure ReachesPublic (url : String) (allowed_hosts addresses : List String)
    (validated : ValidatedPublicHTTPSURL) : Prop where
  same_url : validated.url = url
  https : ∃ parts written rest, urlsplit url = .ok parts ∧ parts.hostname = some validated.hostname ∧
    clean url = written ++ ':' :: '/' :: '/' :: (parts.netloc ++ rest) ∧
    String.ofList (written.map Char.toLower) = "https"
  allowed : allowed_hosts ≠ [] →
    Unicode.lower validated.hostname ∈ allowed_hosts.map Unicode.lower
  routable : ∀ raw ∈ addresses, ∃ ip, ip_address raw = some ip ∧ Routable ip
  pinned : ∃ raw ∈ addresses, ∃ ip, ip_address raw = some ip ∧ validated.pinned_ip = ip.str

def Guarded (url : String) (allowed_hosts : List String) (resolve : Resolver) : Prop :=
  match validate_public_https_url url allowed_hosts resolve with
  | .error (.ssrf_validation_error _) => True
  | .error _ => False
  | .ok validated => ∃ addresses, resolve validated.hostname validated.port = .ok addresses ∧
      ReachesPublic url allowed_hosts addresses validated

/-- The URL can be split, and the resolver that is asked about its host raises nothing but an `OSError`
and returns no address of the two blocks among addresses that are all read and not blocked. -/
def Sheltered (url : String) (allowed_hosts : List String) (resolve : Resolver) : Prop :=
  (∃ parts, urlsplit url = .ok parts) ∧
    ∀ host port, destination url allowed_hosts = .ok (host, port) →
      match resolve host port with
      | .error .os_error => True
      | .error (.other _) => False
      | .ok addresses =>
        addresses.any refused = true ∨ ∀ raw ∈ addresses, (ip_address raw).any unlisted = false

theorem of_destination {host : String} {port : Nat}
    (h : destination url allowed_hosts = .ok (host, port)) :
    (∃ parts, urlsplit url = .ok parts ∧ parts.hostname = some host ∧
      Unicode.lower (String.ofList parts.scheme) = "https") ∧
      (allowed_hosts ≠ [] → Unicode.lower host ∈ allowed_hosts.map Unicode.lower) := by
  unfold destination at h
  cases hsplit : urlsplit url with
  | error message =>
    simp only [hsplit] at h
    cases h
  | ok parts =>
    simp only [hsplit] at h
    split_ifs at h with hscheme
    cases hhost : parts.hostname with
    | none =>
      simp only [hhost] at h
      cases h
    | some name =>
      simp only [hhost] at h
      split_ifs at h with hempty hallowed
      cases hport : parts.port with
      | error message =>
        simp only [hport] at h
        cases h
      | ok n =>
        simp only [hport] at h
        cases h
        refine ⟨⟨parts, rfl, hhost, ?_⟩, ?_⟩
        · simpa [ALLOWED_SCHEMES] using hscheme
        · intro hne
          by_contra hnot
          exact hallowed ⟨by simpa using hne, hnot⟩

theorem of_destination_error {raised : Raised} (h : destination url allowed_hosts = .error raised) :
    (∃ message, urlsplit url = .error message ∧ raised = .value_error message) ∨
      ∃ message, raised = .ssrf_validation_error message := by
  unfold destination at h
  cases hsplit : urlsplit url with
  | error message =>
    simp only [hsplit, Except.error.injEq] at h
    exact Or.inl ⟨message, rfl, h.symm⟩
  | ok parts =>
    right
    simp only [hsplit] at h
    split_ifs at h with hscheme
    · cases hhost : parts.hostname with
      | none =>
        simp only [hhost] at h
        exact ⟨_, (Except.error.inj h).symm⟩
      | some name =>
        simp only [hhost] at h
        split_ifs at h with hempty hallowed
        · exact ⟨_, (Except.error.inj h).symm⟩
        · exact ⟨_, (Except.error.inj h).symm⟩
        · cases hport : parts.port with
          | error message =>
            simp only [hport] at h
            exact ⟨_, (Except.error.inj h).symm⟩
          | ok n =>
            simp only [hport] at h
            cases h
    · exact ⟨_, (Except.error.inj h).symm⟩

theorem pin_cases (host : String) (pinned_ip : Option String) (addresses : List String) :
    (addresses.any refused = true ∧
        ∃ message, pin host pinned_ip addresses = .error (.ssrf_validation_error message)) ∨
      (addresses.any refused = false ∧ pin host pinned_ip addresses =
        .ok (pinned_ip.or (addresses.head?.bind fun raw => (ip_address raw).map (·.str)))) := by
  induction addresses generalizing pinned_ip with
  | nil => exact Or.inr ⟨rfl, by simp [pin]⟩
  | cons raw addresses ih =>
    rw [pin, List.any_cons, refused]
    cases hip : ip_address raw with
    | none => exact Or.inl ⟨rfl, _, rfl⟩
    | some ip =>
      cases hblocked : is_blocked_ip ip with
      | true => exact Or.inl ⟨by simp [hblocked], _, by simp [hblocked]; rfl⟩
      | false =>
        simp only [hblocked, Option.all_some, Bool.false_or, Bool.false_eq_true, if_false]
        rcases ih (pinned_ip.or (some ip.str)) with ⟨hany, message, hpin⟩ | ⟨hany, hpin⟩
        · exact Or.inl ⟨hany, message, hpin⟩
        · refine Or.inr ⟨hany, hpin.trans ?_⟩
          cases pinned_ip <;> simp [hip]

omit [Unicode] in
theorem of_not_refused {addresses : List String} (h : addresses.any refused = false) {raw : String}
    (hraw : raw ∈ addresses) : ∃ ip, ip_address raw = some ip ∧ is_blocked_ip ip = false := by
  have hnot := List.any_eq_false.mp h raw hraw
  cases hip : ip_address raw with
  | none => simp [refused, hip] at hnot
  | some ip => exact ⟨ip, rfl, by simpa [refused, hip] using hnot⟩

/-- A URL is refused with the error of the guard or reaches public hosts only, exactly when it can be
split and its resolver gives neither another error nor an address of the two blocks that the guard leaves
out. -/
theorem guarded_iff (url : String) (allowed_hosts : List String) (resolve : Resolver) :
    Guarded url allowed_hosts resolve ↔ Sheltered url allowed_hosts resolve := by
  unfold Guarded Sheltered validate_public_https_url
  cases hdestination : destination url allowed_hosts with
  | error raised =>
    rcases of_destination_error hdestination with ⟨message, hsplit, rfl⟩ | ⟨message, rfl⟩
    · simp [hsplit]
    · have hsplit : ∃ parts, urlsplit url = .ok parts := by
        cases hsplit : urlsplit url with
        | ok parts => exact ⟨parts, rfl⟩
        | error text =>
          unfold destination at hdestination
          simp [hsplit] at hdestination
      simp [hsplit]
  | ok target =>
    obtain ⟨host, port⟩ := target
    obtain ⟨⟨parts, hsplit, hhost, hscheme⟩, hallowed⟩ := of_destination hdestination
    have hask (P : String → Nat → Prop) :
        ((∃ parts, urlsplit url = .ok parts) ∧
          ∀ host' port', (.ok (host, port) : Except Raised (String × Nat)) = .ok (host', port') →
            P host' port') ↔ P host port := by
      constructor
      · exact fun h => h.2 host port rfl
      · refine fun h => ⟨⟨parts, hsplit⟩, ?_⟩
        rintro _ _ ⟨⟩
        exact h
    rw [hask]
    cases hresolve : resolve host port with
    | error raised =>
      cases raised with
      | os_error => simp [hresolve]
      | other exception => simp [hresolve]
    | ok addresses =>
      cases addresses with
      | nil => simp [hresolve]
      | cons raw addresses =>
        simp only [hresolve]
        rcases pin_cases host none (raw :: addresses) with ⟨hany, message, hpin⟩ | ⟨hany, hpin⟩
        · simp [hpin, hany]
        · obtain ⟨ip, hip, -⟩ := of_not_refused hany List.mem_cons_self
          have hpinned : pin host none (raw :: addresses) = .ok (some ip.str) := by
            rw [hpin]
            simp [hip]
          simp only [hpinned, hany, Bool.false_eq_true, false_or]
          constructor
          · rintro ⟨_, hanswer, hreaches⟩ text htext
            cases hresolve.symm.trans hanswer
            obtain ⟨ip', hip', hroutable⟩ := hreaches.routable text htext
            obtain ⟨_, hread, hfree⟩ := of_not_refused hany htext
            cases hip'.symm.trans hread
            rw [hip', Option.any_some]
            exact (routable_iff hfree).mp hroutable
          · intro hlisted
            refine ⟨_, hresolve, {
              same_url := rfl
              https := ?_
              allowed := hallowed
              routable := ?_
              pinned := ⟨raw, List.mem_cons_self, ip, hip, rfl⟩ }⟩
            · obtain ⟨written, rest, hclean, hhttps⟩ := urlsplit_https hsplit hscheme (netloc_ne_nil hhost)
              exact ⟨parts, written, rest, hsplit, hhost, hclean, hhttps⟩
            · intro text htext
              obtain ⟨ip', hip', hfree⟩ := of_not_refused hany htext
              have hunlisted := hlisted text htext
              rw [hip', Option.any_some] at hunlisted
              exact ⟨ip', hip', (routable_iff hfree).mpr hunlisted⟩

end

/-! ## A host behind the address of a carrier -/

instance asciiText : Unicode where
  nfkc := id
  lower s := String.ofList ((ascii.chars s).map Char.toLower)
  repr s := "'" ++ s ++ "'"
  lower_ascii := urllib.lower_chars

/-- An address that carriers share passes the guard. -/
theorem shared_address_passes :
    ¬ Guarded "https://shop.example/hook" [] fun _ _ => .ok ["100.64.0.1"] := by
  intro h
  have hpasses : validate_public_https_url "https://shop.example/hook" []
      (fun _ _ => .ok ["100.64.0.1"]) = .ok {
        url := "https://shop.example/hook"
        hostname := "shop.example"
        port := 443
        pinned_ip := "100.64.0.1" } := by decide +kernel
  rw [Guarded, hpasses] at h
  obtain ⟨addresses, hanswer, hreaches⟩ := h
  cases hanswer
  obtain ⟨ip, hip, hroutable⟩ := hreaches.routable "100.64.0.1" List.mem_cons_self
  have hshared : (ip_address "100.64.0.1").any unlisted = true := by decide +kernel
  have hfree : (ip_address "100.64.0.1").all (!is_blocked_ip ·) = true := by decide +kernel
  rw [hip] at hshared hfree
  have hunlisted := (routable_iff (by simpa using hfree)).mp hroutable
  rw [Option.any_some, hunlisted] at hshared
  cases hshared

/-- A bracket that is not closed leaves the guard as another error. -/
example : validate_public_https_url "https://[::1" [] (fun _ _ => .ok ["93.184.216.34"]) =
    .error (.value_error "Invalid IPv6 URL") := by decide +kernel

end operious.ssrf
