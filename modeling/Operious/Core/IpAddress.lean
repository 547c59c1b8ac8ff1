-- The addresses of `ipaddress`: how a text is read as one, how one is written, and the special blocks that
-- decide whether it is reached from everywhere.
import Operious.Lib.Cidr
import Operious.Lib.Utf8

namespace operious.ipaddress

open cidr

abbrev IPv4Address := BitVec 32

/-- An address with the zone it was written with. -/
structure IPv6Address where
  ip : BitVec 128
  scope_id : Option String := none
  deriving DecidableEq, Repr

inductive IPAddress
  | v4 (ip : IPv4Address)
  | v6 (ip : IPv6Address)
  deriving DecidableEq, Repr

/-! ## Reading a text -/

def parse_octet (octet_str : List Char) : Option Nat :=
  if octet_str.isEmpty || !octet_str.all Char.isDigit || 3 < octet_str.length then none
  else if octet_str ≠ ['0'] ∧ octet_str.head? = some '0' then none
  else
    let octet := Nat.ofDigitChars 10 octet_str 0
    if 255 < octet then none else some octet

/-- The digits of a number in another base, the first the highest. -/
def number (base : Nat) (digits : List Nat) : Nat := digits.foldl (fun n d => n * base + d) 0

/-- `IPv4Address(text)`. -/
def IPv4Address.ofText (addr_str : List Char) : Option IPv4Address :=
  if '/' ∈ addr_str then none
  else do
    let octets ← (addr_str.splitOn '.').mapM parse_octet
    if octets.length ≠ 4 then none else some (BitVec.ofNat 32 (number 256 octets))

def hexValue? (c : Char) : Option Nat :=
  if c.isDigit then some (c.toNat - 48)
  else if 'a' ≤ c ∧ c ≤ 'f' then some (c.toNat - 87)
  else if 'A' ≤ c ∧ c ≤ 'F' then some (c.toNat - 55)
  else none

def parse_hextet (hextet_str : List Char) : Option Nat :=
  if hextet_str.isEmpty || 4 < hextet_str.length then none
  else (hextet_str.mapM hexValue?).map (number 16)

/-- `'%x' % n`. -/
def hex (n : Nat) : List Char := Nat.toDigits 16 n

/-- The indices of the parts within the endpoints that are empty. -/
def skipIndices (parts : List (List Char)) : List Nat :=
  (List.range parts.length).filter fun i => 0 < i && i + 1 < parts.length && parts[i]? = some []

/-- `_ip_int_from_string` of version six. -/
def ip_int_from_string (ip_str : List Char) : Option (BitVec 128) := do
  let parts := ip_str.splitOn ':'
  if parts.length < 3 then none
  -- a suffix in the style of version four stands for two parts
  let last := parts.getLastD []
  let parts ← if '.' ∈ last then do
      let ipv4_int ← IPv4Address.ofText last
      pure (parts.dropLast ++ [hex (ipv4_int.toNat / 65536), hex (ipv4_int.toNat % 65536)])
    else pure parts
  if 9 < parts.length then none
  let leading := parts.headD [] = []
  let trailing := parts.getLastD [] = []
  match skipIndices parts with
  | [] =>
    if parts.length ≠ 8 ∨ leading ∨ trailing then none
    let hextets ← parts.mapM parse_hextet
    some (BitVec.ofNat 128 (number 65536 hextets))
  | [skip_index] =>
    -- an empty endpoint is only permitted next to the skipped part
    if (leading ∧ skip_index ≠ 1) ∨ (trailing ∧ skip_index + 2 ≠ parts.length) then none
    let hi := if leading then [] else parts.take skip_index
    let lo := if trailing then [] else parts.drop (skip_index + 1)
    if 8 ≤ hi.length + lo.length then none
    let upper ← hi.mapM parse_hextet
    let lower ← lo.mapM parse_hextet
    some (BitVec.ofNat 128
      (number 65536 (upper ++ List.replicate (8 - (hi.length + lo.length)) 0 ++ lower)))
  | _ => none

/-- `IPv6Address(text)`. -/
def IPv6Address.ofText (addr_str : List Char) : Option IPv6Address :=
  if '/' ∈ addr_str then none
  else
    match addr_str.span (· ≠ '%') with
    | (addr, []) => (ip_int_from_string addr).map ({ ip := · })
    | (addr, _ :: scope_id) =>
      if scope_id.isEmpty || '%' ∈ scope_id then none
      else (ip_int_from_string addr).map ({ ip := ·, scope_id := some (String.ofList scope_id) })

/-- `ip_address`; `none` where it raises a ValueError. -/
def ip_address (address : String) : Option IPAddress :=
  ((IPv4Address.ofText (ascii.chars address)).map .v4).or
    ((IPv6Address.ofText (ascii.chars address)).map .v6)

/-! ## Writing an address -/

def IPv4Address.str (ip : IPv4Address) : String :=
  ".".intercalate ([24, 16, 8, 0].map fun shift => ((ip >>> shift).toNat % 256).repr)

/-- The run of zeros that the loop of `_compress_hextets` is in and the best one so far, by their first
index and their length. -/
structure ZeroRuns where
  best_start : Nat := 0
  best_len : Nat := 0
  start : Nat := 0
  len : Nat := 0

def ZeroRuns.next (runs : ZeroRuns) (index hextet : Nat) : ZeroRuns :=
  if hextet = 0 then
    let start := if runs.len = 0 then index else runs.start
    let len := runs.len + 1
    if runs.best_len < len then { best_start := start, best_len := len, start, len }
    else { runs with start, len }
  else { runs with start := 0, len := 0 }

def compress_hextets (hextets : List Nat) : List (List Char) :=
  let runs : ZeroRuns := hextets.zipIdx.foldl (fun runs h => ZeroRuns.next runs h.2 h.1) {}
  if 1 < runs.best_len then
    let best_end := runs.best_start + runs.best_len
    (if runs.best_start = 0 then [[]] else []) ++
      (hextets.take runs.best_start).map hex ++ [[]] ++ (hextets.drop best_end).map hex ++
      (if best_end = hextets.length then [[]] else [])
  else hextets.map hex

def IPv6Address.str (address : IPv6Address) : String :=
  let hextets := [112, 96, 80, 64, 48, 32, 16, 0].map fun shift => (address.ip >>> shift).toNat % 65536
  let ip_str := String.ofList (List.intercalate [':'] (compress_hextets hextets))
  match address.scope_id with
  | some scope_id => ip_str ++ "%" ++ scope_id
  | none => ip_str

/-- `str(ip)`. -/
def IPAddress.str : IPAddress → String
  | .v4 ip => IPv4Address.str ip
  | .v6 ip => ip.str

/-! ## The special blocks -/

def v4Block (octets : List Nat) (prefixlen : Nat) : Block 32 where
  base := BitVec.ofNat 32 (number 256 (octets ++ List.replicate (4 - octets.length) 0))
  prefixlen

def v6Block (hextets : List Nat) (prefixlen : Nat) : Block 128 where
  base := BitVec.ofNat 128 (number 65536 (hextets ++ List.replicate (8 - hextets.length) 0))
  prefixlen

namespace IPv4Address

def linklocal_network := v4Block [169, 254] 16

def loopback_network := v4Block [127] 8

def multicast_network := v4Block [224] 4

/-- The addresses that the networks of a carrier share. -/
def public_network := v4Block [100, 64] 10

def private_networks : List (Block 32) :=
  [v4Block [0] 8, v4Block [10] 8, v4Block [127] 8, v4Block [169, 254] 16, v4Block [172, 16] 12,
    v4Block [192, 0, 0] 24, v4Block [192, 0, 0, 170] 31, v4Block [192, 0, 2] 24, v4Block [192, 168] 16,
    v4Block [198, 18] 15, v4Block [198, 51, 100] 24, v4Block [203, 0, 113] 24, v4Block [240] 4,
    v4Block [255, 255, 255, 255] 32]

def private_networks_exceptions : List (Block 32) := [v4Block [192, 0, 0, 9] 32, v4Block [192, 0, 0, 10] 32]

def reserved_network := v4Block [240] 4

variable (ip : IPv4Address)

def is_reserved : Bool := reserved_network.contains ip

def is_private : Bool :=
  private_networks.any (·.contains ip) && private_networks_exceptions.all (!·.contains ip)

def is_multicast : Bool := multicast_network.contains ip

def is_unspecified : Bool := ip = 0

def is_loopback : Bool := loopback_network.contains ip

def is_link_local : Bool := linklocal_network.contains ip

end IPv4Address

namespace IPv6Address

def linklocal_network := v6Block [0xfe80] 10

def multicast_network := v6Block [0xff00] 8

def sitelocal_network := v6Block [0xfec0] 10

def private_networks : List (Block 128) :=
  [v6Block [0, 0, 0, 0, 0, 0, 0, 1] 128, v6Block [] 128, v6Block [0, 0, 0, 0, 0, 0xffff] 96,
    v6Block [0x64, 0xff9b, 1] 48, v6Block [0x100] 64, v6Block [0x2001] 23, v6Block [0x2001, 0xdb8] 32,
    v6Block [0x2002] 16, v6Block [0xfc00] 7, v6Block [0xfe80] 10]

def private_networks_exceptions : List (Block 128) :=
  [v6Block [0x2001, 1, 0, 0, 0, 0, 0, 1] 128, v6Block [0x2001, 1, 0, 0, 0, 0, 0, 2] 128,
    v6Block [0x2001, 3] 32, v6Block [0x2001, 4, 0x112] 48, v6Block [0x2001, 0x20] 28,
    v6Block [0x2001, 0x30] 28]

def reserved_networks : List (Block 128) :=
  [v6Block [] 8, v6Block [0x100] 8, v6Block [0x200] 7, v6Block [0x400] 6, v6Block [0x800] 5,
    v6Block [0x1000] 4, v6Block [0x4000] 3, v6Block [0x6000] 3, v6Block [0x8000] 3, v6Block [0xa000] 3,
    v6Block [0xc000] 3, v6Block [0xe000] 4, v6Block [0xf000] 5, v6Block [0xf800] 6, v6Block [0xfe00] 9]

variable (address : IPv6Address)

def ipv4_mapped : Option IPv4Address :=
  if address.ip >>> 32 ≠ 0xffff then none else some (address.ip.setWidth 32)

def is_multicast : Bool := multicast_network.contains address.ip

def is_reserved : Bool := reserved_networks.any (·.contains address.ip)

def is_link_local : Bool := linklocal_network.contains address.ip

def is_site_local : Bool := sitelocal_network.contains address.ip

def is_private : Bool :=
  match address.ipv4_mapped with
  | some ip => IPv4Address.is_private ip
  | none => private_networks.any (·.contains address.ip) &&
      private_networks_exceptions.all (!·.contains address.ip)

def is_unspecified : Bool := address.ip = 0

def is_loopback : Bool := address.ip = 1

end IPv6Address

namespace IPAddress

def is_loopback : IPAddress → Bool
  | v4 ip => IPv4Address.is_loopback ip
  | v6 ip => ip.is_loopback

def is_link_local : IPAddress → Bool
  | v4 ip => IPv4Address.is_link_local ip
  | v6 ip => ip.is_link_local

def is_private : IPAddress → Bool
  | v4 ip => IPv4Address.is_private ip
  | v6 ip => ip.is_private

def is_multicast : IPAddress → Bool
  | v4 ip => IPv4Address.is_multicast ip
  | v6 ip => ip.is_multicast

def is_reserved : IPAddress → Bool
  | v4 ip => IPv4Address.is_reserved ip
  | v6 ip => ip.is_reserved

def is_unspecified : IPAddress → Bool
  | v4 ip => IPv4Address.is_unspecified ip
  | v6 ip => ip.is_unspecified

end IPAddress

end operious.ipaddress
