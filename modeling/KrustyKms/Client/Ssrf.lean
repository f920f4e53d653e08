import KrustyKms.Common.Basic

/-!
# Which hosts a coordinator may have

Coordinator URLs may not lead to internal hosts: addresses are checked against the special-use
ranges, also through the IPv6 ranges that stand for an IPv4 host.
-/

namespace KrustyKms.Client

structure Ipv4Addr where
  a : UInt8
  b : UInt8
  c : UInt8
  d : UInt8
deriving DecidableEq, Repr

structure Ipv6Addr where
  s0 : UInt16
  s1 : UInt16
  s2 : UInt16
  s3 : UInt16
  s4 : UInt16
  s5 : UInt16
  s6 : UInt16
  s7 : UInt16
deriving DecidableEq, Repr

inductive IpAddr where
  | v4 (addr : Ipv4Addr)
  | v6 (addr : Ipv6Addr)
deriving DecidableEq, Repr

structure SocketAddr where
  ip : IpAddr
  port : UInt16
deriving DecidableEq, Repr

/-! ## The standard library's addresses -/

namespace Ipv4Addr

def isPrivate (v4 : Ipv4Addr) : Bool :=
  v4.a == 10 || (v4.a == 172 && 16 ≤ v4.b && v4.b ≤ 31) || (v4.a == 192 && v4.b == 168)

def isLoopback (v4 : Ipv4Addr) : Bool := v4.a == 127

def isLinkLocal (v4 : Ipv4Addr) : Bool := v4.a == 169 && v4.b == 254

def isBroadcast (v4 : Ipv4Addr) : Bool := v4 == ⟨255, 255, 255, 255⟩

def isDocumentation (v4 : Ipv4Addr) : Bool :=
  (v4.a == 192 && v4.b == 0 && v4.c == 2) || (v4.a == 198 && v4.b == 51 && v4.c == 100) ||
    (v4.a == 203 && v4.b == 0 && v4.c == 113)

def isUnspecified (v4 : Ipv4Addr) : Bool := v4 == ⟨0, 0, 0, 0⟩

def isMulticast (v4 : Ipv4Addr) : Bool := 224 ≤ v4.a && v4.a ≤ 239

def display (v4 : Ipv4Addr) : String := s!"{v4.a}.{v4.b}.{v4.c}.{v4.d}"

end Ipv4Addr

def ipv4FromU16Pair (hi lo : UInt16) : Ipv4Addr :=
  ⟨(hi >>> 8).toUInt8, hi.toUInt8, (lo >>> 8).toUInt8, lo.toUInt8⟩

namespace Ipv6Addr

def segments (v6 : Ipv6Addr) : List UInt16 :=
  [v6.s0, v6.s1, v6.s2, v6.s3, v6.s4, v6.s5, v6.s6, v6.s7]

def toIpv4Mapped (v6 : Ipv6Addr) : Option Ipv4Addr :=
  if v6.s0 = 0 ∧ v6.s1 = 0 ∧ v6.s2 = 0 ∧ v6.s3 = 0 ∧ v6.s4 = 0 ∧ v6.s5 = 0xffff then
    some (ipv4FromU16Pair v6.s6 v6.s7)
  else none

def isLoopback (v6 : Ipv6Addr) : Bool := v6 == ⟨0, 0, 0, 0, 0, 0, 0, 1⟩

def isUnspecified (v6 : Ipv6Addr) : Bool := v6 == ⟨0, 0, 0, 0, 0, 0, 0, 0⟩

def isMulticast (v6 : Ipv6Addr) : Bool := v6.s0 &&& 0xff00 == 0xff00

def isUnicastLinkLocal (v6 : Ipv6Addr) : Bool := v6.s0 &&& 0xffc0 == 0xfe80

def isUniqueLocal (v6 : Ipv6Addr) : Bool := v6.s0 &&& 0xfe00 == 0xfc00

def longestZeros : List UInt16 → ℕ → ℕ × ℕ → ℕ × ℕ
  | [], _, best => best
  | segment :: rest, start, best =>
    let run := ((segment :: rest).takeWhile (· == 0)).length
    longestZeros rest (start + 1) (if run > best.2 then (start, run) else best)

def hexGroups (segments : List UInt16) : String :=
  String.intercalate ":" (segments.map fun s => String.ofList (Nat.toDigits 16 s.toNat))

def display (v6 : Ipv6Addr) : String :=
  match v6.toIpv4Mapped with
  | some v4 => "::ffff:" ++ v4.display
  | none =>
    let (start, run) := longestZeros v6.segments 0 (0, 0)
    if run > 1 then
      hexGroups (v6.segments.take start) ++ "::" ++ hexGroups (v6.segments.drop (start + run))
    else hexGroups v6.segments

end Ipv6Addr

def IpAddr.display : IpAddr → String
  | .v4 addr => addr.display
  | .v6 addr => addr.display

/-! ## Blocked addresses -/

def isBlockedIpv4 (v4 : Ipv4Addr) : Bool :=
  v4.isPrivate || v4.isLoopback || v4.isLinkLocal || v4.isBroadcast || v4.isDocumentation ||
    v4.isUnspecified || v4.isMulticast || v4.a == 0 ||
    -- CGNAT 100.64.0.0/10
    (v4.a == 100 && v4.b &&& 0xc0 == 0x40) ||
    -- AWS/GCP metadata
    v4 == ⟨169, 254, 169, 254⟩ ||
    -- IETF Protocol Assignments 192.0.0.0/24
    (v4.a == 192 && v4.b == 0 && v4.c == 0) ||
    -- Benchmarking 198.18.0.0/15
    (v4.a == 198 && (v4.b == 18 || v4.b == 19)) ||
    -- Reserved / future use 240.0.0.0/4
    240 ≤ v4.a

def isBlockedIpv6 (v6 : Ipv6Addr) : Bool :=
  v6.isLoopback || v6.isUnspecified || v6.isMulticast || v6.isUnicastLinkLocal ||
    v6.isUniqueLocal ||
    -- Deprecated site-local fec0::/10
    v6.s0 &&& 0xffc0 == 0xfec0 ||
    -- Documentation 2001:db8::/32
    (v6.s0 == 0x2001 && v6.s1 == 0x0db8) ||
    -- Discard prefix 100::/64
    (v6.s0 == 0x0100 && v6.s1 == 0 && v6.s2 == 0 && v6.s3 == 0)

def ipv4FromNat64Prefix (v6 : Ipv6Addr) : Option Ipv4Addr :=
  -- Well-known NAT64 prefix 64:ff9b::/96
  if v6.s0 = 0x0064 ∧ v6.s1 = 0xff9b ∧ v6.s2 = 0 ∧ v6.s3 = 0 ∧ v6.s4 = 0 ∧ v6.s5 = 0 then
    some (ipv4FromU16Pair v6.s6 v6.s7)
  -- Local-use NAT64 64:ff9b:1::/48 with /96-style suffix
  else if v6.s0 = 0x0064 ∧ v6.s1 = 0xff9b ∧ v6.s2 = 1 ∧ v6.s3 = 0 ∧ v6.s4 = 0 ∧ v6.s5 = 0 then
    some (ipv4FromU16Pair v6.s6 v6.s7)
  -- RFC 6052 PLEN=48 under local-use: IPv4 in bits 48-63 and 72-87
  else if v6.s0 = 0x0064 ∧ v6.s1 = 0xff9b ∧ v6.s2 = 1 ∧ v6.s4 >>> 8 = 0 then
    some ⟨(v6.s3 >>> 8).toUInt8, v6.s3.toUInt8, v6.s4.toUInt8, (v6.s5 >>> 8).toUInt8⟩
  else none

def isLocalUseNat64Prefix (v6 : Ipv6Addr) : Bool :=
  v6.s0 = 0x0064 ∧ v6.s1 = 0xff9b ∧ v6.s2 = 1

def ipv4FromTransitionPrefix (v6 : Ipv6Addr) : Option Ipv4Addr :=
  -- 6to4 2002::/16
  if v6.s0 = 0x2002 then some (ipv4FromU16Pair v6.s1 v6.s2)
  -- IPv4-compatible ::a.b.c.d
  else if v6.s0 = 0 ∧ v6.s1 = 0 ∧ v6.s2 = 0 ∧ v6.s3 = 0 ∧ v6.s4 = 0 ∧ v6.s5 = 0 ∧
      (v6.s6, v6.s7) ≠ (0, 0) then
    some (ipv4FromU16Pair v6.s6 v6.s7)
  else none

def isBlockedIp : IpAddr → Bool
  | .v4 v4 => isBlockedIpv4 v4
  | .v6 v6 =>
    match v6.toIpv4Mapped with
    | some v4 => isBlockedIpv4 v4
    | none => match ipv4FromNat64Prefix v6 with
      | some v4 => isBlockedIpv4 v4
      | none =>
        -- A local-use layout that cannot be decoded is blocked.
        if isLocalUseNat64Prefix v6 then true
        else match ipv4FromTransitionPrefix v6 with
          | some v4 => isBlockedIpv4 v4
          | none => isBlockedIpv6 v6

/-! ## Hosts -/

inductive Host where
  | domain (name : String)
  | ipv4 (addr : Ipv4Addr)
  | ipv6 (addr : Ipv6Addr)
deriving DecidableEq, Repr

structure Url where
  scheme : String
  host : Option Host
  port : Option UInt16
deriving DecidableEq, Repr

def Url.portOrKnownDefault (url : Url) : Option UInt16 :=
  url.port.or (match url.scheme with
    | "http" | "ws" => some 80
    | "https" | "wss" => some 443
    | "ftp" => some 21
    | _ => none)

/-- What a name lookup gives for a host and a port. -/
abbrev Lookup := String → UInt16 → Except String (List SocketAddr)

variable (lookup : Lookup)

def resolvePublicSocketAddrs (host : String) (port : UInt16) : Result (List SocketAddr) := do
  let addrs ← (lookup host port).mapError fun error =>
    .multisigError s!"failed to resolve coordinator host '{host}': {error}"
  if addrs.isEmpty then
    throw (.multisigError s!"coordinator host '{host}' resolved to no addresses")
  match addrs.find? fun addr => isBlockedIp addr.ip with
  | some addr =>
    throw (.multisigError
      s!"coordinator host '{host}' resolves to blocked address {addr.ip.display}")
  | none => pure addrs

def validateCoordinatorUrl (url : Url) : Result Unit := do
  if url.scheme ≠ "http" ∧ url.scheme ≠ "https" then
    throw (.multisigError
      s!"unsupported coordinator URL scheme '{url.scheme}' (only http/https)")
  match url.host with
  | none => throw (.multisigError "coordinator URL missing host")
  | some (.ipv4 v4) =>
    if isBlockedIpv4 v4 then
      throw (.multisigError s!"coordinator host '{v4.display}' is a blocked IP address")
    pure ()
  | some (.ipv6 v6) =>
    if isBlockedIp (.v6 v6) then
      throw (.multisigError s!"coordinator host '{v6.display}' is a blocked IP address")
    pure ()
  | some (.domain domain) =>
    let hostLower := domain.toLower
    if hostLower = "localhost" ∨ ".localhost".toList <:+ hostLower.toList ∨
        hostLower = "metadata.google.internal" then
      throw (.multisigError s!"coordinator host '{domain}' is blocked (loopback/metadata)")
    let port := url.portOrKnownDefault.getD 80
    let _ ← resolvePublicSocketAddrs lookup domain port
    pure ()

def bareName (name : String) : String :=
  let raw := (name.toList.reverse.dropWhile (· == '.')).reverse
  match raw with
  | '[' :: inner =>
    if inner.getLast? = some ']' then String.ofList inner.dropLast else String.ofList raw
  | _ => String.ofList raw

def publicOnlyResolve (parseIpAddr : String → Option IpAddr) (name : String) :
    Except String (List SocketAddr) := do
  let host := bareName name
  match parseIpAddr host with
  | some ip =>
    if isBlockedIp ip then throw s!"coordinator host '{host}' is a blocked IP address"
    pure [⟨ip, 0⟩]
  | none =>
    let addrs ← (lookup host 0).mapError fun error => s!"DNS resolve failed for '{host}': {error}"
    if addrs.isEmpty then throw s!"coordinator host '{host}' resolved to no addresses"
    -- One blocked address refuses the whole set.
    if addrs.any fun addr => isBlockedIp addr.ip then
      throw s!"coordinator host '{host}' resolved to a blocked address"
    pure addrs

end KrustyKms.Client
