import KrustyKms.Client.Ssrf
import KrustyKms.Support.Fallible

/-!
# Translated addresses and the coordinator filter

An IPv6 address can lead to an IPv4 host through a translation: the layouts of RFC 6052, 6to4 and
the mapped and compatible forms.
-/

namespace KrustyKms.Client

open Support

/-! ## Translations -/

def Ipv6Addr.octets (v6 : Ipv6Addr) : Vector UInt8 16 := #v[
  (v6.s0 >>> 8).toUInt8, v6.s0.toUInt8, (v6.s1 >>> 8).toUInt8, v6.s1.toUInt8,
  (v6.s2 >>> 8).toUInt8, v6.s2.toUInt8, (v6.s3 >>> 8).toUInt8, v6.s3.toUInt8,
  (v6.s4 >>> 8).toUInt8, v6.s4.toUInt8, (v6.s5 >>> 8).toUInt8, v6.s5.toUInt8,
  (v6.s6 >>> 8).toUInt8, v6.s6.toUInt8, (v6.s7 >>> 8).toUInt8, v6.s7.toUInt8]

/-- The prefix lengths of RFC 6052 that leave room behind a prefix of 48 bits. -/
inductive Layout where
  | plen48
  | plen56
  | plen64
  | plen96
deriving DecidableEq

def Layout.embedded (v6 : Ipv6Addr) : Layout → Ipv4Addr
  | .plen48 => ⟨v6.octets[6], v6.octets[7], v6.octets[9], v6.octets[10]⟩
  | .plen56 => ⟨v6.octets[7], v6.octets[9], v6.octets[10], v6.octets[11]⟩
  | .plen64 => ⟨v6.octets[9], v6.octets[10], v6.octets[11], v6.octets[12]⟩
  | .plen96 => ⟨v6.octets[12], v6.octets[13], v6.octets[14], v6.octets[15]⟩

def Ipv6Addr.LocalUse (v6 : Ipv6Addr) : Prop := v6.s0 = 0x64 ∧ v6.s1 = 0xff9b ∧ v6.s2 = 1

/-- An IPv6 address stands for an IPv4 host. -/
inductive Carries (v6 : Ipv6Addr) : Ipv4Addr → Prop
  | mapped (h : [v6.s0, v6.s1, v6.s2, v6.s3, v6.s4, v6.s5] = [0, 0, 0, 0, 0, 0xffff]) :
    Carries v6 ⟨v6.octets[12], v6.octets[13], v6.octets[14], v6.octets[15]⟩
  | compatible (h : [v6.s0, v6.s1, v6.s2, v6.s3, v6.s4, v6.s5] = [0, 0, 0, 0, 0, 0]) :
    Carries v6 ⟨v6.octets[12], v6.octets[13], v6.octets[14], v6.octets[15]⟩
  | wellKnown (h : [v6.s0, v6.s1, v6.s2, v6.s3, v6.s4, v6.s5] = [0x64, 0xff9b, 0, 0, 0, 0]) :
    Carries v6 ⟨v6.octets[12], v6.octets[13], v6.octets[14], v6.octets[15]⟩
  | sixToFour (h : v6.s0 = 0x2002) :
    Carries v6 ⟨v6.octets[2], v6.octets[3], v6.octets[4], v6.octets[5]⟩
  | localUse (h : v6.LocalUse) (u : v6.octets[8] = 0) (layout : Layout) :
    Carries v6 (layout.embedded v6)

/-- The IPv4 hosts that an address leads to. -/
inductive Reaches : IpAddr → Ipv4Addr → Prop
  | same (v4 : Ipv4Addr) : Reaches (.v4 v4) v4
  | carried {v6 : Ipv6Addr} {v4 : Ipv4Addr} (h : Carries v6 v4) : Reaches (.v6 v6) v4

/-- Private, loopback, link-local or carrier-grade NAT. -/
def Internal (v4 : Ipv4Addr) : Prop :=
  v4.isPrivate = true ∨ v4.isLoopback = true ∨ v4.isLinkLocal = true ∨
    (v4.a = 100 ∧ 64 ≤ v4.b ∧ v4.b < 128)

variable {v4 : Ipv4Addr} {v6 : Ipv6Addr}

lemma isBlockedIpv4_of_internal (h : Internal v4) : isBlockedIpv4 v4 = true := by
  have hc : ∀ b : UInt8, 64 ≤ b → b < 128 → (b &&& 0xc0 == 0x40) = true := by
    intro b hlow hh
    have hall : ((List.range 64).all fun n => UInt8.ofNat (64 + n) &&& 0xc0 == 0x40) = true := by
      decide +kernel
    have hlow : 64 ≤ b.toNat := UInt8.le_iff_toNat_le.mp hlow
    have hh : b.toNat < 128 := UInt8.lt_iff_toNat_lt.mp hh
    have hb := List.all_eq_true.mp hall (b.toNat - 64) (List.mem_range.mpr (by omega))
    rwa [Nat.add_sub_cancel' hlow, UInt8.ofNat_toNat] at hb
  obtain h | h | h | ⟨ha, hlow, hh⟩ := h
  · simp [isBlockedIpv4, h]
  · simp [isBlockedIpv4, h]
  · simp [isBlockedIpv4, h]
  · simp [isBlockedIpv4, ha, hc v4.b hlow hh]

lemma not_internal_of_zero (h : v4.a = 0) : ¬ Internal v4 := by
  simp [Internal, Ipv4Addr.isPrivate, Ipv4Addr.isLoopback, Ipv4Addr.isLinkLocal, h]

/-! ## The address filter -/

lemma eq_of_octet_zero {s : UInt16} (h : (s >>> 8).toUInt8 = 0) : s >>> 8 = 0 := by
  have hnat := congrArg UInt8.toNat h
  have hlt := s.toNat_lt
  rw [UInt16.toNat_toUInt8, UInt16.toNat_shiftRight] at hnat
  apply UInt16.toNat_inj.mp
  rw [UInt16.toNat_shiftRight]
  have hs : s.toNat >>> ((8 : UInt16).toNat % 16) = s.toNat / 256 :=
    Nat.shiftRight_eq_div_pow _ 8
  rw [hs] at hnat ⊢
  simp only [UInt8.toNat_zero] at hnat
  have : (0 : UInt16).toNat = 0 := rfl
  omega

/-- A local-use address that is read as an address with a prefix of 48 bits, and so as a public
host, while another layout embeds an internal one. -/
structure Misread (v6 : Ipv6Addr) : Prop where
  localUse : v6.LocalUse
  u : v6.octets[8] = 0
  suffix : ¬ (v6.s3 = 0 ∧ v6.s4 = 0 ∧ v6.s5 = 0)
  read : isBlockedIpv4 (Layout.plen48.embedded v6) = false
  internal : ∃ layout : Layout, Internal (layout.embedded v6)

lemma isBlockedIp_localUse (h : v6.LocalUse) (hu : v6.octets[8] = 0) :
    isBlockedIp (.v6 v6) =
      if v6.s3 = 0 ∧ v6.s4 = 0 ∧ v6.s5 = 0 then isBlockedIpv4 (Layout.plen96.embedded v6)
      else isBlockedIpv4 (Layout.plen48.embedded v6) := by
  obtain ⟨h0, h1, h2⟩ := h
  have hu : v6.s4 >>> 8 = 0 := eq_of_octet_zero hu
  have hm : v6.toIpv4Mapped = none := by simp [Ipv6Addr.toIpv4Mapped, h0]
  unfold isBlockedIp
  simp only [hm]
  by_cases hz : v6.s3 = 0 ∧ v6.s4 = 0 ∧ v6.s5 = 0
  · have hr : ipv4FromNat64Prefix v6 = some (Layout.plen96.embedded v6) := by
      unfold ipv4FromNat64Prefix
      rw [if_neg (by simp [h2]), if_pos ⟨h0, h1, h2, hz⟩]
      rfl
    rw [hr, if_pos hz]
  · have hr : ipv4FromNat64Prefix v6 = some (Layout.plen48.embedded v6) := by
      unfold ipv4FromNat64Prefix
      rw [if_neg (by simp [h2]), if_neg (fun hall => hz hall.2.2.2),
        if_pos ⟨h0, h1, h2, hu⟩]
      rfl
    rw [hr, if_neg hz]

/-- With nothing between the prefix and the last 32 bits, only these can be internal. -/
lemma eq_plen96_of_internal (hz : v6.s3 = 0 ∧ v6.s4 = 0 ∧ v6.s5 = 0)
    {layout : Layout} (h : Internal (layout.embedded v6)) : layout = .plen96 := by
  obtain ⟨h3, h4, -⟩ := hz
  cases layout with
  | plen48 =>
    have hf : v6.octets[6] = (v6.s3 >>> 8).toUInt8 := rfl
    exact absurd h (not_internal_of_zero (by rw [Layout.embedded, hf, h3]; rfl))
  | plen56 =>
    have hf : v6.octets[7] = v6.s3.toUInt8 := rfl
    exact absurd h (not_internal_of_zero (by rw [Layout.embedded, hf, h3]; rfl))
  | plen64 =>
    have hf : v6.octets[9] = v6.s4.toUInt8 := rfl
    exact absurd h (not_internal_of_zero (by rw [Layout.embedded, hf, h4]; rfl))
  | plen96 => rfl

lemma localUse_blocked_iff (h : v6.LocalUse) (hu : v6.octets[8] = 0) :
    (∀ layout : Layout, Internal (layout.embedded v6) → isBlockedIp (.v6 v6) = true) ↔
      ¬ Misread v6 := by
  rw [isBlockedIp_localUse h hu]
  by_cases hz : v6.s3 = 0 ∧ v6.s4 = 0 ∧ v6.s5 = 0
  · rw [if_pos hz]
    refine iff_of_true ?_ (fun hm => hm.suffix hz)
    intro layout hin
    obtain rfl := eq_plen96_of_internal hz hin
    exact isBlockedIpv4_of_internal hin
  · rw [if_neg hz]
    constructor
    · intro hb hm
      obtain ⟨layout, hin⟩ := hm.internal
      rw [hm.read] at hb
      exact absurd (hb layout hin) (by decide)
    · intro hm layout hin
      by_contra hp
      exact hm ⟨h, hu, hz, Bool.of_not_eq_true hp, layout, hin⟩

lemma isBlockedIp_of_carries (h : Carries v6 v4)
    (hl : ¬ v6.LocalUse) (hin : Internal v4) : isBlockedIp (.v6 v6) = true := by
  have hb := isBlockedIpv4_of_internal hin
  cases h with
  | mapped h =>
    simp only [List.cons.injEq] at h
    obtain ⟨h0, h1, h2, h3, h4, h5, -⟩ := h
    have hr : v6.toIpv4Mapped = some _ := if_pos ⟨h0, h1, h2, h3, h4, h5⟩
    simp only [isBlockedIp, hr]
    exact hb
  | compatible h =>
    simp only [List.cons.injEq] at h
    obtain ⟨h0, h1, h2, h3, h4, h5, -⟩ := h
    have hs : (v6.s6, v6.s7) ≠ (0, 0) := by
      intro heq
      obtain ⟨h6, -⟩ := Prod.mk.inj heq
      have hf : v6.octets[12] = (v6.s6 >>> 8).toUInt8 := rfl
      refine not_internal_of_zero ?_ hin
      rw [hf, h6]
      rfl
    have hm : v6.toIpv4Mapped = none := by simp [Ipv6Addr.toIpv4Mapped, h5]
    have hnat64 : ipv4FromNat64Prefix v6 = none := by simp [ipv4FromNat64Prefix, h0]
    have huse : isLocalUseNat64Prefix v6 = false := by simp [isLocalUseNat64Prefix, h0]
    have hr : ipv4FromTransitionPrefix v6 = some (ipv4FromU16Pair v6.s6 v6.s7) := by
      unfold ipv4FromTransitionPrefix
      rw [if_neg (by simp [h0]), if_pos ⟨h0, h1, h2, h3, h4, h5, hs⟩]
    simp only [isBlockedIp, hm, hnat64, huse, hr]
    exact hb
  | wellKnown h =>
    simp only [List.cons.injEq] at h
    obtain ⟨h0, h1, h2, h3, h4, h5, -⟩ := h
    have hm : v6.toIpv4Mapped = none := by simp [Ipv6Addr.toIpv4Mapped, h0]
    have hr : ipv4FromNat64Prefix v6 = some (ipv4FromU16Pair v6.s6 v6.s7) :=
      if_pos ⟨h0, h1, h2, h3, h4, h5⟩
    simp only [isBlockedIp, hm, hr]
    exact hb
  | sixToFour h0 =>
    have hm : v6.toIpv4Mapped = none := by simp [Ipv6Addr.toIpv4Mapped, h0]
    have hnat64 : ipv4FromNat64Prefix v6 = none := by simp [ipv4FromNat64Prefix, h0]
    have huse : isLocalUseNat64Prefix v6 = false := by simp [isLocalUseNat64Prefix, h0]
    have hr : ipv4FromTransitionPrefix v6 = some (ipv4FromU16Pair v6.s1 v6.s2) := if_pos h0
    simp only [isBlockedIp, hm, hnat64, huse, hr]
    exact hb
  | localUse h u layout => exact absurd h hl

lemma exists_layout (hl : v6.LocalUse) (h : Carries v6 v4) :
    v6.octets[8] = 0 ∧ ∃ layout : Layout, v4 = layout.embedded v6 := by
  obtain ⟨h0, h1, h2⟩ := hl
  cases h with
  | mapped h => simp [h0] at h
  | compatible h => simp [h0] at h
  | wellKnown h => simp [h2] at h
  | sixToFour h => simp [h0] at h
  | localUse h u layout => exact ⟨u, layout, rfl⟩

lemma blocked_iff_not_misread (v6 : Ipv6Addr) :
    (∀ v4, Carries v6 v4 → Internal v4 → isBlockedIp (.v6 v6) = true) ↔ ¬ Misread v6 := by
  by_cases hl : v6.LocalUse ∧ v6.octets[8] = 0
  · rw [← localUse_blocked_iff hl.1 hl.2]
    constructor
    · intro h layout hin
      exact h _ (.localUse hl.1 hl.2 layout) hin
    · intro h v4 hc hin
      obtain ⟨-, layout, rfl⟩ := exists_layout hl.1 hc
      exact h layout hin
  · refine iff_of_true ?_ (fun hm => hl ⟨hm.localUse, hm.u⟩)
    intro v4 hc hin
    apply isBlockedIp_of_carries hc ?_ hin
    intro huse
    exact hl ⟨huse, (exists_layout huse hc).1⟩

/-! ## Hosts -/

section
variable (lookup : Lookup) (parseIpAddr : String → Option IpAddr)

def Url.destinations (url : Url) : List IpAddr :=
  match url.host with
  | none => []
  | some (.ipv4 v4) => [.v4 v4]
  | some (.ipv6 v6) => [.v6 v6]
  | some (.domain domain) =>
    match lookup domain (url.portOrKnownDefault.getD 80) with
    | .ok addrs => addrs.map SocketAddr.ip
    | .error _ => []

def nameDestinations (name : String) : List IpAddr :=
  match parseIpAddr (bareName name) with
  | some ip => [ip]
  | none => match lookup (bareName name) 0 with
    | .ok addrs => addrs.map SocketAddr.ip
    | .error _ => []

lemma resolvePublicSocketAddrs_eq_ok {lookup : Lookup} {host : String} {port : UInt16}
    {addrs : List SocketAddr} (h : resolvePublicSocketAddrs lookup host port = .ok addrs) :
    lookup host port = .ok addrs ∧ ∀ addr ∈ addrs, isBlockedIp addr.ip = false := by
  unfold resolvePublicSocketAddrs at h
  obtain ⟨found, hl, h⟩ := except_bind_eq_ok.mp h
  obtain ⟨-, h⟩ := except_ite_throw_eq_ok.mp h
  cases hf : found.find? fun addr => isBlockedIp addr.ip with
  | some addr =>
    rw [hf] at h
    exact absurd h (by simp)
  | none =>
    rw [hf] at h
    obtain rfl := Except.ok.inj h
    refine ⟨except_mapError_eq_ok.mp hl, ?_⟩
    intro addr hmem
    simpa using List.find?_eq_none.mp hf addr hmem

lemma not_blocked_of_validate {lookup : Lookup} {url : Url}
    (h : validateCoordinatorUrl lookup url = .ok ()) {ip : IpAddr}
    (hip : ip ∈ url.destinations lookup) : isBlockedIp ip = false := by
  unfold validateCoordinatorUrl at h
  obtain ⟨-, h⟩ := except_ite_throw_eq_ok.mp h
  unfold Url.destinations at hip
  cases hh : url.host with
  | none =>
    rw [hh] at hip
    exact absurd hip List.not_mem_nil
  | some host =>
    rw [hh] at h hip
    cases host with
    | ipv4 v4 =>
      obtain ⟨hp, -⟩ := except_ite_throw_eq_ok.mp h
      rw [List.mem_singleton.mp hip]
      exact Bool.of_not_eq_true hp
    | ipv6 v6 =>
      obtain ⟨hp, -⟩ := except_ite_throw_eq_ok.mp h
      rw [List.mem_singleton.mp hip]
      exact Bool.of_not_eq_true hp
    | domain domain =>
      obtain ⟨-, h⟩ := except_ite_throw_eq_ok.mp h
      obtain ⟨addrs, hr, -⟩ := except_bind_eq_ok.mp h
      obtain ⟨hl, hp⟩ := resolvePublicSocketAddrs_eq_ok hr
      simp only [hl] at hip
      obtain ⟨addr, hmem, rfl⟩ := List.mem_map.mp hip
      exact hp addr hmem

lemma not_blocked_of_publicOnlyResolve {lookup : Lookup} {parseIpAddr : String → Option IpAddr}
    {name : String} {addrs : List SocketAddr}
    (h : publicOnlyResolve lookup parseIpAddr name = .ok addrs) {addr : SocketAddr}
    (ha : addr ∈ addrs) :
    addr.ip ∈ nameDestinations lookup parseIpAddr name ∧ isBlockedIp addr.ip = false := by
  unfold publicOnlyResolve at h
  unfold nameDestinations
  dsimp only at h
  cases hpr : parseIpAddr (bareName name) with
  | some ip =>
    rw [hpr] at h
    obtain ⟨hp, h⟩ := except_ite_throw_eq_ok.mp h
    obtain rfl := Except.ok.inj h
    rw [List.mem_singleton.mp ha]
    exact ⟨List.mem_singleton_self _, Bool.of_not_eq_true hp⟩
  | none =>
    rw [hpr] at h
    obtain ⟨found, hl, h⟩ := except_bind_eq_ok.mp h
    obtain ⟨-, h⟩ := except_ite_throw_eq_ok.mp h
    obtain ⟨hp, h⟩ := except_ite_throw_eq_ok.mp h
    obtain rfl := Except.ok.inj h
    simp only [except_mapError_eq_ok.mp hl]
    refine ⟨List.mem_map_of_mem ha, ?_⟩
    have hn := List.any_eq_false.mp (Bool.of_not_eq_true hp) addr ha
    exact Bool.of_not_eq_true hn

/-- Every address that leads to an internal IPv4 host is blocked, and no URL and no name that
passes its filter leads to one, exactly where no address behind them is misread. -/
theorem filter_blocks_internal_iff (url : Url) (name : String) :
    ((∀ ip ∈ url.destinations lookup ++ nameDestinations lookup parseIpAddr name,
        ∀ v4, Reaches ip v4 → Internal v4 → isBlockedIp ip = true) ∧
      (validateCoordinatorUrl lookup url = .ok () →
        ∀ ip ∈ url.destinations lookup, ∀ v4, Reaches ip v4 → ¬ Internal v4) ∧
      (∀ addrs, publicOnlyResolve lookup parseIpAddr name = .ok addrs →
        ∀ addr ∈ addrs, ∀ v4, Reaches addr.ip v4 → ¬ Internal v4)) ↔
      ∀ ip ∈ url.destinations lookup ++ nameDestinations lookup parseIpAddr name,
        ∀ v6, ip = .v6 v6 → ¬ Misread v6 := by
  constructor
  · intro h ip hip v6 hv6
    subst hv6
    apply (blocked_iff_not_misread v6).mp
    intro v4 hc hin
    exact h.1 _ hip v4 (.carried hc) hin
  · intro h
    have hb : ∀ ip ∈ url.destinations lookup ++ nameDestinations lookup parseIpAddr name,
        ∀ v4, Reaches ip v4 → Internal v4 → isBlockedIp ip = true := by
      intro ip hip v4 hr hin
      cases hr with
      | same => exact isBlockedIpv4_of_internal hin
      | carried hc =>
        exact (blocked_iff_not_misread _).mpr (h _ hip _ rfl) v4 hc hin
    refine ⟨hb, ?_, ?_⟩
    · intro hv ip hip v4 hr hin
      have ht := hb ip (List.mem_append_left _ hip) v4 hr hin
      rw [not_blocked_of_validate hv hip] at ht
      exact absurd ht (by decide)
    · intro addrs hrs addr ha v4 hr hin
      obtain ⟨hmem, hp⟩ := not_blocked_of_publicOnlyResolve hrs ha
      have ht := hb addr.ip (List.mem_append_right _ hmem) v4 hr hin
      rw [hp] at ht
      exact absurd ht (by decide)

/-- `64:ff9b:1:808:8:800:a00:1` embeds 10.0.0.1 behind a prefix of 96 bits, and passes. -/
theorem local_use_address_passes :
    isBlockedIp (.v6 ⟨0x64, 0xff9b, 1, 0x808, 8, 0x800, 0xa00, 1⟩) = false ∧
      Carries ⟨0x64, 0xff9b, 1, 0x808, 8, 0x800, 0xa00, 1⟩ ⟨10, 0, 0, 1⟩ ∧
      Internal ⟨10, 0, 0, 1⟩ :=
  ⟨by decide, .localUse ⟨rfl, rfl, rfl⟩ rfl .plen96, .inl rfl⟩

end

end KrustyKms.Client
