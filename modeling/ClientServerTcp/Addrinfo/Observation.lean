import ClientServerTcp.Addrinfo.Spec

/-! What a caller can read from a `CAddrinfo`: the texts and numbers it shows
depend on the head of its list, through a few bytes of the address. -/
namespace ClientServerTcp
open Effects Program CAddrinfo

/-! ## The port -/

private theorem or_shifted (low high : UInt16) (hlow : low.toNat < 256) (hhigh : high.toNat < 256) :
    (low ||| high <<< 8).toNat = low.toNat + 256 * high.toNat := by
  have hshift : (high <<< 8).toNat = 2 ^ 8 * high.toNat := by
    rw [UInt16.toNat_shiftLeft]
    change high.toNat <<< 8 % 2 ^ 16 = _
    rw [Nat.shiftLeft_eq]
    omega
  rw [UInt16.toNat_or, hshift, Nat.or_comm, ← Nat.two_pow_add_eq_or_of_lt hlow]
  omega

theorem toNat_ntohs_sin6Port (addr : Bytes) :
    (ntohs (sin6Port addr)).toNat = 256 * (addr.getD 2 0).toNat + (addr.getD 3 0).toNat := by
  have hfirst := (addr.getD 2 0).toNat_lt
  have hsecond := (addr.getD 3 0).toNat_lt
  have hstored : (sin6Port addr).toNat = (addr.getD 2 0).toNat + 256 * (addr.getD 3 0).toNat := by
    rw [sin6Port, or_shifted, UInt8.toNat_toUInt16, UInt8.toNat_toUInt16]
    · rwa [UInt8.toNat_toUInt16]
    · rwa [UInt8.toNat_toUInt16]
  have hhigh : (sin6Port addr >>> 8).toNat = (addr.getD 3 0).toNat := by
    rw [UInt16.toNat_shiftRight]
    change (sin6Port addr).toNat >>> 8 = _
    rw [Nat.shiftRight_eq_div_pow, hstored]
    omega
  have hlow : sin6Port addr <<< 8 = (addr.getD 2 0).toUInt16 <<< 8 := by
    apply UInt16.toNat.inj
    rw [UInt16.toNat_shiftLeft, UInt16.toNat_shiftLeft]
    change (sin6Port addr).toNat <<< 8 % 2 ^ 16 = (addr.getD 2 0).toUInt16.toNat <<< 8 % 2 ^ 16
    rw [Nat.shiftLeft_eq, Nat.shiftLeft_eq, hstored, UInt8.toNat_toUInt16]
    omega
  rw [ntohs, hlow, or_shifted, hhigh, UInt8.toNat_toUInt16]
  · omega
  · omega
  · rwa [UInt8.toNat_toUInt16]

example : ntohs (sin6Port (loopback4 0x11 0x51).aiAddr) = 4433 := by decide

/-- The two bytes of an address that hold its port. -/
def portBytes (addr : Bytes) : UInt8 × UInt8 := (addr.getD 2 0, addr.getD 3 0)

theorem port_eq_iff (addr addr' : Bytes) :
    ntohs (sin6Port addr) = ntohs (sin6Port addr') ↔ portBytes addr = portBytes addr' := by
  have hlow := (addr.getD 3 0).toNat_lt
  have hlow' := (addr'.getD 3 0).toNat_lt
  rw [← UInt16.toNat_inj, toNat_ntohs_sin6Port, toNat_ntohs_sin6Port, portBytes, portBytes,
    Prod.mk.injEq, ← UInt8.toNat_inj, ← UInt8.toNat_inj]
  omega

/-! ## The host -/

/-- The bytes of an address that name a host. Only two families have some. -/
def Addrinfo.host (e : Addrinfo) : Option Bytes :=
  if e.aiFamily = afInet6 then some (sin6Addr e.aiAddr)
  else if e.aiFamily = afInet then some (sinAddr e.aiAddr)
  else none

/-- What is documented of `inet_ntop`: it has a text for every address of the
two families, different texts for different addresses, and no other family. -/
structure Presentation (inetNtop : Int → Bytes → Option String) : Prop where
  inet6 : ∀ bytes : Bytes, bytes.length = 16 → (inetNtop afInet6 bytes).isSome
  inet : ∀ bytes : Bytes, bytes.length = 4 → (inetNtop afInet bytes).isSome
  inet6_inj : ∀ bytes bytes' : Bytes, bytes.length = 16 → bytes'.length = 16 →
    inetNtop afInet6 bytes = inetNtop afInet6 bytes' → bytes = bytes'
  inet_inj : ∀ bytes bytes' : Bytes, bytes.length = 4 → bytes'.length = 4 →
    inetNtop afInet bytes = inetNtop afInet bytes' → bytes = bytes'
  other : ∀ family bytes, family ≠ afInet6 → family ≠ afInet → inetNtop family bytes = none

/-- An address of 2001:db8::/32, which is meant for examples. -/
def exampleHost (last : UInt8) : Bytes :=
  [0x20, 0x01, 0x0d, 0xb8] ++ List.replicate 11 0 ++ [last]

def exampleTexts : List (Bytes × String) :=
  [(sin6Addr (loopback6 0 0).aiAddr, "::1"), (exampleHost 1, "2001:db8::1"),
    (exampleHost 2, "2001:db8::2")]

/-- An `inet_ntop` that writes these addresses as it should, and the bytes of any
other address as they are. -/
def plainNtop (family : Int) (bytes : Bytes) : Option String :=
  if family = afInet6 then
    match exampleTexts.find? fun x => x.1 = bytes with
    | some (_, text) => some text
    | none => some (.ofList (bytes.map Char.ofUInt8))
  else if family = afInet then some (.ofList (bytes.map Char.ofUInt8))
  else none

private theorem ofList_ofUInt8_inj {bytes bytes' : Bytes}
    (h : String.ofList (bytes.map Char.ofUInt8) = .ofList (bytes'.map Char.ofUInt8)) :
    bytes = bytes' := by
  have hinjective : ∀ b c, Char.ofUInt8 b = Char.ofUInt8 c → b = c := by
    intro b c hbc
    have hval : b.toUInt32.toNat = c.toUInt32.toNat := congrArg (fun d => d.val.toNat) hbc
    rw [UInt8.toNat_toUInt32, UInt8.toNat_toUInt32] at hval
    exact UInt8.toNat.inj hval
  exact (List.map_inj_right hinjective).mp (String.ofList_injective h)

private theorem plainNtop_inet6_cases (bytes : Bytes) :
    (∃ x ∈ exampleTexts, x.1 = bytes ∧ plainNtop afInet6 bytes = some x.2) ∨
      plainNtop afInet6 bytes = some (.ofList (bytes.map Char.ofUInt8)) := by
  unfold plainNtop
  rw [if_pos rfl]
  split
  · rename_i address text hfound
    exact .inl ⟨(address, text), List.mem_of_find?_eq_some hfound,
      by simpa using List.find?_some hfound, rfl⟩
  · exact .inr rfl

theorem presentation_plainNtop : Presentation plainNtop where
  inet6 := by
    intro bytes _
    rcases plainNtop_inet6_cases bytes with ⟨x, _, _, htext⟩ | htext <;> simp [htext]
  inet := by
    intro bytes _
    simp [plainNtop, afInet, afInet6]
  inet6_inj := by
    intro bytes bytes' hlength hlength' h
    have hdistinct : ∀ x ∈ exampleTexts, ∀ y ∈ exampleTexts, x.2 = y.2 → x.1 = y.1 := by
      decide
    -- A text of sixteen bytes is as long as none of the others.
    have hshort : ∀ x ∈ exampleTexts, ∀ b : Bytes, b.length = 16 →
        x.2 ≠ .ofList (b.map Char.ofUInt8) := by
      intro x hx b hb heq
      have hcount := congrArg String.length heq
      rw [String.length_ofList, List.length_map, hb] at hcount
      exact (by decide : ∀ x ∈ exampleTexts, x.2.length ≠ 16) x hx hcount
    rcases plainNtop_inet6_cases bytes with ⟨x, hx, rfl, htext⟩ | htext <;>
      rcases plainNtop_inet6_cases bytes' with ⟨y, hy, rfl, htext'⟩ | htext' <;>
      rw [htext, htext', Option.some_inj] at h
    · exact hdistinct x hx y hy h
    · exact absurd h (hshort x hx _ hlength')
    · exact absurd h.symm (hshort y hy _ hlength)
    · exact ofList_ofUInt8_inj h
  inet_inj := by
    intro bytes bytes' _ _ h
    apply ofList_ofUInt8_inj
    simpa [plainNtop, afInet, afInet6] using h
  other := by
    intro family bytes hinet6 hinet
    simp [plainNtop, hinet6, hinet]

section
variable (inetNtop : Int → Bytes → Option String)

def hostText (e : Addrinfo) : String :=
  (if e.aiFamily = afInet6 then inetNtop e.aiFamily (sin6Addr e.aiAddr)
    else inetNtop e.aiFamily (sinAddr e.aiAddr)).getD ""

variable {inetNtop}

theorem getD_inj {text text' : Option String} (h : text.isSome) (h' : text'.isSome) :
    text.getD "" = text'.getD "" ↔ text = text' := by
  obtain ⟨s, rfl⟩ := Option.isSome_iff_exists.mp h
  obtain ⟨s', rfl⟩ := Option.isSome_iff_exists.mp h'
  simp

theorem hostText_eq_iff (hntop : Presentation inetNtop) {e e' : Addrinfo}
    (hfamily : e.aiFamily = e'.aiFamily) :
    hostText inetNtop e = hostText inetNtop e' ↔ e.host = e'.host := by
  have hlength6 : ∀ addr, (sin6Addr addr).length = 16 := by simp [sin6Addr]
  have hlength : ∀ addr, (sinAddr addr).length = 4 := by simp [sinAddr]
  unfold hostText Addrinfo.host
  rw [← hfamily]
  by_cases hinet6 : e.aiFamily = afInet6
  · rw [if_pos hinet6, if_pos hinet6, if_pos hinet6, if_pos hinet6, hinet6,
      getD_inj (hntop.inet6 _ (hlength6 _)) (hntop.inet6 _ (hlength6 _)), Option.some_inj]
    exact ⟨hntop.inet6_inj _ _ (hlength6 _) (hlength6 _), fun h => by rw [h]⟩
  · rw [if_neg hinet6, if_neg hinet6, if_neg hinet6, if_neg hinet6]
    by_cases hinet : e.aiFamily = afInet
    · rw [if_pos hinet, if_pos hinet, hinet,
        getD_inj (hntop.inet _ (hlength _)) (hntop.inet _ (hlength _)), Option.some_inj]
      exact ⟨hntop.inet_inj _ _ (hlength _) (hlength _), fun h => by rw [h]⟩
    · rw [if_neg hinet, if_neg hinet, hntop.other _ _ hinet6 hinet, hntop.other _ _ hinet6 hinet]
      simp

end

/-! ## Observations of an object -/

/-- What the getters of an object return, and the members that `operator->`
gives access to. -/
structure Shown where
  addrStr : String
  port : UInt16
  aiFamily : Int
  aiSocktype : Int
  aiProtocol : Int
  aiFlags : Int
  deriving DecidableEq, Repr

def CAddrinfo.observe (inetNtop : Int → Bytes → Option String) (this : InfoId) : Prog Shown := do
  let addrStr ← addrStr inetNtop this
  let port ← port this
  let mRes ← arrow this
  return ⟨addrStr, port, mRes.aiFamily, mRes.aiSocktype, mRes.aiProtocol, mRes.aiFlags⟩

def Addrinfo.shown (inetNtop : Int → Bytes → Option String) (e : Addrinfo) : Shown :=
  ⟨hostText inetNtop e, ntohs (sin6Port e.aiAddr), e.aiFamily, e.aiSocktype, e.aiProtocol,
    e.aiFlags⟩

section
variable (os : OS) (inetNtop : Int → Bytes → Option String) {w : World} {this : InfoId}
  {e : Addrinfo}

theorem run_addrStr (h : (arrow this).run (step os) w = (.ok e, w)) :
    (addrStr inetNtop this).run (step os) w = (.ok (hostText inetNtop e), w) := by
  apply run_of_wp
  rw [addrStr, wp_bind', wp_of_run _ h]
  unfold hostText
  split <;> simp

theorem run_port (h : (arrow this).run (step os) w = (.ok e, w)) :
    (port this).run (step os) w = (.ok (ntohs (sin6Port e.aiAddr)), w) := by
  apply run_of_wp
  rw [port, wp_bind', wp_of_run _ h]
  exact ⟨rfl, rfl⟩

theorem run_observe (h : (arrow this).run (step os) w = (.ok e, w)) :
    (observe inetNtop this).run (step os) w = (.ok (e.shown inetNtop), w) := by
  apply run_of_wp
  rw [observe, wp_bind', wp_of_run _ (run_addrStr os inetNtop h), wp_bind',
    wp_of_run _ (run_port os h), wp_bind', wp_of_run _ h]
  exact ⟨rfl, rfl⟩

end

/-- Two entries name the same host and port for the same kind of socket. -/
def Addrinfo.sameAddress (e e' : Addrinfo) : Prop :=
  e.aiFamily = e'.aiFamily ∧ e.aiSocktype = e'.aiSocktype ∧ e.host = e'.host ∧
    portBytes e.aiAddr = portBytes e'.aiAddr

instance (e e' : Addrinfo) : Decidable (e.sameAddress e') :=
  inferInstanceAs (Decidable (_ ∧ _))

theorem shown_eq_iff {inetNtop : Int → Bytes → Option String} (hntop : Presentation inetNtop)
    (e e' : Addrinfo) : e.shown inetNtop = e'.shown inetNtop ↔
      e.sameAddress e' ∧ e.aiProtocol = e'.aiProtocol ∧ e.aiFlags = e'.aiFlags := by
  unfold Addrinfo.shown Addrinfo.sameAddress
  rw [Shown.mk.injEq, port_eq_iff]
  constructor
  · intro ⟨htext, hport, hfamily, hsocktype, hrest⟩
    exact ⟨⟨hfamily, hsocktype, (hostText_eq_iff hntop hfamily).mp htext, hport⟩, hrest⟩
  · intro ⟨⟨hfamily, hsocktype, hhost, hport⟩, hrest⟩
    exact ⟨(hostText_eq_iff hntop hfamily).mpr hhost, hport, hfamily, hsocktype, hrest⟩

end ClientServerTcp
