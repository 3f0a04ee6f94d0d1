import ClientServerTcp.Addrinfo.Observation

/-! The two layouts a socket address can have. The sources read the port of
both through `sockaddr_in6`. -/
namespace ClientServerTcp

/-- `sockaddr_in` and `sockaddr_in6`, with the port as a number. -/
inductive Sockaddr where
  | inet (port : UInt16) (sinAddr : Vector UInt8 4) (sinZero : Vector UInt8 8)
  | inet6 (port : UInt16) (flowinfo : Vector UInt8 4) (sin6Addr : Vector UInt8 16)
    (scopeId : Vector UInt8 4)

namespace Sockaddr

def family : Sockaddr → Int
  | inet .. => afInet
  | inet6 .. => afInet6

def port : Sockaddr → UInt16
  | inet port .. | inet6 port .. => port

def networkOrder (port : UInt16) : Bytes := [(port >>> 8).toUInt8, port.toUInt8]

/-- The storage of an address. The family is stored in the order of the host. -/
def bytes : Sockaddr → Bytes
  | inet port sinAddr sinZero => [2, 0] ++ networkOrder port ++ sinAddr.toList ++ sinZero.toList
  | inet6 port flowinfo sin6Addr scopeId =>
    [10, 0] ++ networkOrder port ++ flowinfo.toList ++ sin6Addr.toList ++ scopeId.toList

theorem length_bytes (a : Sockaddr) : a.bytes.length = if a.family = afInet then 16 else 28 := by
  cases a with
  | inet port sinAddr sinZero => simp [bytes, family, networkOrder]
  | inet6 port flowinfo sin6Addr scopeId =>
    simp [bytes, family, networkOrder, afInet, afInet6]

theorem portBytes_bytes (a : Sockaddr) :
    portBytes a.bytes = ((a.port >>> 8).toUInt8, a.port.toUInt8) := by
  cases a <;> rfl

theorem ntohs_sin6Port (a : Sockaddr) : ntohs (sin6Port a.bytes) = a.port := by
  have hhigh : a.bytes.getD 2 0 = (a.port >>> 8).toUInt8 := congrArg Prod.fst a.portBytes_bytes
  have hlow : a.bytes.getD 3 0 = a.port.toUInt8 := congrArg Prod.snd a.portBytes_bytes
  have hshift : (a.port >>> 8).toNat = a.port.toNat / 256 := by
    rw [UInt16.toNat_shiftRight]
    change a.port.toNat >>> 8 = _
    rw [Nat.shiftRight_eq_div_pow]
  have hlt := a.port.toNat_lt
  apply UInt16.toNat.inj
  rw [toNat_ntohs_sin6Port, hhigh, hlow, UInt16.toNat_toUInt8, UInt16.toNat_toUInt8, hshift]
  omega

end Sockaddr

/-- The entry holds an address in one of the two layouts, as it says it does. -/
structure Addrinfo.Carries (e : Addrinfo) (a : Sockaddr) : Prop where
  family : e.aiFamily = a.family
  length : e.aiAddrlen = a.bytes.length
  addr : e.aiAddr = a.bytes

theorem Addrinfo.Carries.assigned {e : Addrinfo} {a : Sockaddr} (h : e.Carries a)
    (hport : a.port ≠ 0) (os : OS) (k : Kernel) (sfd : SOCKET) :
    k.assigned os sfd (e.aiAddr.take e.aiAddrlen) = a.bytes := by
  rw [h.addr, h.length, List.take_length]
  unfold Kernel.assigned
  split
  · rename_i hzero
    have hread : (ntohs (sin6Port a.bytes)).toNat = 0 := by
      rw [toNat_ntohs_sin6Port, hzero.1, hzero.2]
      rfl
    rw [a.ntohs_sin6Port] at hread
    exact absurd (UInt16.toNat.inj hread) hport
  · rfl

end ClientServerTcp
