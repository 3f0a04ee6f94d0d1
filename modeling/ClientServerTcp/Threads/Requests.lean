import ClientServerTcp.Threads.Own

/-! The member functions of `CSocket` that threads call on shared objects, and
what each of them does to the sockets when it is called alone. -/
namespace ClientServerTcp
open Effects Program

/-- What a call gives back. -/
inductive Reply where
  | none
  | flag (value : Bool)
  | port (value : UInt16)
  | number (value : Int)
  deriving DecidableEq, Repr

/-- A call on a shared object, or a program on objects of the thread's own. -/
inductive Request (S : Sharing) where
  | bind (o : S.Object) (ai : Addrinfo)
  | listen (o : S.Object)
  | isBind (o : S.Object)
  | isListen (o : S.Object)
  | getPort (o : S.Object)
  | getSockerr (o : S.Object)
  | isReuseAddr (o : S.Object)
  | isV6only (o : S.Object)
  | own (p : Prog Reply) (h : Own S ∅ (fun _ => True) p)

section
variable {S : Sharing}

def Request.code : Request S → Prog Reply
  | .bind o ai => do
    CSocket.bind o.1 ai
    return .none
  | .listen o => do
    CSocket.listen o.1
    return .none
  | .isBind o => do return .flag (← CSocket.isBind o.1)
  | .isListen o => do return .flag (← CSocket.isListen o.1)
  | .getPort o => do return .port (← CSocket.getPort o.1)
  | .getSockerr o => do return .number (← CSocket.getSockerr o.1)
  | .isReuseAddr o => do return .flag (← CSocket.isReuseAddr o.1)
  | .isV6only o => do return .flag (← CSocket.isV6only o.1)
  | .own p _ => p

/-- What the system knows of every shared object. -/
abbrev Endpoints (S : Sharing) := S.Object → Option Endpoint

/-- What a request does to the sockets, in one step and without the flags that
the objects cache. A request that fails leaves the sockets as they are. -/
inductive Takes : Request S → Except Exn Reply → Endpoints S → Endpoints S → Prop
  | bind {o : S.Object} {ai : Addrinfo} {a : Endpoints S} {e : Endpoint} (he : a o = some e)
    (htype : ai.aiSocktype = e.desc.sockType) (addr : Bytes)
    (haddr : (ai.aiAddr.take ai.aiAddrlen).getD 2 0 = 0 ∧
      (ai.aiAddr.take ai.aiAddrlen).getD 3 0 = 0 ∨ addr = ai.aiAddr.take ai.aiAddrlen) :
    Takes (.bind o ai) (.ok .none) a (Function.update a o (some (e.boundTo addr)))
  | notBound {o : S.Object} {ai : Addrinfo} {a : Endpoints S} (errmsg : Errmsg) (errno : Int)
    (h : errmsg = .msg1007 ∨ errmsg = .msg1009) :
    Takes (.bind o ai) (.error (.thrown (.withErrno errmsg errno))) a a
  | mismatch {o : S.Object} {ai : Addrinfo} {a : Endpoints S} {e : Endpoint} (he : a o = some e)
    (htype : ai.aiSocktype ≠ e.desc.sockType) :
    Takes (.bind o ai) (.error (.thrown (.msg1008 ai.aiSocktype e.desc.sockType))) a a
  | listen {o : S.Object} {a : Endpoints S} {e : Endpoint} (he : a o = some e)
    (ephemeral : Bytes) :
    Takes (.listen o) (.ok .none) a (Function.update a o (some (e.listeningAt ephemeral)))
  | notListening {o : S.Object} {a : Endpoints S} (errno : Int) :
    Takes (.listen o) (.error (.thrown (.withErrno .msg1010 errno))) a a
  | isBind {o : S.Object} {a : Endpoints S} {e : Endpoint} (he : a o = some e) :
    Takes (.isBind o) (.ok (.flag e.bound)) a a
  | isListen {o : S.Object} {a : Endpoints S} {e : Endpoint} (he : a o = some e) :
    Takes (.isListen o) (.ok (.flag e.listening)) a a
  | getPort {o : S.Object} {a : Endpoints S} {e : Endpoint} (he : a o = some e)
    (hbound : e.bound = true) :
    Takes (.getPort o) (.ok (.port (ntohs (sin6Port (e.desc.localAddr.getD []))))) a a
  | unbound {o : S.Object} {a : Endpoints S} {e : Endpoint} (he : a o = some e)
    (hbound : e.bound = false) : Takes (.getPort o) (.error (.thrown .msg1012)) a a
  | noPort {o : S.Object} {a : Endpoints S} {e : Endpoint} (he : a o = some e)
    (hbound : e.bound = true) (errno : Int) :
    Takes (.getPort o) (.error (.thrown (.withErrno .msg1013 errno))) a a
  | getSockerr {o : S.Object} {a : Endpoints S} (value : Int) :
    Takes (.getSockerr o) (.ok (.number value)) a a
  | noSockerr {o : S.Object} {a : Endpoints S} (errno : Int) :
    Takes (.getSockerr o) (.error (.thrown (.withErrno (.msg1017 "SO_ERROR") errno))) a a
  | isReuseAddr {o : S.Object} {a : Endpoints S} {e : Endpoint} (he : a o = some e) :
    Takes (.isReuseAddr o) (.ok (.flag (e.desc.option solSocket soReuseaddr ≠ 0))) a a
  | noReuseAddr {o : S.Object} {a : Endpoints S} (errno : Int) :
    Takes (.isReuseAddr o) (.error (.thrown (.withErrno (.msg1017 "SO_REUSEADDR") errno))) a a
  | isV6only {o : S.Object} {a : Endpoints S} {e : Endpoint} (he : a o = some e)
    (hdomain : e.desc.domain = afInet6) :
    Takes (.isV6only o) (.ok (.flag (e.desc.option ipprotoIpv6 ipv6V6only ≠ 0))) a a
  | otherFamily {o : S.Object} {a : Endpoints S} {e : Endpoint} (he : a o = some e)
    (hdomain : e.desc.domain ≠ afInet6) : Takes (.isV6only o) (.ok (.flag false)) a a
  | noV6only {o : S.Object} {a : Endpoints S} {e : Endpoint} (he : a o = some e)
    (hdomain : e.desc.domain = afInet6) (errno : Int) :
    Takes (.isV6only o) (.error (.thrown (.withErrno (.msg1017 "IPV6_V6ONLY") errno))) a a
  | own {p : Prog Reply} {h : Own S ∅ (fun _ => True) p} {a : Endpoints S}
    (result : Except Exn Reply) : Takes (.own p h) result a a

end
end ClientServerTcp
