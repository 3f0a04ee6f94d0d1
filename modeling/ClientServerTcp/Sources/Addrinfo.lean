import ClientServerTcp.System.Machine

/-! addrinfo.cpp: class `CAddrinfo` owns a result list of `getaddrinfo` and
caches the query it was made with. -/
namespace ClientServerTcp
open Effects

/-- The characters a reader of `s.c_str()` sees. -/
def cStr (s : String) : String := .ofList (s.toList.takeWhile (· ≠ '\x00'))

/-- `sin6_port` of an address, and `sin_port` too: both lie at offset two. The
host is little endian. -/
def sin6Port (addr : Bytes) : UInt16 :=
  (addr.getD 2 0).toUInt16 ||| ((addr.getD 3 0).toUInt16 <<< 8)

def ntohs (value : UInt16) : UInt16 := (value >>> 8) ||| (value <<< 8)

def sinAddr (addr : Bytes) : Bytes := (List.range 4).map fun i => addr.getD (4 + i) 0

def sin6Addr (addr : Bytes) : Bytes := (List.range 16).map fun i => addr.getD (8 + i) 0

namespace CAddrinfo

/-- The arguments of the call in `get_new_addrinfo`. -/
def query (a : CAddrinfo) : Query where
  node := if a.mNode = "" then none else some (cStr a.mNode)
  service := if a.mService = "" then none else some (cStr a.mService)
  hints := a.mHints

def getNewAddrinfo (this : InfoId) : Prog Ptr := do
  let mNode ← Sys.loadInfo this .mNode
  let mService ← Sys.loadInfo this .mService
  let mHints ← Sys.loadInfo this .mHints
  let (ret, newRes) ← Sys.getaddrinfo (query { mNode, mService, mHints })
  if ret ≠ 0 then
    throwRuntimeError (.msg1025 ret)
  else
    Sys.writeProtocol newRes (← Sys.loadInfo this .mHints).aiProtocol
    Sys.writeFlags newRes (← Sys.loadInfo this .mHints).aiFlags
    return newRes

/-- The last statement of both constructors. When it throws, the storage is
given back and no destructor runs. -/
def fill (this : InfoId) : Prog InfoId := do
  Program.onError (do Sys.storeInfo this .mRes (← getNewAddrinfo this)) (Sys.deleteInfo this)
  return this

def construct (aNode aService : String) (aFamily aSocktype aFlags aProtocol : Int) :
    Prog InfoId := do
  let this ← Sys.newInfo { mNode := aNode, mService := aService, mHints := {
    aiFlags := aFlags, aiFamily := aFamily, aiSocktype := aSocktype, aiProtocol := aProtocol } }
  fill this

def copy (that : InfoId) : Prog InfoId := do
  let this ← Sys.newInfo {}
  Sys.storeInfo this .mNode (← Sys.loadInfo that .mNode)
  Sys.storeInfo this .mService (← Sys.loadInfo that .mService)
  Sys.storeInfo this .mHints (← Sys.loadInfo that .mHints)
  fill this

/-- `std::swap` of one member. -/
def swapM (this that : InfoId) (f : InfoField) : Prog Unit := do
  let mine ← Sys.loadInfo this f
  let theirs ← Sys.loadInfo that f
  Sys.storeInfo this f theirs
  Sys.storeInfo that f mine

/-- The body of `operator=`. -/
def assign (this that : InfoId) : Prog Unit := do
  swapM this that .mRes
  swapM this that .mNode
  swapM this that .mService
  swapM this that .mHints

def destruct (this : InfoId) : Prog Unit := do
  Sys.freeaddrinfo (← Sys.loadInfo this .mRes)
  Sys.storeInfo this .mRes 0
  Sys.deleteInfo this

/-- `this = source`: the parameter by value is a copy, and dies with the old list. -/
def copyAssign (this source : InfoId) : Prog Unit :=
  .bracket (copy source) destruct fun that => assign this that

/-- `operator->`, followed along `ai_next`. -/
def entries (this : InfoId) : Prog (List Addrinfo) := do
  match ← Sys.readRes (← Sys.loadInfo this .mRes) with
  | some list => return list
  | none => .raise .undefined

/-- A member of `*operator->()`. -/
def arrow (this : InfoId) : Prog Addrinfo := do
  match ← entries this with
  | entry :: _ => return entry
  | [] => .raise .undefined

section
variable (inetNtop : Int → Bytes → Option String)

/-- The buffer stays empty when `inet_ntop` rejects the family. -/
def addrStr (this : InfoId) : Prog String := do
  let mRes ← arrow this
  if mRes.aiFamily = afInet6 then
    return (inetNtop mRes.aiFamily (sin6Addr mRes.aiAddr)).getD ""
  else
    return (inetNtop mRes.aiFamily (sinAddr mRes.aiAddr)).getD ""

end

def port (this : InfoId) : Prog UInt16 := do
  let mRes ← arrow this
  return ntohs (sin6Port mRes.aiAddr)

end CAddrinfo
end ClientServerTcp
