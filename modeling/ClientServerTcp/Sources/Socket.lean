import ClientServerTcp.Sources.Addrinfo

/-! socket.cpp: class `CSocket` owns a socket descriptor and caches whether it
was bound and set to listen. -/
namespace ClientServerTcp.CSocket
open Effects

def constructBody (this : ObjId) (aDomain aType aProtocol : Int) : Prog Unit := do
  -- Check if we want an empty socket object.
  if aDomain = 0 ∧ aType = 0 ∧ aProtocol = 0 then
    return
  else
    let sfd ← Sys.socket aDomain aType aProtocol
    if sfd = invalidSocket then
      throw_error .msg1002
    else
      if (← Sys.setsockopt sfd solSocket soReuseaddr 0) ≠ 0 then
        let _ ← closeSocketP sfd
        throw_error .msg1003
      else
        if aDomain = afInet6 then
          if (← Sys.setsockopt sfd ipprotoIpv6 ipv6V6only 0) ≠ 0 then
            let _ ← closeSocketP sfd
            throw_error .msg1005
          else
            Sys.store this .mSfd sfd
            Sys.store this .mAf aDomain
        else
          Sys.store this .mSfd sfd
          Sys.store this .mAf aDomain

/-- A new object. When the body throws, its storage is given back and no
destructor runs. -/
def construct (aDomain aType aProtocol : Int) : Prog ObjId := do
  let this ← Sys.new
  (constructBody this aDomain aType aProtocol).onError (Sys.delete this)
  return this

/-- `std::scoped_lock lock(m_bound_mutex, m_listen_mutex)`. -/
def lockBoth (this : ObjId) (body : Prog Unit) : Prog Unit :=
  scopedLock this .mBoundMutex (scopedLock this .mListenMutex body)

/-- Take a member over and reset it. -/
def takeM (this that : ObjId) (f : Field) (reset : f.Ty) : Prog Unit := do
  let value ← Sys.load that f
  Sys.store this f value
  Sys.store that f reset

def moveConstruct (that : ObjId) : Prog ObjId := do
  let this ← Sys.new
  takeM this that .mAf (-1)
  takeM this that .mSfd invalidSocket
  lockBoth this do
    takeM this that .mBound false
    takeM this that .mListen false
  return this

/-- `std::swap` of one member. -/
def swapM (this that : ObjId) (f : Field) : Prog Unit := do
  let mine ← Sys.load this f
  let theirs ← Sys.load that f
  Sys.store this f theirs
  Sys.store that f mine

/-- The body of `operator=`. -/
def assign (this that : ObjId) : Prog Unit := do
  swapM this that .mSfd
  swapM this that .mAf
  lockBoth this do
    swapM this that .mBound
    swapM this that .mListen

def destruct (this : ObjId) : Prog Unit := do
  let mSfd ← Sys.load this .mSfd
  let reset ← closeSocketP mSfd
  Sys.store this .mSfd reset
  Sys.delete this

/-- `this = std::move(source)`: the parameter by value is move constructed and
dies at the end of the call. -/
def moveAssign (this source : ObjId) : Prog Unit :=
  .bracket (moveConstruct source) destruct fun that => assign this that

/-- `operator SOCKET&`, which callers only read from. -/
def operatorSOCKET (this : ObjId) : Prog SOCKET := Sys.load this .mSfd

/-- `ai` is the entry that `ai.operator->()` points to. -/
def bind (this : ObjId) (ai : Addrinfo) : Prog Unit := do
  let (ret, soOption) ← Sys.getsockopt (← Sys.load this .mSfd) solSocket soType
  if ret = socketError then
    throw_error .msg1007
  else if ai.aiSocktype ≠ soOption then
    throwRuntimeError (.msg1008 ai.aiSocktype soOption)
  else
    scopedLock this .mBoundMutex do
      if (← Sys.bind (← Sys.load this .mSfd) ai.aiAddr ai.aiAddrlen) = socketError then
        throw_error .msg1009
      else
        Sys.store this .mBound true

def listen (this : ObjId) : Prog Unit :=
  scopedLock this .mListenMutex do
    -- The backlog is hard coded.
    if (← Sys.listen (← Sys.load this .mSfd) 1) ≠ 0 then
      throw_error .msg1010
    else
      Sys.store this .mListen true

def isBind (this : ObjId) : Prog Bool := do
  if (← Sys.load this .mSfd) = invalidSocket then
    throwRuntimeError .msg1015
  else
    scopedLock this .mBoundMutex (Sys.load this .mBound)

def isListen (this : ObjId) : Prog Bool := do
  if (← Sys.load this .mSfd) = invalidSocket then
    throwRuntimeError .msg1016
  else
    scopedLock this .mListenMutex (Sys.load this .mListen)

def getPort (this : ObjId) : Prog UInt16 := do
  if (← Sys.load this .mSfd) = invalidSocket then
    throwRuntimeError .msg1011
  else if !(← isBind this) then
    throwRuntimeError .msg1012
  else
    let (ret, ss) ← Sys.getsockname (← Sys.load this .mSfd)
    if ret ≠ 0 then
      throw_error .msg1013
    else
      return ntohs (sin6Port ss)

def getsockoptInt (this : ObjId) (aLevel aOptname : Int) (aOptnameStr : String) : Prog Int := do
  let (ret, soOption) ← Sys.getsockopt (← Sys.load this .mSfd) aLevel aOptname
  if ret ≠ 0 then
    throw_error (.msg1017 aOptnameStr)
  else
    return soOption

def getSockerr (this : ObjId) : Prog Int := getsockoptInt this solSocket soError "SO_ERROR"

def isReuseAddr (this : ObjId) : Prog Bool := do
  return (← getsockoptInt this solSocket soReuseaddr "SO_REUSEADDR") ≠ 0

def isV6only (this : ObjId) : Prog Bool := do
  if (← Sys.load this .mSfd) = invalidSocket then
    throwRuntimeError .msg1014
  -- We can have v6only with AF_INET6. Otherwise always false is returned.
  else if (← Sys.load this .mAf) = afInet6 then
    return (← getsockoptInt this ipprotoIpv6 ipv6V6only "IPV6_V6ONLY") ≠ 0
  else
    return false

end ClientServerTcp.CSocket
