import ClientServerTcp.Library.Loop
import ClientServerTcp.Sources.Socket

/-! server-tcp.cpp: a server that accepts connections one after the other and
quits when it has read a single 'Q'. -/
namespace ClientServerTcp
open Effects

def charQ : UInt8 := 'Q'.toUInt8

def bufferSize : Nat := 1024

/-- `char buffer[1024]`. -/
abbrev Buffer := Fin bufferSize → UInt8

/-- What `recv` does to the buffer: it overwrites the front. -/
def Buffer.overwrite (b : Buffer) (bytes : Bytes) : Buffer := fun i => bytes.getD i.val (b i)

/-- `b[i] = c`, which has no meaning outside of the array. -/
def Buffer.write (b : Buffer) (i : Int) (c : UInt8) : Option Buffer :=
  if h : 0 ≤ i ∧ i.toNat < bufferSize then some (Function.update b ⟨i.toNat, h.2⟩ c) else none

/-- The members of class `CServerTCP`, except for `m_ready`, which other threads
read and which lies in memory. -/
structure CServerTCP where
  mListenSfd : ObjId
  deriving DecidableEq, Repr

namespace CServerTCP

def constructBody (mListenSfd : ObjId) (aPort : String) : Prog Unit :=
  .bracket (CAddrinfo.construct "" (cStr aPort) afInet6 sockStream
      (aiPassive ||| aiNumerichost ||| aiNumericserv : Nat) 0) CAddrinfo.destruct fun ai => do
    CSocket.bind mListenSfd (← CAddrinfo.arrow ai)
    CSocket.listen mListenSfd

/-- An exception from the body destructs the members, which are complete. The
parameter `a_reuse_addr` is unused. -/
def construct (aPort : String) (_aReuseAddr : Bool := false) : Prog CServerTCP := do
  let mListenSfd ← CSocket.construct afInet6 sockStream 0
  Sys.storeReady mListenSfd false
  (constructBody mListenSfd aPort).onError (CSocket.destruct mListenSfd)
  return ⟨mListenSfd⟩

structure Locals where
  acceptSfd : SOCKET := invalidSocket
  buffer : Buffer := fun _ => 0
  valread : Int := 0

def looping (l : Locals) : Bool := l.buffer ⟨0, by decide⟩ ≠ charQ || l.valread ≠ 1

def serve (this : CServerTCP) (l : Locals) : Prog Locals := do
  let acceptSfd ← Sys.accept (← CSocket.operatorSOCKET this.mListenSfd)
  if acceptSfd = invalidSocket then
    throw_error .msg1022
  else
    let (valread, bytes) ← Sys.recv acceptSfd (bufferSize - 1)
    let buffer := l.buffer.overwrite bytes
    let _ ← Sys.shutdown acceptSfd shutRdwr
    let acceptSfd ← closeSocketP acceptSfd
    if valread = 0 then
      throw_error .msg1023
    else if valread = socketError then
      throw_error .msg1024
    else
      match buffer.write valread 0 with
      | some buffer => return { acceptSfd, buffer, valread }
      | none => .raise .undefined

/-- `run()`, watched for `fuel` rounds of its loop. `none` says that it has not
left the loop. -/
def run (this : CServerTCP) (fuel : Nat) : Prog (Option Unit) := do
  Sys.storeReady this.mListenSfd true
  let exit ← .whileLoop looping this.serve fuel {}
  return exit.map fun _ => ()

/-- The flag is read before a sleep that it may spare, and for the result. -/
def ready (this : CServerTCP) (_aDelay : Int) : Prog Bool := do
  let _ ← Sys.loadReady this.mListenSfd
  Sys.loadReady this.mListenSfd

def isV6only (this : CServerTCP) : Prog Bool := CSocket.isV6only this.mListenSfd
def isReuseAddr (this : CServerTCP) : Prog Bool := CSocket.isReuseAddr this.mListenSfd
def getPort (this : CServerTCP) : Prog UInt16 := CSocket.getPort this.mListenSfd
def isListen (this : CServerTCP) : Prog Bool := CSocket.isListen this.mListenSfd

end CServerTCP
end ClientServerTcp
