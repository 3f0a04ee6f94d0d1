import ClientServerTcp.Sources.ServerTcp

/-! client-tcp.cpp: tell the server on the loopback interface to quit. -/
namespace ClientServerTcp
open Effects

/-- `quit_server` once its objects `sock` and `ai` are made. -/
def quitServerBody (sock : ObjId) (ai : InfoId) : Prog Unit := do
  let res ← CAddrinfo.arrow ai
  let ret ← Sys.connect (← CSocket.operatorSOCKET sock) res.aiAddr res.aiAddrlen
  if ret ≠ 0 then
    throw_error .msg1019
  else
    let valsend ← Sys.send (← CSocket.operatorSOCKET sock) [charQ]
    if valsend ≠ 1 then
      throw_error .msg1021
    else
      let _ ← Sys.shutdown (← CSocket.operatorSOCKET sock) shutRdwr
      return

def quitServer : Prog Unit :=
  .bracket (CSocket.construct afInet6 sockStream 0) CSocket.destruct fun sock =>
  .bracket (CAddrinfo.construct "" "4433" afUnspec sockStream
      (aiNumerichost ||| aiNumericserv : Nat) 0) CAddrinfo.destruct fun ai =>
  quitServerBody sock ai

end ClientServerTcp
