import ClientServerTcp.Threads.Functions
import ClientServerTcp.Threads.Lifetime
import ClientServerTcp.Threads.Requests

/-! Code that a thread can be written in: blocks with local objects of the
classes, which end their lives with their block, and calls of member functions.
Every such code keeps to itself and gives everything back. -/
namespace ClientServerTcp
open Effects Program

/-- Code in the scope of these objects. What the threads share, it only reads. -/
inductive Block (S : Sharing) : {α : Type} → Set ObjId → Set InfoId → Prog α → Prop
  | pure (value : α) : Block S os as (Pure.pure value)
  | throwRuntimeError (error : RuntimeError) : Block S os as (throwRuntimeError error : Prog α)
  | bind {p : Prog β} {f : β → Prog α} (hp : Block S os as p)
    (hf : ∀ value, Block S os as (f value)) : Block S os as (p >>= f)
  | whileLoop {body : β → Prog β} (hbody : ∀ locals, Block S os as (body locals))
    (cond : β → Bool) (fuel : Nat) (locals : β) :
    Block S os as (Program.whileLoop cond body fuel locals)
  -- Definitions of local variables.
  | socket {body : ObjId → Prog α} (aDomain aType aProtocol : Int)
    (hbody : ∀ o, Block S (insert o os) as (body o)) :
    Block S os as (.bracket (CSocket.construct aDomain aType aProtocol) CSocket.destruct body)
  | moved {body : ObjId → Prog α} (hthat : that ∈ os)
    (hbody : ∀ o, Block S (insert o os) as (body o)) :
    Block S os as (.bracket (CSocket.moveConstruct that) CSocket.destruct body)
  | addrinfo {body : InfoId → Prog α} (aNode aService : String)
    (aFamily aSocktype aFlags aProtocol : Int) (hbody : ∀ a, Block S os (insert a as) (body a)) :
    Block S os as (.bracket (CAddrinfo.construct aNode aService aFamily aSocktype aFlags aProtocol)
      CAddrinfo.destruct body)
  | copied {body : InfoId → Prog α} (hthat : that ∈ as)
    (hbody : ∀ a, Block S os (insert a as) (body a)) :
    Block S os as (.bracket (CAddrinfo.copy that) CAddrinfo.destruct body)
  | server {body : CServerTCP → Prog α} (aPort : String) (aReuseAddr : Bool)
    (hbody : ∀ server, Block S (insert server.mListenSfd os) as (body server)) :
    Block S os as (.bracket (CServerTCP.construct aPort aReuseAddr)
      (fun server => CSocket.destruct server.mListenSfd) body)
  -- Calls of member functions.
  | bindSocket (ho : o ∈ os) (ai : Addrinfo) : Block S os as (CSocket.bind o ai)
  | listen (ho : o ∈ os) : Block S os as (CSocket.listen o)
  | isBind (ho : o ∈ os) : Block S os as (CSocket.isBind o)
  | isListen (ho : o ∈ os) : Block S os as (CSocket.isListen o)
  | getPort (ho : o ∈ os) : Block S os as (CSocket.getPort o)
  | getSockerr (ho : o ∈ os ∨ (S.sfd o).isSome) : Block S os as (CSocket.getSockerr o)
  | isReuseAddr (ho : o ∈ os ∨ (S.sfd o).isSome) : Block S os as (CSocket.isReuseAddr o)
  | isV6only (ho : o ∈ os ∨ (S.sfd o).isSome) : Block S os as (CSocket.isV6only o)
  | moveAssign (ho : o ∈ os) (hthat : that ∈ os) : Block S os as (CSocket.moveAssign o that)
  | arrow (ha : a ∈ as) : Block S os as (CAddrinfo.arrow a)
  | addrStr (ha : a ∈ as) (inetNtop : Int → Bytes → Option String) :
    Block S os as (CAddrinfo.addrStr inetNtop a)
  | port (ha : a ∈ as) : Block S os as (CAddrinfo.port a)
  | copyAssign (ha : a ∈ as) (hthat : that ∈ as) : Block S os as (CAddrinfo.copyAssign a that)
  | run {server : CServerTCP} (h : server.mListenSfd ∈ os ∨ (S.sfd server.mListenSfd).isSome)
    (fuel : Nat) : Block S os as (server.run fuel)
  | ready {server : CServerTCP} (h : server.mListenSfd ∈ os ∨ (S.sfd server.mListenSfd).isSome)
    (aDelay : Int) : Block S os as (server.ready aDelay)
  | quitServer : Block S os as quitServer

variable {S : Sharing} {α : Type} {os : Set ObjId} {as : Set InfoId}

namespace Block

theorem own {p : Prog α} (h : Block S os as p) (hos : ∀ o ∈ os, S.sfd o = none) :
    Own S ∅ (fun _ => True) p := by
  have hnew : ∀ {os : Set ObjId} {o}, (∀ o ∈ os, S.sfd o = none) → S.sfd o = none →
      ∀ o' ∈ insert o os, S.sfd o' = none := by
    intro os o hos ho o' hmem
    rcases hmem with rfl | hmem
    · exact ho
    · exact hos o' hmem
  induction h with
  | pure value => exact .pure trivial
  | throwRuntimeError error => exact .raise _
  | bind _ _ ihp ihf => exact .bind (ihp hos) fun value _ => ihf value hos
  | whileLoop _ cond fuel locals ih => exact .whileLoop (fun locals => ih locals hos) fuel locals
  | socket _ _ _ _ ih =>
    exact .bracket (CSocket.own_construct _ _ _) (fun o ho => ih o (hnew hos ho)) fun _ ho =>
      CSocket.own_destruct ho
  | moved hthat _ ih =>
    exact .bracket (CSocket.own_moveConstruct (hos _ hthat)) (fun o ho => ih o (hnew hos ho))
      fun _ ho => CSocket.own_destruct ho
  | addrinfo _ _ _ _ _ _ _ ih =>
    exact .bracket (CAddrinfo.own_construct _ _ _ _ _ _) (fun a _ => ih a hos) fun _ _ =>
      CAddrinfo.own_destruct
  | copied _ _ ih =>
    exact .bracket CAddrinfo.own_copy (fun a _ => ih a hos) fun _ _ => CAddrinfo.own_destruct
  | server _ _ _ ih =>
    exact .bracket (CServerTCP.own_construct _ _) (fun server ho => ih server (hnew hos ho))
      fun _ ho => CSocket.own_destruct ho
  | bindSocket ho ai => exact CSocket.own_bind (hos _ ho) ai
  | listen ho => exact CSocket.own_listen (hos _ ho)
  | isBind ho => exact (CSocket.own_isBind (hos _ ho)).mono fun _ _ => trivial
  | isListen ho => exact (CSocket.own_isListen (hos _ ho)).mono fun _ _ => trivial
  | getPort ho => exact CSocket.own_getPort (hos _ ho)
  | getSockerr _ => exact CSocket.own_getsockoptInt _ _ _
  | isReuseAddr _ => exact CSocket.own_isReuseAddr
  | isV6only _ => exact CSocket.own_isV6only
  | moveAssign ho hthat => exact CSocket.own_moveAssign (hos _ ho) (hos _ hthat)
  | arrow _ => exact CAddrinfo.own_arrow
  | addrStr _ inetNtop => exact CAddrinfo.own_addrStr inetNtop
  | port _ => exact CAddrinfo.own_port
  | copyAssign _ _ => exact CAddrinfo.own_copyAssign
  | run _ fuel => exact CServerTCP.own_run _ fuel
  | ready _ aDelay => exact CServerTCP.own_ready _ aDelay
  | quitServer => exact own_quitServer

/-- Such code ends with what it began with, whatever fails in it. -/
theorem manages {base : Hand} {p : Prog α} (h : Block S os as p)
    (hbase : ∀ o, (S.sfd o).isSome → base.Usable o) :
    Manages base (Scope os as) p (fun _ => Scope os as) (Scope os as) := by
  have hread : ∀ {os : Set ObjId} {as : Set InfoId} {o : ObjId} {own : Hand}, Scope os as own →
      o ∈ os ∨ (S.sfd o).isSome → (base.sees own).Usable o := by
    intro os as o own hscope ho
    rcases ho with ho | ho
    · exact hscope.usable ho
    · exact hscope.usable_base (hbase o ho)
  induction h with
  | pure value => exact Triple.pure fun _ hs => hs
  | throwRuntimeError error => exact Triple.raise fun _ hs => hs
  | bind _ _ ihp ihf => exact Triple.bind ihp ihf
  | @whileLoop _ os as body _ cond fuel locals ih =>
    refine (Triple.whileLoop (fun locals _ => ih locals) fuel locals).post ?_
    intro result own hown
    cases result with
    | none =>
      obtain ⟨_, _, hscope⟩ := hown
      exact hscope
    | some locals => exact hown.2
  | socket _ _ _ _ ih =>
    exact CSocket.manages_block id (CSocket.manages_construct _ _ _) ih
  | moved hthat _ ih => exact CSocket.manages_block id (CSocket.manages_moveConstruct hthat) ih
  | addrinfo _ _ _ _ _ _ _ ih =>
    exact CAddrinfo.manages_block (CAddrinfo.manages_construct _ _ _ _ _ _) ih
  | copied hthat _ ih => exact CAddrinfo.manages_block (CAddrinfo.manages_copy hthat) ih
  | server _ _ _ ih =>
    exact CSocket.manages_block CServerTCP.mListenSfd (CServerTCP.manages_construct _ _) ih
  | bindSocket ho ai => exact manages_of_keeps fun _ h => CSocket.keeps_bind (h.usable ho) h ai
  | listen ho => exact manages_of_keeps fun _ h => CSocket.keeps_listen (h.usable ho) h
  | isBind ho => exact manages_of_keeps fun _ h => CSocket.keeps_isBind (h.usable ho) h
  | isListen ho => exact manages_of_keeps fun _ h => CSocket.keeps_isListen (h.usable ho) h
  | getPort ho => exact manages_of_keeps fun _ h => CSocket.keeps_getPort (h.usable ho) h
  | getSockerr ho =>
    exact manages_of_keeps fun _ h => CSocket.keeps_getsockoptInt (hread h ho) h _ _ _
  | isReuseAddr ho => exact manages_of_keeps fun _ h => CSocket.keeps_isReuseAddr (hread h ho) h
  | isV6only ho => exact manages_of_keeps fun _ h => CSocket.keeps_isV6only (hread h ho) h
  | moveAssign ho hthat => exact CSocket.manages_moveAssign ho hthat
  | arrow ha => exact manages_of_keeps fun _ h => CAddrinfo.keeps_arrow (h.readable ha) h
  | addrStr ha inetNtop =>
    exact manages_of_keeps fun _ h => CAddrinfo.keeps_addrStr (h.readable ha) h inetNtop
  | port ha => exact manages_of_keeps fun _ h => CAddrinfo.keeps_port (h.readable ha) h
  | copyAssign ha hthat => exact CAddrinfo.manages_copyAssign ha hthat
  | run hserver fuel =>
    exact manages_of_keeps fun _ h => CServerTCP.keeps_run _ (hread h hserver) h fuel
  | ready hserver aDelay =>
    exact manages_of_keeps fun _ h => CServerTCP.keeps_ready _ (hread h hserver) aDelay
  | quitServer => exact manages_quitServer

end Block

/-- A call on a shared object, or such code on objects of the thread's own. -/
def Request.Scoped : Request S → Prop
  | .own p _ => Block S ∅ ∅ p
  | _ => True

theorem Request.manages {base : Hand} {r : Request S} (h : r.Scoped)
    (hbase : ∀ o, (S.sfd o).isSome → base.Usable o) :
    Manages base (Scope ∅ ∅) r.code (fun _ => Scope ∅ ∅) (Scope ∅ ∅) := by
  have husable : ∀ {own : Hand} (o : S.Object), Scope ∅ ∅ own → (base.sees own).Usable o.1 :=
    fun o hscope => hscope.usable_base (hbase o.1 o.2)
  have hcall : ∀ {α : Type} {p : Prog α} {reply : α → Reply},
      (∀ own, Scope ∅ ∅ own → Keeps base own (Scope ∅ ∅) (fun _ => True) p) →
      Manages base (Scope ∅ ∅) (do return reply (← p)) (fun _ => Scope ∅ ∅) (Scope ∅ ∅) :=
    fun hp => Triple.bind (manages_of_keeps hp) fun _ => Triple.pure fun _ hs => hs
  cases r with
  | bind o ai => exact hcall fun _ h => CSocket.keeps_bind (husable o h) h ai
  | listen o => exact hcall fun _ h => CSocket.keeps_listen (husable o h) h
  | isBind o => exact hcall fun _ h => CSocket.keeps_isBind (husable o h) h
  | isListen o => exact hcall fun _ h => CSocket.keeps_isListen (husable o h) h
  | getPort o => exact hcall fun _ h => CSocket.keeps_getPort (husable o h) h
  | getSockerr o => exact hcall fun _ h => CSocket.keeps_getsockoptInt (husable o h) h _ _ _
  | isReuseAddr o => exact hcall fun _ h => CSocket.keeps_isReuseAddr (husable o h) h
  | isV6only o => exact hcall fun _ h => CSocket.keeps_isV6only (husable o h) h
  | own p _ => exact Block.manages h hbase

end ClientServerTcp
