import ClientServerTcp.Library.Program
import ClientServerTcp.System.Kernel

/-! The steps a program of these sources takes: calls of the operating system,
reads and writes of an object's members, and locks. Sequentially a lock is
always free, because no member function takes a mutex it already holds. -/
namespace ClientServerTcp
open Effects

abbrev ObjId := Nat

/-- The members of class `CSocket`, with their default initialisers. -/
structure CSocket where
  mSfd : SOCKET := invalidSocket
  mAf : Int := -1
  mBound : Bool := false
  mListen : Bool := false
  deriving DecidableEq, Repr

inductive Field where
  | mSfd | mAf | mBound | mListen
  deriving DecidableEq, Repr

@[reducible] def Field.Ty : Field → Type
  | .mSfd => SOCKET
  | .mAf => Int
  | .mBound => Bool
  | .mListen => Bool

instance : (f : Field) → DecidableEq f.Ty
  | .mSfd => inferInstanceAs (DecidableEq SOCKET)
  | .mAf => inferInstanceAs (DecidableEq Int)
  | .mBound | .mListen => inferInstanceAs (DecidableEq Bool)

def CSocket.get (s : CSocket) : (f : Field) → f.Ty
  | .mSfd => s.mSfd
  | .mAf => s.mAf
  | .mBound => s.mBound
  | .mListen => s.mListen

def CSocket.set (s : CSocket) : (f : Field) → f.Ty → CSocket
  | .mSfd, value => { s with mSfd := value }
  | .mAf, value => { s with mAf := value }
  | .mBound, value => { s with mBound := value }
  | .mListen, value => { s with mListen := value }

abbrev InfoId := Nat

/-- The members of class `CAddrinfo`. `m_hints` has null pointers at its end. -/
structure CAddrinfo where
  mRes : Ptr := 0
  mNode : String := ""
  mService : String := ""
  mHints : Addrinfo := {}
  deriving DecidableEq, Repr

inductive InfoField where
  | mRes | mNode | mService | mHints
  deriving DecidableEq, Repr

@[reducible] def InfoField.Ty : InfoField → Type
  | .mRes => Ptr
  | .mNode | .mService => String
  | .mHints => Addrinfo

instance : (f : InfoField) → DecidableEq f.Ty
  | .mRes => inferInstanceAs (DecidableEq Ptr)
  | .mNode | .mService => inferInstanceAs (DecidableEq String)
  | .mHints => inferInstanceAs (DecidableEq Addrinfo)

def CAddrinfo.get (a : CAddrinfo) : (f : InfoField) → f.Ty
  | .mRes => a.mRes
  | .mNode => a.mNode
  | .mService => a.mService
  | .mHints => a.mHints

def CAddrinfo.set (a : CAddrinfo) : (f : InfoField) → f.Ty → CAddrinfo
  | .mRes, value => { a with mRes := value }
  | .mNode, value => { a with mNode := value }
  | .mService, value => { a with mService := value }
  | .mHints, value => { a with mHints := value }

inductive Mutex where
  | mBoundMutex | mListenMutex
  deriving DecidableEq, Repr

inductive Op where
  | socket (domain type protocol : Int)
  | setsockopt (sfd : SOCKET) (level optname value : Int)
  | getsockopt (sfd : SOCKET) (level optname : Int)
  | bind (sfd : SOCKET) (addr : Bytes) (addrlen : Nat)
  | listen (sfd : SOCKET) (backlog : Int)
  | getsockname (sfd : SOCKET)
  | accept (sfd : SOCKET)
  | recv (sfd : SOCKET) (len : Nat)
  | shutdown (sfd : SOCKET) (how : Int)
  | close (sfd : SOCKET)
  | connect (sfd : SOCKET) (addr : Bytes) (addrlen : Nat)
  | send (sfd : SOCKET) (msg : Bytes)
  | getaddrinfo (query : Query)
  | freeaddrinfo (res : Ptr)
  | errno
  | readRes (res : Ptr)
  | writeProtocol (res : Ptr) (value : Int)
  | writeFlags (res : Ptr) (value : Int)
  | new
  | delete (o : ObjId)
  | load (o : ObjId) (f : Field)
  | store (o : ObjId) (f : Field) (value : f.Ty)
  | newInfo (init : CAddrinfo)
  | deleteInfo (a : InfoId)
  | loadInfo (a : InfoId) (f : InfoField)
  | storeInfo (a : InfoId) (f : InfoField) (value : f.Ty)
  | lock (o : ObjId) (m : Mutex)
  | unlock (o : ObjId) (m : Mutex)
  | loadReady (o : ObjId)
  | storeReady (o : ObjId) (value : Bool)
  deriving DecidableEq

@[reducible] def Op.Res : Op → Type
  | .socket .. | .accept _ => SOCKET
  | .setsockopt .. | .bind .. | .listen .. | .shutdown .. | .close _ | .connect ..
  | .send .. | .errno => Int
  | .getsockopt .. => Int × Int
  | .getsockname _ | .recv .. => Int × Bytes
  | .getaddrinfo _ => Int × Ptr
  | .readRes _ => Option (List Addrinfo)
  | .new => ObjId
  | .newInfo _ => InfoId
  | .load _ f => f.Ty
  | .loadInfo _ f => f.Ty
  | .loadReady _ => Bool
  | .freeaddrinfo _ | .writeProtocol .. | .writeFlags .. | .delete _ | .store .. | .deleteInfo _
  | .storeInfo .. | .lock .. | .unlock .. | .storeReady .. => Unit

/-- The system and the memory of the process. `ready` is the member `m_ready`
of the server whose `m_listen_sfd` has that address. -/
structure World where
  kernel : Kernel
  objs : Memory.Heap CSocket
  infos : Memory.Heap CAddrinfo
  ready : ObjId → Bool

namespace World

def withObjs (w : World) (objs : Memory.Heap CSocket) : World := { w with objs }

def withInfos (w : World) (infos : Memory.Heap CAddrinfo) : World := { w with infos }

def withKernel (w : World) (k : Kernel) : World := { w with kernel := k }

def syscall {α : Type} (w : World) (r : α × Kernel) : α × World := (r.1, w.withKernel r.2)

end World

def World.initial : World where
  kernel := { table := fun _ => none, lists := .empty 1, errno := 0, trace := [] }
  objs := .empty 0
  infos := .empty 0
  ready := fun _ => false

/-- The meaning of every step in a process that does nothing else meanwhile. -/
def step (os : OS) : Program.Handler Op.Res World
  | .socket domain type protocol, w => w.syscall (w.kernel.socket os domain type protocol)
  | .setsockopt sfd level optname value, w =>
    w.syscall (w.kernel.setsockopt os sfd level optname value)
  | .getsockopt sfd level optname, w => w.syscall (w.kernel.getsockopt os sfd level optname)
  | .bind sfd addr addrlen, w => w.syscall (w.kernel.bind os sfd addr addrlen)
  | .listen sfd backlog, w => w.syscall (w.kernel.listen os sfd backlog)
  | .getsockname sfd, w => w.syscall (w.kernel.getsockname os sfd)
  | .accept sfd, w => w.syscall (w.kernel.accept os sfd)
  | .recv sfd len, w => w.syscall (w.kernel.recv os sfd len)
  | .shutdown sfd how, w => w.syscall (w.kernel.shutdown os sfd how)
  | .close sfd, w => w.syscall (w.kernel.close os sfd)
  | .connect sfd addr addrlen, w => w.syscall (w.kernel.connect os sfd addr addrlen)
  | .send sfd msg, w => w.syscall (w.kernel.send os sfd msg)
  | .getaddrinfo query, w => w.syscall (w.kernel.getaddrinfo os query)
  | .freeaddrinfo res, w => ((), w.withKernel (w.kernel.freeaddrinfo res))
  | .errno, w => w.syscall w.kernel.readErrno
  | .readRes res, w => ((w.kernel.lists res).map AddrList.entries, w)
  | .writeProtocol res value, w =>
    ((), w.withKernel (w.kernel.writeRes res fun e => { e with aiProtocol := value }))
  | .writeFlags res value, w =>
    ((), w.withKernel (w.kernel.writeRes res fun e => { e with aiFlags := value }))
  | .new, w => (w.objs.next, w.withObjs (w.objs.alloc {}))
  | .delete o, w => ((), w.withObjs (w.objs.free o))
  | .load o f, w => (((w.objs o).getD {}).get f, w)
  | .store o f value, w => ((), w.withObjs (w.objs.modify o fun s => s.set f value))
  | .newInfo init, w => (w.infos.next, w.withInfos (w.infos.alloc init))
  | .deleteInfo a, w => ((), w.withInfos (w.infos.free a))
  | .loadInfo a f, w => (((w.infos a).getD {}).get f, w)
  | .storeInfo a f value, w => ((), w.withInfos (w.infos.modify a fun i => i.set f value))
  | .lock _ _, w => ((), w)
  | .unlock _ _, w => ((), w)
  | .loadReady o, w => (w.ready o, w)
  | .storeReady o value, w => ((), { w with ready := Function.update w.ready o value })

/-- The message a `throw_error` call site passes on. -/
inductive Errmsg where
  | msg1002 | msg1003 | msg1005 | msg1007 | msg1009 | msg1010 | msg1013
  | msg1017 (aOptnameStr : String)
  | msg1019 | msg1021 | msg1022 | msg1023 | msg1024
  deriving DecidableEq, Repr

def Errmsg.text : Errmsg → String
  | .msg1002 => "ERROR! MSG1002: Failed to create socket:"
  | .msg1003 => "ERROR! MSG1003: Failed to set socket option SO_REUSEADDR:"
  | .msg1005 => "ERROR! MSG1005: Failed to set socket option IPV6_V6ONLY:"
  | .msg1007 => "ERROR! MSG1007: Failed to bind socket to an address:"
  | .msg1009 => "ERROR! MSG1009: Due to default socket reuse_addr=false, " ++
      "failed to bind socket to an address:"
  | .msg1010 => "ERROR! MSG1010: Failed to set socket to listen:"
  | .msg1013 => "ERROR! MSG1013: Failed to get socket port number:"
  | .msg1017 name => "ERROR! MSG1017: Failed to get socket option " ++ name ++ ":"
  | .msg1019 => "[Client] ERROR! MSG1019: Failed to connect:"
  | .msg1021 => "[Client] ERROR! MSG1021: Failed to send server Quit message:"
  | .msg1022 => "[Server] ERROR! MSG1022: Failed to accept an incomming request:"
  | .msg1023 => "[Server] ERROR! MSG1023: Read an incomming request with message length = 0:"
  | .msg1024 => "[Server] ERROR! MSG1024: Failed to read an incomming request:"

/-- A `std::runtime_error` of the sources, by the way its text is made. -/
inductive RuntimeError where
  | withErrno (errmsg : Errmsg) (errno : Int)
  | msg1008 (aiSocktype soOption : Int)
  | msg1011 | msg1012 | msg1014 | msg1015 | msg1016
  | msg1025 (ret : Int)
  deriving DecidableEq, Repr

def RuntimeError.what (strerror gaiStrerror : Int → String) : RuntimeError → String
  | .withErrno errmsg errno =>
    errmsg.text ++ " errno(" ++ toString errno ++ ")=\"" ++ strerror errno ++ "\""
  | .msg1008 aiSocktype soOption =>
    "ERROR! MSG1008: Failed to bind socket to an address: \"socket type of address (" ++
      toString aiSocktype ++ ") does not match socket type (" ++ toString soOption ++ ")\""
  | .msg1011 => "ERROR! MSG1011: Failed to get socket port number: \"Bad file descriptor\""
  | .msg1012 => "ERROR! MSG1012: Failed to get socket port number: \"not bound to an address\""
  | .msg1014 => "ERROR! MSG1014: Failed to get socket option 'is_v6only': \"Bad file descriptor\""
  | .msg1015 => "ERROR! MSG1015: Failed to get socket option 'is_bind': \"Bad file descriptor\""
  | .msg1016 => "ERROR! MSG1016: Failed to get socket option 'is_Listen': \"Bad file descriptor\""
  | .msg1025 ret => "[73] ERROR! MSG1025: Failed to get address information: errid(" ++
      toString ret ++ ")=\"" ++ gaiStrerror ret ++ "\""

/-- A run ends with a thrown error, or it does something the language gives no
meaning to, such as a write outside of an array. -/
inductive Exn where
  | thrown (error : RuntimeError)
  | undefined
  deriving DecidableEq, Repr

abbrev Prog := Program Op.Res Exn

/-! The calls, under the names the sources use. -/
namespace Sys

abbrev call (op : Op) : Prog op.Res := .perform op

def socket (domain type protocol : Int) : Prog SOCKET := call (.socket domain type protocol)
def setsockopt (sfd : SOCKET) (level optname value : Int) : Prog Int :=
  call (.setsockopt sfd level optname value)
def getsockopt (sfd : SOCKET) (level optname : Int) : Prog (Int × Int) :=
  call (.getsockopt sfd level optname)
def bind (sfd : SOCKET) (addr : Bytes) (addrlen : Nat) : Prog Int :=
  call (.bind sfd addr addrlen)
def listen (sfd : SOCKET) (backlog : Int) : Prog Int := call (.listen sfd backlog)
def getsockname (sfd : SOCKET) : Prog (Int × Bytes) := call (.getsockname sfd)
def accept (sfd : SOCKET) : Prog SOCKET := call (.accept sfd)
def recv (sfd : SOCKET) (len : Nat) : Prog (Int × Bytes) := call (.recv sfd len)
def shutdown (sfd : SOCKET) (how : Int) : Prog Int := call (.shutdown sfd how)
def close (sfd : SOCKET) : Prog Int := call (.close sfd)
def connect (sfd : SOCKET) (addr : Bytes) (addrlen : Nat) : Prog Int :=
  call (.connect sfd addr addrlen)
def send (sfd : SOCKET) (msg : Bytes) : Prog Int := call (.send sfd msg)
def getaddrinfo (query : Query) : Prog (Int × Ptr) := call (.getaddrinfo query)
def freeaddrinfo (res : Ptr) : Prog Unit := call (.freeaddrinfo res)
def errno : Prog Int := call .errno
def readRes (res : Ptr) : Prog (Option (List Addrinfo)) := call (.readRes res)
def writeProtocol (res : Ptr) (value : Int) : Prog Unit := call (.writeProtocol res value)
def writeFlags (res : Ptr) (value : Int) : Prog Unit := call (.writeFlags res value)
def new : Prog ObjId := call .new
def delete (o : ObjId) : Prog Unit := call (.delete o)
def load (o : ObjId) (f : Field) : Prog f.Ty := call (.load o f)
def store (o : ObjId) (f : Field) (value : f.Ty) : Prog Unit := call (.store o f value)
def newInfo (init : CAddrinfo) : Prog InfoId := call (.newInfo init)
def deleteInfo (a : InfoId) : Prog Unit := call (.deleteInfo a)
def loadInfo (a : InfoId) (f : InfoField) : Prog f.Ty := call (.loadInfo a f)
def storeInfo (a : InfoId) (f : InfoField) (value : f.Ty) : Prog Unit :=
  call (.storeInfo a f value)
def lock (o : ObjId) (m : Mutex) : Prog Unit := call (.lock o m)
def unlock (o : ObjId) (m : Mutex) : Prog Unit := call (.unlock o m)
def loadReady (o : ObjId) : Prog Bool := call (.loadReady o)
def storeReady (o : ObjId) (value : Bool) : Prog Unit := call (.storeReady o value)

/-! Their weakest preconditions. -/

section
variable (os : OS) (E : Exn → World → Prop) (w : World)

@[simp] theorem wp_socket (domain type protocol : Int) {Q : SOCKET → World → Prop} :
    (socket domain type protocol).wp (step os) Q E w =
      Q (w.kernel.socket os domain type protocol).1
        (w.withKernel (w.kernel.socket os domain type protocol).2) := rfl

@[simp] theorem wp_setsockopt (sfd : SOCKET) (level optname value : Int) {Q : Int → World → Prop} :
    (setsockopt sfd level optname value).wp (step os) Q E w =
      Q (w.kernel.setsockopt os sfd level optname value).1
        (w.withKernel (w.kernel.setsockopt os sfd level optname value).2) := rfl

@[simp] theorem wp_getsockopt (sfd : SOCKET) (level optname : Int) {Q : Int × Int → World → Prop} :
    (getsockopt sfd level optname).wp (step os) Q E w =
      Q (w.kernel.getsockopt os sfd level optname).1
        (w.withKernel (w.kernel.getsockopt os sfd level optname).2) := rfl

@[simp] theorem wp_bind (sfd : SOCKET) (addr : Bytes) (addrlen : Nat) {Q : Int → World → Prop} :
    (bind sfd addr addrlen).wp (step os) Q E w =
      Q (w.kernel.bind os sfd addr addrlen).1
        (w.withKernel (w.kernel.bind os sfd addr addrlen).2) := rfl

@[simp] theorem wp_listen (sfd : SOCKET) (backlog : Int) {Q : Int → World → Prop} :
    (listen sfd backlog).wp (step os) Q E w =
      Q (w.kernel.listen os sfd backlog).1 (w.withKernel (w.kernel.listen os sfd backlog).2) := rfl

@[simp] theorem wp_getsockname (sfd : SOCKET) {Q : Int × Bytes → World → Prop} :
    (getsockname sfd).wp (step os) Q E w =
      Q (w.kernel.getsockname os sfd).1 (w.withKernel (w.kernel.getsockname os sfd).2) := rfl

@[simp] theorem wp_accept (sfd : SOCKET) {Q : SOCKET → World → Prop} :
    (accept sfd).wp (step os) Q E w =
      Q (w.kernel.accept os sfd).1 (w.withKernel (w.kernel.accept os sfd).2) := rfl

@[simp] theorem wp_recv (sfd : SOCKET) (len : Nat) {Q : Int × Bytes → World → Prop} :
    (recv sfd len).wp (step os) Q E w =
      Q (w.kernel.recv os sfd len).1 (w.withKernel (w.kernel.recv os sfd len).2) := rfl

@[simp] theorem wp_shutdown (sfd : SOCKET) (how : Int) {Q : Int → World → Prop} :
    (shutdown sfd how).wp (step os) Q E w =
      Q (w.kernel.shutdown os sfd how).1 (w.withKernel (w.kernel.shutdown os sfd how).2) := rfl

@[simp] theorem wp_close (sfd : SOCKET) {Q : Int → World → Prop} :
    (close sfd).wp (step os) Q E w =
      Q (w.kernel.close os sfd).1 (w.withKernel (w.kernel.close os sfd).2) := rfl

@[simp] theorem wp_connect (sfd : SOCKET) (addr : Bytes) (addrlen : Nat) {Q : Int → World → Prop} :
    (connect sfd addr addrlen).wp (step os) Q E w =
      Q (w.kernel.connect os sfd addr addrlen).1
        (w.withKernel (w.kernel.connect os sfd addr addrlen).2) := rfl

@[simp] theorem wp_send (sfd : SOCKET) (msg : Bytes) {Q : Int → World → Prop} :
    (send sfd msg).wp (step os) Q E w =
      Q (w.kernel.send os sfd msg).1 (w.withKernel (w.kernel.send os sfd msg).2) := rfl

@[simp] theorem wp_getaddrinfo (query : Query) {Q : Int × Ptr → World → Prop} :
    (getaddrinfo query).wp (step os) Q E w =
      Q (w.kernel.getaddrinfo os query).1 (w.withKernel (w.kernel.getaddrinfo os query).2) := rfl

@[simp] theorem wp_freeaddrinfo (res : Ptr) {Q : Unit → World → Prop} :
    (freeaddrinfo res).wp (step os) Q E w = Q () (w.withKernel (w.kernel.freeaddrinfo res)) := rfl

@[simp] theorem wp_errno {Q : Int → World → Prop} :
    errno.wp (step os) Q E w =
      Q w.kernel.errno (w.withKernel (w.kernel.log .errno w.kernel.errno)) := rfl

@[simp] theorem wp_readRes (res : Ptr) {Q : Option (List Addrinfo) → World → Prop} :
    (readRes res).wp (step os) Q E w = Q ((w.kernel.lists res).map AddrList.entries) w := rfl

@[simp] theorem wp_writeProtocol (res : Ptr) (value : Int) {Q : Unit → World → Prop} :
    (writeProtocol res value).wp (step os) Q E w =
      Q () (w.withKernel (w.kernel.writeRes res fun e => { e with aiProtocol := value })) := rfl

@[simp] theorem wp_writeFlags (res : Ptr) (value : Int) {Q : Unit → World → Prop} :
    (writeFlags res value).wp (step os) Q E w =
      Q () (w.withKernel (w.kernel.writeRes res fun e => { e with aiFlags := value })) := rfl

@[simp] theorem wp_new {Q : ObjId → World → Prop} :
    new.wp (step os) Q E w = Q w.objs.next (w.withObjs (w.objs.alloc {})) := rfl

@[simp] theorem wp_delete (o : ObjId) {Q : Unit → World → Prop} :
    (delete o).wp (step os) Q E w = Q () (w.withObjs (w.objs.free o)) := rfl

@[simp] theorem wp_load_mSfd (o : ObjId) {Q : SOCKET → World → Prop} :
    (load o .mSfd).wp (step os) Q E w = Q ((w.objs o).getD {}).mSfd w := rfl

@[simp] theorem wp_load_mAf (o : ObjId) {Q : Int → World → Prop} :
    (load o .mAf).wp (step os) Q E w = Q ((w.objs o).getD {}).mAf w := rfl

@[simp] theorem wp_load_mBound (o : ObjId) {Q : Bool → World → Prop} :
    (load o .mBound).wp (step os) Q E w = Q ((w.objs o).getD {}).mBound w := rfl

@[simp] theorem wp_load_mListen (o : ObjId) {Q : Bool → World → Prop} :
    (load o .mListen).wp (step os) Q E w = Q ((w.objs o).getD {}).mListen w := rfl

@[simp] theorem wp_store (o : ObjId) (f : Field) (value : f.Ty) {Q : Unit → World → Prop} :
    (store o f value).wp (step os) Q E w =
      Q () (w.withObjs (w.objs.modify o fun s => s.set f value)) := rfl

@[simp] theorem wp_newInfo (init : CAddrinfo) {Q : InfoId → World → Prop} :
    (newInfo init).wp (step os) Q E w =
      Q w.infos.next (w.withInfos (w.infos.alloc init)) := rfl

@[simp] theorem wp_deleteInfo (a : InfoId) {Q : Unit → World → Prop} :
    (deleteInfo a).wp (step os) Q E w = Q () (w.withInfos (w.infos.free a)) := rfl

@[simp] theorem wp_loadInfo_mRes (a : InfoId) {Q : Ptr → World → Prop} :
    (loadInfo a .mRes).wp (step os) Q E w = Q ((w.infos a).getD {}).mRes w := rfl

@[simp] theorem wp_loadInfo_mNode (a : InfoId) {Q : String → World → Prop} :
    (loadInfo a .mNode).wp (step os) Q E w = Q ((w.infos a).getD {}).mNode w := rfl

@[simp] theorem wp_loadInfo_mService (a : InfoId) {Q : String → World → Prop} :
    (loadInfo a .mService).wp (step os) Q E w = Q ((w.infos a).getD {}).mService w := rfl

@[simp] theorem wp_loadInfo_mHints (a : InfoId) {Q : Addrinfo → World → Prop} :
    (loadInfo a .mHints).wp (step os) Q E w = Q ((w.infos a).getD {}).mHints w := rfl

@[simp] theorem wp_storeInfo (a : InfoId) (f : InfoField) (value : f.Ty) {Q : Unit → World → Prop} :
    (storeInfo a f value).wp (step os) Q E w =
      Q () (w.withInfos (w.infos.modify a fun i => i.set f value)) := rfl

@[simp] theorem wp_lock (o : ObjId) (m : Mutex) {Q : Unit → World → Prop} :
    (lock o m).wp (step os) Q E w = Q () w := rfl

@[simp] theorem wp_unlock (o : ObjId) (m : Mutex) {Q : Unit → World → Prop} :
    (unlock o m).wp (step os) Q E w = Q () w := rfl

@[simp] theorem wp_loadReady (o : ObjId) {Q : Bool → World → Prop} :
    (loadReady o).wp (step os) Q E w = Q (w.ready o) w := rfl

@[simp] theorem wp_storeReady (o : ObjId) (value : Bool) {Q : Unit → World → Prop} :
    (storeReady o value).wp (step os) Q E w =
      Q () { w with ready := Function.update w.ready o value } := rfl

end

end Sys

def throwRuntimeError (error : RuntimeError) : Prog α := .raise (.thrown error)

/-- The static function of socket.cpp and of server-tcp.cpp. -/
def throw_error (errmsg : Errmsg) : Prog α := do
  let errno ← Sys.errno
  throwRuntimeError (.withErrno errmsg errno)

/-- `CLOSE_SOCKET_P`: close, and hand back what the variable is reset to. -/
def closeSocketP (s : SOCKET) : Prog SOCKET := do
  let _ ← Sys.close s
  return invalidSocket

/-- `std::scoped_lock lock(m)` around the rest of a block. -/
def scopedLock (o : ObjId) (m : Mutex) (body : Prog α) : Prog α :=
  .bracket (Sys.lock o m) (fun _ => Sys.unlock o m) fun _ => body

section
variable (os : OS) {α : Type} {Q : α → World → Prop} {E : Exn → World → Prop} {w : World}

@[simp] theorem wp_throwRuntimeError (error : RuntimeError) :
    (throwRuntimeError error : Prog α).wp (step os) Q E w = E (.thrown error) w := rfl

@[simp] theorem wp_throw_error (errmsg : Errmsg) :
    (throw_error errmsg : Prog α).wp (step os) Q E w =
      E (.thrown (.withErrno errmsg w.kernel.errno))
        (w.withKernel (w.kernel.log .errno w.kernel.errno)) := rfl

@[simp] theorem wp_closeSocketP (s : SOCKET) {Q : SOCKET → World → Prop} :
    (closeSocketP s).wp (step os) Q E w =
      Q invalidSocket (w.withKernel (w.kernel.close os s).2) := rfl

@[simp] theorem wp_scopedLock (o : ObjId) (m : Mutex) (body : Prog α) :
    (scopedLock o m body).wp (step os) Q E w = body.wp (step os) Q E w := by
  simp only [scopedLock, Program.wp_bracket, Sys.wp_lock, Sys.wp_unlock]

end

namespace World

section
variable (w : World) (k k' : Kernel) (objs objs' : Memory.Heap CSocket)
  (infos infos' : Memory.Heap CAddrinfo)

@[simp] theorem kernel_withKernel : (w.withKernel k).kernel = k := rfl
@[simp] theorem objs_withKernel : (w.withKernel k).objs = w.objs := rfl
@[simp] theorem infos_withKernel : (w.withKernel k).infos = w.infos := rfl
@[simp] theorem ready_withKernel : (w.withKernel k).ready = w.ready := rfl
@[simp] theorem withKernel_withKernel :
    (w.withKernel k).withKernel k' = w.withKernel k' := rfl
@[simp] theorem kernel_withObjs : (w.withObjs objs).kernel = w.kernel := rfl
@[simp] theorem objs_withObjs : (w.withObjs objs).objs = objs := rfl
@[simp] theorem ready_withObjs : (w.withObjs objs).ready = w.ready := rfl
@[simp] theorem withObjs_withObjs :
    (w.withObjs objs).withObjs objs' = w.withObjs objs' := rfl
@[simp] theorem kernel_withInfos : (w.withInfos infos).kernel = w.kernel := rfl
@[simp] theorem infos_withInfos : (w.withInfos infos).infos = infos := rfl
@[simp] theorem withInfos_withInfos :
    (w.withInfos infos).withInfos infos' = w.withInfos infos' := rfl

end

end World
end ClientServerTcp
