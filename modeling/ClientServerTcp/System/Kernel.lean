import ClientServerTcp.Library.Heap

/-! The operating system as the sources see it: the descriptor table, the
address lists handed out by `getaddrinfo`, `errno`, and the log of every call.
Which calls fail, and what they answer, is left to an arbitrary `OS`. -/
namespace ClientServerTcp

/-- `typedef int SOCKET` of the POSIX branch. -/
abbrev SOCKET := Int
abbrev Bytes := List UInt8
/-- An address list on the heap. Zero is the null pointer. -/
abbrev Ptr := Nat

def invalidSocket : SOCKET := -1
def socketError : Int := -1

def afUnspec : Int := 0
def afInet : Int := 2
def afInet6 : Int := 10
def sockStream : Int := 1
def solSocket : Int := 1
def soReuseaddr : Int := 2
def soType : Int := 3
def soError : Int := 4
def ipprotoIpv6 : Int := 41
def ipv6V6only : Int := 26
def shutRdwr : Int := 2
def aiPassive : Nat := 0x1
def aiNumerichost : Nat := 0x4
def aiNumericserv : Nat := 0x400
def eBadf : Int := 9

/-- `struct addrinfo` without its links: a result list is a `List Addrinfo`. -/
structure Addrinfo where
  aiFlags : Int := 0
  aiFamily : Int := 0
  aiSocktype : Int := 0
  aiProtocol : Int := 0
  aiAddrlen : Nat := 0
  aiAddr : Bytes := []
  deriving DecidableEq, Repr

/-- The arguments of `getaddrinfo`. A null pointer is `none`. -/
structure Query where
  node : Option String
  service : Option String
  hints : Addrinfo
  deriving DecidableEq, Repr

/-- An allocated result list. `answer` remembers what the resolver put there;
`entries` is what the list holds now. -/
structure AddrList where
  query : Query
  answer : List Addrinfo
  entries : List Addrinfo
  deriving DecidableEq, Repr

inductive Call where
  | socket (domain type protocol : Int)
  | setsockopt (sfd : SOCKET) (level optname value : Int)
  | getsockopt (sfd : SOCKET) (level optname : Int)
  | bind (sfd : SOCKET) (addr : Bytes) (addrlen : Nat)
  | listen (sfd : SOCKET) (backlog : Int)
  | getsockname (sfd : SOCKET)
  | accept (sfd : SOCKET)
  | recv (sfd : SOCKET) (len : Nat)
  | shutdown (sfd : SOCKET) (how : Int)
  | close (sfd : SOCKET)
  | connect (sfd : SOCKET) (addr : Bytes) (addrlen : Nat)
  | send (sfd : SOCKET) (msg : Bytes)
  | getaddrinfo (query : Query)
  | freeaddrinfo (res : Ptr)
  | errno
  deriving DecidableEq, Repr

/-- One call and its outcome. `errno` is the number a failing call has set;
`out` is the list `getaddrinfo` has allocated. -/
structure Event where
  call : Call
  ret : Int
  errno : Option Int := none
  out : Ptr := 0
  deriving DecidableEq, Repr

/-- Who opened a descriptor: `::socket`, `::accept`, or code of the process
that these sources know nothing about. -/
inductive Origin where
  | socket | accept | foreign
  deriving DecidableEq, Repr

structure Desc where
  domain : Int
  sockType : Int
  protocol : Int
  origin : Origin
  option : Int → Int → Int
  localAddr : Option Bytes := none
  listening : Bool := false

def Desc.setOption (d : Desc) (level optname value : Int) : Desc :=
  { d with option := fun l o => if l = level ∧ o = optname then value else d.option l o }

/-- The state of the operating system. The newest event comes first. -/
structure Kernel where
  table : SOCKET → Option Desc
  lists : Memory.Heap AddrList
  errno : Int
  trace : List Event

/-- An operating system decides the outcome of every call, and may base it on
everything that happened before. An error is the number put into `errno`, or
the code `getaddrinfo` returns. -/
structure OS where
  socket : Kernel → Int → Int → Int → Except Int SOCKET
  defaultOption : Kernel → Int → Int → Int → Int
  setsockopt : Kernel → SOCKET → Int → Int → Int → Option Int
  getsockopt : Kernel → SOCKET → Int → Int → Option Int
  pendingError : Kernel → SOCKET → Int
  bind : Kernel → SOCKET → Bytes → Nat → Option Int
  listen : Kernel → SOCKET → Int → Option Int
  ephemeral : Kernel → SOCKET → Bytes
  getsockname : Kernel → SOCKET → Option Int
  accept : Kernel → SOCKET → Except Int SOCKET
  recv : Kernel → SOCKET → Nat → Except Int Bytes
  shutdown : Kernel → SOCKET → Int → Option Int
  close : Kernel → SOCKET → Option Int
  connect : Kernel → SOCKET → Bytes → Nat → Option Int
  send : Kernel → SOCKET → Bytes → Except Int Nat
  getaddrinfo : Kernel → Query → Except Int (List Addrinfo)
  /-- A new descriptor is a number that is not open. -/
  socket_free : ∀ {k d t p fd}, socket k d t p = .ok fd → 0 ≤ fd ∧ k.table fd = none
  accept_free : ∀ {k s fd}, accept k s = .ok fd → 0 ≤ fd ∧ k.table fd = none
  recv_le : ∀ {k s len bytes}, recv k s len = .ok bytes → bytes.length ≤ len
  send_le : ∀ {k s msg n}, send k s msg = .ok n → n ≤ msg.length
  getaddrinfo_ne : ∀ {k q l}, getaddrinfo k q = .ok l → l ≠ []
  getaddrinfo_err : ∀ {k q e}, getaddrinfo k q = .error e → e ≠ 0

def loopback4 (portHigh portLow : UInt8) : Addrinfo where
  aiFamily := afInet
  aiSocktype := sockStream
  aiAddrlen := 16
  aiAddr := [2, 0, portHigh, portLow, 127, 0, 0, 1, 0, 0, 0, 0, 0, 0, 0, 0]

def loopback6 (portHigh portLow : UInt8) : Addrinfo where
  aiFamily := afInet6
  aiSocktype := sockStream
  aiAddrlen := 28
  aiAddr := [10, 0, portHigh, portLow, 0, 0, 0, 0] ++ List.replicate 15 0 ++ [1, 0, 0, 0, 0]

/-- A system with two descriptors on which no call fails. Every connection
brings one byte 'Q', and every query is answered with ::1 and port 4433. -/
def OS.obliging : OS where
  socket k _ _ _ := if (k.table 3).isNone then .ok 3 else .error 24
  defaultOption _ _ _ _ := 1
  setsockopt _ _ _ _ _ := none
  getsockopt _ _ _ _ := none
  pendingError _ _ := 0
  bind _ _ _ _ := none
  listen _ _ _ := none
  ephemeral _ _ := (loopback6 0xc0 0).aiAddr
  getsockname _ _ := none
  accept k _ := if (k.table 4).isNone then .ok 4 else .error 24
  recv _ _ len := .ok (List.take len [0x51])
  shutdown _ _ _ := none
  close _ _ := none
  connect _ _ _ _ := none
  send _ _ msg := .ok msg.length
  getaddrinfo _ _ := .ok [loopback6 0x11 0x51]
  socket_free := by
    intro k d t p fd h
    split at h
    · obtain rfl := Except.ok.inj h
      simp_all
    · contradiction
  accept_free := by
    intro k s fd h
    split at h
    · obtain rfl := Except.ok.inj h
      simp_all
    · contradiction
  recv_le := by
    intro k s len bytes h
    rw [← Except.ok.inj h]
    exact List.length_take_le _ _
  send_le := by
    intro k s msg n h
    exact Nat.le_of_eq (Except.ok.inj h).symm
  getaddrinfo_ne := by
    intro k q l h
    rw [← Except.ok.inj h]
    exact List.cons_ne_nil _ _
  getaddrinfo_err := by simp

theorem ne_invalidSocket {fd : SOCKET} (h : 0 ≤ fd) : fd ≠ invalidSocket := by
  rintro rfl
  exact absurd h (by decide)

namespace Kernel

def log (k : Kernel) (call : Call) (ret : Int) (out : Ptr := 0) : Kernel :=
  { k with trace := ⟨call, ret, none, out⟩ :: k.trace }

def fail (k : Kernel) (call : Call) (error : Int) : Kernel :=
  { k with errno := error, trace := ⟨call, -1, some error, 0⟩ :: k.trace }

def setDesc (k : Kernel) (fd : SOCKET) (d : Option Desc) : Kernel :=
  { k with table := Function.update k.table fd d }

def setLists (k : Kernel) (lists : Memory.Heap AddrList) : Kernel := { k with lists }

/-- A call on a descriptor that answers 0 or -1: it fails on a number that is
not open, it fails when the system refuses it, and else has its effect. -/
def attempt (k : Kernel) (call : Call) (sfd : SOCKET) (refused : Option Int)
    (effect : Desc → Desc) : Int × Kernel :=
  match k.table sfd, refused with
  | none, _ => (-1, k.fail call eBadf)
  | some _, some error => (-1, k.fail call error)
  | some d, none => (0, (k.setDesc sfd (some (effect d))).log call 0)

variable (os : OS) (k : Kernel)

/-- The type of a new socket: `SOCK_NONBLOCK` and `SOCK_CLOEXEC` are no part of it. -/
def sockTypeOf (type : Int) : Int := type % 16

def socket (domain type protocol : Int) : SOCKET × Kernel :=
  match os.socket k domain type protocol with
  | .error error => (-1, k.fail (.socket domain type protocol) error)
  | .ok fd =>
    (fd, (k.setDesc fd (some {
      domain, sockType := sockTypeOf type, protocol, origin := .socket
      option := os.defaultOption k fd })).log (.socket domain type protocol) fd)

def setsockopt (sfd : SOCKET) (level optname value : Int) : Int × Kernel :=
  k.attempt (.setsockopt sfd level optname value) sfd (os.setsockopt k sfd level optname value)
    fun d => d.setOption level optname value

def optionValue (sfd : SOCKET) (d : Desc) (level optname : Int) : Int :=
  if level = solSocket ∧ optname = soType then d.sockType
  else if level = solSocket ∧ optname = soError then os.pendingError k sfd
  else d.option level optname

/-- The result and the option value. A failing call leaves the caller's
variable, initialised to -1 at every call site, as it was. -/
def getsockopt (sfd : SOCKET) (level optname : Int) : (Int × Int) × Kernel :=
  match k.table sfd, os.getsockopt k sfd level optname with
  | none, _ => ((-1, -1), k.fail (.getsockopt sfd level optname) eBadf)
  | some _, some error => ((-1, -1), k.fail (.getsockopt sfd level optname) error)
  | some d, none =>
    ((0, k.optionValue os sfd d level optname), k.log (.getsockopt sfd level optname) 0)

/-- The local address that `::bind` stores. The port lies at offset two in both
families, and the system chooses one where it is zero. -/
def assigned (sfd : SOCKET) (addr : Bytes) : Bytes :=
  if addr.getD 2 0 = 0 ∧ addr.getD 3 0 = 0 then os.ephemeral k sfd else addr

def bind (sfd : SOCKET) (addr : Bytes) (addrlen : Nat) : Int × Kernel :=
  k.attempt (.bind sfd addr addrlen) sfd (os.bind k sfd addr addrlen)
    fun d => { d with localAddr := some (k.assigned os sfd (addr.take addrlen)) }

/-- A socket without a local address may be given one by the system. -/
def listen (sfd : SOCKET) (backlog : Int) : Int × Kernel :=
  k.attempt (.listen sfd backlog) sfd (os.listen k sfd backlog)
    fun d => { d with listening := true, localAddr := some (d.localAddr.getD (os.ephemeral k sfd)) }

/-- The result and the bytes written to the caller's zeroed storage. -/
def getsockname (sfd : SOCKET) : (Int × Bytes) × Kernel :=
  match k.table sfd, os.getsockname k sfd with
  | none, _ => ((-1, []), k.fail (.getsockname sfd) eBadf)
  | some _, some error => ((-1, []), k.fail (.getsockname sfd) error)
  | some d, none => ((0, d.localAddr.getD []), k.log (.getsockname sfd) 0)

def accept (sfd : SOCKET) : SOCKET × Kernel :=
  match k.table sfd, os.accept k sfd with
  | none, _ => (-1, k.fail (.accept sfd) eBadf)
  | some _, .error error => (-1, k.fail (.accept sfd) error)
  | some d, .ok fd =>
    (fd, (k.setDesc fd (some { d with origin := .accept, listening := false })).log
      (.accept sfd) fd)

/-- The result and the bytes that overwrite the front of the buffer. -/
def recv (sfd : SOCKET) (len : Nat) : (Int × Bytes) × Kernel :=
  match k.table sfd, os.recv k sfd len with
  | none, _ => ((-1, []), k.fail (.recv sfd len) eBadf)
  | some _, .error error => ((-1, []), k.fail (.recv sfd len) error)
  | some _, .ok bytes => ((bytes.length, bytes), k.log (.recv sfd len) bytes.length)

def shutdown (sfd : SOCKET) (how : Int) : Int × Kernel :=
  k.attempt (.shutdown sfd how) sfd (os.shutdown k sfd how) id

/-- The number is free again even when closing reports an error. -/
def close (sfd : SOCKET) : Int × Kernel :=
  match k.table sfd, os.close k sfd with
  | none, _ => (-1, k.fail (.close sfd) eBadf)
  | some _, some error => (-1, (k.setDesc sfd none).fail (.close sfd) error)
  | some _, none => (0, (k.setDesc sfd none).log (.close sfd) 0)

def connect (sfd : SOCKET) (addr : Bytes) (addrlen : Nat) : Int × Kernel :=
  k.attempt (.connect sfd addr addrlen) sfd (os.connect k sfd addr addrlen) id

def send (sfd : SOCKET) (msg : Bytes) : Int × Kernel :=
  match k.table sfd, os.send k sfd msg with
  | none, _ => (-1, k.fail (.send sfd msg) eBadf)
  | some _, .error error => (-1, k.fail (.send sfd msg) error)
  | some _, .ok n => (n, k.log (.send sfd msg) n)

def getaddrinfo (query : Query) : (Int × Ptr) × Kernel :=
  match os.getaddrinfo k query with
  | .error error => ((error, 0), k.log (.getaddrinfo query) error)
  | .ok answer =>
    ((0, k.lists.next), (k.setLists (k.lists.alloc ⟨query, answer, answer⟩)).log
      (.getaddrinfo query) 0 k.lists.next)

def freeaddrinfo (res : Ptr) : Kernel :=
  (k.setLists (k.lists.free res)).log (.freeaddrinfo res) 0

/-- Write through a pointer to the first entry of a list. -/
def writeRes (res : Ptr) (write : Addrinfo → Addrinfo) : Kernel :=
  k.setLists (k.lists.modify res fun l => { l with entries := l.entries.modifyHead write })

def readErrno : Int × Kernel := (k.errno, k.log .errno k.errno)

section
variable {k} (call : Call) (ret error : Int) (out : Ptr) (fd : SOCKET) (d : Option Desc)
  (lists : Memory.Heap AddrList)

@[simp] theorem table_log : (k.log call ret out).table = k.table := rfl
@[simp] theorem lists_log : (k.log call ret out).lists = k.lists := rfl
@[simp] theorem errno_log : (k.log call ret out).errno = k.errno := rfl
@[simp] theorem trace_log : (k.log call ret out).trace = ⟨call, ret, none, out⟩ :: k.trace := rfl
@[simp] theorem table_fail : (k.fail call error).table = k.table := rfl
@[simp] theorem lists_fail : (k.fail call error).lists = k.lists := rfl
@[simp] theorem errno_fail : (k.fail call error).errno = error := rfl
@[simp] theorem trace_fail :
    (k.fail call error).trace = ⟨call, -1, some error, 0⟩ :: k.trace := rfl
@[simp] theorem table_setDesc : (k.setDesc fd d).table = Function.update k.table fd d := rfl
@[simp] theorem lists_setDesc : (k.setDesc fd d).lists = k.lists := rfl
@[simp] theorem errno_setDesc : (k.setDesc fd d).errno = k.errno := rfl
@[simp] theorem trace_setDesc : (k.setDesc fd d).trace = k.trace := rfl
@[simp] theorem table_setLists : (k.setLists lists).table = k.table := rfl
@[simp] theorem lists_setLists : (k.setLists lists).lists = lists := rfl
@[simp] theorem errno_setLists : (k.setLists lists).errno = k.errno := rfl
@[simp] theorem trace_setLists : (k.setLists lists).trace = k.trace := rfl

end

section
variable {k} {call : Call} {sfd : SOCKET} {refused : Option Int} {effect : Desc → Desc}

theorem attempt_cases :
    (∃ error, k.attempt call sfd refused effect = (-1, k.fail call error)) ∨
    ∃ d, k.table sfd = some d ∧ refused = none ∧
      k.attempt call sfd refused effect = (0, (k.setDesc sfd (some (effect d))).log call 0) := by
  unfold attempt
  split
  · exact .inl ⟨_, rfl⟩
  · exact .inl ⟨_, rfl⟩
  · exact .inr ⟨_, ‹_›, rfl, rfl⟩

theorem attempt_closed (h : k.table sfd = none) :
    k.attempt call sfd refused effect = (-1, k.fail call eBadf) := by
  simp [attempt, h]

theorem attempt_open {d : Desc} (h : k.table sfd = some d) :
    k.attempt call sfd refused effect = match refused with
      | some error => (-1, k.fail call error)
      | none => (0, (k.setDesc sfd (some (effect d))).log call 0) := by
  unfold attempt
  rw [h]
  cases refused <;> rfl

end

section
variable (os : OS) (k : Kernel) (sfd : SOCKET)

theorem getsockopt_cases (level optname : Int) :
    (∃ error, k.getsockopt os sfd level optname =
      ((-1, -1), k.fail (.getsockopt sfd level optname) error)) ∨
    ∃ d, k.table sfd = some d ∧ os.getsockopt k sfd level optname = none ∧
      k.getsockopt os sfd level optname =
        ((0, k.optionValue os sfd d level optname), k.log (.getsockopt sfd level optname) 0) := by
  unfold getsockopt
  split
  · exact .inl ⟨_, rfl⟩
  · exact .inl ⟨_, rfl⟩
  · exact .inr ⟨_, ‹_›, ‹_›, rfl⟩

theorem bind_cases (addr : Bytes) (addrlen : Nat) :
    (∃ error, k.bind os sfd addr addrlen = (-1, k.fail (.bind sfd addr addrlen) error)) ∨
    ∃ d, k.table sfd = some d ∧ os.bind k sfd addr addrlen = none ∧
      k.bind os sfd addr addrlen = (0, (k.setDesc sfd (some { d with
        localAddr := some (k.assigned os sfd (addr.take addrlen)) })).log
          (.bind sfd addr addrlen) 0) := attempt_cases

theorem listen_cases (backlog : Int) :
    (∃ error, k.listen os sfd backlog = (-1, k.fail (.listen sfd backlog) error)) ∨
    ∃ d, k.table sfd = some d ∧ os.listen k sfd backlog = none ∧
      k.listen os sfd backlog = (0, (k.setDesc sfd (some { d with
        listening := true, localAddr := some (d.localAddr.getD (os.ephemeral k sfd)) })).log
          (.listen sfd backlog) 0) := attempt_cases

theorem socket_cases (domain type protocol : Int) :
    (∃ error, k.socket os domain type protocol =
      (invalidSocket, k.fail (.socket domain type protocol) error)) ∨
    ∃ d fd, 0 ≤ fd ∧ k.table fd = none ∧ k.socket os domain type protocol =
      (fd, (k.setDesc fd (some d)).log (.socket domain type protocol) fd) := by
  unfold socket
  split
  · exact .inl ⟨_, rfl⟩
  · rename_i fd h
    exact .inr ⟨_, fd, (os.socket_free h).1, (os.socket_free h).2, rfl⟩

theorem accept_cases :
    (∃ error, k.accept os sfd = (invalidSocket, k.fail (.accept sfd) error)) ∨
    ∃ d fd, 0 ≤ fd ∧ k.table fd = none ∧ k.accept os sfd =
      (fd, (k.setDesc fd (some d)).log (.accept sfd) fd) := by
  unfold accept
  split
  · exact .inl ⟨_, rfl⟩
  · exact .inl ⟨_, rfl⟩
  · rename_i h
    exact .inr ⟨_, _, (os.accept_free h).1, (os.accept_free h).2, rfl⟩

theorem recv_cases (len : Nat) :
    (∃ error, k.recv os sfd len = ((socketError, []), k.fail (.recv sfd len) error)) ∨
    ∃ bytes : Bytes, bytes.length ≤ len ∧
      k.recv os sfd len = (((bytes.length : Int), bytes), k.log (.recv sfd len) bytes.length) := by
  unfold recv
  split
  · exact .inl ⟨_, rfl⟩
  · exact .inl ⟨_, rfl⟩
  · rename_i h
    exact .inr ⟨_, os.recv_le h, rfl⟩

/-- However `::close` ends, the number is free. Failing, it changes `errno`. -/
theorem close_effect : ∃ ret error,
    (k.close os sfd).2.table = Function.update k.table sfd none ∧
    (k.close os sfd).2.trace = ⟨.close sfd, ret, error, 0⟩ :: k.trace ∧
    (k.close os sfd).2.lists = k.lists ∧ (k.close os sfd).2.errno = error.getD k.errno := by
  unfold close
  split
  · rename_i hnone
    refine ⟨_, _, ?_, rfl, rfl, rfl⟩
    rw [table_fail, ← hnone, Function.update_eq_self]
  · exact ⟨_, _, rfl, rfl, rfl, rfl⟩
  · exact ⟨_, _, rfl, rfl, rfl, rfl⟩

theorem shutdown_effect (how : Int) : ∃ ret error,
    (∀ fd, fd ≠ sfd → (k.shutdown os sfd how).2.table fd = k.table fd) ∧
    (k.shutdown os sfd how).2.trace = ⟨.shutdown sfd how, ret, error, 0⟩ :: k.trace ∧
    (k.shutdown os sfd how).2.errno = error.getD k.errno := by
  unfold shutdown
  rcases attempt_cases with ⟨error, hret⟩ | ⟨d, _, _, hret⟩
  · rw [hret]
    exact ⟨_, _, fun _ _ => rfl, rfl, rfl⟩
  · rw [hret]
    exact ⟨_, _, fun fd hne => Function.update_of_ne hne .., rfl, rfl⟩

theorem shutdown_close_effect (how : Int) : ∃ r₂ r₃ e₂ e₃,
    ((k.shutdown os sfd how).2.close os sfd).2.table = Function.update k.table sfd none ∧
    ((k.shutdown os sfd how).2.close os sfd).2.trace =
      ⟨.close sfd, r₃, e₃, 0⟩ :: ⟨.shutdown sfd how, r₂, e₂, 0⟩ :: k.trace ∧
    ((k.shutdown os sfd how).2.close os sfd).2.errno = e₃.getD (e₂.getD k.errno) := by
  obtain ⟨r₂, e₂, htable₂, htrace₂, herrno₂⟩ := k.shutdown_effect os sfd how
  obtain ⟨r₃, e₃, htable₃, htrace₃, _, herrno₃⟩ :=
    (k.shutdown os sfd how).2.close_effect os sfd
  refine ⟨r₂, r₃, e₂, e₃, ?_, by rw [htrace₃, htrace₂], by rw [herrno₃, herrno₂]⟩
  rw [htable₃]
  funext fd
  by_cases heq : fd = sfd
  · rw [heq, Function.update_self, Function.update_self]
  · rw [Function.update_of_ne heq, Function.update_of_ne heq, htable₂ fd heq]

theorem getsockname_cases :
    (∃ error, k.getsockname os sfd = ((-1, []), k.fail (.getsockname sfd) error)) ∨
    ∃ d, k.table sfd = some d ∧
      k.getsockname os sfd = ((0, d.localAddr.getD []), k.log (.getsockname sfd) 0) := by
  unfold getsockname
  split
  · exact .inl ⟨_, rfl⟩
  · exact .inl ⟨_, rfl⟩
  · exact .inr ⟨_, ‹_›, rfl⟩

end

end Kernel
end ClientServerTcp
