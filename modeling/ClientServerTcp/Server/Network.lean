import ClientServerTcp.Library.Interference
import ClientServerTcp.Server.Loop

/-! A server in `run()` and any number of clients. A client connects, sends its
bytes in pieces of any length and shuts down; the network delivers the bytes of
a connection in order, and in whatever portions it likes. -/
namespace ClientServerTcp
open Effects Program Relation

structure Client where
  stream : Bytes
  nonempty : stream ≠ []

inductive Stage where
  | away | waiting | accepted
  deriving DecidableEq, Repr

/-- The process of the server, and the connections of its clients. -/
structure Net (ι : Type) where
  world : World
  stage : ι → Stage
  sent : ι → Nat
  read : ι → Nat
  gone : ι → Bool
  peer : SOCKET → Option ι
  /-- The connections accepted so far, the newest first. -/
  accepted : List ι

section
variable {ι : Type} [DecidableEq ι] (clients : ι → Client)

def Net.initial (world : World) : Net ι where
  world := world
  stage := fun _ => .away
  sent := fun _ => 0
  read := fun _ => 0
  gone := fun _ => false
  peer := fun _ => none
  accepted := []

def Net.unread (n : Net ι) (c : ι) : Bytes := ((clients c).stream.take (n.sent c)).drop (n.read c)

inductive ClientStep : Net ι → Net ι → Prop
  | connect {n : Net ι} (c : ι) (h : n.stage c = .away) :
    ClientStep n { n with stage := Function.update n.stage c .waiting }
  | send {n : Net ι} (c : ι) (m : Nat) (h : n.stage c ≠ .away) (hopen : n.gone c = false)
    (hm : 0 < m) (hle : n.sent c + m ≤ (clients c).stream.length) :
    ClientStep n { n with sent := Function.update n.sent c (n.sent c + m) }
  | shutdown {n : Net ι} (c : ι) (h : n.stage c ≠ .away)
    (hsent : n.sent c = (clients c).stream.length) :
    ClientStep n { n with gone := Function.update n.gone c true }

/-- The server's operations. `accept` takes a connection that waits, and `recv`
takes a non-empty prefix of what has arrived; there are no transport errors.
Nothing is assumed of the other calls. -/
def ServerStep : Answers Op.Res (Net ι)
  | .accept sfd, n, answer, n' => ∃ os c fd, n.stage c = .waiting ∧
    os.accept n.world.kernel sfd = .ok fd ∧ answer = (step os (.accept sfd) n.world).1 ∧
    n' = { n with
      world := (step os (.accept sfd) n.world).2
      stage := Function.update n.stage c .accepted
      peer := Function.update n.peer fd (some c)
      accepted := c :: n.accepted }
  | .recv fd len, n, answer, n' => ∃ os c bytes, n.peer fd = some c ∧ bytes ≠ [] ∧
    bytes <+: n.unread clients c ∧ os.recv n.world.kernel fd len = .ok bytes ∧
    answer = (step os (.recv fd len) n.world).1 ∧
    n' = { n with
      world := (step os (.recv fd len) n.world).2
      read := Function.update n.read c (n.read c + bytes.length) }
  | op, n, answer, n' => ∃ os, answer = (step os op n.world).1 ∧
    n' = { n with world := (step os op n.world).2 }

end

/-- A process that holds a server with an open socket. -/
structure ReadyServer where
  world : World
  server : CServerTCP
  socket : CSocket
  object : world.objs server.mListenSfd = some socket
  opened : (world.kernel.table socket.mSfd).isSome

section
variable {ι : Type} [DecidableEq ι] (clients : ι → Client)

/-- `run()` has returned if and only if a connection was accepted whose whole
stream is the byte 'Q', and nothing was accepted after the first such connection. -/
def Net.Decided (value : Option Unit) (n : Net ι) : Prop :=
  (value = some () ↔ ∃ c ∈ n.accepted, (clients c).stream = [charQ]) ∧
    ∀ c older, n.accepted = c :: older → ∀ c' ∈ older, (clients c').stream ≠ [charQ]

/-- The server waits for a client: no connection is there to be accepted, or
nothing has arrived on the connection it reads from. -/
def Net.Waits (n : Net ι) : Op → Prop
  | .accept _ => (∀ c, n.stage c ≠ .waiting) ∨ ∀ fd, 0 ≤ fd → (n.world.kernel.table fd).isSome
  | .recv fd _ => ∃ c, n.peer fd = some c ∧ n.unread clients c = []
  | _ => False

/-- In every interleaving and after any number of rounds, the streams of the
accepted connections have decided. Until then the server goes on unless it waits. -/
def DecidesByStream : Prop :=
  ∀ (start : ReadyServer) (fuel : Nat) (p : Prog (Option Unit)) (n : Net ι),
    Reaches (ServerStep clients) (ClientStep clients)
      (CServerTCP.run start.server fuel, Net.initial start.world) (p, n) →
    (∀ error, p ≠ .raise error) ∧ (∀ value, p = .done value → n.Decided clients value) ∧
    ∀ op next, p = .call op next →
      n.Waits clients op ∨ ∃ answer n', ServerStep clients op n answer n'

structure Net.Steady (lfd : SOCKET) (this : CServerTCP) (n : Net ι) : Prop where
  object : ((n.world.objs this.mListenSfd).getD {}).mSfd = lfd
  opened : (n.world.kernel.table lfd).isSome
  unread : ∀ c, n.stage c ≠ .accepted → c ∉ n.accepted ∧ n.read c = 0

variable {clients} {lfd : SOCKET} {this : CServerTCP}

theorem Net.Steady.env {n n' : Net ι} (h : n.Steady lfd this) (hstep : ClientStep clients n n') :
    n'.Steady lfd this ∧ n'.accepted = n.accepted ∧ n'.peer = n.peer ∧ n'.read = n.read ∧
      n'.world = n.world := by
  cases hstep with
  | connect c hc =>
    refine ⟨⟨h.object, h.opened, ?_⟩, rfl, rfl, rfl, rfl⟩
    intro c' hc'
    by_cases heq : c' = c
    · exact h.unread c' (by simp [heq, hc])
    · exact h.unread c' (by simpa [heq] using hc')
  | send c m _ _ _ _ => exact ⟨⟨h.object, h.opened, h.unread⟩, rfl, rfl, rfl, rfl⟩
  | shutdown c _ _ => exact ⟨⟨h.object, h.opened, h.unread⟩, rfl, rfl, rfl, rfl⟩

structure Net.Between (clients : ι → Client) (lfd : SOCKET) (this : CServerTCP) (n : Net ι) : Prop
    extends n.Steady lfd this where
  others : ∀ c ∈ n.accepted, (clients c).stream ≠ [charQ]

structure Net.Within (clients : ι → Client) (lfd : SOCKET) (this : CServerTCP) (fd : SOCKET)
    (n : Net ι) : Prop extends n.Steady lfd this where
  valid : fd ≠ invalidSocket
  other : fd ≠ lfd
  connection : (n.world.kernel.table fd).isSome
  current : ∃ c older, n.accepted = c :: older ∧ n.peer fd = some c ∧ n.read c = 0 ∧
    ∀ c' ∈ older, (clients c').stream ≠ [charQ]

structure Net.After (clients : ι → Client) (lfd : SOCKET) (this : CServerTCP) (bytes : Bytes)
    (n : Net ι) : Prop extends n.Steady lfd this where
  nonempty : bytes ≠ []
  length_le : bytes.length ≤ bufferSize - 1
  current : ∃ c older, n.accepted = c :: older ∧ bytes <+: (clients c).stream ∧
    ∀ c' ∈ older, (clients c').stream ≠ [charQ]

theorem Net.Between.env {n n' : Net ι} (h : n.Between clients lfd this)
    (hstep : ClientStep clients n n') : n'.Between clients lfd this := by
  obtain ⟨hsteady, haccepted, _⟩ := h.toSteady.env hstep
  exact ⟨hsteady, haccepted ▸ h.others⟩

theorem Net.Within.env {fd : SOCKET} {n n' : Net ι} (h : n.Within clients lfd this fd)
    (hstep : ClientStep clients n n') : n'.Within clients lfd this fd := by
  obtain ⟨hsteady, haccepted, hpeer, hread, hworld⟩ := h.toSteady.env hstep
  refine ⟨hsteady, h.valid, h.other, hworld ▸ h.connection, ?_⟩
  rw [haccepted, hpeer, hread]
  exact h.current

theorem Net.After.env {bytes : Bytes} {n n' : Net ι} (h : n.After clients lfd this bytes)
    (hstep : ClientStep clients n n') : n'.After clients lfd this bytes := by
  obtain ⟨hsteady, haccepted, _⟩ := h.toSteady.env hstep
  exact ⟨hsteady, h.nonempty, h.length_le, haccepted ▸ h.current⟩

/-! ## One round -/

theorem Net.Steady.load {n n' : Net ι} {answer : SOCKET} (h : n.Steady lfd this)
    (hstep : ServerStep clients (.load this.mListenSfd .mSfd) n answer n') :
    answer = lfd ∧ n' = n := by
  obtain ⟨os, rfl, rfl⟩ := hstep
  exact ⟨h.object, rfl⟩

theorem Net.Between.accept {n n' : Net ι} {fd : SOCKET} (h : n.Between clients lfd this)
    (hstep : ServerStep clients (.accept lfd) n fd n') : n'.Within clients lfd this fd := by
  obtain ⟨os, c, fd', hwaiting, hok, rfl, rfl⟩ := hstep
  obtain ⟨hfd, hfree⟩ := os.accept_free hok
  obtain ⟨d, hd⟩ := Option.isSome_iff_exists.mp h.opened
  have haccept : n.world.kernel.accept os lfd = (fd', (n.world.kernel.setDesc fd'
      (some { d with origin := .accept, listening := false })).log (.accept lfd) fd') := by
    simp only [Kernel.accept, hd, hok]
  have hne : fd' ≠ lfd := by
    rintro rfl
    simp [hfree] at hd
  simp only [step, World.syscall, haccept]
  exact {
    object := h.object
    opened := by simp [hne.symm, hd]
    unread := by
      intro c' hc'
      by_cases heq : c' = c
      · simp [heq] at hc'
      · have hunread := h.unread c' (by simpa [heq] using hc')
        exact ⟨by simp [heq, hunread.1], hunread.2⟩
    valid := ne_invalidSocket hfd
    other := hne
    connection := by simp
    current := ⟨c, n.accepted, rfl, by simp, (h.unread c (by simp [hwaiting])).2, h.others⟩ }

theorem Net.Within.recv {n n' : Net ι} {fd : SOCKET} {answer : Int × Bytes}
    (h : n.Within clients lfd this fd)
    (hstep : ServerStep clients (.recv fd (bufferSize - 1)) n answer n') :
    answer.1 = answer.2.length ∧ n'.After clients lfd this answer.2 := by
  obtain ⟨os, c, bytes, hpeer, hne, hprefix, hok, rfl, rfl⟩ := hstep
  obtain ⟨c', older, haccepted, hcurrent, hread, holder⟩ := h.current
  obtain rfl : c' = c := by simpa [hcurrent] using hpeer
  obtain ⟨d, hd⟩ := Option.isSome_iff_exists.mp h.connection
  have hrecv : n.world.kernel.recv os fd (bufferSize - 1) =
      (((bytes.length : Int), bytes),
        n.world.kernel.log (.recv fd (bufferSize - 1)) bytes.length) := by
    simp only [Kernel.recv, hd, hok]
  have hstream : bytes <+: (clients c').stream := by
    rw [Net.unread, hread, List.drop_zero] at hprefix
    exact hprefix.trans (List.take_prefix _ _)
  simp only [step, World.syscall, hrecv]
  refine ⟨trivial, ⟨⟨h.object, h.opened, ?_⟩, hne, os.recv_le hok, c', older, haccepted, hstream,
    holder⟩⟩
  intro c hc
  have hunread := h.unread c hc
  have heq : c ≠ c' := by
    rintro rfl
    exact hunread.1 (by simp [haccepted])
  exact ⟨hunread.1, by simpa [heq] using hunread.2⟩

omit [DecidableEq ι] in
private theorem Net.After.call {n n' : Net ι} {bytes : Bytes} {op : Op} {os : OS}
    (h : n.After clients lfd this bytes)
    (hobjs : (step os op n.world).2.objs = n.world.objs)
    (hopened : ((step os op n.world).2.kernel.table lfd).isSome)
    (hn' : n' = { n with world := (step os op n.world).2 }) : n'.After clients lfd this bytes := by
  subst hn'
  exact ⟨⟨hobjs ▸ h.object, hopened, h.unread⟩, h.nonempty, h.length_le, h.current⟩

theorem Net.After.shutdown {n n' : Net ι} {bytes : Bytes} {fd : SOCKET} {answer : Int}
    (h : n.After clients lfd this bytes)
    (hstep : ServerStep clients (.shutdown fd shutRdwr) n answer n') :
    n'.After clients lfd this bytes := by
  obtain ⟨os, _, hn'⟩ := hstep
  refine h.call rfl ?_ hn'
  have hopened := h.opened
  simp only [step, World.syscall, World.kernel_withKernel, Kernel.shutdown]
  rcases Kernel.attempt_cases with ⟨error, hret⟩ | ⟨d, _, _, hret⟩
  · rw [hret]
    exact hopened
  · rw [hret]
    by_cases heq : lfd = fd <;> simp [heq, hopened]

theorem Net.After.close {n n' : Net ι} {bytes : Bytes} {fd : SOCKET} {answer : Int}
    (h : n.After clients lfd this bytes) (hne : fd ≠ lfd)
    (hstep : ServerStep clients (.close fd) n answer n') : n'.After clients lfd this bytes := by
  obtain ⟨os, _, hn'⟩ := hstep
  refine h.call rfl ?_ hn'
  obtain ⟨_, _, htable, _⟩ := n.world.kernel.close_effect os fd
  simp only [step, World.syscall, World.kernel_withKernel, htable, Function.update_of_ne hne.symm]
  exact h.opened

/-! ## The loop -/

variable (clients)

def OnlyQ : Prop := ∀ c rest, (clients c).stream = charQ :: rest → rest = []

def Net.AtTest (lfd : SOCKET) (this : CServerTCP) (l : CServerTCP.Locals) (n : Net ι) : Prop :=
  if CServerTCP.looping l then n.Between clients lfd this
  else n.Steady lfd this ∧ ∃ c older, n.accepted = c :: older ∧ (clients c).stream = [charQ] ∧
    ∀ c' ∈ older, (clients c').stream ≠ [charQ]

variable {clients}

theorem Net.AtTest.env {l : CServerTCP.Locals} {n n' : Net ι} (h : n.AtTest clients lfd this l)
    (hstep : ClientStep clients n n') : n'.AtTest clients lfd this l := by
  unfold Net.AtTest at h ⊢
  split
  · rename_i hl
    rw [if_pos hl] at h
    exact h.env hstep
  · rename_i hl
    rw [if_neg hl] at h
    obtain ⟨hsteady, haccepted, _⟩ := h.1.env hstep
    exact ⟨hsteady, haccepted ▸ h.2⟩

omit [DecidableEq ι] in
theorem Net.After.atTest {n : Net ι} {bytes : Bytes} (hclients : OnlyQ clients)
    (h : n.After clients lfd this bytes) (l : CServerTCP.Locals) (hlt : bytes.length < bufferSize) :
    n.AtTest clients lfd this (l.after bytes hlt) := by
  obtain ⟨c, older, haccepted, hprefix, holder⟩ := h.current
  unfold Net.AtTest
  rw [CServerTCP.looping_after l hlt h.nonempty]
  by_cases hquit : bytes = [charQ]
  · obtain ⟨rest, hstream⟩ := hprefix
    have hrest : rest = [] := hclients c rest (by rw [← hstream, hquit]; rfl)
    rw [if_neg (by simp [hquit])]
    exact ⟨h.toSteady, c, older, haccepted, by rw [← hstream, hquit, hrest]; rfl, holder⟩
  · rw [if_pos (by simpa using hquit)]
    refine ⟨h.toSteady, ?_⟩
    intro c' hc'
    rw [haccepted] at hc'
    rcases List.mem_cons.mp hc' with rfl | hc'
    · intro hstream
      rw [hstream] at hprefix
      rcases List.prefix_cons_iff.mp hprefix with hnil | ⟨rest, hbytes, hrest⟩
      · exact h.nonempty hnil
      · rw [List.prefix_nil.mp hrest] at hbytes
        exact hquit hbytes
    · exact holder c' hc'

def OS.accepting (fd : SOCKET) : OS := { OS.obliging with
  accept := fun k _ => if 0 ≤ fd ∧ (k.table fd).isNone then .ok fd else .error 24
  accept_free := by
    intro k s fd' h
    split at h
    · obtain rfl := Except.ok.inj h
      simp_all
    · contradiction }

def OS.delivering (b : UInt8) : OS := { OS.obliging with
  recv := fun _ _ len => .ok (List.take len [b])
  recv_le := by
    intro k s len bytes h
    rw [← Except.ok.inj h]
    exact List.length_take_le _ _ }

def Net.Asks (op : Op) (n : Net ι) : Prop :=
  match op with
  | .recv fd len => (∃ c, n.peer fd = some c) ∧ 0 < len
  | _ => True

theorem always_serve (hclients : OnlyQ clients) (l : CServerTCP.Locals) {n : Net ι}
    (h : n.Between clients lfd this) :
    (this.serve l).always (ServerStep clients) (ClientStep clients) Net.Asks
      (fun l' n' => n'.AtTest clients lfd this l') (fun _ _ => False) n := by
  unfold CServerTCP.serve
  simp only [CSocket.operatorSOCKET, closeSocketP]
  refine always_perform (P := fun n => n.Between clients lfd this) (fun h => h.env) h
    (fun _ _ => trivial) ?_
  intro n₁ sfd n₁' h₁ hload
  obtain ⟨rfl, rfl⟩ := h₁.load hload
  refine always_perform (P := fun n => n.Between clients sfd this) (fun h => h.env) h₁
    (fun _ _ => trivial) ?_
  intro n₂ fd n₂' h₂ haccept
  have h₃ := h₂.accept haccept
  rw [if_neg h₃.valid]
  refine always_perform (P := fun n => n.Within clients sfd this fd) (fun h => h.env) h₃ ?_ ?_
  · intro n₃ h₃
    obtain ⟨c, _, _, hpeer, _⟩ := h₃.current
    exact ⟨⟨c, hpeer⟩, by decide⟩
  intro n₃ answer n₃' h₃ hrecv
  obtain ⟨hvalread, h₄⟩ := h₃.recv hrecv
  obtain ⟨valread, bytes⟩ := answer
  refine always_perform (P := fun n => n.After clients sfd this bytes) (fun h => h.env) h₄
    (fun _ _ => trivial) ?_
  intro n₄ _ n₄' h₄ hshutdown
  have h₅ := h₄.shutdown hshutdown
  refine always_perform (P := fun n => n.After clients sfd this bytes) (fun h => h.env) h₅
    (fun _ _ => trivial) ?_
  intro n₅ _ n₅' h₅ hclose
  have h₆ := h₅.close h₃.other hclose
  -- the message is neither empty nor too long
  have hlength := h₆.length_le
  have hpositive := List.length_pos_iff.mpr h₆.nonempty
  have hsize : bufferSize = 1024 := rfl
  have hlt : bytes.length < bufferSize := by omega
  obtain rfl : valread = (bytes.length : Int) := hvalread
  dsimp only
  rw [if_neg (by omega), if_neg (by simp only [socketError]; omega), Buffer.write_of_lt _ hlt]
  exact always_pure (fun h hstep => h.env hstep) (h₆.atTest hclients l hlt)

omit [DecidableEq ι] in
theorem Net.AtTest.decided {l : CServerTCP.Locals} {n : Net ι} (h : n.AtTest clients lfd this l) :
    n.Decided clients (if CServerTCP.looping l then none else some ()) := by
  unfold Net.AtTest at h
  by_cases hl : CServerTCP.looping l = true
  · rw [if_pos hl] at h ⊢
    constructor
    · simpa using h.others
    · intro c older haccepted c' hc'
      exact h.others c' (by simp [haccepted, hc'])
  · rw [if_neg hl] at h ⊢
    obtain ⟨_, c, older, haccepted, hstream, holder⟩ := h
    constructor
    · simpa using ⟨c, by simp [haccepted], hstream⟩
    · intro c' older' haccepted'
      rw [haccepted, List.cons.injEq] at haccepted'
      rw [← haccepted'.2]
      exact holder

theorem Net.Decided.env {value : Option Unit} {n n' : Net ι} (h : n.Decided clients value)
    (hstep : ClientStep clients n n') : n'.Decided clients value := by
  cases hstep <;> exact h

theorem Net.Asks.goesOn {op : Op} {n : Net ι} (h : n.Asks op) :
    n.Waits clients op ∨ ∃ answer n', ServerStep clients op n answer n' := by
  cases op with
  | accept sfd =>
    by_cases hwait : n.Waits clients (.accept sfd)
    · exact .inl hwait
    · simp only [Net.Waits, not_or, not_forall, Classical.not_not] at hwait
      obtain ⟨⟨c, hc⟩, fd, hfd, hfree⟩ := hwait
      exact .inr ⟨_, _, .accepting fd, c, fd, hc, if_pos ⟨hfd, by simpa using hfree⟩, rfl, rfl⟩
  | recv fd len =>
    obtain ⟨⟨c, hpeer⟩, hlen⟩ := h
    cases hunread : n.unread clients c with
    | nil => exact .inl ⟨c, hpeer, hunread⟩
    | cons b rest =>
      have hprefix : [b] <+: n.unread clients c := ⟨rest, by rw [hunread]; rfl⟩
      have hone : List.take len [b] = [b] := List.take_of_length_le hlen
      exact .inr ⟨_, _, .delivering b, c, [b], hpeer, List.cons_ne_nil _ _, hprefix,
        congrArg Except.ok hone, rfl, rfl⟩
  | _ => exact .inr ⟨_, _, .obliging, rfl, rfl⟩

/-- When no client sends more after a leading 'Q', the streams decide. -/
theorem decides_of_onlyQ (hclients : OnlyQ clients) : DecidesByStream clients := by
  intro start fuel p n hreaches
  have hstart :
      (Net.initial start.world : Net ι).Between clients start.socket.mSfd start.server := {
    object := by simp [Net.initial, start.object]
    opened := start.opened
    unread := by simp [Net.initial]
    others := by simp [Net.initial] }
  have hrun : (CServerTCP.run start.server fuel).always (ServerStep clients) (ClientStep clients)
      Net.Asks (fun value n => n.Decided clients value) (fun _ _ => False) (Net.initial start.world) := by
    refine always_perform (P := fun n => n.Between clients start.socket.mSfd start.server)
      (fun h => h.env) hstart (fun _ _ => trivial) ?_
    intro n₁ _ n₂ h₁ hready
    have h₂ : n₂.Between clients start.socket.mSfd start.server := by
      obtain ⟨os, _, rfl⟩ := hready
      exact ⟨⟨h₁.object, h₁.opened, h₁.unread⟩, h₁.others⟩
    apply always_bind
    apply always_mono (always_whileLoop (fun h hstep => h.env hstep)
      (fun l n h hl => always_serve hclients l (by simpa [Net.AtTest, hl] using h)) fuel {} n₂
      (by simpa [Net.AtTest, CServerTCP.looping] using h₂)) ?_ (fun _ _ h => h)
    intro result n₃ h₃
    have hdecided : n₃.Decided clients (result.map fun _ => ()) := by
      cases result with
      | none =>
        obtain ⟨l, hl, htest⟩ := h₃
        simpa [hl] using htest.decided
      | some l =>
        obtain ⟨hl, htest⟩ := h₃
        simpa [hl] using htest.decided
    exact always_pure (fun h hstep => Net.Decided.env h hstep) hdecided
  have hend := always_reaches hrun hreaches
  cases p with
  | done value =>
    refine ⟨by simp, ?_, by simp⟩
    rintro _ ⟨rfl⟩
    exact hend n .refl
  | raise error => exact (hend n .refl).elim
  | call op next =>
    refine ⟨by simp, by simp, ?_⟩
    rintro _ _ ⟨rfl⟩
    exact Net.Asks.goesOn (hend n .refl).1

/-! ## A message that only begins with the byte -/

def ReadyServer.obliging : ReadyServer where
  world := ((CServerTCP.construct "4433").run (step .obliging) .initial).2
  server := ⟨0⟩
  socket := { mSfd := 3, mAf := afInet6, mBound := true, mListen := true }
  object := rfl
  opened := rfl

theorem reaches_quit {c : ι} {rest : Bytes} (hstream : (clients c).stream = charQ :: rest) :
    ∃ n : Net ι, Reaches (ServerStep clients) (ClientStep clients)
      (CServerTCP.run ReadyServer.obliging.server 1, Net.initial ReadyServer.obliging.world)
      (.done (some ()), n) ∧ n.accepted = [c] := by
  refine ⟨_, .head (.env _ (.connect c rfl)) <|
    .head (.env _ (.send c 1 (by simp) rfl Nat.one_pos (by simp [Net.initial, hstream]))) <|
    .head (.call _ ⟨.obliging, rfl, rfl⟩) <|
    .head (.call _ ⟨.obliging, rfl, rfl⟩) <|
    .head (.call _ ⟨.obliging, c, 4, by simp, rfl, rfl, rfl⟩) <|
    .head (.call _ ⟨.obliging, c, [charQ], rfl, by simp, ?_, rfl, rfl, rfl⟩) <|
    .head (.call _ ⟨.obliging, rfl, rfl⟩) <|
    .head (.call _ ⟨.obliging, rfl, rfl⟩) .refl, rfl⟩
  simp [Net.unread, Net.initial, hstream]

theorem onlyQ_of_decides (h : DecidesByStream clients) : OnlyQ clients := by
  intro c rest hstream
  obtain ⟨n, hreaches, haccepted⟩ := reaches_quit hstream
  obtain ⟨hquit, _⟩ := (h .obliging 1 _ n hreaches).2.1 (some ()) rfl
  obtain ⟨c', hc', hstream'⟩ := hquit.mp rfl
  rw [haccepted, List.mem_singleton] at hc'
  rw [hc', hstream] at hstream'
  exact (List.cons.inj hstream').2

/-- The streams decide in every interleaving exactly when no client sends more
after a leading 'Q'. -/
theorem decidesByStream_iff (clients : ι → Client) : DecidesByStream clients ↔ OnlyQ clients :=
  ⟨onlyQ_of_decides, decides_of_onlyQ⟩

/-- A client that sends "Quit" stops the server when the first byte arrives alone. -/
theorem quit_not_decidesByStream :
    ¬ DecidesByStream fun _ : Unit => ⟨[charQ, 0x75, 0x69, 0x74], List.cons_ne_nil _ _⟩ := by
  intro h
  have hrest := onlyQ_of_decides h () _ rfl
  simp at hrest

end
end ClientServerTcp
