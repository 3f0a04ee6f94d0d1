import ClientServerTcp.Server.Network
import ClientServerTcp.Threads.Leaks
import ClientServerTcp.Threads.Turns

/-! A server and the threads that tell it to quit: `quit_server` and `run()` are
the two operations of a counting semaphore. What counts is the messages that are
pending. -/
namespace ClientServerTcp
open Effects Program Relation

/-- What a thread is told. A server is watched for one round at least. -/
inductive Job where
  | run (fuel : Nat)
  | quitServer
  deriving DecidableEq, Repr

def Job.code (this : CServerTCP) : Job → Prog (Option Unit)
  | .run fuel => this.run (fuel + 1)
  | .quitServer => do
    ClientServerTcp.quitServer
    return some ()

/-- Whoever tells a server to quit adds a message, or fails and adds none; a
server that returns has taken one, and it fails only if it cannot accept. -/
inductive Semaphore : Job → Except Exn (Option Unit) → Nat → Nat → Prop
  | quit (n : Nat) : Semaphore .quitServer (.ok (some ())) n (n + 1)
  | noQuit (error : Exn) (n : Nat) : Semaphore .quitServer (.error error) n n
  | stop (fuel n : Nat) : Semaphore (.run fuel) (.ok (some ())) (n + 1) n
  | noAccept (fuel : Nat) (errno : Int) (n : Nat) :
    Semaphore (.run fuel) (.error (.thrown (.withErrno .msg1022 errno))) n n

def Op.Accepts : (op : Op) → op.Res → Prop
  | .accept _, fd => fd ≠ invalidSocket
  | _, _ => True

private def OS.refusing : OS := { OS.obliging with connect := fun _ _ _ _ => some 111 }

namespace Manned

variable {ι : Type} [DecidableEq ι] {base : Hand} {lines : ι → Line} {s : Host ι} {i : ι} {op : Op}
  {fd : SOCKET}

omit [DecidableEq ι] in
private theorem open_descriptor (h : Manned base lines s)
    (hfd : (base.sees (lines i).1 (.descriptor fd)).isSome) :
    ∃ d, (s.process.view i).kernel.table fd = some d := by
  have halive := h.custody.alive hfd
  rw [World.isSome_inventory_descriptor] at halive
  exact Option.isSome_iff_exists.mp halive

theorem goes_on (h : Manned base lines s) (hmay : LineMay base op (lines i)) (hfd : 0 ≤ fd)
    (hfree : s.process.world.kernel.table fd = none)
    (haccept : ∀ sfd, op = .accept sfd →
      ∃ (l : Nat) (link : Link), s.wiring.links[l]? = some link ∧ link.taken = false)
    (hrecv : ∀ fd len, op = .recv fd len → ∃ (l : Nat) (link : Link),
      s.wiring.accepted fd = some l ∧ s.wiring.links[l]? = some link ∧ link.unread = [charQ]) :
    ∃ answer t, HostStep i op s answer t ∧ op.Accepts answer := by
  obtain ⟨hhand, hrole⟩ := hmay
  cases op with
  | lock | unlock => exact hrole.elim
  | connect fd' addr addrlen =>
    refine ⟨_, ⟨_, s.wiring⟩, ⟨⟨.refusing, rfl, rfl⟩, ?_⟩, trivial⟩
    have hrefused : ((s.process.view i).kernel.connect .refusing fd' addr addrlen).1 ≠ 0 := by
      have hcases := @Kernel.attempt_cases (s.process.view i).kernel (.connect fd' addr addrlen) fd'
        (some 111) id
      rcases hcases with ⟨error, hrefused⟩ | ⟨_, _, hnone, _⟩
      · exact (congrArg Prod.fst hrefused).trans_ne (by simp)
      · contradiction
    exact (if_neg hrefused).mpr rfl
  | send fd' msg =>
    obtain ⟨hcalling, rfl⟩ := hrole
    obtain ⟨l, link, hl, hlink, hwire⟩ := h.wired.caller hcalling
    obtain ⟨hended, hcut⟩ : link.ended = false ∧ link.cut = false := by
      rcases h.wired.sent hlink with hsent | ⟨_, hended, hcut, _⟩
      · simp [hwire] at hsent
      · exact ⟨hended, hcut⟩
    obtain ⟨d, hd⟩ := h.open_descriptor (Hand.sees_own (h.ends (by rw [hcalling, Role.fd])))
    have hsent : (s.process.view i).kernel.send .obliging fd' [charQ] =
        (1, (s.process.view i).kernel.log (.send fd' [charQ]) 1) := by
      rw [Kernel.send, hd]
      rfl
    refine ⟨_, ⟨_, s.wiring.put l { link with wire := link.wire ++ [charQ] }⟩,
      ⟨⟨.obliging, rfl, rfl⟩, ?_⟩, trivial⟩
    simp only [Wires, Wiring.dials_eq_some.mpr ⟨hl, hlink⟩]
    rw [if_neg (by simp [hended, hcut])]
    exact ⟨congrArg Prod.fst hsent, trivial⟩
  | accept sfd =>
    obtain ⟨-, hsfd⟩ := hrole
    obtain ⟨l, link, hlink, htaken⟩ := haccept sfd rfl
    obtain ⟨d, hd⟩ := h.open_descriptor (hhand.uses (.descriptor sfd) (by simp [Op.uses, hsfd]))
    have haccepted : ((s.process.view i).kernel.accept (.accepting fd) sfd).1 = fd := by
      have hgives : (OS.accepting fd).accept (s.process.view i).kernel sfd = .ok fd :=
        if_pos ⟨hfd, Option.isNone_iff_eq_none.mpr hfree⟩
      rw [Kernel.accept, hd, hgives]
    have hvalid := ne_invalidSocket hfd
    refine ⟨fd, ⟨_, s.wiring.take fd l link⟩, ⟨⟨.accepting fd, haccepted.symm, rfl⟩, ?_⟩, hvalid⟩
    exact (if_neg hvalid).mpr ⟨l, link, hlink, htaken, rfl⟩
  | recv fd' len =>
    obtain ⟨l, link, hl, hlink, hunread⟩ := hrecv fd' len rfl
    obtain ⟨hserving, hlen⟩ := hrole
    obtain ⟨d, hd⟩ := h.open_descriptor (Hand.sees_own (h.ends (by rw [hserving, Role.fd])))
    have hread : ((s.process.view i).kernel.recv .obliging fd' len).1 = (1, [charQ]) := by
      have hgives : OS.obliging.recv (s.process.view i).kernel fd' len = .ok [charQ] :=
        congrArg Except.ok (List.take_of_length_le hlen)
      rw [Kernel.recv, hd, hgives]
      rfl
    refine ⟨(1, [charQ]), ⟨_, s.wiring.put l { link with read := link.read + 1 }⟩,
      ⟨⟨.obliging, hread.symm, rfl⟩, ?_⟩, trivial⟩
    simp only [Wires, Wiring.hears_eq_some.mpr ⟨hl, hlink⟩]
    exact ⟨rfl, hunread ▸ List.prefix_rfl, fun hnil => absurd hnil (List.cons_ne_nil _ _), rfl⟩
  | _ => exact ⟨_, ⟨_, _⟩, ⟨⟨.obliging, rfl, rfl⟩, rfl⟩, trivial⟩

end Manned

/-- A thread that has nothing to do: it has no objects of its own. -/
def AtRest (own : Line) : Prop := Scope ∅ ∅ own.1 ∧ own.2 = .free

section
variable {ι : Type} [DecidableEq ι] (b : Start) (errno : ι → Int) (o : b.sharing.Object)

/-- The threads come to this: some of them run the server that listens on a
shared socket, and some tell it to quit. Whoever connects, connects to this
server, and there was no connection at the start. -/
abbrev Start.Serves (c : Pool Op.Res Exn (Option Unit) (Host ι) ι Job) : Prop :=
  ReflTransGen (Pool.Step (Job.code ⟨o.1⟩) HostStep) (.start ⟨b.first errno, {}⟩) c

omit [DecidableEq ι] in
private theorem Start.listens {own : Hand} (h : Scope ∅ ∅ own) : ∃ lfd, lfd ≠ invalidSocket ∧
    b.world.inventory.sees own (.object o.1) = some lfd ∧
      (b.world.inventory.sees own (.descriptor lfd)).isSome := by
  obtain ⟨s, hs, hvalid, -⟩ := b.shared_holds o
  obtain ⟨lfd, hobject, hopen⟩ := h.usable_base (b.usable o.1 o.2)
  have hsame : b.world.inventory.sees own (.object o.1) = some s.mSfd := by
    rw [Hand.sees, h.eq_none, Option.none_or]
    exact World.inventory_object.mpr ⟨s, hs, rfl⟩
  obtain rfl : s.mSfd = lfd := Option.some.inj (hsame.symm.trans hobject)
  exact ⟨_, hvalid, hobject, hopen hvalid⟩

private theorem pointed : Pointed (ι := ι) (Job.code ⟨o.1⟩) HostStep
    (LineStep b.world.inventory) (LineMay b.world.inventory) quitEffect
    (Manned b.world.inventory) (fun s => s.wiring.pending) AtRest Semaphore
    fun _ => .ok (some ()) where
  step _ _ _ _ _ _ h hmay hstep := h.step hmay hstep
  code r := by
    rintro ⟨own, role⟩ ⟨hscope, rfl⟩
    cases r with
    | run fuel =>
      obtain ⟨lfd, hlfd, hobject, hopen⟩ := b.listens o hscope
      refine ((CServerTCP.turns_run ⟨o.1⟩ hlfd hobject hopen (.stop fuel) fuel).conseq
        (fun _ h => h) ?_ ?_) ((own, .free), false) ⟨rfl, rfl, rfl⟩
      · rintro _ ⟨⟨_, _⟩, _⟩ ⟨rfl, rfl, rfl, rfl⟩
        exact ⟨⟨hscope, rfl⟩, rfl⟩
      · rintro _ ⟨⟨_, _⟩, _⟩ ⟨⟨errno, rfl⟩, rfl, rfl, rfl⟩
        exact ⟨⟨hscope, rfl⟩, .noAccept fuel errno⟩
    | quitServer =>
      have hcode : Turns b.world.inventory (Semaphore .quitServer) (.ok (some ()))
          (At (Scope ∅ ∅) .free false) (Job.code ⟨o.1⟩ .quitServer)
          (fun value s => value = some () ∧ At (Scope ∅ ∅) .free true s)
          fun _ => At (Scope ∅ ∅) .free false :=
        Triple.bind (turns_quitServer .quit) fun _ => Triple.pure fun _ hs => ⟨rfl, hs⟩
      refine (hcode.conseq (fun _ h => h) ?_ ?_) ((own, .free), false) ⟨hscope, rfl, rfl⟩
      · rintro _ ⟨⟨_, _⟩, _⟩ ⟨rfl, hend, rfl, rfl⟩
        exact ⟨⟨hend, rfl⟩, rfl⟩
      · rintro error ⟨⟨_, _⟩, _⟩ ⟨hend, rfl, rfl⟩
        exact ⟨⟨hend, rfl⟩, .noQuit error⟩

omit [DecidableEq ι] in
private theorem manned : Manned (ι := ι) b.world.inventory (fun _ => (fun _ => none, .free))
    ⟨b.first errno, {}⟩ where
  custody := b.custody errno
  wired := .start
  ends h := by contradiction

variable {c : Pool Op.Res Exn (Option Unit) (Host ι) ι Job} (hc : b.Serves errno o c)
include hc

/-- The calls of `run()` and `quit_server` are linearizable as the operations of
a semaphore: in every order of the steps each call that returns takes effect
once, and no other call does. -/
theorem quits_are_counted : Linearizes Semaphore 0 c.history c.state.wiring.pending :=
  (pointed b o).history_linearizes (manned b errno) (fun _ => ⟨Scope.nothing, rfl⟩) hc

/-- In every state each thread may do what it is about to do, and one that has to
send or to read is in the middle of a call. -/
private theorem crew : ∃ lines, Manned b.world.inventory lines c.state ∧
    (∀ i op, c.next i = some op → LineMay b.world.inventory op (lines i)) ∧
      ∀ i, (lines i).2 ≠ .free → ∃ op, c.next i = some op := by
  obtain ⟨lines, hmanned, hknows⟩ :=
    (pointed b o).knows (manned b errno) (fun _ => ⟨Scope.nothing, rfl⟩) hc
  refine ⟨lines, hmanned, ?_, ?_⟩
  · intro i op hnext
    cases hactive : c.active i with
    | none => simp [Pool.next, hactive] at hnext
    | some x =>
      obtain ⟨r, p⟩ := x
      obtain ⟨done, hp⟩ := (hknows i).2 r p hactive
      cases p with
      | done | raise => simp [Pool.next, hactive] at hnext
      | call op' next =>
        obtain rfl : op' = op := Option.some.inj ((Pool.next_of_active hactive).symm.trans hnext)
        exact hp.performs.1.1
  · intro i hbusy
    cases hactive : c.active i with
    | none => exact absurd ((hknows i).1 hactive).2 hbusy
    | some x =>
      obtain ⟨r, p⟩ := x
      obtain ⟨done, hp⟩ := (hknows i).2 r p hactive
      cases p with
      | done | raise => exact absurd (hp.ends rfl).1.2 hbusy
      | call op next => exact ⟨op, Pool.next_of_active hactive⟩

/-- As long as a descriptor is free, the threads come to a halt only when all who
are in a call wait for a connection, and then there is no message left. So no
server waits for a message that was sent, or for one that nobody will send. -/
theorem quits_deadlock_free {fd : SOCKET} (hfd : 0 ≤ fd)
    (hfree : c.state.process.world.kernel.table fd = none) {i : ι} {op : Op}
    (hnext : c.next i = some op) :
    (∃ j op answer t, c.next j = some op ∧ HostStep j op c.state answer t ∧ op.Accepts answer) ∨
      c.state.wiring.pending = 0 ∧ ∀ j op, c.next j = some op → ∃ lfd, op = .accept lfd := by
  obtain ⟨lines, hmanned, hmay, hbusy⟩ := crew b errno o hc
  by_cases haccepts : ∀ j op, c.next j = some op → ∃ lfd, op = .accept lfd
  · have hroles : ∀ j, (lines j).2 = .free := by
      intro j
      by_contra hne
      obtain ⟨op', hj⟩ := hbusy j hne
      obtain ⟨lfd, rfl⟩ := haccepts j op' hj
      exact hne (hmay j _ hj).2.1
    by_cases hwaits : ∃ (l : Nat) (link : Link),
        c.state.wiring.links[l]? = some link ∧ link.taken = false
    · left
      obtain ⟨lfd, rfl⟩ := haccepts i op hnext
      obtain ⟨answer, t, hstep⟩ := hmanned.goes_on (hmay i _ hnext) hfd hfree (fun _ _ => hwaits)
        (by simp)
      exact ⟨i, _, answer, t, hnext, hstep⟩
    · refine .inr ⟨hmanned.wired.nothing_pending hroles fun l link hlink => ?_, haccepts⟩
      by_contra hnot
      exact hwaits ⟨l, link, hlink, Bool.eq_false_of_not_eq_true hnot⟩
  · left
    -- Neither of the two calls that wait.
    have hgo : ∀ j op', c.next j = some op' → (∀ lfd, op' ≠ .accept lfd) →
        (∀ fd len, op' ≠ .recv fd len) → ∃ j op answer t, c.next j = some op ∧
          HostStep j op c.state answer t ∧ op.Accepts answer := by
      intro j op' hj haccept hrecv
      obtain ⟨answer, t, hstep⟩ := hmanned.goes_on (hmay j _ hj) hfd hfree
        (fun sfd heq => absurd heq (haccept sfd)) fun fd len heq => absurd heq (hrecv fd len)
      exact ⟨j, op', answer, t, hj, hstep⟩
    simp only [not_forall, not_exists] at haccepts
    obtain ⟨j, op', hj, haccept⟩ := haccepts
    by_cases hrecv : ∀ fd len, op' ≠ .recv fd len
    · exact hgo j op' hj haccept hrecv
    · simp only [not_forall, ne_eq, not_not] at hrecv
      obtain ⟨fd', len, rfl⟩ := hrecv
      obtain ⟨l, link, hl, hlink, hunread | ⟨k, fd'', hk⟩⟩ :=
        hmanned.wired.waits (hmay j _ hj).2.1
      · obtain ⟨answer, t, hstep⟩ := hmanned.goes_on (hmay j _ hj) hfd hfree (by simp) (by
          rintro fd len ⟨rfl, rfl⟩
          exact ⟨l, link, hl, hlink, hunread⟩)
        exact ⟨j, _, answer, t, hj, hstep⟩
      · -- The caller has connected, and is about to send.
        obtain ⟨op'', hnext'⟩ := hbusy k (by simp [hk])
        have hrole := (hmay k op'' hnext').2
        rw [show (lines k).2 = .calling fd'' from hk] at hrole
        refine hgo k op'' hnext' ?_ ?_
        · rintro lfd rfl
          exact absurd hrole.1 (by simp)
        · rintro fd len rfl
          exact absurd hrole.1 (by simp)

end

/-! ## A server and a thread that tells it to quit -/

def freeNumber (k : Kernel) : Except Int SOCKET :=
  match ([3, 4, 5, 6] : List SOCKET).find? fun fd => (k.table fd).isNone with
  | some fd => .ok fd
  | none => .error 24

private theorem freeNumber_ok {k : Kernel} {fd : SOCKET} (h : freeNumber k = .ok fd) :
    0 ≤ fd ∧ k.table fd = none := by
  unfold freeNumber at h
  split at h
  · rename_i hfound
    obtain rfl := Except.ok.inj h
    have hpositive : ∀ fd ∈ ([3, 4, 5, 6] : List SOCKET), 0 ≤ fd := by decide
    exact ⟨hpositive _ (List.mem_of_find?_eq_some hfound), by simpa using List.find?_some hfound⟩
  · contradiction

def OS.roomy : OS := { OS.obliging with
  socket k _ _ _ := freeNumber k
  accept k _ := freeNumber k
  socket_free := freeNumber_ok
  accept_free := freeNumber_ok }

def roomyServer : Start where
  os := .roomy
  ops := [.server "4433" false]
  shared := fun _ => true

def itsSocket : roomyServer.sharing.Object := ⟨0, by decide +kernel⟩

/-- The server has accepted the connection and is about to read, and the other
thread has not sent its message. -/
def handshake : List (Pool.Choice Bool Job) :=
  [.invoke true (.run 0), .invoke false .quitServer] ++ List.replicate 20 (.move false) ++
    List.replicate 3 (.move true)

private def noErrno : Bool → Int := fun _ => 0

private theorem handshake_reaches {schedule : List (Pool.Choice Bool Job)}
    {c : Pool Op.Res Exn (Option Unit) (Host Bool) Bool Job}
    (h : (Pool.start ⟨roomyServer.first noErrno, {}⟩).follow (Job.code ⟨itsSocket.1⟩)
      (hostExec .roomy) (handshake ++ schedule) = some c) :
    roomyServer.Serves noErrno itsSocket c := by
  have hexec : ∀ (i : Bool) (op : Op) s answer t, hostExec .roomy i op s = some (answer, t) →
      HostStep i op s answer t := fun _ op _ _ _ h => hostStep_of_exec op h
  exact Pool.reaches_of_follow hexec (handshake ++ schedule) h

/-- Both threads have responded, and no message is left. -/
theorem handshake_counted : ∃ c, roomyServer.Serves noErrno itsSocket c ∧ c.history.length = 4 ∧
    Linearizes Semaphore 0 c.history 0 := by
  have hseen : ((Pool.start ⟨roomyServer.first noErrno, {}⟩).follow (Job.code ⟨itsSocket.1⟩)
      (hostExec .roomy) (handshake ++ (List.replicate 13 (.move false) ++
        List.replicate 4 (.move true)))).map
        (fun c => (c.history.length, c.state.wiring.pending)) = some (4, 0) := by decide +kernel
  obtain ⟨c, hc, hend⟩ := Option.map_eq_some_iff.mp hseen
  obtain ⟨hlength, hpending⟩ := Prod.mk.inj hend
  have hreached := handshake_reaches hc
  exact ⟨c, hreached, hlength, hpending ▸ quits_are_counted roomyServer noErrno itsSocket hreached⟩

/-- The server waits for a message, but the other thread goes on. -/
theorem handshake_goes_on : ∃ c, roomyServer.Serves noErrno itsSocket c ∧
    c.next true = some (.recv 5 1023) ∧ ∃ j op answer t, c.next j = some op ∧
      HostStep j op c.state answer t ∧ op.Accepts answer := by
  have hseen : ((Pool.start ⟨roomyServer.first noErrno, {}⟩).follow (Job.code ⟨itsSocket.1⟩)
      (hostExec .roomy) (handshake ++ [])).map (fun c => (c.next true,
        (c.state.process.world.kernel.table 6).isNone)) = some (some (.recv 5 1023), true) := by
    decide +kernel
  obtain ⟨c, hc, hend⟩ := Option.map_eq_some_iff.mp hseen
  obtain ⟨hnext, hfree⟩ := Prod.mk.inj hend
  have hreached := handshake_reaches hc
  rcases quits_deadlock_free roomyServer noErrno itsSocket hreached (by decide : (0 : Int) ≤ 6)
    (Option.isNone_iff_eq_none.mp hfree) hnext with hstep | ⟨-, hwait⟩
  · exact ⟨c, hreached, hnext, hstep⟩
  · obtain ⟨lfd, haccept⟩ := hwait true _ hnext
    contradiction

end ClientServerTcp
