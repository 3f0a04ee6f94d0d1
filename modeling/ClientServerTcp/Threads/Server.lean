import ClientServerTcp.Threads.Runs

/-! A server that any number of threads run, ask and tell to quit. Nothing but
its constructor binds its socket or sets it to listen, so its getters answer the
same in every order of the steps. -/
namespace ClientServerTcp
open Effects Program Relation

namespace Request

variable {S : Sharing}

def object : Request S → Option S.Object
  | .bind o _ | .listen o | .isBind o | .isListen o | .getPort o | .getSockerr o
  | .isReuseAddr o | .isV6only o => some o
  | .own .. => none

/-- The member functions that class `CServerTCP` does not offer. -/
def isSetter : Request S → Bool
  | .bind .. | .listen _ => true
  | _ => false

/-- What the getters respond for a socket that listens on a port and has the
options of every `CSocket`. Some of them may fail in the system. -/
def Serves (port : UInt16) : Request S → Except Exn Reply → Prop
  | .isBind _, result | .isListen _, result => result = .ok (.flag true)
  | .getPort _, result => result = .ok (.port port) ∨
    ∃ errno, result = .error (.thrown (.withErrno .msg1013 errno))
  | .isReuseAddr _, result => result = .ok (.flag false) ∨
    ∃ errno, result = .error (.thrown (.withErrno (.msg1017 "SO_REUSEADDR") errno))
  | .isV6only _, result => result = .ok (.flag false) ∨
    ∃ errno, result = .error (.thrown (.withErrno (.msg1017 "IPV6_V6ONLY") errno))
  | _, _ => True

end Request

def Endpoint.port (e : Endpoint) : UInt16 := ntohs (sin6Port (e.desc.localAddr.getD []))

structure Endpoint.Serving (e : Endpoint) : Prop extends CServerTCP.Serving e.desc where
  isBound : e.bound = true
  isListening : e.listening = true

section
variable {S : Sharing} {a a' : Endpoints S} {o : S.Object} {e : Endpoint} {r : Request S}
  {result : Except Exn Reply}

private theorem Takes.keeps (h : Takes r result a a') (ha : a o = some e)
    (hr : r.isSetter = true → r.object ≠ some o) : a' o = some e := by
  have hother : ∀ {o' : S.Object} {e' : Endpoint}, o' ≠ o →
      Function.update a o' (some e') o = some e :=
    fun hne => (Function.update_of_ne (Ne.symm hne) ..).trans ha
  cases h with
  | bind => exact hother fun heq => hr rfl (congrArg some heq)
  | listen => exact hother fun heq => hr rfl (congrArg some heq)
  | _ => exact ha

private theorem Takes.serves (h : Takes r result a a') (ha : a o = some e) (he : e.Serving)
    (hr : r.object = some o) : r.Serves e.port result := by
  have hsame : ∀ {o' : S.Object} {e' : Endpoint}, a o' = some e' → some o' = some o → e' = e := by
    rintro o' e' he' ⟨rfl⟩
    exact Option.some.inj (he'.symm.trans ha)
  cases h with
  | isBind he' =>
    obtain rfl := hsame he' hr
    rw [he.isBound]
    rfl
  | isListen he' =>
    obtain rfl := hsame he' hr
    rw [he.isListening]
    rfl
  | getPort he' _ =>
    obtain rfl := hsame he' hr
    exact .inl rfl
  | unbound he' hbound =>
    obtain rfl := hsame he' hr
    simp [he.isBound] at hbound
  | noPort _ _ errno => exact .inr ⟨errno, rfl⟩
  | isReuseAddr he' =>
    obtain rfl := hsame he' hr
    refine .inl ?_
    rw [he.reuseaddr]
    rfl
  | noReuseAddr errno => exact .inr ⟨errno, rfl⟩
  | isV6only he' _ =>
    obtain rfl := hsame he' hr
    refine .inl ?_
    rw [he.v6only]
    rfl
  | otherFamily => exact .inl rfl
  | noV6only _ _ errno => exact .inr ⟨errno, rfl⟩
  | _ => trivial

end

section
variable {ι : Type} [DecidableEq ι] (b : Start)

omit [DecidableEq ι] in
/-- The socket of a server that was just constructed serves. -/
private theorem serving_of_construct {ops : List AppOp} {aPort : String} {aReuseAddr : Bool}
    {this : CServerTCP} (hops : b.ops = ops ++ [.server aPort aReuseAddr])
    (hnew : ((CServerTCP.construct aPort aReuseAddr).run (step b.os) (appHistory b.os ops)).1 =
      .ok this) (errno : ι → Int) {o : b.sharing.Object} (ho : o.1 = this.mListenSfd) :
    ∃ e, (b.first errno).endpoints b.sharing o = some e ∧ e.Serving := by
  have hworld : b.world = ((CServerTCP.construct aPort aReuseAddr).run (step b.os)
      (appHistory b.os ops)).2 := by
    simp [Start.world, appHistory, hops, AppOp.exec]
  have hexits := exits_run (step b.os) (CServerTCP.wp_construct b.os aPort aReuseAddr
    (Holding.nothing (appHistory b.os ops).kernel))
  rw [show (CServerTCP.construct aPort aReuseAddr).run (step b.os) (appHistory b.os ops) =
    (.ok this, b.world) from Prod.ext hnew hworld.symm] at hexits
  obtain ⟨-, fd, d, hs, -, hd, hserving⟩ := hexits
  obtain ⟨s, e, hshows, hsfd, hcoherent⟩ := (b.good errno).shared o
  obtain rfl := Option.some.inj ((ho ▸ hshows.object).symm.trans hs)
  obtain ⟨d', hd', rfl⟩ := Kernel.endpoint_eq_some.mp hshows.endpoint
  have hfd : b.sharing.fd o = fd := hsfd.symm
  rw [hfd] at hd'
  obtain rfl := Option.some.inj (hd.symm.trans hd')
  refine ⟨_, hshows.endpoint, hserving, ?_, ?_⟩
  · exact (hcoherent.same .mBoundMutex rfl).symm
  · exact (hcoherent.same .mListenMutex rfl).symm

/-- All the while a server is run, asked and told to quit by any number of
threads, its socket is bound, listening and has its options off, and every
`get_port` that succeeds gives the one port that the constructor bound it to. -/
theorem server_answers (ops : List AppOp) {aPort : String} {aReuseAddr : Bool}
    {this : CServerTCP} (hops : b.ops = ops ++ [.server aPort aReuseAddr])
    (hnew : ((CServerTCP.construct aPort aReuseAddr).run (step b.os) (appHistory b.os ops)).1 =
      .ok this) (errno : ι → Int) {o : b.sharing.Object} (ho : o.1 = this.mListenSfd) :
    ∃ e, b.world.kernel.endpoint (b.sharing.fd o) = some e ∧ e.Serving ∧
      ∀ {c : Pool Op.Res Exn Reply (Shared ι) ι (Request b.sharing)}, b.Reaches errno c →
      (∀ i r, .invoked i r ∈ c.history → r.isSetter = true → r.object ≠ some o) →
      c.state.world.kernel.endpoint (b.sharing.fd o) = some e ∧
      ∀ i r result, .responded i r result ∈ c.history → r.object = some o →
        r.Serves e.port result := by
  obtain ⟨e, he, hserving⟩ := serving_of_construct b hops hnew errno ho
  refine ⟨e, he, hserving, ?_⟩
  intro c hc hgetters
  have hkeep : ∀ i r, .invoked i r ∈ c.history → ∀ result (x y : Endpoints b.sharing),
      x o = some e → Takes r result x y → y o = some e :=
    fun i r hinvoked result x y hx htakes => htakes.keeps hx (hgetters i r hinvoked)
  obtain ⟨hend, hresponses⟩ :=
    ((atomic b.sharing).linearizes (b.idle errno) hc).keeps he hkeep
  refine ⟨hend, ?_⟩
  intro i r result hresponded hobject
  obtain ⟨x, y, hx, htakes⟩ := hresponses i r result hresponded
  exact htakes.serves hx hserving hobject

end

/-! ## A server that is asked while it runs -/

def oneServer : Start where
  os := .obliging
  ops := [.server "4433" true]
  shared := fun _ => true

def listenSocket : oneServer.sharing.Object := ⟨0, by decide +kernel⟩

/-- One thread has called `run()` and waits for a connection, when the other one
asks for the port. -/
def asked : List (Pool.Choice Bool (Request oneServer.sharing)) :=
  [.invoke true (.own (do let _ ← CServerTCP.run ⟨0⟩ 1; return .none)
    (.bind (CServerTCP.own_run ⟨0⟩ 1) fun _ _ => .pure trivial))] ++
  List.replicate 2 (.move true) ++ [.invoke false (.getPort listenSocket)] ++
  List.replicate 8 (.move false)

private def Moment.asks (moment : Moment Bool (Request oneServer.sharing) Exn Reply) : Bool :=
  match moment with
  | .invoked _ r => !r.isSetter
  | .responded .. => true

/-- It is answered before the first connection comes. -/
theorem asked_answers : ∃ (e : Endpoint) (c : _),
    oneServer.Reaches (fun _ : Bool => 0) c ∧ c.history.length = 3 ∧
    c.next true = some (.accept 3) ∧ e.port = 4433 ∧ e.Serving ∧
    c.state.world.kernel.endpoint 3 = some e ∧ ∀ i r result, .responded i r result ∈ c.history → r.object = some listenSocket →
      r.Serves e.port result := by
  have hnew : ((CServerTCP.construct "4433" true).run (step .obliging)
      (appHistory .obliging [])).1 = .ok ⟨0⟩ := by decide +kernel
  obtain ⟨e, he, hserving, hserves⟩ :=
    server_answers oneServer [] rfl hnew (fun _ : Bool => 0) (o := listenSocket) rfl
  have hport : (oneServer.world.kernel.endpoint (oneServer.sharing.fd listenSocket)).map
      Endpoint.port = some 4433 := by decide +kernel
  have hseen : ((Pool.start (oneServer.first fun _ : Bool => 0)).follow Request.code
      (threadExec .obliging) asked).map (fun c => (c.history.length, c.next true,
        c.history.all Moment.asks)) = some (3, some (.accept 3), true) := by decide +kernel
  obtain ⟨c, hc, hfacts⟩ := Option.map_eq_some_iff.mp hseen
  simp only [Prod.mk.injEq] at hfacts
  obtain ⟨hlength, hnext, hall⟩ := hfacts
  have hreached := oneServer.reaches_of_choices hc
  have hgetters : ∀ i r, .invoked i r ∈ c.history → r.isSetter = true →
      r.object ≠ some listenSocket := by
    intro i r hinvoked hsetter
    have hasks := List.all_eq_true.mp hall _ hinvoked
    simp [Moment.asks, hsetter] at hasks
  have hfd : oneServer.sharing.fd listenSocket = 3 := by decide +kernel
  refine ⟨e, c, hreached, hlength, hnext, ?_, hserving, hfd ▸ hserves hreached hgetters⟩
  rw [he] at hport
  exact Option.some.inj hport

end ClientServerTcp
