import ClientServerTcp.Addrinfo.Spec
import ClientServerTcp.Socket.Spec
import ClientServerTcp.System.Holding

/-! Sockets and address lists as automatic objects of a function: what it holds
after each call of a member function, and after an object has died. -/
namespace ClientServerTcp
open Effects Program CSocket Memory

section Socket
variable {os : OS} {start k k' : Kernel} {res : Option Ptr}

theorem CSocket.Constructed.holding_error {domain type protocol : Int} {error : RuntimeError}
    (h : Constructed os k domain type protocol (.error error) k') (hk : Holding start none res k) :
    Holding start none res k' := by
  cases h with
  | socket error h => exact hk.noSocket domain type protocol error
  | reuseaddr fd error k' h _ h' =>
    rw [h']
    exact (((hk.socket (os.socket_free h).2 _ _ _ _).fail rfl _).close os).log rfl _ _
  | v6only fd error k' h hdomain _ h' =>
    rw [h']
    exact ((((hk.socket (os.socket_free h).2 _ _ _ _).modify rfl _ _).fail rfl _).close os).log
      rfl _ _

theorem CSocket.Constructed.opened_ok {domain type protocol : Int} {s : CSocket}
    (h : Constructed os k domain type protocol (.ok s) k') (hdomain : domain ≠ 0) :
    s = { mSfd := s.mSfd, mAf := domain } ∧
      ∃ d, k'.table s.mSfd = some d ∧ d.domain = domain ∧
        d.sockType = Kernel.sockTypeOf type ∧ d.tuned = true ∧
        os.socket k domain type protocol = .ok s.mSfd := by
  cases h with
  | empty h => exact absurd h.1 hdomain
  | inet fd h hne =>
    refine ⟨rfl, _, Function.update_self .., rfl, rfl, ?_, h⟩
    simp [Desc.tuned, Desc.setOption, opened, hne]
  | inet6 fd h heq =>
    refine ⟨rfl, _, Function.update_self .., rfl, rfl, ?_, h⟩
    simp [Desc.tuned, Desc.setOption, opened, solSocket, ipprotoIpv6, ipv6V6only, soReuseaddr]

theorem CSocket.Constructed.trace_ok {domain type protocol : Int} {s : CSocket}
    (h : Constructed os k domain type protocol (.ok s) k')
    (hdomain : ¬(domain = 0 ∧ type = 0 ∧ protocol = 0)) :
    ∃ events, k'.trace = events ++ ⟨.socket domain type protocol, s.mSfd, none, 0⟩ :: k.trace ∧
      ∀ e ∈ events, ∃ level optname, e = ⟨.setsockopt s.mSfd level optname 0, 0, none, 0⟩ := by
  cases h with
  | empty h => exact absurd h hdomain
  | inet fd h hne =>
    refine ⟨[⟨.setsockopt fd solSocket soReuseaddr 0, 0, none, 0⟩], rfl, ?_⟩
    intro e he
    exact ⟨_, _, List.mem_singleton.mp he⟩
  | inet6 fd h heq =>
    refine ⟨[⟨.setsockopt fd ipprotoIpv6 ipv6V6only 0, 0, none, 0⟩,
      ⟨.setsockopt fd solSocket soReuseaddr 0, 0, none, 0⟩], rfl, ?_⟩
    intro e he
    simp only [List.mem_cons, List.not_mem_nil, or_false] at he
    rcases he with rfl | rfl
    · exact ⟨_, _, rfl⟩
    · exact ⟨_, _, rfl⟩

/-- The calls of a constructor that throws. An option that cannot be set is
followed by `::close`, and only then `errno` is read. -/
theorem CSocket.Constructed.trace_error {domain type protocol : Int} {error : RuntimeError}
    (h : Constructed os k domain type protocol (.error error) k') :
    (∃ number, error = .withErrno .msg1002 number ∧
      k'.trace = ⟨.errno, number, none, 0⟩ ::
        ⟨.socket domain type protocol, -1, some number, 0⟩ :: k.trace) ∨
    ∃ errmsg fd level optname number ret closeError options,
      (errmsg = .msg1003 ∧ level = solSocket ∧ optname = soReuseaddr ∨
        errmsg = .msg1005 ∧ level = ipprotoIpv6 ∧ optname = ipv6V6only) ∧
      error = .withErrno errmsg (closeError.getD number) ∧
      (∀ e ∈ options, ∃ level' optname', e = ⟨.setsockopt fd level' optname' 0, 0, none, 0⟩) ∧
      k'.trace = ⟨.errno, closeError.getD number, none, 0⟩ :: ⟨.close fd, ret, closeError, 0⟩ ::
        ⟨.setsockopt fd level optname 0, -1, some number, 0⟩ ::
        (options ++ ⟨.socket domain type protocol, fd, none, 0⟩ :: k.trace) := by
  cases h with
  | socket number h => exact .inl ⟨number, rfl, rfl⟩
  | reuseaddr fd number k₁ h _ h' =>
    obtain ⟨ret, closeError, _, htrace, _, herrno⟩ :=
      ((afterSocket os k fd domain type protocol).fail
        (.setsockopt fd solSocket soReuseaddr 0) number).close_effect os fd
    refine .inr ⟨.msg1003, fd, solSocket, soReuseaddr, number, ret, closeError, [],
      .inl ⟨rfl, rfl, rfl⟩, ?_, by simp, ?_⟩
    · rw [h', closeFailed, herrno]
      rfl
    · rw [Kernel.trace_log, h', closeFailed, htrace, herrno]
      rfl
  | v6only fd number k₁ h hdomain _ h' =>
    obtain ⟨ret, closeError, _, htrace, _, herrno⟩ :=
      ((afterReuseaddr os k fd domain type protocol).fail
        (.setsockopt fd ipprotoIpv6 ipv6V6only 0) number).close_effect os fd
    refine .inr ⟨.msg1005, fd, ipprotoIpv6, ipv6V6only, number, ret, closeError,
      [⟨.setsockopt fd solSocket soReuseaddr 0, 0, none, 0⟩], .inr ⟨rfl, rfl, rfl⟩, ?_, ?_, ?_⟩
    · rw [h', closeFailed, herrno]
      rfl
    · intro e he
      exact ⟨_, _, List.mem_singleton.mp he⟩
    · rw [Kernel.trace_log, h', closeFailed, htrace, herrno]
      rfl

theorem CSocket.Constructed.holding_ok {domain type protocol : Int} {s : CSocket}
    (h : Constructed os k domain type protocol (.ok s) k') (hdomain : domain ≠ 0)
    (hk : Holding start none res k) : Holding start (some s.mSfd) res k' := by
  cases h with
  | empty h => exact absurd h.1 hdomain
  | inet fd h hne => exact (hk.socket (os.socket_free h).2 _ _ _ _).modify rfl _ _
  | inet6 fd h heq =>
    exact ((hk.socket (os.socket_free h).2 _ _ _ _).modify rfl _ _).modify rfl _ _

variable {s : CSocket}

theorem CSocket.Bound.holding_error {ai : Addrinfo} {error : RuntimeError}
    (h : Bound os k s ai (.error error) k') (hk : Holding start (some s.mSfd) res k) :
    Holding start (some s.mSfd) res k' := by
  cases h with
  | getsockopt error => exact hk.failed rfl error
  | socktype d hopen hne => exact hk.log rfl _ _
  | refused error => exact (hk.log rfl _ _).failed rfl error

theorem CSocket.Bound.holding_ok {ai : Addrinfo} {s' : CSocket} {d : Desc}
    (h : Bound os k s ai (.ok s') k') (hd : k.table s.mSfd = some d)
    (hk : Holding start (some s.mSfd) res k) :
    s' = { s with mBound := true } ∧ Holding start (some s.mSfd) res k' ∧
      k'.table s.mSfd = some { d with
        localAddr := some ((k.log (.getsockopt s.mSfd solSocket soType) 0).assigned os s.mSfd
          (ai.aiAddr.take ai.aiAddrlen)) } := by
  cases h with
  | bound d' hopen heq =>
    obtain rfl : d' = d := by simpa [hopen] using hd
    exact ⟨rfl, (hk.log rfl _ _).modify rfl _ _, Function.update_self ..⟩

theorem CSocket.Listening.holding_error {error : RuntimeError}
    (h : Listening os k s (.error error) k') (hk : Holding start (some s.mSfd) res k) :
    Holding start (some s.mSfd) res k' := by
  cases h with
  | refused error => exact hk.failed rfl error

theorem CSocket.Listening.holding_ok {s' : CSocket} {d : Desc}
    (h : Listening os k s (.ok s') k') (hd : k.table s.mSfd = some d)
    (hk : Holding start (some s.mSfd) res k) :
    s' = { s with mListen := true } ∧ Holding start (some s.mSfd) res k' ∧
      k'.table s.mSfd = some { d with
        listening := true, localAddr := some (d.localAddr.getD (os.ephemeral k s.mSfd)) } := by
  cases h with
  | listening d' hopen =>
    obtain rfl : d' = d := by simpa [hopen] using hd
    exact ⟨rfl, hk.modify rfl _ _, Function.update_self ..⟩

end Socket

/-! ## Automatic objects -/

section Automatic
variable (os : OS) {w : World} {α : Type}
  {Q : α → World → Prop} {E : Exn → World → Prop}

theorem wp_destructSocket {o : ObjId} {s : CSocket} (hs : w.objs o = some s) {Q : World → Prop} :
    (CSocket.destruct o).wp (step os) (fun _ w' => Q w') E w = Q { w with
      kernel := (w.kernel.close os s.mSfd).2
      objs := w.objs.free o } :=
  wp_of_run _ (CSocket.run_destruct os hs)

theorem wp_automaticAddrinfo {aNode aService : String} {aFamily aSocktype aFlags aProtocol : Int}
    {body : InfoId → Prog α} (a : CAddrinfo)
    (ha : a = { mNode := aNode, mService := aService, mHints := {
      aiFlags := aFlags, aiFamily := aFamily, aiSocktype := aSocktype, aiProtocol := aProtocol } })
    (hfailed : ∀ error, os.getaddrinfo w.kernel a.query = .error error →
      E (.thrown (.msg1025 error)) { w with
        kernel := w.kernel.log (.getaddrinfo a.query) error
        infos := w.infos.skip })
    (hbody : ∀ entry rest, os.getaddrinfo w.kernel a.query = .ok (entry :: rest) →
      let this := { a with mRes := w.kernel.lists.next }
      let w₁ := { w with
        kernel := CAddrinfo.obtained w.kernel a.query (entry :: rest)
        infos := w.infos.alloc this }
      let entry' := { entry with aiProtocol := a.mHints.aiProtocol, aiFlags := a.mHints.aiFlags }
      (CAddrinfo.arrow w.infos.next).run (step os) w₁ = (.ok entry', w₁) →
      (body w.infos.next).wp (step os)
        (fun value w' => w'.infos w.infos.next = some this ∧ Q value { w' with
          kernel := w'.kernel.freeaddrinfo this.mRes
          infos := w'.infos.free w.infos.next })
        (fun error w' => w'.infos w.infos.next = some this ∧ E error { w' with
          kernel := w'.kernel.freeaddrinfo this.mRes
          infos := w'.infos.free w.infos.next }) w₁) :
    (bracket (CAddrinfo.construct aNode aService aFamily aSocktype aFlags aProtocol)
      CAddrinfo.destruct body).wp (step os) Q E w := by
  rw [wp_bracket, wp_iff_run, CAddrinfo.run_construct, ← ha, CAddrinfo.created]
  cases hanswer : os.getaddrinfo w.kernel a.query with
  | error error => exact hfailed error hanswer
  | ok answer =>
    obtain ⟨entry, rest, rfl⟩ := List.exists_cons_of_ne_nil (os.getaddrinfo_ne hanswer)
    have harrow := hbody entry rest hanswer (CAddrinfo.run_arrow os Heap.alloc_next
      Heap.alloc_next rfl)
    apply wp_mono harrow
    · intro value w' hQ
      rw [wp_of_run _ (CAddrinfo.run_destruct os hQ.1)]
      exact hQ.2
    · intro error w' hE
      rw [wp_of_run _ (CAddrinfo.run_destruct os hE.1)]
      exact hE.2

end Automatic
end ClientServerTcp
