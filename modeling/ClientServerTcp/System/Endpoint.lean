import ClientServerTcp.System.Effect

/-! A descriptor as the table and the log show it together. A call leaves it as
it is, unless it is one of the few that alter a descriptor and names this one. -/
namespace ClientServerTcp

/-- An open socket, and what the log says was done with it. -/
structure Endpoint where
  desc : Desc
  bound : Bool
  listening : Bool

def Kernel.endpoint (k : Kernel) (fd : SOCKET) : Option Endpoint :=
  (k.table fd).map fun d => ⟨d, boundSince fd k.trace, listenSince fd k.trace⟩

def Endpoint.boundTo (e : Endpoint) (addr : Bytes) : Endpoint :=
  { e with desc := { e.desc with localAddr := some addr }, bound := true }

def Endpoint.listeningAt (e : Endpoint) (ephemeral : Bytes) : Endpoint :=
  { e with
    desc := { e.desc with listening := true, localAddr := some (e.desc.localAddr.getD ephemeral) }
    listening := true }

def Op.alters (fd : SOCKET) : Op → Prop
  | .setsockopt sfd .. | .bind sfd .. | .listen sfd _ | .close sfd => sfd = fd
  | _ => False

namespace Kernel

variable {k k' : Kernel} {fd : SOCKET}

theorem endpoint_eq_some {e : Endpoint} : k.endpoint fd = some e ↔
    ∃ d, k.table fd = some d ∧ e = ⟨d, boundSince fd k.trace, listenSince fd k.trace⟩ := by
  simp only [endpoint, Option.map_eq_some_iff, eq_comm (a := e)]

theorem isSome_endpoint (k : Kernel) (fd : SOCKET) :
    (k.endpoint fd).isSome = (k.table fd).isSome := Option.isSome_map

theorem endpoint_cons {e : Event} (htable : k'.table fd = k.table fd)
    (htrace : k'.trace = e :: k.trace) (hopens : e.opens fd = false) (hbinds : e.binds fd = false)
    (hlistens : e.listens fd = false) : k'.endpoint fd = k.endpoint fd := by
  simp [endpoint, htable, htrace, boundSince_cons, listenSince_cons, hopens, hbinds, hlistens]

private theorem endpoint_quiet {e : Event} (he : e.Quiet) (htable : k'.table fd = k.table fd)
    (htrace : k'.trace = e :: k.trace) : k'.endpoint fd = k.endpoint fd :=
  endpoint_cons htable htrace (he fd).1 (he fd).2.2.1 (he fd).2.2.2

private theorem endpoint_log (call : Call) (ret : Int) (out : Ptr)
    (h : Event.passive call = true) : (k.log call ret out).endpoint fd = k.endpoint fd :=
  endpoint_quiet (Event.quiet_of_passive (e := ⟨call, ret, none, out⟩) h) rfl rfl

theorem endpoint_fail (call : Call) (error : Int) (h : ∀ fd, call ≠ .close fd) :
    (k.fail call error).endpoint fd = k.endpoint fd :=
  endpoint_quiet (Event.quiet_of_failed (e := ⟨call, -1, some error, 0⟩) rfl h) rfl rfl

private theorem endpoint_attempt (call : Call) (sfd : SOCKET) (refused : Option Int)
    (h : Event.passive call = true) :
    (k.attempt call sfd refused id).2.endpoint fd = k.endpoint fd := by
  rcases attempt_cases with ⟨error, hret⟩ | ⟨d, hopen, _, hret⟩
  · rw [hret]
    apply endpoint_fail
    intro fd hcall
    simp [hcall, Event.passive] at h
  · rw [hret]
    refine endpoint_quiet (Event.quiet_of_passive (e := ⟨call, 0, none, 0⟩) h) ?_ rfl
    rw [table_log, table_setDesc, id, ← hopen, Function.update_eq_self]

private theorem endpoint_other (call : Call) {sfd : SOCKET} (refused : Option Int)
    (effect : Desc → Desc) (hne : sfd ≠ fd) (hcall : ∀ fd, call ≠ .close fd)
    (hopens : Event.opens fd ⟨call, 0, none, 0⟩ = false)
    (hbinds : Event.binds fd ⟨call, 0, none, 0⟩ = false)
    (hlistens : Event.listens fd ⟨call, 0, none, 0⟩ = false) :
    (k.attempt call sfd refused effect).2.endpoint fd = k.endpoint fd := by
  rcases attempt_cases with ⟨error, hret⟩ | ⟨d, _, _, hret⟩
  · rw [hret]
    exact endpoint_fail call error hcall
  · rw [hret]
    exact endpoint_cons (Function.update_of_ne (Ne.symm hne) ..) rfl hopens hbinds hlistens

variable (os : OS) (k)

private theorem endpoint_socket (domain type protocol : Int) (hopen : (k.table fd).isSome) :
    (k.socket os domain type protocol).2.endpoint fd = k.endpoint fd := by
  unfold Kernel.socket
  split
  · exact endpoint_fail _ _ (by simp)
  · rename_i fd' h
    have hne : fd ≠ fd' := by
      rintro rfl
      simp [(os.socket_free h).2] at hopen
    refine endpoint_cons (Function.update_of_ne hne ..) rfl ?_ rfl rfl
    simpa [Event.opens] using hne.symm

private theorem endpoint_accept (sfd : SOCKET) (hopen : (k.table fd).isSome) :
    (k.accept os sfd).2.endpoint fd = k.endpoint fd := by
  rcases k.accept_cases os sfd with ⟨error, hret⟩ | ⟨d, fd', _, hfree, hret⟩
  · rw [hret]
    exact endpoint_fail _ _ (by simp)
  · have hne : fd ≠ fd' := by
      rintro rfl
      simp [hfree] at hopen
    rw [hret]
    exact endpoint_quiet (Event.quiet_of_passive (e := ⟨.accept sfd, fd', none, 0⟩) rfl)
      (Function.update_of_ne hne ..) rfl

private theorem endpoint_close {sfd : SOCKET} (hne : sfd ≠ fd) :
    (k.close os sfd).2.endpoint fd = k.endpoint fd := by
  obtain ⟨ret, error, htable, htrace, _⟩ := k.close_effect os sfd
  refine endpoint_cons ?_ htrace rfl rfl rfl
  rw [htable, Function.update_of_ne hne.symm]

theorem endpoint_bind {e : Endpoint} (he : k.endpoint fd = some e) (addr : Bytes) (addrlen : Nat) :
    ((k.bind os fd addr addrlen).1 = socketError ∧
        (k.bind os fd addr addrlen).2.endpoint fd = some e) ∨
      (k.bind os fd addr addrlen).1 = 0 ∧ (k.bind os fd addr addrlen).2.endpoint fd =
        some (e.boundTo (k.assigned os fd (addr.take addrlen))) := by
  obtain ⟨d, hd, rfl⟩ := endpoint_eq_some.mp he
  rcases k.bind_cases os fd addr addrlen with ⟨error, hret⟩ | ⟨d', hd', _, hret⟩
  · rw [hret]
    exact .inl ⟨rfl, by rw [endpoint_fail _ _ (by simp), he]⟩
  · obtain rfl : d = d' := by simpa [hd] using hd'
    rw [hret]
    refine .inr ⟨rfl, ?_⟩
    simp [endpoint, Endpoint.boundTo, boundSince_cons, listenSince_cons, Event.opens, Event.binds,
      Event.listens]

theorem endpoint_listen {e : Endpoint} (he : k.endpoint fd = some e) (backlog : Int) :
    ((k.listen os fd backlog).1 ≠ 0 ∧ (k.listen os fd backlog).2.endpoint fd = some e) ∨
      (k.listen os fd backlog).1 = 0 ∧ (k.listen os fd backlog).2.endpoint fd =
        some (e.listeningAt (os.ephemeral k fd)) := by
  obtain ⟨d, hd, rfl⟩ := endpoint_eq_some.mp he
  rcases k.listen_cases os fd backlog with ⟨error, hret⟩ | ⟨d', hd', _, hret⟩
  · rw [hret]
    exact .inl ⟨by simp, by rw [endpoint_fail _ _ (by simp), he]⟩
  · obtain rfl : d = d' := by simpa [hd] using hd'
    rw [hret]
    refine .inr ⟨rfl, ?_⟩
    simp [endpoint, Endpoint.listeningAt, boundSince_cons, listenSince_cons, Event.opens,
      Event.binds, Event.listens]

end Kernel

/-- A step leaves an open descriptor as it is, unless it alters this one. -/
theorem step_endpoint (os : OS) (op : Op) (w : World) {fd : SOCKET}
    (hopen : (w.kernel.table fd).isSome) (hop : ¬op.alters fd) :
    (step os op w).2.kernel.endpoint fd = w.kernel.endpoint fd := by
  cases op with
  | socket domain type protocol => exact w.kernel.endpoint_socket os _ _ _ hopen
  | setsockopt sfd level optname value =>
    exact Kernel.endpoint_other _ _ _ hop (by simp) rfl rfl rfl
  | getsockopt sfd level optname =>
    simp only [step, World.syscall, World.kernel_withKernel]
    rcases w.kernel.getsockopt_cases os sfd level optname with ⟨error, hret⟩ | ⟨d, _, _, hret⟩
    · rw [hret]
      exact Kernel.endpoint_fail _ _ (by simp)
    · rw [hret]
      exact Kernel.endpoint_log _ _ _ rfl
  | bind sfd addr addrlen =>
    refine Kernel.endpoint_other _ _ _ hop (by simp) rfl ?_ rfl
    simpa [Event.binds, Op.alters] using hop
  | listen sfd backlog =>
    refine Kernel.endpoint_other _ _ _ hop (by simp) rfl rfl ?_
    simpa [Event.listens, Op.alters] using hop
  | getsockname sfd =>
    simp only [step, World.syscall, World.kernel_withKernel]
    rcases w.kernel.getsockname_cases os sfd with ⟨error, hret⟩ | ⟨d, _, hret⟩
    · rw [hret]
      exact Kernel.endpoint_fail _ _ (by simp)
    · rw [hret]
      exact Kernel.endpoint_log _ _ _ rfl
  | accept sfd => exact w.kernel.endpoint_accept os sfd hopen
  | recv sfd len =>
    simp only [step, World.syscall, World.kernel_withKernel]
    rcases w.kernel.recv_cases os sfd len with ⟨error, hret⟩ | ⟨bytes, _, hret⟩
    · rw [hret]
      exact Kernel.endpoint_fail _ _ (by simp)
    · rw [hret]
      exact Kernel.endpoint_log _ _ _ rfl
  | shutdown sfd how => exact Kernel.endpoint_attempt _ _ _ rfl
  | close sfd => exact w.kernel.endpoint_close os hop
  | connect sfd addr addrlen => exact Kernel.endpoint_attempt _ _ _ rfl
  | send sfd msg =>
    simp only [step, World.syscall, World.kernel_withKernel]
    unfold Kernel.send
    split
    · exact Kernel.endpoint_fail _ _ (by simp)
    · exact Kernel.endpoint_fail _ _ (by simp)
    · exact Kernel.endpoint_log _ _ _ rfl
  | getaddrinfo query =>
    simp only [step, World.syscall, World.kernel_withKernel]
    unfold Kernel.getaddrinfo
    split
    · exact Kernel.endpoint_log _ _ _ rfl
    · exact Kernel.endpoint_cons (e := ⟨.getaddrinfo query, 0, none, _⟩) rfl rfl rfl rfl rfl
  | freeaddrinfo res =>
    exact Kernel.endpoint_cons (e := ⟨.freeaddrinfo res, 0, none, 0⟩) rfl rfl rfl rfl rfl
  | errno => exact Kernel.endpoint_log _ _ _ rfl
  | _ => rfl

end ClientServerTcp
