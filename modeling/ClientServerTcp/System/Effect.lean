import ClientServerTcp.System.History
import ClientServerTcp.System.Machine

/-! What one step of a program can do to the descriptors and to the log. An
invariant of the descriptors is proved once for each kind of effect, and holds
then in every run of every program. -/
namespace ClientServerTcp
open Effects Program

/-- All that one step can do, as seen in the table and in the log. -/
inductive Kernel.Effect (k k' : Kernel) : Prop
  | same (htable : k'.table = k.table) (htrace : k'.trace = k.trace)
  | quiet (e : Event) (he : e.Quiet) (htable : k'.table = k.table)
    (htrace : k'.trace = e :: k.trace)
  | opened (domain type protocol : Int) (fd : SOCKET) (d : Desc) (hfree : k.table fd = none)
    (htable : k'.table = Function.update k.table fd (some d))
    (htrace : k'.trace = ⟨.socket domain type protocol, fd, none, 0⟩ :: k.trace)
  | accepted (e : Event) (he : e.Quiet) (fd : SOCKET) (d : Desc) (hfree : k.table fd = none)
    (horigin : d.origin = .accept) (htable : k'.table = Function.update k.table fd (some d))
    (htrace : k'.trace = e :: k.trace)
  | tuned (e : Event) (he : e.Quiet) (fd : SOCKET) (d d' : Desc) (hopen : k.table fd = some d)
    (horigin : d'.origin = d.origin) (haddr : d'.localAddr = d.localAddr)
    (hlisten : d'.listening = d.listening)
    (htable : k'.table = Function.update k.table fd (some d'))
    (htrace : k'.trace = e :: k.trace)
  | bound (fd : SOCKET) (addr : Bytes) (addrlen : Nat) (d : Desc) (localAddr : Bytes)
    (hopen : k.table fd = some d)
    (htable : k'.table =
      Function.update k.table fd (some { d with localAddr := some localAddr }))
    (htrace : k'.trace = ⟨.bind fd addr addrlen, 0, none, 0⟩ :: k.trace)
  | listening (fd : SOCKET) (backlog : Int) (d : Desc) (ephemeral : Bytes)
    (hopen : k.table fd = some d)
    (htable : k'.table = Function.update k.table fd
      (some { d with listening := true, localAddr := some (d.localAddr.getD ephemeral) }))
    (htrace : k'.trace = ⟨.listen fd backlog, 0, none, 0⟩ :: k.trace)
  | closed (fd : SOCKET) (ret : Int) (error : Option Int)
    (htable : k'.table = Function.update k.table fd none)
    (htrace : k'.trace = ⟨.close fd, ret, error, 0⟩ :: k.trace)

namespace Kernel.Effect

variable {k : Kernel}

private theorem log (call : Call) (ret : Int) (out : Ptr) (h : Event.passive call = true) :
    Effect k (k.log call ret out) :=
  .quiet _ (Event.quiet_of_passive (e := ⟨call, ret, none, out⟩) h) rfl rfl

private theorem fail (call : Call) (error : Int) (h : ∀ fd, call ≠ .close fd) :
    Effect k (k.fail call error) :=
  .quiet _ (Event.quiet_of_failed (e := ⟨call, -1, some error, 0⟩) rfl h) rfl rfl

private theorem attempt (call : Call) (sfd : SOCKET) (refused : Option Int) (effect : Desc → Desc)
    (h : Event.passive call = true) (horigin : ∀ d, (effect d).origin = d.origin)
    (haddr : ∀ d, (effect d).localAddr = d.localAddr)
    (hlisten : ∀ d, (effect d).listening = d.listening) :
    Effect k (k.attempt call sfd refused effect).2 := by
  rcases attempt_cases with ⟨error, hret⟩ | ⟨d, hopen, _, hret⟩
  · rw [hret]
    apply fail
    intro fd hcall
    simp [hcall, Event.passive] at h
  · rw [hret]
    exact .tuned _ (Event.quiet_of_passive (e := ⟨call, 0, none, 0⟩) h) sfd d (effect d) hopen
      (horigin d) (haddr d) (hlisten d) rfl rfl

end Kernel.Effect

/-- Every step has one of these effects. -/
theorem step_effect (os : OS) (op : Op) (w : World) :
    w.kernel.Effect (step os op w).2.kernel := by
  cases op with
  | socket domain type protocol =>
    simp only [step, World.syscall, World.kernel_withKernel]
    unfold Kernel.socket
    split
    · exact .fail _ _ (by simp)
    · rename_i fd h
      exact .opened domain type protocol fd _ (os.socket_free h).2 rfl rfl
  | setsockopt sfd level optname value =>
    exact .attempt _ _ _ _ rfl (fun _ => rfl) (fun _ => rfl) (fun _ => rfl)
  | getsockopt sfd level optname =>
    simp only [step, World.syscall, World.kernel_withKernel]
    rcases w.kernel.getsockopt_cases os sfd level optname with ⟨error, hret⟩ | ⟨d, _, _, hret⟩
    · rw [hret]
      exact .fail _ _ (by simp)
    · rw [hret]
      exact .log _ _ _ rfl
  | bind sfd addr addrlen =>
    simp only [step, World.syscall, World.kernel_withKernel]
    unfold Kernel.bind
    rcases Kernel.attempt_cases with ⟨error, hret⟩ | ⟨d, hopen, _, hret⟩
    · rw [hret]
      exact .fail _ _ (by simp)
    · rw [hret]
      exact .bound sfd addr addrlen d _ hopen rfl rfl
  | listen sfd backlog =>
    simp only [step, World.syscall, World.kernel_withKernel]
    unfold Kernel.listen
    rcases Kernel.attempt_cases with ⟨error, hret⟩ | ⟨d, hopen, _, hret⟩
    · rw [hret]
      exact .fail _ _ (by simp)
    · rw [hret]
      exact .listening sfd backlog d _ hopen rfl rfl
  | getsockname sfd =>
    simp only [step, World.syscall, World.kernel_withKernel]
    rcases w.kernel.getsockname_cases os sfd with ⟨error, hret⟩ | ⟨d, _, hret⟩
    · rw [hret]
      exact .fail _ _ (by simp)
    · rw [hret]
      exact .log _ _ _ rfl
  | accept sfd =>
    simp only [step, World.syscall, World.kernel_withKernel]
    unfold Kernel.accept
    split
    · exact .fail _ _ (by simp)
    · exact .fail _ _ (by simp)
    · rename_i d fd _ h
      exact .accepted _ (Event.quiet_of_passive (e := ⟨.accept sfd, fd, none, 0⟩) rfl) fd _
        (os.accept_free h).2 rfl rfl rfl
  | recv sfd len =>
    simp only [step, World.syscall, World.kernel_withKernel]
    rcases w.kernel.recv_cases os sfd len with ⟨error, hret⟩ | ⟨bytes, _, hret⟩
    · rw [hret]
      exact .fail _ _ (by simp)
    · rw [hret]
      exact .log _ _ _ rfl
  | shutdown sfd how => exact .attempt _ _ _ _ rfl (fun _ => rfl) (fun _ => rfl) (fun _ => rfl)
  | close sfd =>
    obtain ⟨ret, error, htable, htrace, _⟩ := w.kernel.close_effect os sfd
    exact .closed sfd ret error htable htrace
  | connect sfd addr addrlen =>
    exact .attempt _ _ _ _ rfl (fun _ => rfl) (fun _ => rfl) (fun _ => rfl)
  | send sfd msg =>
    simp only [step, World.syscall, World.kernel_withKernel]
    unfold Kernel.send
    split
    · exact .fail _ _ (by simp)
    · exact .fail _ _ (by simp)
    · exact .log _ _ _ rfl
  | getaddrinfo query =>
    simp only [step, World.syscall, World.kernel_withKernel]
    unfold Kernel.getaddrinfo
    split
    · exact .log _ _ _ rfl
    · exact .quiet _ (Event.quiet_of_passive (e := ⟨.getaddrinfo query, 0, none, _⟩) rfl) rfl rfl
  | freeaddrinfo res =>
    exact .quiet _ (Event.quiet_of_passive (e := ⟨.freeaddrinfo res, 0, none, 0⟩) rfl) rfl rfl
  | errno => exact .log _ _ _ rfl
  | _ => exact .same rfl rfl

theorem run_keeps_kernel (os : OS) {P : Kernel → Prop}
    (hP : ∀ k k', Kernel.Effect k k' → P k → P k') {α : Type} (p : Prog α) (w : World)
    (hw : P w.kernel) : P (p.run (step os) w).2.kernel :=
  run_keeps (step os) (P := fun w => P w.kernel)
    (fun op w hw => hP _ _ (step_effect os op w) hw) p w hw

end ClientServerTcp
