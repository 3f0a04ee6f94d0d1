import ClientServerTcp.Client.Quit
import ClientServerTcp.Process
import ClientServerTcp.Server.Construct

/-! A process that also makes servers, and tells a server to quit. The sockets
stay owned through both, whatever fails in them. -/
namespace ClientServerTcp
open Effects Program Memory

inductive AppOp where
  | process (op : ProcessOp)
  | server (aPort : String) (aReuseAddr : Bool)
  | quitServer

def AppOp.exec (os : OS) (w : World) : AppOp → World
  | .process op => op.exec os w
  | .server aPort aReuseAddr => ((CServerTCP.construct aPort aReuseAddr).run (step os) w).2
  | .quitServer => (ClientServerTcp.quitServer.run (step os) w).2

def appHistory (os : OS) (ops : List AppOp) : World := ops.foldl (AppOp.exec os) .initial

private theorem Kernel.Calm.attempt_id {k : Kernel} (call : Call) (sfd : SOCKET)
    (refused : Option Int) (h : Event.passive call = true) :
    Kernel.Calm k (k.attempt call sfd refused id).2 := by
  rcases Kernel.attempt_cases with ⟨error, hret⟩ | ⟨d, hopen, _, hret⟩
  · rw [hret]
    refine .fail _ _ _ ?_
    rintro fd rfl
    contradiction
  · rw [hret]
    have hsame : (k.setDesc sfd (some (id d))).table = k.table := by
      rw [Kernel.table_setDesc, id, ← hopen, Function.update_eq_self]
    obtain ⟨htable, hevents⟩ := Kernel.Calm.log (k.setDesc sfd (some (id d))) call 0 0 h
    exact ⟨htable.trans hsame, hevents⟩

private theorem Kernel.Calm.send (os : OS) (k : Kernel) (sfd : SOCKET) (msg : Bytes) :
    Kernel.Calm k (k.send os sfd msg).2 := by
  unfold Kernel.send
  split
  · exact .fail _ _ _ (by simp)
  · exact .fail _ _ _ (by simp)
  · exact .log _ _ _ _ rfl

namespace Invariant

variable {os : OS} {w : World}

private def Lives (o : ObjId) (w : World) : Prop := Invariant w ∧ ∃ s, w.objs o = some s

private theorem Lives.calm {o : ObjId} {w' : World} (h : Lives o w) (hobjs : w'.objs = w.objs)
    (hcalm : Kernel.Calm w.kernel w'.kernel) : Lives o w' := by
  obtain ⟨inv, s, hs⟩ := h
  obtain ⟨hk, hstatus⟩ := hcalm.sound_status inv.sound
  refine ⟨⟨hk, hobjs ▸ inv.tidy, ?_⟩, s, hobjs ▸ hs⟩
  rw [hobjs, hstatus]
  exact inv.exact

private theorem lives_construct (inv : Invariant w) (domain type protocol : Int) :
    (CSocket.construct domain type protocol).wp (step os)
      (fun o w' => Lives o w' ∧ w'.infos = w.infos) (fun _ => Invariant) w := by
  apply wp_mono (wp_and _ (inv.construct domain type protocol)
    (CSocket.wp_construct os w domain type protocol))
  · rintro _ _ ⟨hinv, rfl, s, k, _, rfl⟩
    exact ⟨⟨hinv, s, Heap.alloc_next⟩, rfl⟩
  · exact fun _ _ h => h.1

private theorem lives_bind {o : ObjId} (h : Lives o w) (ai : Addrinfo) :
    (CSocket.bind o ai).wp (step os) (fun _ w' => Lives o w' ∧ w'.infos = w.infos)
      (fun _ w' => Lives o w' ∧ w'.infos = w.infos) w := by
  obtain ⟨inv, s, hs⟩ := h
  apply wp_mono (wp_and _ (inv.bind ai hs) (CSocket.wp_bind os ai hs))
  · rintro _ _ ⟨hinv, s', k, _, rfl⟩
    exact ⟨⟨hinv, s', Heap.set_at hs⟩, rfl⟩
  · rintro _ _ ⟨hinv, error, k, _, _, rfl⟩
    exact ⟨⟨hinv, s, hs⟩, rfl⟩

private theorem lives_listen {o : ObjId} (h : Lives o w) :
    (CSocket.listen o).wp (step os) (fun _ w' => Lives o w' ∧ w'.infos = w.infos)
      (fun _ w' => Lives o w' ∧ w'.infos = w.infos) w := by
  obtain ⟨inv, s, hs⟩ := h
  apply wp_mono (wp_and _ (inv.listen hs) (CSocket.wp_listen os hs))
  · rintro _ _ ⟨hinv, s', k, _, rfl⟩
    exact ⟨⟨hinv, s', Heap.set_at hs⟩, rfl⟩
  · rintro _ _ ⟨hinv, error, k, _, _, rfl⟩
    exact ⟨⟨hinv, s, hs⟩, rfl⟩

private theorem lives_destruct {o : ObjId} (h : Lives o w) :
    (CSocket.destruct o).wp (step os) (fun _ => Invariant) (fun _ => Invariant) w := by
  obtain ⟨inv, s, hs⟩ := h
  have hinv : Invariant ((CSocket.destruct o).run (step os) w).2 := inv.destruct hs
  rw [CSocket.run_destruct os hs] at hinv
  rwa [wp_destructSocket os hs]

private theorem lives_automatic {o : ObjId} {α : Type} {body : InfoId → Prog α}
    {aNode aService : String} {aFamily aSocktype aFlags aProtocol : Int} (h : Lives o w)
    (hbody : ∀ ai entry w₁, Lives o w₁ → (CAddrinfo.arrow ai).run (step os) w₁ = (.ok entry, w₁) →
      (body ai).wp (step os) (fun _ w' => Lives o w' ∧ w'.infos = w₁.infos)
        (fun _ w' => Lives o w' ∧ w'.infos = w₁.infos) w₁) :
    (bracket (CAddrinfo.construct aNode aService aFamily aSocktype aFlags aProtocol)
      CAddrinfo.destruct body).wp (step os) (fun _ => Lives o) (fun _ => Lives o) w := by
  apply wp_automaticAddrinfo os _ rfl
  · intro error _
    exact h.calm rfl (.log _ _ _ _ rfl)
  · intro entry rest _ this w₁ entry' harrow
    have h₁ : Lives o w₁ := h.calm rfl (.log (w.kernel.setLists _) _ _ _ rfl)
    have hfreed : ∀ w', Lives o w' ∧ w'.infos = w₁.infos → w'.infos w.infos.next = some this ∧
        Lives o { w' with
          kernel := w'.kernel.freeaddrinfo this.mRes
          infos := w'.infos.free w.infos.next } := by
      rintro w' ⟨h', hinfos⟩
      refine ⟨hinfos ▸ Heap.alloc_next, h'.calm rfl (.log (w'.kernel.setLists _) _ _ _ rfl)⟩
    exact wp_mono (hbody _ _ _ h₁ harrow) (fun _ => hfreed) (fun _ => hfreed)

theorem server (inv : Invariant w) (aPort : String) (aReuseAddr : Bool) :
    (CServerTCP.construct aPort aReuseAddr).wp (step os) (fun _ => Invariant)
      (fun _ => Invariant) w := by
  simp only [CServerTCP.construct, wp_bind', wp_onError, Sys.wp_storeReady, wp_pure]
  apply wp_mono (inv.lives_construct afInet6 sockStream 0)
  · rintro o w₁ ⟨h₁, _⟩
    have h₂ : Lives o { w₁ with ready := Function.update w₁.ready o false } := h₁.calm rfl (.refl _)
    apply wp_mono (lives_automatic h₂ ?_)
    · exact fun _ _ h => h.1
    · exact fun _ _ h => lives_destruct h
    · intro ai entry w₃ h₃ harrow
      rw [wp_bind', wp_of_run _ harrow, wp_bind']
      apply wp_mono (lives_bind h₃ entry)
      · rintro _ w₄ ⟨h₄, hinfos⟩
        rw [← hinfos]
        exact lives_listen h₄
      · exact fun _ _ h => h
  · exact fun _ _ h => h

private theorem lives_quitServerBody {sock : ObjId} {ai : InfoId} {entry : Addrinfo}
    (h : Lives sock w) (harrow : (CAddrinfo.arrow ai).run (step os) w = (.ok entry, w)) :
    (quitServerBody sock ai).wp (step os) (fun _ w' => Lives sock w' ∧ w'.infos = w.infos)
      (fun _ w' => Lives sock w' ∧ w'.infos = w.infos) w := by
  have hcalm : ∀ k, Kernel.Calm w.kernel k → Lives sock (w.withKernel k) ∧
      (w.withKernel k).infos = w.infos := fun k hk => ⟨h.calm rfl hk, rfl⟩
  obtain ⟨_, s, hs⟩ := h
  simp only [quitServerBody, wp_bind', wp_of_run _ harrow, CSocket.operatorSOCKET,
    Sys.wp_load_mSfd, hs, Option.getD_some, Sys.wp_connect, wp_ite, wp_throw_error, Sys.wp_send, Sys.wp_shutdown, wp_pure,
    World.objs_withKernel, World.kernel_withKernel, World.withKernel_withKernel]
  have hconnect : Kernel.Calm w.kernel
      (w.kernel.connect os s.mSfd entry.aiAddr entry.aiAddrlen).2 := .attempt_id _ _ _ rfl
  split
  · exact hcalm _ (hconnect.trans (.log _ _ _ _ rfl))
  have hsend := hconnect.trans (.send os _ s.mSfd [charQ])
  split
  · exact hcalm _ (hsend.trans (.log _ _ _ _ rfl))
  · exact hcalm _ (hsend.trans (.attempt_id _ _ _ rfl))

theorem quitServer (inv : Invariant w) :
    (ClientServerTcp.quitServer).wp (step os) (fun _ => Invariant) (fun _ => Invariant) w := by
  unfold ClientServerTcp.quitServer
  rw [wp_bracket]
  apply wp_mono (inv.lives_construct afInet6 sockStream 0)
  · rintro sock w₁ ⟨h₁, _⟩
    apply wp_mono (lives_automatic h₁ ?_)
    · exact fun _ _ h => lives_destruct h
    · exact fun _ _ h => lives_destruct h
    · intro ai entry w₂ h₂ harrow
      exact lives_quitServerBody h₂ harrow
  · exact fun _ _ h => h

theorem app (inv : Invariant w) (op : AppOp) : Invariant (op.exec os w) := by
  cases op with
  | process op => exact inv.process op
  | server aPort aReuseAddr => exact state_of_wp _ (inv.server aPort aReuseAddr)
  | quitServer => exact state_of_wp _ inv.quitServer

theorem apps (inv : Invariant w) (later : List AppOp) :
    Invariant (later.foldl (AppOp.exec os) w) := by
  induction later generalizing w with
  | nil => exact inv
  | cons op later ih => exact ih (inv.app op)

end Invariant
end ClientServerTcp
