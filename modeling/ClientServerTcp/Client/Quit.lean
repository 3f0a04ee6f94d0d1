import ClientServerTcp.Socket.Scope
import ClientServerTcp.Sources.ClientTcp

/-! `quit_server` gives everything back on every way out, and returns only when
the byte was taken by a connection. -/
namespace ClientServerTcp
open Effects Program Memory

def connected (k : Kernel) (fd : SOCKET) (d : Desc) (res : Addrinfo) : Kernel :=
  (k.setDesc fd (some d)).log (.connect fd res.aiAddr res.aiAddrlen) 0

/-- How the statements of `quit_server` can end, for an open descriptor and an
address. -/
inductive Delivery (os : OS) (k : Kernel) (fd : SOCKET) (d : Desc) (res : Addrinfo) :
    Except RuntimeError Unit → Kernel → Prop
  | refused (error : Int) (h : os.connect k fd res.aiAddr res.aiAddrlen = some error) :
    Delivery os k fd d res (.error (.withErrno .msg1019 error))
      ((k.fail (.connect fd res.aiAddr res.aiAddrlen) error).log .errno error)
  | unsent (error : Int) (h : os.connect k fd res.aiAddr res.aiAddrlen = none)
    (hsend : os.send (connected k fd d res) fd [charQ] = .error error) :
    Delivery os k fd d res (.error (.withErrno .msg1021 error))
      (((connected k fd d res).fail (.send fd [charQ]) error).log .errno error)
  | untaken (h : os.connect k fd res.aiAddr res.aiAddrlen = none)
    (hsend : os.send (connected k fd d res) fd [charQ] = .ok 0) :
    Delivery os k fd d res (.error (.withErrno .msg1021 k.errno))
      (((connected k fd d res).log (.send fd [charQ]) 0).log .errno k.errno)
  | sent (h : os.connect k fd res.aiAddr res.aiAddrlen = none)
    (hsend : os.send (connected k fd d res) fd [charQ] = .ok 1) :
    Delivery os k fd d res (.ok ())
      (((connected k fd d res).log (.send fd [charQ]) 1).shutdown os fd shutRdwr).2

variable (os : OS) {w : World}

theorem wp_quitServerBody {sock : ObjId} {ai : InfoId} {s : CSocket} {d : Desc} {res : Addrinfo}
    (hs : w.objs sock = some s) (hd : w.kernel.table s.mSfd = some d)
    (harrow : (CAddrinfo.arrow ai).run (step os) w = (.ok res, w)) :
    (quitServerBody sock ai).wp (step os)
      (fun _ w' => ∃ k, Delivery os w.kernel s.mSfd d res (.ok ()) k ∧ w' = w.withKernel k)
      (fun e w' => ∃ error k, e = .thrown error ∧
        Delivery os w.kernel s.mSfd d res (.error error) k ∧ w' = w.withKernel k) w := by
  simp only [quitServerBody, wp_bind', wp_of_run _ harrow, CSocket.operatorSOCKET,
    Sys.wp_load_mSfd, hs, Option.getD_some, Sys.wp_connect, wp_ite, wp_throw_error, Sys.wp_send,
    Sys.wp_shutdown, wp_pure, World.objs_withKernel, World.kernel_withKernel,
    World.withKernel_withKernel]
  simp only [Kernel.connect, Kernel.attempt_open hd]
  cases hconnect : os.connect w.kernel s.mSfd res.aiAddr res.aiAddrlen with
  | some error =>
    rw [if_pos (show (-1 : Int) ≠ 0 by decide)]
    exact ⟨_, _, rfl, .refused error hconnect, rfl⟩
  | none =>
    have hconnected : (w.kernel.setDesc s.mSfd (some (id d))).log
        (.connect s.mSfd res.aiAddr res.aiAddrlen) 0 = connected w.kernel s.mSfd d res := rfl
    have hopen : (connected w.kernel s.mSfd d res).table s.mSfd = some d := by simp [connected]
    rw [if_neg (by simp)]
    simp only [hconnected, Kernel.send, hopen]
    cases hsend : os.send (connected w.kernel s.mSfd d res) s.mSfd [charQ] with
    | error error =>
      rw [if_pos (show (-1 : Int) ≠ 1 by decide)]
      exact ⟨_, _, rfl, .unsent error hconnect hsend, rfl⟩
    | ok n =>
      have hle : n ≤ 1 := os.send_le hsend
      by_cases hn : n = 1
      · subst hn
        rw [if_neg (by simp)]
        exact ⟨_, .sent hconnect hsend, rfl⟩
      · obtain rfl : n = 0 := by omega
        rw [if_pos (by simp)]
        exact ⟨_, _, rfl, .untaken hconnect hsend, rfl⟩

/-- After `start`, a connection was made and the byte 'Q' was taken. -/
def Delivered (start k : Kernel) : Prop :=
  ∃ fd addr addrlen newer older, k.trace = newer ++ ⟨.send fd [charQ], 1, none, 0⟩ ::
    ⟨.connect fd addr addrlen, 0, none, 0⟩ :: older ++ start.trace

section
variable {start k k' : Kernel} {fd : SOCKET} {d : Desc} {res : Addrinfo} {p : Option Ptr}

theorem Holding.shutdown (hk : Holding start (some fd) p k) :
    Holding start (some fd) p (k.shutdown os fd shutRdwr).2 := by
  unfold Kernel.shutdown
  rcases Kernel.attempt_cases with ⟨error, hret⟩ | ⟨d, hopen, _, hret⟩
  · rw [hret]
    exact hk.fail rfl error
  · rw [hret]
    exact hk.modify rfl _ _

variable {os}

theorem Delivery.holding {r : Except RuntimeError Unit} (h : Delivery os k fd d res r k')
    (hk : Holding start (some fd) p k) : Holding start (some fd) p k' := by
  have hconnected : Holding start (some fd) p (connected k fd d res) := hk.modify rfl _ _
  cases h with
  | refused error h => exact hk.failed rfl error
  | unsent error h hsend => exact hconnected.failed rfl error
  | untaken h hsend => exact (hconnected.log rfl _ _).log rfl _ _
  | sent h hsend => exact (hconnected.log rfl _ _).shutdown os

variable (os fd res) in
theorem sent_trace (k : Kernel) (d : Desc) : ∃ ret error,
    (((connected k fd d res).log (.send fd [charQ]) 1).shutdown os fd shutRdwr).2.trace =
      [⟨.shutdown fd shutRdwr, ret, error, 0⟩, ⟨.send fd [charQ], 1, none, 0⟩,
        ⟨.connect fd res.aiAddr res.aiAddrlen, 0, none, 0⟩] ++ k.trace := by
  obtain ⟨ret, error, _, htrace, _⟩ :=
    ((connected k fd d res).log (.send fd [charQ]) 1).shutdown_effect os fd shutRdwr
  exact ⟨ret, error, htrace⟩

end

def quitInfo : CAddrinfo := { mService := "4433", mHints := {
  aiFlags := (aiNumerichost ||| aiNumericserv : Nat), aiFamily := afUnspec
  aiSocktype := sockStream } }

def quitAddress (entry : Addrinfo) : Addrinfo :=
  { entry with aiProtocol := quitInfo.mHints.aiProtocol, aiFlags := quitInfo.mHints.aiFlags }

/-- How `quit_server` can end, and the system it leaves behind. -/
inductive Quits (os : OS) (k : Kernel) : Except RuntimeError Unit → Kernel → Prop
  | noSocket (error : RuntimeError) (k' : Kernel)
    (h : CSocket.Constructed os k afInet6 sockStream 0 (.error error) k') :
    Quits os k (.error error) k'
  | noAddress (s : CSocket) (k₁ : Kernel) (error : Int)
    (h : CSocket.Constructed os k afInet6 sockStream 0 (.ok s) k₁)
    (hanswer : os.getaddrinfo k₁ quitInfo.query = .error error) :
    Quits os k (.error (.msg1025 error))
      ((k₁.log (.getaddrinfo quitInfo.query) error).close os s.mSfd).2
  | attempted (s : CSocket) (k₁ k₂ : Kernel) (d : Desc) (entry : Addrinfo) (rest : List Addrinfo)
    (r : Except RuntimeError Unit)
    (h : CSocket.Constructed os k afInet6 sockStream 0 (.ok s) k₁)
    (hopen : k₁.table s.mSfd = some d)
    (hanswer : os.getaddrinfo k₁ quitInfo.query = .ok (entry :: rest))
    (hdelivery : Delivery os (CAddrinfo.obtained k₁ quitInfo.query (entry :: rest)) s.mSfd d
      (quitAddress entry) r k₂) :
    Quits os k r ((k₂.freeaddrinfo k₁.lists.next).close os s.mSfd).2

theorem wp_quitServer : quitServer.wp (step os)
    (fun _ w' => Quits os w.kernel (.ok ()) w'.kernel)
    (fun e w' => ∃ error, e = .thrown error ∧ Quits os w.kernel (.error error) w'.kernel) w := by
  unfold quitServer
  rw [wp_bracket]
  apply wp_mono (CSocket.wp_construct os w afInet6 sockStream 0)
  · intro o w₁ hconstructed
    obtain ⟨rfl, s, k₁, hspec, rfl⟩ := hconstructed
    obtain ⟨_, d, hd, _⟩ := hspec.opened_ok (by decide)
    have hs₁ : (w.objs.alloc s) w.objs.next = some s := Heap.alloc_next
    apply wp_automaticAddrinfo os quitInfo rfl
    · intro error hanswer
      rw [wp_destructSocket os hs₁]
      exact ⟨_, rfl, .noAddress s k₁ error hspec hanswer⟩
    · intro entry rest hanswer this w₂ entry' harrow
      apply wp_mono (wp_quitServerBody os (show w₂.objs w.objs.next = some s from hs₁)
        (show w₂.kernel.table s.mSfd = some d from hd) harrow)
      · intro _ w₃ hdelivery
        obtain ⟨k₃, hdelivery, rfl⟩ := hdelivery
        refine ⟨Heap.alloc_next, ?_⟩
        rw [wp_destructSocket os hs₁]
        exact .attempted s k₁ k₃ d entry rest _ hspec hd hanswer hdelivery
      · intro e w₃ hthrown
        obtain ⟨error, k₃, rfl, hdelivery, rfl⟩ := hthrown
        refine ⟨Heap.alloc_next, ?_⟩
        rw [wp_destructSocket os hs₁]
        exact ⟨error, rfl, .attempted s k₁ k₃ d entry rest _ hspec hd hanswer hdelivery⟩
  · intro e w₁ hthrown
    obtain ⟨error, k₁, rfl, hspec, rfl⟩ := hthrown
    exact ⟨error, rfl, .noSocket error k₁ hspec⟩

section
variable {os} {start k k' : Kernel}

theorem Quits.holding {r : Except RuntimeError Unit} (h : Quits os k r k')
    (hk : Holding start none none k) : Holding start none none k' := by
  cases h with
  | noSocket error _ hspec => exact hspec.holding_error hk
  | noAddress s k₁ error hspec hanswer =>
    have hk₁ := hspec.holding_ok (by decide) hk
    exact (hk₁.noList quitInfo.query (os.getaddrinfo_err hanswer)).close os
  | attempted s k₁ k₂ d entry rest _ hspec hopen hanswer hdelivery =>
    have hk₁ := hspec.holding_ok (by decide) hk
    exact (hdelivery.holding (hk₁.list _ _)).free.close os

theorem attempted_trace (middle : List Event) {s : CSocket} {k₁ k₂ : Kernel} {list : List Addrinfo}
    (h : CSocket.Constructed os k afInet6 sockStream 0 (.ok s) k₁)
    (hmiddle : k₂.trace = middle ++ (CAddrinfo.obtained k₁ quitInfo.query list).trace) :
    ∃ ret error options,
      (∀ e ∈ options, ∃ level optname, e = ⟨.setsockopt s.mSfd level optname 0, 0, none, 0⟩) ∧
      ((k₂.freeaddrinfo k₁.lists.next).close os s.mSfd).2.trace =
        [⟨.close s.mSfd, ret, error, 0⟩, ⟨.freeaddrinfo k₁.lists.next, 0, none, 0⟩] ++
        (middle ++ (⟨.getaddrinfo quitInfo.query, 0, none, k₁.lists.next⟩ :: (options ++
          [⟨.socket afInet6 sockStream 0, s.mSfd, none, 0⟩]))) ++ k.trace := by
  obtain ⟨options, htrace, hoptions⟩ := h.trace_ok (by decide)
  obtain ⟨ret, error, _, hclosed, _⟩ := (k₂.freeaddrinfo k₁.lists.next).close_effect os s.mSfd
  refine ⟨ret, error, options, hoptions, ?_⟩
  rw [hclosed, Kernel.freeaddrinfo, Kernel.trace_log, Kernel.trace_setLists, hmiddle,
    CAddrinfo.obtained, Kernel.trace_log, Kernel.trace_setLists, htrace]
  simp

theorem Quits.delivered (h : Quits os k (.ok ()) k') : Delivered k k' := by
  cases h with
  | attempted s k₁ k₂ d entry rest _ hspec hopen hanswer hdelivery =>
    cases hdelivery with
    | sent hconnect hsend =>
      obtain ⟨r, e, hmiddle⟩ := sent_trace os s.mSfd (quitAddress entry)
        (CAddrinfo.obtained k₁ quitInfo.query (entry :: rest)) d
      obtain ⟨ret, error, options, _, htrace⟩ := attempted_trace _ hspec hmiddle
      exact ⟨s.mSfd, (quitAddress entry).aiAddr, (quitAddress entry).aiAddrlen,
        [⟨.close s.mSfd, ret, error, 0⟩, ⟨.freeaddrinfo k₁.lists.next, 0, none, 0⟩,
          ⟨.shutdown s.mSfd shutRdwr, r, e, 0⟩], _, htrace⟩

end
end ClientServerTcp
