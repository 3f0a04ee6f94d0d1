import ClientServerTcp.Sources.Socket
import ClientServerTcp.System.History

/-! What each member function of `CSocket` does to the objects and to the
system, in every run. The proofs about sequences of operations use these facts
and never look into the functions again. -/
namespace ClientServerTcp.CSocket
open Effects Program Memory

section Moves
variable (os : OS) {w : World}

theorem run_moveConstruct {that : ObjId} {s : CSocket} (hs : w.objs that = some s) :
    (moveConstruct that).run (step os) w =
      (.ok w.objs.next, w.withObjs ((w.objs.set that {}).alloc s)) := by
  apply run_of_wp
  simp only [moveConstruct, takeM, lockBoth, Sys.wp_new, Sys.wp_load_mAf, Sys.wp_load_mSfd,
    Sys.wp_load_mBound, Sys.wp_load_mListen, Sys.wp_store, wp_bind', wp_scopedLock, wp_pure,
    World.objs_withObjs, World.withObjs_withObjs, true_and]
  have hne := Heap.ne_next hs
  refine congrArg w.withObjs (Heap.ext (funext fun o => ?_) rfl)
  by_cases hthat : o = that
  · simp [hthat, hne, hs, set, Heap.set]
  · by_cases hnext : o = w.objs.next
    · simp [hnext, hne.symm, hne, hs, set, Heap.set]
    · simp [hthat, hnext, Heap.set]

theorem run_assign {this that : ObjId} {t s : CSocket} (hne : this ≠ that)
    (ht : w.objs this = some t) (hs : w.objs that = some s) :
    (assign this that).run (step os) w =
      (.ok (), w.withObjs ((w.objs.set this s).set that t)) := by
  apply run_of_wp
  simp only [assign, swapM, lockBoth, Sys.wp_load_mAf, Sys.wp_load_mSfd, Sys.wp_load_mBound,
    Sys.wp_load_mListen, Sys.wp_store, wp_bind', wp_scopedLock, World.objs_withObjs,
    World.withObjs_withObjs, true_and]
  refine congrArg w.withObjs (Heap.ext (funext fun o => ?_) rfl)
  by_cases hthis : o = this
  · simp [hthis, hne, hne.symm, ht, hs, set, Heap.set]
  · by_cases hthat : o = that
    · simp [hthat, hne, hne.symm, ht, hs, set, Heap.set]
    · simp [hthis, hthat, Heap.set]

theorem run_destruct {this : ObjId} {s : CSocket} (hs : w.objs this = some s) :
    (destruct this).run (step os) w = (.ok (), { w with
      kernel := (w.kernel.close os s.mSfd).2
      objs := w.objs.free this }) := by
  apply run_of_wp
  simp only [destruct, Sys.wp_load_mSfd, Sys.wp_store, Sys.wp_delete, wp_bind', wp_closeSocketP,
    hs, Option.getD_some, true_and]
  simp [World.withObjs, World.withKernel]

/-- A move assignment moves the members as one unit, and closes the descriptor
that the target held before. -/
theorem run_moveAssign {this source : ObjId} {t s : CSocket}
    (ht : w.objs this = some t) (hs : w.objs source = some s) :
    (moveAssign this source).run (step os) w = (.ok (), { w with
      kernel := (w.kernel.close os (if this = source then invalidSocket else t.mSfd)).2
      objs := ((w.objs.set source {}).set this s).skip }) := by
  let old : CSocket := if this = source then {} else t
  have hold : old.mSfd = if this = source then invalidSocket else t.mSfd := by
    dsimp only [old]
    split <;> rfl
  have hcleared : (w.objs.set source {}) this = some old := by
    rw [Heap.cells_set hs]
    by_cases heq : this = source
    · simp [heq, old]
    · simp [heq, old, ht]
  have hmoved : ((w.objs.set source {}).alloc s) this = some old :=
    Heap.alloc_of hcleared
  have hassigned : (((w.objs.set source {}).alloc s).set this s).set w.objs.next old =
      ((w.objs.set source {}).set this s).alloc old := by
    rw [Heap.alloc_set hcleared]
    exact Heap.set_alloc ..
  have hdead : (((w.objs.set source {}).set this s).alloc old).free w.objs.next =
      ((w.objs.set source {}).set this s).skip := Heap.free_alloc ..
  apply run_of_wp
  rw [moveAssign, wp_bracket, wp_of_run _ (run_moveConstruct os hs),
    wp_of_run _ (run_assign os (Heap.ne_next ht) hmoved Heap.alloc_next),
    World.objs_withObjs, hassigned, World.withObjs_withObjs,
    wp_of_run _ (run_destruct os Heap.alloc_next), World.objs_withObjs, hdead, ← hold]
  exact ⟨rfl, rfl⟩

end Moves

/-! ## The constructor -/

def opened (os : OS) (k : Kernel) (fd : SOCKET) (domain type protocol : Int) : Desc :=
  { domain, sockType := Kernel.sockTypeOf type, protocol, origin := .socket
    option := os.defaultOption k fd }

section
variable (os : OS) (k : Kernel) (fd : SOCKET) (domain type protocol : Int)

/-! The system after each call of the constructor that succeeds. -/

def afterSocket : Kernel :=
  (k.setDesc fd (some (opened os k fd domain type protocol))).log (.socket domain type protocol) fd

def afterReuseaddr : Kernel :=
  ((afterSocket os k fd domain type protocol).setDesc fd
    (some ((opened os k fd domain type protocol).setOption solSocket soReuseaddr 0))).log
      (.setsockopt fd solSocket soReuseaddr 0) 0

def afterV6only : Kernel :=
  ((afterReuseaddr os k fd domain type protocol).setDesc fd
    (some (((opened os k fd domain type protocol).setOption solSocket soReuseaddr 0).setOption
      ipprotoIpv6 ipv6V6only 0))).log (.setsockopt fd ipprotoIpv6 ipv6V6only 0) 0

end

/-- `CLOSE_SOCKET_P(sfd)` after a failing call. -/
def closeFailed (os : OS) (k : Kernel) (fd : SOCKET) (call : Call) (error : Int) : Kernel :=
  ((k.fail call error).close os fd).2

/-- How the constructor can end, and the system it leaves behind. -/
inductive Constructed (os : OS) (k : Kernel) (domain type protocol : Int) :
    Except RuntimeError CSocket → Kernel → Prop
  | empty (h : domain = 0 ∧ type = 0 ∧ protocol = 0) :
    Constructed os k domain type protocol (.ok {}) k
  | socket (error : Int) (h : os.socket k domain type protocol = .error error) :
    Constructed os k domain type protocol (.error (.withErrno .msg1002 error))
      ((k.fail (.socket domain type protocol) error).log .errno error)
  | reuseaddr (fd error : Int) (k' : Kernel) (h : os.socket k domain type protocol = .ok fd)
    (hrefused : os.setsockopt (afterSocket os k fd domain type protocol) fd solSocket
      soReuseaddr 0 = some error)
    (h' : k' = closeFailed os (afterSocket os k fd domain type protocol) fd
      (.setsockopt fd solSocket soReuseaddr 0) error) :
    Constructed os k domain type protocol (.error (.withErrno .msg1003 k'.errno))
      (k'.log .errno k'.errno)
  | v6only (fd error : Int) (k' : Kernel) (h : os.socket k domain type protocol = .ok fd)
    (hdomain : domain = afInet6)
    (hrefused : os.setsockopt (afterReuseaddr os k fd domain type protocol) fd ipprotoIpv6
      ipv6V6only 0 = some error)
    (h' : k' = closeFailed os (afterReuseaddr os k fd domain type protocol) fd
      (.setsockopt fd ipprotoIpv6 ipv6V6only 0) error) :
    Constructed os k domain type protocol (.error (.withErrno .msg1005 k'.errno))
      (k'.log .errno k'.errno)
  | inet (fd : Int) (h : os.socket k domain type protocol = .ok fd) (hdomain : domain ≠ afInet6) :
    Constructed os k domain type protocol (.ok { mSfd := fd, mAf := domain })
      (afterReuseaddr os k fd domain type protocol)
  | inet6 (fd : Int) (h : os.socket k domain type protocol = .ok fd) (hdomain : domain = afInet6) :
    Constructed os k domain type protocol (.ok { mSfd := fd, mAf := domain })
      (afterV6only os k fd domain type protocol)

private theorem wp_constructBody (os : OS) {w : World} {this : ObjId} (domain type protocol : Int)
    (hthis : w.objs this = some {}) :
    (constructBody this domain type protocol).wp (step os)
      (fun _ w' => ∃ s k, Constructed os w.kernel domain type protocol (.ok s) k ∧
        w' = { w with kernel := k, objs := w.objs.set this s })
      (fun e w' => ∃ error k, e = .thrown error ∧
        Constructed os w.kernel domain type protocol (.error error) k ∧ w' = w.withKernel k) w := by
  simp only [constructBody, wp_ite, wp_bind', wp_pure, Sys.wp_socket, wp_throw_error,
    Sys.wp_setsockopt, wp_closeSocketP, Sys.wp_store, World.kernel_withKernel,
    World.withKernel_withKernel, set]
  by_cases hempty : domain = 0 ∧ type = 0 ∧ protocol = 0
  · rw [if_pos hempty]
    exact ⟨{}, w.kernel, .empty hempty, by rw [Heap.set_self hthis]⟩
  rw [if_neg hempty]
  cases hsocket : os.socket w.kernel domain type protocol with
  | error error =>
    have hret : w.kernel.socket os domain type protocol =
        (invalidSocket, w.kernel.fail (.socket domain type protocol) error) := by
      simp [Kernel.socket, hsocket, invalidSocket]
    rw [hret, if_pos rfl]
    exact ⟨_, _, rfl, .socket error hsocket, rfl⟩
  | ok fd =>
    have hret : w.kernel.socket os domain type protocol =
        (fd, afterSocket os w.kernel fd domain type protocol) := by
      simp only [Kernel.socket, hsocket]
      rfl
    have hvalid : fd ≠ invalidSocket := ne_invalidSocket (os.socket_free hsocket).1
    have hopen₁ : (afterSocket os w.kernel fd domain type protocol).table fd =
        some (opened os w.kernel fd domain type protocol) := by simp [afterSocket]
    have hopen₂ : (afterReuseaddr os w.kernel fd domain type protocol).table fd =
        some ((opened os w.kernel fd domain type protocol).setOption solSocket soReuseaddr 0) := by
      simp [afterReuseaddr]
    rw [hret, if_neg hvalid]
    simp only [Kernel.setsockopt, Kernel.attempt_open hopen₁]
    cases hreuseaddr : os.setsockopt (afterSocket os w.kernel fd domain type protocol) fd solSocket
        soReuseaddr 0 with
    | some error => exact ⟨_, _, rfl, .reuseaddr fd error _ hsocket hreuseaddr rfl, rfl⟩
    | none =>
      rw [if_neg (by simp)]
      simp only [← afterReuseaddr.eq_def]
      by_cases hdomain : domain = afInet6
      · rw [if_pos hdomain]
        simp only [Kernel.attempt_open hopen₂]
        cases hv6only : os.setsockopt (afterReuseaddr os w.kernel fd domain type protocol) fd
            ipprotoIpv6 ipv6V6only 0 with
        | some error => exact ⟨_, _, rfl, .v6only fd error _ hsocket hdomain hv6only rfl, rfl⟩
        | none =>
          refine ⟨_, _, .inet6 fd hsocket hdomain, ?_⟩
          simp only [World.objs_withKernel, World.objs_withObjs, Heap.modify_eq_set _ hthis,
            Heap.modify_set]
          rfl
      · rw [if_neg hdomain]
        refine ⟨_, _, .inet fd hsocket hdomain, ?_⟩
        simp only [World.objs_withKernel, World.objs_withObjs, Heap.modify_eq_set _ hthis,
          Heap.modify_set]
        rfl

/-- `CSocket()` makes no call at all. -/
theorem run_construct_empty (os : OS) (w : World) :
    (construct 0 0 0).run (step os) w =
      (.ok w.objs.next, w.withObjs (w.objs.alloc {})) := rfl

theorem wp_construct (os : OS) (w : World) (domain type protocol : Int) :
    (construct domain type protocol).wp (step os)
      (fun o w' => o = w.objs.next ∧ ∃ s k, Constructed os w.kernel domain type protocol (.ok s) k ∧
        w' = { w with kernel := k, objs := w.objs.alloc s })
      (fun e w' => ∃ error k, e = .thrown error ∧
        Constructed os w.kernel domain type protocol (.error error) k ∧
        w' = { w with kernel := k, objs := w.objs.skip }) w := by
  simp only [construct, wp_bind', Sys.wp_new, wp_onError, wp_pure, Sys.wp_delete]
  apply wp_mono (wp_constructBody os domain type protocol (by simp))
  · rintro _ _ ⟨s, k, hspec, rfl⟩
    refine ⟨trivial, s, k, hspec, ?_⟩
    simp [World.withObjs]
  · rintro _ _ ⟨error, k, rfl, hspec, rfl⟩
    refine ⟨error, k, rfl, hspec, ?_⟩
    simp [World.withObjs, World.withKernel]

/-! ## Setters -/

/-- How `bind` can end for an object `s`. -/
inductive Bound (os : OS) (k : Kernel) (s : CSocket) (ai : Addrinfo) :
    Except RuntimeError CSocket → Kernel → Prop
  | getsockopt (error : Int) :
    Bound os k s ai (.error (.withErrno .msg1007 error))
      ((k.fail (.getsockopt s.mSfd solSocket soType) error).log .errno error)
  | socktype (d : Desc) (hopen : k.table s.mSfd = some d) (h : ai.aiSocktype ≠ d.sockType) :
    Bound os k s ai (.error (.msg1008 ai.aiSocktype d.sockType))
      (k.log (.getsockopt s.mSfd solSocket soType) 0)
  | refused (error : Int) :
    Bound os k s ai (.error (.withErrno .msg1009 error))
      (((k.log (.getsockopt s.mSfd solSocket soType) 0).fail
        (.bind s.mSfd ai.aiAddr ai.aiAddrlen) error).log .errno error)
  | bound (d : Desc) (hopen : k.table s.mSfd = some d) (h : ai.aiSocktype = d.sockType) :
    Bound os k s ai (.ok { s with mBound := true })
      (((k.log (.getsockopt s.mSfd solSocket soType) 0).setDesc s.mSfd
        (some { d with localAddr := some ((k.log (.getsockopt s.mSfd solSocket soType) 0).assigned
          os s.mSfd (ai.aiAddr.take ai.aiAddrlen)) })).log
          (.bind s.mSfd ai.aiAddr ai.aiAddrlen) 0)

theorem wp_bind (os : OS) {w : World} {this : ObjId} {s : CSocket} (ai : Addrinfo)
    (hs : w.objs this = some s) :
    (bind this ai).wp (step os)
      (fun _ w' => ∃ s' k, Bound os w.kernel s ai (.ok s') k ∧
        w' = { w with kernel := k, objs := w.objs.set this s' })
      (fun e w' => ∃ error k, e = .thrown error ∧
        Bound os w.kernel s ai (.error error) k ∧ w' = w.withKernel k) w := by
  simp only [bind, wp_ite, wp_bind', Sys.wp_load_mSfd, Sys.wp_getsockopt, wp_throw_error,
    wp_throwRuntimeError, wp_scopedLock, Sys.wp_bind, Sys.wp_store, World.kernel_withKernel,
    World.objs_withKernel, World.withKernel_withKernel, Heap.modify_eq_set _ hs, hs,
    Option.getD_some]
  rcases w.kernel.getsockopt_cases os s.mSfd solSocket soType with
    ⟨error, hget⟩ | ⟨d, hopen, _, hget⟩
  · rw [hget]
    exact ⟨_, _, rfl, .getsockopt error, rfl⟩
  have hvalue : w.kernel.optionValue os s.mSfd d solSocket soType = d.sockType := by
    simp [Kernel.optionValue]
  rw [hget, hvalue, if_neg (by decide : ¬(0 : Int) = socketError)]
  by_cases htype : ai.aiSocktype ≠ d.sockType
  · rw [if_pos htype]
    exact ⟨_, _, rfl, .socktype d hopen htype, rfl⟩
  rw [if_neg htype]
  simp only [Kernel.bind, Kernel.attempt_open (show (w.kernel.log _ 0).table s.mSfd = _ from hopen)]
  cases os.bind (w.kernel.log (.getsockopt s.mSfd solSocket soType) 0) s.mSfd ai.aiAddr
      ai.aiAddrlen with
  | some error => exact ⟨_, _, rfl, .refused error, rfl⟩
  | none => exact ⟨_, _, .bound d hopen (not_not.mp htype), rfl⟩

/-- How `listen` can end for an object `s`. -/
inductive Listening (os : OS) (k : Kernel) (s : CSocket) :
    Except RuntimeError CSocket → Kernel → Prop
  | refused (error : Int) :
    Listening os k s (.error (.withErrno .msg1010 error))
      ((k.fail (.listen s.mSfd 1) error).log .errno error)
  | listening (d : Desc) (hopen : k.table s.mSfd = some d) :
    Listening os k s (.ok { s with mListen := true })
      ((k.setDesc s.mSfd (some { d with
        listening := true, localAddr := some (d.localAddr.getD (os.ephemeral k s.mSfd)) })).log
          (.listen s.mSfd 1) 0)

theorem wp_listen (os : OS) {w : World} {this : ObjId} {s : CSocket} (hs : w.objs this = some s) :
    (listen this).wp (step os)
      (fun _ w' => ∃ s' k, Listening os w.kernel s (.ok s') k ∧
        w' = { w with kernel := k, objs := w.objs.set this s' })
      (fun e w' => ∃ error k, e = .thrown error ∧
        Listening os w.kernel s (.error error) k ∧ w' = w.withKernel k) w := by
  simp only [listen, wp_ite, wp_bind', Sys.wp_load_mSfd, wp_throw_error, wp_scopedLock,
    Sys.wp_listen, Sys.wp_store, World.kernel_withKernel, World.objs_withKernel,
    World.withKernel_withKernel, Heap.modify_eq_set _ hs, hs, Option.getD_some, Kernel.listen]
  cases hopen : w.kernel.table s.mSfd with
  | none =>
    rw [Kernel.attempt_closed hopen, if_pos (show (-1 : Int) ≠ 0 by decide)]
    exact ⟨_, _, rfl, .refused eBadf, rfl⟩
  | some d =>
    rw [Kernel.attempt_open hopen]
    cases os.listen w.kernel s.mSfd 1 with
    | some error => exact ⟨_, _, rfl, .refused error, rfl⟩
    | none => exact ⟨_, _, .listening d hopen, rfl⟩

/-! ## Getters -/

inductive Getter where
  | operatorSOCKET | getPort | getSockerr | isReuseAddr | isV6only | isBind | isListen
  deriving DecidableEq, Repr

def Getter.call (this : ObjId) : Getter → Prog Unit
  | .operatorSOCKET => do let _ ← CSocket.operatorSOCKET this
  | .getPort => do let _ ← CSocket.getPort this
  | .getSockerr => do let _ ← CSocket.getSockerr this
  | .isReuseAddr => do let _ ← CSocket.isReuseAddr this
  | .isV6only => do let _ ← CSocket.isV6only this
  | .isBind => do let _ ← CSocket.isBind this
  | .isListen => do let _ ← CSocket.isListen this

/-- Only the log and `errno` of the system may differ. -/
def Untouched (w w' : World) : Prop := ∃ k, Kernel.Calm w.kernel k ∧ w' = w.withKernel k

theorem Untouched.refl (w : World) : Untouched w w := ⟨w.kernel, .refl _, rfl⟩

section
variable (os : OS) (w : World) (this : ObjId)

private theorem wp_getsockoptInt (aLevel aOptname : Int) (aOptnameStr : String) :
    (getsockoptInt this aLevel aOptname aOptnameStr).wp (step os)
      (fun _ w' => Untouched w w' ∧ (w.kernel.table ((w.objs this).getD {}).mSfd).isSome)
      (fun e w' => Untouched w w' ∧ ∃ error, e = .thrown error) w := by
  simp only [getsockoptInt, wp_bind', Sys.wp_load_mSfd, Sys.wp_getsockopt, wp_ite, wp_throw_error,
    wp_pure, World.kernel_withKernel, World.withKernel_withKernel]
  rcases w.kernel.getsockopt_cases os ((w.objs this).getD {}).mSfd aLevel aOptname with
    ⟨error, hget⟩ | ⟨d, hopen, _, hget⟩
  · rw [hget, if_pos (show (-1 : Int) ≠ 0 by decide)]
    exact ⟨⟨_, .failed _ _ error (by simp), rfl⟩, _, rfl⟩
  · rw [hget, if_neg (by simp)]
    exact ⟨⟨_, .log _ _ _ _ rfl, rfl⟩, by simp [hopen]⟩

/-- A getter changes no object and no descriptor. On an object without a
descriptor it does not return, unless it is the one that hands out the number. -/
theorem wp_getter (g : Getter) :
    (g.call this).wp (step os)
      (fun _ w' => Untouched w w' ∧ (w.objs this = some {} → w.kernel.table invalidSocket = none →
        g = .operatorSOCKET))
      (fun e w' => Untouched w w' ∧ ∃ error, e = .thrown error) w := by
  have hclosed : w.objs this = some {} → w.kernel.table invalidSocket = none →
      (w.kernel.table ((w.objs this).getD {}).mSfd).isSome → False := by
    intro hthis htable hopen
    simp [hthis, htable] at hopen
  have hempty : w.objs this = some {} → ((w.objs this).getD {}).mSfd ≠ invalidSocket → False := by
    intro hthis hvalid
    simp [hthis] at hvalid
  cases g with
  | operatorSOCKET =>
    simp only [Getter.call, CSocket.operatorSOCKET, wp_bind', Sys.wp_load_mSfd, wp_pure]
    exact ⟨.refl w, fun _ _ => trivial⟩
  | getPort =>
    simp only [Getter.call, CSocket.getPort, CSocket.isBind, wp_bind', wp_pure, wp_ite,
      Sys.wp_load_mSfd, Sys.wp_load_mBound, Sys.wp_getsockname, wp_throwRuntimeError,
      wp_throw_error, wp_scopedLock, World.kernel_withKernel, World.withKernel_withKernel]
    split
    · exact ⟨.refl w, _, rfl⟩
    rename_i hvalid
    split
    · exact ⟨.refl w, _, rfl⟩
    rcases w.kernel.getsockname_cases os ((w.objs this).getD {}).mSfd with
      ⟨error, hget⟩ | ⟨d, hopen, hget⟩
    · rw [hget, if_pos (show (-1 : Int) ≠ 0 by decide)]
      exact ⟨⟨_, .failed _ _ error (by simp), rfl⟩, _, rfl⟩
    · rw [hget, if_neg (by simp)]
      exact ⟨⟨_, .log _ _ _ _ rfl, rfl⟩, fun hthis _ => (hempty hthis hvalid).elim⟩
  | getSockerr =>
    simp only [Getter.call, CSocket.getSockerr, wp_bind', wp_pure]
    exact wp_mono (wp_getsockoptInt os w this _ _ _)
      (fun _ _ h => ⟨h.1, fun hthis htable => (hclosed hthis htable h.2).elim⟩) (fun _ _ h => h)
  | isReuseAddr =>
    simp only [Getter.call, CSocket.isReuseAddr, wp_bind', wp_pure]
    exact wp_mono (wp_getsockoptInt os w this _ _ _)
      (fun _ _ h => ⟨h.1, fun hthis htable => (hclosed hthis htable h.2).elim⟩) (fun _ _ h => h)
  | isV6only =>
    simp only [Getter.call, CSocket.isV6only, wp_bind', wp_pure, wp_ite, Sys.wp_load_mSfd,
      Sys.wp_load_mAf, wp_throwRuntimeError]
    split
    · exact ⟨.refl w, _, rfl⟩
    split
    · exact wp_mono (wp_getsockoptInt os w this _ _ _)
        (fun _ _ h => ⟨h.1, fun hthis htable => (hclosed hthis htable h.2).elim⟩) (fun _ _ h => h)
    · exact ⟨.refl w, fun hthis _ => (hempty hthis ‹_›).elim⟩
  | isBind =>
    simp only [Getter.call, CSocket.isBind, wp_bind', wp_pure, wp_ite, Sys.wp_load_mSfd,
      Sys.wp_load_mBound, wp_throwRuntimeError, wp_scopedLock]
    split
    · exact ⟨.refl w, _, rfl⟩
    · exact ⟨.refl w, fun hthis _ => (hempty hthis ‹_›).elim⟩
  | isListen =>
    simp only [Getter.call, CSocket.isListen, wp_bind', wp_pure, wp_ite, Sys.wp_load_mSfd,
      Sys.wp_load_mListen, wp_throwRuntimeError, wp_scopedLock]
    split
    · exact ⟨.refl w, _, rfl⟩
    · exact ⟨.refl w, fun hthis _ => (hempty hthis ‹_›).elim⟩

end
end ClientServerTcp.CSocket
