import ClientServerTcp.Client.Quit
import ClientServerTcp.ErrorNumbers.Report
import ClientServerTcp.Server.Loop

/-! The calls of every operation that mentions `errno` in its exceptions, and
which of them can spoil the report. -/
namespace ClientServerTcp
open Effects Program CSocket

/-! ## The operations -/

/-- The operations whose exceptions have a number in their text. -/
inductive Reporting where
  | construct (aDomain aType aProtocol : Int)
  | bind (this : ObjId) (ai : Addrinfo)
  | listen (this : ObjId)
  | getPort (this : ObjId)
  | getsockoptInt (this : ObjId) (aLevel aOptname : Int) (aOptnameStr : String)
  | run (this : CServerTCP) (fuel : Nat)
  | quitServer

def Reporting.program : Reporting → Prog Unit
  | construct aDomain aType aProtocol => do let _ ← CSocket.construct aDomain aType aProtocol
  | bind this ai => CSocket.bind this ai
  | listen this => CSocket.listen this
  | getPort this => do let _ ← CSocket.getPort this
  | getsockoptInt this aLevel aOptname aOptnameStr => do
    let _ ← CSocket.getsockoptInt this aLevel aOptname aOptnameStr
  | run this fuel => do let _ ← CServerTCP.run this fuel
  | quitServer => ClientServerTcp.quitServer

def Reporting.subjects : Reporting → List ObjId
  | construct .. | quitServer => []
  | bind this _ | listen this | getPort this | getsockoptInt this .. => [this]
  | run this _ => [this.mListenSfd]

/-- The events since `start` are honest about `errno` when they are unmasked. -/
def Accounts (start : Kernel) (r : Except Exn Unit) (k : Kernel) : Prop :=
  ∃ events, k.trace = events ++ start.trace ∧ (Honest r events ↔ Unmasked events)

section
variable {os : OS} {k k' : Kernel}

theorem clean_options {fd : SOCKET} {options : List Event}
    (h : ∀ e ∈ options, ∃ level optname, e = ⟨.setsockopt fd level optname 0, 0, none, 0⟩) :
    Clean options := by
  intro e he
  obtain ⟨level, optname, rfl⟩ := h e he
  exact ⟨rfl, .inr rfl⟩

theorem Constructed.clean {domain type protocol : Int} {s : CSocket}
    (h : Constructed os k domain type protocol (.ok s) k') :
    ∃ events, k'.trace = events ++ k.trace ∧ Clean events := by
  cases h with
  | empty h => exact ⟨[], rfl, clean_nil⟩
  | inet fd h hne =>
    exact ⟨[⟨.setsockopt fd solSocket soReuseaddr 0, 0, none, 0⟩,
      ⟨.socket domain type protocol, fd, none, 0⟩], rfl,
      (clean_nil.cons rfl (.inr rfl)).cons rfl (.inr rfl)⟩
  | inet6 fd h heq =>
    exact ⟨[⟨.setsockopt fd ipprotoIpv6 ipv6V6only 0, 0, none, 0⟩,
      ⟨.setsockopt fd solSocket soReuseaddr 0, 0, none, 0⟩,
      ⟨.socket domain type protocol, fd, none, 0⟩], rfl,
      ((clean_nil.cons rfl (.inr rfl)).cons rfl (.inr rfl)).cons rfl (.inr rfl)⟩

theorem Constructed.accounts {domain type protocol : Int} {error : RuntimeError}
    (h : Constructed os k domain type protocol (.error error) k') :
    Accounts k (.error (.thrown error)) k' := by
  rcases h.trace_error with ⟨number, rfl, htrace⟩ |
    ⟨errmsg, fd, level, optname, number, ret, closeError, options, herrmsg, rfl, hoptions, htrace⟩
  · refine ⟨[⟨.errno, number, none, 0⟩, ⟨.socket domain type protocol, -1, some number, 0⟩],
      htrace, honest_direct rfl rfl clean_nil⟩
  · refine ⟨⟨.errno, closeError.getD number, none, 0⟩ :: ([⟨.close fd, ret, closeError, 0⟩] ++
      ⟨.setsockopt fd level optname 0, -1, some number, 0⟩ ::
      (options ++ [⟨.socket domain type protocol, fd, none, 0⟩])), by simp [htrace], ?_⟩
    apply honest_late
    · rcases herrmsg with ⟨rfl, rfl, rfl⟩ | ⟨rfl, rfl, rfl⟩ <;> rfl
    · rfl
    · simp [Call.cleansUp]
    · intro hquiet
      have hclosed : closeError = none := hquiet _ List.mem_cons_self
      rw [hclosed]
      rfl
    · exact (clean_options hoptions).append (clean_nil.cons rfl (.inr rfl))

theorem Bound.accounts {s : CSocket} {ai : Addrinfo} {error : RuntimeError}
    (h : Bound os k s ai (.error error) k') : Accounts k (.error (.thrown error)) k' := by
  cases h with
  | getsockopt number =>
    refine ⟨[⟨.errno, number, none, 0⟩, ⟨.getsockopt s.mSfd solSocket soType, -1, some number, 0⟩],
      rfl, honest_direct rfl rfl clean_nil⟩
  | socktype d hopen hne =>
    exact ⟨[⟨.getsockopt s.mSfd solSocket soType, 0, none, 0⟩], rfl,
      honest_plain (by simp) (clean_nil.cons rfl (.inl rfl))⟩
  | refused number =>
    refine ⟨[⟨.errno, number, none, 0⟩, ⟨.bind s.mSfd ai.aiAddr ai.aiAddrlen, -1, some number, 0⟩,
      ⟨.getsockopt s.mSfd solSocket soType, 0, none, 0⟩], rfl,
      honest_direct rfl rfl (clean_nil.cons rfl (.inl rfl))⟩

theorem Listening.accounts {s : CSocket} {error : RuntimeError}
    (h : Listening os k s (.error error) k') : Accounts k (.error (.thrown error)) k' := by
  cases h with
  | refused number =>
    refine ⟨[⟨.errno, number, none, 0⟩, ⟨.listen s.mSfd 1, -1, some number, 0⟩], rfl,
      honest_direct rfl rfl clean_nil⟩

/-- The last events of `quit_server` are those of its destructors. -/
theorem Quits.accounts {r : Except RuntimeError Unit} (h : Quits os k r k') :
    Accounts k (r.mapError Exn.thrown) k' := by
  cases h with
  | noSocket error _ h => exact Constructed.accounts h
  | noAddress s k₁ error h hanswer =>
    obtain ⟨events, htrace, hclean⟩ := Constructed.clean h
    obtain ⟨ret, closeError, _, hclosed, _⟩ :=
      (k₁.log (.getaddrinfo quitInfo.query) error).close_effect os s.mSfd
    refine ⟨⟨.close s.mSfd, ret, closeError, 0⟩ :: ⟨.getaddrinfo quitInfo.query, error, none, 0⟩ ::
      events, by simp [hclosed, htrace], honest_plain (by simp) ?_⟩
    exact (hclean.cons rfl (.inl rfl)).cons rfl (.inl rfl)
  | attempted s k₁ k₂ d entry rest _ h hopen hanswer hdelivery =>
    let connect : Call := .connect s.mSfd (quitAddress entry).aiAddr (quitAddress entry).aiAddrlen
    have hcalls : ∀ middle,
        k₂.trace = middle ++ (CAddrinfo.obtained k₁ quitInfo.query (entry :: rest)).trace →
        ∃ newer older, (∀ e ∈ newer, e.call.readsErrno = false) ∧ Clean newer ∧ Clean older ∧
          ((k₂.freeaddrinfo k₁.lists.next).close os s.mSfd).2.trace =
            newer ++ (middle ++ older) ++ k.trace := by
      intro middle hmiddle
      obtain ⟨ret, error, options, hoptions, htrace⟩ := attempted_trace middle h hmiddle
      refine ⟨_, _, by simp [Call.readsErrno], ?_, ?_, htrace⟩
      · exact (clean_nil.cons rfl (.inl rfl)).cons rfl (.inl rfl)
      · exact ((clean_options hoptions).append (clean_nil.cons rfl (.inl rfl))).cons rfl (.inl rfl)
    cases hdelivery with
    | refused number hconnect =>
      obtain ⟨newer, older, hreads, hnewer, holder, htrace⟩ :=
        hcalls [⟨.errno, number, none, 0⟩, ⟨connect, -1, some number, 0⟩] rfl
      refine ⟨_, htrace, honest_blamed rfl hreads (hnewer.append ?_)⟩
      exact (holder.cons rfl (.inl rfl)).cons rfl (.inl rfl)
    | unsent number hconnect hsend =>
      obtain ⟨newer, older, hreads, hnewer, holder, htrace⟩ :=
        hcalls [⟨.errno, number, none, 0⟩, ⟨.send s.mSfd [charQ], -1, some number, 0⟩,
          ⟨connect, 0, none, 0⟩] rfl
      refine ⟨_, htrace, honest_blamed rfl hreads (hnewer.append ?_)⟩
      exact ((holder.cons rfl (.inl rfl)).cons rfl (.inl rfl)).cons rfl (.inl rfl)
    | untaken hconnect hsend =>
      obtain ⟨newer, older, hreads, _, _, htrace⟩ :=
        hcalls [⟨.errno, _, none, 0⟩, ⟨.send s.mSfd [charQ], 0, none, 0⟩, ⟨connect, 0, none, 0⟩] rfl
      exact ⟨_, htrace, honest_idle newer [] rfl rfl hreads (List.forall_mem_nil _)⟩
    | sent hconnect hsend =>
      obtain ⟨r, e, hmiddle⟩ := sent_trace os s.mSfd (quitAddress entry)
        (CAddrinfo.obtained k₁ quitInfo.query (entry :: rest)) d
      obtain ⟨newer, older, _, hnewer, holder, htrace⟩ := hcalls _ hmiddle
      refine ⟨_, htrace, honest_ok (hnewer.append ?_)⟩
      exact ((holder.cons rfl (.inl rfl)).cons rfl (.inl rfl)).cons rfl (.inl rfl)

theorem RoundSpec.accounts {lfd : SOCKET} {errno errno' : Int} {outcome : Outcome}
    {errmsg : Errmsg} {events older : List Event} (h : RoundSpec lfd errno outcome events errno')
    (hverdict : outcome.verdict = some (.throws errmsg)) (holder : Clean older) :
    Honest (.error (.thrown (.withErrno errmsg errno')))
        (⟨.errno, errno', none, 0⟩ :: (events ++ older)) ↔
      Unmasked (⟨.errno, errno', none, 0⟩ :: (events ++ older)) := by
  cases h with
  | acceptFailed _ =>
    obtain rfl : Errmsg.msg1022 = errmsg := by simpa [Outcome.verdict] using hverdict
    exact honest_direct rfl rfl holder
  | recvFailed fd number r₂ r₃ e₂ e₃ hfd =>
    obtain rfl : Errmsg.msg1024 = errmsg := by simpa [Outcome.verdict] using hverdict
    refine honest_late [⟨.close fd, r₃, e₃, 0⟩, ⟨.shutdown fd shutRdwr, r₂, e₂, 0⟩] rfl rfl
       (by simp [Call.cleansUp]) ?_ (holder.cons rfl (.inl rfl))
    intro hquiet
    have hclose : e₃ = none := hquiet _ List.mem_cons_self
    have hshutdown : e₂ = none := hquiet ⟨.shutdown fd shutRdwr, r₂, e₂, 0⟩ (by simp)
    rw [hclose, hshutdown]
    rfl
  | received bytes fd r₂ r₃ e₂ e₃ hfd =>
    obtain ⟨rfl, rfl⟩ : bytes = [] ∧ Errmsg.msg1023 = errmsg := by
      cases bytes with
      | nil => simpa [Outcome.verdict] using hverdict
      | cons b rest =>
        simp only [Outcome.verdict] at hverdict
        split at hverdict <;> simp at hverdict
    refine honest_idle [] [⟨.close fd, r₃, e₃, 0⟩, ⟨.shutdown fd shutRdwr, r₂, e₂, 0⟩] rfl rfl
      (by simp) ?_
    intro e he
    simp only [List.mem_cons, List.not_mem_nil, or_false] at he
    rcases he with rfl | rfl <;> rfl

theorem RoundSpec.clean {lfd : SOCKET} {errno errno' : Int} {bytes : Bytes} {events : List Event}
    (h : RoundSpec lfd errno (.received bytes) events errno') (hne : bytes ≠ []) :
    Clean events := by
  cases h with
  | received _ fd r₂ r₃ e₂ e₃ hfd =>
    have hmoved :
        Event.movesNothing ⟨.recv fd (bufferSize - 1), bytes.length, none, 0⟩ = false := by
      simp [Event.movesNothing, hne]
    exact (((clean_nil.cons rfl (.inl rfl)).cons hmoved (.inr rfl)).cons rfl (.inl rfl)).cons rfl
      (.inl rfl)

end

section
variable (os : OS) (w : World)

theorem wp_getPort_accounts (this : ObjId) : (do let _ ← getPort this : Prog Unit).wp (step os)
    (fun _ w' => Accounts w.kernel (.ok ()) w'.kernel)
    (fun e w' => Accounts w.kernel (.error e) w'.kernel) w := by
  simp only [getPort, isBind, wp_bind', wp_pure, wp_ite, Sys.wp_load_mSfd, Sys.wp_load_mBound,
    Sys.wp_getsockname, wp_throwRuntimeError, wp_throw_error, wp_scopedLock,
    World.kernel_withKernel]
  split
  · exact ⟨[], rfl, honest_plain (by simp) clean_nil⟩
  split
  · exact ⟨[], rfl, honest_plain (by simp) clean_nil⟩
  rcases w.kernel.getsockname_cases os ((w.objs this).getD {}).mSfd with
    ⟨number, hget⟩ | ⟨d, hopen, hget⟩
  · rw [hget, if_pos (show (-1 : Int) ≠ 0 by decide)]
    refine ⟨[⟨.errno, number, none, 0⟩,
      ⟨.getsockname ((w.objs this).getD {}).mSfd, -1, some number, 0⟩], rfl,
      honest_direct rfl rfl clean_nil⟩
  · rw [hget, if_neg (by simp)]
    refine ⟨[⟨.getsockname ((w.objs this).getD {}).mSfd, 0, none, 0⟩], rfl,
      honest_ok ?_⟩
    exact clean_nil.cons rfl (.inl rfl)

theorem wp_getsockoptInt_accounts (this : ObjId) (aLevel aOptname : Int) (aOptnameStr : String) :
    (do let _ ← getsockoptInt this aLevel aOptname aOptnameStr : Prog Unit).wp (step os)
      (fun _ w' => Accounts w.kernel (.ok ()) w'.kernel)
      (fun e w' => Accounts w.kernel (.error e) w'.kernel) w := by
  simp only [getsockoptInt, wp_bind', Sys.wp_load_mSfd, Sys.wp_getsockopt, wp_ite, wp_throw_error,
    wp_pure, World.kernel_withKernel]
  rcases w.kernel.getsockopt_cases os ((w.objs this).getD {}).mSfd aLevel aOptname with
    ⟨number, hget⟩ | ⟨d, hopen, _, hget⟩
  · rw [hget, if_pos (show (-1 : Int) ≠ 0 by decide)]
    refine ⟨[⟨.errno, number, none, 0⟩,
      ⟨.getsockopt ((w.objs this).getD {}).mSfd aLevel aOptname, -1, some number, 0⟩], rfl,
      honest_direct rfl rfl clean_nil⟩
  · rw [hget, if_neg (by simp)]
    refine ⟨[⟨.getsockopt ((w.objs this).getD {}).mSfd aLevel aOptname, 0, none, 0⟩], rfl,
      honest_ok ?_⟩
    exact clean_nil.cons rfl (.inl rfl)

theorem wp_run_accounts (this : CServerTCP) (fuel : Nat) :
    (do let _ ← CServerTCP.run this fuel : Prog Unit).wp (step os)
      (fun _ w' => Accounts w.kernel (.ok ()) w'.kernel)
      (fun e w' => Accounts w.kernel (.error e) w'.kernel) w := by
  let I : CServerTCP.Locals → World → Prop := fun _ w' =>
    ∃ events, w'.kernel.trace = events ++ w.kernel.trace ∧ Clean events
  have hround : ∀ l w', I l w' → CServerTCP.looping l = true →
      (this.serve l).wp (step os) I (fun e w' => Accounts w.kernel (.error e) w'.kernel) w' := by
    intro l w' ⟨older, htrace, holder⟩ _
    obtain ⟨_, events, hevents, hspec⟩ :=
      w'.kernel.round_spec os ((w'.objs this.mListenSfd).getD {}).mSfd
    rw [wp_iff_run]
    rcases CServerTCP.run_serve os (w := w') this l rfl with
      ⟨errmsg, hverdict, hserve⟩ | ⟨bytes, hlength, hne, houtcome, hserve⟩
    · rw [hserve]
      refine ⟨_, ?_, hspec.accounts hverdict holder⟩
      simp [hevents, htrace]
    · rw [hserve]
      refine ⟨events ++ older, by simp [hevents, htrace], Clean.append ?_ holder⟩
      rw [houtcome] at hspec
      exact hspec.clean hne
  have hloop := wp_whileLoop (step os) CServerTCP.looping this.serve hround fuel {}
    { w with ready := Function.update w.ready this.mListenSfd true } ⟨[], rfl, clean_nil⟩
  simp only [CServerTCP.run, wp_bind', wp_pure, Sys.wp_storeReady]
  apply wp_mono hloop
  · intro result w' hresult
    have hclean : ∃ events, w'.kernel.trace = events ++ w.kernel.trace ∧ Clean events := by
      cases result with
      | none =>
        obtain ⟨_, _, hI⟩ := hresult
        exact hI
      | some l => exact hresult.2
    obtain ⟨events, htrace, hclean⟩ := hclean
    exact ⟨events, htrace, honest_ok hclean⟩
  · exact fun _ _ h => h

theorem wp_accounts (op : Reporting) (hlive : ∀ o ∈ op.subjects, (w.objs o).isSome) :
    op.program.wp (step os) (fun _ w' => Accounts w.kernel (.ok ()) w'.kernel)
      (fun e w' => Accounts w.kernel (.error e) w'.kernel) w := by
  cases op with
  | construct aDomain aType aProtocol =>
    simp only [Reporting.program, wp_bind', wp_pure]
    apply wp_mono (wp_construct os w aDomain aType aProtocol)
    · intro o w₁ hconstructed
      obtain ⟨_, s, k₁, hspec, rfl⟩ := hconstructed
      obtain ⟨events, htrace, hclean⟩ := Constructed.clean hspec
      exact ⟨events, htrace, honest_ok hclean⟩
    · intro e w₁ hthrown
      obtain ⟨error, k₁, rfl, hspec, rfl⟩ := hthrown
      exact Constructed.accounts hspec
  | bind this ai =>
    obtain ⟨s, hs⟩ := Option.isSome_iff_exists.mp (hlive this (by simp [Reporting.subjects]))
    apply wp_mono (wp_bind os ai hs)
    · intro _ w₁ hbound
      obtain ⟨s', k₁, hspec, rfl⟩ := hbound
      cases hspec with
      | bound d hopen heq =>
        refine ⟨[⟨.bind s.mSfd ai.aiAddr ai.aiAddrlen, 0, none, 0⟩,
          ⟨.getsockopt s.mSfd solSocket soType, 0, none, 0⟩], rfl, honest_ok ?_⟩
        exact (clean_nil.cons rfl (.inl rfl)).cons rfl (.inl rfl)
    · intro e w₁ hthrown
      obtain ⟨error, k₁, rfl, hspec, rfl⟩ := hthrown
      exact Bound.accounts hspec
  | listen this =>
    obtain ⟨s, hs⟩ := Option.isSome_iff_exists.mp (hlive this (by simp [Reporting.subjects]))
    apply wp_mono (wp_listen os hs)
    · intro _ w₁ hlistening
      obtain ⟨s', k₁, hspec, rfl⟩ := hlistening
      cases hspec with
      | listening d hopen =>
        exact ⟨[⟨.listen s.mSfd 1, 0, none, 0⟩], rfl,
          honest_ok (clean_nil.cons rfl (.inl rfl))⟩
    · intro e w₁ hthrown
      obtain ⟨error, k₁, rfl, hspec, rfl⟩ := hthrown
      exact Listening.accounts hspec
  | getPort this => exact wp_getPort_accounts os w this
  | getsockoptInt this aLevel aOptname aOptnameStr =>
    exact wp_getsockoptInt_accounts os w this aLevel aOptname aOptnameStr
  | run this fuel => exact wp_run_accounts os w this fuel
  | quitServer =>
    apply wp_mono (wp_quitServer os)
    · exact fun _ _ hquits => hquits.accounts
    · intro e w₁ hthrown
      obtain ⟨error, rfl, hquits⟩ := hthrown
      exact hquits.accounts

end

/-- An operation tells the truth about `errno` exactly when nothing was masked:
no empty message, and no failure while cleaning up. -/
theorem honest_iff (os : OS) (w : World) (op : Reporting)
    (hlive : ∀ o ∈ op.subjects, (w.objs o).isSome) :
    ∃ events, (op.program.run (step os) w).2.kernel.trace = events ++ w.kernel.trace ∧
      (Honest (op.program.run (step os) w).1 events ↔ Unmasked events) := by
  have hexits := exits_run (step os) (wp_accounts os w op hlive)
  revert hexits
  rcases op.program.run (step os) w with ⟨_ | _, w'⟩ <;> exact id

def OS.silent : OS := { OS.obliging with
  recv := fun _ _ _ => .ok []
  recv_le := by
    intro k s len bytes h
    rw [← Except.ok.inj h]
    exact Nat.zero_le _ }

def World.serving (os : OS) : World := ((CServerTCP.construct "4433").run (step os) .initial).2

def OS.aborting : OS := { OS.obliging with
  accept := fun _ _ => .error 103
  accept_free := by simp }

/-- `::accept` fails, and its number is the one that the exception carries. -/
theorem honest_iff_aborting : ∃ events,
    ((Reporting.run ⟨0⟩ 1).program.run (step .aborting) (.serving .aborting)).1 =
      .error (.thrown (.withErrno .msg1022 103)) ∧
    ((Reporting.run ⟨0⟩ 1).program.run (step .aborting) (.serving .aborting)).2.kernel.trace =
      events ++ (World.serving .aborting).kernel.trace ∧
    Unmasked events ∧
    Honest ((Reporting.run ⟨0⟩ 1).program.run (step .aborting) (.serving .aborting)).1 events := by
  have hlive : ∀ o ∈ (Reporting.run ⟨0⟩ 1).subjects,
      ((World.serving .aborting).objs o).isSome := by
    intro o ho
    rw [List.mem_singleton.mp ho]
    rfl
  have htrace : ((Reporting.run ⟨0⟩ 1).program.run (step .aborting)
      (.serving .aborting)).2.kernel.trace = [⟨.errno, 103, none, 0⟩,
        ⟨.accept 3, -1, some 103, 0⟩] ++ (World.serving .aborting).kernel.trace := rfl
  obtain ⟨events, hevents, hiff⟩ := honest_iff .aborting (.serving .aborting) (.run ⟨0⟩ 1) hlive
  obtain rfl := List.append_cancel_right (htrace.symm.trans hevents)
  have hunmasked : Unmasked [⟨.errno, 103, none, 0⟩, ⟨.accept 3, -1, some 103, 0⟩] :=
    ⟨by decide, by decide⟩
  exact ⟨_, rfl, hevents, hunmasked, hiff.mpr hunmasked⟩

/-- The server reports errno(0), although no call has failed. -/
theorem empty_message_not_honest : ¬ ∀ (os : OS) (w : World) (op : Reporting),
    (∀ o ∈ op.subjects, (w.objs o).isSome) → ∀ events,
    (op.program.run (step os) w).2.kernel.trace = events ++ w.kernel.trace →
    Honest (op.program.run (step os) w).1 events := by
  intro h
  have hlive : ∀ o ∈ (Reporting.run ⟨0⟩ 1).subjects, ((World.serving .silent).objs o).isSome := by
    intro o ho
    rw [List.mem_singleton.mp ho]
    rfl
  have htrace : ((Reporting.run ⟨0⟩ 1).program.run (step .silent)
      (.serving .silent)).2.kernel.trace = [⟨.errno, 0, none, 0⟩, ⟨.close 4, 0, none, 0⟩,
        ⟨.shutdown 4 shutRdwr, 0, none, 0⟩, ⟨.recv 4 1023, 0, none, 0⟩,
        ⟨.accept 3, 4, none, 0⟩] ++ (World.serving .silent).kernel.trace := rfl
  have hthrown : ((Reporting.run ⟨0⟩ 1).program.run (step .silent) (.serving .silent)).1 =
      .error (.thrown (.withErrno .msg1023 0)) := rfl
  obtain ⟨e, hfailed, _⟩ :=
    h .silent (.serving .silent) (.run ⟨0⟩ 1) hlive _ htrace .msg1023 0 hthrown
  exact absurd hfailed (by simp [beforeErrno, Call.readsErrno])

end ClientServerTcp
