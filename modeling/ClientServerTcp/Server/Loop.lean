import ClientServerTcp.Sources.ServerTcp

/-! The loop of `CServerTCP::run` for every sequence of connections that the
system supplies: which of them decides how it ends, and what it does to the
descriptors it accepts. -/
namespace ClientServerTcp
open Effects Program

inductive Outcome where
  | acceptFailed
  | recvFailed
  | received (bytes : Bytes)
  deriving DecidableEq, Repr

inductive Verdict where
  | returns
  | throws (errmsg : Errmsg)
  deriving DecidableEq, Repr

def Outcome.verdict : Outcome → Option Verdict
  | acceptFailed => some (.throws .msg1022)
  | recvFailed => some (.throws .msg1024)
  | received [] => some (.throws .msg1023)
  | received bytes => if bytes = [charQ] then some .returns else none

def Kernel.round (os : OS) (lfd : SOCKET) (k : Kernel) : Outcome × Kernel :=
  let (fd, k₁) := k.accept os lfd
  if fd = invalidSocket then
    (.acceptFailed, k₁)
  else
    let ((valread, bytes), k₂) := k₁.recv os fd (bufferSize - 1)
    let k₃ := (k₂.shutdown os fd shutRdwr).2
    (if valread = socketError then .recvFailed else .received bytes, (k₃.close os fd).2)

def Kernel.rounds (os : OS) (lfd : SOCKET) (k : Kernel) : Nat → Kernel
  | 0 => k
  | n + 1 => rounds os lfd (k.round os lfd).2 n

def Kernel.outcome (os : OS) (lfd : SOCKET) (k : Kernel) (n : Nat) : Outcome :=
  ((k.rounds os lfd n).round os lfd).1

/-- The log of a loop, the newest event first: every accepted descriptor was read,
shut down and closed, once each, before the next call of `accept`. -/
inductive RoundLog (lfd : SOCKET) : List Event → Prop
  | start : RoundLog lfd []
  | refused (error : Int) {older : List Event} (h : RoundLog lfd older) :
    RoundLog lfd (⟨.accept lfd, -1, some error, 0⟩ :: older)
  | served (fd r₁ r₂ r₃ : Int) (e₁ e₂ e₃ : Option Int) {older : List Event} (hfd : 0 ≤ fd)
    (h : RoundLog lfd older) :
    RoundLog lfd (⟨.close fd, r₃, e₃, 0⟩ :: ⟨.shutdown fd shutRdwr, r₂, e₂, 0⟩ ::
      ⟨.recv fd (bufferSize - 1), r₁, e₁, 0⟩ :: ⟨.accept lfd, fd, none, 0⟩ :: older)

theorem RoundLog.append {lfd : SOCKET} {newer older : List Event} (hnewer : RoundLog lfd newer)
    (holder : RoundLog lfd older) : RoundLog lfd (newer ++ older) := by
  induction hnewer with
  | start => exact holder
  | refused error h ih => exact .refused error ih
  | served fd r₁ r₂ r₃ e₁ e₂ e₃ hfd h ih => exact .served fd r₁ r₂ r₃ e₁ e₂ e₃ hfd ih

/-- The calls of one round, the newest first, and `errno` before and after them. -/
inductive RoundSpec (lfd : SOCKET) (errno : Int) : Outcome → List Event → Int → Prop
  | acceptFailed (error : Int) :
    RoundSpec lfd errno .acceptFailed [⟨.accept lfd, -1, some error, 0⟩] error
  | recvFailed (fd error r₂ r₃ : Int) (e₂ e₃ : Option Int) (hfd : 0 ≤ fd) :
    RoundSpec lfd errno .recvFailed [⟨.close fd, r₃, e₃, 0⟩, ⟨.shutdown fd shutRdwr, r₂, e₂, 0⟩,
      ⟨.recv fd (bufferSize - 1), -1, some error, 0⟩, ⟨.accept lfd, fd, none, 0⟩]
      (e₃.getD (e₂.getD error))
  | received (bytes : Bytes) (fd r₂ r₃ : Int) (e₂ e₃ : Option Int) (hfd : 0 ≤ fd) :
    RoundSpec lfd errno (.received bytes) [⟨.close fd, r₃, e₃, 0⟩,
      ⟨.shutdown fd shutRdwr, r₂, e₂, 0⟩, ⟨.recv fd (bufferSize - 1), bytes.length, none, 0⟩,
      ⟨.accept lfd, fd, none, 0⟩] (e₃.getD (e₂.getD errno))

theorem RoundSpec.log {lfd : SOCKET} {errno errno' : Int} {outcome : Outcome} {events : List Event}
    (h : RoundSpec lfd errno outcome events errno') : RoundLog lfd events := by
  cases h with
  | acceptFailed _ => exact .refused _ .start
  | recvFailed fd error r₂ r₃ e₂ e₃ hfd => exact .served fd _ r₂ r₃ _ e₂ e₃ hfd .start
  | received bytes fd r₂ r₃ e₂ e₃ hfd => exact .served fd _ r₂ r₃ _ e₂ e₃ hfd .start

theorem Kernel.round_spec (os : OS) (lfd : SOCKET) (k : Kernel) :
    (k.round os lfd).2.table = k.table ∧
      ∃ events, (k.round os lfd).2.trace = events ++ k.trace ∧
        RoundSpec lfd k.errno (k.round os lfd).1 events (k.round os lfd).2.errno := by
  unfold Kernel.round
  rcases k.accept_cases os lfd with ⟨error, haccept⟩ | ⟨d, fd, hfd, hfree, haccept⟩
  · rw [haccept]
    exact ⟨rfl, _, rfl, .acceptFailed error⟩
  have hvalid : fd ≠ invalidSocket := ne_invalidSocket hfd
  rw [haccept]
  simp only [hvalid, ↓reduceIte]
  generalize hk₁ : (k.setDesc fd (some d)).log (.accept lfd) fd = k₁
  have htable₁ : Function.update k₁.table fd none = k.table := by
    rw [← hk₁, Kernel.table_log, Kernel.table_setDesc, Function.update_idem, ← hfree,
      Function.update_eq_self]
  have htrace₁ : k₁.trace = ⟨.accept lfd, fd, none, 0⟩ :: k.trace := by
    rw [← hk₁]
    rfl
  have herrno₁ : k₁.errno = k.errno := by
    rw [← hk₁]
    rfl
  rcases k₁.recv_cases os fd (bufferSize - 1) with ⟨error, hrecv⟩ | ⟨bytes, _, hrecv⟩
  · rw [hrecv]
    obtain ⟨r₂, r₃, e₂, e₃, htable, htrace, herrno⟩ :=
      (k₁.fail (.recv fd (bufferSize - 1)) error).shutdown_close_effect os fd shutRdwr
    refine ⟨htable.trans htable₁, [⟨.close fd, r₃, e₃, 0⟩, ⟨.shutdown fd shutRdwr, r₂, e₂, 0⟩,
      ⟨.recv fd (bufferSize - 1), -1, some error, 0⟩, ⟨.accept lfd, fd, none, 0⟩], ?_, ?_⟩
    · rw [htrace, Kernel.trace_fail, htrace₁]
      rfl
    · simp only [↓reduceIte]
      rw [herrno]
      exact .recvFailed fd error r₂ r₃ e₂ e₃ hfd
  · have hne : (bytes.length : Int) ≠ socketError := by
      simp only [socketError]
      omega
    rw [hrecv]
    obtain ⟨r₂, r₃, e₂, e₃, htable, htrace, herrno⟩ :=
      (k₁.log (.recv fd (bufferSize - 1)) bytes.length).shutdown_close_effect os fd shutRdwr
    refine ⟨htable.trans htable₁, [⟨.close fd, r₃, e₃, 0⟩, ⟨.shutdown fd shutRdwr, r₂, e₂, 0⟩,
      ⟨.recv fd (bufferSize - 1), bytes.length, none, 0⟩, ⟨.accept lfd, fd, none, 0⟩], ?_, ?_⟩
    · rw [htrace, Kernel.trace_log, htrace₁]
      rfl
    · simp only [hne, ↓reduceIte]
      rw [herrno, Kernel.errno_log, herrno₁]
      exact .received bytes fd r₂ r₃ e₂ e₃ hfd

theorem Kernel.rounds_log (os : OS) (lfd : SOCKET) (k : Kernel) (n : Nat) :
    (k.rounds os lfd n).table = k.table ∧
      ∃ events, (k.rounds os lfd n).trace = events ++ k.trace ∧ RoundLog lfd events := by
  induction n generalizing k with
  | zero => exact ⟨rfl, [], rfl, .start⟩
  | succ n ih =>
    obtain ⟨htable, events, htrace, hlog⟩ := ih (k.round os lfd).2
    obtain ⟨htable₁, first, htrace₁, hspec⟩ := k.round_spec os lfd
    refine ⟨htable.trans htable₁, events ++ first, ?_, hlog.append hspec.log⟩
    rw [Kernel.rounds, htrace, htrace₁, List.append_assoc]

theorem Kernel.rounds_succ (os : OS) (lfd : SOCKET) (k : Kernel) (n : Nat) :
    k.rounds os lfd (n + 1) = ((k.rounds os lfd n).round os lfd).2 := by
  induction n generalizing k with
  | zero => rfl
  | succ n ih => exact ih (k.round os lfd).2

/-! ## Every sequence of outcomes can be supplied -/

def Event.accepts (e : Event) : Bool :=
  match e.call with
  | .accept _ => true
  | _ => false

/-- A system whose `n`-th connection since the log began turns out as `script n`. -/
def OS.scripted (script : Nat → Outcome) : OS := { OS.obliging with
  accept := fun k _ =>
    match k.table 4, script (k.trace.countP Event.accepts) with
    | some _, _ => .error 24
    | none, .acceptFailed => .error 103
    | none, _ => .ok 4
  recv := fun k _ len =>
    match script (k.trace.countP Event.accepts - 1) with
    | .received bytes => .ok (bytes.take len)
    | _ => .error 104
  accept_free := by
    intro k s fd h
    split at h
    · contradiction
    · contradiction
    · obtain rfl := Except.ok.inj h
      exact ⟨by decide, ‹_›⟩
  recv_le := by
    intro k s len bytes h
    split at h
    · rw [← Except.ok.inj h]
      exact List.length_take_le _ _
    · contradiction }

theorem RoundSpec.countP_accepts {lfd : SOCKET} {errno errno' : Int} {outcome : Outcome}
    {events : List Event} (h : RoundSpec lfd errno outcome events errno') :
    events.countP Event.accepts = 1 := by
  cases h <;> rfl

section
variable {script : Nat → Outcome} {lfd : SOCKET} {k : Kernel}

theorem Kernel.round_scripted
    (hscript : ∀ n bytes, script n = .received bytes → bytes.length < bufferSize)
    (hopen : (k.table lfd).isSome) (hfree : k.table 4 = none) :
    (k.round (.scripted script) lfd).1 = script (k.trace.countP Event.accepts) := by
  obtain ⟨d, hd⟩ := Option.isSome_iff_exists.mp hopen
  by_cases hfailed : script (k.trace.countP Event.accepts) = .acceptFailed
  · have haccept : (OS.scripted script).accept k lfd = .error 103 := by
      simp only [OS.scripted, hfree, hfailed]
    simp only [Kernel.round, Kernel.accept, hd, haccept, invalidSocket, ↓reduceIte, hfailed]
  have haccept : (OS.scripted script).accept k lfd = .ok 4 := by
    simp only [OS.scripted, hfree]
  simp only [Kernel.round, Kernel.accept, hd, haccept, invalidSocket]
  generalize hk₁ : (k.setDesc 4 (some { d with origin := .accept, listening := false })).log
    (.accept lfd) 4 = k₁
  have hopen₁ : (k₁.table 4).isSome := by
    rw [← hk₁]
    simp
  have hcount : k₁.trace.countP Event.accepts - 1 = k.trace.countP Event.accepts := by
    have haccepts : Event.accepts ⟨.accept lfd, 4, none, 0⟩ = true := rfl
    rw [← hk₁, Kernel.trace_log, Kernel.trace_setDesc, List.countP_cons_of_pos haccepts]
    rfl
  obtain ⟨d₁, hd₁⟩ := Option.isSome_iff_exists.mp hopen₁
  cases hnext : script (k.trace.countP Event.accepts) with
  | acceptFailed => exact absurd hnext hfailed
  | recvFailed =>
    have hrecv : (OS.scripted script).recv k₁ 4 (bufferSize - 1) = .error 104 := by
      simp only [OS.scripted, hcount, hnext]
    simp [Kernel.recv, hd₁, hrecv, socketError]
  | received bytes =>
    have hrecv : (OS.scripted script).recv k₁ 4 (bufferSize - 1) = .ok bytes := by
      have hlength : bytes.length ≤ bufferSize - 1 := Nat.le_sub_one_of_lt (hscript _ _ hnext)
      simp only [OS.scripted, hcount, hnext, List.take_of_length_le hlength]
    have hne : (bytes.length : Int) ≠ socketError := by
      simp only [socketError]
      omega
    simp [Kernel.recv, hd₁, hrecv, hne]

/-- Whatever happens in the rounds of a loop, some system makes it happen. -/
theorem Kernel.outcome_scripted
    (hscript : ∀ n bytes, script n = .received bytes → bytes.length < bufferSize)
    (hopen : (k.table lfd).isSome) (hfree : k.table 4 = none) (n : Nat) :
    k.outcome (.scripted script) lfd n = script (k.trace.countP Event.accepts + n) := by
  induction n generalizing k with
  | zero => exact round_scripted hscript hopen hfree
  | succ n ih =>
    obtain ⟨htable, events, htrace, hspec⟩ := k.round_spec (.scripted script) lfd
    have hnext := ih (k := (k.round (.scripted script) lfd).2) (by rw [htable]; exact hopen)
      (by rw [htable]; exact hfree)
    have hcount : (k.round (.scripted script) lfd).2.trace.countP Event.accepts =
        1 + k.trace.countP Event.accepts := by
      rw [htrace, List.countP_append, hspec.countP_accepts]
    rw [hcount] at hnext
    rw [show k.outcome (.scripted script) lfd (n + 1) =
      (k.round (.scripted script) lfd).2.outcome (.scripted script) lfd n from rfl, hnext]
    congr 1
    omega

end

theorem Buffer.write_of_lt (b : Buffer) {n : Nat} (h : n < bufferSize) (c : UInt8) :
    b.write n c = some (Function.update b ⟨n, h⟩ c) :=
  dif_pos ⟨Int.natCast_nonneg n, h⟩

namespace CServerTCP

def Locals.after (l : Locals) (bytes : Bytes) (h : bytes.length < bufferSize) : Locals where
  acceptSfd := invalidSocket
  buffer := Function.update (l.buffer.overwrite bytes) ⟨bytes.length, h⟩ 0
  valread := bytes.length

/-- The loop test after a message looks at that message only. -/
theorem looping_after (l : Locals) {bytes : Bytes} (h : bytes.length < bufferSize)
    (hne : bytes ≠ []) : looping (l.after bytes h) = decide (bytes ≠ [charQ]) := by
  have hsize : bufferSize = 1024 := rfl
  unfold looping
  by_cases hone : bytes.length = 1
  · obtain ⟨b, rfl⟩ := List.length_eq_one_iff.mp hone
    have hindex : (⟨0, by decide⟩ : Fin bufferSize) ≠ ⟨[b].length, h⟩ := by
      simp
    have hfirst : (l.after [b] h).buffer ⟨0, by decide⟩ = b := by
      simp only [Locals.after, Function.update_of_ne hindex]
      rfl
    have hvalread : (l.after [b] h).valread = 1 := rfl
    simp [hfirst, hvalread]
  · have hvalread : (l.after bytes h).valread ≠ 1 := by
      simp only [Locals.after]
      omega
    have hother : bytes ≠ [charQ] := by
      rintro rfl
      exact hone rfl
    simp [hvalread, hother]

variable (os : OS) {w : World} {lfd : SOCKET}

/-- One round of the loop. What it does depends on the connection only, and the
write to the buffer stays inside of it. -/
theorem run_serve (this : CServerTCP) (l : Locals)
    (hlfd : ((w.objs this.mListenSfd).getD {}).mSfd = lfd) :
    (∃ errmsg, (w.kernel.round os lfd).1.verdict = some (.throws errmsg) ∧
      (serve this l).run (step os) w =
        (.error (.thrown (.withErrno errmsg (w.kernel.round os lfd).2.errno)),
          w.withKernel ((w.kernel.round os lfd).2.log .errno (w.kernel.round os lfd).2.errno))) ∨
    ∃ bytes h, bytes ≠ [] ∧ (w.kernel.round os lfd).1 = .received bytes ∧
      (serve this l).run (step os) w =
        (.ok (l.after bytes h), w.withKernel (w.kernel.round os lfd).2) := by
  have hsize : bufferSize = 1024 := rfl
  unfold Kernel.round
  rcases w.kernel.accept_cases os lfd with ⟨error, haccept⟩ | ⟨d, fd, hfd, _, haccept⟩
  · rw [haccept]
    simp only [↓reduceIte]
    refine .inl ⟨.msg1022, rfl, run_eq_of_wp _ ?_⟩
    simp only [serve, CSocket.operatorSOCKET, wp_bind', Sys.wp_load_mSfd, hlfd, Sys.wp_accept,
      haccept, wp_ite, ↓reduceIte]
    rfl
  have hvalid : fd ≠ invalidSocket := ne_invalidSocket hfd
  rw [haccept]
  simp only [hvalid, ↓reduceIte]
  generalize (w.kernel.setDesc fd (some d)).log (.accept lfd) fd = k₁ at haccept ⊢
  rcases k₁.recv_cases os fd (bufferSize - 1) with ⟨error, hrecv⟩ | ⟨bytes, hlength, hrecv⟩
  · rw [hrecv]
    simp only [↓reduceIte]
    refine .inl ⟨.msg1024, rfl, run_eq_of_wp _ ?_⟩
    simp only [serve, CSocket.operatorSOCKET, wp_bind', Sys.wp_load_mSfd, hlfd, Sys.wp_accept,
      haccept, wp_ite, hvalid, ↓reduceIte, Sys.wp_recv, World.kernel_withKernel, hrecv,
      Sys.wp_shutdown, wp_closeSocketP, World.withKernel_withKernel]
    rw [if_neg (by decide)]
    rfl
  · have hne : (bytes.length : Int) ≠ socketError := by
      simp only [socketError]
      omega
    rw [hrecv]
    simp only [hne, ↓reduceIte]
    cases bytes with
    | nil =>
      refine .inl ⟨.msg1023, rfl, run_eq_of_wp _ ?_⟩
      simp only [serve, CSocket.operatorSOCKET, wp_bind', Sys.wp_load_mSfd, hlfd, Sys.wp_accept,
        haccept, wp_ite, hvalid, ↓reduceIte, Sys.wp_recv, World.kernel_withKernel, hrecv,
        Sys.wp_shutdown, wp_closeSocketP, World.withKernel_withKernel]
      rw [if_pos (by simp)]
      rfl
    | cons b rest =>
      have hlt : (b :: rest).length < bufferSize := by omega
      have hnonzero : ((b :: rest).length : Int) ≠ 0 := by
        simp only [List.length_cons]
        omega
      refine .inr ⟨b :: rest, hlt, List.cons_ne_nil _ _, rfl, run_eq_of_wp _ ?_⟩
      simp only [serve, CSocket.operatorSOCKET, wp_bind', Sys.wp_load_mSfd, hlfd, Sys.wp_accept,
        haccept, wp_ite, hvalid, ↓reduceIte, Sys.wp_recv, World.kernel_withKernel, hrecv,
        Sys.wp_shutdown, wp_closeSocketP, hnonzero, hne, World.withKernel_withKernel,
        Buffer.write_of_lt _ hlt]
      rfl

def exit (w : World) (k : Kernel) : Verdict → Except Exn (Option Unit) × World
  | .returns => (.ok (some ()), w.withKernel k)
  | .throws errmsg =>
    (.error (.thrown (.withErrno errmsg k.errno)), w.withKernel (k.log .errno k.errno))

/-- The loop of `run` and its end, watched for `fuel` rounds. -/
def watch (this : CServerTCP) (fuel : Nat) (l : Locals) : Prog (Option Unit) :=
  (Program.whileLoop looping this.serve fuel l).bind fun exit => .done (exit.map fun _ => ())

private theorem watch_succ (this : CServerTCP) (fuel : Nat) {l : Locals} (hl : looping l = true) :
    (watch this (fuel + 1) l).run (step os) w = chain ((serve this l).run (step os) w) fun l w =>
      (watch this fuel l).run (step os) w := by
  rw [watch, run_bind, run_whileLoop_succ _ _ _ _ _ _ hl]
  rcases (serve this l).run (step os) w with ⟨_ | l', w'⟩
  · rfl
  · rw [chain_ok, chain_ok, watch, run_bind]

private theorem watch_exit (this : CServerTCP) (fuel : Nat) {l : Locals} (hl : looping l = false) :
    (watch this fuel l).run (step os) w = (.ok (some ()), w) := by
  rw [watch, run_bind, run_whileLoop_exit _ _ _ _ _ _ hl]
  rfl

/-- The first round with a verdict ends the loop, whatever the local variables
hold. Without one the loop goes on. -/
theorem run_watch (this : CServerTCP) (fuel : Nat) {l : Locals} (hl : looping l = true)
    (hlfd : ((w.objs this.mListenSfd).getD {}).mSfd = lfd) :
    (∀ i verdict, i < fuel → (∀ j < i, (w.kernel.outcome os lfd j).verdict = none) →
      (w.kernel.outcome os lfd i).verdict = some verdict →
      (watch this fuel l).run (step os) w = exit w (w.kernel.rounds os lfd (i + 1)) verdict) ∧
    ((∀ j < fuel, (w.kernel.outcome os lfd j).verdict = none) →
      (watch this fuel l).run (step os) w =
        (.ok none, w.withKernel (w.kernel.rounds os lfd fuel))) := by
  induction fuel generalizing l w with
  | zero =>
    constructor
    · intro i verdict hi
      omega
    · intro _
      simp only [watch, whileLoop, hl, ↓reduceIte]
      rfl
  | succ fuel ih =>
    have hfirst : w.kernel.outcome os lfd 0 = (w.kernel.round os lfd).1 := rfl
    have hdecided : ∀ verdict, (w.kernel.outcome os lfd 0).verdict = some verdict →
        (watch this (fuel + 1) l).run (step os) w =
          exit w (w.kernel.rounds os lfd 1) verdict →
        (∀ i verdict, i < fuel + 1 → (∀ j < i, (w.kernel.outcome os lfd j).verdict = none) →
          (w.kernel.outcome os lfd i).verdict = some verdict →
          (watch this (fuel + 1) l).run (step os) w =
            exit w (w.kernel.rounds os lfd (i + 1)) verdict) ∧
        ((∀ j < fuel + 1, (w.kernel.outcome os lfd j).verdict = none) →
          (watch this (fuel + 1) l).run (step os) w =
            (.ok none, w.withKernel (w.kernel.rounds os lfd (fuel + 1)))) := by
      intro verdict hverdict hexit
      constructor
      · intro i verdict' _ hbefore hverdict'
        cases i with
        | zero =>
          obtain rfl : verdict = verdict' := by simpa [hverdict] using hverdict'
          exact hexit
        | succ i => simp [hbefore 0 (Nat.succ_pos i)] at hverdict
      · intro hnone
        simp [hnone 0 (Nat.succ_pos fuel)] at hverdict
    rcases run_serve os this l hlfd with
      ⟨errmsg, hverdict, hserve⟩ | ⟨bytes, h, hne, houtcome, hserve⟩
    · apply hdecided _ hverdict
      rw [watch_succ os this fuel hl, hserve]
      rfl
    · have hafter := looping_after l h hne
      by_cases hquit : bytes = [charQ]
      · rw [decide_eq_false (by simp [hquit])] at hafter
        apply hdecided .returns
        · rw [hfirst, houtcome, hquit]
          rfl
        · rw [watch_succ os this fuel hl, hserve, chain_ok, watch_exit os this fuel hafter]
          rfl
      · rw [decide_eq_true hquit] at hafter
        have hnext := ih (w := w.withKernel (w.kernel.round os lfd).2) hafter hlfd
        rw [watch_succ os this fuel hl, hserve, chain_ok]
        constructor
        · intro i verdict hi hbefore hverdict
          cases i with
          | zero =>
            rw [hfirst, houtcome, Outcome.verdict] at hverdict
            · simp [hquit] at hverdict
            · exact hne
          | succ i =>
            exact hnext.1 i verdict (by omega) (fun j hj => hbefore (j + 1) (by omega)) hverdict
        · intro hnone
          exact hnext.2 fun j hj => hnone (j + 1) (by omega)

/-- `run()` stops at the first decisive connection that the system supplies, in
the way that connection says, and at no other. -/
theorem run_decides (w : World) (this : CServerTCP) :
    let lfd := ((w.objs this.mListenSfd).getD {}).mSfd
    let outcome := w.kernel.outcome os lfd
    let started := { w with ready := Function.update w.ready this.mListenSfd true }
    (∀ i verdict, (∀ j < i, (outcome j).verdict = none) → (outcome i).verdict = some verdict →
      ∀ fuel, i < fuel → (CServerTCP.run this fuel).run (step os) w =
        exit started (w.kernel.rounds os lfd (i + 1)) verdict) ∧
    (∀ fuel, (∀ j < fuel, (outcome j).verdict = none) →
      (CServerTCP.run this fuel).run (step os) w =
        (.ok none, started.withKernel (w.kernel.rounds os lfd fuel))) ∧
    ∀ n, (w.kernel.rounds os lfd n).table = w.kernel.table ∧
      ∃ events, (w.kernel.rounds os lfd n).trace = events ++ w.kernel.trace ∧
        RoundLog lfd events := by
  intro lfd outcome started
  have hrun : ∀ fuel, (CServerTCP.run this fuel).run (step os) w =
      (watch this fuel {}).run (step os) started := fun _ => rfl
  have hwatch := fun fuel => run_watch os this fuel (l := {}) (w := started)
    (show looping {} = true from rfl) rfl
  refine ⟨?_, ?_, w.kernel.rounds_log os lfd⟩
  · intro i verdict hbefore hverdict fuel hi
    rw [hrun]
    exact (hwatch fuel).1 i verdict hi hbefore hverdict
  · intro fuel hnone
    rw [hrun]
    exact (hwatch fuel).2 hnone

end CServerTCP
end ClientServerTcp
