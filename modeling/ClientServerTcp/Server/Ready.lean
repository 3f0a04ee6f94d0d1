import ClientServerTcp.Library.Interference
import ClientServerTcp.Server.Construct
import ClientServerTcp.Server.Loop
import Mathlib.Data.Nat.Find

/-! The whole life of a server: `run()` is called any number of times, one call
after the other, and `ready()` is asked between any two steps. -/
namespace ClientServerTcp
open Effects Program Relation Memory

namespace CServerTCP

/-- The `run()` that is in progress, and the world. -/
abbrev LifeState := Option (Prog (Option Unit)) × World

/-- One step in the life of a server. A `run()` that was watched for long enough
stays in its loop. -/
inductive Life (os : OS) (this : CServerTCP) : LifeState → LifeState → Prop
  | called (fuel : Nat) (w : World) : Life os this (none, w) (some (this.run fuel), w)
  | stepped (op : Op) (next : op.Res → Prog (Option Unit)) (w : World) :
    Life os this (some (.call op next), w) (some (next (step os op w).1), (step os op w).2)
  | returned (w : World) : Life os this (some (.done (some ())), w) (none, w)
  | threw (e : Exn) (w : World) : Life os this (some (.raise e), w) (none, w)

/-- It has reached the loop, and has neither returned nor thrown. -/
inductive InLoop : Prog (Option Unit) → Prop
  | atStep {op : Op} {next : op.Res → Prog (Option Unit)}
    (h : ∀ o value, op ≠ .storeReady o value) : InLoop (.call op next)
  | watched : InLoop (.done none)

def Served (lfd : SOCKET) (k : Kernel) : Prop :=
  ∃ d, k.table lfd = some d ∧ d.localAddr.isSome ∧ d.listening = true

/-- If `ready()` returns true then the listening socket is bound and listening,
and a `run()` is in its loop. -/
def Truthful (os : OS) (this : CServerTCP) (c : LifeState) : Prop :=
  ∀ aDelay, ((this.ready aDelay).run (step os) c.2).1 = .ok true →
    (∃ s, c.2.objs this.mListenSfd = some s ∧ Served s.mSfd c.2.kernel) ∧
    ∃ p, c.1 = some p ∧ InLoop p

section
variable (os : OS) (this : CServerTCP)

theorem run_ready (aDelay : Int) (w : World) :
    (this.ready aDelay).run (step os) w = (.ok (w.ready this.mListenSfd), w) := rfl

theorem life_run (p : Prog (Option Unit)) (w : World) :
    match p.run (step os) w with
    | (.ok value, w') => ReflTransGen (Life os this) (some p, w) (some (.done value), w')
    | (.error e, w') => ReflTransGen (Life os this) (some p, w) (some (.raise e), w') := by
  induction p generalizing w with
  | done value => exact .refl
  | raise e => exact .refl
  | call op next ih =>
    have hnext := ih (step os op w).1 (step os op w).2
    have hfirst : Life os this (some (.call op next), w)
        (some (next (step os op w).1), (step os op w).2) := .stepped op next w
    revert hnext
    rw [show (Program.call op next).run (step os) w =
      (next (step os op w).1).run (step os) (step os op w).2 from rfl]
    rcases (next (step os op w).1).run (step os) (step os op w).2 with ⟨_ | value, w'⟩
    · exact .head hfirst
    · exact .head hfirst

end

/-! ## The listening socket during a round -/

namespace Served

variable {os : OS} {lfd : SOCKET} {k k' : Kernel}

theorem of_table (h : Served lfd k) (htable : k'.table lfd = k.table lfd) : Served lfd k' := by
  unfold Served
  rwa [htable]

variable (os) in
theorem accept (h : Served lfd k) :
    Served lfd (k.accept os lfd).2 ∧
      ((k.accept os lfd).1 = invalidSocket ∨ (k.accept os lfd).1 ≠ lfd) := by
  rcases k.accept_cases os lfd with ⟨error, hret⟩ | ⟨d, fd, _, hfree, hret⟩
  · rw [hret]
    exact ⟨h.of_table rfl, .inl rfl⟩
  · have hopen := h
    obtain ⟨d', hd', _⟩ := hopen
    have hne : fd ≠ lfd := by
      rintro rfl
      simp [hfree] at hd'
    rw [hret]
    exact ⟨h.of_table (Function.update_of_ne hne.symm ..), .inr hne⟩

theorem recv (h : Served lfd k) (fd : SOCKET) (len : Nat) :
    Served lfd (k.recv os fd len).2 := by
  rcases k.recv_cases os fd len with ⟨error, hret⟩ | ⟨bytes, _, hret⟩
  · rw [hret]
    exact h.of_table rfl
  · rw [hret]
    exact h.of_table rfl

theorem shutdown (h : Served lfd k) {fd : SOCKET} (hne : fd ≠ lfd) (how : Int) :
    Served lfd (k.shutdown os fd how).2 := by
  obtain ⟨_, _, htable, _⟩ := k.shutdown_effect os fd how
  exact h.of_table (htable lfd hne.symm)

theorem close (h : Served lfd k) {fd : SOCKET} (hne : fd ≠ lfd) : Served lfd (k.close os fd).2 := by
  obtain ⟨_, _, htable, _⟩ := k.close_effect os fd
  exact h.of_table (by rw [htable, Function.update_of_ne hne.symm])

end Served

/-! ## The loop -/

/-- The listening socket stands, and its object is as it was. -/
def Standing (lfd : SOCKET) (objs : Heap CSocket) (w : World) : Prop :=
  w.objs = objs ∧ Served lfd w.kernel

def AtLoop (lfd : SOCKET) (objs : Heap CSocket) (op : Op) (w : World) : Prop :=
  (∀ o value, op ≠ .storeReady o value) ∧ Standing lfd objs w

section
variable {os : OS} {lfd : SOCKET} {objs : Heap CSocket} {w : World}

private theorem always_next {α : Type} {op : Op} {k : op.Res → Prog α} {Q : α → World → Prop}
    {E : Exn → World → Prop} (h : Standing lfd objs w) (hop : ∀ o value, op ≠ .storeReady o value)
    (hk : (k (step os op w).1).always (answersOf (step os)) alone (AtLoop lfd objs) Q E
      (step os op w).2) :
    ((Program.perform op : Prog op.Res) >>= k).always (answersOf (step os)) alone
      (AtLoop lfd objs) Q E w := by
  intro t hst
  rw [eq_of_alone hst]
  refine ⟨⟨hop, h⟩, ?_⟩
  intro answer u hanswer
  have hstep : (answer, u) = step os op w := hanswer
  rw [show answer = (step os op w).1 from congrArg Prod.fst hstep,
    show u = (step os op w).2 from congrArg Prod.snd hstep]
  exact hk

private theorem always_throw_error {α : Type} (errmsg : Errmsg) (h : Standing lfd objs w) :
    (throw_error errmsg : Prog α).always (answersOf (step os)) alone (AtLoop lfd objs)
      (fun _ _ => True) (fun _ _ => True) w := by
  apply always_next h (by simp)
  exact fun _ _ => trivial

private theorem always_standing (this : CServerTCP) (l : Locals)
    (hlfd : ((objs this.mListenSfd).getD {}).mSfd = lfd) (h : Standing lfd objs w) :
    (this.serve l).always (answersOf (step os)) alone (AtLoop lfd objs)
      (fun _ _ => True) (fun _ _ => True) w := by
  unfold serve
  simp only [CSocket.operatorSOCKET, closeSocketP]
  apply always_next h (by simp)
  have hload : step os (.load this.mListenSfd .mSfd) w = (lfd, w) := by
    rw [← hlfd, ← h.1]
    rfl
  rw [hload]
  apply always_next h (by simp)
  obtain ⟨hserved₁, hfd⟩ := h.2.accept os
  have h₁ : Standing lfd objs (step os (.accept lfd) w).2 := ⟨h.1, hserved₁⟩
  have hfd : (step os (.accept lfd) w).1 = invalidSocket ∨ (step os (.accept lfd) w).1 ≠ lfd := hfd
  generalize (step os (.accept lfd) w).1 = fd at hfd ⊢
  generalize (step os (.accept lfd) w).2 = w₁ at h₁ ⊢
  split
  · exact always_throw_error _ h₁
  rename_i hvalid
  have hne : fd ≠ lfd := hfd.resolve_left hvalid
  apply always_next h₁ (by simp)
  have h₂ : Standing lfd objs (step os (.recv fd (bufferSize - 1)) w₁).2 := ⟨h₁.1, h₁.2.recv _ _⟩
  generalize (step os (.recv fd (bufferSize - 1)) w₁).1 = answer
  generalize (step os (.recv fd (bufferSize - 1)) w₁).2 = w₂ at h₂ ⊢
  obtain ⟨valread, bytes⟩ := answer
  apply always_next h₂ (by simp)
  have h₃ : Standing lfd objs (step os (.shutdown fd shutRdwr) w₂).2 := ⟨h₂.1, h₂.2.shutdown hne _⟩
  generalize (step os (.shutdown fd shutRdwr) w₂).2 = w₃ at h₃ ⊢
  apply always_next h₃ (by simp)
  have h₄ : Standing lfd objs (step os (.close fd) w₃).2 := ⟨h₃.1, h₃.2.close hne⟩
  generalize (step os (.close fd) w₃).2 = w₄ at h₄ ⊢
  dsimp only
  split
  · exact always_throw_error _ h₄
  split
  · exact always_throw_error _ h₄
  split
  · exact fun _ _ => trivial
  · exact fun _ _ => trivial

def Undecided (os : OS) (lfd : SOCKET) (k : Kernel) : Prop :=
  ∀ n, (k.outcome os lfd n).verdict = none

def AtTest (os : OS) (lfd : SOCKET) (objs : Heap CSocket) (start : Kernel) (l : Locals)
    (w : World) : Prop :=
  looping l = true ∧ w.objs = objs ∧ ∃ n, w.kernel = start.rounds os lfd n

private theorem wp_serve_undecided (this : CServerTCP) {start : Kernel} {l : Locals}
    (hlfd : ((objs this.mListenSfd).getD {}).mSfd = lfd) (hnone : Undecided os lfd start)
    (h : AtTest os lfd objs start l w) :
    (this.serve l).wp (step os) (AtTest os lfd objs start) (fun _ _ => False) w := by
  obtain ⟨_, hobjs, n, hkernel⟩ := h
  have hround : (w.kernel.round os lfd).1.verdict = none := by
    rw [hkernel]
    exact hnone n
  rw [wp_iff_run]
  rcases run_serve os this l (w := w) (hobjs ▸ hlfd) with
    ⟨errmsg, hverdict, _⟩ | ⟨bytes, hlt, hne, houtcome, hserve⟩
  · simp [hround] at hverdict
  · rw [hserve]
    refine ⟨?_, hobjs, n + 1, ?_⟩
    · rw [looping_after l hlt hne, decide_eq_true]
      rintro rfl
      rw [houtcome] at hround
      contradiction
    · rw [World.kernel_withKernel, Kernel.rounds_succ, hkernel]

private theorem always_watch (this : CServerTCP) {start : Kernel} {l : Locals}
    (hlfd : ((objs this.mListenSfd).getD {}).mSfd = lfd) (hnone : Undecided os lfd start)
    (hserved : Served lfd start) (fuel : Nat) (h : AtTest os lfd objs start l w) :
    (watch this fuel l).always (answersOf (step os)) alone (AtLoop lfd objs)
      (fun value w => value = none ∧ Standing lfd objs w) (fun _ _ => False) w := by
  have hstanding : ∀ {l w}, AtTest os lfd objs start l w → Standing lfd objs w := by
    intro l w h
    obtain ⟨_, hobjs, n, hkernel⟩ := h
    refine ⟨hobjs, hserved.of_table ?_⟩
    rw [hkernel, (start.rounds_log os lfd n).1]
  apply always_bind
  refine always_mono (always_whileLoop (I := AtTest os lfd objs start) (fun _ h => h.elim) ?_
    fuel l w h) ?_ (fun _ _ h => h)
  · intro l w h _
    exact always_of_wp (wp_serve_undecided this hlfd hnone h)
      (always_standing this l hlfd (hstanding h))
  · intro exit w hexit t hst
    rw [eq_of_alone hst]
    cases exit with
    | none =>
      obtain ⟨l, _, h⟩ := hexit
      exact ⟨rfl, hstanding h⟩
    | some l =>
      obtain ⟨hl, h⟩ := hexit
      simp [h.1] at hl

end

/-! ## The whole life -/

section
variable (os : OS) {this : CServerTCP} {w : World} {lfd : SOCKET}

/-- A life in which no `run()` comes to an end: before the first call, before its
first step, or in its loop. -/
inductive Lives (this : CServerTCP) (lfd : SOCKET) (w : World) : LifeState → Prop
  | idle : Lives this lfd w (none, w)
  | called (fuel : Nat) : Lives this lfd w (some (this.run fuel), w)
  | running (p : Prog (Option Unit)) (w' : World)
    (h : p.always (answersOf (step os)) alone (AtLoop lfd w.objs)
      (fun value t => value = none ∧ Standing lfd w.objs t) (fun _ _ => False) w') :
    Lives this lfd w (some p, w')

private theorem Lives.step {c c' : LifeState} (h : Lives os this lfd w c)
    (hlfd : ((w.objs this.mListenSfd).getD {}).mSfd = lfd)
    (hnone : Undecided os lfd w.kernel) (hserved : Served lfd w.kernel)
    (hstep : Life os this c c') : Lives os this lfd w c' := by
  cases h with
  | idle =>
    cases hstep with
    | called fuel => exact .called fuel
  | called fuel =>
    have hrun : this.run fuel =
        .call (.storeReady this.mListenSfd true) fun _ => watch this fuel {} := rfl
    rw [hrun] at hstep
    cases hstep with
    | stepped =>
      apply Lives.running
      apply always_watch this hlfd hnone hserved fuel
      exact ⟨show looping {} = true from rfl, rfl, 0, rfl⟩
  | running p w' h =>
    cases hstep with
    | stepped op next => exact .running _ _ ((h w' .refl).2 _ _ rfl)
    | returned =>
      have hvalue := (h w' .refl).1
      contradiction
    | threw e => exact (h w' .refl).elim

private theorem Lives.truthful {s : CSocket} {c : LifeState} (h : Lives os this s.mSfd w c)
    (hs : w.objs this.mListenSfd = some s) (hready : w.ready this.mListenSfd = false) :
    Truthful os this c := by
  intro aDelay hasked
  rw [run_ready] at hasked
  cases h with
  | idle => simp [hready] at hasked
  | called fuel => simp [hready] at hasked
  | running p w' h =>
    have hobject : Standing s.mSfd w.objs w' → ∃ s, w'.objs this.mListenSfd = some s ∧
        Served s.mSfd w'.kernel := by
      intro h
      exact ⟨s, by rw [h.1, hs], h.2⟩
    cases p with
    | done value =>
      obtain ⟨rfl, hstanding⟩ := h w' .refl
      exact ⟨hobject hstanding, _, rfl, .watched⟩
    | raise e => exact (h w' .refl).elim
    | call op next =>
      obtain ⟨hop, hstanding⟩ := (h w' .refl).1
      exact ⟨hobject hstanding, _, rfl, .atStep hop⟩

private theorem exists_ended (w : World) (n : Nat)
    (hn : (w.kernel.outcome os ((w.objs this.mListenSfd).getD {}).mSfd n).verdict ≠ none) :
    ∃ w', ReflTransGen (Life os this) (none, w) (none, w') ∧ w'.ready this.mListenSfd = true := by
  classical
  have hex : ∃ n,
      (w.kernel.outcome os ((w.objs this.mListenSfd).getD {}).mSfd n).verdict ≠ none := ⟨n, hn⟩
  obtain ⟨verdict, hverdict⟩ := Option.ne_none_iff_exists'.mp (Nat.find_spec hex)
  have hbefore : ∀ j < Nat.find hex,
      (w.kernel.outcome os ((w.objs this.mListenSfd).getD {}).mSfd j).verdict = none := by
    intro j hj
    exact not_not.mp (Nat.find_min hex hj)
  let started : World := { w with ready := Function.update w.ready this.mListenSfd true }
  have hended := (run_watch os this (Nat.find hex + 1) (l := {}) (w := started) rfl rfl).1
    (Nat.find hex) verdict (Nat.lt_succ_self _) hbefore hverdict
  have hlife := life_run os this (watch this (Nat.find hex + 1) {}) started
  have hcalled : ReflTransGen (Life os this) (none, w)
      (some (watch this (Nat.find hex + 1) {}), started) :=
    .tail (.single (.called (Nat.find hex + 1) w)) (.stepped _ _ w)
  have hready : started.ready this.mListenSfd = true := Function.update_self ..
  rw [hended] at hlife
  cases verdict with
  | returns => exact ⟨_, .tail (hcalled.trans hlife) (.returned _), hready⟩
  | throws errmsg => exact ⟨_, .tail (hcalled.trans hlife) (.threw _ _), hready⟩

end

/-- `ready()` tells the truth in every state of every life of a server, if and
only if no connection that the system supplies makes a `run()` end. -/
theorem ready_truthful_iff (os : OS) (aPort : String) (aReuseAddr : Bool) {w₀ w : World}
    {this : CServerTCP}
    (hnew : (construct aPort aReuseAddr).run (step os) w₀ = (.ok this, w)) :
    (∀ c, ReflTransGen (Life os this) (none, w) c → Truthful os this c) ↔
      Undecided os ((w.objs this.mListenSfd).getD {}).mSfd w.kernel := by
  have hexits := exits_run (step os) (wp_construct os aPort aReuseAddr (Holding.nothing w₀.kernel))
  rw [hnew] at hexits
  obtain ⟨hready, fd, d, hs, _, hd, hserving⟩ := hexits
  constructor
  · intro htruthful n
    by_contra hn
    obtain ⟨w', hlife, hset⟩ := exists_ended os w n hn
    obtain ⟨_, p, hp, _⟩ := htruthful _ hlife 0 (congrArg Except.ok hset)
    contradiction
  · intro hnone c hlife
    have hserved : Served fd w.kernel := ⟨d, hd, hserving.bound, hserving.listening⟩
    have hlfd : ((w.objs this.mListenSfd).getD {}).mSfd = fd := by rw [hs, Option.getD_some]
    have hlives : Lives os this fd w c := by
      induction hlife with
      | refl => exact .idle
      | tail _ hstep ih => exact ih.step os hlfd (hlfd ▸ hnone) hserved hstep
    exact hlives.truthful os hs hready

/-- Every client of this server sends the byte 'a'. -/
theorem steady_server_truthful :
    ∃ w, (construct "4433").run (step (.scripted fun _ => .received [0x61])) .initial =
        (.ok ⟨0⟩, w) ∧
      ∀ c, ReflTransGen (Life (.scripted fun _ => .received [0x61]) ⟨0⟩) (none, w) c →
        Truthful (.scripted fun _ => .received [0x61]) ⟨0⟩ c := by
  have hok : ((construct "4433").run (step (.scripted fun _ => .received [0x61])) .initial).1 =
      .ok ⟨0⟩ := by decide +kernel
  have hfree : ((construct "4433").run (step (.scripted fun _ => .received [0x61]))
      .initial).2.kernel.table 4 = none := by
    apply Option.isNone_iff_eq_none.mp
    decide +kernel
  have hopen : (((construct "4433").run (step (.scripted fun _ => .received [0x61]))
      .initial).2.kernel.table 3).isSome := by decide +kernel
  have hobj : (((construct "4433").run (step (.scripted fun _ => .received [0x61]))
      .initial).2.objs 0).map CSocket.mSfd = some 3 := by decide +kernel
  generalize hnew : (construct "4433").run (step (.scripted fun _ => .received [0x61]))
    .initial = r at *
  obtain ⟨result, w⟩ := r
  obtain rfl : result = .ok ⟨0⟩ := hok
  obtain ⟨s, hs, hsfd⟩ := Option.map_eq_some_iff.mp hobj
  refine ⟨w, rfl, (ready_truthful_iff _ "4433" false hnew).mpr ?_⟩
  intro n
  rw [hs, Option.getD_some, hsfd, Kernel.outcome_scripted _ hopen hfree]
  · decide
  · intro _ bytes hbytes
    obtain rfl := Outcome.received.inj hbytes
    decide

/-- One connection brings 'Q', and the server has quit. -/
theorem quit_server_stays_ready :
    ¬∀ (os : OS) (aPort : String) (aReuseAddr : Bool) (w₀ w : World) (this : CServerTCP),
      (construct aPort aReuseAddr).run (step os) w₀ = (.ok this, w) →
      ∀ c, ReflTransGen (Life os this) (none, w) c → Truthful os this c := by
  intro h
  have hok : ((construct "4433").run (step .obliging) .initial).1 = .ok ⟨0⟩ := by decide +kernel
  have hquit : (((construct "4433").run (step .obliging) .initial).2.kernel.outcome .obliging
      ((((construct "4433").run (step .obliging) .initial).2.objs 0).getD {}).mSfd 0).verdict ≠
        none := by decide +kernel
  generalize hnew : (construct "4433").run (step .obliging) .initial = r at *
  obtain ⟨result, w⟩ := r
  obtain rfl : result = .ok ⟨0⟩ := hok
  obtain ⟨w', hlife, hset⟩ : ∃ w', ReflTransGen (Life .obliging ⟨0⟩) (none, w) (none, w') ∧
      w'.ready 0 = true := exists_ended .obliging w 0 hquit
  obtain ⟨_, p, hp, _⟩ := h .obliging "4433" false .initial w ⟨0⟩ hnew _ hlife 0
    (congrArg Except.ok hset)
  contradiction

end CServerTCP
end ClientServerTcp
