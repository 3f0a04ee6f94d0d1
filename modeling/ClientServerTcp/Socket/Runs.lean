import ClientServerTcp.Library.Ledger
import ClientServerTcp.Socket.Spec

/-! Any sequence of operations on any number of `CSocket` objects. The live
objects own the descriptors that these sources have opened, and what they have
cached about a descriptor is what the system knows about it. -/
namespace ClientServerTcp
open Effects Program CSocket Memory

inductive SocketOp where
  | construct (domain type protocol : Int)
  | moveConstruct (that : ObjId)
  | moveAssign (this source : ObjId)
  | bind (this : ObjId) (ai : Addrinfo)
  | listen (this : ObjId)
  | getter (this : ObjId) (g : Getter)
  | destruct (this : ObjId)

namespace SocketOp

def subjects : SocketOp → List ObjId
  | construct .. => []
  | moveConstruct that => [that]
  | moveAssign this source => [this, source]
  | bind this _ | listen this | getter this _ | destruct this => [this]

def program : SocketOp → Prog Unit
  | construct domain type protocol => do let _ ← CSocket.construct domain type protocol
  | moveConstruct that => do let _ ← CSocket.moveConstruct that
  | moveAssign this source => CSocket.moveAssign this source
  | bind this ai => CSocket.bind this ai
  | listen this => CSocket.listen this
  | getter this g => g.call this
  | destruct this => CSocket.destruct this

end SocketOp

/-- What can happen next: an operation on live objects, or code of the process
that these sources know nothing about opens or closes a descriptor. -/
inductive Activity where
  | socket (op : SocketOp)
  | foreign (fd : SOCKET) (d : Option Desc)

def Activity.exec (os : OS) (w : World) : Activity → World
  | .socket op =>
    if op.subjects.all fun o => (w.objs o).isSome then (op.program.run (step os) w).2 else w
  | .foreign fd d => w.withKernel (w.kernel.foreign fd d)

def history (os : OS) (activities : List Activity) : World :=
  activities.foldl (Activity.exec os) .initial

/-! ## The invariant -/

def CSocket.status (s : CSocket) : Status := ⟨s.mAf, s.mBound, s.mListen, true⟩

def CSocket.holding (s : CSocket) : Option (SOCKET × Status) :=
  if s.mSfd = invalidSocket then none else some (s.mSfd, s.status)

def holds (objs : Heap CSocket) : ObjId → Option (SOCKET × Status) := objs.view CSocket.holding

/-- An object without a descriptor has default members. -/
def CSocket.Tidy (s : CSocket) : Prop := s.mSfd = invalidSocket → s = {}

structure Invariant (w : World) : Prop where
  sound : w.kernel.Sound
  tidy : w.objs.All CSocket.Tidy
  exact : Ownership.Exact (holds w.objs) w.kernel.status

@[simp] theorem CSocket.holding_empty : ({} : CSocket).holding = none := rfl

theorem CSocket.holding_valid {s : CSocket} (h : s.mSfd ≠ invalidSocket) :
    s.holding = some (s.mSfd, s.status) := if_neg h

theorem CSocket.holding_eq_some {s : CSocket} {fd : SOCKET} {x : Status} :
    s.holding = some (fd, x) ↔ s.mSfd ≠ invalidSocket ∧ s.mSfd = fd ∧ s.status = x := by
  unfold holding
  split <;> simp [*]

theorem holds_eq_some {objs : Heap CSocket} {o : ObjId} {fd : SOCKET} {x : Status} :
    holds objs o = some (fd, x) ↔
      ∃ s, objs o = some s ∧ s.mSfd ≠ invalidSocket ∧ s.mSfd = fd ∧ s.status = x := by
  simp only [holds, Heap.view, Option.bind_eq_some_iff, CSocket.holding_eq_some]

theorem holds_of {objs : Heap CSocket} {o : ObjId} {s : CSocket} (hs : objs o = some s)
    (hvalid : s.mSfd ≠ invalidSocket) : holds objs o = some (s.mSfd, s.status) := by
  rw [holds, Heap.view_of _ hs, CSocket.holding_valid hvalid]

theorem CSocket.tidy_empty : CSocket.Tidy {} := fun _ => rfl

theorem CSocket.tidy_of_valid {s : CSocket} (h : s.mSfd ≠ invalidSocket) : s.Tidy :=
  fun hinvalid => absurd hinvalid h

theorem Invariant.initial : Invariant .initial where
  sound := by
    refine ⟨by simp [World.initial], by simp [World.initial, ownOpen], by simp [World.initial], ?_⟩
    intro newer e older fd h
    simp [World.initial] at h
  tidy := .empty 0
  exact := .empty

/-! ## What an operation does to the descriptors -/

namespace CSocket
open Kernel

section
variable {os : OS} {k : Kernel} {fd : SOCKET}

private theorem closed_again (os : OS) {k₁ : Kernel} {x : Status} (call : Call) (error : Int)
    (hk₁ : k₁.Sound) (hstatus : k₁.status = Function.update k.status fd (some x))
    (hfree : k.status fd = none) (hcall : ∀ fd, call ≠ .close fd) :
    let k₂ := closeFailed os k₁ fd call error
    (k₂.log .errno k₂.errno).Sound ∧ (k₂.log .errno k₂.errno).status = k.status := by
  obtain ⟨hfail, hstatus'⟩ := (Calm.fail k₁ call error hcall).sound_status hk₁
  have hopen : ((k₁.fail call error).status fd).isSome := by simp [hstatus', hstatus]
  obtain ⟨hclose, hclosed⟩ := hfail.closed os (.inr hopen)
  obtain ⟨hlog, hlogged⟩ := (Calm.log (closeFailed os k₁ fd call error) .errno
    (closeFailed os k₁ fd call error).errno 0 rfl).sound_status hclose
  refine ⟨hlog, ?_⟩
  rw [hlogged, closeFailed, hclosed, hstatus', hstatus, Function.update_idem, ← hfree,
    Function.update_eq_self]

section
variable {domain type protocol : Int} (hk : k.Sound) (h : os.socket k domain type protocol = .ok fd)
include hk h

private theorem effect_socket :
    (afterSocket os k fd domain type protocol).Sound ∧
      (afterSocket os k fd domain type protocol).status = Function.update k.status fd
        (some ⟨domain, false, false, (opened os k fd domain type protocol).tuned⟩) :=
  hk.opened (os.socket_free h).1 rfl rfl

private theorem effect_reuseaddr :
    (afterReuseaddr os k fd domain type protocol).Sound ∧
      (afterReuseaddr os k fd domain type protocol).status = Function.update k.status fd
        (some ⟨domain, false, false, ((opened os k fd domain type protocol).setOption solSocket
          soReuseaddr 0).tuned⟩) := by
  have hopen : (afterSocket os k fd domain type protocol).table fd =
      some (opened os k fd domain type protocol) := by simp [afterSocket]
  obtain ⟨hk₁, hstatus₁⟩ := effect_socket hk h
  obtain ⟨hk₂, hstatus₂⟩ := hk₁.setOption hopen rfl solSocket soReuseaddr 0
  refine ⟨hk₂, ?_⟩
  rw [afterReuseaddr, hstatus₂, hstatus₁, Function.update_idem]
  simp [afterSocket, boundSince_cons, listenSince_cons, Event.opens, opened]

private theorem effect_v6only :
    (afterV6only os k fd domain type protocol).Sound ∧
      (afterV6only os k fd domain type protocol).status = Function.update k.status fd
        (some ⟨domain, false, false, true⟩) := by
  have hopen : (afterReuseaddr os k fd domain type protocol).table fd =
      some ((opened os k fd domain type protocol).setOption solSocket soReuseaddr 0) := by
    simp [afterReuseaddr]
  obtain ⟨hk₂, hstatus₂⟩ := effect_reuseaddr hk h
  obtain ⟨hk₃, hstatus₃⟩ := hk₂.setOption hopen rfl ipprotoIpv6 ipv6V6only 0
  refine ⟨hk₃, ?_⟩
  rw [afterV6only, hstatus₃, hstatus₂, Function.update_idem]
  simp [afterReuseaddr, afterSocket, boundSince_cons, listenSince_cons, Event.opens, Event.binds,
    Event.listens, opened, Desc.tuned, Desc.setOption, solSocket, ipprotoIpv6, ipv6V6only,
    soReuseaddr]

end

/-- A constructor that throws leaves no descriptor behind, and one that returns
has opened the descriptor it stores, unless the object is empty. -/
theorem Constructed.effect {domain type protocol : Int} {r : Except RuntimeError CSocket}
    {k' : Kernel} (h : Constructed os k domain type protocol r k') (hk : k.Sound) :
    k'.Sound ∧ (∀ error, r = .error error → k'.status = k.status) ∧
      ∀ s, r = .ok s → (s = {} ∧ k'.status = k.status) ∨
        (s.mSfd ≠ invalidSocket ∧ k.status s.mSfd = none ∧
          k'.status = Function.update k.status s.mSfd (some s.status)) := by
  cases h with
  | empty h => exact ⟨hk, by simp, by simp⟩
  | socket error h =>
    obtain ⟨hfail, hstatus⟩ := (Calm.failed k (.socket domain type protocol) error
      (by simp)).sound_status hk
    exact ⟨hfail, by simp [hstatus], by simp⟩
  | reuseaddr fd error k' h _ h' =>
    obtain ⟨hk₁, hstatus₁⟩ := effect_socket hk h
    obtain ⟨hclosed, hstatus⟩ := closed_again os (.setsockopt fd solSocket soReuseaddr 0)
      error hk₁ hstatus₁ (hk.status_free (os.socket_free h).2) (by simp)
    rw [← h'] at hclosed hstatus
    exact ⟨hclosed, fun _ _ => hstatus, by simp⟩
  | v6only fd error k' h hdomain _ h' =>
    obtain ⟨hk₂, hstatus₂⟩ := effect_reuseaddr hk h
    obtain ⟨hclosed, hstatus⟩ := closed_again os (.setsockopt fd ipprotoIpv6 ipv6V6only 0)
      error hk₂ hstatus₂ (hk.status_free (os.socket_free h).2) (by simp)
    rw [← h'] at hclosed hstatus
    exact ⟨hclosed, fun _ _ => hstatus, by simp⟩
  | inet fd h hdomain =>
    obtain ⟨hk₂, hstatus₂⟩ := effect_reuseaddr hk h
    refine ⟨hk₂, by simp, ?_⟩
    intro s hs
    cases hs
    refine .inr ⟨ne_invalidSocket (os.socket_free h).1, hk.status_free (os.socket_free h).2, ?_⟩
    rw [hstatus₂]
    simp [CSocket.status, Desc.tuned, Desc.setOption, opened, hdomain]
  | inet6 fd h hdomain =>
    obtain ⟨hk₃, hstatus₃⟩ := effect_v6only hk h
    refine ⟨hk₃, by simp, ?_⟩
    intro s hs
    cases hs
    exact .inr ⟨ne_invalidSocket (os.socket_free h).1, hk.status_free (os.socket_free h).2,
      hstatus₃⟩

end
end CSocket

/-! ## Every activity keeps the invariant -/

namespace Invariant

variable {os : OS} {w : World}

theorem kernel (inv : Invariant w) {k : Kernel} (hk : k.Sound)
    (hstatus : k.status = w.kernel.status) :
    Invariant (w.withKernel k) where
  sound := hk
  tidy := inv.tidy
  exact := by
    rw [World.kernel_withKernel, hstatus]
    exact inv.exact

theorem untouched {w' : World} (inv : Invariant w) (h : Untouched w w') : Invariant w' := by
  obtain ⟨k, hcalm, rfl⟩ := h
  obtain ⟨hk, hstatus⟩ := hcalm.sound_status inv.sound
  exact inv.kernel hk hstatus

theorem closed (os : OS) (inv : Invariant w) {o : ObjId} {s : CSocket} (hs : w.objs o = some s) :
    (w.kernel.close os s.mSfd).2.Sound ∧ Ownership.Exact (Function.update (holds w.objs) o none)
      (w.kernel.close os s.mSfd).2.status := by
  by_cases hvalid : s.mSfd = invalidSocket
  · obtain ⟨hk, hstatus⟩ := inv.sound.closed os (.inl hvalid)
    refine ⟨hk, ?_⟩
    have hnone : holds w.objs o = none := by
      rw [holds, Heap.view_of _ hs, CSocket.holding, if_pos hvalid]
    rw [hstatus, hvalid, ← inv.sound.status_invalid, Function.update_eq_self, ← hnone,
      Function.update_eq_self]
    exact inv.exact
  · have hholds := holds_of hs hvalid
    have hsome : (w.kernel.status s.mSfd).isSome := by simp [inv.exact.noted hholds]
    obtain ⟨hk, hstatus⟩ := inv.sound.closed os (.inr hsome)
    refine ⟨hk, ?_⟩
    rw [hstatus]
    exact inv.exact.release hholds

theorem construct (inv : Invariant w) (domain type protocol : Int) :
    (CSocket.construct domain type protocol).wp (step os) (fun _ => Invariant)
      (fun _ => Invariant) w := by
  apply wp_mono (wp_construct os w domain type protocol)
  · rintro _ _ ⟨rfl, s, k, hspec, rfl⟩
    obtain ⟨hk, _, hok⟩ := hspec.effect inv.sound
    rcases hok s rfl with ⟨rfl, hstatus⟩ | ⟨hvalid, hfree, hstatus⟩
    · refine ⟨hk, inv.tidy.alloc CSocket.tidy_empty, ?_⟩
      rw [hstatus, holds, Heap.view_alloc, CSocket.holding_empty, ← Heap.view_next CSocket.holding,
        Function.update_eq_self]
      exact inv.exact
    · refine ⟨hk, inv.tidy.alloc (CSocket.tidy_of_valid hvalid), ?_⟩
      rw [hstatus, holds, Heap.view_alloc, CSocket.holding_valid hvalid]
      exact inv.exact.acquire _ (Heap.view_next _) hfree
  · rintro _ _ ⟨error, k, _, hspec, rfl⟩
    obtain ⟨hk, herror, _⟩ := hspec.effect inv.sound
    refine ⟨hk, inv.tidy.skip, ?_⟩
    rw [herror error rfl, holds, Heap.view_skip]
    exact inv.exact

theorem moveConstruct (inv : Invariant w) {that : ObjId} {s : CSocket}
    (hs : w.objs that = some s) :
    Invariant ((CSocket.moveConstruct that).run (step os) w).2 := by
  rw [run_moveConstruct os hs]
  refine ⟨inv.sound, (inv.tidy.set CSocket.tidy_empty).alloc (inv.tidy _ _ hs), ?_⟩
  have hmoved := inv.exact.move that w.objs.next fun _ => Heap.view_next _
  rw [holds, Heap.view_of _ hs] at hmoved
  rw [World.objs_withObjs, holds, Heap.view_alloc, Heap.view_set _ hs]
  exact hmoved

theorem moveAssign (inv : Invariant w) {this source : ObjId} {t s : CSocket}
    (ht : w.objs this = some t) (hs : w.objs source = some s) :
    Invariant ((CSocket.moveAssign this source).run (step os) w).2 := by
  have htidy : (((w.objs.set source {}).set this s).skip).All CSocket.Tidy :=
    ((inv.tidy.set CSocket.tidy_empty).set (inv.tidy _ _ hs)).skip
  rw [run_moveAssign os ht hs]
  by_cases heq : this = source
  · subst heq
    obtain ⟨hk, hstatus⟩ := inv.sound.closed os (.inl rfl)
    rw [← inv.sound.status_invalid, Function.update_eq_self] at hstatus
    refine ⟨by simpa using hk, htidy, ?_⟩
    rw [if_pos rfl, Heap.set_set, Heap.set_self hs, hstatus]
    exact inv.exact
  · obtain ⟨hk, hreleased⟩ := inv.closed os ht
    refine ⟨by simpa [heq] using hk, htidy, ?_⟩
    have hmoved := hreleased.move source this (by simp)
    have ht' : (w.objs.set source {}) this = some t := by
      rw [Heap.cells_set hs, Function.update_of_ne heq, ht]
    rw [Function.update_of_ne (Ne.symm heq), holds, Heap.view_of _ hs, Function.update_comm heq,
      Function.update_idem] at hmoved
    rw [if_neg heq, holds, Heap.view_skip, Heap.view_set _ ht', Heap.view_set _ hs]
    exact hmoved

theorem cached (inv : Invariant w) {o : ObjId} {s : CSocket} (hs : w.objs o = some s)
    (hvalid : s.mSfd ≠ invalidSocket) : w.kernel.status s.mSfd = some s.status := by
  exact inv.exact.noted (holds_of hs hvalid)

theorem valid_of_open (inv : Invariant w) {fd : SOCKET} {d : Desc}
    (h : w.kernel.table fd = some d) :
    fd ≠ invalidSocket := by
  rintro rfl
  simp [inv.sound.invalid] at h

private theorem flagged (inv : Invariant w) {o : ObjId} {s s' : CSocket} {k : Kernel}
    (hs : w.objs o = some s) (hvalid : s.mSfd ≠ invalidSocket) (hsfd : s'.mSfd = s.mSfd)
    (hk : k.Sound)
    (hstatus : k.status = Function.update w.kernel.status s.mSfd (some s'.status)) :
    Invariant { w with kernel := k, objs := w.objs.set o s' } where
  sound := hk
  tidy := inv.tidy.set (CSocket.tidy_of_valid (hsfd ▸ hvalid))
  exact := by
    dsimp only
    rw [holds, Heap.view_set _ hs, CSocket.holding_valid (hsfd ▸ hvalid), hsfd, hstatus]
    exact inv.exact.modify _ (holds_of hs hvalid)

theorem bind (inv : Invariant w) {this : ObjId} {s : CSocket} (ai : Addrinfo)
    (hs : w.objs this = some s) :
    (CSocket.bind this ai).wp (step os) (fun _ => Invariant) (fun _ => Invariant) w := by
  have hasked := Kernel.Calm.log w.kernel (.getsockopt s.mSfd solSocket soType) 0 0 rfl
  apply wp_mono (wp_bind os ai hs)
  · rintro _ _ ⟨s', k, hspec, rfl⟩
    cases hspec with
    | bound d hopen hmatch =>
      have hvalid := inv.valid_of_open hopen
      obtain ⟨hlogged, hstatus⟩ := hasked.sound_status inv.sound
      have hcached := inv.cached hs hvalid
      rw [← hstatus] at hcached
      obtain ⟨hk, hbound⟩ := hlogged.bound hcached hopen ai.aiAddr ai.aiAddrlen
        (some ((w.kernel.log (.getsockopt s.mSfd solSocket soType) 0).assigned os s.mSfd
          (ai.aiAddr.take ai.aiAddrlen)))
      rw [hstatus] at hbound
      exact inv.flagged hs hvalid rfl hk hbound
  · rintro _ _ ⟨error, k, _, hspec, rfl⟩
    apply inv.untouched
    refine ⟨k, ?_, rfl⟩
    cases hspec with
    | getsockopt error => exact .failed _ _ _ (by simp)
    | socktype d hopen hmatch => exact hasked
    | refused error => exact hasked.trans (.failed _ _ _ (by simp))

theorem listen (inv : Invariant w) {this : ObjId} {s : CSocket} (hs : w.objs this = some s) :
    (CSocket.listen this).wp (step os) (fun _ => Invariant) (fun _ => Invariant) w := by
  apply wp_mono (wp_listen os hs)
  · rintro _ _ ⟨s', k, hspec, rfl⟩
    cases hspec with
    | listening d hopen =>
      have hvalid := inv.valid_of_open hopen
      obtain ⟨hk, hlistening⟩ := inv.sound.listening (inv.cached hs hvalid) hopen 1
        (some (d.localAddr.getD (os.ephemeral w.kernel s.mSfd)))
      exact inv.flagged hs hvalid rfl hk hlistening
  · rintro _ _ ⟨error, k, _, hspec, rfl⟩
    apply inv.untouched
    refine ⟨k, ?_, rfl⟩
    cases hspec with
    | refused error => exact .failed _ _ _ (by simp)

theorem getter (inv : Invariant w) (this : ObjId) (g : Getter) :
    (g.call this).wp (step os) (fun _ => Invariant) (fun _ => Invariant) w :=
  wp_mono (wp_getter os w this g) (fun _ _ h => inv.untouched h.1) (fun _ _ h => inv.untouched h.1)

theorem destruct (inv : Invariant w) {this : ObjId} {s : CSocket} (hs : w.objs this = some s) :
    Invariant ((CSocket.destruct this).run (step os) w).2 := by
  rw [run_destruct os hs]
  obtain ⟨hk, hreleased⟩ := inv.closed os hs
  refine ⟨hk, inv.tidy.free this, ?_⟩
  rw [holds, Heap.view_free]
  exact hreleased

theorem operation (inv : Invariant w) (op : SocketOp)
    (hlive : ∀ o ∈ op.subjects, ∃ s, w.objs o = some s) :
    Invariant (op.program.run (step os) w).2 := by
  cases op with
  | construct domain type protocol =>
    rw [SocketOp.program, state_run_drop]
    exact state_of_wp _ (inv.construct domain type protocol)
  | moveConstruct that =>
    obtain ⟨s, hs⟩ := hlive that (by simp [SocketOp.subjects])
    rw [SocketOp.program, state_run_drop]
    exact inv.moveConstruct hs
  | moveAssign this source =>
    obtain ⟨t, ht⟩ := hlive this (by simp [SocketOp.subjects])
    obtain ⟨s, hs⟩ := hlive source (by simp [SocketOp.subjects])
    exact inv.moveAssign ht hs
  | bind this ai =>
    obtain ⟨s, hs⟩ := hlive this (by simp [SocketOp.subjects])
    exact state_of_wp _ (inv.bind ai hs)
  | listen this =>
    obtain ⟨s, hs⟩ := hlive this (by simp [SocketOp.subjects])
    exact state_of_wp _ (inv.listen hs)
  | getter this g => exact state_of_wp _ (inv.getter this g)
  | destruct this =>
    obtain ⟨s, hs⟩ := hlive this (by simp [SocketOp.subjects])
    exact inv.destruct hs

theorem activity (inv : Invariant w) (a : Activity) : Invariant (a.exec os w) := by
  cases a with
  | socket op =>
    simp only [Activity.exec]
    split
    · rename_i hlive
      apply inv.operation
      intro o ho
      exact Option.isSome_iff_exists.mp (List.all_eq_true.mp hlive o ho)
    · exact inv
  | foreign fd d =>
    obtain ⟨hk, hstatus⟩ := inv.sound.foreign fd d
    exact inv.kernel hk hstatus

theorem activities (inv : Invariant w) (later : List Activity) :
    Invariant (later.foldl (Activity.exec os) w) := by
  induction later generalizing w with
  | nil => exact inv
  | cons a later ih => exact ih (inv.activity a)

end Invariant

/-- The invariant holds after every sequence of activities. -/
theorem invariant_history (os : OS) (activities : List Activity) :
    Invariant (history os activities) :=
  Invariant.initial.activities activities

end ClientServerTcp
