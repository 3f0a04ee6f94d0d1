import Mathlib.Logic.Equiv.Basic
import ClientServerTcp.Library.Coupling
import ClientServerTcp.Socket.Runs

/-! Two objects with the same members can be exchanged: every later sequence of
operations calls the system alike and ends alike, whichever of them it uses. -/
namespace ClientServerTcp
open Effects Program Memory

/-- The objects at two addresses have changed places. -/
structure Exchanged (o n : ObjId) (w w' : World) : Prop where
  old : o < w.objs.next
  new : n < w.objs.next
  next : w'.objs.next = w.objs.next
  cells : ∀ x, w'.objs (Equiv.swap o n x) = w.objs x
  rest : w' = w.withObjs w'.objs

def SocketOp.exchange (o n : ObjId) : SocketOp → SocketOp
  | .construct domain type protocol => .construct domain type protocol
  | .moveConstruct that => .moveConstruct (Equiv.swap o n that)
  | .moveAssign this source => .moveAssign (Equiv.swap o n this) (Equiv.swap o n source)
  | .bind this ai => .bind (Equiv.swap o n this) ai
  | .listen this => .listen (Equiv.swap o n this)
  | .getter this g => .getter (Equiv.swap o n this) g
  | .destruct this => .destruct (Equiv.swap o n this)

def Activity.exchange (o n : ObjId) : Activity → Activity
  | .socket op => .socket (op.exchange o n)
  | .foreign fd d => .foreign fd d

variable (os : OS) {o n : ObjId}

/-- A program and the same program on the exchanged objects. -/
abbrev Exchanges (o n : ObjId) {α : Type} (p q : Prog α) (V : α → Prop) : Prop :=
  Coupled (step os) (step os) (Exchanged o n) p q V

namespace Exchanged

variable {w w' : World} (h : Exchanged o n w w')
include h

theorem withKernel (k : Kernel) : Exchanged o n (w.withKernel k) (w'.withKernel k) where
  old := h.old
  new := h.new
  next := h.next
  cells := h.cells
  rest := by rw [h.rest]; rfl

theorem fixed : Equiv.swap o n w.objs.next = w.objs.next :=
  Equiv.swap_apply_of_ne_of_ne (Nat.ne_of_gt h.old) (Nat.ne_of_gt h.new)

theorem alloc (s : CSocket) :
    Exchanged o n (w.withObjs (w.objs.alloc s)) (w'.withObjs (w'.objs.alloc s)) where
  old := Nat.lt_succ_of_lt h.old
  new := Nat.lt_succ_of_lt h.new
  next := congrArg (· + 1) h.next
  cells := by
    intro x
    simp only [World.objs_withObjs, Heap.cells_alloc, h.next]
    by_cases hx : x = w.objs.next
    · rw [hx, h.fixed, Function.update_self, Function.update_self]
    · rw [Function.update_of_ne hx, Function.update_of_ne, h.cells]
      rwa [← h.fixed, (Equiv.swap o n).injective.ne_iff]
  rest := by rw [h.rest]; rfl

theorem free (x : ObjId) : Exchanged o n (w.withObjs (w.objs.free x))
    (w'.withObjs (w'.objs.free (Equiv.swap o n x))) where
  old := h.old
  new := h.new
  next := h.next
  cells := by
    intro y
    simp only [World.objs_withObjs, Heap.cells_free]
    by_cases hy : y = x
    · rw [hy, Function.update_self, Function.update_self]
    · rw [Function.update_of_ne hy, Function.update_of_ne, h.cells]
      rwa [(Equiv.swap o n).injective.ne_iff]
  rest := by rw [h.rest]; rfl

theorem modify (x : ObjId) (f : CSocket → CSocket) : Exchanged o n (w.withObjs (w.objs.modify x f))
    (w'.withObjs (w'.objs.modify (Equiv.swap o n x) f)) where
  old := h.old
  new := h.new
  next := h.next
  cells := by
    intro y
    simp only [World.objs_withObjs, Heap.cells_modify, h.cells]
    by_cases hy : y = x
    · rw [hy, Function.update_self, Function.update_self]
    · rw [Function.update_of_ne hy, Function.update_of_ne, h.cells]
      rwa [(Equiv.swap o n).injective.ne_iff]
  rest := by rw [h.rest]; rfl

end Exchanged

namespace Exchanges

variable {os}

theorem call (op : Op) (hblind : ∀ w objs, step os op (w.withObjs objs) =
      ((step os op w).1, (step os op w).2.withObjs objs)) :
    Exchanges os o n (Sys.call op) (Sys.call op) fun _ => True := by
  intro w w' h
  have hkept : (step os op w).2.objs = w.objs :=
    congrArg (fun r => r.2.objs) (hblind w w.objs)
  have hstep := hblind w w'.objs
  rw [← h.rest] at hstep
  refine ⟨congrArg (fun r => Except.ok r.1) hstep, trivial, ?_⟩
  rw [hstep]
  exact ⟨hkept ▸ h.old, hkept ▸ h.new, hkept ▸ h.next, hkept ▸ h.cells, rfl⟩

theorem lock (x y : ObjId) (m : Mutex) :
    Exchanges os o n (Sys.lock x m) (Sys.lock y m) fun _ => True :=
  fun _ _ h => ⟨rfl, trivial, h⟩

theorem unlock (x y : ObjId) (m : Mutex) :
    Exchanges os o n (Sys.unlock x m) (Sys.unlock y m) fun _ => True :=
  fun _ _ h => ⟨rfl, trivial, h⟩

theorem new : Exchanges os o n Sys.new Sys.new fun x => Equiv.swap o n x = x := by
  intro w w' h
  exact ⟨congrArg Except.ok h.next, h.fixed, h.alloc {}⟩

variable (x : ObjId)

theorem delete :
    Exchanges os o n (Sys.delete x) (Sys.delete (Equiv.swap o n x)) fun _ => True :=
  fun _ _ h => ⟨rfl, trivial, h.free x⟩

theorem load (f : Field) :
    Exchanges os o n (Sys.load x f) (Sys.load (Equiv.swap o n x) f) fun _ => True := by
  intro w w' h
  refine ⟨congrArg Except.ok ?_, trivial, h⟩
  change ((w'.objs (Equiv.swap o n x)).getD {}).get f = ((w.objs x).getD {}).get f
  rw [h.cells]

theorem store (f : Field) (value : f.Ty) : Exchanges os o n (Sys.store x f value)
    (Sys.store (Equiv.swap o n x) f value) fun _ => True :=
  fun _ _ h => ⟨rfl, trivial, h.modify x _⟩

variable {α : Type} {V : α → Prop}

theorem throw_error (errmsg : Errmsg) :
    Exchanges os o n (ClientServerTcp.throw_error errmsg : Prog α)
      (ClientServerTcp.throw_error errmsg) V :=
  (call .errno fun _ _ => rfl).bind fun _ _ => .raise _

theorem closeSocketP (fd : SOCKET) :
    Exchanges os o n (ClientServerTcp.closeSocketP fd) (ClientServerTcp.closeSocketP fd)
      fun _ => True :=
  (call (.close fd) fun _ _ => rfl).bind fun _ _ => .pure trivial

theorem scopedLock (y : ObjId) (m : Mutex) {p q : Prog α} (hp : Exchanges os o n p q V) :
    Exchanges os o n (ClientServerTcp.scopedLock x m p) (ClientServerTcp.scopedLock y m q) V :=
  .bracket (lock x y m) (fun _ _ => hp) fun _ _ => unlock x y m

end Exchanges

/-! ## The member functions -/

namespace CSocket
open Exchanges

variable {os} (this that : ObjId)

theorem exchanges_constructBody (domain type protocol : Int) :
    Exchanges os o n (constructBody this domain type protocol)
      (constructBody (Equiv.swap o n this) domain type protocol) fun _ => True := by
  have hclose : ∀ (fd : SOCKET) errmsg, Exchanges os o n
      (do let _ ← closeSocketP fd; throw_error errmsg : Prog Unit)
      (do let _ ← closeSocketP fd; throw_error errmsg) fun _ => True :=
    fun fd errmsg => (Exchanges.closeSocketP fd).bind fun _ _ => Exchanges.throw_error errmsg
  have hstores : ∀ fd, Exchanges os o n
      (do Sys.store this .mSfd fd; Sys.store this .mAf domain)
      (do Sys.store (Equiv.swap o n this) .mSfd fd; Sys.store (Equiv.swap o n this) .mAf domain)
      fun _ => True :=
    fun fd => (store this .mSfd fd).bind fun _ _ => store this .mAf domain
  refine .ite (fun _ => .pure trivial) fun _ => ?_
  refine (call (.socket domain type protocol) fun _ _ => rfl).bind fun fd _ => ?_
  refine .ite (fun _ => Exchanges.throw_error _) fun _ => ?_
  refine (call (.setsockopt fd ..) fun _ _ => rfl).bind fun _ _ => ?_
  refine .ite (fun _ => hclose fd _) fun _ => .ite (fun _ => ?_) fun _ => hstores fd
  refine (call (.setsockopt fd ..) fun _ _ => rfl).bind fun _ _ => ?_
  exact .ite (fun _ => hclose fd _) fun _ => hstores fd

theorem exchanges_construct (domain type protocol : Int) :
    Exchanges os o n (construct domain type protocol) (construct domain type protocol)
      fun x => Equiv.swap o n x = x := by
  refine new.bind fun x hx => ?_
  have hbody : Exchanges os o n (constructBody x domain type protocol)
      (constructBody (Equiv.swap o n x) domain type protocol) fun _ => True :=
    exchanges_constructBody x domain type protocol
  have hdelete : Exchanges os o n (Sys.delete x) (Sys.delete (Equiv.swap o n x)) fun _ => True :=
    Exchanges.delete x
  rw [hx] at hbody hdelete
  exact (hbody.onError hdelete).bind fun _ _ => .pure hx

theorem exchanges_lockBoth {p q : Prog Unit} (hp : Exchanges os o n p q fun _ => True) :
    Exchanges os o n (lockBoth this p) (lockBoth that q) fun _ => True :=
  Exchanges.scopedLock this that _ (Exchanges.scopedLock this that _ hp)

theorem exchanges_takeM (f : Field) (reset : f.Ty) :
    Exchanges os o n (takeM this that f reset)
      (takeM (Equiv.swap o n this) (Equiv.swap o n that) f reset) fun _ => True :=
  (load that f).bind fun value _ => (store this f value).bind fun _ _ => store that f reset

theorem exchanges_moveConstruct :
    Exchanges os o n (moveConstruct that) (moveConstruct (Equiv.swap o n that))
      fun x => Equiv.swap o n x = x := by
  refine new.bind fun x hx => ?_
  have htake : ∀ (f : Field) (reset : f.Ty), Exchanges os o n (takeM x that f reset)
      (takeM x (Equiv.swap o n that) f reset) fun _ => True := by
    intro f reset
    have htake : Exchanges os o n (takeM x that f reset)
        (takeM (Equiv.swap o n x) (Equiv.swap o n that) f reset) fun _ => True :=
      exchanges_takeM x that f reset
    rwa [hx] at htake
  refine (htake .mAf (-1)).bind fun _ _ => (htake .mSfd invalidSocket).bind fun _ _ => ?_
  have hlock := exchanges_lockBoth x x
    ((htake .mBound false).bind fun _ _ => htake .mListen false)
  exact hlock.bind fun _ _ => .pure hx

theorem exchanges_swapM (f : Field) :
    Exchanges os o n (swapM this that f) (swapM (Equiv.swap o n this) (Equiv.swap o n that) f)
      fun _ => True :=
  (load this f).bind fun mine _ => (load that f).bind fun theirs _ =>
    (store this f theirs).bind fun _ _ => store that f mine

theorem exchanges_assign :
    Exchanges os o n (assign this that) (assign (Equiv.swap o n this) (Equiv.swap o n that))
      fun _ => True :=
  (exchanges_swapM this that .mSfd).bind fun _ _ => (exchanges_swapM this that .mAf).bind
    fun _ _ => exchanges_lockBoth this _ ((exchanges_swapM this that .mBound).bind
      fun _ _ => exchanges_swapM this that .mListen)

theorem exchanges_destruct :
    Exchanges os o n (destruct this) (destruct (Equiv.swap o n this)) fun _ => True :=
  (load this .mSfd).bind fun fd _ => (Exchanges.closeSocketP fd).bind fun reset _ =>
    (store this .mSfd reset).bind fun _ _ => Exchanges.delete this

theorem exchanges_moveAssign :
    Exchanges os o n (moveAssign this that)
      (moveAssign (Equiv.swap o n this) (Equiv.swap o n that)) fun _ => True := by
  refine .bracket (exchanges_moveConstruct that) (fun x hx => ?_) fun x hx => ?_
  · have hassign : Exchanges os o n (assign this x)
        (assign (Equiv.swap o n this) (Equiv.swap o n x)) fun _ => True := exchanges_assign this x
    rwa [hx] at hassign
  · have hdestruct : Exchanges os o n (destruct x) (destruct (Equiv.swap o n x))
        fun _ => True := exchanges_destruct x
    rwa [hx] at hdestruct

theorem exchanges_bind (ai : Addrinfo) :
    Exchanges os o n (bind this ai) (bind (Equiv.swap o n this) ai) fun _ => True := by
  refine (load this .mSfd).bind fun fd _ => ?_
  refine (call (.getsockopt fd ..) fun _ _ => rfl).bind fun answer _ => ?_
  refine .ite (fun _ => Exchanges.throw_error _) fun _ => .ite (fun _ => .raise _) fun _ => ?_
  refine Exchanges.scopedLock this _ _ ((load this .mSfd).bind fun fd _ => ?_)
  refine (call (.bind fd ..) fun _ _ => rfl).bind fun _ _ => ?_
  exact .ite (fun _ => Exchanges.throw_error _) fun _ => store this .mBound true

theorem exchanges_listen :
    Exchanges os o n (listen this) (listen (Equiv.swap o n this)) fun _ => True := by
  refine Exchanges.scopedLock this _ _ ((load this .mSfd).bind fun fd _ => ?_)
  refine (call (.listen fd 1) fun _ _ => rfl).bind fun _ _ => ?_
  exact .ite (fun _ => Exchanges.throw_error _) fun _ => store this .mListen true

theorem exchanges_isBind :
    Exchanges os o n (isBind this) (isBind (Equiv.swap o n this)) fun _ => True :=
  (load this .mSfd).bind fun _ _ => .ite (fun _ => .raise _) fun _ =>
    Exchanges.scopedLock this _ _ (load this .mBound)

theorem exchanges_isListen :
    Exchanges os o n (isListen this) (isListen (Equiv.swap o n this)) fun _ => True :=
  (load this .mSfd).bind fun _ _ => .ite (fun _ => .raise _) fun _ =>
    Exchanges.scopedLock this _ _ (load this .mListen)

theorem exchanges_getPort :
    Exchanges os o n (getPort this) (getPort (Equiv.swap o n this)) fun _ => True := by
  refine (load this .mSfd).bind fun _ _ => .ite (fun _ => .raise _) fun _ => ?_
  refine (exchanges_isBind this).bind fun _ _ => .ite (fun _ => .raise _) fun _ => ?_
  refine (load this .mSfd).bind fun fd _ => ?_
  refine (call (.getsockname fd) fun _ _ => rfl).bind fun answer _ => ?_
  exact .ite (fun _ => Exchanges.throw_error _) fun _ => .pure trivial

theorem exchanges_getsockoptInt (aLevel aOptname : Int) (aOptnameStr : String) :
    Exchanges os o n (getsockoptInt this aLevel aOptname aOptnameStr)
      (getsockoptInt (Equiv.swap o n this) aLevel aOptname aOptnameStr) fun _ => True := by
  refine (load this .mSfd).bind fun fd _ => ?_
  refine (call (.getsockopt fd ..) fun _ _ => rfl).bind fun answer _ => ?_
  exact .ite (fun _ => Exchanges.throw_error _) fun _ => .pure trivial

theorem exchanges_isReuseAddr :
    Exchanges os o n (isReuseAddr this) (isReuseAddr (Equiv.swap o n this)) fun _ => True :=
  (exchanges_getsockoptInt this _ _ _).bind fun _ _ => .pure trivial

theorem exchanges_isV6only :
    Exchanges os o n (isV6only this) (isV6only (Equiv.swap o n this)) fun _ => True := by
  refine (load this .mSfd).bind fun _ _ => .ite (fun _ => .raise _) fun _ => ?_
  refine (load this .mAf).bind fun _ _ => .ite (fun _ => ?_) fun _ => .pure trivial
  exact (exchanges_getsockoptInt this _ _ _).bind fun _ _ => .pure trivial

end CSocket

/-! ## Sequences of operations -/

section
open CSocket
variable {os}

theorem exchanges_program (op : SocketOp) :
    Exchanges os o n op.program (op.exchange o n).program fun _ => True := by
  have hdrop : ∀ {α : Type} {p q : Prog α} {V : α → Prop}, Exchanges os o n p q V →
      Exchanges os o n (do let _ ← p) (do let _ ← q) fun _ => True :=
    fun hp => hp.bind fun _ _ => .pure trivial
  cases op with
  | construct domain type protocol => exact hdrop (exchanges_construct domain type protocol)
  | moveConstruct that => exact hdrop (exchanges_moveConstruct that)
  | moveAssign this source => exact exchanges_moveAssign this source
  | bind this ai => exact exchanges_bind this ai
  | listen this => exact exchanges_listen this
  | destruct this => exact exchanges_destruct this
  | getter this g =>
    cases g with
    | operatorSOCKET => exact hdrop (Exchanges.load this .mSfd)
    | getPort => exact hdrop (exchanges_getPort this)
    | getSockerr => exact hdrop (exchanges_getsockoptInt this _ _ _)
    | isReuseAddr => exact hdrop (exchanges_isReuseAddr this)
    | isV6only => exact hdrop (exchanges_isV6only this)
    | isBind => exact hdrop (exchanges_isBind this)
    | isListen => exact hdrop (exchanges_isListen this)

namespace Exchanged

variable {w w' : World}

theorem exec (h : Exchanged o n w w') (a : Activity) :
    Exchanged o n (a.exec os w) ((a.exchange o n).exec os w') := by
  cases a with
  | foreign fd d =>
    have hkernel : w'.kernel = w.kernel := by rw [h.rest]; rfl
    simp only [Activity.exec, Activity.exchange, hkernel]
    exact h.withKernel _
  | socket op =>
    have hsubjects : (op.exchange o n).subjects = op.subjects.map (Equiv.swap o n) := by
      cases op <;> rfl
    have hlive : ((op.exchange o n).subjects.all fun x => (w'.objs x).isSome) =
        op.subjects.all fun x => (w.objs x).isSome := by
      simp only [hsubjects, List.all_map, Function.comp_def, h.cells]
    simp only [Activity.exec, Activity.exchange, hlive]
    split
    · exact (exchanges_program op w w' h).result.2
    · exact h

theorem foldl (h : Exchanged o n w w') (later : List Activity) :
    Exchanged o n (later.foldl (Activity.exec os) w)
      ((later.map (Activity.exchange o n)).foldl (Activity.exec os) w') := by
  induction later generalizing w w' with
  | nil => exact h
  | cons a later ih => exact ih (h.exec a)

theorem same {s : CSocket} (ho : w.objs o = some s) (hn : w.objs n = some s) :
    Exchanged o n w w where
  old := Heap.lt_next ho
  new := Heap.lt_next hn
  next := rfl
  cells := by
    intro x
    rw [Equiv.swap_apply_def]
    split
    · simp_all
    · split <;> simp_all
  rest := rfl

end Exchanged
end
end ClientServerTcp
