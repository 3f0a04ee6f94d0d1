import ClientServerTcp.Library.Threads
import ClientServerTcp.Sources.ClientTcp
import ClientServerTcp.System.Endpoint
import Mathlib.Data.Set.Insert

/-! Threads that share `CSocket` objects. A thread takes a mutex only when
nobody holds it, and has an `errno` of its own; what the threads may do to the
shared objects is their conduct, which keeps the objects coherent. -/
namespace ClientServerTcp
open Effects Program Memory

/-- A mutex of an object. -/
abbrev Guard := ObjId × Mutex

/-- A process with threads. The number in its kernel is nobody's `errno`. -/
structure Shared (ι : Type) where
  world : World
  held : Guard → Option ι
  errno : ι → Int

section
variable {ι : Type} [DecidableEq ι]

def Shared.view (s : Shared ι) (i : ι) : World :=
  s.world.withKernel { s.world.kernel with errno := s.errno i }

def Shared.after (s : Shared ι) (i : ι) (w : World) : Shared ι :=
  { s with world := w, errno := Function.update s.errno i w.kernel.errno }

/-- A step of one thread. The system may answer in any way. -/
def ThreadStep (i : ι) : Answers Op.Res (Shared ι)
  | .lock o m, s, _, t => s.held (o, m) = none ∧
    t = { s with held := Function.update s.held (o, m) (some i) }
  | .unlock o m, s, _, t => t = { s with held := Function.update s.held (o, m) none }
  | op, s, answer, t =>
    ∃ os, answer = (step os op (s.view i)).1 ∧ t = s.after i (step os op (s.view i)).2

def threadExec (os : OS) (i : ι) : (op : Op) → Shared ι → Option (op.Res × Shared ι)
  | .lock o m, s =>
    if (s.held (o, m)).isNone then
      some ((), { s with held := Function.update s.held (o, m) (some i) })
    else
      none
  | .unlock o m, s => some ((), { s with held := Function.update s.held (o, m) none })
  | op, s => some ((step os op (s.view i)).1, s.after i (step os op (s.view i)).2)

theorem threadStep_of_exec {os : OS} {i : ι} (op : Op) {s t : Shared ι} {answer : op.Res}
    (h : threadExec os i op s = some (answer, t)) : ThreadStep i op s answer t := by
  cases op with
  | lock o m =>
    simp only [threadExec] at h
    split at h
    · rename_i hfree
      exact ⟨Option.isNone_iff_eq_none.mp hfree, (congrArg Prod.snd (Option.some.inj h)).symm⟩
    · contradiction
  | unlock o m => exact (congrArg Prod.snd (Option.some.inj h)).symm
  | _ =>
    have heq := Option.some.inj h
    exact ⟨os, (congrArg Prod.fst heq).symm, (congrArg Prod.snd heq).symm⟩

end

/-! ## Shared objects -/

/-- The objects that the threads share, and the descriptor that each of them
owns all the while. -/
structure Sharing where
  sfd : ObjId → Option SOCKET
  valid : ∀ {o fd}, sfd o = some fd → fd ≠ invalidSocket
  distinct : ∀ {o o' fd}, sfd o = some fd → sfd o' = some fd → o = o'

namespace Sharing

abbrev Object (S : Sharing) := { o : ObjId // (S.sfd o).isSome }

def fd (S : Sharing) (o : S.Object) : SOCKET := (S.sfd o.1).get o.2

def Owns (S : Sharing) (fd : SOCKET) : Prop := ∃ o : S.Object, S.fd o = fd

variable {S : Sharing}

theorem sfd_eq (o : S.Object) : S.sfd o.1 = some (S.fd o) := (Option.some_get o.2).symm

theorem fd_injective {o o' : S.Object} (h : S.fd o = S.fd o') : o = o' :=
  Subtype.ext (S.distinct (sfd_eq o) (h ▸ sfd_eq o'))

theorem not_owns_invalid : ¬S.Owns invalidSocket := by
  rintro ⟨o, ho⟩
  exact S.valid (sfd_eq o) ho

theorem shared_or_not (S : Sharing) (o : ObjId) :
    S.sfd o = none ∨ ∃ o' : S.Object, o'.1 = o := by
  cases h : S.sfd o with
  | none => exact .inl rfl
  | some fd => exact .inr ⟨⟨o, by simp [h]⟩, rfl⟩

end Sharing

def CSocket.flag (c : CSocket) : Mutex → Bool
  | .mBoundMutex => c.mBound
  | .mListenMutex => c.mListen

def Endpoint.flag (e : Endpoint) : Mutex → Bool
  | .mBoundMutex => e.bound
  | .mListenMutex => e.listening

/-- The changes that a descriptor in use goes through. -/
structure Endpoint.Grows (e e' : Endpoint) : Prop where
  domain : e'.desc.domain = e.desc.domain
  sockType : e'.desc.sockType = e.desc.sockType
  option : e'.desc.option = e.desc.option
  flag : ∀ m, e.flag m = true → e'.flag m = true

theorem Endpoint.Grows.refl (e : Endpoint) : e.Grows e := ⟨rfl, rfl, rfl, fun _ h => h⟩

theorem Endpoint.grows_boundTo (e : Endpoint) (addr : Bytes) : e.Grows (e.boundTo addr) := by
  refine ⟨rfl, rfl, rfl, ?_⟩
  intro m hm
  cases m with
  | mBoundMutex => rfl
  | mListenMutex => exact hm

theorem Endpoint.grows_listeningAt (e : Endpoint) (ephemeral : Bytes) :
    e.Grows (e.listeningAt ephemeral) := by
  refine ⟨rfl, rfl, rfl, ?_⟩
  intro m hm
  cases m with
  | mBoundMutex => exact hm
  | mListenMutex => rfl

/-- An object caches the domain of its descriptor, and a flag is as the system
has it unless a thread holds the mutex. It is never set too early. -/
structure Coherent {ι : Type} (c : CSocket) (e : Endpoint) (held : Mutex → Option ι) : Prop where
  af : c.mAf = e.desc.domain
  behind : ∀ m, c.flag m = true → e.flag m = true
  same : ∀ m, held m = none → c.flag m = e.flag m

section
variable {ι : Type} (S : Sharing)

structure Shows (s : Shared ι) (o : S.Object) (c : CSocket) (e : Endpoint) : Prop where
  object : s.world.objs o.1 = some c
  endpoint : s.world.kernel.endpoint (S.fd o) = some e

def Shared.endpoints (s : Shared ι) (o : S.Object) : Option Endpoint :=
  s.world.kernel.endpoint (S.fd o)

/-- The shared objects are coherent, and no other object has a descriptor of theirs. -/
structure Good (s : Shared ι) : Prop where
  shared : ∀ o : S.Object, ∃ c e, Shows S s o c e ∧ c.mSfd = S.fd o ∧
    Coherent c e fun m => s.held (o.1, m)
  apart : ∀ o c, S.sfd o = none → s.world.objs o = some c → ¬S.Owns c.mSfd

/-- What a step of one thread may do to the shared objects, and to what the
other threads hold. -/
structure Conduct (i : ι) (s t : Shared ι) : Prop where
  good : Good S s → Good S t
  held : ∀ k j, j ≠ i → (t.held k = some j ↔ s.held k = some j)
  grows : ∀ o c e, Shows S s o c e → ∃ c' e', Shows S t o c' e' ∧ c'.mSfd = c.mSfd ∧
    c'.mAf = c.mAf ∧ e.Grows e' ∧ ∀ m, (∃ j, j ≠ i ∧ s.held (o.1, m) = some j) →
      c'.flag m = c.flag m ∧ e'.flag m = e.flag m

structure Holds (i : ι) (ks : Set Guard) (s : Shared ι) : Prop where
  good : Good S s
  held : ∀ k, s.held k = some i ↔ k ∈ ks

/-- It also sees this of a shared object. -/
def Sees (i : ι) (ks : Set Guard) (o : S.Object) (K : CSocket → Endpoint → Prop)
    (s : Shared ι) : Prop :=
  Holds S i ks s ∧ ∃ c e, Shows S s o c e ∧ K c e

/-- A fact that the other threads cannot change while these mutexes are held. -/
def Lasting (ks : Set Guard) (o : S.Object) (K : CSocket → Endpoint → Prop) : Prop :=
  ∀ c e c' e', K c e → e.Grows e' →
    (∀ m, (o.1, m) ∈ ks → c'.flag m = c.flag m ∧ e'.flag m = e.flag m) → K c' e'

variable {S} {i : ι} {ks : Set Guard} {o : S.Object} {K : CSocket → Endpoint → Prop}
  {s t : Shared ι}

theorem endpoints_of_world (h : t.world = s.world) : t.endpoints S = s.endpoints S := by
  funext o
  simp only [Shared.endpoints, h]

theorem Holds.env (h : Holds S i ks s) (hst : Others (Conduct S) i s t) : Holds S i ks t := by
  obtain ⟨j, hj, hconduct⟩ := hst
  exact ⟨hconduct.good h.good, fun k => (hconduct.held k i (Ne.symm hj)).trans (h.held k)⟩

/-- What a thread sees stays, if it depends on what can change only where the
thread holds the mutex. -/
theorem Sees.env (hK : Lasting S ks o K) (h : Sees S i ks o K s)
    (hst : Others (Conduct S) i s t) : Sees S i ks o K t := by
  refine ⟨h.1.env hst, ?_⟩
  obtain ⟨j, hj, hconduct⟩ := hst
  obtain ⟨hholds, c, e, hshows, hce⟩ := h
  obtain ⟨c', e', hshows', -, -, hgrows, hflags⟩ := hconduct.grows o c e hshows
  refine ⟨c', e', hshows', hK c e c' e' hce hgrows ?_⟩
  intro m hm
  exact hflags m ⟨i, Ne.symm hj, (hholds.held _).mpr hm⟩

theorem Shows.unique {c c' : CSocket} {e e' : Endpoint} (h : Shows S s o c e)
    (h' : Shows S s o c' e') : c = c' ∧ e = e' :=
  ⟨Option.some.inj (h.object.symm.trans h'.object),
    Option.some.inj (h.endpoint.symm.trans h'.endpoint)⟩

end
end ClientServerTcp
