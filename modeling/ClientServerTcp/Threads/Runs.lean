import ClientServerTcp.Application
import ClientServerTcp.Threads.Atomicity
import ClientServerTcp.Threads.Functions

/-! Any number of threads that share sockets of a process, in every order of
their steps. The sockets are linearizable, coherent and free of data races, and
the mutexes never hold the threads up for good. -/
namespace ClientServerTcp
open Effects Program Memory Relation

/-- After these operations threads begin to share some of the objects. -/
structure Start where
  os : OS
  ops : List AppOp
  shared : ObjId → Bool

namespace Start

def world (b : Start) : World := appHistory b.os b.ops

theorem invariant (b : Start) : Invariant b.world := Invariant.initial.apps b.ops

def sharing (b : Start) : Sharing where
  sfd o := if b.shared o then (holds b.world.objs o).map Prod.fst else none
  valid := by
    intro o fd h
    split at h
    · obtain ⟨⟨fd', x⟩, hholds, rfl⟩ := Option.map_eq_some_iff.mp h
      obtain ⟨s, _, hvalid, rfl, _⟩ := holds_eq_some.mp hholds
      exact hvalid
    · contradiction
  distinct := by
    intro o o' fd h h'
    split at h <;> split at h' <;> try contradiction
    obtain ⟨⟨_, x⟩, hholds, rfl⟩ := Option.map_eq_some_iff.mp h
    obtain ⟨⟨_, x'⟩, hholds', rfl⟩ := Option.map_eq_some_iff.mp h'
    exact b.invariant.exact.alone hholds hholds'

variable {ι : Type} (b : Start)

/-- The threads have not begun, and nobody holds a mutex. -/
def first (errno : ι → Int) : Shared ι := ⟨b.world, fun _ => none, errno⟩

abbrev Reaches [DecidableEq ι] (errno : ι → Int)
    (c : Pool Op.Res Exn Reply (Shared ι) ι (Request b.sharing)) : Prop :=
  ReflTransGen (Pool.Step Request.code ThreadStep) (.start (b.first errno)) c

theorem shared_holds (o : b.sharing.Object) :
    ∃ s, b.world.objs o.1 = some s ∧ s.mSfd ≠ invalidSocket ∧ s.mSfd = b.sharing.fd o := by
  have ho := Sharing.sfd_eq o
  simp only [sharing] at ho
  split at ho
  · obtain ⟨⟨fd, x⟩, hholds, rfl⟩ := Option.map_eq_some_iff.mp ho
    obtain ⟨s, hs, hvalid, hsfd, _⟩ := holds_eq_some.mp hholds
    exact ⟨s, hs, hvalid, hsfd⟩
  · contradiction

theorem good (errno : ι → Int) : Good b.sharing (b.first errno) where
  shared := by
    intro o
    obtain ⟨s, hs, hvalid, hsfd⟩ := b.shared_holds o
    obtain ⟨d, hd, _, hstatus⟩ := b.invariant.sound.desc (b.invariant.cached hs hvalid)
    have hendpoint : b.world.kernel.endpoint (b.sharing.fd o) = some ⟨d,
        boundSince s.mSfd b.world.kernel.trace, listenSince s.mSfd b.world.kernel.trace⟩ := by
      rw [← hsfd]
      exact Kernel.endpoint_eq_some.mpr ⟨d, hd, rfl⟩
    have hflag : ∀ m, s.flag m = Endpoint.flag ⟨d, boundSince s.mSfd b.world.kernel.trace,
        listenSince s.mSfd b.world.kernel.trace⟩ m := by
      intro m
      cases m with
      | mBoundMutex => exact congrArg Status.bound hstatus
      | mListenMutex => exact congrArg Status.listening hstatus
    refine ⟨s, _, ⟨hs, hendpoint⟩, hsfd, congrArg Status.domain hstatus, ?_, fun m _ => hflag m⟩
    exact fun m hm => (hflag m).symm.trans hm
  apart := by
    rintro o s hnone hs ⟨o', ho'⟩
    obtain ⟨s', hs', hvalid', hsfd'⟩ := b.shared_holds o'
    have hsame : s.mSfd = s'.mSfd := ho'.symm.trans hsfd'.symm
    have hholds := holds_of hs (hsame ▸ hvalid')
    rw [hsame] at hholds
    obtain rfl := b.invariant.exact.alone hholds (holds_of hs' hvalid')
    simp [Sharing.sfd_eq] at hnone

theorem reaches_of_choices [DecidableEq ι] {os : OS} {errno : ι → Int}
    {schedule : List (Pool.Choice ι (Request b.sharing))}
    {c : Pool Op.Res Exn Reply (Shared ι) ι (Request b.sharing)}
    (h : (Pool.start (b.first errno)).follow Request.code (threadExec os) schedule = some c) :
    b.Reaches errno c := by
  have hexec : ∀ (i : ι) (op : Op) s answer t, threadExec os i op s = some (answer, t) →
      ThreadStep i op s answer t := fun _ op _ _ _ h => threadStep_of_exec op h
  exact Pool.reaches_of_follow hexec schedule h

theorem idle [DecidableEq ι] (errno : ι → Int) (i : ι) :
    Holds b.sharing i ∅ (b.first errno) :=
  ⟨b.good errno, fun k => by simp [first]⟩

end Start

section
variable {ι : Type} [DecidableEq ι] (b : Start) (errno : ι → Int)
  {c : Pool Op.Res Exn Reply (Shared ι) ι (Request b.sharing)}

/-- The calls of any number of threads on shared sockets are linearizable:
every call takes effect at once, at a point between its begin and its end, on
the sockets as the system has them. -/
theorem shared_sockets_linearizable (hc : b.Reaches errno c) :
    Linearizes Takes ((b.first errno).endpoints b.sharing) c.history
      (c.state.endpoints b.sharing) :=
  (atomic b.sharing).linearizes (b.idle errno) hc

/-- In every order of the steps, a shared object keeps its descriptor, which
stays open; a flag is never set before the call that it caches has succeeded on
the descriptor, and lags behind only while its mutex is held. -/
theorem shared_sockets_coherent (hc : b.Reaches errno c) (o : b.sharing.Object) :
    ∃ s e, c.state.world.objs o.1 = some s ∧ s.mSfd = b.sharing.fd o ∧
      c.state.world.kernel.endpoint s.mSfd = some e ∧ s.mAf = e.desc.domain ∧
      ∀ m, (s.flag m = true → e.flag m = true) ∧
        (c.state.held (o.1, m) = none → s.flag m = e.flag m) := by
  have hgood : Good b.sharing c.state := stable_env (Good b.sharing)
    (fun hs hst => hst.elim fun _ hconduct => hconduct.good hs) (b.good errno)
    ((atomic b.sharing).guaranteed (b.idle errno) hc)
  obtain ⟨s, e, hshows, hsfd, hcoherent⟩ := hgood.shared o
  refine ⟨s, e, hshows.object, hsfd, hsfd ▸ hshows.endpoint, hcoherent.af, ?_⟩
  exact fun m => ⟨hcoherent.behind m, hcoherent.same m⟩

private def waits (c : Pool Op.Res Exn Reply (Shared ι) ι (Request b.sharing)) (i : ι) :
    Option Guard :=
  match c.next i with
  | some (.lock o m) => some (o, m)
  | _ => none

omit [DecidableEq ι] in
private theorem waits_eq_some {i : ι} {k : Guard} (h : waits b c i = some k) :
    c.next i = some (.lock k.1 k.2) := by
  unfold waits at h
  split at h
  · obtain rfl := Option.some.inj h
    assumption
  · contradiction

private theorem enabled {op : Op} (i : ι) (s : Shared ι)
    (hlock : ∀ o m, op = .lock o m → s.held (o, m) = none) :
    ∃ answer t, ThreadStep i op s answer t := by
  cases op with
  | lock o m => exact ⟨(), _, hlock o m rfl, rfl⟩
  | unlock o m => exact ⟨(), _, rfl⟩
  | _ => exact ⟨_, _, .obliging, rfl, rfl⟩

/-- Whenever a mutex is held, some thread that holds one can go on, and not with
a call that may wait for the network. So the threads never lock each other out,
and nobody waits for a mutex behind `accept`, `recv`, `connect`, `send` or
`getaddrinfo`. -/
theorem mutexes_deadlock_free (hc : b.Reaches errno c) {k : Guard}
    (hheld : c.state.held k ≠ none) :
    ∃ j k' op, c.state.held k' = some j ∧ c.next j = some op ∧ op.blocks = false ∧
      ∃ answer t, ThreadStep j op c.state answer t := by
  have hmay : ∀ {j op}, c.next j = some op → May b.sharing j op c.state :=
    (atomic b.sharing).performs (b.idle errno) hc
  have hbound : ∀ k : Guard, k.rank ≤ 1 := by
    rintro ⟨o, m⟩
    cases m with
    | mBoundMutex => exact Nat.zero_le 1
    | mListenMutex => exact Nat.le_refl 1
  have horder : ∀ j k k', waits b c j = some k → c.state.held k' = some j → k'.rank < k.rank :=
    fun j k k' hwaits hk' => (hmay (waits_eq_some b hwaits)).orderly k' hk'
  obtain ⟨j, k', hk', hmoves⟩ :=
    exists_holder_moves hbound horder (Option.isSome_iff_ne_none.mpr hheld)
  cases hj : c.next j with
  | none =>
    -- The holder of a mutex is in the middle of a request.
    have hidle := (atomic b.sharing).rests (b.idle errno) hc hj
    exact absurd ((hidle.held k').mp hk') (Set.notMem_empty k')
  | some op =>
    have horderly := (hmay hj).orderly
    have hfree : ∀ o m, op = .lock o m → c.state.held (o, m) = none := by
      rintro o m rfl
      exact hmoves (o, m) (by simp [waits, hj])
    have hblocks : op.blocks = false := by
      cases op with
      | accept | recv | connect | send | getaddrinfo => exact absurd hk' (horderly rfl k')
      | _ => rfl
    exact ⟨j, k', op, hk', hj, hblocks, enabled j c.state hfree⟩

/-- The operation reads or writes this member, or ends its life. -/
def Op.touches (o : ObjId) (f : Field) : Op → Prop
  | .load o' f' => o' = o ∧ f' = f
  | .store o' f' _ => o' = o ∧ f' = f
  | .delete o' => o' = o
  | _ => False

/-- The operation writes this member, or ends its life. -/
def Op.writes (o : ObjId) (f : Field) : Op → Prop
  | .store o' f' _ => o' = o ∧ f' = f
  | .delete o' => o' = o
  | _ => False

/-- The threads never come to a point where one of them can write a member of a
shared object and another one can access it. -/
theorem shared_members_race_free (hc : b.Reaches errno c) (o : b.sharing.Object) (f : Field)
    {i j : ι} (hne : i ≠ j) {op op' : Op} (hi : c.next i = some op) (hj : c.next j = some op')
    (hwrites : op.writes o.1 f) : ¬op'.touches o.1 f := by
  have hmay : ∀ {j op}, c.next j = some op → May b.sharing j op c.state :=
    (atomic b.sharing).performs (b.idle errno) hc
  -- Only a flag is written, and under its mutex.
  obtain ⟨m, hm, hheld⟩ : ∃ m, f.guard = some m ∧ c.state.held (o.1, m) = some i := by
    have hcareful := (hmay hi).careful
    cases op with
    | store o' f' value =>
      obtain ⟨rfl, rfl⟩ := hwrites
      exact hcareful o.2
    | delete o' =>
      obtain rfl : o' = o.1 := hwrites
      simp [Careful, Sharing.sfd_eq] at hcareful
    | _ => exact hwrites.elim
  have hother : c.state.held (o.1, m) ≠ some j := by
    rw [hheld]
    exact fun h => hne (Option.some.inj h)
  intro htouches
  have hcareful := (hmay hj).careful
  cases op' with
  | load o' f' =>
    obtain ⟨rfl, rfl⟩ := htouches
    exact hother (hcareful o.2 m hm)
  | store o' f' value =>
    obtain ⟨rfl, rfl⟩ := htouches
    obtain ⟨m', hm', hheld'⟩ := hcareful o.2
    obtain rfl : m = m' := Option.some.inj (hm.symm.trans hm')
    exact hother hheld'
  | delete o' =>
    obtain rfl : o' = o.1 := htouches
    simp [Careful, Sharing.sfd_eq] at hcareful
  | _ => exact htouches.elim

end

/-! ## Two threads and a socket -/

def oneSocket : Start where
  os := .obliging
  ops := [.process (.socket (.socket (.construct afInet6 sockStream 0)))]
  shared := fun _ => true

def theSocket : oneSocket.sharing.Object := ⟨0, by decide +kernel⟩

/-- One thread binds the socket. The other one has asked whether it is bound,
and waits for the mutex. -/
def contended : List (Pool.Choice Bool (Request oneSocket.sharing)) :=
  [.invoke true (.bind theSocket (loopback6 0x11 0x51)), .invoke false (.isBind theSocket)] ++
    List.replicate 5 (.move true) ++ [.move false]

private def noErrors : Bool → Int := fun _ => 0

private theorem contended_reached : ∃ c, oneSocket.Reaches noErrors c ∧
    c.next true = some (.store 0 .mBound true) ∧ c.next false = some (.lock 0 .mBoundMutex) ∧
    c.state.held (0, .mBoundMutex) = some true := by
  have hsome : ((Pool.start (oneSocket.first noErrors)).follow Request.code
      (threadExec .obliging) contended).isSome := by decide +kernel
  obtain ⟨c, hc⟩ := Option.isSome_iff_exists.mp hsome
  have hseen : ((Pool.start (oneSocket.first noErrors)).follow Request.code
      (threadExec .obliging) contended).map (fun c => (c.next true, c.next false,
        c.state.held (0, .mBoundMutex))) =
      some (some (.store 0 .mBound true), some (.lock 0 .mBoundMutex), some true) := by
    decide +kernel
  rw [hc] at hseen
  obtain ⟨htrue, hfalse, hheld⟩ : c.next true = _ ∧ c.next false = _ ∧ _ = _ := by
    simpa using hseen
  exact ⟨c, oneSocket.reaches_of_choices hc, htrue, hfalse, hheld⟩

/-- Both calls are over, and the socket was bound when the second one asked. -/
theorem contended_linearizable : ∃ c, oneSocket.Reaches noErrors c ∧ c.history.length = 4 ∧
    Linearizes Takes ((oneSocket.first noErrors).endpoints oneSocket.sharing) c.history
      (c.state.endpoints oneSocket.sharing) := by
  have hseen : ((Pool.start (oneSocket.first noErrors)).follow Request.code
      (threadExec .obliging) (contended ++ List.replicate 3 (.move true) ++
        List.replicate 4 (.move false))).map (fun c => c.history.length) = some 4 := by
    decide +kernel
  obtain ⟨c, hc, hlength⟩ := Option.map_eq_some_iff.mp hseen
  have hreached := oneSocket.reaches_of_choices hc
  exact ⟨c, hreached, hlength, shared_sockets_linearizable oneSocket noErrors hreached⟩

/-- What the object and the system have of the flag, and who holds its mutex. -/
private def flags (c : Pool Op.Res Exn Reply (Shared Bool) Bool (Request oneSocket.sharing)) :
    Option Bool × Option Bool × Option Bool :=
  ((c.state.world.objs 0).map fun s => s.flag .mBoundMutex,
    (c.state.world.kernel.endpoint 3).map fun e => e.flag .mBoundMutex,
    c.state.held (0, .mBoundMutex))

/-- The flag lags behind while the first thread holds the mutex. It is right when
both calls are over. -/
theorem contended_coherent :
    (∃ c s e, oneSocket.Reaches noErrors c ∧ c.state.world.objs 0 = some s ∧
      c.state.world.kernel.endpoint s.mSfd = some e ∧
      c.state.held (0, .mBoundMutex) = some true ∧
      s.flag .mBoundMutex = false ∧ e.flag .mBoundMutex = true) ∧
    ∃ c s e, oneSocket.Reaches noErrors c ∧ c.state.world.objs 0 = some s ∧
      c.state.world.kernel.endpoint s.mSfd = some e ∧ c.state.held (0, .mBoundMutex) = none ∧
      s.flag .mBoundMutex = true ∧ e.flag .mBoundMutex = true := by
  have hfd : oneSocket.sharing.fd theSocket = 3 := by decide +kernel
  constructor
  · have hseen : ((Pool.start (oneSocket.first noErrors)).follow Request.code
        (threadExec .obliging) contended).map flags = some (some false, some true, some true) := by
      decide +kernel
    obtain ⟨c, hc, hflags⟩ := Option.map_eq_some_iff.mp hseen
    have hreached := oneSocket.reaches_of_choices hc
    obtain ⟨s, e, hs, hsfd, he, _⟩ := shared_sockets_coherent oneSocket noErrors hreached theSocket
    have hs : c.state.world.objs 0 = some s := hs
    simp only [flags, hs, ← hfd, ← hsfd, he, Option.map_some, Prod.mk.injEq,
      Option.some.injEq] at hflags
    exact ⟨c, s, e, hreached, hs, he, hflags.2.2, hflags.1, hflags.2.1⟩
  · have hseen : ((Pool.start (oneSocket.first noErrors)).follow Request.code
        (threadExec .obliging) (contended ++ List.replicate 3 (.move true) ++
          List.replicate 4 (.move false))).map (fun c => ((flags c).1, (flags c).2.2)) =
        some (some true, none) := by decide +kernel
    obtain ⟨c, hc, hflags⟩ := Option.map_eq_some_iff.mp hseen
    have hreached := oneSocket.reaches_of_choices hc
    obtain ⟨s, e, hs, _, he, _, hflag⟩ :=
      shared_sockets_coherent oneSocket noErrors hreached theSocket
    have hs : c.state.world.objs 0 = some s := hs
    simp only [flags, hs, Option.map_some, Prod.mk.injEq, Option.some.injEq] at hflags
    exact ⟨c, s, e, hreached, hs, he, hflags.2, hflags.1,
      ((hflag .mBoundMutex).2 hflags.2).symm.trans hflags.1⟩

/-- The thread that holds the mutex goes on. -/
theorem contended_moves : ∃ c j k op, oneSocket.Reaches noErrors c ∧
    c.state.held k = some j ∧ c.next j = some op ∧
    ∃ answer t, ThreadStep j op c.state answer t := by
  obtain ⟨c, hc, _, _, hheld⟩ := contended_reached
  have hne : c.state.held (0, .mBoundMutex) ≠ none := by simp [hheld]
  obtain ⟨j, k, op, hk, hj, _, hstep⟩ := mutexes_deadlock_free oneSocket noErrors hc hne
  exact ⟨c, j, k, op, hc, hk, hj, hstep⟩

/-- One thread is about to write the flag that the other one will read. -/
theorem contended_race_free : ∃ c op, oneSocket.Reaches noErrors c ∧
    c.next true = some (.store 0 .mBound true) ∧ c.next false = some op ∧
    ¬op.touches 0 .mBound := by
  obtain ⟨c, hc, htrue, hfalse, _⟩ := contended_reached
  exact ⟨c, _, hc, htrue, hfalse, shared_members_race_free oneSocket noErrors hc theSocket
    .mBound Bool.noConfusion htrue hfalse ⟨rfl, rfl⟩⟩

end ClientServerTcp
