import ClientServerTcp.Threads.Shared

/-! What each step of a thread does to the shared objects. A step keeps to the
conduct when it leaves them alone, or when it calls `::bind` or `::listen` or
writes a flag while the thread holds the mutex of that flag. -/
namespace ClientServerTcp
open Effects Program Memory

/-- Mutexes of the second kind are taken after mutexes of the first. -/
def Guard.rank (k : Guard) : Nat :=
  match k.2 with
  | .mBoundMutex => 0
  | .mListenMutex => 1

def Op.blocks : Op → Bool
  | .accept _ | .recv .. | .connect .. | .send .. | .getaddrinfo _ => true
  | _ => false

/-- The mutex that guards a member. -/
def Field.guard : Field → Option Mutex
  | .mBound => some .mBoundMutex
  | .mListen => some .mListenMutex
  | .mSfd | .mAf => none

section
variable {ι : Type} (S : Sharing) (i : ι)

/-- Mutexes are taken in order, and no call that may wait is made while one is held. -/
def Orderly (op : Op) (s : Shared ι) : Prop :=
  match op with
  | .lock o m => ∀ k, s.held k = some i → k.rank < Guard.rank (o, m)
  | op => op.blocks = true → ∀ k, s.held k ≠ some i

/-- A flag of a shared object is read and written under its mutex only, nothing
else of it is written, and it is not deleted. -/
def Careful (op : Op) (s : Shared ι) : Prop :=
  match op with
  | .load o f => (S.sfd o).isSome → ∀ m, f.guard = some m → s.held (o, m) = some i
  | .store o f _ => (S.sfd o).isSome → ∃ m, f.guard = some m ∧ s.held (o, m) = some i
  | .delete o => S.sfd o = none
  | _ => True

variable [DecidableEq ι]

structure May (op : Op) (s : Shared ι) : Prop where
  conduct : ∀ answer t, ThreadStep i op s answer t → Conduct S i s t
  orderly : Orderly i op s
  careful : Careful S i op s

end

/-! ## Steps that leave the shared objects alone -/

/-- What no thread does to a shared object or its descriptor without a mutex. -/
def Harmless (S : Sharing) : Op → Prop
  | .setsockopt sfd .. | .bind sfd .. | .listen sfd _ | .close sfd => ¬S.Owns sfd
  | .store o .mSfd value => S.sfd o = none ∧ ¬S.Owns value
  | .store o _ _ | .delete o => S.sfd o = none
  | .lock .. | .unlock .. => False
  | _ => True

def Tells (S : Sharing) : (op : Op) → op.Res → Prop
  | .load o .mSfd, fd => S.sfd o = some fd ∨ S.sfd o = none ∧ ¬S.Owns fd
  | .socket .., fd | .accept _, fd => ¬S.Owns fd
  | .new, o => S.sfd o = none
  | _, _ => True

namespace Harmless

variable {S : Sharing} {op : Op}

theorem not_alters (h : Harmless S op) {fd : SOCKET} (hfd : S.Owns fd) : ¬op.alters fd := by
  cases op with
  | setsockopt | bind | listen | close =>
    rintro rfl
    exact h hfd
  | _ => exact id

theorem store {o : ObjId} {f : Field} {value : f.Ty} (h : Harmless S (.store o f value)) :
    S.sfd o = none ∧ ∀ c : CSocket, ¬S.Owns c.mSfd → ¬S.Owns (c.set f value).mSfd := by
  cases f with
  | mSfd => exact ⟨h.1, fun _ _ => h.2⟩
  | mAf | mBound | mListen => exact ⟨h, fun _ hc => hc⟩

variable {os : OS} {w : World}

theorem objects (h : Harmless S op) {o : ObjId} {c : CSocket} (ho : (S.sfd o).isSome)
    (hc : w.objs o = some c) : (step os op w).2.objs o = some c := by
  have hne : ∀ {o'}, S.sfd o' = none → o ≠ o' := by
    rintro o' hnone rfl
    simp [hnone] at ho
  cases op with
  | new => exact Heap.alloc_of hc
  | delete o' => exact (Function.update_of_ne (hne h) ..).trans hc
  | store o' f value => exact (Function.update_of_ne (hne h.store.1) ..).trans hc
  | _ => exact hc

theorem apart (h : Harmless S op)
    (hw : ∀ o c, S.sfd o = none → w.objs o = some c → ¬S.Owns c.mSfd) {o : ObjId} {c : CSocket}
    (ho : S.sfd o = none) (hc : (step os op w).2.objs o = some c) : ¬S.Owns c.mSfd := by
  cases op with
  | new =>
    by_cases heq : o = w.objs.next
    · subst heq
      obtain rfl : {} = c := by simpa [step, World.withObjs] using hc
      exact Sharing.not_owns_invalid
    · exact hw o c ho (by simpa [step, World.withObjs, heq] using hc)
  | delete o' =>
    by_cases heq : o = o'
    · simp [step, World.withObjs, heq] at hc
    · exact hw o c ho (by simpa [step, World.withObjs, heq] using hc)
  | store o' f value =>
    by_cases heq : o = o'
    · subst heq
      obtain ⟨c', hc', rfl⟩ : ∃ c', w.objs o = some c' ∧ c'.set f value = c := by
        simpa [step, World.withObjs] using hc
      exact h.store.2 c' (hw o c' ho hc')
    · exact hw o c ho (by simpa [step, World.withObjs, heq] using hc)
  | _ => exact hw o c ho hc

end Harmless

section
variable {ι : Type} [DecidableEq ι] {S : Sharing} {i : ι} {s t : Shared ι}

omit [DecidableEq ι] in
theorem Shows.isSome_table {o : S.Object} {c : CSocket} {e : Endpoint} (h : Shows S s o c e) :
    (s.world.kernel.table (S.fd o)).isSome := by
  rw [← Kernel.isSome_endpoint, h.endpoint]
  rfl

private theorem Harmless.step {op : Op} (h : Harmless S op) {answer : op.Res}
    (hstep : ThreadStep i op s answer t) :
    ∃ os, answer = (step os op (s.view i)).1 ∧ t = s.after i (step os op (s.view i)).2 := by
  cases op with
  | lock => exact h.elim
  | unlock => exact h.elim
  | _ => exact hstep

private theorem Harmless.shows {op : Op} (h : Harmless S op) (os : OS) {o : S.Object}
    {c : CSocket} {e : Endpoint} (hshows : Shows S s o c e) :
    Shows S (s.after i (ClientServerTcp.step os op (s.view i)).2) o c e where
  object := h.objects o.2 hshows.object
  endpoint := (step_endpoint os op (s.view i) hshows.isSome_table (h.not_alters ⟨o, rfl⟩)).trans
    hshows.endpoint

/-- Such a step changes nothing that the threads share. -/
theorem Harmless.keeps {op : Op} (h : Harmless S op) {answer : op.Res}
    (hstep : ThreadStep i op s answer t) :
    t.held = s.held ∧ (∀ o c e, Shows S s o c e → Shows S t o c e) ∧ (Good S s → Good S t) := by
  obtain ⟨os, -, rfl⟩ := h.step hstep
  refine ⟨rfl, fun o c e => h.shows os, ?_⟩
  intro hgood
  constructor
  · intro o
    obtain ⟨c, e, hshows, hsfd, hcoherent⟩ := hgood.shared o
    exact ⟨c, e, h.shows os hshows, hsfd, hcoherent⟩
  · intro o c ho hc
    exact h.apart (w := s.view i) hgood.apart ho hc

theorem Harmless.conduct {op : Op} (h : Harmless S op) {answer : op.Res}
    (hstep : ThreadStep i op s answer t) : Conduct S i s t := by
  obtain ⟨hheld, hshows, hgood⟩ := h.keeps hstep
  refine ⟨hgood, fun k j _ => by rw [hheld], ?_⟩
  intro o c e ho
  exact ⟨c, e, hshows o c e ho, rfl, rfl, .refl e, fun _ _ => ⟨rfl, rfl⟩⟩

theorem Harmless.tells {op : Op} (h : Harmless S op) (hgood : Good S s) {answer : op.Res}
    (hstep : ThreadStep i op s answer t) : Tells S op answer := by
  obtain ⟨os, rfl, -⟩ := h.step hstep
  have hopen : ∀ {fd}, S.Owns fd → (s.world.kernel.table fd).isSome := by
    rintro _ ⟨o, rfl⟩
    obtain ⟨c, e, hshows, _⟩ := hgood.shared o
    exact hshows.isSome_table
  cases op with
  | load o f =>
    cases f with
    | mSfd =>
      rcases S.shared_or_not o with hnone | ⟨o, rfl⟩
      · refine .inr ⟨hnone, ?_⟩
        cases hc : s.world.objs o with
        | none =>
          have hdefault : (ClientServerTcp.step os (.load o .mSfd) (s.view i)).1 =
              invalidSocket := by
            simp [ClientServerTcp.step, Shared.view, hc, CSocket.get]
          rw [hdefault]
          exact Sharing.not_owns_invalid
        | some c =>
          have hload : (ClientServerTcp.step os (.load o .mSfd) (s.view i)).1 = c.mSfd := by
            simp [ClientServerTcp.step, Shared.view, hc, CSocket.get]
          rw [hload]
          exact hgood.apart o c hnone hc
      · obtain ⟨c, e, hshows, hsfd, _⟩ := hgood.shared o
        refine .inl ?_
        rw [Sharing.sfd_eq, ← hsfd]
        simp [ClientServerTcp.step, Shared.view, hshows.object, CSocket.get]
    | _ => trivial
  | socket domain type protocol =>
    simp only [Tells, ClientServerTcp.step, World.syscall, Kernel.socket]
    split
    · exact Sharing.not_owns_invalid
    · rename_i fd hok
      intro howns
      have hfree := (os.socket_free hok).2
      have hisSome := hopen howns
      simp_all [Shared.view]
  | accept sfd =>
    simp only [Tells, ClientServerTcp.step, World.syscall]
    rcases (s.view i).kernel.accept_cases os sfd with ⟨error, hret⟩ | ⟨d, fd, _, hfree, hret⟩
    · rw [hret]
      exact Sharing.not_owns_invalid
    · rw [hret]
      intro howns
      have hisSome := hopen howns
      simp_all [Shared.view]
  | new =>
    rcases S.shared_or_not s.world.objs.next with hnone | ⟨o, ho⟩
    · exact hnone
    · obtain ⟨c, e, hshows, _⟩ := hgood.shared o
      have hobject := hshows.object
      simp [ho] at hobject
  | _ => trivial

theorem Harmless.endpoints {op : Op} (h : Harmless S op) (hgood : Good S s) {answer : op.Res}
    (hstep : ThreadStep i op s answer t) : t.endpoints S = s.endpoints S := by
  funext o
  obtain ⟨c, e, hshows, _⟩ := hgood.shared o
  have hshows' := (h.keeps hstep).2.1 o c e hshows
  exact hshows'.endpoint.trans hshows.endpoint.symm

theorem Harmless.holds {op : Op} (h : Harmless S op) {ks : Set Guard} (hs : Holds S i ks s)
    {answer : op.Res} (hstep : ThreadStep i op s answer t) : Holds S i ks t := by
  obtain ⟨hheld, _, hgood⟩ := h.keeps hstep
  exact ⟨hgood hs.good, fun k => by rw [hheld, hs.held]⟩

theorem Harmless.sees {op : Op} (h : Harmless S op) {ks : Set Guard} {o : S.Object}
    {K : CSocket → Endpoint → Prop} (hs : Sees S i ks o K s)
    {answer : op.Res} (hstep : ThreadStep i op s answer t) : Sees S i ks o K t := by
  obtain ⟨hholds, c, e, hshows, hK⟩ := hs
  exact ⟨h.holds hholds hstep, c, e, (h.keeps hstep).2.1 o c e hshows, hK⟩

end

/-! ## Locks -/

section
variable {ι : Type} [DecidableEq ι] {S : Sharing} {i : ι} {s t : Shared ι} {ks : Set Guard}
  {o : ObjId} {m : Mutex}

theorem lock_step (h : Holds S i ks s) (hstep : ThreadStep i (.lock o m) s () t) :
    Conduct S i s t ∧ Holds S i (insert (o, m) ks) t ∧ t.world = s.world ∧
      s.held (o, m) = none := by
  obtain ⟨hfree, rfl⟩ := hstep
  have hgood : Good S { s with held := Function.update s.held (o, m) (some i) } := by
    refine ⟨?_, h.good.apart⟩
    intro o'
    obtain ⟨c, e, hshows, hsfd, haf, hbehind, hsame⟩ := h.good.shared o'
    refine ⟨c, e, ⟨hshows.object, hshows.endpoint⟩, hsfd, haf, hbehind, ?_⟩
    intro m' hm'
    by_cases heq : (o'.1, m') = (o, m)
    · simp [heq] at hm'
    · exact hsame m' (by simpa [Function.update_of_ne heq] using hm')
  refine ⟨⟨fun _ => hgood, ?_, ?_⟩, ⟨hgood, ?_⟩, rfl, hfree⟩
  · intro k j hj
    by_cases heq : k = (o, m)
    · simp [heq, hfree, hj.symm]
    · simp [heq]
  · intro o' c e hshows
    exact ⟨c, e, ⟨hshows.object, hshows.endpoint⟩, rfl, rfl, .refl e, fun _ _ => ⟨rfl, rfl⟩⟩
  · intro k
    by_cases heq : k = (o, m)
    · simp [heq]
    · simp [heq, h.held]

theorem unlock_step (h : Holds S i ks s) (hk : (o, m) ∈ ks)
    (hsame : ∀ o' : S.Object, o'.1 = o → ∀ c e, Shows S s o' c e → c.flag m = e.flag m)
    (hstep : ThreadStep i (.unlock o m) s () t) :
    Conduct S i s t ∧ Holds S i (ks \ {(o, m)}) t ∧ t.world = s.world := by
  obtain rfl := hstep
  have hown := (h.held (o, m)).mpr hk
  have hgood : Good S { s with held := Function.update s.held (o, m) none } := by
    refine ⟨?_, h.good.apart⟩
    intro o'
    obtain ⟨c, e, hshows, hsfd, haf, hbehind, hrest⟩ := h.good.shared o'
    refine ⟨c, e, ⟨hshows.object, hshows.endpoint⟩, hsfd, haf, hbehind, ?_⟩
    intro m' hm'
    by_cases heq : (o'.1, m') = (o, m)
    · obtain ⟨ho, rfl⟩ := Prod.mk.inj heq
      exact hsame o' ho c e hshows
    · exact hrest m' (by simpa [Function.update_of_ne heq] using hm')
  refine ⟨⟨fun _ => hgood, ?_, ?_⟩, ⟨hgood, ?_⟩, rfl⟩
  · intro k j hj
    by_cases heq : k = (o, m)
    · simp [heq, hown, hj.symm]
    · simp [heq]
  · intro o' c e hshows
    exact ⟨c, e, ⟨hshows.object, hshows.endpoint⟩, rfl, rfl, .refl e, fun _ _ => ⟨rfl, rfl⟩⟩
  · intro k
    by_cases heq : k = (o, m)
    · simp [heq]
    · simp [heq, h.held]

end

/-! ## Steps under a mutex -/

section
variable {ι : Type} [DecidableEq ι] {S : Sharing} {i : ι} {s : Shared ι} {ks : Set Guard}
  {o : S.Object} {m : Mutex} {c : CSocket} {e : Endpoint}

private theorem altered (op : Op) {os : OS} {e' : Endpoint} (hs : Holds S i ks s)
    (hk : (o.1, m) ∈ ks) (hshows : Shows S s o c e)
    (hobjs : (step os op (s.view i)).2.objs = s.world.objs)
    (hother : ∀ fd, fd ≠ S.fd o → ¬op.alters fd)
    (he' : (step os op (s.view i)).2.kernel.endpoint (S.fd o) = some e') (hgrows : e.Grows e')
    (hflag : ∀ m', m' ≠ m → e'.flag m' = e.flag m') :
    let t := s.after i (step os op (s.view i)).2
    Conduct S i s t ∧ Holds S i ks t ∧ Shows S t o c e' ∧
      t.endpoints S = Function.update (s.endpoints S) o (some e') := by
  intro t
  have hown := (hs.held (o.1, m)).mpr hk
  have hshows' : Shows S t o c e' := ⟨(congrFun (congrArg Heap.cells hobjs) o.1).trans
    hshows.object, he'⟩
  have hrest : ∀ (o' : S.Object) c e, o' ≠ o → Shows S s o' c e → Shows S t o' c e := by
    intro o' c e hne h
    have hne' : S.fd o' ≠ S.fd o := fun heq => hne (Sharing.fd_injective heq)
    exact ⟨(congrFun (congrArg Heap.cells hobjs) o'.1).trans h.object,
      (step_endpoint os op (s.view i) h.isSome_table (hother _ hne')).trans h.endpoint⟩
  have hgood : Good S t := by
    constructor
    · intro o'
      obtain ⟨c', e'', hshows'', hsfd, hcoherent⟩ := hs.good.shared o'
      by_cases heq : o' = o
      · subst heq
        obtain ⟨rfl, rfl⟩ := hshows.unique hshows''
        refine ⟨c, e', hshows', hsfd, hcoherent.af.trans hgrows.domain.symm,
          fun m' hm' => hgrows.flag m' (hcoherent.behind m' hm'), ?_⟩
        intro m' hm'
        have hne : m' ≠ m := by
          rintro rfl
          simp [t, Shared.after, hown] at hm'
        exact (hcoherent.same m' hm').trans (hflag m' hne).symm
      · exact ⟨c', e'', hrest o' c' e'' heq hshows'', hsfd, hcoherent⟩
    · intro o' c' ho' hc'
      exact hs.good.apart o' c' ho' ((congrFun (congrArg Heap.cells hobjs) o').symm.trans hc')
  refine ⟨⟨fun _ => hgood, fun _ _ _ => .rfl, ?_⟩, ⟨hgood, hs.held⟩, hshows', ?_⟩
  · intro o' c' e'' hshows''
    by_cases heq : o' = o
    · subst heq
      obtain ⟨rfl, rfl⟩ := hshows.unique hshows''
      refine ⟨c, e', hshows', rfl, rfl, hgrows, ?_⟩
      rintro m' ⟨j, hj, hheld⟩
      have hne : m' ≠ m := by
        rintro rfl
        exact hj (Option.some.inj (hheld.symm.trans hown))
      exact ⟨rfl, hflag m' hne⟩
    · exact ⟨c', e'', hrest o' c' e'' heq hshows'', rfl, rfl, .refl _, fun _ _ => ⟨rfl, rfl⟩⟩
  · funext o'
    by_cases heq : o' = o
    · subst heq
      rw [Function.update_self]
      exact he'
    · obtain ⟨c', e'', hshows'', _⟩ := hs.good.shared o'
      rw [Function.update_of_ne heq]
      exact (hrest o' c' e'' heq hshows'').endpoint.trans hshows''.endpoint.symm

theorem bind_step {t : Shared ι} {answer : Int} (hs : Holds S i ks s)
    (hk : (o.1, .mBoundMutex) ∈ ks) (hshows : Shows S s o c e) {addr : Bytes} {addrlen : Nat}
    (hstep : ThreadStep i (.bind (S.fd o) addr addrlen) s answer t) :
    Conduct S i s t ∧ Holds S i ks t ∧ ∃ e', Shows S t o c e' ∧
      t.endpoints S = Function.update (s.endpoints S) o (some e') ∧
      (answer = socketError ∧ e' = e ∨ answer = 0 ∧ ∃ os k,
        e' = e.boundTo (Kernel.assigned os k (S.fd o) (addr.take addrlen))) := by
  obtain ⟨os, rfl, rfl⟩ := hstep
  have hother : ∀ fd, fd ≠ S.fd o → ¬Op.alters fd (.bind (S.fd o) addr addrlen) :=
    fun fd hne => Ne.symm hne
  rcases Kernel.endpoint_bind (s.view i).kernel os hshows.endpoint addr addrlen with
    ⟨hanswer, he'⟩ | ⟨hanswer, he'⟩
  · obtain ⟨hconduct, hholds, hshows', habs⟩ :=
      altered (.bind (S.fd o) addr addrlen) hs hk hshows rfl hother he' (.refl e)
        fun _ _ => rfl
    exact ⟨hconduct, hholds, e, hshows', habs, .inl ⟨hanswer, rfl⟩⟩
  · obtain ⟨hconduct, hholds, hshows', habs⟩ :=
      altered (.bind (S.fd o) addr addrlen) hs hk hshows rfl hother he'
        (e.grows_boundTo _) fun m hm => by
          cases m with
          | mBoundMutex => exact absurd rfl hm
          | mListenMutex => rfl
    exact ⟨hconduct, hholds, _, hshows', habs, .inr ⟨hanswer, os, _, rfl⟩⟩

theorem listen_step {t : Shared ι} {answer : Int} (hs : Holds S i ks s)
    (hk : (o.1, .mListenMutex) ∈ ks) (hshows : Shows S s o c e) {backlog : Int}
    (hstep : ThreadStep i (.listen (S.fd o) backlog) s answer t) :
    Conduct S i s t ∧ Holds S i ks t ∧ ∃ e', Shows S t o c e' ∧
      t.endpoints S = Function.update (s.endpoints S) o (some e') ∧
      (answer ≠ 0 ∧ e' = e ∨ answer = 0 ∧ ∃ ephemeral, e' = e.listeningAt ephemeral) := by
  obtain ⟨os, rfl, rfl⟩ := hstep
  have hother : ∀ fd, fd ≠ S.fd o → ¬Op.alters fd (.listen (S.fd o) backlog) :=
    fun fd hne => Ne.symm hne
  rcases Kernel.endpoint_listen (s.view i).kernel os hshows.endpoint backlog with
    ⟨hanswer, he'⟩ | ⟨hanswer, he'⟩
  · obtain ⟨hconduct, hholds, hshows', habs⟩ :=
      altered (.listen (S.fd o) backlog) hs hk hshows rfl hother he' (.refl e)
        fun _ _ => rfl
    exact ⟨hconduct, hholds, e, hshows', habs, .inl ⟨hanswer, rfl⟩⟩
  · obtain ⟨hconduct, hholds, hshows', habs⟩ :=
      altered (.listen (S.fd o) backlog) hs hk hshows rfl hother he'
        (e.grows_listeningAt _) fun m hm => by
          cases m with
          | mBoundMutex => rfl
          | mListenMutex => exact absurd rfl hm
    exact ⟨hconduct, hholds, _, hshows', habs, .inr ⟨hanswer, _, rfl⟩⟩

def Mutex.raise (o : ObjId) : Mutex → Op
  | .mBoundMutex => .store o .mBound true
  | .mListenMutex => .store o .mListen true

def CSocket.raise (c : CSocket) : Mutex → CSocket
  | .mBoundMutex => { c with mBound := true }
  | .mListenMutex => { c with mListen := true }

@[simp] theorem CSocket.flag_raise (c : CSocket) (m : Mutex) : (c.raise m).flag m = true := by
  cases m <;> rfl

theorem CSocket.flag_raise_of_ne (c : CSocket) {m m' : Mutex} (h : m' ≠ m) :
    (c.raise m).flag m' = c.flag m' := by
  cases m <;> cases m' <;> first | rfl | exact absurd rfl h

theorem CSocket.members_raise (c : CSocket) (m : Mutex) :
    (c.raise m).mSfd = c.mSfd ∧ (c.raise m).mAf = c.mAf := by
  cases m <;> exact ⟨rfl, rfl⟩

omit [DecidableEq ι] in
theorem step_raise (os : OS) (m : Mutex) (o : ObjId) (w : World) :
    (step os (m.raise o) w).2 = w.withObjs (w.objs.modify o fun c => c.raise m) := by
  cases m <;> rfl

theorem raise_step {t : Shared ι} (hs : Holds S i ks s) (hk : (o.1, m) ∈ ks)
    (hshows : Shows S s o c e) (hdone : e.flag m = true)
    (hstep : ∃ os, t = s.after i (step os (m.raise o.1) (s.view i)).2) :
    Conduct S i s t ∧ Holds S i ks t ∧ Shows S t o (c.raise m) e ∧
      t.endpoints S = s.endpoints S := by
  obtain ⟨os, rfl⟩ := hstep
  rw [step_raise]
  have hown := (hs.held (o.1, m)).mpr hk
  have hobj : (s.world.objs.modify o.1 fun c => c.raise m) o.1 = some (c.raise m) := by
    simp [hshows.object]
  have hrest : ∀ o', o' ≠ o.1 → (s.world.objs.modify o.1 fun c => c.raise m) o' =
      s.world.objs o' := fun o' hne => Function.update_of_ne hne ..
  have hgood : Good S (s.after i ((s.view i).withObjs
      ((s.view i).objs.modify o.1 fun c => c.raise m))) := by
    constructor
    · intro o'
      obtain ⟨c', e', hshows', hsfd, hcoherent⟩ := hs.good.shared o'
      by_cases heq : o' = o
      · subst heq
        obtain ⟨rfl, rfl⟩ := hshows.unique hshows'
        refine ⟨c.raise m, e, ⟨hobj, hshows.endpoint⟩, (c.members_raise m).1.trans hsfd,
          (c.members_raise m).2.trans hcoherent.af, ?_, ?_⟩
        · intro m' hm'
          by_cases hm : m' = m
          · rw [hm, hdone]
          · exact hcoherent.behind m' (by rwa [c.flag_raise_of_ne hm] at hm')
        · intro m' hm'
          have hm : m' ≠ m := by
            rintro rfl
            simp [Shared.after, hown] at hm'
          rw [c.flag_raise_of_ne hm]
          exact hcoherent.same m' hm'
      · have hne : o'.1 ≠ o.1 := fun h => heq (Subtype.ext h)
        exact ⟨c', e', ⟨(hrest _ hne).trans hshows'.object, hshows'.endpoint⟩, hsfd, hcoherent⟩
    · intro o' c' ho' hc'
      have hne : o' ≠ o.1 := by
        rintro rfl
        simp [Sharing.sfd_eq] at ho'
      exact hs.good.apart o' c' ho' ((hrest o' hne).symm.trans hc')
  refine ⟨⟨fun _ => hgood, fun _ _ _ => .rfl, ?_⟩, ⟨hgood, hs.held⟩, ⟨hobj, hshows.endpoint⟩, rfl⟩
  intro o' c' e' hshows'
  by_cases heq : o' = o
  · subst heq
    obtain ⟨rfl, rfl⟩ := hshows.unique hshows'
    refine ⟨c.raise m, e, ⟨hobj, hshows.endpoint⟩, (c.members_raise m).1, (c.members_raise m).2,
      .refl e, ?_⟩
    rintro m' ⟨j, hj, hheld⟩
    have hm : m' ≠ m := by
      rintro rfl
      exact hj (Option.some.inj (hheld.symm.trans hown))
    exact ⟨c.flag_raise_of_ne hm, rfl⟩
  · have hne : o'.1 ≠ o.1 := fun h => heq (Subtype.ext h)
    exact ⟨c', e', ⟨(hrest _ hne).trans hshows'.object, hshows'.endpoint⟩, rfl, rfl, .refl _,
      fun _ _ => ⟨rfl, rfl⟩⟩

/-! ## What calls on a shared descriptor answer -/

omit [DecidableEq ι] in
private theorem Shows.table (hshows : Shows S s o c e) :
    s.world.kernel.table (S.fd o) = some e.desc := by
  obtain ⟨d, hd, rfl⟩ := Kernel.endpoint_eq_some.mp hshows.endpoint
  exact hd

theorem getsockopt_tells {t : Shared ι} {level optname : Int} {answer : Int × Int}
    (hshows : Shows S s o c e)
    (hstep : ThreadStep i (.getsockopt (S.fd o) level optname) s answer t) :
    answer.1 = socketError ∨
      ∃ os k, answer = (0, Kernel.optionValue os k (S.fd o) e.desc level optname) := by
  obtain ⟨os, rfl, -⟩ := hstep
  simp only [step, World.syscall]
  rcases (s.view i).kernel.getsockopt_cases os (S.fd o) level optname with
    ⟨error, hret⟩ | ⟨d, hd, _, hret⟩
  · rw [hret]
    exact .inl rfl
  · obtain rfl : e.desc = d := Option.some.inj (hshows.table.symm.trans hd)
    rw [hret]
    exact .inr ⟨os, _, rfl⟩

theorem getsockname_tells {t : Shared ι} {answer : Int × Bytes} (hshows : Shows S s o c e)
    (hstep : ThreadStep i (.getsockname (S.fd o)) s answer t) :
    answer.1 ≠ 0 ∨ answer = (0, e.desc.localAddr.getD []) := by
  obtain ⟨os, rfl, -⟩ := hstep
  simp only [step, World.syscall]
  rcases (s.view i).kernel.getsockname_cases os (S.fd o) with ⟨error, hret⟩ | ⟨d, hd, hret⟩
  · rw [hret]
    exact .inl (by simp)
  · obtain rfl : e.desc = d := Option.some.inj (hshows.table.symm.trans hd)
    rw [hret]
    exact .inr rfl

end
end ClientServerTcp
