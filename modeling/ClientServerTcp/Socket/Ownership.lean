import ClientServerTcp.Socket.Exchange

/-! What the invariant says about the descriptors a process has open, about the
members of its `CSocket` objects, and about objects without a descriptor. -/
namespace ClientServerTcp
open Effects Program CSocket Memory

def Throws {α : Type} (os : OS) (p : Prog α) (w : World) : Prop :=
  ∃ error, (p.run (step os) w).1 = .error (.thrown error)

theorem throws_of_wp {α : Type} {os : OS} {p : Prog α} {w : World}
    (hp : p.wp (step os) (fun _ _ => False) (fun e _ => ∃ error, e = .thrown error) w) :
    Throws os p w := by
  have hexits := exits_run (step os) hp
  unfold Throws
  revert hexits
  rcases p.run (step os) w with ⟨_ | value, w'⟩
  · rintro ⟨error, rfl⟩
    exact ⟨error, rfl⟩
  · exact False.elim

section Empty
variable {os : OS} {w : World} {o : ObjId} (hempty : w.objs o = some {})
  (htable : w.kernel.table invalidSocket = none)
include hempty htable

theorem getter_throws (g : Getter) (hg : g ≠ .operatorSOCKET) : Throws os (g.call o) w := by
  apply throws_of_wp
  exact wp_mono (wp_getter os w o g) (fun _ _ h => hg (h.2 hempty htable)) (fun _ _ h => h.2)

theorem bind_throws (ai : Addrinfo) : Throws os (CSocket.bind o ai) w := by
  apply throws_of_wp
  apply wp_mono (wp_bind os ai hempty)
  · rintro _ _ ⟨s', k, hspec, _⟩
    cases hspec with
    | bound d hopen hmatch => simp [htable] at hopen
  · rintro _ _ ⟨error, k, rfl, _⟩
    exact ⟨error, rfl⟩

theorem listen_throws : Throws os (CSocket.listen o) w := by
  apply throws_of_wp
  apply wp_mono (wp_listen os hempty)
  · rintro _ _ ⟨s', k, hspec, _⟩
    cases hspec with
    | listening d hopen => simp [htable] at hopen
  · rintro _ _ ⟨error, k, rfl, _⟩
    exact ⟨error, rfl⟩

end Empty

/-- Descriptor ownership, in every state a sequence of activities can reach. -/
theorem descriptors_owned (os : OS) (activities : List Activity) :
    let w := history os activities
    (∀ o o' s s', w.objs o = some s → w.objs o' = some s' → s.mSfd ≠ invalidSocket →
      s.mSfd = s'.mSfd → o = o') ∧
    (∀ fd, ownOpen fd w.kernel.trace = true ↔
      ∃ o s, w.objs o = some s ∧ s.mSfd ≠ invalidSocket ∧ s.mSfd = fd) ∧
    (∀ fd, ownOpen fd w.kernel.trace = true ↔
      ∃ d, w.kernel.table fd = some d ∧ d.origin = .socket) ∧
    ClosesOwn w.kernel.trace := by
  intro w
  have inv : Invariant w := invariant_history os activities
  refine ⟨?_, ?_, inv.sound.own, inv.sound.closes⟩
  · intro o o' s s' hs hs' hvalid heq
    have hholds' := holds_of hs' (heq ▸ hvalid)
    rw [← heq] at hholds'
    exact inv.exact.alone (holds_of hs hvalid) hholds'
  · intro fd
    rw [inv.sound.own, ← inv.sound.status_isSome, inv.exact.exists_iff]
    constructor
    · intro h
      obtain ⟨o, x, hholds⟩ := h
      obtain ⟨s, hs, hvalid, hsfd, _⟩ := holds_eq_some.mp hholds
      exact ⟨o, s, hs, hvalid, hsfd⟩
    · intro h
      obtain ⟨o, s, hs, hvalid, hsfd⟩ := h
      exact ⟨o, s.status, holds_eq_some.mpr ⟨s, hs, hvalid, hsfd, rfl⟩⟩

section Moves
variable (os : OS) {w : World}

theorem moved_construct {that : ObjId} {s : CSocket} (hs : w.objs that = some s) :
    let (result, w') := (moveConstruct that).run (step os) w
    result = .ok w.objs.next ∧ w'.objs w.objs.next = some s ∧ w'.objs that = some {} ∧
      (∀ o, o ≠ w.objs.next → o ≠ that → w'.objs o = w.objs o) ∧ w'.kernel = w.kernel := by
  have hne := Heap.ne_next hs
  rw [run_moveConstruct os hs]
  refine ⟨rfl, Heap.alloc_next, ?_, ?_, rfl⟩
  · simp [hne, hs, Heap.set]
  · intro o hnext hthat
    simp [hnext, hthat, Heap.set]

theorem moved_assign {this source : ObjId} {t s : CSocket} (hne : this ≠ source)
    (ht : w.objs this = some t) (hs : w.objs source = some s) :
    let (result, w') := (moveAssign this source).run (step os) w
    result = .ok () ∧ w'.objs this = some s ∧ w'.objs source = some {} ∧
      (∀ o, o ≠ this → o ≠ source → w'.objs o = w.objs o) ∧
      w'.kernel = (w.kernel.close os t.mSfd).2 := by
  rw [run_moveAssign os ht hs]
  refine ⟨rfl, ?_, ?_, ?_, ?_⟩
  · simp [hne, ht, Heap.set]
  · simp [hne.symm, hs, Heap.set]
  · intro o hthis hsource
    simp [hthis, hsource, Heap.set]
  · simp [hne]

theorem moved_to_itself {this : ObjId} {s : CSocket} (hs : w.objs this = some s)
    (hinvalid : w.kernel.table invalidSocket = none) :
    let (result, w') := (moveAssign this this).run (step os) w
    result = .ok () ∧ (∀ o, w'.objs o = w.objs o) ∧ w'.kernel.table = w.kernel.table := by
  rw [run_moveAssign os hs hs]
  refine ⟨rfl, ?_, ?_⟩
  · intro o
    rw [Heap.set_set, Heap.set_self hs]
    rfl
  · obtain ⟨_, _, htable, _⟩ := w.kernel.close_effect os invalidSocket
    rw [if_pos rfl, htable, ← hinvalid, Function.update_eq_self]

end Moves

/-- Whoever uses a default constructed object in place of an empty one sees the
same, now and after every later sequence of operations. -/
theorem empty_like_default (os : OS) {w : World} {o : ObjId} (hempty : w.objs o = some {})
    (later : List Activity) :
    let n := w.objs.next
    let w₁ := ((construct 0 0 0).run (step os) w).2
    let here := later.foldl (Activity.exec os) w₁
    let there := (later.map (Activity.exchange o n)).foldl (Activity.exec os) w₁
    Exchanged o n here there ∧ ∀ op : SocketOp,
      ((op.exchange o n).program.run (step os) there).1 = (op.program.run (step os) here).1 := by
  intro n w₁ here there
  have hw₁ : w₁ = w.withObjs (w.objs.alloc {}) := congrArg Prod.snd (run_construct_empty os w)
  have hsame : Exchanged o n w₁ w₁ := by
    rw [hw₁]
    exact .same (Heap.alloc_of hempty) Heap.alloc_next
  have hlater : Exchanged o n here there := hsame.foldl later
  exact ⟨hlater, fun op => (exchanges_program op _ _ hlater).result.1⟩

/-- The members of an object say what happened to its descriptor. An object
without one has the members, and the future, of a default constructed object. A
move takes the members along as they are, and leaves such an object behind. -/
theorem cache_follows_descriptor (os : OS) (activities : List Activity) :
    let w := history os activities
    (∀ o s, w.objs o = some s → s.mSfd ≠ invalidSocket →
      s.mAf = openDomain s.mSfd w.kernel.trace ∧
      s.mBound = boundSince s.mSfd w.kernel.trace ∧
      s.mListen = listenSince s.mSfd w.kernel.trace ∧
      ∃ d, w.kernel.table s.mSfd = some d ∧ d.option solSocket soReuseaddr = 0 ∧
        (d.domain = afInet6 → d.option ipprotoIpv6 ipv6V6only = 0)) ∧
    (∀ o s, w.objs o = some s → s.mSfd = invalidSocket →
      s.mAf = -1 ∧ s.mBound = false ∧ s.mListen = false ∧
      (∀ g, g ≠ .operatorSOCKET → Throws os (Getter.call o g) w) ∧
      (∀ ai, Throws os (CSocket.bind o ai) w) ∧ Throws os (CSocket.listen o) w ∧
      let n := w.objs.next
      let w₁ := ((construct 0 0 0).run (step os) w).2
      w₁.objs n = w.objs o ∧ ∀ later : List Activity,
        let here := later.foldl (Activity.exec os) w₁
        let there := (later.map (Activity.exchange o n)).foldl (Activity.exec os) w₁
        Exchanged o n here there ∧ ∀ op : SocketOp,
          ((op.exchange o n).program.run (step os) there).1 =
            (op.program.run (step os) here).1) ∧
    (∀ that s, w.objs that = some s →
      let (result, w') := (moveConstruct that).run (step os) w
      result = .ok w.objs.next ∧ w'.objs w.objs.next = some s ∧ w'.objs that = some {} ∧
        (∀ o, o ≠ w.objs.next → o ≠ that → w'.objs o = w.objs o) ∧ w'.kernel = w.kernel) ∧
    (∀ this source t s, this ≠ source → w.objs this = some t → w.objs source = some s →
      let (result, w') := (moveAssign this source).run (step os) w
      result = .ok () ∧ w'.objs this = some s ∧ w'.objs source = some {} ∧
        (∀ o, o ≠ this → o ≠ source → w'.objs o = w.objs o) ∧
        w'.kernel = (w.kernel.close os t.mSfd).2) ∧
    (∀ this s, w.objs this = some s →
      let (result, w') := (moveAssign this this).run (step os) w
      result = .ok () ∧ (∀ o, w'.objs o = w.objs o) ∧ w'.kernel.table = w.kernel.table) := by
  intro w
  have inv : Invariant w := invariant_history os activities
  refine ⟨?_, ?_, fun that s => moved_construct os, fun this source t s => moved_assign os,
    fun this s hs => moved_to_itself os hs inv.sound.invalid⟩
  · intro o s hs hvalid
    obtain ⟨d, hd, horigin, hstatus⟩ := inv.sound.desc (inv.cached hs hvalid)
    simp only [CSocket.status, Status.mk.injEq] at hstatus
    obtain ⟨haf, hbound, hlisten, htuned⟩ := hstatus
    exact ⟨haf.trans (inv.sound.domain hd horigin).symm, hbound, hlisten, d, hd,
      Desc.tuned_iff.mp htuned.symm⟩
  · intro o s hs hinvalid
    have hempty : s = {} := inv.tidy o s hs hinvalid
    subst hempty
    refine ⟨rfl, rfl, rfl, getter_throws hs inv.sound.invalid, bind_throws hs inv.sound.invalid,
      listen_throws hs inv.sound.invalid, ?_, empty_like_default os hs⟩
    rw [run_construct_empty, hs]
    exact Heap.alloc_next

end ClientServerTcp
