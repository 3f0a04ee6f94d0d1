import ClientServerTcp.Library.Ledger
import ClientServerTcp.Addrinfo.Spec
import ClientServerTcp.System.History

/-! Any sequence of operations on any number of `CAddrinfo` objects. The live
objects own the address lists that are allocated, and the list of an object is
the answer to the query that the object has cached. -/
namespace ClientServerTcp
open Effects Program CAddrinfo Memory

inductive AddrinfoOp where
  | construct (aNode aService : String) (aFamily aSocktype aFlags aProtocol : Int)
  | copy (that : InfoId)
  | copyAssign (this source : InfoId)
  | destruct (this : InfoId)

namespace AddrinfoOp

def subjects : AddrinfoOp → List InfoId
  | construct .. => []
  | copy that => [that]
  | copyAssign this source => [this, source]
  | destruct this => [this]

def program : AddrinfoOp → Prog Unit
  | construct aNode aService aFamily aSocktype aFlags aProtocol => do
    let _ ← CAddrinfo.construct aNode aService aFamily aSocktype aFlags aProtocol
  | copy that => do let _ ← CAddrinfo.copy that
  | copyAssign this source => CAddrinfo.copyAssign this source
  | destruct this => CAddrinfo.destruct this

def exec (os : OS) (w : World) (op : AddrinfoOp) : World :=
  if op.subjects.all fun a => (w.infos a).isSome then (op.program.run (step os) w).2 else w

end AddrinfoOp

def addrinfoHistory (os : OS) (ops : List AddrinfoOp) : World :=
  ops.foldl (AddrinfoOp.exec os) .initial

/-! ## What the log says about an address list -/

def freeCount (res : Ptr) (trace : List Event) : Nat := trace.countP (Event.frees res)

theorem freeCount_cons (res : Ptr) (e : Event) (trace : List Event) :
    freeCount res (e :: trace) = freeCount res trace + if e.frees res then 1 else 0 :=
  List.countP_cons

/-- The lists agree with the log: those obtained have the numbers in use so
far, and each that is gone was freed once. -/
structure Kernel.Accounted (k : Kernel) : Prop where
  first : 0 < k.lists.next
  pos : ∀ {p : Nat} {l}, k.lists p = some l → 0 < p
  obtained : ∀ p : Nat, k.trace.any (Event.obtains p) = true ↔ 0 < p ∧ p < k.lists.next
  kept : ∀ {p : Nat} {l}, k.lists p = some l → freeCount p k.trace = 0
  unused : ∀ {p : Nat}, p = 0 ∨ k.lists.next ≤ p → freeCount p k.trace = 0
  freed : ∀ {p : Nat}, 0 < p → p < k.lists.next → k.lists p = none → freeCount p k.trace = 1
  answered : ∀ {p : Nat} {l}, k.lists p = some l →
    ⟨.getaddrinfo l.query, 0, none, p⟩ ∈ k.trace ∧
      l.entries = normalised l.query.hints l.answer ∧ l.answer ≠ []

namespace Kernel.Accounted

variable {k : Kernel}

theorem initial : Accounted World.initial.kernel where
  first := Nat.zero_lt_one
  pos := by simp [World.initial]
  obtained := by
    intro p
    simp only [World.initial, List.any_nil, Bool.false_eq_true, false_iff, Heap.next_empty]
    omega
  kept := by simp [World.initial]
  unused := fun _ => rfl
  freed := by
    intro p hpos hlt
    simp only [World.initial, Heap.next_empty] at hlt
    omega
  answered := by simp [World.initial]

theorem freeCount_le (hk : Accounted k) (p : Nat) : freeCount p k.trace ≤ 1 := by
  by_cases hrange : 0 < p ∧ p < k.lists.next
  · cases hl : k.lists p with
    | none => exact Nat.le_of_eq (hk.freed hrange.1 hrange.2 hl)
    | some l => simp [hk.kept hl]
  · have hzero := hk.unused (p := p) (by omega)
    omega

/-- The lists that exist are those that the log shows obtained and not freed. -/
theorem isSome_iff (hk : Accounted k) (p : Nat) :
    (k.lists p).isSome ↔ k.trace.any (Event.obtains p) = true ∧ freeCount p k.trace = 0 := by
  rw [hk.obtained]
  constructor
  · intro h
    obtain ⟨l, hl⟩ := Option.isSome_iff_exists.mp h
    exact ⟨⟨hk.pos hl, Heap.lt_next hl⟩, hk.kept hl⟩
  · intro ⟨hrange, hcount⟩
    cases hl : k.lists p with
    | some l => rfl
    | none => simp [hk.freed hrange.1 hrange.2 hl] at hcount

theorem failed (hk : Accounted k) (q : Query) {error : Int} (herror : error ≠ 0) :
    Accounted (k.log (.getaddrinfo q) error) where
  first := hk.first
  pos := hk.pos
  obtained := by
    intro p
    simpa [Event.obtains, herror] using hk.obtained p
  kept := hk.kept
  unused := hk.unused
  freed := hk.freed
  answered := by
    intro p l hl
    obtain ⟨hmem, hentries⟩ := hk.answered hl
    exact ⟨List.mem_cons_of_mem _ hmem, hentries⟩

theorem allocated (hk : Accounted k) (q : Query) {answer : List Addrinfo} (hne : answer ≠ []) :
    Accounted (CAddrinfo.obtained k q answer) where
  first := Nat.succ_pos _
  pos := by
    intro p l hl
    by_cases heq : p = k.lists.next
    · rw [heq]
      exact hk.first
    · exact hk.pos (p := p) (l := l) (by simpa [CAddrinfo.obtained, heq] using hl)
  obtained := by
    intro p
    have hnext : (CAddrinfo.obtained k q answer).lists.next = k.lists.next + 1 := rfl
    have hfirst := hk.first
    have hevent : Event.obtains p ⟨.getaddrinfo q, 0, none, k.lists.next⟩ = true ↔
        k.lists.next = p := by simp [Event.obtains]
    rw [hnext, CAddrinfo.obtained, trace_log, List.any_cons, Bool.or_eq_true, hevent,
      trace_setLists, hk.obtained]
    omega
  kept := by
    intro p l hl
    by_cases heq : p = k.lists.next
    · exact hk.unused (p := p) (.inr (by omega))
    · exact hk.kept (p := p) (l := l) (by simpa [CAddrinfo.obtained, heq] using hl)
  unused := by
    intro p hp
    have hnext : (CAddrinfo.obtained k q answer).lists.next = k.lists.next + 1 := rfl
    rw [hnext] at hp
    exact hk.unused (p := p) (by omega)
  freed := by
    intro p hpos hlt hnone
    have hne : p ≠ k.lists.next := by
      rintro rfl
      simp [CAddrinfo.obtained] at hnone
    have hnext : (CAddrinfo.obtained k q answer).lists.next = k.lists.next + 1 := rfl
    rw [hnext] at hlt
    exact hk.freed hpos (by omega) (by simpa [CAddrinfo.obtained, hne] using hnone)
  answered := by
    intro p l hl
    by_cases heq : p = k.lists.next
    · subst heq
      obtain rfl : _ = l := by simpa [CAddrinfo.obtained] using hl
      exact ⟨List.mem_cons_self, rfl, hne⟩
    · obtain ⟨hmem, hentries⟩ :=
        hk.answered (p := p) (l := l) (by simpa [CAddrinfo.obtained, heq] using hl)
      exact ⟨List.mem_cons_of_mem _ hmem, hentries⟩

theorem released (hk : Accounted k) {p : Nat} {l : AddrList} (hl : k.lists p = some l) :
    Accounted (k.freeaddrinfo p) := by
  have hkeep : ∀ {p' : Nat} {l'}, (k.freeaddrinfo p).lists p' = some l' →
      p' ≠ p ∧ k.lists p' = some l' := by
    intro p' l' hl'
    by_cases heq : p' = p
    · simp [freeaddrinfo, heq] at hl'
    · exact ⟨heq, by simpa [freeaddrinfo, heq] using hl'⟩
  have hcount : ∀ p' : Nat, freeCount p' (k.freeaddrinfo p).trace =
      freeCount p' k.trace + if p' = p then 1 else 0 := by
    intro p'
    rw [freeaddrinfo, trace_log, freeCount_cons]
    by_cases heq : p' = p
    · simp [Event.frees, heq]
    · simp [Event.frees, heq, Ne.symm heq]
  have hlt : p < k.lists.next := Heap.lt_next hl
  have hpos := hk.pos hl
  exact {
    first := hk.first
    pos := fun hl' => hk.pos (hkeep hl').2
    obtained := by
      intro p'
      simpa [freeaddrinfo, Event.obtains] using hk.obtained p'
    kept := by
      intro p' l' hl'
      rw [hcount, hk.kept (hkeep hl').2, if_neg (hkeep hl').1]
    unused := by
      intro p' hp'
      have hnext : (k.freeaddrinfo p).lists.next = k.lists.next := rfl
      rw [hnext] at hp'
      have hne : p' ≠ p := by omega
      rw [hcount, hk.unused hp', if_neg hne]
    freed := by
      intro p' hpos hlt hnone
      rw [hcount]
      by_cases heq : p' = p
      · rw [if_pos heq, heq, hk.kept hl]
      · rw [if_neg heq, hk.freed hpos hlt (by simpa [freeaddrinfo, heq] using hnone)]
    answered := by
      intro p' l' hl'
      obtain ⟨hmem, hentries⟩ := hk.answered (hkeep hl').2
      exact ⟨List.mem_cons_of_mem _ hmem, hentries⟩ }

end Kernel.Accounted

/-! ## The invariant -/

def listOf (infos : Heap CAddrinfo) : InfoId → Option (Ptr × Query) :=
  infos.view fun i => some (i.mRes, i.query)

def Kernel.queries (k : Kernel) : Ptr → Option Query := k.lists.view fun l => some l.query

structure InfoInvariant (w : World) : Prop where
  accounted : w.kernel.Accounted
  exact : Ownership.Exact (listOf w.infos) w.kernel.queries

theorem listOf_of {infos : Heap CAddrinfo} {a : InfoId} {i : CAddrinfo}
    (hi : infos a = some i) : listOf infos a = some (i.mRes, i.query) := Heap.view_of _ hi

theorem listOf_next (infos : Heap CAddrinfo) : listOf infos infos.next = none := Heap.view_next _

theorem listOf_alloc (infos : Heap CAddrinfo) (i : CAddrinfo) :
    listOf (infos.alloc i) = Function.update (listOf infos) infos.next (some (i.mRes, i.query)) :=
  Heap.view_alloc _

theorem listOf_set {infos : Heap CAddrinfo} {a : InfoId} {t : CAddrinfo} (ht : infos a = some t)
    (i : CAddrinfo) :
    listOf (infos.set a i) = Function.update (listOf infos) a (some (i.mRes, i.query)) :=
  Heap.view_set _ ht

theorem listOf_free (infos : Heap CAddrinfo) (a : InfoId) :
    listOf (infos.free a) = Function.update (listOf infos) a none := Heap.view_free _

theorem queries_next (k : Kernel) : k.queries k.lists.next = none := Heap.view_next _

theorem queries_obtained (k : Kernel) (q : Query) (answer : List Addrinfo) :
    (obtained k q answer).queries = Function.update k.queries k.lists.next (some q) :=
  Heap.view_alloc _

theorem queries_freeaddrinfo (k : Kernel) (res : Ptr) :
    (k.freeaddrinfo res).queries = Function.update k.queries res none := Heap.view_free _

namespace InfoInvariant

variable {os : OS} {w : World}

theorem initial : InfoInvariant .initial where
  accounted := .initial
  exact := .empty

theorem held (inv : InfoInvariant w) {a : InfoId} {i : CAddrinfo} (hi : w.infos a = some i) :
    ∃ l, w.kernel.lists i.mRes = some l ∧ l.query = i.query := by
  obtain ⟨l, hl, hquery⟩ := Option.bind_eq_some_iff.mp (inv.exact.noted (listOf_of hi))
  exact ⟨l, hl, Option.some.inj hquery⟩

theorem created (inv : InfoInvariant w) (i : CAddrinfo) :
    InfoInvariant (CAddrinfo.created os w i).2 := by
  unfold CAddrinfo.created
  cases hanswer : os.getaddrinfo w.kernel i.query with
  | error error => exact ⟨inv.accounted.failed _ (os.getaddrinfo_err hanswer), inv.exact⟩
  | ok answer =>
    refine ⟨inv.accounted.allocated _ (os.getaddrinfo_ne hanswer), ?_⟩
    dsimp only
    rw [listOf_alloc, queries_obtained]
    exact inv.exact.acquire _ (listOf_next _) (queries_next _)

theorem copyAssign (inv : InfoInvariant w) {this source : InfoId} {t s : CAddrinfo}
    (ht : w.infos this = some t) (hs : w.infos source = some s) :
    InfoInvariant ((CAddrinfo.copyAssign this source).run (step os) w).2 := by
  rw [run_copyAssign os ht hs]
  cases hanswer : os.getaddrinfo w.kernel s.query with
  | error error => exact ⟨inv.accounted.failed _ (os.getaddrinfo_err hanswer), inv.exact⟩
  | ok answer =>
    have hthis : this ≠ w.infos.next := Heap.ne_next ht
    obtain ⟨l, hl, hquery⟩ := inv.held ht
    have haccounted := inv.accounted.allocated s.query (os.getaddrinfo_ne hanswer)
    have hl' : (obtained w.kernel s.query answer).lists t.mRes = some l := Heap.alloc_of hl
    refine ⟨haccounted.released hl', ?_⟩
    -- the new list goes to the parameter, the parameter swaps and dies
    have hacquired := inv.exact.acquire s.query (listOf_next _) (queries_next _)
    have hswapped := hacquired.rename (Equiv.swap this w.infos.next)
    have hdying : (Function.update (listOf w.infos) w.infos.next
        (some (w.kernel.lists.next, s.query)) ∘ Equiv.swap this w.infos.next) w.infos.next =
        some (t.mRes, t.query) := by
      simp [hthis, listOf_of ht]
    have hreleased := hswapped.release hdying
    have hholds : Function.update (Function.update (listOf w.infos) w.infos.next
        (some (w.kernel.lists.next, s.query)) ∘ Equiv.swap this w.infos.next) w.infos.next none =
        Function.update (listOf w.infos) this (some (w.kernel.lists.next, s.query)) := by
      funext a
      by_cases hnext : a = w.infos.next
      · simp [hnext, hthis.symm, listOf_next]
      · by_cases heq : a = this
        · simp [heq, hthis]
        · simp [heq, hnext, Equiv.swap_apply_of_ne_of_ne heq hnext]
    rw [hholds] at hreleased
    dsimp only
    rw [listOf, Heap.view_skip, ← listOf, listOf_set ht, queries_freeaddrinfo, queries_obtained]
    exact hreleased

theorem destruct (inv : InfoInvariant w) {this : InfoId} {t : CAddrinfo}
    (ht : w.infos this = some t) :
    InfoInvariant ((CAddrinfo.destruct this).run (step os) w).2 := by
  rw [run_destruct os ht]
  obtain ⟨l, hl, _⟩ := inv.held ht
  refine ⟨inv.accounted.released hl, ?_⟩
  dsimp only
  rw [listOf_free, queries_freeaddrinfo]
  exact inv.exact.release (listOf_of ht)

theorem operation (inv : InfoInvariant w) (op : AddrinfoOp)
    (hlive : ∀ a ∈ op.subjects, ∃ i, w.infos a = some i) :
    InfoInvariant (op.program.run (step os) w).2 := by
  cases op with
  | construct aNode aService aFamily aSocktype aFlags aProtocol =>
    rw [AddrinfoOp.program, state_run_drop, run_construct]
    exact inv.created _
  | copy that =>
    obtain ⟨s, hs⟩ := hlive that (by simp [AddrinfoOp.subjects])
    rw [AddrinfoOp.program, state_run_drop, run_copy os hs]
    exact inv.created _
  | copyAssign this source =>
    obtain ⟨t, ht⟩ := hlive this (by simp [AddrinfoOp.subjects])
    obtain ⟨s, hs⟩ := hlive source (by simp [AddrinfoOp.subjects])
    exact inv.copyAssign ht hs
  | destruct this =>
    obtain ⟨t, ht⟩ := hlive this (by simp [AddrinfoOp.subjects])
    exact inv.destruct ht

theorem exec (inv : InfoInvariant w) (op : AddrinfoOp) : InfoInvariant (op.exec os w) := by
  unfold AddrinfoOp.exec
  split
  · rename_i hlive
    apply inv.operation
    intro a ha
    exact Option.isSome_iff_exists.mp (List.all_eq_true.mp hlive a ha)
  · exact inv

theorem ops (inv : InfoInvariant w) (later : List AddrinfoOp) :
    InfoInvariant (later.foldl (AddrinfoOp.exec os) w) := by
  induction later generalizing w with
  | nil => exact inv
  | cons op later ih => exact ih (inv.exec op)

end InfoInvariant

theorem infoInvariant_history (os : OS) (ops : List AddrinfoOp) :
    InfoInvariant (addrinfoHistory os ops) :=
  InfoInvariant.initial.ops ops

end ClientServerTcp
