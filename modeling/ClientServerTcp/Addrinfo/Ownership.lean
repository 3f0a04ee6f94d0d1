import ClientServerTcp.Addrinfo.Runs

/-! Ownership of address lists, and what an exception leaves behind. -/
namespace ClientServerTcp
open Effects Program CAddrinfo Memory

/-- An operation that throws changes no object, and no list is left over. -/
theorem strong_guarantee {os : OS} {w : World} (op : AddrinfoOp)
    (hlive : ∀ a ∈ op.subjects, ∃ i, w.infos a = some i) {e : Exn} {w' : World}
    (hrun : op.program.run (step os) w = (.error e, w')) :
    w'.infos.cells = w.infos.cells ∧ w'.kernel.lists = w.kernel.lists := by
  have hcreated : ∀ i, (created os w i).1.toOption = none →
      (created os w i).2.infos.cells = w.infos.cells ∧
        (created os w i).2.kernel.lists = w.kernel.lists := by
    intro i hnone
    unfold created at hnone ⊢
    cases hanswer : os.getaddrinfo w.kernel i.query with
    | error error => exact ⟨rfl, rfl⟩
    | ok answer => simp [hanswer, Except.toOption] at hnone
  have hdropped : ∀ {p : Prog InfoId} {i}, p.run (step os) w = created os w i →
      (do let _ ← p : Prog Unit).run (step os) w = (.error e, w') →
      w'.infos.cells = w.infos.cells ∧ w'.kernel.lists = w.kernel.lists := by
    intro p i hp hdrop
    have hstate : (created os w i).2 = w' := by
      rw [← hp, ← state_run_drop, hdrop]
    have hnone : (created os w i).1.toOption = none := by
      have hbind : (do let _ ← p : Prog Unit) = p.bind fun _ => .done () := rfl
      rw [hbind, run_bind, hp] at hdrop
      revert hdrop
      rcases created os w i with ⟨_ | value, t⟩
      · exact fun _ => rfl
      · simp [run]
    rw [← hstate]
    exact hcreated i hnone
  cases op with
  | construct aNode aService aFamily aSocktype aFlags aProtocol =>
    exact hdropped (run_construct os aNode aService aFamily aSocktype aFlags aProtocol) hrun
  | copy that =>
    obtain ⟨s, hs⟩ := hlive that (by simp [AddrinfoOp.subjects])
    exact hdropped (run_copy os hs) hrun
  | copyAssign this source =>
    obtain ⟨t, ht⟩ := hlive this (by simp [AddrinfoOp.subjects])
    obtain ⟨s, hs⟩ := hlive source (by simp [AddrinfoOp.subjects])
    rw [AddrinfoOp.program, run_copyAssign os ht hs] at hrun
    revert hrun
    cases os.getaddrinfo w.kernel s.query with
    | error error =>
      rintro ⟨rfl, rfl⟩
      exact ⟨rfl, rfl⟩
    | ok answer => simp
  | destruct this =>
    obtain ⟨t, ht⟩ := hlive this (by simp [AddrinfoOp.subjects])
    rw [AddrinfoOp.program, run_destruct os ht] at hrun
    simp at hrun

/-- The allocated lists are those of the live objects, in every state that a
sequence of operations can reach. -/
theorem lists_owned (os : OS) (ops : List AddrinfoOp) :
    let w := addrinfoHistory os ops
    (∀ a i, w.infos a = some i → i.mRes ≠ 0) ∧
    (∀ p : Ptr, (w.kernel.trace.any (Event.obtains p) = true ∧ freeCount p w.kernel.trace = 0) ↔
      ∃ a i, w.infos a = some i ∧ i.mRes = p) ∧
    (∀ a a' i i', w.infos a = some i → w.infos a' = some i' → i.mRes = i'.mRes → a = a') ∧
    (∀ p, freeCount p w.kernel.trace ≤ 1) ∧
    (∀ a i, w.infos a = some i → ∃ l, w.kernel.lists i.mRes = some l ∧
      l.query = i.query ∧ l.entries = normalised i.mHints l.answer ∧
      ⟨.getaddrinfo i.query, 0, none, i.mRes⟩ ∈ w.kernel.trace) ∧
    (∀ op : AddrinfoOp, (∀ a ∈ op.subjects, ∃ i, w.infos a = some i) →
      ∀ e w', op.program.run (step os) w = (.error e, w') →
        w'.infos.cells = w.infos.cells ∧ w'.kernel.lists = w.kernel.lists) := by
  intro w
  have inv : InfoInvariant w := infoInvariant_history os ops
  refine ⟨?_, ?_, ?_, inv.accounted.freeCount_le, ?_, ?_⟩
  · intro a i hi
    obtain ⟨l, hl, _⟩ := inv.held hi
    exact Nat.ne_of_gt (inv.accounted.pos hl)
  · intro p
    have hqueries : (w.kernel.lists p).isSome ↔ (w.kernel.queries p).isSome := by
      rw [Kernel.queries, Heap.view]
      cases w.kernel.lists p <;> exact Iff.rfl
    rw [← inv.accounted.isSome_iff, hqueries, inv.exact.exists_iff]
    constructor
    · intro hheld
      obtain ⟨a, q, ha⟩ := hheld
      obtain ⟨i, hi, heq⟩ := Option.bind_eq_some_iff.mp ha
      exact ⟨a, i, hi, congrArg Prod.fst (Option.some.inj heq)⟩
    · intro hlive
      obtain ⟨a, i, hi, hmRes⟩ := hlive
      exact ⟨a, i.query, by rw [listOf_of hi, hmRes]⟩
  · intro a a' i i' hi hi' heq
    apply inv.exact.alone (listOf_of hi)
    rw [listOf_of hi', heq]
  · intro a i hi
    obtain ⟨l, hl, hquery⟩ := inv.held hi
    obtain ⟨hmem, hentries, _⟩ := inv.accounted.answered hl
    rw [hquery] at hmem hentries
    exact ⟨l, hl, hquery, hentries, hmem⟩
  · intro op hlive e w' hrun
    exact strong_guarantee op hlive hrun

end ClientServerTcp
