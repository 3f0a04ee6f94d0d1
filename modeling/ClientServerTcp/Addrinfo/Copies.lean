import ClientServerTcp.Addrinfo.Observation
import ClientServerTcp.Addrinfo.Runs

/-! Copies of a `CAddrinfo` ask the resolver again. Along any chain of copies the
question stays the same, so what a copy shows depends on the new answer only. -/
namespace ClientServerTcp
open Effects Program CAddrinfo Memory

/-- The operation gives the object another value, or ends its life. -/
def AddrinfoOp.overwrites (b : InfoId) : AddrinfoOp → Prop
  | construct .. | copy _ => False
  | copyAssign this _ => this = b
  | destruct this => this = b

/-- `Copies os w a w' b`: a history leads from `w` to `w'`, and there `b` was made
from `a` by copy constructions and copy assignments that returned. -/
inductive Copies (os : OS) (w : World) (a : InfoId) : World → InfoId → Prop
  | refl : Copies os w a w a
  | copy {w' w'' : World} {b c : InfoId} (h : Copies os w a w' b)
    (hrun : (CAddrinfo.copy b).run (step os) w' = (.ok c, w'')) : Copies os w a w'' c
  | assign {w' w'' : World} {b c : InfoId} (h : Copies os w a w' b) (hlive : (w'.infos c).isSome)
    (hrun : (copyAssign c b).run (step os) w' = (.ok (), w'')) : Copies os w a w'' c
  | other {w' : World} {b : InfoId} (h : Copies os w a w' b) (op : AddrinfoOp)
    (hop : ¬op.overwrites b) : Copies os w a (op.exec os w') b

def World.answer (w : World) (a : InfoId) : Option (List Addrinfo) :=
  (w.infos a).bind fun i => (w.kernel.lists i.mRes).map AddrList.answer

section
variable {os : OS} {w w' : World} {a b : InfoId} {i : CAddrinfo}

theorem infos_exec (op : AddrinfoOp) (hop : ¬op.overwrites b)
    (hb : w.infos b = some i) : (op.exec os w).infos b = some i := by
  have hcreated : ∀ j, (created os w j).2.infos b = some i := by
    intro j
    unfold created
    split
    · exact hb
    · exact Heap.alloc_of hb
  unfold AddrinfoOp.exec
  split
  · rename_i hlive
    rw [List.all_eq_true] at hlive
    cases op with
    | construct aNode aService aFamily aSocktype aFlags aProtocol =>
      rw [AddrinfoOp.program, state_run_drop, run_construct]
      exact hcreated _
    | copy that =>
      obtain ⟨s, hs⟩ := Option.isSome_iff_exists.mp (hlive that (by simp [AddrinfoOp.subjects]))
      rw [AddrinfoOp.program, state_run_drop, run_copy os hs]
      exact hcreated _
    | copyAssign this source =>
      obtain ⟨t, ht⟩ := Option.isSome_iff_exists.mp (hlive this (by simp [AddrinfoOp.subjects]))
      obtain ⟨s, hs⟩ := Option.isSome_iff_exists.mp (hlive source (by simp [AddrinfoOp.subjects]))
      rw [AddrinfoOp.program, run_copyAssign os ht hs]
      split
      · exact hb
      · have hne : b ≠ this := Ne.symm hop
        exact (Heap.set_of_ne hne).trans hb
    | destruct this =>
      obtain ⟨t, ht⟩ := Option.isSome_iff_exists.mp (hlive this (by simp [AddrinfoOp.subjects]))
      have hne : b ≠ this := Ne.symm hop
      rw [AddrinfoOp.program, run_destruct os ht]
      exact (Heap.free_of_ne hne).trans hb
  · exact hb

theorem Copies.query (h : Copies os w a w' b) (inv : InfoInvariant w) (ha : w.infos a = some i) :
    InfoInvariant w' ∧ ∃ j, w'.infos b = some j ∧ j.query = i.query := by
  induction h with
  | refl => exact ⟨inv, i, ha, rfl⟩
  | @copy w₁ w₂ b c _ hrun ih =>
    obtain ⟨inv₁, j, hj, hquery⟩ := ih
    have hstate : InfoInvariant (created os w₁ { j with mRes := 0 }).2 := inv₁.created _
    rw [run_copy os hj] at hrun
    rw [hrun] at hstate
    refine ⟨hstate, ?_⟩
    unfold created at hrun
    split at hrun
    · simp at hrun
    · obtain ⟨rfl, rfl⟩ : w₁.infos.next = c ∧ _ = w₂ := by simpa using hrun
      exact ⟨_, Heap.alloc_next, hquery⟩
  | @assign w₁ w₂ b c _ hlive hrun ih =>
    obtain ⟨inv₁, j, hj, hquery⟩ := ih
    obtain ⟨t, ht⟩ := Option.isSome_iff_exists.mp hlive
    have hstate : InfoInvariant ((copyAssign c b).run (step os) w₁).2 := inv₁.copyAssign ht hj
    rw [hrun] at hstate
    refine ⟨hstate, ?_⟩
    rw [run_copyAssign os ht hj] at hrun
    split at hrun
    · simp at hrun
    · obtain rfl : _ = w₂ := by simpa using hrun
      exact ⟨_, Heap.set_at ht, hquery⟩
  | other _ op hop ih =>
    obtain ⟨inv₁, j, hj, hquery⟩ := ih
    exact ⟨inv₁.exec op, j, infos_exec op hop hj, hquery⟩

/-- An object shows the head of the answer it got, with the protocol and flags of
its own hints. -/
theorem InfoInvariant.observe (os : OS) (inv : InfoInvariant w)
    (inetNtop : Int → Bytes → Option String) (ha : w.infos a = some i) : ∃ e rest, w.answer a = some (e :: rest) ∧
      (CAddrinfo.observe inetNtop a).run (step os) w =
        (.ok (Addrinfo.shown inetNtop
          { e with aiProtocol := i.mHints.aiProtocol, aiFlags := i.mHints.aiFlags }), w) := by
  obtain ⟨l, hl, hquery⟩ := inv.held ha
  obtain ⟨_, hentries, hne⟩ := inv.accounted.answered hl
  obtain ⟨e, rest, hanswer⟩ := List.exists_cons_of_ne_nil hne
  have hhints : l.query.hints = i.mHints := by rw [hquery, CAddrinfo.query]
  rw [hanswer, hhints] at hentries
  refine ⟨e, rest, by simp [World.answer, ha, hl, hanswer], ?_⟩
  exact run_observe os inetNtop (run_arrow os ha hl hentries)

end

/-- A copy shows the same as its source. -/
def ShowsSame (os : OS) (inetNtop : Int → Bytes → Option String) (w : World) (a : InfoId)
    (w' : World) (b : InfoId) : Prop :=
  ((observe inetNtop b).run (step os) w').1 = ((observe inetNtop a).run (step os) w).1

theorem Copies.showsSame {os : OS} {w w' : World} {a b : InfoId} {i : CAddrinfo}
    (h : Copies os w a w' b) (inv : InfoInvariant w) (ha : w.infos a = some i)
    (inetNtop : Int → Bytes → Option String) :
    ∃ e rest e' rest', w.answer a = some (e :: rest) ∧ w'.answer b = some (e' :: rest') ∧
      (ShowsSame os inetNtop w a w' b ↔
        Addrinfo.shown inetNtop
            { e' with aiProtocol := i.mHints.aiProtocol, aiFlags := i.mHints.aiFlags } =
          Addrinfo.shown inetNtop
            { e with aiProtocol := i.mHints.aiProtocol, aiFlags := i.mHints.aiFlags }) := by
  obtain ⟨inv', j, hj, hquery⟩ := h.query inv ha
  have hhints : j.mHints = i.mHints := congrArg Query.hints hquery
  obtain ⟨e, rest, hanswer, hshown⟩ := inv.observe os inetNtop ha
  obtain ⟨e', rest', hanswer', hshown'⟩ := inv'.observe os inetNtop hj
  refine ⟨e, rest, e', rest', hanswer, hanswer', ?_⟩
  unfold ShowsSame
  rw [hshown, hshown', Except.ok.injEq, hhints]

/-- A copy shows the same as its source exactly when the first entry of the
resolver's new answer names the same address as that of the old one. -/
theorem showsSame_iff (inetNtop : Int → Bytes → Option String) (hntop : Presentation inetNtop)
    (os : OS) (ops : List AddrinfoOp) (a b : InfoId) (w' : World)
    (hlive : ((addrinfoHistory os ops).infos a).isSome)
    (hcopies : Copies os (addrinfoHistory os ops) a w' b) :
    ∃ e rest e' rest', (addrinfoHistory os ops).answer a = some (e :: rest) ∧
      w'.answer b = some (e' :: rest') ∧
      (ShowsSame os inetNtop (addrinfoHistory os ops) a w' b ↔ e'.sameAddress e) := by
  obtain ⟨i, hi⟩ := Option.isSome_iff_exists.mp hlive
  obtain ⟨e, rest, e', rest', hanswer, hanswer', hsame⟩ :=
    hcopies.showsSame (infoInvariant_history os ops) hi inetNtop
  refine ⟨e, rest, e', rest', hanswer, hanswer', ?_⟩
  rw [hsame, shown_eq_iff hntop]
  exact ⟨fun h => h.1, fun h => ⟨h, rfl, rfl⟩⟩

/-- An entry for port 4433 of a host. -/
def exampleEntry (last : UInt8) : Addrinfo := { loopback6 0x11 0x51 with
  aiAddr := [10, 0, 0x11, 0x51, 0, 0, 0, 0] ++ exampleHost last ++ [0, 0, 0, 0] }

/-- A resolver that knows a host which has got another address after the first
query. It answers all numeric queries alike. -/
def OS.drifting : OS := { OS.obliging with
  getaddrinfo := fun k q => .ok [
    if q.node = none then loopback6 0x11 0x51
    else exampleEntry (if k.lists.next = 1 then 1 else 2)]
  getaddrinfo_ne := by
    intro k q l h
    rw [← Except.ok.inj h]
    exact List.cons_ne_nil _ _
  getaddrinfo_err := by simp }

def oneAddrinfo : List AddrinfoOp := [.construct "" "4433" afInet6 sockStream 0 0]

/-- With a resolver that always answers the same, a copy shows the same. -/
theorem showsSame_iff_obliging : ∃ e rest e' rest',
    (addrinfoHistory .obliging oneAddrinfo).answer 0 = some (e :: rest) ∧
    ((copy 0).run (step .obliging) (addrinfoHistory .obliging oneAddrinfo)).2.answer 1 =
      some (e' :: rest') ∧
    (ShowsSame .obliging plainNtop (addrinfoHistory .obliging oneAddrinfo) 0
      ((copy 0).run (step .obliging) (addrinfoHistory .obliging oneAddrinfo)).2 1 ↔
        e'.sameAddress e) :=
  showsSame_iff plainNtop presentation_plainNtop .obliging oneAddrinfo 0 1 _ rfl (.copy .refl rfl)

def namedAddrinfo : List AddrinfoOp := [.construct "myhost" "4433" afInet6 sockStream 0 0]

/-- The copy of an object that shows 2001:db8::1 shows 2001:db8::2. -/
theorem copy_drifts : ¬ ∀ (os : OS) (ops : List AddrinfoOp) (a b : InfoId) (w' : World),
    ((addrinfoHistory os ops).infos a).isSome → Copies os (addrinfoHistory os ops) a w' b →
    ShowsSame os plainNtop (addrinfoHistory os ops) a w' b := by
  intro h
  have hcopy : Copies .drifting (addrinfoHistory .drifting namedAddrinfo) 0
      ((copy 0).run (step .drifting) (addrinfoHistory .drifting namedAddrinfo)).2 1 :=
    .copy .refl rfl
  have hsame := h .drifting namedAddrinfo 0 1 _ rfl hcopy
  have hanswer : (addrinfoHistory .drifting namedAddrinfo).answer 0 = some [exampleEntry 1] := rfl
  have hanswer' : ((copy 0).run (step .drifting)
    (addrinfoHistory .drifting namedAddrinfo)).2.answer 1 = some [exampleEntry 2] := rfl
  obtain ⟨i, hi⟩ := Option.isSome_iff_exists.mp
    (show ((addrinfoHistory .drifting namedAddrinfo).infos 0).isSome from rfl)
  obtain ⟨e, rest, e', rest', he, he', hiff⟩ :=
    hcopy.showsSame (infoInvariant_history .drifting namedAddrinfo) hi plainNtop
  obtain ⟨rfl, -⟩ : exampleEntry 1 = e ∧ [] = rest := by simpa [hanswer] using he
  obtain ⟨rfl, -⟩ : exampleEntry 2 = e' ∧ [] = rest' := by simpa [hanswer'] using he'
  have htext : hostText plainNtop (exampleEntry 2) = hostText plainNtop (exampleEntry 1) :=
    congrArg Shown.addrStr (hiff.mp hsame)
  exact absurd htext (by decide)

end ClientServerTcp
