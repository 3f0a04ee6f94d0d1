import ClientServerTcp.Addrinfo.Runs
import ClientServerTcp.Socket.Runs

/-! A process with objects of both classes. The operations on `CAddrinfo`
objects leave the sockets alone, so that the invariant of the sockets holds in
every state such a process can reach. -/
namespace ClientServerTcp
open Effects Program Memory

/-- `CSocket::bind(const CAddrinfo& ai)`. -/
def CSocket.bindTo (this : ObjId) (ai : InfoId) : Prog Unit := do
  CSocket.bind this (← CAddrinfo.arrow ai)

inductive ProcessOp where
  | socket (activity : Activity)
  | addrinfo (op : AddrinfoOp)
  | bindTo (this : ObjId) (ai : InfoId)

def ProcessOp.exec (os : OS) (w : World) : ProcessOp → World
  | .socket activity => activity.exec os w
  | .addrinfo op => op.exec os w
  | .bindTo this ai =>
    if (w.objs this).isSome ∧ (w.infos ai).isSome then
      ((CSocket.bindTo this ai).run (step os) w).2
    else
      w

def processHistory (os : OS) (ops : List ProcessOp) : World :=
  ops.foldl (ProcessOp.exec os) .initial

section
variable (os : OS) (w : World)

theorem CAddrinfo.wp_arrow (this : InfoId) :
    (arrow this).wp (step os) (fun _ w' => w' = w) (fun _ w' => w' = w) w := by
  simp only [arrow, entries, wp_bind', Sys.wp_loadInfo_mRes, Sys.wp_readRes]
  cases (w.kernel.lists ((w.infos this).getD {}).mRes).map AddrList.entries with
  | none => rfl
  | some list => cases list <;> rfl

theorem AddrinfoOp.exec_calm (op : AddrinfoOp) :
    (op.exec os w).objs = w.objs ∧ Kernel.Calm w.kernel (op.exec os w).kernel := by
  have hcreated : ∀ i : CAddrinfo, (CAddrinfo.created os w i).2.objs = w.objs ∧
      Kernel.Calm w.kernel (CAddrinfo.created os w i).2.kernel := by
    intro i
    unfold CAddrinfo.created
    split
    · exact ⟨rfl, .log _ _ _ _ rfl⟩
    · exact ⟨rfl, .log (w.kernel.setLists _) _ _ _ rfl⟩
  have hfreed : ∀ k : Kernel, ∀ res, Kernel.Calm k (k.freeaddrinfo res) :=
    fun k res => .log (k.setLists _) _ _ _ rfl
  unfold AddrinfoOp.exec
  split
  · rename_i hlive
    have hlive : ∀ a ∈ op.subjects, ∃ i, w.infos a = some i := by
      intro a ha
      exact Option.isSome_iff_exists.mp (List.all_eq_true.mp hlive a ha)
    cases op with
    | construct aNode aService aFamily aSocktype aFlags aProtocol =>
      rw [AddrinfoOp.program, state_run_drop, CAddrinfo.run_construct]
      exact hcreated _
    | copy that =>
      obtain ⟨s, hs⟩ := hlive that (by simp [AddrinfoOp.subjects])
      rw [AddrinfoOp.program, state_run_drop, CAddrinfo.run_copy os hs]
      exact hcreated _
    | copyAssign this source =>
      obtain ⟨t, ht⟩ := hlive this (by simp [AddrinfoOp.subjects])
      obtain ⟨s, hs⟩ := hlive source (by simp [AddrinfoOp.subjects])
      rw [AddrinfoOp.program, CAddrinfo.run_copyAssign os ht hs]
      split
      · exact ⟨rfl, .log _ _ _ _ rfl⟩
      · exact ⟨rfl, (Kernel.Calm.log (w.kernel.setLists _) _ _ _ rfl).trans (hfreed _ _)⟩
    | destruct this =>
      obtain ⟨t, ht⟩ := hlive this (by simp [AddrinfoOp.subjects])
      rw [AddrinfoOp.program, CAddrinfo.run_destruct os ht]
      exact ⟨rfl, hfreed _ _⟩
  · exact ⟨rfl, .refl _⟩

end

namespace Invariant

variable {os : OS} {w : World}

theorem bindTo (inv : Invariant w) {this : ObjId} {s : CSocket} (ai : InfoId)
    (hs : w.objs this = some s) :
    Invariant ((CSocket.bindTo this ai).run (step os) w).2 := by
  apply state_of_wp
  rw [CSocket.bindTo, wp_bind']
  apply wp_mono (CAddrinfo.wp_arrow os w ai)
  · rintro entry _ rfl
    exact inv.bind entry hs
  · rintro error _ rfl
    exact inv

theorem process (inv : Invariant w) (op : ProcessOp) : Invariant (op.exec os w) := by
  cases op with
  | socket activity => exact inv.activity activity
  | addrinfo op =>
    obtain ⟨hobjs, hcalm⟩ := op.exec_calm os w
    obtain ⟨hk, hstatus⟩ := hcalm.sound_status inv.sound
    have hkept := inv.kernel hk hstatus
    exact ⟨hk, hobjs ▸ hkept.tidy, hobjs ▸ hkept.exact⟩
  | bindTo this ai =>
    simp only [ProcessOp.exec]
    split
    · rename_i hlive
      obtain ⟨s, hs⟩ := Option.isSome_iff_exists.mp hlive.1
      exact inv.bindTo ai hs
    · exact inv

theorem processes (inv : Invariant w) (later : List ProcessOp) :
    Invariant (later.foldl (ProcessOp.exec os) w) := by
  induction later generalizing w with
  | nil => exact inv
  | cons op later ih => exact ih (inv.process op)

end Invariant
end ClientServerTcp
