import ClientServerTcp.Addrinfo.Layout
import ClientServerTcp.Process
import ClientServerTcp.Socket.Ownership
import ClientServerTcp.System.Effect

/-! The local address of a descriptor, from the `::bind` that has set it to the
`get_port()` of whatever object holds the descriptor later. -/
namespace ClientServerTcp
open Effects Program Memory

/-! ## What keeps a local address -/

def Event.relocates (fd : SOCKET) (e : Event) : Bool := e.closes fd || e.binds fd

namespace Kernel

/-- These sources have opened the descriptor and bound it to this address. -/
def LocatedAt (fd : SOCKET) (addr : Bytes) (k : Kernel) : Prop :=
  ∃ d, k.table fd = some d ∧ d.origin = .socket ∧ d.localAddr = some addr ∧
    boundSince fd k.trace = true

/-- The log has grown, and an address is lost only where the log says so. -/
def Keeps (fd : SOCKET) (addr : Bytes) (k k' : Kernel) : Prop :=
  ∃ newer, k'.trace = newer ++ k.trace ∧
    (k.LocatedAt fd addr → newer.any (Event.relocates fd) = false → k'.LocatedAt fd addr)

variable {fd : SOCKET} {addr : Bytes} {k k' k'' : Kernel}

theorem Keeps.refl (k : Kernel) : Keeps fd addr k k := ⟨[], rfl, fun h _ => h⟩

theorem Keeps.trans (h : Keeps fd addr k k') (h' : Keeps fd addr k' k'') : Keeps fd addr k k'' := by
  obtain ⟨newer, htrace, hkeeps⟩ := h
  obtain ⟨newer', htrace', hkeeps'⟩ := h'
  refine ⟨newer' ++ newer, by rw [htrace', htrace, List.append_assoc], ?_⟩
  intro hlocated hquiet
  rw [List.any_append, Bool.or_eq_false_iff] at hquiet
  exact hkeeps' (hkeeps hlocated hquiet.2) hquiet.1

private theorem Keeps.event (e : Event) (htrace : k'.trace = e :: k.trace)
    (hopens : k.LocatedAt fd addr → e.opens fd = false)
    (htable : ∀ d, k.table fd = some d → d.localAddr = some addr → e.relocates fd = false →
      ∃ d', k'.table fd = some d' ∧ d'.origin = d.origin ∧ d'.localAddr = some addr) :
    Keeps fd addr k k' := by
  refine ⟨[e], htrace, ?_⟩
  intro hlocated hquiet
  have hopens := hopens hlocated
  obtain ⟨d, hd, hsocket, haddr, hbound⟩ := hlocated
  obtain ⟨d', hd', horigin, haddr'⟩ := htable d hd haddr (by simpa using hquiet)
  refine ⟨d', hd', horigin.trans hsocket, haddr', ?_⟩
  rw [htrace, boundSince_cons, hopens, hbound]
  simp

theorem Effect.keeps (h : Effect k k') : Keeps fd addr k k' := by
  cases h with
  | same htable htrace =>
    refine ⟨[], htrace, ?_⟩
    intro hlocated _
    unfold LocatedAt
    rwa [htable, htrace]
  | quiet e he htable htrace =>
    apply Keeps.event e htrace fun _ => (he fd).1
    intro d hd haddr _
    exact ⟨d, by rw [htable, hd], rfl, haddr⟩
  | opened domain type protocol fd' d' hfree htable htrace =>
    have hne : ∀ d, k.table fd = some d → fd ≠ fd' := by
      rintro d hd rfl
      simp [hfree] at hd
    apply Keeps.event _ htrace
    · intro hlocated
      obtain ⟨d, hd, _⟩ := hlocated
      simpa [Event.opens] using (hne d hd).symm
    · intro d hd haddr _
      exact ⟨d, by rw [htable, Function.update_of_ne (hne d hd), hd], rfl, haddr⟩
  | accepted e he fd' d' hfree _ htable htrace =>
    apply Keeps.event e htrace fun _ => (he fd).1
    intro d hd haddr _
    have hne : fd ≠ fd' := by
      rintro rfl
      simp [hfree] at hd
    exact ⟨d, by rw [htable, Function.update_of_ne hne, hd], rfl, haddr⟩
  | tuned e he fd' d₁ d₂ hopen horigin haddr' _ htable htrace =>
    apply Keeps.event e htrace fun _ => (he fd).1
    intro d hd haddr _
    by_cases heq : fd = fd'
    · subst heq
      obtain rfl : d₁ = d := by simpa [hopen] using hd
      exact ⟨d₂, by rw [htable, Function.update_self], horigin, by rw [haddr', haddr]⟩
    · exact ⟨d, by rw [htable, Function.update_of_ne heq, hd], rfl, haddr⟩
  | bound fd' addr' addrlen d₁ localAddr hopen htable htrace =>
    apply Keeps.event _ htrace fun _ => rfl
    intro d hd haddr hquiet
    have hne : fd ≠ fd' := by
      rintro rfl
      simp [Event.relocates, Event.binds] at hquiet
    exact ⟨d, by rw [htable, Function.update_of_ne hne, hd], rfl, haddr⟩
  | listening fd' backlog d₁ ephemeral hopen htable htrace =>
    apply Keeps.event _ htrace fun _ => rfl
    intro d hd haddr _
    by_cases heq : fd = fd'
    · subst heq
      obtain rfl : d₁ = d := by simpa [hopen] using hd
      have hd' := congrFun htable fd
      rw [Function.update_self] at hd'
      exact ⟨_, hd', rfl, by simp [haddr]⟩
    · exact ⟨d, by rw [htable, Function.update_of_ne heq, hd], rfl, haddr⟩
  | closed fd' ret error htable htrace =>
    apply Keeps.event _ htrace fun _ => rfl
    intro d hd haddr hquiet
    have hne : fd ≠ fd' := by
      rintro rfl
      simp [Event.relocates, Event.closes] at hquiet
    exact ⟨d, by rw [htable, Function.update_of_ne hne, hd], rfl, haddr⟩

theorem foreign_keeps (fd' : SOCKET) (d' : Option Desc) : Keeps fd addr k (k.foreign fd' d') := by
  unfold Kernel.foreign
  split
  · rename_i h
    refine ⟨[], rfl, ?_⟩
    intro hlocated _
    obtain ⟨d, hd, hsocket, haddr, hbound⟩ := hlocated
    have hne : fd ≠ fd' := by
      rintro rfl
      simp [hd, hsocket] at h
    exact ⟨d, by rw [table_setDesc, Function.update_of_ne hne, hd], hsocket, haddr, hbound⟩
  · exact .refl k

end Kernel

section
variable (os : OS) (fd : SOCKET) (addr : Bytes)

theorem run_keeps_address {α : Type} (p : Prog α) (w : World) :
    Kernel.Keeps fd addr w.kernel (p.run (step os) w).2.kernel :=
  run_keeps_kernel os (P := Kernel.Keeps fd addr w.kernel) (fun _ _ h hk => hk.trans h.keeps) p w
    (.refl _)

theorem process_keeps_address (op : ProcessOp) (w : World) :
    Kernel.Keeps fd addr w.kernel (op.exec os w).kernel := by
  cases op with
  | socket activity =>
    cases activity with
    | socket op =>
      simp only [ProcessOp.exec, Activity.exec]
      split
      · exact run_keeps_address os fd addr _ w
      · exact .refl _
    | foreign fd' d => exact Kernel.foreign_keeps fd' d
  | addrinfo op =>
    simp only [ProcessOp.exec, AddrinfoOp.exec]
    split
    · exact run_keeps_address os fd addr _ w
    · exact .refl _
  | bindTo this ai =>
    simp only [ProcessOp.exec]
    split
    · exact run_keeps_address os fd addr _ w
    · exact .refl _

theorem processes_keep_address (later : List ProcessOp) (w : World) :
    Kernel.Keeps fd addr w.kernel (later.foldl (ProcessOp.exec os) w).kernel := by
  induction later generalizing w with
  | nil => exact .refl _
  | cons op later ih => exact (process_keeps_address os fd addr op w).trans (ih _)

end

/-! ## Reading the port -/

namespace CSocket

section
variable (os : OS) {w : World} {this : ObjId} {s : CSocket}

theorem run_isBind (hs : w.objs this = some s) (hvalid : s.mSfd ≠ invalidSocket) :
    (isBind this).run (step os) w = (.ok s.mBound, w) := by
  apply run_of_wp
  simp [isBind, hs, hvalid]

theorem run_isListen (hs : w.objs this = some s) (hvalid : s.mSfd ≠ invalidSocket) :
    (isListen this).run (step os) w = (.ok s.mListen, w) := by
  apply run_of_wp
  simp [isListen, hs, hvalid]

/-- The port of a bound object is that of the local address. -/
theorem run_getPort {d : Desc} {addr : Bytes} (hs : w.objs this = some s)
    (hvalid : s.mSfd ≠ invalidSocket) (hbound : s.mBound = true)
    (hd : w.kernel.table s.mSfd = some d) (haddr : d.localAddr = some addr)
    (hname : os.getsockname w.kernel s.mSfd = none) :
    (getPort this).run (step os) w = (.ok (ntohs (sin6Port addr)),
      w.withKernel (w.kernel.log (.getsockname s.mSfd) 0)) := by
  have hanswer : w.kernel.getsockname os s.mSfd =
      ((0, addr), w.kernel.log (.getsockname s.mSfd) 0) := by
    simp only [Kernel.getsockname, hd, hname, haddr, Option.getD_some]
  apply run_of_wp
  simp only [getPort, wp_bind', wp_ite, Sys.wp_load_mSfd, hs, Option.getD_some, hvalid, ↓reduceIte,
    wp_of_run _ (run_isBind os hs hvalid), hbound, Bool.not_true, Bool.false_eq_true,
    Sys.wp_getsockname, hanswer]
  simp

theorem run_getPort_unbound (hs : w.objs this = some s) (hbound : s.mBound = false) :
    (getPort this).run (step os) w =
      (.error (.thrown (if s.mSfd = invalidSocket then .msg1011 else .msg1012)), w) := by
  apply run_eq_of_wp
  by_cases hvalid : s.mSfd = invalidSocket
  · simp [getPort, hs, hvalid]
  · simp only [getPort, wp_bind', wp_ite, Sys.wp_load_mSfd, hs, Option.getD_some, hvalid,
      ↓reduceIte, wp_of_run _ (run_isBind os hs hvalid), hbound]
    simp

end
end CSocket

/-! ## The round trip -/

section
variable {os : OS} {w w' : World} {o : ObjId} {s : CSocket}

theorem Invariant.mBound_eq (inv : Invariant w) (hs : w.objs o = some s) :
    s.mBound = (decide (s.mSfd ≠ invalidSocket) && boundSince s.mSfd w.kernel.trace) := by
  by_cases hvalid : s.mSfd = invalidSocket
  · rw [inv.tidy o s hs hvalid]
    rfl
  · obtain ⟨d, _, _, hstatus⟩ := inv.sound.desc (inv.cached hs hvalid)
    have hbound : s.mBound = boundSince s.mSfd w.kernel.trace := congrArg Status.bound hstatus
    simp [hvalid, hbound]

theorem Invariant.located_of_bindTo (inv : Invariant w) {ai : InfoId} {entry : Addrinfo}
    (hs : w.objs o = some s) (harrow : (CAddrinfo.arrow ai).run (step os) w = (.ok entry, w))
    (hbind : (CSocket.bindTo o ai).run (step os) w = (.ok (), w')) :
    ∃ k : Kernel, w'.kernel.LocatedAt s.mSfd
      (k.assigned os s.mSfd (entry.aiAddr.take entry.aiAddrlen)) := by
  have hwp : (CSocket.bindTo o ai).wp (step os)
      (fun _ w' => ∃ s' k, CSocket.Bound os w.kernel s entry (.ok s') k ∧
        w' = { w with kernel := k, objs := w.objs.set o s' }) (fun _ _ => True) w := by
    rw [CSocket.bindTo, wp_bind', wp_of_run _ harrow]
    exact wp_mono (CSocket.wp_bind os entry hs) (fun _ _ h => h) (fun _ _ _ => trivial)
  have hexits := exits_run (step os) hwp
  rw [hbind] at hexits
  obtain ⟨s', k, hspec, rfl⟩ := hexits
  cases hspec with
  | bound d hopen hmatch =>
    obtain ⟨d', hd', hsocket, _⟩ :=
      inv.sound.desc (inv.cached hs (inv.valid_of_open hopen))
    obtain rfl : d = d' := by simpa [hopen] using hd'
    exact ⟨_, _, Function.update_self .., hsocket, rfl,
      by simp [boundSince_cons, Event.opens, Event.binds]⟩

end

/-- The port of an address that was bound is the port of the object that holds
the descriptor, whatever the process does as long as the descriptor is neither
closed nor bound again. No object that is not bound has a port. -/
theorem bound_port_round_trip (os : OS) (before later : List ProcessOp) {o : ObjId} {ai : InfoId}
    {s : CSocket} {entry : Addrinfo} {addr : Sockaddr} {port : UInt16} {w w₁ w₂ : World}
    {newer : List Event} (hbefore : w = processHistory os before) (hs : w.objs o = some s)
    (harrow : (CAddrinfo.arrow ai).run (step os) w = (.ok entry, w)) (hlayout : entry.Carries addr)
    (hport : (CAddrinfo.port ai).run (step os) w = (.ok port, w)) (hne : port ≠ 0)
    (hbind : (CSocket.bindTo o ai).run (step os) w = (.ok (), w₁))
    (hlater : w₂ = later.foldl (ProcessOp.exec os) w₁)
    (hnewer : w₂.kernel.trace = newer ++ w₁.kernel.trace)
    (hkept : newer.any (Event.relocates s.mSfd) = false)
    (hname : os.getsockname w₂.kernel s.mSfd = none) :
    (∃ o' s', w₂.objs o' = some s' ∧ s'.mSfd = s.mSfd) ∧
    (∀ o' s', w₂.objs o' = some s' → s'.mSfd = s.mSfd →
      ((CSocket.getPort o').run (step os) w₂).1 = .ok port) ∧
    (∀ o' s', w₂.objs o' = some s' →
      s'.mSfd = invalidSocket ∨ boundSince s'.mSfd w₂.kernel.trace = false →
      Throws os (CSocket.getPort o') w₂) ∧ port = addr.port := by
  have inv : Invariant w := by
    rw [hbefore]
    exact Invariant.initial.processes before
  have inv₁ : Invariant w₁ := by
    have hkeeps : Invariant ((CSocket.bindTo o ai).run (step os) w).2 := inv.bindTo ai hs
    rwa [hbind] at hkeeps
  have inv₂ : Invariant w₂ := by
    rw [hlater]
    exact inv₁.processes later
  have hread : port = addr.port := by
    rw [run_port os harrow, hlayout.addr, addr.ntohs_sin6Port] at hport
    exact (Except.ok.inj (congrArg Prod.fst hport)).symm
  have hlocated : w₂.kernel.LocatedAt s.mSfd addr.bytes := by
    obtain ⟨k, hlocated⟩ := inv.located_of_bindTo hs harrow hbind
    rw [hlayout.assigned (hread ▸ hne)] at hlocated
    obtain ⟨newer', htrace, hkeeps⟩ := processes_keep_address os s.mSfd addr.bytes later w₁
    rw [← hlater] at htrace hkeeps
    obtain rfl : newer = newer' := List.append_cancel_right (hnewer.symm.trans htrace)
    exact hkeeps hlocated hkept
  obtain ⟨d, hd, hsocket, haddr, hbound⟩ := hlocated
  refine ⟨?_, ?_, ?_, hread⟩
  · obtain ⟨o', x, hholds⟩ := (inv₂.exact.exists_iff s.mSfd).mp
      ((inv₂.sound.status_isSome s.mSfd).mpr ⟨d, hd, hsocket⟩)
    obtain ⟨s', hs', _, hsfd, _⟩ := holds_eq_some.mp hholds
    exact ⟨o', s', hs', hsfd⟩
  · intro o' s' hs' hsfd
    have hvalid : s'.mSfd ≠ invalidSocket := by
      rw [hsfd]
      exact inv₂.valid_of_open hd
    have hcached : s'.mBound = true := by
      rw [inv₂.mBound_eq hs', hsfd, hbound]
      simpa [hsfd] using hvalid
    rw [← hsfd] at hd hname
    rw [CSocket.run_getPort os hs' hvalid hcached hd haddr hname, addr.ntohs_sin6Port, hread]
  · intro o' s' hs' hunbound
    have hcached : s'.mBound = false := by
      rw [inv₂.mBound_eq hs']
      rcases hunbound with hinvalid | hunbound
      · simp [hinvalid]
      · simp [hunbound]
    refine ⟨if s'.mSfd = invalidSocket then .msg1011 else .msg1012, ?_⟩
    rw [CSocket.run_getPort_unbound os hs' hcached]

/-- A socket is bound to ::1 and port 4433, moved, set to listen, asked in vain
to bind to another address, and moved again. -/
theorem moved_socket_keeps_port :
    let w := processHistory .obliging [
      .addrinfo (.construct "" "4433" afInet6 sockStream 0 0),
      .socket (.socket (.construct afInet6 sockStream 0))]
    let w₁ := ((CSocket.bindTo 0 0).run (step .obliging) w).2
    let w₂ := [.socket (.socket (.moveConstruct 0)), .socket (.socket (.listen 1)),
      .socket (.socket (.bind 1 {})), .socket (.socket (.construct 0 0 0)),
      .socket (.socket (.moveAssign 2 1)), .socket (.socket (.getter 2 .getPort))].foldl
      (ProcessOp.exec .obliging) w₁
    ((CSocket.getPort 2).run (step .obliging) w₂).1 = .ok 4433 ∧
      Throws .obliging (CSocket.getPort 0) w₂ := by
  intro w w₁ w₂
  have hobject : w₂.objs 2 =
      some { mSfd := 3, mAf := afInet6, mBound := true, mListen := true } := by decide +kernel
  have hmoved : w₂.objs 0 = some {} := by decide +kernel
  have h := @bound_port_round_trip .obliging _ _ 0 0 { mSfd := 3, mAf := afInet6 }
    (loopback6 0x11 0x51)
    (.inet6 4433 (.replicate 4 0) ((Vector.replicate 15 0).push 1) (.replicate 4 0)) 4433 w w₁ w₂
    (w₂.kernel.trace.take 4) rfl rfl rfl ⟨rfl, rfl, rfl⟩ rfl (by decide) rfl rfl
    (by decide +kernel) (by decide +kernel) rfl
  exact ⟨h.2.1 2 _ hobject rfl, h.2.2.1 0 _ hmoved (.inl rfl)⟩

end ClientServerTcp
