import ClientServerTcp.Socket.Race

/-! Every interleaving of a setter with a move construction, and when it ends
as if one had run after the other. -/
namespace ClientServerTcp
open Effects Program CSocket Memory

/-- A thread that moves an object, and what it shares with the other thread. -/
abbrev Threads := Beside Op.Res Exn ObjId World (ObjId × Mutex)

/-- The move as the thread that sets the state has to reckon with it. -/
def race (os : OS) (setter : Setter) (o : ObjId) (fd : SOCKET) :
    Race Op.Res World (Heap CSocket) where
  handler := step os
  memory := memory
  view := World.objs
  visible op := op.inMemory = true
  sees := step_memory os
  inv := Owns o fd
  change objs := objs.modify o setter.set
  load := setter.load o
  reset := setter.store o false
  mark := setter.store o true

/-- One thread sets the state of an object that another thread moves. -/
def Interleaves (os : OS) (setter : Setter) (o : ObjId) (w : World) (p : Prog Unit)
    (t : Threads) : Prop :=
  Reaches (Beside.leftStep (step os) mutexes) (Beside.RightStep (step os) mutexes)
    (setter.program o, .start (moveConstruct o) w) (p, t)

namespace Setter

def Accepts (os : OS) (k : Kernel) (fd : SOCKET) (d : Desc) : Setter → Prop
  | bind ai => os.getsockopt k fd solSocket soType = none ∧ ai.aiSocktype = d.sockType ∧
    os.bind (k.log (.getsockopt fd solSocket soType) 0) fd ai.aiAddr ai.aiAddrlen = none
  | listen => os.listen k fd 1 = none

def afterwards (os : OS) (k : Kernel) (fd : SOCKET) (d : Desc) (setter : Setter) : Kernel :=
  match setter with
  | bind ai => ((k.log (.getsockopt fd solSocket soType) 0).setDesc fd
      (some (setter.effect os k fd d))).log (.bind fd ai.aiAddr ai.aiAddrlen) 0
  | listen => (k.setDesc fd (some (setter.effect os k fd d))).log (.listen fd 1) 0

variable {os : OS} {setter : Setter} {o : ObjId} {w : World} {s : CSocket} {d : Desc}

theorem table_afterwards (k : Kernel) (fd : SOCKET) :
    (setter.afterwards os k fd d).table fd = some (setter.effect os k fd d) := by
  cases setter <;> exact Function.update_self ..

theorem run_accepted (hs : w.objs o = some s) (hopen : w.kernel.table s.mSfd = some d)
    (haccepts : setter.Accepts os w.kernel s.mSfd d) :
    (setter.program o).run (step os) w = (.ok (), { w with
      kernel := setter.afterwards os w.kernel s.mSfd d, objs := w.objs.set o (setter.set s) }) := by
  apply run_of_wp
  cases setter with
  | bind ai =>
    obtain ⟨hget, htype, hbind⟩ := haccepts
    have hvalue : w.kernel.optionValue os s.mSfd d solSocket soType = d.sockType := by
      simp [Kernel.optionValue]
    have hopen' : (w.kernel.log (.getsockopt s.mSfd solSocket soType) 0).table s.mSfd = some d :=
      hopen
    simp only [program, CSocket.bind, wp_ite, wp_bind', Sys.wp_load_mSfd, Sys.wp_getsockopt,
      wp_scopedLock, Sys.wp_bind, Sys.wp_store, World.kernel_withKernel, World.objs_withKernel,
      World.withKernel_withKernel, Heap.modify_eq_set _ hs, hs, Option.getD_some, Kernel.getsockopt,
      Kernel.bind, hopen, hget, hvalue, Kernel.attempt_open hopen', hbind]
    rw [if_neg (by decide : ¬(0 : Int) = socketError), if_neg (not_not.mpr htype),
      if_neg (by decide : ¬(0 : Int) = socketError)]
    exact ⟨trivial, rfl⟩
  | listen =>
    simp only [program, CSocket.listen, wp_ite, wp_bind', Sys.wp_load_mSfd, wp_scopedLock,
      Sys.wp_listen, Sys.wp_store, World.objs_withKernel, Heap.modify_eq_set _ hs, hs,
      Option.getD_some, Kernel.listen, Kernel.attempt_open hopen,
      show os.listen w.kernel s.mSfd 1 = none from haccepts]
    exact ⟨trivial, rfl⟩

end Setter

/-! ## The thread that sets the state -/

section
variable (os : OS) (setter : Setter) (o : ObjId) (w : World) (s : CSocket)

private structure Setting (k : Kernel) (t : Threads) : Prop where
  unmarked : (race os setter o s.mSfd).Unmarked (moveConstruct o) w.objs t
  kernel : t.state.kernel = k

private structure SetDone (t : Threads) : Prop where
  marked : (race os setter o s.mSfd).Marked (moveConstruct o) w.objs t
  accepted : ∃ d, w.kernel.table s.mSfd = some d ∧ setter.Accepts os w.kernel s.mSfd d ∧
    t.state.kernel = setter.afterwards os w.kernel s.mSfd d

private def Fails (t : Threads) : Prop :=
  ∃ k, k.table = w.kernel.table ∧ Setting os setter o w s k t

private abbrev SetterEnds (p : Prog Unit) (t : Threads) : Prop :=
  p.always (Beside.leftStep (step os) mutexes) (Beside.RightStep (step os) mutexes)
    (fun _ _ => True) (fun _ => SetDone os setter o w s) (fun _ => Fails os setter o w s) t

variable {os setter o w s} {k : Kernel} {t t' : Threads}

private theorem kernel_rightStep (hvisible : t.right.All fun op => op.inMemory = true)
    (hstep : Beside.RightStep (step os) mutexes t t') : t'.state.kernel = t.state.kernel := by
  cases hstep with
  | mk op next t hright hfree =>
    rw [hright] at hvisible
    exact kernel_inMemory os op _ hvisible.1

private theorem Setting.right (h : Setting os setter o w s k t)
    (hstep : Beside.RightStep (step os) mutexes t t') : Setting os setter o w s k t' :=
  ⟨h.unmarked.right hstep, (kernel_rightStep h.unmarked.visible hstep).trans h.kernel⟩

private theorem SetDone.right (h : SetDone os setter o w s t)
    (hstep : Beside.RightStep (step os) mutexes t t') : SetDone os setter o w s t' := by
  refine ⟨h.marked.right hstep, ?_⟩
  rw [kernel_rightStep h.marked.visible hstep]
  exact h.accepted

private theorem Fails.right (h : Fails os setter o w s t)
    (hstep : Beside.RightStep (step os) mutexes t t') : Fails os setter o w s t' := by
  obtain ⟨k, htable, hk⟩ := h
  exact ⟨k, htable, hk.right hstep⟩

private theorem Setting.left (h : Setting os setter o w s k t) {op : Op}
    (hne : op ≠ setter.store o true) (hobjs : (step os op t.state).2.objs = t.state.objs) :
    Setting os setter o w s (step os op t.state).2.kernel (t.after (step os) mutexes .left op) :=
  ⟨h.unmarked.left hne hobjs, rfl⟩

private theorem Setting.syscall (h : Setting os setter o w s k t) (op : Op)
    (F : Kernel → op.Res × Kernel) {f : op.Res → Prog Unit}
    (hF : ∀ u, step os op u = u.syscall (F u.kernel)) (hne : op ≠ setter.store o true)
    (hnext : ∀ t, Setting os setter o w s (F k).2 t → SetterEnds os setter o w s (f (F k).1) t) :
    SetterEnds os setter o w s (Sys.call op >>= f) t := by
  apply always_perform (P := Setting os setter o w s k) Setting.right h (fun _ _ => trivial)
  intro t answer u ht hstep
  obtain ⟨_, rfl, rfl⟩ := hstep
  have hleft := ht.left hne (by rw [hF]; rfl)
  rw [hF, ht.kernel] at hleft ⊢
  exact hnext _ hleft

private theorem Setting.load {f : SOCKET → Prog Unit} (h : Setting os setter o w s k t)
    (hnext : ∀ t fd, fd = s.mSfd ∨ fd = invalidSocket → Setting os setter o w s k t →
      SetterEnds os setter o w s (f fd) t) :
    SetterEnds os setter o w s (Sys.load o .mSfd >>= f) t := by
  apply always_perform (P := Setting os setter o w s k) Setting.right h (fun _ _ => trivial)
  intro t answer u ht hstep
  obtain ⟨_, rfl, rfl⟩ := hstep
  have hne : Op.load o .mSfd ≠ setter.store o true := Setter.ne_store (by simp)
  have hleft := ht.left hne rfl
  have hkernel : (step os (.load o .mSfd) t.state).2.kernel = k := ht.kernel
  rw [hkernel] at hleft
  apply hnext _ _ _ hleft
  obtain ⟨s', hs', hown⟩ := ht.unmarked.inv
  have hs'' : t.state.objs o = some s' := hs'
  simp only [step, hs'', Option.getD_some]
  exact hown

private theorem Setting.throws (h : Setting os setter o w s k t) (hk : k.table = w.kernel.table)
    (errmsg : Errmsg) : SetterEnds os setter o w s (throw_error errmsg) t := by
  apply h.syscall .errno Kernel.readErrno (fun _ => rfl) (Setter.ne_store (by simp))
  intro t ht
  exact fun u htu => stable_env (Fails os setter o w s) Fails.right ⟨k.readErrno.2, hk, ht⟩ htu

private theorem Setting.store (h : Setting os setter o w s k t) {d : Desc}
    (hopen : w.kernel.table s.mSfd = some d) (haccepts : setter.Accepts os w.kernel s.mSfd d)
    (hk : k = setter.afterwards os w.kernel s.mSfd d) :
    SetDone os setter o w s (t.after (step os) mutexes .left (setter.store o true)) := by
  constructor
  · apply h.unmarked.mark
    cases setter <;> rfl
  · refine ⟨d, hopen, haccepts, ?_⟩
    rw [← hk, ← h.kernel]
    cases setter <;> rfl

private theorem always_unlock {m : Mutex} {P : Threads → Prop}
    (hright : ∀ {t t'}, P t → Beside.RightStep (step os) mutexes t t' → P t')
    (hleft : ∀ t, P t → P (t.after (step os) mutexes .left (.unlock o m))) (ht : P t) :
    (Sys.unlock o m).always (Beside.leftStep (step os) mutexes)
      (Beside.RightStep (step os) mutexes) (fun _ _ => True) (fun _ => P)
      (fun _ => Fails os setter o w s) t := by
  intro u htu
  refine ⟨trivial, ?_⟩
  intro answer v hstep
  obtain ⟨_, rfl, rfl⟩ := hstep
  exact always_pure hright (hleft u (stable_env P hright ht htu))

private theorem Setting.scopedLock {m : Mutex} {body : Prog Unit}
    (h : Setting os setter o w s k t)
    (hbody : ∀ t, Setting os setter o w s k t → SetterEnds os setter o w s body t) :
    SetterEnds os setter o w s (scopedLock o m body) t := by
  have hne : Op.unlock o m ≠ setter.store o true := Setter.ne_store (by simp)
  show SetterEnds os setter o w s (Sys.call (.lock o m) >>= fun _ => body.onExit (Sys.unlock o m)) t
  apply h.syscall (.lock o m) (fun k => ((), k)) (fun _ => rfl) (Setter.ne_store (by simp))
  intro t ht
  apply always_onExit
  apply always_mono (hbody t ht)
  · intro _ t hdone
    apply always_unlock SetDone.right _ hdone
    intro t hdone
    exact ⟨hdone.marked.left hne rfl, hdone.accepted⟩
  · intro _ t hfails
    apply always_unlock Fails.right _ hfails
    rintro t ⟨k, hk, ht⟩
    exact ⟨_, (congrArg Kernel.table ht.kernel).trans hk, ht.left hne rfl⟩

private theorem Setting.succeeds (h : Setting os setter o w s k t) {d : Desc}
    (hopen : w.kernel.table s.mSfd = some d) (haccepts : setter.Accepts os w.kernel s.mSfd d)
    (hk : k = setter.afterwards os w.kernel s.mSfd d) :
    (Program.perform (setter.store o true) : Prog (setter.store o true).Res).always
      (Beside.leftStep (step os) mutexes) (Beside.RightStep (step os) mutexes)
      (fun _ _ => True) (fun _ => SetDone os setter o w s) (fun _ => Fails os setter o w s) t := by
  intro u htu
  refine ⟨trivial, ?_⟩
  intro answer v hstep
  obtain ⟨_, rfl, rfl⟩ := hstep
  have hu := stable_env (Setting os setter o w s k) Setting.right h htu
  exact always_pure SetDone.right (hu.store hopen haccepts hk)

private theorem own_of_open (hinvalid : w.kernel.table invalidSocket = none) {fd : SOCKET}
    {d : Desc} (hfd : fd = s.mSfd ∨ fd = invalidSocket) (hopen : w.kernel.table fd = some d) :
    fd = s.mSfd := by
  rcases hfd with rfl | rfl
  · rfl
  · simp [hinvalid] at hopen

private theorem ends_listen (hinvalid : w.kernel.table invalidSocket = none)
    (h : Setting os .listen o w s w.kernel t) :
    SetterEnds os .listen o w s (CSocket.listen o) t := by
  apply h.scopedLock
  intro t h
  apply h.load
  intro t fd hfd h
  apply h.syscall (.listen fd 1) (fun k => k.listen os fd 1) (fun _ => rfl)
  · simp [Setter.store]
  intro t h
  rcases w.kernel.listen_cases os fd 1 with ⟨error, hret⟩ | ⟨d, hopen, haccepts, hret⟩
  · rw [hret] at h
    simp only [hret]
    exact h.throws rfl _
  · obtain rfl := own_of_open hinvalid hfd hopen
    rw [hret] at h
    simp only [hret]
    exact h.succeeds hopen haccepts rfl

private theorem ends_bind {ai : Addrinfo} (hinvalid : w.kernel.table invalidSocket = none)
    (h : Setting os (.bind ai) o w s w.kernel t) :
    SetterEnds os (.bind ai) o w s (CSocket.bind o ai) t := by
  apply h.load
  intro t fd hfd h
  apply h.syscall (.getsockopt fd solSocket soType)
    (fun k => k.getsockopt os fd solSocket soType) (fun _ => rfl)
  · simp [Setter.store]
  intro t h
  rcases w.kernel.getsockopt_cases os fd solSocket soType with
    ⟨error, hret⟩ | ⟨d, hopen, hget, hret⟩
  · rw [hret] at h
    simp only [hret]
    exact h.throws rfl _
  obtain rfl := own_of_open hinvalid hfd hopen
  have hvalue : w.kernel.optionValue os s.mSfd d solSocket soType = d.sockType := by
    simp [Kernel.optionValue]
  rw [hvalue] at hret
  rw [hret] at h
  simp only [hret]
  rw [if_neg (by decide : ¬(0 : Int) = socketError)]
  set k := w.kernel.log (.getsockopt s.mSfd solSocket soType) 0 with hk
  by_cases htype : ai.aiSocktype ≠ d.sockType
  · rw [if_pos htype]
    exact fun u htu => stable_env (Fails os (.bind ai) o w s) Fails.right ⟨k, rfl, h⟩ htu
  rw [if_neg htype]
  apply h.scopedLock
  intro t h
  apply h.load
  intro t fd hfd h
  apply h.syscall (.bind fd ai.aiAddr ai.aiAddrlen)
    (fun k => k.bind os fd ai.aiAddr ai.aiAddrlen) (fun _ => rfl)
  · simp [Setter.store]
  intro t h
  rcases k.bind_cases os fd ai.aiAddr ai.aiAddrlen with ⟨error, hret⟩ | ⟨d', hopen', hbind, hret⟩
  · rw [hret] at h
    simp only [hret]
    exact h.throws rfl _
  · obtain rfl := own_of_open hinvalid hfd hopen'
    obtain rfl : d = d' := Option.some.inj (hopen.symm.trans hopen')
    rw [hret] at h
    simp only [hret]
    exact h.succeeds hopen ⟨hget, not_not.mp htype, hbind⟩ rfl

theorem ends_program (hinvalid : w.kernel.table invalidSocket = none)
    (h : Setting os setter o w s w.kernel t) :
    SetterEnds os setter o w s (setter.program o) t := by
  cases setter with
  | bind ai => exact ends_bind hinvalid h
  | listen => exact ends_listen hinvalid h

end

/-! ## One after the other -/

/-- Both objects and the descriptor are in the same states. -/
def SameEnd (o n : ObjId) (fd : SOCKET) (u v : World) : Prop :=
  u.objs o = v.objs o ∧ u.objs n = v.objs n ∧ u.kernel.table fd = v.kernel.table fd

def setThenMove (os : OS) (setter : Setter) (o : ObjId) (w : World) : World :=
  ((moveConstruct o).run (step os) ((setter.program o).run (step os) w).2).2

def moveThenSet (os : OS) (setter : Setter) (o : ObjId) (w : World) : World :=
  ((setter.program o).run (step os) ((moveConstruct o).run (step os) w).2).2

/-- The world is as if one of the threads had run after the other. -/
def Serial (os : OS) (setter : Setter) (o : ObjId) (w : World) (s : CSocket) (u : World) : Prop :=
  SameEnd o w.objs.next s.mSfd u (setThenMove os setter o w) ∨
    SameEnd o w.objs.next s.mSfd u (moveThenSet os setter o w)

/-- The flag is not stored after the other thread has read it. It may be stored
between that and the reset, if it was set before or the descriptor stays as it
was. -/
def Timely (os : OS) (setter : Setter) (o : ObjId) (w : World) (s : CSocket)
    (log : List (Side × Op)) : Prop :=
  Precedes (.right, setter.load o) (.left, setter.store o true) log →
    ¬Precedes (.right, setter.store o false) (.left, setter.store o true) log ∧
    (setter.isSet s = true ∨ ∃ d, w.kernel.table s.mSfd = some d ∧
      setter.effect os w.kernel s.mSfd d = d)

section
variable {os : OS} {setter : Setter} {o : ObjId} {w : World} {s : CSocket} {d : Desc}

private abbrev moved (w : World) (o : ObjId) (s : CSocket) : Heap CSocket :=
  (w.objs.set o {}).alloc s

private theorem moved_old (hs : w.objs o = some s) (s' : CSocket) : moved w o s' o = some {} :=
  Heap.alloc_of (Heap.set_at hs)

private theorem moved_new (s' : CSocket) : moved w o s' w.objs.next = some s' := Heap.alloc_next

theorem run_memory_moveConstruct (hs : w.objs o = some s) :
    ((moveConstruct o).run memory w.objs).2 = moved w o s := by
  rw [run_memory .obliging _ (inMemory_moveConstruct o), run_moveConstruct _ hs]
  rfl

theorem run_memory_changed (hs : w.objs o = some s) :
    ((moveConstruct o).run memory (w.objs.modify o setter.set)).2 = moved w o (setter.set s) := by
  have hset : (w.withObjs (w.objs.set o (setter.set s))).objs o = some (setter.set s) :=
    Heap.set_at hs
  rw [Heap.modify_eq_set _ hs]
  exact (run_memory_moveConstruct hset).trans (by simp [moved])

theorem setThenMove_accepted (hs : w.objs o = some s) (hopen : w.kernel.table s.mSfd = some d)
    (haccepts : setter.Accepts os w.kernel s.mSfd d) :
    (setThenMove os setter o w).objs = moved w o (setter.set s) ∧
    (setThenMove os setter o w).kernel.table s.mSfd =
      some (setter.effect os w.kernel s.mSfd d) := by
  unfold setThenMove
  rw [Setter.run_accepted hs hopen haccepts, run_moveConstruct os (s := setter.set s)]
  · constructor
    · simp [moved]
    · exact setter.table_afterwards w.kernel s.mSfd
  · exact Heap.set_at hs

variable (os setter) in
/-- A setter has no effect on an object without a descriptor. -/
theorem moveThenSet_eq (hs : w.objs o = some s) (hinvalid : w.kernel.table invalidSocket = none) :
    (moveThenSet os setter o w).objs = moved w o s ∧
    (moveThenSet os setter o w).kernel.table = w.kernel.table := by
  have hempty : (w.withObjs (moved w o s)).objs o = some {} := moved_old hs s
  unfold moveThenSet
  rw [run_moveConstruct os hs]
  refine state_of_wp (step os) (P := fun u => u.objs = moved w o s ∧
    u.kernel.table = w.kernel.table) ?_
  cases setter with
  | bind ai =>
    apply wp_mono (wp_bind os ai hempty)
    · rintro _ _ ⟨s', k, hspec, _⟩
      cases hspec with
      | bound d hopen hmatch => exact absurd (hinvalid.symm.trans hopen) (by simp)
    · rintro _ _ ⟨error, k, _, hspec, rfl⟩
      cases hspec <;> exact ⟨rfl, rfl⟩
  | listen =>
    apply wp_mono (wp_listen os hempty)
    · rintro _ _ ⟨s', k, hspec, _⟩
      cases hspec with
      | listening d hopen => exact absurd (hinvalid.symm.trans hopen) (by simp)
    · rintro _ _ ⟨error, k, _, hspec, rfl⟩
      cases hspec with
      | refused error => exact ⟨rfl, rfl⟩

private theorem serial_iff_of_accepted (hs : w.objs o = some s)
    (hinvalid : w.kernel.table invalidSocket = none) (hopen : w.kernel.table s.mSfd = some d)
    (haccepts : setter.Accepts os w.kernel s.mSfd d) {u : World}
    (hu : u.kernel.table s.mSfd = some (setter.effect os w.kernel s.mSfd d)) :
    Serial os setter o w s u ↔ u.objs o = some {} ∧ (u.objs w.objs.next = some (setter.set s) ∨
      (u.objs w.objs.next = some s ∧ setter.effect os w.kernel s.mSfd d = d)) := by
  obtain ⟨hfirst, hfirstTable⟩ := setThenMove_accepted hs hopen haccepts
  obtain ⟨hsecond, hsecondTable⟩ := moveThenSet_eq os setter hs hinvalid
  unfold Serial SameEnd
  rw [hfirst, hfirstTable, hsecond, hsecondTable, moved_old hs, moved_old hs, moved_new, moved_new,
    hu, hopen]
  simp only [Option.some_inj, and_true, and_or_left]

private theorem SetDone.serial_iff (hs : w.objs o = some s)
    (hinvalid : w.kernel.table invalidSocket = none) {t : Threads}
    (h : SetDone os setter o w s t) (hended : t.right.ended = true) :
    Serial os setter o w s t.state ↔ Timely os setter o w s t.log := by
  obtain ⟨⟨_, hearly, hbetween, hlate⟩, d, hopen, haccepts, hkernel⟩ := h
  have houtcome : (race os setter o s.mSfd).outcome t = t.state.objs := state_run_ended _ hended _
  have hunchanged : ((moveConstruct o).run (race os setter o s.mSfd).memory w.objs).2 =
      moved w o s := run_memory_moveConstruct hs
  have hchanged : ((moveConstruct o).run (race os setter o s.mSfd).memory
      ((race os setter o s.mSfd).change w.objs)).2 = moved w o (setter.set s) :=
    run_memory_changed hs
  have htable : t.state.kernel.table s.mSfd = some (setter.effect os w.kernel s.mSfd d) := by
    rw [hkernel]
    exact setter.table_afterwards w.kernel s.mSfd
  rw [houtcome, hchanged] at hearly
  rw [houtcome, hunchanged] at hbetween hlate
  rw [serial_iff_of_accepted hs hinvalid hopen haccepts htable]
  unfold Timely
  by_cases hload : Precedes (.right, setter.load o) (.left, setter.store o true) t.log
  · by_cases hreset : Precedes (.right, setter.store o false) (.left, setter.store o true) t.log
    -- The flag of the empty object is set.
    · have hflag : t.state.objs o = some (setter.set {}) := by
        rw [hlate hload hreset]
        show (moved w o s).modify o setter.set o = _
        rw [Heap.modify_eq_set _ (moved_old hs s), Heap.set_at (moved_old hs s)]
      have hne : setter.set {} ≠ {} := by
        rw [Ne, Setter.set_eq_self_iff]
        cases setter <;> simp [Setter.isSet]
      simp [hflag, hne, hload, hreset]
    -- The flag is lost.
    · rw [hbetween hload hreset, moved_old hs, moved_new]
      simp only [hload, hreset, hopen, Option.some_inj, eq_comm (a := s), Setter.set_eq_self_iff]
      simp
  · rw [hearly hload, moved_old hs, moved_new]
    simp [hload]

private theorem Fails.serial_and_timely (hs : w.objs o = some s)
    (hinvalid : w.kernel.table invalidSocket = none) {t : Threads}
    (h : Fails os setter o w s t) (hended : t.right.ended = true) :
    Serial os setter o w s t.state ∧ Timely os setter o w s t.log := by
  obtain ⟨k, hk, hun, hkernel⟩ := h
  have hobjs : t.state.objs = moved w o s :=
    (state_run_ended memory hended _).symm.trans (hun.outcome.trans (run_memory_moveConstruct hs))
  obtain ⟨hsecond, hsecondTable⟩ := moveThenSet_eq os setter hs hinvalid
  constructor
  · refine .inr ⟨?_, ?_, ?_⟩
    · rw [hobjs, hsecond]
    · rw [hobjs, hsecond]
    · rw [hkernel, hk, hsecondTable]
  · intro hload
    exact absurd hload (not_precedes hun.unmarked)

end

/-! ## The result -/

/-- For every live object of every reachable state, and every interleaving of a
setter with a move construction, also that of the parameter of `operator=`. -/
theorem setting_and_moving_serialise_iff (os : OS) (activities : List Activity) (setter : Setter)
    (o : ObjId) (s : CSocket) (hs : (history os activities).objs o = some s) (p : Prog Unit)
    (t : Threads) (hreach : Interleaves os setter o (history os activities) p t)
    (hset : p.ended = true) (hmoved : t.right.ended = true) :
    Serial os setter o (history os activities) s t.state ↔
      Timely os setter o (history os activities) s t.log := by
  have hinvalid := (invariant_history os activities).sound.invalid
  have hstart : Setting os setter o (history os activities) s (history os activities).kernel
      (.start (moveConstruct o) (history os activities)) := by
    refine ⟨?_, rfl⟩
    apply Race.unmarked_start (r := race os setter o s.mSfd) (inMemory_moveConstruct o)
    · exact ⟨s, hs, .inl rfl⟩
    · exact takesOver_moveConstruct setter o s.mSfd
  have hend := always_reaches (ends_program hinvalid hstart) hreach
  cases p with
  | done value => exact (hend t .refl).serial_iff hs hinvalid hmoved
  | raise error =>
    obtain ⟨hserial, htimely⟩ := (hend t .refl).serial_and_timely hs hinvalid hmoved
    exact iff_of_true hserial htimely
  | call op next => simp [Program.ended] at hset

/-- The flag is stored when the descriptor has been taken over and the flag has
not, and the new object gets both. -/
theorem flag_follows_descriptor : ∃ p t,
    Interleaves .obliging .listen 0 (history .obliging [.socket (.construct afInet6 sockStream 0)])
      p t ∧
    Precedes (.right, .store 0 .mSfd invalidSocket) (.left, .store 0 .mListen true) t.log ∧
    Serial .obliging .listen 0 (history .obliging [.socket (.construct afInet6 sockStream 0)])
      { mSfd := 3, mAf := afInet6 } t.state := by
  have hrun : (Beside.follow (step .obliging) mutexes
      (.replicate 3 .left ++ .replicate 7 .right ++ .replicate 2 .left ++ .replicate 10 .right)
      (CSocket.listen 0, Beside.start (moveConstruct 0)
        (history .obliging [.socket (.construct afInet6 sockStream 0)]))).any
      (fun c => c.1.ended && c.2.right.ended &&
        decide (Precedes (.right, .store 0 .mSfd invalidSocket) (.left, .store 0 .mListen true)
          c.2.log) &&
        decide (¬Precedes (.right, .load 0 .mListen) (.left, .store 0 .mListen true) c.2.log)) =
      true := by decide +kernel
  obtain ⟨⟨p, t⟩, hfollow, hc⟩ := (Option.any_eq_true _ _).mp hrun
  simp only [Bool.and_eq_true, decide_eq_true_eq] at hc
  obtain ⟨⟨⟨hset, hmoved⟩, htaken⟩, htimely⟩ := hc
  have hreach : Interleaves .obliging .listen 0
      (history .obliging [.socket (.construct afInet6 sockStream 0)]) p t :=
    Beside.reaches_of_follow _ _ _ hfollow
  refine ⟨p, t, hreach, htaken, ?_⟩
  apply (setting_and_moving_serialise_iff .obliging _ .listen 0 _ (by decide +kernel) p t hreach
    hset hmoved).mpr
  exact fun hload => absurd hload htimely

/-- The object is moved between `::listen` and the write of `m_listen`: it is
empty, and is flagged as listening. -/
theorem empty_object_is_flagged :
    ¬∀ (os : OS) (activities : List Activity) (setter : Setter) (o : ObjId) (s : CSocket),
      (history os activities).objs o = some s → ∀ (p : Prog Unit) (t : Threads),
        Interleaves os setter o (history os activities) p t → p.ended = true →
          t.right.ended = true → Serial os setter o (history os activities) s t.state := by
  intro hserial
  have hrun : (Beside.follow (step .obliging) mutexes
      (.replicate 3 .left ++ .replicate 17 .right ++ .replicate 2 .left)
      (CSocket.listen 0, Beside.start (moveConstruct 0)
        (history .obliging [.socket (.construct afInet6 sockStream 0)]))).any
      (fun c => c.1.ended && c.2.right.ended &&
        decide (c.2.state.objs 0 = some { mListen := true })) = true := by decide +kernel
  obtain ⟨⟨p, t⟩, hfollow, hc⟩ := (Option.any_eq_true _ _).mp hrun
  simp only [Bool.and_eq_true, decide_eq_true_eq] at hc
  obtain ⟨⟨hset, hmoved⟩, hflag⟩ := hc
  have hend := hserial .obliging [.socket (.construct afInet6 sockStream 0)] .listen 0
    { mSfd := 3, mAf := afInet6 } (by decide +kernel) p t
    (Beside.reaches_of_follow _ _ _ hfollow) hset hmoved
  have hfirst : (setThenMove .obliging .listen 0
      (history .obliging [.socket (.construct afInet6 sockStream 0)])).objs 0 = some {} := by
    decide +kernel
  have hsecond : (moveThenSet .obliging .listen 0
      (history .obliging [.socket (.construct afInet6 sockStream 0)])).objs 0 = some {} := by
    decide +kernel
  rcases hend with ⟨h, _⟩ | ⟨h, _⟩
  · simp [hflag, hfirst] at h
  · simp [hflag, hsecond] at h

end ClientServerTcp
