import ClientServerTcp.Socket.Port

/-! What a listening object says of its port. The system gives every listening
socket a local address, and the objects cache only the calls they have made. -/
namespace ClientServerTcp
open Effects Program CSocket

/-- The system has done for a descriptor what the log says was asked of it. -/
def Kernel.Attached (k : Kernel) : Prop :=
  ∀ fd d, k.table fd = some d → d.origin = .socket →
    (boundSince fd k.trace = true → d.localAddr.isSome) ∧
    (listenSince fd k.trace = true → d.listening = true ∧ d.localAddr.isSome)

namespace Kernel

variable {k k' : Kernel}

private theorem Attached.event (hk : Attached k) (e : Event) (htrace : k'.trace = e :: k.trace)
    (htable : ∀ fd d', k'.table fd = some d' → d'.origin = .socket → e.opens fd = true ∨
      ∃ d, k.table fd = some d ∧ d.origin = .socket ∧
        (e.binds fd = true → d'.localAddr.isSome) ∧
        (e.listens fd = true → d'.listening = true ∧ d'.localAddr.isSome) ∧
        (d.localAddr.isSome → d'.localAddr.isSome) ∧
        (d.listening = true → d'.listening = true)) : Attached k' := by
  intro fd d' hd' hsocket'
  rw [htrace, boundSince_cons, listenSince_cons]
  rcases htable fd d' hd' hsocket' with hopens | ⟨d, hd, hsocket, hbinds, hlistens, haddr, hlisten⟩
  · simp [hopens]
  · obtain ⟨hbound, hlistening⟩ := hk fd d hd hsocket
    by_cases hopens : e.opens fd = true
    · simp [hopens]
    · simp only [hopens, Bool.false_eq_true, ↓reduceIte, Bool.or_eq_true]
      constructor
      · intro h
        exact h.elim hbinds fun h => haddr (hbound h)
      · intro h
        exact h.elim hlistens fun h => ⟨hlisten (hlistening h).1, haddr (hlistening h).2⟩

private theorem untouched {e : Event} {fd : SOCKET} {d : Desc} (hbinds : e.binds fd = false)
    (hlistens : e.listens fd = false) (hd : k.table fd = some d) (hsocket : d.origin = .socket) :
    ∃ d₀, k.table fd = some d₀ ∧ d₀.origin = .socket ∧ (e.binds fd = true → d.localAddr.isSome) ∧
      (e.listens fd = true → d.listening = true ∧ d.localAddr.isSome) ∧
      (d₀.localAddr.isSome → d.localAddr.isSome) ∧ (d₀.listening = true → d.listening = true) :=
  ⟨d, hd, hsocket, by simp [hbinds], by simp [hlistens], fun h => h, fun h => h⟩

/-- Whatever one step does, it keeps the system and the log together. -/
theorem Effect.attached (h : Effect k k') (hk : Attached k) : Attached k' := by
  cases h with
  | same htable htrace =>
    unfold Attached
    rwa [htable, htrace]
  | quiet e he htable htrace =>
    apply hk.event e htrace
    intro fd d hd hsocket
    rw [htable] at hd
    exact .inr (untouched (he fd).2.2.1 (he fd).2.2.2 hd hsocket)
  | opened domain type protocol fd' d' hfree htable htrace =>
    apply hk.event _ htrace
    intro fd d hd hsocket
    by_cases heq : fd = fd'
    · left
      simp [Event.opens, heq]
    · rw [htable, Function.update_of_ne heq] at hd
      exact .inr (untouched rfl rfl hd hsocket)
  | accepted e he fd' d' hfree horigin htable htrace =>
    apply hk.event e htrace
    intro fd d hd hsocket
    have hne : fd ≠ fd' := by
      rintro rfl
      obtain rfl : d' = d := by simpa [htable] using hd
      simp [horigin] at hsocket
    rw [htable, Function.update_of_ne hne] at hd
    exact .inr (untouched (he fd).2.2.1 (he fd).2.2.2 hd hsocket)
  | tuned e he fd' d₁ d₂ hopen horigin haddr hlisten htable htrace =>
    apply hk.event e htrace
    intro fd d hd hsocket
    obtain ⟨_, _, hbinds, hlistens⟩ := he fd
    by_cases heq : fd = fd'
    · subst heq
      obtain rfl : d₂ = d := by simpa [htable] using hd
      rw [haddr, hlisten]
      exact .inr ⟨d₁, hopen, horigin ▸ hsocket, by simp [hbinds], by simp [hlistens],
        fun h => h, fun h => h⟩
    · rw [htable, Function.update_of_ne heq] at hd
      exact .inr (untouched hbinds hlistens hd hsocket)
  | bound fd' addr addrlen d₁ localAddr hopen htable htrace =>
    apply hk.event _ htrace
    intro fd d hd hsocket
    by_cases heq : fd = fd'
    · subst heq
      rw [htable, Function.update_self] at hd
      obtain rfl := Option.some.inj hd
      exact .inr ⟨d₁, hopen, hsocket, fun _ => rfl, by simp [Event.listens], fun _ => rfl,
        fun h => h⟩
    · rw [htable, Function.update_of_ne heq] at hd
      exact .inr (untouched (by simp [Event.binds, Ne.symm heq]) rfl hd hsocket)
  | listening fd' backlog d₁ ephemeral hopen htable htrace =>
    apply hk.event _ htrace
    intro fd d hd hsocket
    by_cases heq : fd = fd'
    · subst heq
      rw [htable, Function.update_self] at hd
      obtain rfl := Option.some.inj hd
      exact .inr ⟨d₁, hopen, hsocket, by simp [Event.binds], fun _ => ⟨rfl, rfl⟩, fun _ => rfl,
        fun _ => rfl⟩
    · rw [htable, Function.update_of_ne heq] at hd
      exact .inr (untouched rfl (by simp [Event.listens, Ne.symm heq]) hd hsocket)
  | closed fd' ret error htable htrace =>
    apply hk.event _ htrace
    intro fd d hd hsocket
    have hne : fd ≠ fd' := by
      rintro rfl
      simp [htable] at hd
    rw [htable, Function.update_of_ne hne] at hd
    exact .inr (untouched rfl rfl hd hsocket)

theorem foreign_attached (hk : Attached k) (fd' : SOCKET) (d' : Option Desc) :
    Attached (k.foreign fd' d') := by
  unfold Kernel.foreign
  split
  · intro fd d hd hsocket
    by_cases heq : fd = fd'
    · subst heq
      rw [table_setDesc, Function.update_self] at hd
      obtain ⟨d₀, _, rfl⟩ := Option.map_eq_some_iff.mp hd
      contradiction
    · rw [table_setDesc, Function.update_of_ne heq] at hd
      exact hk fd d hd hsocket
  · exact hk

end Kernel

theorem attached_history (os : OS) (activities : List Activity) :
    (history os activities).kernel.Attached := by
  suffices ∀ w : World, w.kernel.Attached →
      (activities.foldl (Activity.exec os) w).kernel.Attached by
    apply this
    intro fd d hd
    simp [World.initial] at hd
  induction activities with
  | nil => exact fun _ hw => hw
  | cons a activities ih =>
    intro w hw
    apply ih
    cases a with
    | socket op =>
      simp only [Activity.exec]
      split
      · exact run_keeps_kernel os (fun _ _ h hk => h.attached hk) _ w hw
      · exact hw
    | foreign fd d => exact Kernel.foreign_attached hw fd d

/-! ## What a listening object reports -/

/-- The object says that it is bound, and returns the port that the system
listens on. -/
def ReportsPort (os : OS) (w : World) (o : ObjId) (fd : SOCKET) : Prop :=
  (isBind o).run (step os) w = (.ok true, w) ∧ ∃ d addr, w.kernel.table fd = some d ∧
    d.listening = true ∧ d.localAddr = some addr ∧
    ((getPort o).run (step os) w).1 = .ok (ntohs (sin6Port addr))

/-- An object that says it is listening reports the port if `::bind` was called
for its descriptor. If not, it says that it is not bound and `get_port()`
throws, although the system listens on a port. -/
theorem listening_object_reports (os : OS) (activities : List Activity) {o : ObjId} {s : CSocket}
    {w : World} (hw : w = history os activities) (hs : w.objs o = some s)
    (hlisten : ((isListen o).run (step os) w).1 = .ok true)
    (hname : os.getsockname w.kernel s.mSfd = none) :
    (boundSince s.mSfd w.kernel.trace = true → ReportsPort os w o s.mSfd) ∧
    (boundSince s.mSfd w.kernel.trace = false → (isBind o).run (step os) w = (.ok false, w) ∧
      (getPort o).run (step os) w = (.error (.thrown .msg1012), w) ∧
      ∃ d, w.kernel.table s.mSfd = some d ∧ d.listening = true ∧ d.localAddr.isSome) := by
  have inv : Invariant w := hw ▸ invariant_history os activities
  have hattached : w.kernel.Attached := hw ▸ attached_history os activities
  have hvalid : s.mSfd ≠ invalidSocket := by
    intro hinvalid
    have hthrows : (isListen o).run (step os) w = (.error (.thrown .msg1016), w) := by
      apply run_eq_of_wp
      simp [isListen, hs, hinvalid]
    simp [hthrows] at hlisten
  rw [run_isListen os hs hvalid] at hlisten
  obtain ⟨d, hd, hsocket, hstatus⟩ := inv.sound.desc (inv.cached hs hvalid)
  have hlistened : listenSince s.mSfd w.kernel.trace = true := by
    rw [← Except.ok.inj hlisten]
    exact (congrArg Status.listening hstatus).symm
  have hcached : s.mBound = boundSince s.mSfd w.kernel.trace := congrArg Status.bound hstatus
  obtain ⟨hlistening, hlocal⟩ := (hattached s.mSfd d hd hsocket).2 hlistened
  obtain ⟨addr, haddr⟩ := Option.isSome_iff_exists.mp hlocal
  constructor
  · intro hbound
    rw [hbound] at hcached
    refine ⟨by rw [run_isBind os hs hvalid, hcached], d, addr, hd, hlistening, haddr, ?_⟩
    rw [run_getPort os hs hvalid hcached hd haddr hname]
  · intro hunbound
    rw [hunbound] at hcached
    refine ⟨by rw [run_isBind os hs hvalid, hcached], ?_, d, hd, hlistening, hlocal⟩
    rw [run_getPort_unbound os hs hcached, if_neg hvalid]

theorem bound_listener_reports :
    let w := history .obliging [.socket (.construct afInet6 sockStream 0),
      .socket (.bind 0 (loopback6 0x11 0x51)), .socket (.listen 0)]
    ReportsPort .obliging w 0 3 := by
  intro w
  have h := listening_object_reports .obliging [.socket (.construct afInet6 sockStream 0),
    .socket (.bind 0 (loopback6 0x11 0x51)), .socket (.listen 0)] (o := 0)
    (s := { mSfd := 3, mAf := afInet6, mBound := true, mListen := true }) rfl rfl rfl rfl
  exact h.1 rfl

/-- A socket that is set to listen without `::bind`. -/
theorem unbound_listener_reports_nothing :
    ¬∀ (os : OS) (activities : List Activity) (o : ObjId) (s : CSocket) (w : World),
      w = history os activities → w.objs o = some s →
      ((isListen o).run (step os) w).1 = .ok true → os.getsockname w.kernel s.mSfd = none →
      ReportsPort os w o s.mSfd := by
  intro h
  have hreports := h .obliging [.socket (.construct afInet6 sockStream 0), .socket (.listen 0)] 0
    { mSfd := 3, mAf := afInet6, mListen := true } _ rfl rfl rfl rfl
  have hunbound : ((isBind 0).run (step .obliging) (history .obliging
      [.socket (.construct afInet6 sockStream 0), .socket (.listen 0)])).1 = .ok false := rfl
  rw [hreports.1] at hunbound
  exact absurd (Except.ok.inj hunbound) (by decide)

end ClientServerTcp
