import ClientServerTcp.Threads.Requests

/-! Every request takes effect at one point: a setter at its call of the system,
a getter where it reads what it returns. The proofs follow the operations of the
request, and say of each what the thread knows there of the shared object. -/
namespace ClientServerTcp
open Effects Program

section
variable {ι : Type} [DecidableEq ι] (S : Sharing) (i : ι)

/-- The request of a thread has not taken effect yet. -/
abbrev Pending (Spec : Except Exn Reply → Endpoints S → Endpoints S → Prop) (p : Prog Reply)
    (s : Shared ι) : Prop :=
  p.pending (ThreadStep i) (Others (Conduct S) i) (May S i) (Shared.endpoints S) (Holds S i ∅) Spec s

/-- The request of a thread has taken effect. -/
abbrev Settled (result : Except Exn Reply) (p : Prog Reply) (s : Shared ι) : Prop :=
  p.settled (ThreadStep i) (Others (Conduct S) i) (May S i) (Shared.endpoints S) (Holds S i ∅)
    result s

/-- The request takes effect in a step to this state, or later. -/
abbrev Onward (Spec : Except Exn Reply → Endpoints S → Endpoints S → Prop) (p : Prog Reply)
    (t u : Shared ι) : Prop :=
  u.endpoints S = t.endpoints S ∧ Pending S i Spec p u ∨
    ∃ result, Spec result (t.endpoints S) (u.endpoints S) ∧ Settled S i result p u

variable {S i} {Spec : Except Exn Reply → Endpoints S → Endpoints S → Prop}
  {result : Except Exn Reply} {ks : Set Guard} {o : S.Object} {m : Mutex}
  {K : CSocket → Endpoint → Prop} {s : Shared ι}

omit [DecidableEq ι] in
private theorem orderly_of_plain {op : Op} (hop : op.blocks = false)
    (hlock : ∀ o m, op ≠ .lock o m) (s : Shared ι) : Orderly i op s := by
  cases op with
  | lock o m => exact absurd rfl (hlock o m)
  | _ => simp [Orderly, hop]

private theorem may_harmless {op : Op} (hop : Harmless S op) (hblocks : op.blocks = false)
    (hcareful : Careful S i op s) : May S i op s := by
  refine ⟨fun _ _ => hop.conduct, orderly_of_plain hblocks ?_ s, hcareful⟩
  rintro o m rfl
  exact hop

/-! ## What lasts -/

theorem lasting_true : Lasting S ks o fun _ _ => True := fun _ _ _ _ _ _ _ => trivial

theorem Lasting.and {K K' : CSocket → Endpoint → Prop} (hK : Lasting S ks o K)
    (hK' : Lasting S ks o K') : Lasting S ks o fun c e => K c e ∧ K' c e :=
  fun c e c' e' h hgrows hflags => ⟨hK c e c' e' h.1 hgrows hflags, hK' c e c' e' h.2 hgrows hflags⟩

theorem lasting_flags (hm : (o.1, m) ∈ ks) : Lasting S ks o fun c e => c.flag m = e.flag m :=
  fun _ _ _ _ h _ hflags => (hflags m hm).1.trans (h.trans (hflags m hm).2.symm)

theorem lasting_raised : Lasting S ks o fun _ e => e.flag m = true :=
  fun _ _ _ _ h hgrows _ => hgrows.flag m h

theorem lasting_sockType (type : Int) : Lasting S ks o fun _ e => type = e.desc.sockType :=
  fun _ _ _ _ h hgrows _ => h.trans hgrows.sockType.symm

theorem lasting_domain (domain : Int) : Lasting S ks o fun _ e => e.desc.domain = domain :=
  fun _ _ _ _ h hgrows _ => hgrows.domain.trans h

/-! ## The steps of a request -/

theorem pending_harmless {op : Op} {k : op.Res → Prog Reply} (hs : Sees S i ks o K s)
    (hK : Lasting S ks o K) (hop : Harmless S op) (hblocks : op.blocks = false)
    (hcareful : ∀ s, Holds S i ks s → Careful S i op s)
    (hk : ∀ t answer u, Sees S i ks o K t → ThreadStep i op t answer u → Sees S i ks o K u →
      u.endpoints S = t.endpoints S → Onward S i Spec (k answer) t u) :
    Pending S i Spec (.call op k) s := by
  refine pending_call (Sees.env hK) hs (fun t ht => may_harmless hop hblocks (hcareful t ht.1)) ?_
  intro t answer u ht hstep
  exact hk t answer u ht hstep (hop.sees ht hstep) (hop.endpoints ht.1.good hstep)

omit [DecidableEq ι] in
private theorem Sees.of_world {ks' : Set Guard} {t : Shared ι} (h : Sees S i ks o K s)
    (hworld : t.world = s.world) (ht : Holds S i ks' t) : Sees S i ks' o K t := by
  obtain ⟨_, c, e, ⟨hobject, hendpoint⟩, hK⟩ := h
  exact ⟨ht, c, e, ⟨hworld ▸ hobject, hworld ▸ hendpoint⟩, hK⟩

/-- Once a thread has the mutex, it finds the flag as the system has it. -/
theorem pending_lock {k : Unit → Prog Reply} (hs : Sees S i ∅ o K s) (hK : Lasting S ∅ o K)
    (hk : ∀ u, Sees S i {(o.1, m)} o (fun c e => K c e ∧ c.flag m = e.flag m) u →
      Pending S i Spec (k ()) u) : Pending S i Spec (.call (.lock o.1 m) k) s := by
  have hmay : ∀ t, Sees S i ∅ o K t → May S i (.lock o.1 m) t := by
    intro t ht
    refine ⟨fun _ u h => (lock_step ht.1 h).1, ?_, trivial⟩
    intro k hk
    exact absurd ((ht.1.held k).mp hk) (Set.notMem_empty k)
  refine pending_call (Sees.env hK) hs hmay ?_
  intro t _ u ht hstep
  obtain ⟨_, hu, hworld, hfree⟩ := lock_step ht.1 hstep
  rw [insert_empty_eq] at hu
  refine .inl ⟨endpoints_of_world hworld, hk u ?_⟩
  obtain ⟨_, c, e, hshows, hce⟩ := ht.of_world hworld hu
  obtain ⟨c', e', hshows', _, hcoherent⟩ := ht.1.good.shared o
  obtain ⟨rfl, rfl⟩ := hshows.unique ⟨hworld ▸ hshows'.object, hworld ▸ hshows'.endpoint⟩
  exact ⟨hu, c, e, hshows, hce, hcoherent.same m hfree⟩

private theorem may_unlock (hs : Sees S i {(o.1, m)} o K s)
    (hflag : ∀ c e, K c e → c.flag m = e.flag m) :
    May S i (.unlock o.1 m) s ∧ ∀ t, ThreadStep i (.unlock o.1 m) s () t →
      t.endpoints S = s.endpoints S ∧ Sees S i ∅ o K t := by
  have hsame : ∀ o' : S.Object, o'.1 = o.1 → ∀ c e, Shows S s o' c e → c.flag m = e.flag m := by
    intro o' ho c e hshows
    obtain rfl := Subtype.ext ho
    obtain ⟨_, c', e', hshows', hK⟩ := hs
    obtain ⟨rfl, rfl⟩ := hshows.unique hshows'
    exact hflag c e hK
  have hunlock := fun t => unlock_step (t := t) hs.1 (Set.mem_singleton _) hsame
  refine ⟨⟨fun _ t h => (hunlock t h).1, by simp [Orderly, Op.blocks], trivial⟩, ?_⟩
  intro t h
  obtain ⟨_, ht, hworld⟩ := hunlock t h
  rw [Set.sdiff_self] at ht
  exact ⟨endpoints_of_world hworld, hs.of_world hworld ht⟩

theorem pending_unlock {k : Unit → Prog Reply} (hs : Sees S i {(o.1, m)} o K s)
    (hK : Lasting S {(o.1, m)} o K) (hflag : ∀ c e, K c e → c.flag m = e.flag m)
    (hk : ∀ u, Sees S i ∅ o K u → Pending S i Spec (k ()) u) :
    Pending S i Spec (.call (.unlock o.1 m) k) s := by
  refine pending_call (Sees.env hK) hs (fun t ht => (may_unlock ht hflag).1) ?_
  intro t _ u ht hstep
  obtain ⟨habs, hu⟩ := (may_unlock ht hflag).2 u hstep
  exact .inl ⟨habs, hk u hu⟩

theorem settled_unlock {k : Unit → Prog Reply} (hs : Sees S i {(o.1, m)} o K s)
    (hK : Lasting S {(o.1, m)} o K) (hflag : ∀ c e, K c e → c.flag m = e.flag m)
    (hk : ∀ u, Sees S i ∅ o K u → Settled S i result (k ()) u) :
    Settled S i result (.call (.unlock o.1 m) k) s := by
  refine settled_call (Sees.env hK) hs (fun t ht => (may_unlock ht hflag).1) ?_
  intro t _ u ht hstep
  obtain ⟨habs, hu⟩ := (may_unlock ht hflag).2 u hstep
  exact ⟨habs, hk u hu⟩

theorem settled_done {value : Reply} (hs : Holds S i ∅ s) :
    Settled S i (.ok value) (.done value) s :=
  fun _ hst => ⟨rfl, stable_env (Holds S i ∅) Holds.env hs hst⟩

theorem settled_raise {error : Exn} (hs : Holds S i ∅ s) :
    Settled S i (.error error) (.raise error) s :=
  fun _ hst => ⟨rfl, stable_env (Holds S i ∅) Holds.env hs hst⟩

/-- A failure takes effect where the thread reads its `errno`. -/
theorem pending_throw_error {errmsg : Errmsg} {next : Int → Prog Reply} (hs : Sees S i ks o K s)
    (hK : Lasting S ks o K)
    (hspec : ∀ (t : Shared ι) errno c e, Shows S t o c e → K c e →
      Spec (.error (.thrown (.withErrno errmsg errno))) (t.endpoints S) (t.endpoints S))
    (hnext : ∀ errno u, Sees S i ks o K u →
      Settled S i (.error (.thrown (.withErrno errmsg errno))) (next errno) u) :
    Pending S i Spec (.call .errno next) s := by
  refine pending_harmless hs hK trivial rfl (fun _ _ => trivial) ?_
  intro t errno u ht _ hu habs
  obtain ⟨_, c, e, hshows, hce⟩ := ht
  exact .inr ⟨_, habs ▸ hspec t errno c e hshows hce, hnext errno u hu⟩

theorem pending_load_mSfd {k : SOCKET → Prog Reply} (hs : Sees S i ks o K s)
    (hK : Lasting S ks o K) (hk : ∀ u, Sees S i ks o K u → Pending S i Spec (k (S.fd o)) u) :
    Pending S i Spec (.call (.load o.1 .mSfd) k) s := by
  have hop : Harmless S (.load o.1 .mSfd) := trivial
  refine pending_harmless hs hK hop rfl (fun _ _ _ m hm => by simp [Field.guard] at hm) ?_
  intro t fd u ht hstep hu habs
  obtain rfl : S.fd o = fd := by
    rcases hop.tells ht.1.good hstep with hfd | ⟨hnone, _⟩
    · exact Option.some.inj ((Sharing.sfd_eq o).symm.trans hfd)
    · simp [Sharing.sfd_eq] at hnone
  exact .inl ⟨habs, hk u hu⟩

theorem Onward.now {p : Prog Reply} {t u : Shared ι} (habs : u.endpoints S = t.endpoints S)
    (hspec : Spec result (t.endpoints S) (t.endpoints S)) (hp : Settled S i result p u) :
    Onward S i Spec p t u :=
  .inr ⟨result, habs ▸ hspec, hp⟩

theorem pending_load_flag (m : Mutex) {f : Field} (hf : f.guard = some m) {k : f.Ty → Prog Reply}
    (value : Endpoint → f.Ty)
    (hvalue : ∀ (c : CSocket) e, c.flag m = e.flag m → c.get f = value e)
    (hs : Sees S i {(o.1, m)} o (fun c e => c.flag m = e.flag m) s)
    (hk : ∀ t u e, t.endpoints S o = some e → u.endpoints S = t.endpoints S →
      Sees S i {(o.1, m)} o (fun c e' => c.flag m = e'.flag m ∧ e'.flag m = e.flag m) u →
      Onward S i Spec (k (value e)) t u) :
    Pending S i Spec (.call (.load o.1 f) k) s := by
  have hop : Harmless S (.load o.1 f) := trivial
  refine pending_harmless hs (lasting_flags (Set.mem_singleton _)) hop rfl ?_ ?_
  · intro s hs _ m' hm'
    obtain rfl : m = m' := Option.some.inj (hf.symm.trans hm')
    exact (hs.held _).mpr (Set.mem_singleton _)
  · intro t answer u ht hstep hu habs
    obtain ⟨_, c, e, hshows, hflag⟩ := ht
    have hshows' := (hop.keeps hstep).2.1 o c e hshows
    obtain ⟨os, rfl, -⟩ := hstep
    have hload : (step os (.load o.1 f) (t.view i)).1 = c.get f := by
      simp [step, Shared.view, hshows.object]
    rw [hload, hvalue c e hflag]
    exact hk t u e hshows.endpoint habs ⟨hu.1, c, e, hshows', hflag, rfl⟩

omit [DecidableEq ι] in
theorem Sees.mono {K' : CSocket → Endpoint → Prop} (h : Sees S i ks o K s)
    (hK : ∀ c e, K c e → K' c e) : Sees S i ks o K' s := by
  obtain ⟨hholds, c, e, hshows, hce⟩ := h
  exact ⟨hholds, c, e, hshows, hK c e hce⟩

/-! ## The getters -/

omit [DecidableEq ι] in
theorem Holds.sees (h : Holds S i ∅ s) (o : S.Object) : Sees S i ∅ o (fun _ _ => True) s := by
  obtain ⟨c, e, hshows, _⟩ := h.good.shared o
  exact ⟨h, c, e, hshows, trivial⟩

theorem Sharing.fd_valid (o : S.Object) : S.fd o ≠ invalidSocket := S.valid (Sharing.sfd_eq o)

private theorem lasting_flag (m : Mutex) :
    Lasting S {(o.1, m)} o fun c e => c.flag m = e.flag m := lasting_flags (Set.mem_singleton _)

theorem pending_isBind (hs : Holds S i ∅ s) :
    Pending S i (Takes (.isBind o)) (Request.isBind o).code s := by
  refine pending_load_mSfd (hs.sees o) lasting_true fun u hu => ?_
  simp only [Program.bind, if_neg (Sharing.fd_valid o)]
  refine pending_lock hu lasting_true fun u hu => ?_
  refine pending_load_flag .mBoundMutex rfl Endpoint.bound (fun _ _ h => h)
    (hu.mono fun _ _ h => h.2) ?_
  intro t u e he habs hu
  refine .now habs (.isBind he) ?_
  refine settled_unlock (hu.mono fun _ _ h => h.1) (lasting_flag _) (fun _ _ h => h) fun u hu => ?_
  exact settled_done hu.1

theorem pending_isListen (hs : Holds S i ∅ s) :
    Pending S i (Takes (.isListen o)) (Request.isListen o).code s := by
  refine pending_load_mSfd (hs.sees o) lasting_true fun u hu => ?_
  simp only [Program.bind, if_neg (Sharing.fd_valid o)]
  refine pending_lock hu lasting_true fun u hu => ?_
  refine pending_load_flag .mListenMutex rfl Endpoint.listening (fun _ _ h => h)
    (hu.mono fun _ _ h => h.2) ?_
  intro t u e he habs hu
  refine .now habs (.isListen he) ?_
  refine settled_unlock (hu.mono fun _ _ h => h.1) (lasting_flag _) (fun _ _ h => h) fun u hu => ?_
  exact settled_done hu.1

private theorem pending_getsockname {k : Int × Bytes → Prog Reply}
    (hs : Sees S i ∅ o (fun _ e => e.flag .mBoundMutex = true) s)
    (hok : ∀ bytes u, Holds S i ∅ u → Settled S i
      (.ok (.port (ntohs (sin6Port bytes)))) (k (0, bytes)) u)
    (hfail : ∀ answer u, answer.1 ≠ 0 → Sees S i ∅ o (fun _ e => e.flag .mBoundMutex = true) u →
      Pending S i (Takes (.getPort o)) (k answer) u) :
    Pending S i (Takes (.getPort o)) (.call (.getsockname (S.fd o)) k) s := by
  refine pending_harmless hs lasting_raised trivial rfl (fun _ _ => trivial) ?_
  intro t answer u ht hstep hu habs
  obtain ⟨_, c, e, hshows, hbound⟩ := ht
  rcases getsockname_tells hshows hstep with hret | rfl
  · exact .inl ⟨habs, hfail answer u hret hu⟩
  · exact .now habs (.getPort hshows.endpoint hbound) (hok _ u hu.1)

theorem pending_getPort (hs : Holds S i ∅ s) :
    Pending S i (Takes (.getPort o)) (Request.getPort o).code s := by
  refine pending_load_mSfd (hs.sees o) lasting_true fun u hu => ?_
  simp only [Program.bind, if_neg (Sharing.fd_valid o)]
  refine pending_load_mSfd hu lasting_true fun u hu => ?_
  simp only [Program.bind, if_neg (Sharing.fd_valid o)]
  refine pending_lock hu lasting_true fun u hu => ?_
  refine pending_load_flag .mBoundMutex rfl Endpoint.bound (fun _ _ h => h)
    (hu.mono fun _ _ h => h.2) ?_
  intro t u e he habs hu
  cases hbound : e.bound with
  | false =>
    refine .now habs (.unbound he hbound) ?_
    refine settled_unlock (hu.mono fun _ _ h => h.1) (lasting_flag _) (fun _ _ h => h) ?_
    exact fun u hu => settled_raise hu.1
  | true =>
    refine .inl ⟨habs, ?_⟩
    refine pending_unlock hu (.and (lasting_flag _) ?_) (fun _ _ h => h.1) fun u hu => ?_
    · exact fun _ _ _ _ h hgrows hflags => (hflags _ (Set.mem_singleton _)).2.trans h
    have hraised : Sees S i ∅ o (fun _ e => e.flag .mBoundMutex = true) u :=
      hu.mono fun _ _ h => h.2.trans hbound
    refine pending_load_mSfd hraised lasting_raised fun u hu => ?_
    refine pending_getsockname hu (fun bytes u hu => settled_done hu) fun answer u hret hu => ?_
    simp only [Program.bind, if_pos hret]
    refine pending_throw_error hu lasting_raised ?_ fun errno u hu => settled_raise hu.1
    exact fun t errno c e hshows hbound => .noPort hshows.endpoint hbound errno

private theorem pending_getsockoptInt {request : Request S} {level optname : Int} {name : String}
    {next : Int → Prog Reply} (hs : Sees S i ∅ o K s) (hK : Lasting S ∅ o K)
    (hok : ∀ (t : Shared ι) os k c e u, Shows S t o c e → K c e → Holds S i ∅ u →
      ∃ result, Takes request result (t.endpoints S) (t.endpoints S) ∧
        Settled S i result (next (Kernel.optionValue os k (S.fd o) e.desc level optname)) u)
    (hfail : ∀ (t : Shared ι) errno c e, Shows S t o c e → K c e → Takes request
      (.error (.thrown (.withErrno (.msg1017 name) errno))) (t.endpoints S) (t.endpoints S)) :
    Pending S i (Takes request)
      ((CSocket.getsockoptInt o.1 level optname name).bind next) s := by
  refine pending_load_mSfd hs hK fun u hu => ?_
  refine pending_harmless hu hK trivial rfl (fun _ _ => trivial) ?_
  intro t answer u ht hstep hu habs
  obtain ⟨_, c, e, hshows, hce⟩ := ht
  by_cases hret : answer.1 ≠ 0
  · simp only [Program.bind, if_pos hret]
    exact .inl ⟨habs, pending_throw_error hu hK hfail fun errno u hu => settled_raise hu.1⟩
  · rcases getsockopt_tells hshows hstep with hfailed | ⟨os, k, rfl⟩
    · simp [hfailed, socketError] at hret
    · obtain ⟨result, hspec, hsettled⟩ := hok t os k c e u hshows hce hu.1
      exact .now habs hspec hsettled

theorem pending_getSockerr (hs : Holds S i ∅ s) :
    Pending S i (Takes (.getSockerr o)) (Request.getSockerr o).code s := by
  refine pending_getsockoptInt (hs.sees o) lasting_true ?_ fun t errno c e _ _ => .noSockerr errno
  exact fun t os k c e u _ _ hu => ⟨_, .getSockerr _, settled_done hu⟩

private theorem optionValue_stored (os : OS) (k : Kernel) (fd : SOCKET) (d : Desc)
    {level optname : Int} (htype : ¬(level = solSocket ∧ optname = soType))
    (herror : ¬(level = solSocket ∧ optname = soError)) :
    k.optionValue os fd d level optname = d.option level optname := by
  rw [Kernel.optionValue, if_neg htype, if_neg herror]

theorem pending_isReuseAddr (hs : Holds S i ∅ s) :
    Pending S i (Takes (.isReuseAddr o)) (Request.isReuseAddr o).code s := by
  have hcode : (Request.isReuseAddr o).code = (CSocket.getsockoptInt o.1 solSocket soReuseaddr
      "SO_REUSEADDR").bind fun value => .done (.flag (value ≠ 0)) := Program.bind_assoc ..
  rw [hcode]
  refine pending_getsockoptInt (hs.sees o) lasting_true ?_ fun t errno c e _ _ => .noReuseAddr errno
  intro t os k c e u hshows _ hu
  rw [optionValue_stored os k _ e.desc (by decide) (by decide)]
  exact ⟨_, .isReuseAddr hshows.endpoint, settled_done hu⟩

private theorem pending_load_mAf {k : Int → Prog Reply} (hs : Holds S i ∅ s)
    (hk : ∀ t u e, t.endpoints S o = some e → u.endpoints S = t.endpoints S →
      Sees S i ∅ o (fun _ e' => e'.desc.domain = e.desc.domain) u →
      Onward S i Spec (k e.desc.domain) t u) :
    Pending S i Spec (.call (.load o.1 .mAf) k) s := by
  have hop : Harmless S (.load o.1 .mAf) := trivial
  refine pending_harmless (hs.sees o) lasting_true hop rfl ?_ ?_
  · intro s _ _ m hm
    simp [Field.guard] at hm
  · intro t answer u ht hstep hu habs
    obtain ⟨c, e, hshows, _, hcoherent⟩ := ht.1.good.shared o
    have hshows' := (hop.keeps hstep).2.1 o c e hshows
    obtain ⟨os, rfl, -⟩ := hstep
    have hload : (step os (.load o.1 .mAf) (t.view i)).1 = c.mAf := by
      simp [step, Shared.view, hshows.object, CSocket.get]
    rw [hload, hcoherent.af]
    exact hk t u e hshows.endpoint habs ⟨hu.1, c, e, hshows', rfl⟩

theorem pending_isV6only (hs : Holds S i ∅ s) :
    Pending S i (Takes (.isV6only o)) (Request.isV6only o).code s := by
  refine pending_load_mSfd (hs.sees o) lasting_true fun u hu => ?_
  simp only [Program.bind, if_neg (Sharing.fd_valid o)]
  refine pending_load_mAf hu.1 fun t u e he habs hu => ?_
  by_cases hdomain : e.desc.domain = afInet6
  · refine .inl ⟨habs, ?_⟩
    have hinet6 : Sees S i ∅ o (fun _ e => e.desc.domain = afInet6) u :=
      hu.mono fun _ _ h => h.trans hdomain
    simp only [Program.bind, if_pos hdomain]
    change Pending S i _ (((CSocket.getsockoptInt o.1 ipprotoIpv6 ipv6V6only "IPV6_V6ONLY").bind
      fun value => .done (decide (value ≠ 0))).bind fun b => .done (.flag b)) u
    rw [Program.bind_assoc]
    refine pending_getsockoptInt hinet6 (lasting_domain _) ?_ ?_
    · intro t os k c e u hshows hdomain hu
      rw [optionValue_stored os k _ e.desc (by decide) (by decide)]
      exact ⟨_, .isV6only hshows.endpoint hdomain, settled_done hu⟩
    · exact fun t errno c e hshows hdomain => .noV6only hshows.endpoint hdomain errno
  · simp only [Program.bind, if_neg hdomain]
    exact .now habs (.otherFamily he hdomain) (settled_done hu.1)

/-! ## The setters -/

omit [DecidableEq ι] in
private theorem orderly_raise (m : Mutex) (s : Shared ι) : Orderly i (m.raise o.1) s := by
  cases m <;> simp [Mutex.raise, Orderly, Op.blocks]

private theorem threadStep_raise {m : Mutex} {answer : (m.raise o.1).Res} {t : Shared ι}
    (h : ThreadStep i (m.raise o.1) s answer t) :
    ∃ os, t = s.after i (step os (m.raise o.1) (s.view i)).2 := by
  cases m <;> exact h.imp fun _ h => h.2

theorem settled_raise_flag (m : Mutex) {k : (m.raise o.1).Res → Prog Reply}
    (hs : Sees S i {(o.1, m)} o (fun _ e => e.flag m = true) s)
    (hk : ∀ answer u, Sees S i {(o.1, m)} o (fun c e => c.flag m = e.flag m) u →
      Settled S i result (k answer) u) :
    Settled S i result (.call (m.raise o.1) k) s := by
  have hraise : ∀ {t answer u}, Sees S i {(o.1, m)} o (fun _ e => e.flag m = true) t →
      ThreadStep i (m.raise o.1) t answer u → Conduct S i t u ∧
        u.endpoints S = t.endpoints S ∧ Sees S i {(o.1, m)} o (fun c e => c.flag m = e.flag m) u := by
    intro t answer u ht hstep
    obtain ⟨hholds, c, e, hshows, hdone⟩ := ht
    obtain ⟨hconduct, hu, hshows', habs⟩ := raise_step hholds (Set.mem_singleton _) hshows hdone
      (threadStep_raise hstep)
    exact ⟨hconduct, habs, hu, _, e, hshows', (c.flag_raise m).trans hdone.symm⟩
  have hcareful : ∀ t, Holds S i {(o.1, m)} t → Careful S i (m.raise o.1) t := by
    intro t ht
    have hheld := (ht.held (o.1, m)).mpr (Set.mem_singleton _)
    cases m <;> exact fun _ => ⟨_, rfl, hheld⟩
  refine settled_call (Sees.env lasting_raised) hs ?_ ?_
  · exact fun t ht => ⟨fun _ _ h => (hraise ht h).1, orderly_raise m t, hcareful t ht.1⟩
  · intro t answer u ht hstep
    obtain ⟨_, habs, hu⟩ := hraise ht hstep
    exact ⟨habs, hk answer u hu⟩

private theorem pending_throw_locked {errmsg : Errmsg} {request : Request S}
    (hspec : ∀ (a : Endpoints S) errno,
      Takes request (.error (.thrown (.withErrno errmsg errno))) a a)
    (hs : Sees S i {(o.1, m)} o (fun c e => c.flag m = e.flag m) s) :
    Pending S i (Takes request) (.call .errno fun errno => .call (.unlock o.1 m) fun _ =>
      .raise (.thrown (.withErrno errmsg errno))) s := by
  refine pending_throw_error hs (lasting_flag m) (fun t errno _ _ _ _ => hspec _ errno) ?_
  intro errno u hu
  exact settled_unlock hu (lasting_flag m) (fun _ _ h => h) fun u hu => settled_raise hu.1

theorem pending_listen (hs : Holds S i ∅ s) :
    Pending S i (Takes (.listen o)) (Request.listen o).code s := by
  refine pending_lock (hs.sees o) lasting_true fun u hu => ?_
  refine pending_load_mSfd (hu.mono fun _ _ h => h.2) (lasting_flag _) fun u hu => ?_
  refine pending_call (Sees.env (lasting_flag _)) hu ?_ ?_
  · intro t ht
    obtain ⟨hholds, c, e, hshows, _⟩ := ht
    refine ⟨fun answer u hstep => ?_, orderly_of_plain rfl (by simp) t, trivial⟩
    exact (listen_step hholds (Set.mem_singleton _) hshows hstep).1
  intro t ret u ht hstep
  obtain ⟨hholds, c, e, hshows, hflag⟩ := ht
  obtain ⟨_, hu, e', hshows', habs, hret⟩ :=
    listen_step hholds (Set.mem_singleton _) hshows hstep
  rcases hret with ⟨hret, rfl⟩ | ⟨rfl, ephemeral, rfl⟩
  · simp only [Program.bind, if_pos hret]
    refine .inl ⟨?_, ?_⟩
    · rw [habs, ← hshows.endpoint]
      exact Function.update_eq_self ..
    · exact pending_throw_locked (fun _ => .notListening) ⟨hu, c, _, hshows', hflag⟩
  · refine .inr ⟨.ok .none, habs ▸ .listen hshows.endpoint ephemeral, ?_⟩
    refine settled_raise_flag .mListenMutex ⟨hu, c, _, hshows', rfl⟩ fun _ u hu => ?_
    exact settled_unlock hu (lasting_flag _) (fun _ _ h => h) fun u hu => settled_done hu.1

omit [DecidableEq ι] in
private theorem assigned_or (os : OS) (k : Kernel) (fd : SOCKET) (addr : Bytes) :
    addr.getD 2 0 = 0 ∧ addr.getD 3 0 = 0 ∨ k.assigned os fd addr = addr := by
  by_cases h : addr.getD 2 0 = 0 ∧ addr.getD 3 0 = 0
  · exact .inl h
  · exact .inr (if_neg h)

private theorem pending_bind_locked {ai : Addrinfo} {k : Int → Prog Reply}
    (hs : Sees S i {(o.1, .mBoundMutex)} o
      (fun c e => ai.aiSocktype = e.desc.sockType ∧ c.flag .mBoundMutex = e.flag .mBoundMutex) s)
    (hfail : ∀ u, Sees S i {(o.1, .mBoundMutex)} o
      (fun c e => c.flag .mBoundMutex = e.flag .mBoundMutex) u →
      Pending S i (Takes (.bind o ai)) (k socketError) u)
    (hok : ∀ u, Sees S i {(o.1, .mBoundMutex)} o (fun _ e => e.flag .mBoundMutex = true) u →
      Settled S i (.ok .none) (k 0) u) :
    Pending S i (Takes (.bind o ai)) (.call (.bind (S.fd o) ai.aiAddr ai.aiAddrlen) k) s := by
  refine pending_call (Sees.env (.and (lasting_sockType _) (lasting_flag _))) hs ?_ ?_
  · intro t ht
    obtain ⟨hholds, c, e, hshows, _⟩ := ht
    refine ⟨fun answer u hstep => ?_, orderly_of_plain rfl (by simp) t, trivial⟩
    exact (bind_step hholds (Set.mem_singleton _) hshows hstep).1
  intro t ret u ht hstep
  obtain ⟨hholds, c, e, hshows, htype, hflag⟩ := ht
  obtain ⟨_, hu, e', hshows', habs, hret⟩ :=
    bind_step hholds (Set.mem_singleton _) hshows hstep
  rcases hret with ⟨rfl, rfl⟩ | ⟨rfl, os, kernel, rfl⟩
  · refine .inl ⟨?_, hfail u ⟨hu, c, _, hshows', hflag⟩⟩
    rw [habs, ← hshows.endpoint]
    exact Function.update_eq_self ..
  · refine .inr ⟨.ok .none, ?_, hok u ⟨hu, c, _, hshows', rfl⟩⟩
    rw [habs]
    exact .bind hshows.endpoint htype _ (assigned_or os kernel _ _)

theorem pending_bind (ai : Addrinfo) (hs : Holds S i ∅ s) :
    Pending S i (Takes (.bind o ai)) (Request.bind o ai).code s := by
  refine pending_load_mSfd (hs.sees o) lasting_true fun u hu => ?_
  refine pending_harmless hu lasting_true trivial rfl (fun _ _ => trivial) ?_
  intro t answer u ht hstep hu habs
  obtain ⟨ret, soOption⟩ := answer
  refine .inl ⟨habs, ?_⟩
  by_cases hret : ret = socketError
  · simp only [Program.bind, if_pos hret]
    refine pending_throw_error hu lasting_true ?_ fun errno u hu => settled_raise hu.1
    exact fun t errno c e _ _ => .notBound .msg1007 errno (.inl rfl)
  -- The type is known from here on, and lasts.
  have htyped : Sees S i ∅ o (fun _ e => soOption = e.desc.sockType) u := by
    obtain ⟨_, c, e, hshows, -⟩ := ht
    have hharmless : Harmless S (.getsockopt (S.fd o) solSocket soType) := trivial
    have hshows' := (hharmless.keeps hstep).2.1 o c e hshows
    rcases getsockopt_tells hshows hstep with hfailed | ⟨os, k, hanswer⟩
    · exact absurd hfailed hret
    · exact ⟨hu.1, c, e, hshows', congrArg Prod.snd hanswer⟩
  by_cases htype : ai.aiSocktype ≠ soOption
  · simp only [Program.bind, if_neg hret, if_pos htype]
    intro v huv
    have hv := stable_env (Sees S i ∅ o fun _ e => soOption = e.desc.sockType)
      (Sees.env (lasting_sockType _)) htyped huv
    obtain ⟨hholds, c, e, hshows, rfl⟩ := hv
    exact ⟨.mismatch hshows.endpoint htype, hholds⟩
  · simp only [Program.bind, if_neg hret, if_neg htype]
    obtain rfl : ai.aiSocktype = soOption := not_not.mp htype
    refine pending_lock htyped (lasting_sockType _) fun u hu => ?_
    refine pending_load_mSfd hu (.and (lasting_sockType _) (lasting_flag _)) fun u hu => ?_
    refine pending_bind_locked hu (fun u hu => ?_) fun u hu => ?_
    · exact pending_throw_locked (fun _ errno => .notBound .msg1009 errno (.inr rfl)) hu
    · refine settled_raise_flag .mBoundMutex hu fun _ u hu => ?_
      exact settled_unlock hu (lasting_flag _) (fun _ _ h => h) fun u hu => settled_done hu.1

/-! ## All requests -/

theorem pending_own {p : Prog Reply} (h : Own S ∅ (fun _ => True) p) (hs : Holds S i ∅ s) :
    Pending S i (Takes (.own p h)) (Request.own p h).code s := by
  apply pending_of_silent
  apply always_mono (h.always hs)
  · exact fun _ _ ht => ⟨.own _, ht.1⟩
  · exact fun _ _ ht => ⟨.own _, ht⟩

/-- Threads that share objects make requests that take effect at one point, and
keep to their conduct meanwhile. -/
theorem atomic (S : Sharing) : Atomic (Request.code (S := S)) ThreadStep (Conduct S)
    (fun i => May S i) (Shared.endpoints S) (fun i => Holds (ι := ι) S i ∅) Takes where
  pending := by
    intro i request s hs
    cases request with
    | bind o ai => exact pending_bind ai hs
    | listen o => exact pending_listen hs
    | isBind o => exact pending_isBind hs
    | isListen o => exact pending_isListen hs
    | getPort o => exact pending_getPort hs
    | getSockerr o => exact pending_getSockerr hs
    | isReuseAddr o => exact pending_isReuseAddr hs
    | isV6only o => exact pending_isV6only hs
    | own p h => exact pending_own h hs
  idle := fun _ _ _ hs => hs.env
  guarantee := fun _ _ _ answer t hmay hstep => hmay.conduct answer t hstep

end
end ClientServerTcp
