import ClientServerTcp.Threads.Scope
import Mathlib.Order.BooleanAlgebra.Set

/-! The functions that begin and end lives, and those that pass what an object
owns on to another one. Each leads from one scope to the next, and back to the
first one when it raises. -/
namespace ClientServerTcp
open Effects Program

section
variable {base own : Hand} {E : Hand → Prop} {os : Set ObjId} {as : Set InfoId}

/-! ## socket.cpp -/

theorem manages_new : Manages base (· = own) Sys.new
    (fun o own' => own' = Function.update own (.object o) (some invalidSocket) ∧
      own.objects o = none) E :=
  (manages_call .new (by simp [Op.uses]) (by simp [Op.takes])).post fun o _ h =>
    ⟨h.1, (Option.or_eq_none_iff.mp (h.2 rfl _ _ rfl)).1⟩

theorem manages_delete {o : ObjId} (ho : (own.objects o).isSome) :
    Manages base (· = own) (Sys.delete o)
      (fun _ own' => own' = Function.update own (.object o) none ∧ True) E := by
  have hmem : ∀ x ∈ [Resource.object o], (own x).isSome := by simpa [Hand.objects] using ho
  exact (manages_call (.delete o) (fun x hx => Hand.sees_own (hmem x hx)) hmem).post
    fun _ _ h => ⟨h.1, trivial⟩

theorem manages_store_mSfd {o : ObjId} (ho : (own.objects o).isSome) (fd : SOCKET) :
    Manages base (· = own) (Sys.store o .mSfd fd)
      (fun _ own' => own' = Function.update own (.object o) (some fd) ∧ True) E := by
  have hmem : ∀ x ∈ [Resource.object o], (own x).isSome := by simpa [Hand.objects] using ho
  exact (manages_call (.store o .mSfd fd) (fun x hx => Hand.sees_own (hmem x hx)) hmem).post
    fun _ _ h => ⟨h.1, trivial⟩

namespace CSocket

variable {this that : ObjId}

theorem manages_constructBody (h : Scope os as own) (hthis : own.objects this = none)
    (aDomain aType aProtocol : Int) :
    Manages base (· = Function.update own (.object this) (some invalidSocket))
      (constructBody this aDomain aType aProtocol) (fun _ => Scope (insert this os) as)
      (· = Function.update own (.object this) (some invalidSocket)) := by
  refine Triple.ite (fun _ => Triple.pure ?_) fun _ => ?_
  · rintro _ rfl
    exact h.bornEmpty hthis
  obtain ⟨own₁, hown₁⟩ : ∃ own₁ : Hand, own₁ = Function.update own (.object this) (some invalidSocket) :=
    ⟨_, rfl⟩
  rw [← hown₁]
  refine (manages_call (.socket ..) (by simp [Op.uses]) (by simp [Op.takes])).bind_at ?_
  intro sfd hopened
  refine Triple.ite (fun hfailed => ?_) fun hvalid => ?_
  · rw [Op.change, hfailed]
    exact manages_throw_error (E := (· = own₁)) rfl _
  rw [Op.change, Hand.change_opened hvalid]
  have hnew : own₁ (.descriptor sfd) = none := Learns.opened hvalid (hopened rfl)
  obtain ⟨own₂, hown₂⟩ :
      ∃ own₂ : Hand, own₂ = Function.update own₁ (.descriptor sfd) (some ()) := ⟨_, rfl⟩
  have hseen : (base.sees own₂).Valid sfd := hown₂ ▸ Hand.valid_opened.sees
  have hobject : own₂.objects this = some invalidSocket := by simp [hown₂, hown₁]
  have hstores : Manages base (· = own₂) (do
      Sys.store this .mSfd sfd
      Sys.store this .mAf aDomain) (fun _ => Scope (insert this os) as) (· = own₁) := by
    refine (manages_store_mSfd (by simp [hobject]) sfd).bind_at fun _ _ => ?_
    refine (keeps_store (Hand.sees_own (by simp)) .mAf (by simp) aDomain).post ?_
    rintro _ _ ⟨rfl, -⟩
    have hdescriptor : own.descriptors sfd = none := by
      simpa [hown₁, Hand.descriptors] using hnew
    have hborn := h.born hthis hdescriptor hvalid
    rw [Function.update_comm (by simp)] at hborn
    rwa [hown₂, hown₁, Function.update_comm (by simp), Function.update_idem]
  have hclose : ∀ errmsg, Manages base (· = own₂) (do
      let _ ← closeSocketP sfd
      throw_error errmsg) (fun (_ : Unit) => Scope (insert this os) as) (· = own₁) := by
    intro errmsg
    rw [hown₂]
    exact (keeps_close hvalid hnew).bind_at fun _ _ => manages_throw_error (E := (· = own₁)) rfl _
  rw [← hown₂]
  refine (Keeps.syscall (.setsockopt ..) hseen rfl rfl fun _ => rfl).bind_at fun ret _ => ?_
  refine Triple.ite (fun _ => hclose _) fun _ => Triple.ite (fun _ => ?_) fun _ => hstores
  refine (Keeps.syscall (.setsockopt ..) hseen rfl rfl fun _ => rfl).bind_at fun ret _ => ?_
  exact Triple.ite (fun _ => hclose _) fun _ => hstores

theorem manages_construct (aDomain aType aProtocol : Int) :
    Manages base (Scope os as) (construct aDomain aType aProtocol)
      (fun o own => o ∉ os ∧ Scope (insert o os) as own) (Scope os as) := by
  refine Triple.at_each fun own h => manages_new.bind_at fun this hthis => ?_
  have hnew : this ∉ os := fun hmem => by simpa [hthis] using (h.objects this).mpr hmem
  refine Triple.bind (Triple.onError (manages_constructBody h hthis _ _ _) fun _ => ?_) fun _ =>
    Triple.pure fun _ hown => ⟨hnew, hown⟩
  refine (manages_delete (by simp)).post ?_
  rintro _ _ ⟨rfl, -⟩
  rwa [Function.update_idem, ← hthis, Hand.objects, Function.update_eq_self]

theorem manages_destruct (hthis : this ∈ os) :
    Manages base (Scope os as) (destruct this) (fun _ => Scope (os \ {this}) as) E := by
  refine Triple.at_each fun own h => ?_
  obtain ⟨fd, hfd⟩ := Option.isSome_iff_exists.mp ((h.objects this).mpr hthis)
  refine (keeps_load_own hfd).bind_at ?_
  rintro fd rfl
  -- What is left of the object once its descriptor is closed.
  have hrest : ∀ {own₁ : Hand}, own₁.objects = own.objects →
      Scope (os \ {this}) as (Function.update own₁ (.object this) none) →
      Manages base (· = own₁) (do
        Sys.store this .mSfd invalidSocket
        Sys.delete this) (fun _ => Scope (os \ {this}) as) E := by
    intro own₁ hobjects hscope
    refine (manages_store_mSfd (by simp [hobjects, hfd]) _).bind_at fun _ _ => ?_
    refine (manages_delete (by simp)).post ?_
    rintro _ _ ⟨rfl, -⟩
    rwa [Function.update_idem]
  by_cases hvalid : fd = invalidSocket
  · rw [hvalid] at hfd ⊢
    refine (manages_call (.close invalidSocket) (by simp [Op.uses]) (by simp [Op.takes])).bind_at ?_
    exact fun _ _ => hrest rfl (h.deadEmpty hfd)
  · have hopen : (own (.descriptor fd)).isSome :=
      Option.isSome_of_eq_some (h.sockets.noted (Hand.socketOf_valid hfd hvalid))
    have htakes : ∀ x ∈ (Op.close fd).takes, (own x).isSome := by
      simpa [Op.takes, hvalid] using hopen
    have huses : ∀ x ∈ (Op.close fd).uses, (base.sees own x).isSome := by
      simpa [Op.uses, hvalid] using Hand.sees_own hopen
    refine (manages_call (.close fd) huses htakes).bind_at fun _ _ => ?_
    rw [Op.change, if_neg hvalid, Hand.change]
    exact hrest (by simp) (h.dead hfd hvalid)

theorem keeps_takeM (hthis : (base.sees own (.object this)).isSome)
    (hthat : (base.sees own (.object that)).isSome) (f : Field) (hf : f ≠ .mSfd) (reset : f.Ty) :
    Keeps base own E (fun _ => True) (takeM this that f reset) :=
  .bind (keeps_load hthat f) fun value _ =>
    .bind (keeps_store hthis f hf value) fun _ _ => keeps_store hthat f hf reset

theorem keeps_swapM (hthis : (base.sees own (.object this)).isSome)
    (hthat : (base.sees own (.object that)).isSome) (f : Field) (hf : f ≠ .mSfd) :
    Keeps base own E (fun _ => True) (swapM this that f) :=
  .bind (keeps_load hthis f) fun mine _ => .bind (keeps_load hthat f) fun theirs _ =>
    .bind (keeps_store hthis f hf theirs) fun _ _ => keeps_store hthat f hf mine

theorem keeps_lockBoth (hthis : (base.sees own (.object this)).isSome) {body : Prog Unit}
    (hbody : ∀ E, Keeps base own E (fun _ => True) body) :
    Keeps base own E (fun _ => True) (lockBoth this body) :=
  .scopedLock hthis (.scopedLock hthis (hbody _))

theorem manages_moveConstruct (hthat : that ∈ os) :
    Manages base (Scope os as) (moveConstruct that)
      (fun o own => o ∉ os ∧ Scope (insert o os) as own) E := by
  refine Triple.at_each fun own h => manages_new.bind_at fun this hthis => ?_
  have hnew : this ∉ os := fun hmem => by simpa [hthis] using (h.objects this).mpr hmem
  have hne : that ≠ this := by
    rintro rfl
    exact hnew hthat
  obtain ⟨fd, hfd⟩ := Option.isSome_iff_exists.mp ((h.objects that).mpr hthat)
  obtain ⟨own₁, hown₁⟩ : ∃ own₁ : Hand,
      own₁ = Function.update own (.object this) (some invalidSocket) := ⟨_, rfl⟩
  have hthis₁ : own₁.objects this = some invalidSocket := by simp [hown₁]
  have hthat₁ : own₁.objects that = some fd := by simp [hown₁, hne, hfd]
  rw [← hown₁]
  refine (keeps_takeM (Hand.sees_own (Option.isSome_of_eq_some hthis₁))
    (Hand.sees_own (Option.isSome_of_eq_some hthat₁)) .mAf (by simp) (-1)).bind_at fun _ _ => ?_
  -- The descriptor has two owners for a moment.
  have hmSfd : Manages base (· = own₁) (takeM this that .mSfd invalidSocket)
      (fun _ own' => own' = Function.update (Function.update own (.object this) (some fd))
        (.object that) (some invalidSocket) ∧ True) E := by
    refine (keeps_load_own hthat₁).bind_at ?_
    rintro fd rfl
    refine (manages_store_mSfd (by simp [hthis₁]) fd).bind_at fun _ _ => ?_
    refine (manages_store_mSfd (by simp [hthat₁, hne]) _).post ?_
    rintro _ _ ⟨rfl, -⟩
    rw [hown₁, Function.update_idem]
    exact ⟨rfl, trivial⟩
  refine hmSfd.bind_at fun _ _ => ?_
  obtain ⟨own₂, hown₂⟩ : ∃ own₂ : Hand, own₂ = Function.update
      (Function.update own (.object this) (some fd)) (.object that) (some invalidSocket) :=
    ⟨_, rfl⟩
  have hthis₂ : (base.sees own₂ (.object this)).isSome :=
    Hand.sees_own (show (own₂.objects this).isSome by simp [hown₂, hne.symm])
  have hthat₂ : (base.sees own₂ (.object that)).isSome :=
    Hand.sees_own (show (own₂.objects that).isSome by simp [hown₂])
  have hflags : ∀ E, Keeps base own₂ E (fun _ => True) (do
      takeM this that .mBound false
      takeM this that .mListen false) := fun _ =>
    .bind (keeps_takeM hthis₂ hthat₂ .mBound (by simp) false) fun _ _ =>
      keeps_takeM hthis₂ hthat₂ .mListen (by simp) false
  rw [← hown₂]
  refine (keeps_lockBoth hthis₂ hflags).bind_at fun _ _ => Triple.pure ?_
  rintro _ rfl
  exact ⟨hnew, hown₂ ▸ h.moved hthis hfd⟩

theorem manages_assign (hthis : this ∈ os) (hthat : that ∈ os) :
    Manages base (Scope os as) (assign this that) (fun _ => Scope os as) E := by
  refine Triple.at_each fun own h => ?_
  obtain ⟨fd, hfd⟩ := Option.isSome_iff_exists.mp ((h.objects this).mpr hthis)
  obtain ⟨fd', hfd'⟩ := Option.isSome_iff_exists.mp ((h.objects that).mpr hthat)
  have hmSfd : Manages base (· = own) (swapM this that .mSfd) (fun _ own' =>
      own' = Function.update (Function.update own (.object this) (some fd')) (.object that)
        (some fd) ∧ True) E := by
    refine (keeps_load_own hfd).bind_at ?_
    rintro fd rfl
    refine (keeps_load_own hfd').bind_at ?_
    rintro fd' rfl
    refine (manages_store_mSfd (by simp [hfd]) fd').bind_at fun _ _ => manages_store_mSfd ?_ fd
    rw [Hand.objects_object]
    by_cases heq : that = this
    · simp [heq]
    · simp [heq, hfd']
  refine hmSfd.bind_at fun _ _ => ?_
  have hswapped := h.swapped hfd hfd'
  have hmine : (base.sees _ (.object this)).isSome := (hswapped.usable hthis).object
  have htheirs : (base.sees _ (.object that)).isSome := (hswapped.usable hthat).object
  refine (keeps_swapM hmine htheirs .mAf (by simp)).bind_at fun _ _ => ?_
  refine (keeps_lockBoth hmine fun E => .bind (keeps_swapM hmine htheirs .mBound (by simp))
    fun _ _ => keeps_swapM hmine htheirs .mListen (by simp)).post ?_
  rintro _ _ ⟨rfl, -⟩
  exact hswapped

theorem manages_block {α β : Type} {acquire : Prog β} {body : β → Prog α} (sfd : β → ObjId)
    (hacquire : Manages base (Scope os as) acquire
      (fun object own => sfd object ∉ os ∧ Scope (insert (sfd object) os) as own) (Scope os as))
    (hbody : ∀ object, Manages base (Scope (insert (sfd object) os) as) (body object)
      (fun _ => Scope (insert (sfd object) os) as) (Scope (insert (sfd object) os) as)) :
    Manages base (Scope os as) (.bracket acquire (fun object => destruct (sfd object)) body)
      (fun _ => Scope os as) (Scope os as) := by
  refine Triple.bind hacquire fun object => Triple.assume fun hnew => ?_
  have hend : ∀ E, Manages base (Scope (insert (sfd object) os) as) (destruct (sfd object))
      (fun _ => Scope os as) E := by
    intro E
    refine (manages_destruct (Set.mem_insert _ _)).post fun _ own h => ?_
    rwa [Set.insert_sdiff_self_of_notMem hnew] at h
  exact (hbody object).onExit (fun _ => hend _) fun _ => hend _

theorem manages_moveAssign (hthis : this ∈ os) (hthat : that ∈ os) :
    Manages base (Scope os as) (moveAssign this that) (fun _ => Scope os as) (Scope os as) :=
  manages_block id (manages_moveConstruct hthat) fun _ =>
    manages_assign (Set.mem_insert_of_mem _ hthis) (Set.mem_insert _ _)

end CSocket

/-! ## addrinfo.cpp -/

theorem manages_newInfo (init : CAddrinfo) : Manages base (· = own) (Sys.newInfo init)
    (fun a own' => own' = Function.update own (.info a) (some init.mRes) ∧ own.infos a = none) E :=
  (manages_call (.newInfo init) (by simp [Op.uses]) (by simp [Op.takes])).post fun a _ h =>
    ⟨h.1, (Option.or_eq_none_iff.mp (h.2 rfl _ _ rfl)).1⟩

section
variable {a : InfoId} (ha : (own.infos a).isSome)
include ha

private theorem own_info : ∀ x ∈ [Resource.info a], (own x).isSome := by
  simpa [Hand.infos] using ha

theorem manages_deleteInfo : Manages base (· = own) (Sys.deleteInfo a)
    (fun _ own' => own' = Function.update own (.info a) none ∧ True) E :=
  (manages_call (.deleteInfo a) (fun x hx => Hand.sees_own (own_info ha x hx)) (own_info ha)).post
    fun _ _ h => ⟨h.1, trivial⟩

theorem manages_storeInfo_mRes (res : Ptr) : Manages base (· = own) (Sys.storeInfo a .mRes res)
    (fun _ own' => own' = Function.update own (.info a) (some res) ∧ True) E :=
  (manages_call (.storeInfo a .mRes res) (fun x hx => Hand.sees_own (own_info ha x hx))
    (own_info ha)).post fun _ _ h => ⟨h.1, trivial⟩

theorem keeps_storeInfo (f : InfoField) (hf : f ≠ .mRes) (value : f.Ty) :
    Keeps base own E (fun _ => True) (Sys.storeInfo a f value) := by
  have huses : ∀ x ∈ [Resource.info a], (base.sees own x).isSome :=
    fun x hx => Hand.sees_own (own_info ha x hx)
  cases f with
  | mRes => contradiction
  | mNode | mService | mHints =>
    exact (Keeps.call (.storeInfo a _ value) huses (own_info ha) fun _ => rfl).mono
      fun _ _ => trivial

theorem keeps_loadInfo_own (f : InfoField) :
    Keeps base own E (fun _ => True) (Sys.loadInfo a f) :=
  keeps_loadInfo (Hand.sees_own (own_info ha _ List.mem_cons_self)) f

end

theorem keeps_loadInfo_res {a : InfoId} {res : Ptr} (ha : own.infos a = some res) :
    Keeps base own E (· = res) (Sys.loadInfo a .mRes) :=
  keeps_loadInfo_mRes (Hand.sees_eq ha)

theorem manages_list (op : Op) {res : Ptr} (hres : (own.lists res).isSome)
    (huses : op.uses = [.list res]) (htakes : op.takes = [.list res]) :
    Manages base (· = own) (Sys.call op)
      (fun answer own' => own' = own.change (op.change answer) ∧ True) E := by
  have hmem : ∀ x ∈ [Resource.list res], (own x).isSome := by simpa [Hand.lists] using hres
  refine (manages_call op ?_ ?_).post fun _ _ h => ⟨h.1, trivial⟩
  · rw [huses]
    exact fun x hx => Hand.sees_own (hmem x hx)
  · rwa [htakes]

namespace CAddrinfo

variable {this that : InfoId}

theorem manages_getNewAddrinfo (hthis : (own.infos this).isSome) (hE : E own) :
    Manages base (· = own) (getNewAddrinfo this)
      (fun res own' => own' = Function.update own (.list res) (some ()) ∧ own.lists res = none)
      E := by
  refine (keeps_loadInfo_own hthis _).bind_at fun mNode _ => ?_
  refine (keeps_loadInfo_own hthis _).bind_at fun mService _ => ?_
  refine (keeps_loadInfo_own hthis _).bind_at fun mHints _ => ?_
  refine (manages_call (.getaddrinfo _) (by simp [Op.uses]) (by simp [Op.takes])).bind_at ?_
  rintro ⟨ret, newRes⟩ hobtained
  refine Triple.ite (fun hfailed => ?_) fun hret => ?_
  · rw [Op.change, if_neg hfailed]
    exact Triple.raise fun _ hs => hs ▸ hE
  have hret : ret = 0 := not_not.mp hret
  have hnew : own.lists newRes = none :=
    (Option.or_eq_none_iff.mp (hobtained rfl _ _ (if_pos hret))).1
  obtain ⟨own₁, hown₁⟩ : ∃ own₁ : Hand, own₁ = Function.update own (.list newRes) (some ()) :=
    ⟨_, rfl⟩
  have hthis₁ : (own₁.infos this).isSome := by simpa [hown₁] using hthis
  have hlist : (own₁.lists newRes).isSome := by simp [hown₁]
  rw [Op.change, if_pos hret, Hand.change, ← hown₁]
  refine (keeps_loadInfo_own hthis₁ _).bind_at fun hints _ => ?_
  refine (manages_list (.writeProtocol newRes _) hlist rfl rfl).bind_at fun _ _ => ?_
  refine (keeps_loadInfo_own hthis₁ _).bind_at fun hints _ => ?_
  refine (manages_list (.writeFlags newRes _) hlist rfl rfl).bind_at fun _ _ => Triple.pure ?_
  rintro _ rfl
  exact ⟨hown₁, hnew⟩

theorem manages_fill (h : Scope os as own) (hthis : own.infos this = none) :
    Manages base (· = Function.update own (.info this) (some 0)) (fill this)
      (fun a own => a ∉ as ∧ Scope os (insert a as) own) (Scope os as) := by
  have hnew : this ∉ as := fun hmem => by simpa [hthis] using (h.infos this).mpr hmem
  obtain ⟨own₁, hown₁⟩ : ∃ own₁ : Hand, own₁ = Function.update own (.info this) (some 0) :=
    ⟨_, rfl⟩
  have hthis₁ : (own₁.infos this).isSome := by simp [hown₁]
  have hlist : Manages base (· = own₁) (do Sys.storeInfo this .mRes (← getNewAddrinfo this))
      (fun _ => Scope os (insert this as)) (· = own₁) := by
    refine (manages_getNewAddrinfo (E := (· = own₁)) hthis₁ rfl).bind_at fun res hres => ?_
    refine (manages_storeInfo_mRes (by simpa using hthis₁) res).post ?_
    rintro _ _ ⟨rfl, -⟩
    have hborn := h.bornInfo hthis (by simpa [hown₁] using hres)
    rw [Function.update_comm (by simp)] at hborn
    rwa [hown₁, Function.update_comm (by simp), Function.update_idem]
  rw [← hown₁]
  refine Triple.bind (hlist.onError fun _ => ?_) fun _ => Triple.pure fun _ hown => ⟨hnew, hown⟩
  refine (manages_deleteInfo hthis₁).post ?_
  rintro _ _ ⟨rfl, -⟩
  rwa [hown₁, Function.update_idem, ← hthis, Hand.infos, Function.update_eq_self]

theorem manages_construct (aNode aService : String) (aFamily aSocktype aFlags aProtocol : Int) :
    Manages base (Scope os as) (construct aNode aService aFamily aSocktype aFlags aProtocol)
      (fun a own => a ∉ as ∧ Scope os (insert a as) own) (Scope os as) :=
  Triple.at_each fun _ h => (manages_newInfo _).bind_at fun _ hthis => manages_fill h hthis

theorem manages_copy (hthat : that ∈ as) :
    Manages base (Scope os as) (copy that)
      (fun a own => a ∉ as ∧ Scope os (insert a as) own) (Scope os as) := by
  refine Triple.at_each fun own h => (manages_newInfo {}).bind_at fun this hthis => ?_
  obtain ⟨res, hres⟩ := Option.isSome_iff_exists.mp ((h.infos that).mpr hthat)
  have hne : that ≠ this := by
    rintro rfl
    simp [hthis] at hres
  have hthis₁ : (Hand.infos (Function.update own (.info this) (some 0)) this).isSome := by simp
  have hthat₁ : (Hand.infos (Function.update own (.info this) (some 0)) that).isSome := by
    simp [hne, hres]
  refine (keeps_loadInfo_own hthat₁ _).bind_at fun mNode _ => ?_
  refine (keeps_storeInfo hthis₁ .mNode (by simp) mNode).bind_at fun _ _ => ?_
  refine (keeps_loadInfo_own hthat₁ _).bind_at fun mService _ => ?_
  refine (keeps_storeInfo hthis₁ .mService (by simp) mService).bind_at fun _ _ => ?_
  refine (keeps_loadInfo_own hthat₁ _).bind_at fun mHints _ => ?_
  refine (keeps_storeInfo hthis₁ .mHints (by simp) mHints).bind_at fun _ _ => ?_
  exact manages_fill h hthis

theorem manages_destruct (hthis : this ∈ as) :
    Manages base (Scope os as) (destruct this) (fun _ => Scope os (as \ {this})) E := by
  refine Triple.at_each fun own h => ?_
  obtain ⟨res, hres⟩ := Option.isSome_iff_exists.mp ((h.infos this).mpr hthis)
  refine (keeps_loadInfo_res hres).bind_at ?_
  rintro res rfl
  have hlist : (own.lists res).isSome :=
    Option.isSome_of_eq_some (h.addrs.noted (Hand.listOf_some hres))
  refine (manages_list (.freeaddrinfo res) hlist rfl rfl).bind_at fun _ _ => ?_
  rw [Op.change, Hand.change]
  refine (manages_storeInfo_mRes (by simp [hres]) 0).bind_at fun _ _ => ?_
  refine (manages_deleteInfo (by simp)).post ?_
  rintro _ _ ⟨rfl, -⟩
  rw [Function.update_idem]
  exact h.deadInfo hres

theorem keeps_swapM (hthis : (own.infos this).isSome) (hthat : (own.infos that).isSome)
    (f : InfoField) (hf : f ≠ .mRes) : Keeps base own E (fun _ => True) (swapM this that f) :=
  .bind (keeps_loadInfo_own hthis f) fun mine _ =>
    .bind (keeps_loadInfo_own hthat f) fun theirs _ =>
      .bind (keeps_storeInfo hthis f hf theirs) fun _ _ => keeps_storeInfo hthat f hf mine

theorem manages_assign (hthis : this ∈ as) (hthat : that ∈ as) :
    Manages base (Scope os as) (assign this that) (fun _ => Scope os as) E := by
  refine Triple.at_each fun own h => ?_
  obtain ⟨res, hres⟩ := Option.isSome_iff_exists.mp ((h.infos this).mpr hthis)
  obtain ⟨res', hres'⟩ := Option.isSome_iff_exists.mp ((h.infos that).mpr hthat)
  have hmRes : Manages base (· = own) (swapM this that .mRes) (fun _ own' =>
      own' = Function.update (Function.update own (.info this) (some res')) (.info that)
        (some res) ∧ True) E := by
    refine (keeps_loadInfo_res hres).bind_at ?_
    rintro res rfl
    refine (keeps_loadInfo_res hres').bind_at ?_
    rintro res' rfl
    refine (manages_storeInfo_mRes (by simp [hres]) res').bind_at fun _ _ => ?_
    refine manages_storeInfo_mRes ?_ res
    rw [Hand.infos_info]
    by_cases heq : that = this
    · simp [heq]
    · simp [heq, hres']
  refine hmRes.bind_at fun _ _ => ?_
  have hswapped := h.swappedInfo hres hres'
  have hmine := (hswapped.infos this).mpr hthis
  have htheirs := (hswapped.infos that).mpr hthat
  refine (keeps_swapM hmine htheirs .mNode (by simp)).bind_at fun _ _ => ?_
  refine (keeps_swapM hmine htheirs .mService (by simp)).bind_at fun _ _ => ?_
  refine (keeps_swapM hmine htheirs .mHints (by simp)).post ?_
  rintro _ _ ⟨rfl, -⟩
  exact hswapped

theorem manages_block {α : Type} {acquire : Prog InfoId} {body : InfoId → Prog α}
    (hacquire : Manages base (Scope os as) acquire
      (fun a own => a ∉ as ∧ Scope os (insert a as) own) (Scope os as))
    (hbody : ∀ a, Manages base (Scope os (insert a as)) (body a)
      (fun _ => Scope os (insert a as)) (Scope os (insert a as))) :
    Manages base (Scope os as) (.bracket acquire destruct body) (fun _ => Scope os as)
      (Scope os as) := by
  refine Triple.bind hacquire fun a => Triple.assume fun hnew => ?_
  have hend : ∀ E, Manages base (Scope os (insert a as)) (destruct a)
      (fun _ => Scope os as) E := by
    intro E
    refine (manages_destruct (Set.mem_insert _ _)).post fun _ own h => ?_
    rwa [Set.insert_sdiff_self_of_notMem hnew] at h
  exact (hbody a).onExit (fun _ => hend _) fun _ => hend _

theorem manages_copyAssign (hthis : this ∈ as) (hthat : that ∈ as) :
    Manages base (Scope os as) (copyAssign this that) (fun _ => Scope os as) (Scope os as) :=
  manages_block (manages_copy hthat) fun _ =>
    manages_assign (Set.mem_insert_of_mem _ hthis) (Set.mem_insert _ _)

end CAddrinfo

/-! ## server-tcp.cpp and client-tcp.cpp -/

theorem manages_of_keeps {α : Type} {p : Prog α}
    (hp : ∀ own, Scope os as own → Keeps base own (Scope os as) (fun _ => True) p) :
    Manages base (Scope os as) p (fun _ => Scope os as) (Scope os as) :=
  Triple.at_each fun own h => (hp own h).post fun _ _ heq => heq.1 ▸ h

namespace CServerTCP

theorem manages_constructBody {sfd : ObjId} (hsfd : sfd ∈ os) (aPort : String) :
    Manages base (Scope os as) (constructBody sfd aPort) (fun _ => Scope os as)
      (Scope os as) := by
  refine CAddrinfo.manages_block (CAddrinfo.manages_construct _ _ _ _ _ _) fun ai => ?_
  refine manages_of_keeps fun own h => ?_
  refine .bind (CAddrinfo.keeps_arrow (h.readable (Set.mem_insert _ _)) h) fun entry _ => ?_
  refine .bind (CSocket.keeps_bind (h.usable hsfd) h entry) fun _ _ => ?_
  exact CSocket.keeps_listen (h.usable hsfd) h

theorem manages_construct (aPort : String) (aReuseAddr : Bool) :
    Manages base (Scope os as) (construct aPort aReuseAddr)
      (fun server own => server.mListenSfd ∉ os ∧ Scope (insert server.mListenSfd os) as own)
      (Scope os as) := by
  refine Triple.bind (CSocket.manages_construct _ _ _) fun sfd => Triple.assume fun hnew => ?_
  have hmem : sfd ∈ insert sfd os := Set.mem_insert _ _
  refine Triple.bind (T := fun _ => Scope (insert sfd os) as) ?_ fun _ => ?_
  · exact Triple.at_each fun own h =>
      (keeps_storeReady ⟨sfd⟩ (h.usable hmem) false).post fun _ _ heq => heq.1 ▸ h
  refine Triple.bind ((manages_constructBody hmem aPort).onError fun _ => ?_) fun _ =>
    Triple.pure fun _ hown => ⟨hnew, hown⟩
  refine (CSocket.manages_destruct hmem).post fun _ own h => ?_
  rwa [Set.insert_sdiff_self_of_notMem hnew] at h

end CServerTCP

theorem manages_quitServer :
    Manages base (Scope os as) quitServer (fun _ => Scope os as) (Scope os as) := by
  refine CSocket.manages_block id (CSocket.manages_construct _ _ _) fun sock => ?_
  refine CAddrinfo.manages_block (CAddrinfo.manages_construct _ _ _ _ _ _) fun ai => ?_
  exact manages_of_keeps fun own h =>
    keeps_quitServerBody (h.owned (Set.mem_insert _ _)) (h.readable (Set.mem_insert _ _)) h

end
end ClientServerTcp
