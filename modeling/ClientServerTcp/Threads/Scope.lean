import ClientServerTcp.Library.Ledger
import ClientServerTcp.Threads.Usage

/-! What a thread has between its function calls: some objects, the descriptors
and address lists that belong to these, and nothing else. -/
namespace ClientServerTcp
open Effects Program Ownership

namespace Hand

variable (h : Hand)

def objects (o : ObjId) : Option SOCKET := h (.object o)
def infos (a : InfoId) : Option Ptr := h (.info a)
def descriptors (fd : SOCKET) : Option Unit := h (.descriptor fd)
def lists (res : Ptr) : Option Unit := h (.list res)

def owned (fd : SOCKET) : Option (SOCKET × Unit) :=
  if fd = invalidSocket then none else some (fd, ())

def socketOf (o : ObjId) : Option (SOCKET × Unit) := (h.objects o).bind owned
def listOf (a : InfoId) : Option (Ptr × Unit) := (h.infos a).map fun res => (res, ())

section
variable {h} {x : Resource} {new : Option x.Known}

@[simp] theorem objects_of_ne (hx : ∀ o, .object o ≠ x) :
    objects (Function.update h x new) = h.objects :=
  funext fun o => Function.update_of_ne (hx o) ..

@[simp] theorem infos_of_ne (hx : ∀ a, .info a ≠ x) :
    infos (Function.update h x new) = h.infos :=
  funext fun a => Function.update_of_ne (hx a) ..

@[simp] theorem descriptors_of_ne (hx : ∀ fd, .descriptor fd ≠ x) :
    descriptors (Function.update h x new) = h.descriptors :=
  funext fun fd => Function.update_of_ne (hx fd) ..

@[simp] theorem lists_of_ne (hx : ∀ res, .list res ≠ x) :
    lists (Function.update h x new) = h.lists :=
  funext fun res => Function.update_of_ne (hx res) ..

end

@[simp] theorem objects_object (o : ObjId) (new : Option SOCKET) :
    objects (Function.update h (.object o) new) = Function.update h.objects o new := by
  funext o'
  by_cases heq : o' = o
  · subst heq
    simp [objects]
  · simp [objects, heq]

@[simp] theorem infos_info (a : InfoId) (new : Option Ptr) :
    infos (Function.update h (.info a) new) = Function.update h.infos a new := by
  funext a'
  by_cases heq : a' = a
  · subst heq
    simp [infos]
  · simp [infos, heq]

@[simp] theorem descriptors_descriptor (fd : SOCKET) (new : Option Unit) :
    descriptors (Function.update h (.descriptor fd) new) =
      Function.update h.descriptors fd new := by
  funext fd'
  by_cases heq : fd' = fd
  · subst heq
    simp [descriptors]
  · simp [descriptors, heq]

@[simp] theorem lists_list (res : Ptr) (new : Option Unit) :
    lists (Function.update h (.list res) new) = Function.update h.lists res new := by
  funext res'
  by_cases heq : res' = res
  · subst heq
    simp [lists]
  · simp [lists, heq]

@[simp] theorem socketOf_object (o : ObjId) (new : Option SOCKET) :
    socketOf (Function.update h (.object o) new) =
      Function.update h.socketOf o (new.bind owned) := by
  funext o'
  by_cases heq : o' = o <;> simp [socketOf, heq]

@[simp] theorem socketOf_descriptor (fd : SOCKET) (new : Option Unit) :
    socketOf (Function.update h (.descriptor fd) new) = h.socketOf := by
  funext o
  simp [socketOf]

@[simp] theorem listOf_info (a : InfoId) (new : Option Ptr) :
    listOf (Function.update h (.info a) new) =
      Function.update h.listOf a (new.map fun res => (res, ())) := by
  funext a'
  by_cases heq : a' = a <;> simp [listOf, heq]

@[simp] theorem listOf_list (res : Ptr) (new : Option Unit) :
    listOf (Function.update h (.list res) new) = h.listOf := by
  funext a
  simp [listOf]

end Hand

structure Scope (os : Set ObjId) (as : Set InfoId) (own : Hand) : Prop where
  objects : ∀ o, (own.objects o).isSome ↔ o ∈ os
  infos : ∀ a, (own.infos a).isSome ↔ a ∈ as
  sockets : Exact own.socketOf own.descriptors
  addrs : Exact own.listOf own.lists

section
variable {X Y : Type} [DecidableEq X] {f : X → Option Y} {s : Set X}

private theorem isSome_insert (h : ∀ x, (f x).isSome ↔ x ∈ s) (x : X) (value : Y) (x' : X) :
    (Function.update f x (some value) x').isSome ↔ x' ∈ insert x s := by
  by_cases heq : x' = x
  · simp [heq]
  · simp [heq, h]

private theorem isSome_erase (h : ∀ x, (f x).isSome ↔ x ∈ s) (x x' : X) :
    (Function.update f x none x').isSome ↔ x' ∈ s \ {x} := by
  by_cases heq : x' = x
  · simp [heq]
  · simp [heq, h]

end

section
variable {base own own' : Hand} {os os' : Set ObjId} {as as' : Set InfoId} {o this that : ObjId}
  {a : InfoId} {fd fd' : SOCKET} {res res' : Ptr}

theorem Hand.socketOf_valid (ho : own.objects o = some fd) (hfd : fd ≠ invalidSocket) :
    own.socketOf o = some (fd, ()) := by
  simp [socketOf, owned, ho, hfd]

theorem Hand.socketOf_none (ho : own.objects o = none) : own.socketOf o = none := by
  simp [socketOf, ho]

theorem Hand.listOf_some (ha : own.infos a = some res) : own.listOf a = some (res, ()) := by
  simp [listOf, ha]

theorem Hand.listOf_none (ha : own.infos a = none) : own.listOf a = none := by
  simp [listOf, ha]

namespace Scope

theorem owned (h : Scope os as own) (ho : o ∈ os) : own.Usable o := by
  obtain ⟨fd, hfd⟩ := Option.isSome_iff_exists.mp ((h.objects o).mpr ho)
  refine ⟨fd, hfd, fun hvalid => ?_⟩
  exact Option.isSome_of_eq_some (h.sockets.noted (Hand.socketOf_valid hfd hvalid))

theorem usable (h : Scope os as own) (ho : o ∈ os) : (base.sees own).Usable o :=
  (h.owned ho).sees

theorem readable (h : Scope os as own) (ha : a ∈ as) : (base.sees own).Readable a := by
  obtain ⟨res, hres⟩ := Option.isSome_iff_exists.mp ((h.infos a).mpr ha)
  refine ⟨res, Hand.sees_eq hres, Hand.sees_own ?_⟩
  exact Option.isSome_of_eq_some (h.addrs.noted (Hand.listOf_some hres))

theorem usable_base (h : Scope os as own) (ho : base.Usable o) : (base.sees own).Usable o := by
  cases hown : own.objects o with
  | some fd => exact h.usable ((h.objects o).mp (Option.isSome_of_eq_some hown))
  | none =>
    obtain ⟨fd, hfd, hvalid⟩ := ho
    refine ⟨fd, ?_, fun hne => ?_⟩
    · rw [Hand.sees, show own (.object o) = none from hown, Option.none_or, hfd]
    · rw [Hand.sees, Option.isSome_or, hvalid hne, Bool.or_true]

theorem eq_none (h : Scope ∅ ∅ own) : own = fun _ => none := by
  have hobjects : ∀ o, own.objects o = none := fun o => by simpa using h.objects o
  have hinfos : ∀ a, own.infos a = none := fun a => by simpa using h.infos a
  funext x
  cases x with
  | object o => exact hobjects o
  | info a => exact hinfos a
  | descriptor fd =>
    by_contra hne
    obtain ⟨o, _, ho⟩ := (h.sockets.exists_iff fd).mp (Option.isSome_iff_ne_none.mpr hne)
    simp [Hand.socketOf_none (hobjects o)] at ho
  | list res =>
    by_contra hne
    obtain ⟨a, _, ha⟩ := (h.addrs.exists_iff res).mp (Option.isSome_iff_ne_none.mpr hne)
    simp [Hand.listOf_none (hinfos a)] at ha

theorem nothing : Scope ∅ ∅ fun _ => none where
  objects := by simp [Hand.objects]
  infos := by simp [Hand.infos]
  sockets := Exact.empty
  addrs := Exact.empty

/-! ## What the functions do to it -/

private theorem of_sockets (h : Scope os as own) (hinfos : own'.infos = own.infos)
    (hlists : own'.lists = own.lists) (hobjects : ∀ o, (own'.objects o).isSome ↔ o ∈ os')
    (hsockets : Exact own'.socketOf own'.descriptors) : Scope os' as own' where
  objects := hobjects
  infos := by
    rw [hinfos]
    exact h.infos
  sockets := hsockets
  addrs := by
    have hlistOf : own'.listOf = own.listOf := funext fun a => by simp only [Hand.listOf, hinfos]
    rw [hlistOf, hlists]
    exact h.addrs

private theorem of_addrs (h : Scope os as own) (hobjects : own'.objects = own.objects)
    (hdescriptors : own'.descriptors = own.descriptors)
    (hinfos : ∀ a, (own'.infos a).isSome ↔ a ∈ as') (haddrs : Exact own'.listOf own'.lists) :
    Scope os as' own' where
  objects := by
    rw [hobjects]
    exact h.objects
  infos := hinfos
  sockets := by
    have hsocketOf : own'.socketOf = own.socketOf :=
      funext fun o => by simp only [Hand.socketOf, hobjects]
    rw [hsocketOf, hdescriptors]
    exact h.sockets
  addrs := haddrs

theorem bornEmpty (h : Scope os as own) (ho : own.objects o = none) :
    Scope (insert o os) as (Function.update own (.object o) (some invalidSocket)) := by
  refine h.of_sockets (by simp) (by simp) ?_ ?_
  · rw [Hand.objects_object]
    exact isSome_insert h.objects o _
  · have hsame : Function.update own.socketOf o (Hand.owned invalidSocket) = own.socketOf := by
      rw [Hand.owned, if_pos rfl, ← Hand.socketOf_none ho, Function.update_eq_self]
    simpa [hsame] using h.sockets

theorem born (h : Scope os as own) (ho : own.objects o = none) (hfd : own.descriptors fd = none)
    (hvalid : fd ≠ invalidSocket) :
    Scope (insert o os) as
      (Function.update (Function.update own (.descriptor fd) (some ())) (.object o) (some fd)) := by
  refine h.of_sockets (by simp) (by simp) ?_ ?_
  · simpa using isSome_insert h.objects o fd
  · simpa [Hand.owned, hvalid] using h.sockets.acquire () (Hand.socketOf_none ho) hfd

theorem deadEmpty (h : Scope os as own) (ho : own.objects o = some invalidSocket) :
    Scope (os \ {o}) as (Function.update own (.object o) none) := by
  refine h.of_sockets (by simp) (by simp) ?_ ?_
  · rw [Hand.objects_object]
    exact isSome_erase h.objects o
  · have hnone : own.socketOf o = none := by simp [Hand.socketOf, Hand.owned, ho]
    have hsame : Function.update own.socketOf o none = own.socketOf := by
      rw [← hnone, Function.update_eq_self]
    simpa [hsame] using h.sockets

theorem dead (h : Scope os as own) (ho : own.objects o = some fd) (hvalid : fd ≠ invalidSocket) :
    Scope (os \ {o}) as
      (Function.update (Function.update own (.descriptor fd) none) (.object o) none) := by
  refine h.of_sockets (by simp) (by simp) ?_ ?_
  · simpa using isSome_erase h.objects o
  · simpa using h.sockets.release (Hand.socketOf_valid ho hvalid)

theorem moved (h : Scope os as own) (hthis : own.objects this = none)
    (hthat : own.objects that = some fd) :
    Scope (insert this os) as
      (Function.update (Function.update own (.object this) (some fd)) (.object that)
        (some invalidSocket)) := by
  have hmem : that ∈ insert this os :=
    Set.mem_insert_of_mem _ ((h.objects that).mp (by simp [hthat]))
  have hne : that ≠ this := by
    rintro rfl
    simp [hthis] at hthat
  refine h.of_sockets (by simp) (by simp) ?_ ?_
  · rw [Hand.objects_object, Hand.objects_object, ← Set.insert_eq_of_mem hmem]
    exact isSome_insert (isSome_insert h.objects this fd) that _
  · have howned : own.socketOf that = Hand.owned fd := by simp [Hand.socketOf, hthat]
    have hmove := h.sockets.move that this fun _ => Hand.socketOf_none hthis
    rw [howned, ← Function.update_comm hne.symm] at hmove
    simpa [Hand.owned] using hmove

theorem swapped (h : Scope os as own) (hthis : own.objects this = some fd)
    (hthat : own.objects that = some fd') :
    Scope os as
      (Function.update (Function.update own (.object this) (some fd')) (.object that)
        (some fd)) := by
  have hmem : this ∈ os := (h.objects this).mp (by simp [hthis])
  have hmem' : that ∈ insert this os :=
    Set.mem_insert_of_mem _ ((h.objects that).mp (by simp [hthat]))
  refine h.of_sockets (by simp) (by simp) ?_ ?_
  · rw [Hand.objects_object, Hand.objects_object, ← Set.insert_eq_of_mem hmem,
      ← Set.insert_eq_of_mem hmem']
    exact isSome_insert (isSome_insert h.objects this fd') that fd
  · have hswap := h.sockets.rename (Equiv.swap that this)
    rw [Equiv.comp_swap_eq_update] at hswap
    simpa [Hand.socketOf, hthis, hthat] using hswap

theorem bornInfo (h : Scope os as own) (ha : own.infos a = none) (hres : own.lists res = none) :
    Scope os (insert a as)
      (Function.update (Function.update own (.list res) (some ())) (.info a) (some res)) := by
  refine h.of_addrs (by simp) (by simp) ?_ ?_
  · simpa using isSome_insert h.infos a res
  · simpa using h.addrs.acquire () (Hand.listOf_none ha) hres

theorem deadInfo (h : Scope os as own) (ha : own.infos a = some res) :
    Scope os (as \ {a})
      (Function.update (Function.update own (.list res) none) (.info a) none) := by
  refine h.of_addrs (by simp) (by simp) ?_ ?_
  · simpa using isSome_erase h.infos a
  · simpa using h.addrs.release (Hand.listOf_some ha)

theorem swappedInfo (h : Scope os as own) (hthis : own.infos this = some res)
    (hthat : own.infos that = some res') :
    Scope os as
      (Function.update (Function.update own (.info this) (some res')) (.info that)
        (some res)) := by
  have hmem : this ∈ as := (h.infos this).mp (by simp [hthis])
  have hmem' : that ∈ insert this as :=
    Set.mem_insert_of_mem _ ((h.infos that).mp (by simp [hthat]))
  refine h.of_addrs (by simp) (by simp) ?_ ?_
  · rw [Hand.infos_info, Hand.infos_info, ← Set.insert_eq_of_mem hmem,
      ← Set.insert_eq_of_mem hmem']
    exact isSome_insert (isSome_insert h.infos this res') that res
  · have hswap := h.addrs.rename (Equiv.swap that this)
    rw [Equiv.comp_swap_eq_update] at hswap
    simpa [Hand.listOf, hthis, hthat] using hswap

end Scope
end
end ClientServerTcp
