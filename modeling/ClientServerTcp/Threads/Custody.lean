import ClientServerTcp.Library.Custody
import ClientServerTcp.Threads.Shared

/-! What the threads have to give back: objects, descriptors and address lists.
A thread ends the life of nothing but what it has brought about itself, and
uses nothing that is not alive. -/
namespace ClientServerTcp
open Effects Program Memory

/-- What can be acquired and given back. -/
inductive Resource where
  | object (o : ObjId)
  | info (a : InfoId)
  | descriptor (fd : SOCKET)
  | list (res : Ptr)
  deriving DecidableEq, Repr

@[reducible] def Resource.Known : Resource → Type
  | .object _ => SOCKET
  | .info _ => Ptr
  | .descriptor _ | .list _ => Unit

abbrev Hand := Part Resource.Known

/-- All that is alive in a process. -/
def World.inventory (w : World) : Hand
  | .object o => (w.objs o).map CSocket.mSfd
  | .info a => (w.infos a).map CAddrinfo.mRes
  | .descriptor fd => (w.kernel.table fd).map fun _ => ()
  | .list res => (w.kernel.lists res).map fun _ => ()

namespace Op

def acquires : Op → Bool
  | .socket .. | .accept _ | .new | .newInfo _ | .getaddrinfo _ => true
  | _ => false

def opened (fd : SOCKET) : Option ((x : Resource) × Option x.Known) :=
  if fd = invalidSocket then none else some ⟨.descriptor fd, some ()⟩

/-- What an operation changes, and what this is afterwards. -/
def change : (op : Op) → op.Res → Option ((x : Resource) × Option x.Known)
  | .socket .., fd => opened fd
  | .accept _, fd => opened fd
  | .close fd, _ => if fd = invalidSocket then none else some ⟨.descriptor fd, none⟩
  | .new, o => some ⟨.object o, some invalidSocket⟩
  | .delete o, _ => some ⟨.object o, none⟩
  | .store o .mSfd value, _ => some ⟨.object o, some value⟩
  | .newInfo init, a => some ⟨.info a, some init.mRes⟩
  | .deleteInfo a, _ => some ⟨.info a, none⟩
  | .storeInfo a .mRes value, _ => some ⟨.info a, some value⟩
  | .getaddrinfo _, (ret, res) => if ret = 0 then some ⟨.list res, some ()⟩ else none
  | .freeaddrinfo res, _ => some ⟨.list res, none⟩
  | _, _ => none

/-- What has to be alive for an operation. -/
def uses : Op → List Resource
  | .setsockopt fd .. | .getsockopt fd .. | .bind fd .. | .listen fd _ | .getsockname fd
  | .accept fd | .recv fd _ | .shutdown fd _ | .close fd | .connect fd .. | .send fd _ =>
    if fd = invalidSocket then [] else [.descriptor fd]
  | .delete o | .load o _ | .store o _ _ | .lock o _ | .unlock o _ | .loadReady o
  | .storeReady o _ => [.object o]
  | .deleteInfo a | .loadInfo a _ | .storeInfo a _ _ => [.info a]
  | .readRes res | .writeProtocol res _ | .writeFlags res _ | .freeaddrinfo res => [.list res]
  | .socket .. | .getaddrinfo _ | .errno | .new | .newInfo _ => []

/-- What has to belong to a thread that performs an operation. -/
def takes : Op → List Resource
  | .shutdown fd _ | .close fd | .connect fd .. =>
    if fd = invalidSocket then [] else [.descriptor fd]
  | .delete o | .store o .mSfd _ => [.object o]
  | .deleteInfo a | .storeInfo a _ _ => [.info a]
  | .writeProtocol res _ | .writeFlags res _ | .freeaddrinfo res => [.list res]
  | _ => []

theorem acquires_or_takes {op : Op} {answer : op.Res} {x : Resource} {new : Option x.Known}
    (h : op.change answer = some ⟨x, new⟩) : op.acquires = true ∨ x ∈ op.takes := by
  cases op with
  | socket | accept | new | newInfo | getaddrinfo => exact .inl rfl
  | close fd =>
    simp only [change] at h
    split at h
    · contradiction
    · obtain rfl := congrArg Sigma.fst (Option.some.inj h)
      exact .inr (by simp [takes, *])
  | store o f value =>
    cases f with
    | mSfd =>
      obtain rfl := congrArg Sigma.fst (Option.some.inj h)
      exact .inr List.mem_cons_self
    | _ => contradiction
  | storeInfo a f value =>
    cases f with
    | mRes =>
      obtain rfl := congrArg Sigma.fst (Option.some.inj h)
      exact .inr List.mem_cons_self
    | _ => contradiction
  | delete | deleteInfo | freeaddrinfo =>
    obtain rfl := congrArg Sigma.fst (Option.some.inj h)
    exact .inr List.mem_cons_self
  | _ => contradiction

end Op

def Hand.change (h : Hand) : Option ((x : Resource) × Option x.Known) → Hand
  | none => h
  | some ⟨x, new⟩ => Function.update h x new

/-- What an answer says about what is seen. -/
def Learns (seen : Hand) : (op : Op) → op.Res → Prop
  | .load o .mSfd, fd => seen (.object o) = some fd
  | .loadInfo a .mRes, res => seen (.info a) = some res
  | op, answer => op.acquires = true → ∀ x new, op.change answer = some ⟨x, new⟩ → seen x = none

theorem Learns.fresh {seen : Hand} {op : Op} {answer : op.Res} (h : Learns seen op answer)
    (hacquires : op.acquires = true) {x : Resource} {new : Option x.Known}
    (hchange : op.change answer = some ⟨x, new⟩) : seen x = none := by
  cases op with
  | load | loadInfo => contradiction
  | _ => exact h hacquires x new hchange

theorem Hand.change_invalid {h : Hand} {op : Op} {answer : op.Res}
    (hnone : h (.descriptor invalidSocket) = none) :
    h.change (op.change answer) (.descriptor invalidSocket) = none := by
  have hother : ∀ {x : Resource} {new}, x ≠ .descriptor invalidSocket →
      h.change (some ⟨x, new⟩) (.descriptor invalidSocket) = none :=
    fun hx => (Function.update_of_ne hx.symm ..).trans hnone
  have hopened : ∀ fd, h.change (Op.opened fd) (.descriptor invalidSocket) = none := by
    intro fd
    unfold Op.opened
    split
    · exact hnone
    · exact hother (by simpa using ‹¬fd = invalidSocket›)
  cases op with
  | socket | accept => exact hopened answer
  | close fd =>
    simp only [Op.change]
    split
    · exact hnone
    · exact hother (by simpa using ‹¬fd = invalidSocket›)
  | getaddrinfo query =>
    simp only [Op.change]
    split
    · exact hother (by simp)
    · exact hnone
  | store o f value => cases f <;> exact hnone
  | storeInfo a f value => cases f <;> exact hnone
  | new | newInfo | delete | deleteInfo | freeaddrinfo => exact hother (by simp)
  | _ => exact hnone

/-! ## What a step does to all that is alive -/

namespace World

variable {w w' : World}

theorem inventory_object {o : ObjId} {fd : SOCKET} :
    w.inventory (.object o) = some fd ↔ ∃ s, w.objs o = some s ∧ s.mSfd = fd :=
  Option.map_eq_some_iff

theorem inventory_info {a : InfoId} {res : Ptr} :
    w.inventory (.info a) = some res ↔ ∃ i, w.infos a = some i ∧ i.mRes = res :=
  Option.map_eq_some_iff

theorem isSome_inventory_descriptor {fd : SOCKET} :
    (w.inventory (.descriptor fd)).isSome = (w.kernel.table fd).isSome := Option.isSome_map

theorem inventory_setDesc {k : Kernel} (fd : SOCKET) (d : Option Desc) :
    (w.withKernel (k.setDesc fd d)).inventory =
      Function.update (w.withKernel k).inventory (.descriptor fd) (d.map fun _ => ()) := by
  funext x
  cases x with
  | descriptor fd' =>
    by_cases heq : fd' = fd
    · subst heq
      simp [inventory]
    · rw [Function.update_of_ne (by simpa using heq)]
      simp [inventory, heq]
  | object | info | list => exact (Function.update_of_ne (by simp) ..).symm

private theorem inventory_attempt {k : Kernel} (call : Call) (sfd : SOCKET) (refused : Option Int)
    (effect : Desc → Desc) :
    (w.withKernel (k.attempt call sfd refused effect).2).inventory = (w.withKernel k).inventory := by
  rcases Kernel.attempt_cases with ⟨error, hret⟩ | ⟨d, hopen, _, hret⟩
  · rw [hret]
    rfl
  · rw [hret]
    refine (inventory_setDesc sfd (some (effect d))).trans ?_
    have hsame : (w.withKernel k).inventory (.descriptor sfd) = some () := by
      simp [inventory, hopen]
    rw [Option.map_some, ← hsame, Function.update_eq_self]

private theorem inventory_writeRes {k : Kernel} (res : Ptr) (write : Addrinfo → Addrinfo) :
    (w.withKernel (k.writeRes res write)).inventory = (w.withKernel k).inventory := by
  funext x
  cases x with
  | list res' =>
    by_cases heq : res' = res
    · subst heq
      simp [inventory, Kernel.writeRes]
    · simp [inventory, Kernel.writeRes, heq]
  | object | info | descriptor => rfl

private theorem inventory_objs {objs : Heap CSocket} {o : ObjId} {new : Option CSocket}
    (h : objs.cells = Function.update w.objs o new) :
    (w.withObjs objs).inventory =
      Function.update w.inventory (.object o) (new.map CSocket.mSfd) := by
  funext x
  cases x with
  | object o' =>
    by_cases heq : o' = o
    · subst heq
      simp [inventory, h]
    · rw [Function.update_of_ne (by simpa using heq)]
      simp [inventory, h, heq]
  | info | descriptor | list => exact (Function.update_of_ne (by simp) ..).symm

private theorem inventory_infos {infos : Heap CAddrinfo} {a : InfoId} {new : Option CAddrinfo}
    (h : infos.cells = Function.update w.infos a new) :
    (w.withInfos infos).inventory =
      Function.update w.inventory (.info a) (new.map CAddrinfo.mRes) := by
  funext x
  cases x with
  | info a' =>
    by_cases heq : a' = a
    · subst heq
      simp [inventory, h]
    · rw [Function.update_of_ne (by simpa using heq)]
      simp [inventory, h, heq]
  | object | descriptor | list => exact (Function.update_of_ne (by simp) ..).symm

end World

section
variable {w : World}

private theorem inventory_opened {call : Call} {r : SOCKET × Kernel}
    (h : (∃ error, r = (invalidSocket, w.kernel.fail call error)) ∨
      ∃ d fd, 0 ≤ fd ∧ w.kernel.table fd = none ∧
        r = (fd, (w.kernel.setDesc fd (some d)).log call fd)) :
    (w.withKernel r.2).inventory = Hand.change w.inventory (Op.opened r.1) ∧
      ∀ {x new}, Op.opened r.1 = some ⟨x, new⟩ → w.inventory x = none := by
  obtain ⟨error, rfl⟩ | ⟨d, fd, hfd, hfree, rfl⟩ := h
  · refine ⟨rfl, ?_⟩
    intro x new h
    contradiction
  · have hopened : Op.opened fd = some ⟨.descriptor fd, some ()⟩ := if_neg (ne_invalidSocket hfd)
    rw [hopened]
    refine ⟨World.inventory_setDesc (k := w.kernel) fd _, ?_⟩
    intro x new h
    obtain rfl := congrArg Sigma.fst (Option.some.inj h)
    simp [World.inventory, hfree]

private theorem inventory_store {o : ObjId} {f : Field} {value : f.Ty}
    (ho : (w.inventory (.object o)).isSome) :
    (w.withObjs (w.objs.modify o fun s => s.set f value)).inventory =
      Hand.change w.inventory (Op.change (.store o f value) ()) := by
  obtain ⟨fd, hfd⟩ := Option.isSome_iff_exists.mp ho
  obtain ⟨s, hs, rfl⟩ := World.inventory_object.mp hfd
  have hcells : (w.objs.modify o fun s => s.set f value).cells =
      Function.update w.objs o (some (s.set f value)) := by
    rw [Heap.cells_modify, hs, Option.map_some]
  rw [World.inventory_objs hcells]
  cases f with
  | mSfd => rfl
  | mAf | mBound | mListen => exact (congrArg _ hfd.symm).trans (Function.update_eq_self ..)

private theorem inventory_storeInfo {a : InfoId} {f : InfoField} {value : f.Ty}
    (ha : (w.inventory (.info a)).isSome) :
    (w.withInfos (w.infos.modify a fun i => i.set f value)).inventory =
      Hand.change w.inventory (Op.change (.storeInfo a f value) ()) := by
  obtain ⟨res, hres⟩ := Option.isSome_iff_exists.mp ha
  obtain ⟨i, hi, rfl⟩ := World.inventory_info.mp hres
  have hcells : (w.infos.modify a fun i => i.set f value).cells =
      Function.update w.infos a (some (i.set f value)) := by
    rw [Heap.cells_modify, hi, Option.map_some]
  rw [World.inventory_infos hcells]
  cases f with
  | mRes => rfl
  | mNode | mService | mHints => exact (congrArg _ hres.symm).trans (Function.update_eq_self ..)

private theorem inventory_close (os : OS) (hinvalid : w.kernel.table invalidSocket = none)
    (fd : SOCKET) : (w.withKernel (w.kernel.close os fd).2).inventory =
      Hand.change w.inventory (Op.change (.close fd) (w.kernel.close os fd).1) := by
  obtain ⟨_, _, htable, _, hlists, _⟩ := w.kernel.close_effect os fd
  have hclosed : (w.withKernel (w.kernel.close os fd).2).inventory =
      Function.update w.inventory (.descriptor fd) none := by
    refine Eq.trans ?_ (World.inventory_setDesc (k := w.kernel) fd none)
    funext x
    cases x with
    | descriptor | list => simp [World.inventory, htable, hlists]
    | object | info => rfl
  rw [hclosed]
  by_cases heq : fd = invalidSocket
  · have hnone : w.inventory (.descriptor fd) = none := by simp [World.inventory, heq, hinvalid]
    rw [Op.change, if_pos heq, ← hnone, Function.update_eq_self]
    rfl
  · rw [Op.change, if_neg heq]
    rfl

private theorem inventory_lists {lists : Heap AddrList} {res : Ptr} {new : Option AddrList}
    (h : lists.cells = Function.update w.kernel.lists res new) :
    (w.withKernel (w.kernel.setLists lists)).inventory =
      Function.update w.inventory (.list res) (new.map fun _ => ()) := by
  funext x
  cases x with
  | list res' =>
    by_cases heq : res' = res
    · subst heq
      simp [World.inventory, h]
    · rw [Function.update_of_ne (by simpa using heq)]
      simp [World.inventory, h, heq]
  | object | info | descriptor => exact (Function.update_of_ne (by simp) ..).symm

end

section
variable (os : OS) (op : Op) (w : World)

theorem acquired_fresh (hacquires : op.acquires = true) {x : Resource} {new : Option x.Known}
    (h : op.change (step os op w).1 = some ⟨x, new⟩) : w.inventory x = none := by
  cases op with
  | socket domain type protocol =>
    exact (inventory_opened (w.kernel.socket_cases os domain type protocol)).2 h
  | accept sfd => exact (inventory_opened (w.kernel.accept_cases os sfd)).2 h
  | new =>
    obtain rfl := congrArg Sigma.fst (Option.some.inj h)
    simp [World.inventory, step]
  | newInfo init =>
    obtain rfl := congrArg Sigma.fst (Option.some.inj h)
    simp [World.inventory, step]
  | getaddrinfo query =>
    simp only [step, World.syscall, Kernel.getaddrinfo] at h
    cases hanswer : os.getaddrinfo w.kernel query with
    | error error =>
      simp only [hanswer, Op.change, if_neg (os.getaddrinfo_err hanswer)] at h
      contradiction
    | ok answer =>
      simp only [hanswer] at h
      obtain rfl := congrArg Sigma.fst (Option.some.inj h)
      simp [World.inventory]
  | _ => contradiction

/-- A step changes one thing that is alive, or nothing. -/
theorem step_inventory (hinvalid : w.kernel.table invalidSocket = none)
    (huses : ∀ x ∈ op.uses, (w.inventory x).isSome) :
    (step os op w).2.inventory = Hand.change w.inventory (op.change (step os op w).1) := by
  cases op with
  | socket domain type protocol =>
    exact (inventory_opened (w.kernel.socket_cases os domain type protocol)).1
  | accept sfd => exact (inventory_opened (w.kernel.accept_cases os sfd)).1
  | close fd => exact inventory_close os hinvalid fd
  | getaddrinfo query =>
    simp only [step, World.syscall, Kernel.getaddrinfo]
    cases hanswer : os.getaddrinfo w.kernel query with
    | error error =>
      rw [Op.change, if_neg (os.getaddrinfo_err hanswer)]
      rfl
    | ok answer => exact inventory_lists (Heap.cells_alloc ..)
  | freeaddrinfo res => exact inventory_lists (Heap.cells_free ..)
  | setsockopt sfd level optname value => exact World.inventory_attempt _ _ _ _
  | bind sfd addr addrlen => exact World.inventory_attempt _ _ _ _
  | listen sfd backlog => exact World.inventory_attempt _ _ _ _
  | shutdown sfd how => exact World.inventory_attempt _ _ _ _
  | connect sfd addr addrlen => exact World.inventory_attempt _ _ _ _
  | getsockopt sfd level optname =>
    simp only [step, World.syscall]
    rcases w.kernel.getsockopt_cases os sfd level optname with ⟨error, hret⟩ | ⟨d, _, _, hret⟩
    · rw [hret]
      rfl
    · rw [hret]
      rfl
  | getsockname sfd =>
    simp only [step, World.syscall]
    rcases w.kernel.getsockname_cases os sfd with ⟨error, hret⟩ | ⟨d, _, hret⟩
    · rw [hret]
      rfl
    · rw [hret]
      rfl
  | recv sfd len =>
    simp only [step, World.syscall]
    rcases w.kernel.recv_cases os sfd len with ⟨error, hret⟩ | ⟨bytes, _, hret⟩
    · rw [hret]
      rfl
    · rw [hret]
      rfl
  | send sfd msg =>
    simp only [step, World.syscall]
    unfold Kernel.send
    split <;> rfl
  | writeProtocol res value => exact World.inventory_writeRes res _
  | writeFlags res value => exact World.inventory_writeRes res _
  | new => exact World.inventory_objs (Heap.cells_alloc ..)
  | delete o => exact World.inventory_objs (Heap.cells_free ..)
  | store o f value => exact inventory_store (huses _ List.mem_cons_self)
  | newInfo init => exact World.inventory_infos (Heap.cells_alloc ..)
  | deleteInfo a => exact World.inventory_infos (Heap.cells_free ..)
  | storeInfo a f value => exact inventory_storeInfo (huses _ List.mem_cons_self)
  | _ => rfl

end

section
variable {os : OS} {op : Op} {w : World}

theorem step_learns (huses : ∀ x ∈ op.uses, (w.inventory x).isSome) :
    Learns w.inventory op (step os op w).1 := by
  have hfresh : op.acquires = true → ∀ x new, op.change (step os op w).1 = some ⟨x, new⟩ →
      w.inventory x = none := fun hacquires _ _ hchange => acquired_fresh os op w hacquires hchange
  cases op with
  | load o f =>
    cases f with
    | mSfd =>
      obtain ⟨fd, hfd⟩ := Option.isSome_iff_exists.mp (huses _ List.mem_cons_self)
      obtain ⟨s, hs, rfl⟩ := World.inventory_object.mp hfd
      simp [Learns, World.inventory, step, hs, CSocket.get]
    | mAf | mBound | mListen => exact hfresh
  | loadInfo a f =>
    cases f with
    | mRes =>
      obtain ⟨res, hres⟩ := Option.isSome_iff_exists.mp (huses _ List.mem_cons_self)
      obtain ⟨i, hi, rfl⟩ := World.inventory_info.mp hres
      simp [Learns, World.inventory, step, hi, CAddrinfo.get]
    | mNode | mService | mHints => exact hfresh
  | _ => exact hfresh

theorem threadStep_inventory {ι : Type} [DecidableEq ι] {i : ι} {s t : Shared ι} {answer : op.Res}
    (hinvalid : s.world.kernel.table invalidSocket = none)
    (huses : ∀ x ∈ op.uses, (s.world.inventory x).isSome) (hstep : ThreadStep i op s answer t) :
    Learns s.world.inventory op answer ∧
      t.world.inventory = Hand.change s.world.inventory (op.change answer) := by
  cases op with
  | lock o m =>
    obtain ⟨_, rfl⟩ := hstep
    exact ⟨fun h => by contradiction, rfl⟩
  | unlock o m =>
    obtain rfl := hstep
    exact ⟨fun h => by contradiction, rfl⟩
  | _ =>
    obtain ⟨os, rfl, rfl⟩ := hstep
    exact ⟨step_learns (w := s.view i) huses, step_inventory os _ (s.view i) hinvalid huses⟩

end

/-! ## Who has what -/

/-- What a thread sees of its own things and of those that were there before. -/
def Hand.sees (base own : Hand) : Hand := fun x => (own x).or (base x)

/-- A thread uses only what it has or what was there before, and ends or changes
only what it has. -/
structure HandMay (base : Hand) (op : Op) (own : Hand) : Prop where
  uses : ∀ x ∈ op.uses, (base.sees own x).isSome
  takes : ∀ x ∈ op.takes, (own x).isSome

/-- The steps of a thread, as far as they change what it has. -/
def HandStep (base : Hand) : Answers Op.Res Hand := fun op own answer own' =>
  Learns (base.sees own) op answer ∧ own' = own.change (op.change answer)

/-- Everything that is alive was there before, or belongs to one of the threads. -/
structure Custody {ι : Type} (base : Hand) (hands : ι → Hand) (s : Shared ι) : Prop where
  invalid : s.world.kernel.table invalidSocket = none
  joined : Joined (fun j : Option ι => j.elim base hands) s.world.inventory

namespace Custody

variable {ι : Type} {base : Hand} {hands : ι → Hand} {s : Shared ι} {i : ι}

theorem sees (h : Custody base hands s) {x : Resource} {value : x.Known}
    (hx : base.sees (hands i) x = some value) : s.world.inventory x = some value := by
  unfold Hand.sees at hx
  cases hown : hands i x with
  | some value' =>
    rw [hown] at hx
    obtain rfl := Option.some.inj hx
    exact h.joined.of_part (j := some i) hown
  | none =>
    rw [hown, Option.none_or] at hx
    exact h.joined.of_part (j := none) hx

theorem alive (h : Custody base hands s) {x : Resource} (hx : (base.sees (hands i) x).isSome) :
    (s.world.inventory x).isSome := by
  obtain ⟨value, hvalue⟩ := Option.isSome_iff_exists.mp hx
  simp [h.sees hvalue]

theorem learns (h : Custody base hands s) {op : Op} {answer : op.Res}
    (huses : ∀ x ∈ op.uses, (base.sees (hands i) x).isSome)
    (hlearns : Learns s.world.inventory op answer) : Learns (base.sees (hands i)) op answer := by
  have hfresh : (op.acquires = true → ∀ x new, op.change answer = some ⟨x, new⟩ →
      s.world.inventory x = none) →
      op.acquires = true → ∀ x new, op.change answer = some ⟨x, new⟩ →
        base.sees (hands i) x = none := by
    intro hall hacquires x new hchange
    cases hx : base.sees (hands i) x with
    | none => rfl
    | some value => exact (h.sees hx).symm.trans (hall hacquires x new hchange)
  have hknown : ∀ {x : Resource} {value}, x ∈ op.uses → s.world.inventory x = some value →
      base.sees (hands i) x = some value := by
    intro x value hx hvalue
    obtain ⟨value', hvalue'⟩ := Option.isSome_iff_exists.mp (huses x hx)
    rw [hvalue', ← h.sees hvalue', hvalue]
  cases op with
  | load o f =>
    cases f with
    | mSfd => exact hknown List.mem_cons_self hlearns
    | mAf | mBound | mListen => exact hfresh hlearns
  | loadInfo a f =>
    cases f with
    | mRes => exact hknown List.mem_cons_self hlearns
    | mNode | mService | mHints => exact hfresh hlearns
  | _ => exact hfresh hlearns

variable [DecidableEq ι]

/-- A thread that keeps to what it may do changes nothing but what it has. -/
theorem step (h : Custody base hands s) {op : Op} (hmay : HandMay base op (hands i))
    {answer : op.Res} {t : Shared ι} (hstep : ThreadStep i op s answer t) :
    ∃ own, HandStep base op (hands i) answer own ∧
      Custody base (Function.update hands i own) t := by
  obtain ⟨hlearns, hwhole⟩ := threadStep_inventory h.invalid
    (fun x hx => h.alive (hmay.uses x hx)) hstep
  have hhands : ∀ own, (fun j : Option ι => j.elim base (Function.update hands i own)) =
      Function.update (fun j : Option ι => j.elim base hands) (some i) own := by
    intro own
    funext j
    cases j with
    | none => rfl
    | some j => by_cases hj : j = i <;> simp [Function.update, hj]
  refine ⟨_, ⟨h.learns hmay.uses hlearns, rfl⟩, ?_, ?_⟩
  · have hinvalid : s.world.inventory (.descriptor invalidSocket) = none := by
      simp [World.inventory, h.invalid]
    have hinvalid' : t.world.inventory (.descriptor invalidSocket) = none := by
      rw [hwhole]
      exact Hand.change_invalid hinvalid
    simpa [World.inventory] using hinvalid'
  · rw [hwhole, hhands]
    cases hchange : op.change answer with
    | none =>
      have hsame : Function.update (fun j : Option ι => j.elim base hands) (some i) (hands i) =
          fun j => j.elim base hands := Function.update_eq_self (some i) _
      rw [Hand.change, Hand.change, hsame]
      exact h.joined
    | some change =>
      obtain ⟨x, new⟩ := change
      refine h.joined.update (some i) new ?_
      rcases Op.acquires_or_takes hchange with hacquires | htakes
      · exact .inr (hlearns.fresh hacquires hchange)
      · exact .inl (hmay.takes x htakes)

end Custody
end ClientServerTcp
