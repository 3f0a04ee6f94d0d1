import ClientServerTcp.Library.Triple
import ClientServerTcp.Threads.Custody

/-! The functions that leave what a thread has as it is. Between their begin and
their end they may open a descriptor, which they close again. -/
namespace ClientServerTcp
open Effects Program

/-- No descriptor at all, or one that is seen. -/
def Hand.Valid (seen : Hand) (fd : SOCKET) : Prop :=
  fd ≠ invalidSocket → (seen (.descriptor fd)).isSome

theorem Hand.Valid.of_mem {seen : Hand} {fd : SOCKET} (h : seen.Valid fd) {x : Resource}
    (hx : x ∈ (if fd = invalidSocket then [] else [Resource.descriptor fd])) :
    (seen x).isSome := by
  split at hx
  · contradiction
  · obtain rfl := List.mem_singleton.mp hx
    exact h ‹_›

/-- An object is seen, and its descriptor with it. -/
def Hand.Usable (seen : Hand) (o : ObjId) : Prop :=
  ∃ fd, seen (.object o) = some fd ∧ seen.Valid fd

def Hand.Readable (seen : Hand) (a : InfoId) : Prop :=
  ∃ res, seen (.info a) = some res ∧ (seen (.list res)).isSome

theorem Hand.Usable.object {seen : Hand} {o : ObjId} (h : seen.Usable o) :
    (seen (.object o)).isSome := by
  obtain ⟨fd, hfd, _⟩ := h
  simp [hfd]

theorem Hand.Readable.info {seen : Hand} {a : InfoId} (h : seen.Readable a) :
    (seen (.info a)).isSome := by
  obtain ⟨res, hres, _⟩ := h
  simp [hres]

section
variable {base own : Hand}

theorem Hand.sees_eq {x : Resource} {value : x.Known} (h : own x = some value) :
    base.sees own x = some value := by
  rw [Hand.sees, h, Option.some_or]

theorem Hand.sees_own {x : Resource} (h : (own x).isSome) : (base.sees own x).isSome := by
  obtain ⟨value, hvalue⟩ := Option.isSome_iff_exists.mp h
  simp [sees_eq hvalue]

theorem Hand.Usable.sees {o : ObjId} (h : own.Usable o) : (base.sees own).Usable o := by
  obtain ⟨fd, hfd, hvalid⟩ := h
  exact ⟨fd, Hand.sees_eq hfd, fun hne => Hand.sees_own (hvalid hne)⟩

end

/-- A function begun with a hand of which `P` holds. -/
abbrev Manages {α : Type} (base : Hand) (P : Hand → Prop) (p : Prog α) (Q : α → Hand → Prop)
    (E : Hand → Prop) : Prop :=
  Triple (HandStep base) (HandMay base) P p Q fun _ => E

/-- A function that leaves what a thread has as it is, unless it raises. -/
def Keeps {α : Type} (base own : Hand) (E : Hand → Prop) (Q : α → Prop) (p : Prog α) : Prop :=
  Manages base (· = own) p (fun value own' => own' = own ∧ Q value) E

section
variable {base own : Hand} {E : Hand → Prop} {α β : Type} {Q : α → Prop} {T : β → Prop}

theorem manages_call (op : Op) (huses : ∀ x ∈ op.uses, (base.sees own x).isSome)
    (htakes : ∀ x ∈ op.takes, (own x).isSome) :
    Manages base (· = own) (Sys.call op)
      (fun answer own' => own' = own.change (op.change answer) ∧ Learns (base.sees own) op answer)
      E := by
  apply Triple.perform
  · rintro _ rfl
    exact ⟨huses, htakes⟩
  · rintro _ answer t rfl ⟨hlearns, rfl⟩
    exact ⟨rfl, hlearns⟩

namespace Keeps

theorem mono {Q' : α → Prop} {p : Prog α} (hp : Keeps base own E Q p)
    (hQ : ∀ value, Q value → Q' value) : Keeps base own E Q' p :=
  hp.post fun value _ h => ⟨h.1, hQ value h.2⟩

theorem pure {value : α} (h : Q value) : Keeps base own E Q (Pure.pure value) :=
  Triple.pure fun _ hs => ⟨hs, h⟩

theorem raise (hE : E own) (error : Exn) : Keeps base own E Q (.raise error) := by
  apply Triple.raise
  rintro _ rfl
  exact hE

theorem bind {p : Prog β} {f : β → Prog α} (hp : Keeps base own E T p)
    (hf : ∀ value, T value → Keeps base own E Q (f value)) : Keeps base own E Q (p >>= f) :=
  hp.bind_at hf

theorem ite {c : Prop} [Decidable c] {p q : Prog α} (hp : c → Keeps base own E Q p)
    (hq : ¬c → Keeps base own E Q q) : Keeps base own E Q (if c then p else q) :=
  Triple.ite hp hq

theorem call (op : Op) (huses : ∀ x ∈ op.uses, (base.sees own x).isSome)
    (htakes : ∀ x ∈ op.takes, (own x).isSome) (hchange : ∀ answer, op.change answer = none) :
    Keeps base own E (Learns (base.sees own) op) (Sys.call op) :=
  (manages_call op huses htakes).post fun answer _ h => ⟨by rw [h.1, hchange, Hand.change], h.2⟩

theorem idle (op : Op) (huses : ∀ x ∈ op.uses, (base.sees own x).isSome)
    (htakes : op.takes = []) (hchange : ∀ answer, op.change answer = none) :
    Keeps base own E (Learns (base.sees own) op) (Sys.call op) :=
  call op huses (by simp [htakes]) hchange

theorem syscall (op : Op) {fd : SOCKET} (hfd : (base.sees own).Valid fd)
    (huses : op.uses = if fd = invalidSocket then [] else [.descriptor fd])
    (htakes : op.takes = []) (hchange : ∀ answer, op.change answer = none) :
    Keeps base own E (fun _ => True) (Sys.call op) := by
  refine (idle op ?_ htakes hchange).mono fun _ _ => trivial
  rw [huses]
  exact fun x hx => hfd.of_mem hx

theorem syscall_own (op : Op) {fd : SOCKET} (hfd : own.Valid fd)
    (huses : op.uses = if fd = invalidSocket then [] else [.descriptor fd])
    (htakes : op.takes = if fd = invalidSocket then [] else [.descriptor fd])
    (hchange : ∀ answer, op.change answer = none) :
    Keeps base own E (fun _ => True) (Sys.call op) := by
  refine (call op ?_ ?_ hchange).mono fun _ _ => trivial
  · rw [huses]
    exact fun x hx => Hand.sees_own (hfd.of_mem hx)
  · rw [htakes]
    exact fun x hx => hfd.of_mem hx

theorem scopedLock {o : ObjId} {m : Mutex} {body : Prog α}
    (ho : (base.sees own (.object o)).isSome)
    (hbody : Keeps base own (fun s => s = own ∧ E s) Q body) :
    Keeps base own E Q (ClientServerTcp.scopedLock o m body) := by
  have huses : ∀ x ∈ [Resource.object o], (base.sees own x).isSome := by simpa using ho
  have hlock : Manages base (· = own) (Sys.lock o m) (fun _ => (· = own)) E :=
    (idle (.lock o m) huses rfl fun _ => rfl).post fun _ _ h => h.1
  have hunlock : Keeps base own E (fun _ => True) (Sys.unlock o m) :=
    (idle (.unlock o m) huses rfl fun _ => rfl).mono fun _ _ => trivial
  refine Triple.bracket hlock (fun _ => hbody) ?_ ?_
  · exact fun _ _ s hs => (hunlock.post fun _ _ h => ⟨h.1, hs.2⟩) s hs.1
  · exact fun _ _ s hs => (hunlock.post fun _ _ h => h.1.trans hs.1.symm ▸ hs.2) s hs.1

theorem whileLoop {cond : β → Bool} {body : β → Prog β}
    (hbody : ∀ locals, Keeps base own E (fun _ => True) (body locals)) (fuel : Nat) (locals : β) :
    Keeps base own E (fun _ => True) (Program.whileLoop cond body fuel locals) := by
  have hround : ∀ locals, cond locals = true →
      Manages base (· = own) (body locals) (fun _ => (· = own)) E :=
    fun locals _ => (hbody locals).post fun _ _ h => h.1
  refine (Triple.whileLoop hround fuel locals).post ?_
  intro result s hs
  cases result with
  | none =>
    obtain ⟨_, _, hown⟩ := hs
    exact ⟨hown, trivial⟩
  | some locals => exact ⟨hs.2, trivial⟩

end Keeps

theorem manages_throw_error {Q : α → Hand → Prop} (hE : E own) (errmsg : Errmsg) :
    Manages base (· = own) (throw_error errmsg) Q E := by
  refine (Keeps.idle .errno (by simp [Op.uses]) rfl fun _ => rfl).bind_at fun _ _ => ?_
  exact Triple.raise fun _ hs => hs ▸ hE

theorem keeps_throw_error (hE : E own) (errmsg : Errmsg) :
    Keeps base own E Q (throw_error errmsg) := manages_throw_error hE errmsg

/-! ## socket.cpp -/

section
variable {o : ObjId} (ho : (base.sees own (.object o)).isSome)
include ho

theorem keeps_load (f : Field) : Keeps base own E (fun _ => True) (Sys.load o f) :=
  (Keeps.idle (.load o f) (by simpa [Op.uses] using ho) rfl fun _ => rfl).mono fun _ _ => trivial

theorem keeps_store (f : Field) (hf : f ≠ .mSfd) (value : f.Ty) :
    Keeps base own E (fun _ => True) (Sys.store o f value) := by
  have huses : ∀ x ∈ (Op.store o f value).uses, (base.sees own x).isSome := by
    simpa [Op.uses] using ho
  cases f with
  | mSfd => contradiction
  | mAf | mBound | mListen => exact (Keeps.idle _ huses rfl fun _ => rfl).mono fun _ _ => trivial

end

theorem keeps_load_mSfd {o : ObjId} (h : (base.sees own).Usable o) :
    Keeps base own E (base.sees own).Valid (Sys.load o .mSfd) := by
  refine (Keeps.idle (.load o .mSfd) (by simpa [Op.uses] using h.object) rfl fun _ => rfl).mono ?_
  intro fd' hfd'
  obtain ⟨fd, hfd, hvalid⟩ := h
  obtain rfl : fd' = fd := Option.some.inj (hfd'.symm.trans hfd)
  exact hvalid

theorem keeps_load_own {o : ObjId} {fd : SOCKET} (ho : own (.object o) = some fd) :
    Keeps base own E (· = fd) (Sys.load o .mSfd) := by
  have hsees : base.sees own (.object o) = some fd := Hand.sees_eq ho
  refine (Keeps.idle (.load o .mSfd) (by simp [Op.uses, hsees]) rfl fun _ => rfl).mono ?_
  exact fun value hvalue => Option.some.inj (hvalue.symm.trans hsees)

namespace CSocket

variable {this : ObjId} (hthis : (base.sees own).Usable this) (hE : E own)
include hthis hE

theorem keeps_bind (ai : Addrinfo) : Keeps base own E (fun _ => True) (bind this ai) := by
  unfold bind
  refine .bind (keeps_load_mSfd hthis) fun fd hfd => ?_
  refine .bind (.syscall (.getsockopt ..) hfd rfl rfl fun _ => rfl) fun answer _ => ?_
  refine .ite (fun _ => keeps_throw_error hE _) fun _ => .ite (fun _ => .raise hE _) fun _ => ?_
  refine .scopedLock hthis.object (.bind (keeps_load_mSfd hthis) fun fd hfd => ?_)
  refine .bind (.syscall (.bind ..) hfd rfl rfl fun _ => rfl) fun ret _ => ?_
  exact .ite (fun _ => keeps_throw_error ⟨rfl, hE⟩ _) fun _ =>
    keeps_store hthis.object .mBound (by simp) _

theorem keeps_listen : Keeps base own E (fun _ => True) (listen this) := by
  refine .scopedLock hthis.object (.bind (keeps_load_mSfd hthis) fun fd hfd => ?_)
  refine .bind (.syscall (.listen ..) hfd rfl rfl fun _ => rfl) fun ret _ => ?_
  exact .ite (fun _ => keeps_throw_error ⟨rfl, hE⟩ _) fun _ =>
    keeps_store hthis.object .mListen (by simp) _

theorem keeps_isBind : Keeps base own E (fun _ => True) (isBind this) :=
  .bind (keeps_load_mSfd hthis) fun _ _ => .ite (fun _ => .raise hE _) fun _ =>
    .scopedLock hthis.object (keeps_load hthis.object .mBound)

theorem keeps_isListen : Keeps base own E (fun _ => True) (isListen this) :=
  .bind (keeps_load_mSfd hthis) fun _ _ => .ite (fun _ => .raise hE _) fun _ =>
    .scopedLock hthis.object (keeps_load hthis.object .mListen)

theorem keeps_getPort : Keeps base own E (fun _ => True) (getPort this) := by
  refine .bind (keeps_load_mSfd hthis) fun _ _ => .ite (fun _ => .raise hE _) fun _ => ?_
  refine .bind (keeps_isBind hthis hE) fun bound _ => .ite (fun _ => .raise hE _) fun _ => ?_
  refine .bind (keeps_load_mSfd hthis) fun fd hfd => ?_
  refine .bind (.syscall (.getsockname fd) hfd rfl rfl fun _ => rfl) fun answer _ => ?_
  exact .ite (fun _ => keeps_throw_error hE _) fun _ => .pure trivial

theorem keeps_getsockoptInt (aLevel aOptname : Int) (aOptnameStr : String) :
    Keeps base own E (fun _ => True) (getsockoptInt this aLevel aOptname aOptnameStr) := by
  refine .bind (keeps_load_mSfd hthis) fun fd hfd => ?_
  refine .bind (.syscall (.getsockopt ..) hfd rfl rfl fun _ => rfl) fun answer _ => ?_
  exact .ite (fun _ => keeps_throw_error hE _) fun _ => .pure trivial

theorem keeps_isReuseAddr : Keeps base own E (fun _ => True) (isReuseAddr this) :=
  .bind (keeps_getsockoptInt hthis hE _ _ _) fun _ _ => .pure trivial

theorem keeps_isV6only : Keeps base own E (fun _ => True) (isV6only this) := by
  refine .bind (keeps_load_mSfd hthis) fun _ _ => .ite (fun _ => .raise hE _) fun _ => ?_
  refine .bind (keeps_load hthis.object .mAf) fun af _ => .ite (fun _ => ?_) fun _ => .pure trivial
  exact .bind (keeps_getsockoptInt hthis hE _ _ _) fun _ _ => .pure trivial

end CSocket

/-! ## addrinfo.cpp -/

theorem keeps_loadInfo {a : InfoId} (ha : (base.sees own (.info a)).isSome) (f : InfoField) :
    Keeps base own E (fun _ => True) (Sys.loadInfo a f) :=
  (Keeps.idle (.loadInfo a f) (by simpa [Op.uses] using ha) rfl fun _ => rfl).mono
    fun _ _ => trivial

theorem keeps_loadInfo_mRes {a : InfoId} {res : Ptr} (ha : base.sees own (.info a) = some res) :
    Keeps base own E (· = res) (Sys.loadInfo a .mRes) := by
  refine (Keeps.idle (.loadInfo a .mRes) (by simp [Op.uses, ha]) rfl fun _ => rfl).mono ?_
  exact fun _ hres => Option.some.inj (hres.symm.trans ha)

namespace CAddrinfo

variable {this : InfoId} (hthis : (base.sees own).Readable this) (hE : E own)
include hthis hE

theorem keeps_entries : Keeps base own E (fun _ => True) (entries this) := by
  obtain ⟨res, hres, hlist⟩ := hthis
  refine .bind (keeps_loadInfo_mRes hres) fun value hvalue => ?_
  rw [hvalue]
  refine .bind (.idle (.readRes res) (by simpa [Op.uses] using hlist) rfl fun _ => rfl) ?_
  intro list _
  cases list with
  | none => exact .raise hE _
  | some list => exact .pure trivial

theorem keeps_arrow : Keeps base own E (fun _ => True) (arrow this) := by
  refine .bind (keeps_entries hthis hE) fun list _ => ?_
  cases list with
  | nil => exact .raise hE _
  | cons entry rest => exact .pure trivial

theorem keeps_addrStr (inetNtop : Int → Bytes → Option String) :
    Keeps base own E (fun _ => True) (addrStr inetNtop this) :=
  .bind (keeps_arrow hthis hE) fun _ _ => .ite (fun _ => .pure trivial) fun _ => .pure trivial

theorem keeps_port : Keeps base own E (fun _ => True) (port this) :=
  .bind (keeps_arrow hthis hE) fun _ _ => .pure trivial

end CAddrinfo

/-! ## server-tcp.cpp and client-tcp.cpp -/

theorem Hand.valid_opened {fd : SOCKET} :
    Hand.Valid (Function.update own (.descriptor fd) (some ())) fd :=
  fun _ => by simp

theorem Hand.Valid.sees {fd : SOCKET} (h : own.Valid fd) : (base.sees own).Valid fd :=
  fun hne => Hand.sees_own (h hne)

section
variable {fd : SOCKET} (hfd : fd ≠ invalidSocket)
include hfd

theorem Hand.change_opened : own.change (Op.opened fd) =
    Function.update own (.descriptor fd) (some ()) := by
  rw [Op.opened, if_neg hfd, Hand.change]

theorem Learns.opened (h : ∀ x new, Op.opened fd = some ⟨x, new⟩ → base.sees own x = none) :
    own (.descriptor fd) = none :=
  (Option.or_eq_none_iff.mp (h _ _ (if_neg hfd))).1

theorem keeps_close (hnew : own (.descriptor fd) = none) :
    Manages base (· = Function.update own (.descriptor fd) (some ())) (closeSocketP fd)
      (fun _ own' => own' = own ∧ True) E := by
  refine (manages_call (.close fd) ?_ ?_).bind_at fun _ _ => Triple.pure ?_
  · simpa [Op.uses, hfd] using Hand.valid_opened.sees hfd
  · simp [Op.takes, hfd]
  · rintro _ rfl
    refine ⟨?_, trivial⟩
    rw [Op.change, if_neg hfd, Hand.change, Function.update_idem, ← hnew, Function.update_eq_self]

end

namespace CServerTCP

variable (this : CServerTCP) (hthis : (base.sees own).Usable this.mListenSfd)
include hthis

theorem keeps_serve (hE : E own) (l : Locals) :
    Keeps base own E (fun _ => True) (this.serve l) := by
  refine .bind (keeps_load_mSfd hthis) fun lfd hlfd => ?_
  have huses : ∀ x ∈ (Op.accept lfd).uses, (base.sees own x).isSome := by
    by_cases hinvalid : lfd = invalidSocket
    · simp [Op.uses, hinvalid]
    · simpa [Op.uses, hinvalid] using hlfd hinvalid
  refine (manages_call (.accept lfd) huses (by simp [Op.takes])).bind_at fun fd hopened => ?_
  refine Triple.ite (fun hfailed => ?_) fun hfd => ?_
  · rw [Op.change, hfailed]
    exact keeps_throw_error hE _
  · rw [Op.change, Hand.change_opened hfd]
    have hvalid : Hand.Valid (Function.update own (.descriptor fd) (some ())) fd :=
      Hand.valid_opened
    refine (Keeps.syscall (.recv ..) hvalid.sees rfl rfl fun _ => rfl).bind_at fun answer _ => ?_
    refine (Keeps.syscall_own (.shutdown ..) hvalid rfl rfl fun _ => rfl).bind_at fun _ _ => ?_
    refine (keeps_close hfd (Learns.opened hfd (hopened rfl))).bind_at fun _ _ => ?_
    refine Triple.ite (fun _ => keeps_throw_error hE _) fun _ => ?_
    refine Triple.ite (fun _ => keeps_throw_error hE _) fun _ => ?_
    split
    · exact Keeps.pure trivial
    · exact Keeps.raise hE _

theorem keeps_storeReady (value : Bool) :
    Keeps base own E (fun _ => True) (Sys.storeReady this.mListenSfd value) :=
  (Keeps.idle (.storeReady ..) (by simpa [Op.uses] using hthis.object) rfl fun _ => rfl).mono
    fun _ _ => trivial

theorem keeps_run (hE : E own) (fuel : Nat) :
    Keeps base own E (fun _ => True) (this.run fuel) :=
  .bind (this.keeps_storeReady hthis true) fun _ _ =>
    .bind (.whileLoop (this.keeps_serve hthis hE) fuel {}) fun _ _ => .pure trivial

theorem keeps_ready (aDelay : Int) : Keeps base own E (fun _ => True) (this.ready aDelay) := by
  have hload : Keeps base own E (fun _ => True) (Sys.loadReady this.mListenSfd) :=
    (Keeps.idle (.loadReady _) (by simpa [Op.uses] using hthis.object) rfl fun _ => rfl).mono
      fun _ _ => trivial
  exact .bind hload fun _ _ => hload

end CServerTCP

theorem keeps_quitServerBody {sock : ObjId} {ai : InfoId} (hsock : own.Usable sock)
    (hai : (base.sees own).Readable ai) (hE : E own) :
    Keeps base own E (fun _ => True) (quitServerBody sock ai) := by
  obtain ⟨fd, hobject, hfd⟩ := hsock
  refine .bind (CAddrinfo.keeps_arrow hai hE) fun res _ => .bind (keeps_load_own hobject) ?_
  rintro fd rfl
  refine .bind (.syscall_own (.connect ..) hfd rfl rfl fun _ => rfl) fun ret _ => ?_
  refine .ite (fun _ => keeps_throw_error hE _) fun _ => .bind (keeps_load_own hobject) ?_
  rintro fd rfl
  refine .bind (.syscall (.send ..) hfd.sees rfl rfl fun _ => rfl) fun valsend _ => ?_
  refine .ite (fun _ => keeps_throw_error hE _) fun _ => .bind (keeps_load_own hobject) ?_
  rintro fd rfl
  exact .bind (.syscall_own (.shutdown ..) hfd rfl rfl fun _ => rfl) fun _ _ => .pure trivial

end
end ClientServerTcp
