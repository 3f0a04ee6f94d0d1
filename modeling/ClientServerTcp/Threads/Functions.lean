import ClientServerTcp.Threads.Own

/-! Every function of the sources, called on objects that are not shared, is a
program on objects of its own. A server may run on a shared socket. -/
namespace ClientServerTcp
open Effects Program

variable {S : Sharing} {ks : Set Guard} {α : Type} {Q : α → Prop}

/-- An operation that cannot wait and reads no member of a socket object. -/
def Op.plain : Op → Bool
  | .load .. => false
  | op => !op.blocks

theorem Own.plain (op : Op) (h : Harmless S op) (hplain : op.plain = true) :
    Own S ks (Tells S op) (Sys.call op) := by
  have hnolock : ∀ o m, op ≠ .lock o m ∧ op ≠ .unlock o m := by
    intro o m
    constructor <;> rintro rfl <;> exact h
  refine Own.call ?_ hnolock
  cases op with
  | lock o m => exact h.elim
  | unlock o m => exact h.elim
  | load o f => simp [Op.plain] at hplain
  | _ => exact ⟨h, fun hblocks => by simp_all [Op.plain]⟩

theorem Own.blocking (op : Op) (h : Harmless S op) (hblocks : op.blocks = true) :
    Own S ∅ (Tells S op) (Sys.call op) := by
  cases op with
  | accept | recv | connect | send | getaddrinfo => exact Own.call ⟨h, fun _ => rfl⟩ (by simp)
  | _ => contradiction

theorem own_load {o : ObjId} {f : Field} (h : S.sfd o = none ∨ f.guard = none) :
    Own S ks (Tells S (.load o f)) (Sys.load o f) := Own.call h (by simp)

theorem own_load_mSfd {o : ObjId} (ho : S.sfd o = none) :
    Own S ks (fun fd => ¬S.Owns fd) (Sys.load o .mSfd) := by
  apply Own.mono (own_load (.inl ho))
  rintro fd (hfd | hfd)
  · simp [ho] at hfd
  · exact hfd.2

theorem own_store {o : ObjId} {f : Field} {value : f.Ty} (h : Harmless S (.store o f value)) :
    Own S ks (fun _ => True) (Sys.store o f value) :=
  Own.plain _ h rfl

theorem own_throw_error (errmsg : Errmsg) : Own S ks Q (throw_error errmsg) :=
  Own.bind (Own.plain .errno trivial rfl) fun _ _ => .raise _

theorem own_closeSocketP {fd : SOCKET} (hfd : ¬S.Owns fd) :
    Own S ks (fun fd => ¬S.Owns fd) (closeSocketP fd) :=
  Own.bind (Own.plain (.close fd) hfd rfl) fun _ _ =>
    .pure Sharing.not_owns_invalid

/-! ## socket.cpp -/

namespace CSocket

variable {this that : ObjId}

theorem own_constructBody (hthis : S.sfd this = none) (aDomain aType aProtocol : Int) :
    Own S ks (fun _ => True) (constructBody this aDomain aType aProtocol) := by
  unfold constructBody
  refine .ite (fun _ => .pure trivial) fun _ => ?_
  refine .bind (Own.plain (.socket ..) trivial rfl) ?_
  intro sfd hsfd
  have hstores : Own S ks (fun _ => True) (do
      Sys.store this .mSfd sfd
      Sys.store this .mAf aDomain) :=
    .bind (own_store ⟨hthis, hsfd⟩) fun _ _ => own_store hthis
  refine .ite (fun _ => own_throw_error _) fun _ => ?_
  refine .bind (Own.plain (.setsockopt ..) hsfd rfl) ?_
  intro ret _
  refine .ite (fun _ => .bind (own_closeSocketP hsfd) fun _ _ => own_throw_error _) fun _ => ?_
  refine .ite (fun _ => ?_) fun _ => hstores
  refine .bind (Own.plain (.setsockopt ..) hsfd rfl) ?_
  intro ret _
  exact .ite (fun _ => .bind (own_closeSocketP hsfd) fun _ _ => own_throw_error _) fun _ => hstores

theorem own_new : Own S ks (fun o => S.sfd o = none) Sys.new :=
  Own.plain .new trivial rfl

theorem own_delete (hthis : S.sfd this = none) : Own S ks (fun _ => True) (Sys.delete this) :=
  Own.plain (.delete this) hthis rfl

theorem own_construct (aDomain aType aProtocol : Int) :
    Own S ks (fun o => S.sfd o = none) (construct aDomain aType aProtocol) := by
  refine .bind own_new fun this hthis => ?_
  exact .bind (.onError (own_constructBody hthis _ _ _) (own_delete hthis)) fun _ _ => .pure hthis

theorem own_lockBoth (hthis : S.sfd this = none) {body : Prog Unit}
    (hbody : ∀ ks, Own S ks (fun _ => True) body) :
    Own S ∅ (fun _ => True) (lockBoth this body) := by
  refine .scopedLock hthis (by simp) (.scopedLock hthis ?_ (hbody _))
  intro k hk
  obtain rfl : k = (this, .mBoundMutex) := by simpa using hk
  exact Nat.zero_lt_one

theorem own_transfer (hthat : S.sfd that = none) (f : Field)
    {next : f.Ty → Prog Unit} (hnext : ∀ value, (∀ o, S.sfd o = none →
      Harmless S (.store o f value)) → Own S ks (fun _ => True) (next value)) :
    Own S ks (fun _ => True) (Sys.load that f >>= next) := by
  cases f with
  | mSfd =>
    refine .bind (own_load_mSfd hthat) fun fd hfd => hnext fd fun o ho => ⟨ho, hfd⟩
  | mAf | mBound | mListen =>
    exact .bind (own_load (.inl hthat)) fun value _ => hnext value fun o ho => ho

theorem own_takeM (hthis : S.sfd this = none) (hthat : S.sfd that = none) (f : Field)
    {reset : f.Ty} (hreset : Harmless S (.store that f reset)) :
    Own S ks (fun _ => True) (takeM this that f reset) :=
  own_transfer hthat f fun _ hvalue =>
    .bind (own_store (hvalue this hthis)) fun _ _ => own_store hreset

theorem own_moveConstruct (hthat : S.sfd that = none) :
    Own S ∅ (fun o => S.sfd o = none) (moveConstruct that) := by
  refine .bind own_new fun this hthis => ?_
  refine .bind (own_takeM hthis hthat .mAf hthat) fun _ _ => ?_
  refine .bind (own_takeM hthis hthat .mSfd ⟨hthat, Sharing.not_owns_invalid⟩) fun _ _ => ?_
  refine .bind (own_lockBoth hthis fun ks => ?_) fun _ _ => .pure hthis
  exact .bind (own_takeM hthis hthat .mBound hthat) fun _ _ =>
    own_takeM hthis hthat .mListen hthat

theorem own_swapM (hthis : S.sfd this = none) (hthat : S.sfd that = none) (f : Field) :
    Own S ks (fun _ => True) (swapM this that f) :=
  own_transfer hthis f fun _ hmine => own_transfer hthat f fun _ htheirs =>
    .bind (own_store (htheirs this hthis)) fun _ _ => own_store (hmine that hthat)

theorem own_assign (hthis : S.sfd this = none) (hthat : S.sfd that = none) :
    Own S ∅ (fun _ => True) (assign this that) := by
  refine .bind (own_swapM hthis hthat .mSfd) fun _ _ => ?_
  refine .bind (own_swapM hthis hthat .mAf) fun _ _ => own_lockBoth hthis fun ks => ?_
  exact .bind (own_swapM hthis hthat .mBound) fun _ _ => own_swapM hthis hthat .mListen

theorem own_destruct (hthis : S.sfd this = none) : Own S ks (fun _ => True) (destruct this) := by
  refine .bind (own_load_mSfd hthis) fun fd hfd => ?_
  refine .bind (own_closeSocketP hfd) fun reset hreset => ?_
  exact .bind (own_store ⟨hthis, hreset⟩) fun _ _ => own_delete hthis

theorem own_moveAssign (hthis : S.sfd this = none) (hthat : S.sfd that = none) :
    Own S ∅ (fun _ => True) (moveAssign this that) :=
  .bracket (own_moveConstruct hthat) (fun _ ho => own_assign hthis ho) fun _ ho => own_destruct ho

theorem own_bind (hthis : S.sfd this = none) (ai : Addrinfo) :
    Own S ∅ (fun _ => True) (bind this ai) := by
  unfold bind
  refine .bind (own_load_mSfd hthis) fun fd _ => ?_
  refine .bind (Own.plain (.getsockopt ..) trivial rfl) ?_
  intro answer _
  refine .ite (fun _ => own_throw_error _) fun _ => ?_
  refine .ite (fun _ => .raise _) fun _ => .scopedLock hthis (by simp) ?_
  refine .bind (own_load_mSfd hthis) fun fd hfd => ?_
  refine .bind (Own.plain (.bind ..) hfd rfl) fun ret _ => ?_
  exact .ite (fun _ => own_throw_error _) fun _ => own_store hthis

theorem own_listen (hthis : S.sfd this = none) : Own S ∅ (fun _ => True) (listen this) := by
  refine .scopedLock hthis (by simp) (.bind (own_load_mSfd hthis) fun fd hfd => ?_)
  refine .bind (Own.plain (.listen ..) hfd rfl) fun ret _ => ?_
  exact .ite (fun _ => own_throw_error _) fun _ => own_store hthis

theorem own_isBind (hthis : S.sfd this = none) : Own S ∅ (fun _ => True) (isBind this) := by
  refine .bind (own_load_mSfd hthis) fun fd _ => .ite (fun _ => .raise _) fun _ => ?_
  exact .scopedLock hthis (by simp) (.mono (own_load (.inl hthis)) fun _ _ => trivial)

theorem own_isListen (hthis : S.sfd this = none) : Own S ∅ (fun _ => True) (isListen this) := by
  refine .bind (own_load_mSfd hthis) fun fd _ => .ite (fun _ => .raise _) fun _ => ?_
  exact .scopedLock hthis (by simp) (.mono (own_load (.inl hthis)) fun _ _ => trivial)

theorem own_getPort (hthis : S.sfd this = none) : Own S ∅ (fun _ => True) (getPort this) := by
  refine .bind (own_load_mSfd hthis) fun fd _ => .ite (fun _ => .raise _) fun _ => ?_
  refine .bind (own_isBind hthis) fun bound _ => .ite (fun _ => .raise _) fun _ => ?_
  refine .bind (own_load_mSfd hthis) fun fd _ => ?_
  refine .bind (Own.plain (.getsockname ..) trivial rfl) ?_
  exact fun answer _ => .ite (fun _ => own_throw_error _) fun _ => .pure trivial

theorem own_getsockoptInt (aLevel aOptname : Int) (aOptnameStr : String) :
    Own S ks (fun _ => True) (getsockoptInt this aLevel aOptname aOptnameStr) := by
  refine .bind (own_load (.inr rfl)) fun fd _ => ?_
  refine .bind (Own.plain (.getsockopt ..) trivial rfl) ?_
  exact fun answer _ => .ite (fun _ => own_throw_error _) fun _ => .pure trivial

theorem own_isReuseAddr : Own S ks (fun _ => True) (isReuseAddr this) :=
  .bind (own_getsockoptInt _ _ _) fun _ _ => .pure trivial

theorem own_isV6only : Own S ks (fun _ => True) (isV6only this) := by
  refine .bind (own_load (.inr rfl)) fun fd _ => .ite (fun _ => .raise _) fun _ => ?_
  refine .bind (own_load (.inr rfl)) fun af _ => .ite (fun _ => ?_) fun _ => .pure trivial
  exact .bind (own_getsockoptInt _ _ _) fun _ _ => .pure trivial

end CSocket

/-! ## addrinfo.cpp -/

namespace CAddrinfo

variable {this that : InfoId}

theorem own_loadInfo (f : InfoField) : Own S ks (fun _ => True) (Sys.loadInfo this f) :=
  .mono (Own.plain (.loadInfo this f) trivial rfl) fun _ _ => trivial

theorem own_storeInfo (f : InfoField) (value : f.Ty) :
    Own S ks (fun _ => True) (Sys.storeInfo this f value) :=
  Own.plain (.storeInfo this f value) trivial rfl

theorem own_getNewAddrinfo : Own S ∅ (fun _ => True) (getNewAddrinfo this) := by
  refine .bind (own_loadInfo _) fun mNode _ => .bind (own_loadInfo _) fun mService _ => ?_
  refine .bind (own_loadInfo _) fun mHints _ => ?_
  refine .bind (Own.blocking (.getaddrinfo _) trivial rfl) fun answer _ => ?_
  refine .ite (fun _ => .raise _) fun _ => .bind (own_loadInfo _) fun hints _ => ?_
  refine .bind (Own.plain (.writeProtocol ..) trivial rfl) fun _ _ => ?_
  refine .bind (own_loadInfo _) fun hints _ => ?_
  exact .bind (Own.plain (.writeFlags ..) trivial rfl) fun _ _ => .pure trivial

theorem own_fill : Own S ∅ (fun _ => True) (fill this) := by
  refine .bind (.onError (.bind own_getNewAddrinfo fun res _ => own_storeInfo _ _) ?_) ?_
  · exact Own.plain (.deleteInfo this) trivial rfl
  · exact fun _ _ => .pure trivial

theorem own_construct (aNode aService : String) (aFamily aSocktype aFlags aProtocol : Int) :
    Own S ∅ (fun _ => True) (construct aNode aService aFamily aSocktype aFlags aProtocol) :=
  .bind (Own.plain (.newInfo _) trivial rfl) fun _ _ => own_fill

theorem own_copy : Own S ∅ (fun _ => True) (copy that) := by
  refine .bind (Own.plain (.newInfo _) trivial rfl) fun this _ => ?_
  refine .bind (own_loadInfo _) fun mNode _ => .bind (own_storeInfo _ _) fun _ _ => ?_
  refine .bind (own_loadInfo _) fun mService _ => .bind (own_storeInfo _ _) fun _ _ => ?_
  exact .bind (own_loadInfo _) fun mHints _ => .bind (own_storeInfo _ _) fun _ _ => own_fill

theorem own_swapM (f : InfoField) : Own S ks (fun _ => True) (swapM this that f) :=
  .bind (own_loadInfo _) fun _ _ => .bind (own_loadInfo _) fun _ _ =>
    .bind (own_storeInfo _ _) fun _ _ => own_storeInfo _ _

theorem own_assign : Own S ks (fun _ => True) (assign this that) :=
  .bind (own_swapM _) fun _ _ => .bind (own_swapM _) fun _ _ =>
    .bind (own_swapM _) fun _ _ => own_swapM _

theorem own_destruct : Own S ks (fun _ => True) (destruct this) :=
  .bind (own_loadInfo _) fun _ _ =>
    .bind (Own.plain (.freeaddrinfo _) trivial rfl) fun _ _ =>
      .bind (own_storeInfo _ _) fun _ _ => Own.plain (.deleteInfo this) trivial rfl

theorem own_copyAssign : Own S ∅ (fun _ => True) (copyAssign this that) :=
  .bracket own_copy (fun _ _ => own_assign) fun _ _ => own_destruct

theorem own_entries : Own S ks (fun _ => True) (entries this) := by
  refine .bind (own_loadInfo _) fun res _ => ?_
  refine .bind (Own.plain (.readRes _) trivial rfl) fun list _ => ?_
  cases list with
  | none => exact .raise _
  | some list => exact .pure trivial

theorem own_arrow : Own S ks (fun _ => True) (arrow this) := by
  refine .bind own_entries fun list _ => ?_
  cases list with
  | nil => exact .raise _
  | cons entry rest => exact .pure trivial

theorem own_addrStr (inetNtop : Int → Bytes → Option String) :
    Own S ks (fun _ => True) (addrStr inetNtop this) :=
  .bind own_arrow fun _ _ => .ite (fun _ => .pure trivial) fun _ => .pure trivial

theorem own_port : Own S ks (fun _ => True) (port this) :=
  .bind own_arrow fun _ _ => .pure trivial

end CAddrinfo

/-! ## server-tcp.cpp and client-tcp.cpp -/

namespace CServerTCP

theorem own_constructBody {sfd : ObjId} (hsfd : S.sfd sfd = none) (aPort : String) :
    Own S ∅ (fun _ => True) (constructBody sfd aPort) := by
  refine .bracket (CAddrinfo.own_construct _ _ _ _ _ _) (fun ai _ => ?_) fun _ _ =>
    CAddrinfo.own_destruct
  exact .bind CAddrinfo.own_arrow fun entry _ =>
    .bind (CSocket.own_bind hsfd entry) fun _ _ => CSocket.own_listen hsfd

theorem own_construct (aPort : String) (aReuseAddr : Bool) :
    Own S ∅ (fun server => S.sfd server.mListenSfd = none) (construct aPort aReuseAddr) := by
  refine .bind (CSocket.own_construct _ _ _) fun sfd hsfd => ?_
  refine .bind (Own.plain (.storeReady ..) trivial rfl) fun _ _ => ?_
  exact .bind (.onError (own_constructBody hsfd aPort) (CSocket.own_destruct hsfd)) fun _ _ =>
    .pure hsfd

variable (this : CServerTCP)

theorem own_serve (l : Locals) : Own S ∅ (fun _ => True) (this.serve l) := by
  refine .bind (own_load (.inr rfl)) fun lfd _ => ?_
  refine .bind (Own.blocking (.accept lfd) trivial rfl) fun fd hfd => ?_
  refine .ite (fun _ => own_throw_error _) fun _ => ?_
  refine .bind (Own.blocking (.recv ..) trivial rfl) fun answer _ => ?_
  refine .bind (Own.plain (.shutdown ..) trivial rfl) fun _ _ => ?_
  refine .bind (own_closeSocketP hfd) fun _ _ => ?_
  refine .ite (fun _ => own_throw_error _) fun _ => .ite (fun _ => own_throw_error _) fun _ => ?_
  split
  · exact .pure trivial
  · exact .raise _

theorem own_run (fuel : Nat) : Own S ∅ (fun _ => True) (this.run fuel) :=
  .bind (Own.plain (.storeReady ..) trivial rfl) fun _ _ =>
    .bind (.whileLoop this.own_serve fuel {}) fun _ _ => .pure trivial

theorem own_ready (aDelay : Int) : Own S ks (fun _ => True) (this.ready aDelay) :=
  .bind (Own.plain (.loadReady _) trivial rfl) fun _ _ =>
    .mono (Own.plain (.loadReady _) trivial rfl) fun _ _ => trivial

end CServerTCP

theorem own_quitServer : Own S ∅ (fun _ => True) quitServer := by
  refine .bracket (CSocket.own_construct _ _ _) (fun sock hsock => ?_) fun _ ho =>
    CSocket.own_destruct ho
  refine .bracket (CAddrinfo.own_construct _ _ _ _ _ _) (fun ai _ => ?_) fun _ _ => CAddrinfo.own_destruct
  refine .bind CAddrinfo.own_arrow fun res _ => .bind (own_load (.inr rfl)) fun fd _ => ?_
  refine .bind (Own.blocking (.connect ..) trivial rfl) fun ret _ => ?_
  refine .ite (fun _ => own_throw_error _) fun _ => .bind (own_load (.inr rfl)) fun fd _ => ?_
  refine .bind (Own.blocking (.send ..) trivial rfl) fun valsend _ => ?_
  refine .ite (fun _ => own_throw_error _) fun _ => .bind (own_load (.inr rfl)) fun fd _ => ?_
  exact .bind (Own.plain (.shutdown ..) trivial rfl) fun _ _ => .pure trivial

end ClientServerTcp
