import ClientServerTcp.Server.Loop
import ClientServerTcp.Threads.Lifetime
import ClientServerTcp.Threads.Quits

/-! `run()` and `quit_server` in turns: each is checked alone, and takes effect
when it reads a 'Q', or sends one. All their other calls are silent. -/
namespace ClientServerTcp
open Effects Program

/-- The operations that leave the role of a thread as it is. -/
def Quiet (g : Role) : Op → Prop
  | .connect .. | .accept _ | .send .. | .recv .. | .lock .. | .unlock .. => False
  | .load .. => True
  | _ => g = .free

/-- Where a thread stands: what it has, its role, and whether its request has
taken effect. -/
def At (P : Hand → Prop) (g : Role) (done : Bool) (s : Line × Bool) : Prop :=
  P s.1.1 ∧ s.1.2 = g ∧ s.2 = done

section
variable {base own : Hand} {α β γ : Type} {Spec : Except Exn γ → Nat → Nat → Prop}
  {settled : Except Exn γ} {g : Role} {done : Bool}

variable (base Spec settled) in
/-- A function of a request that responds as `settled` when it has taken effect. -/
abbrev Turns (P : Line × Bool → Prop) (p : Prog α) (Q : α → Line × Bool → Prop)
    (E : Exn → Line × Bool → Prop) : Prop :=
  Triple (PointStep (LineStep base) quitEffect) (PointMay (LineMay base) quitEffect Spec settled)
    P p Q E

theorem turns_of_manages {P : Hand → Prop} {p : Prog α} {Q : α → Hand → Prop} {E : Hand → Prop}
    (hp : Manages base P p Q E) (hquiet : p.only (Quiet g)) :
    Turns base Spec settled (At P g done) p (fun value => At (Q value) g done)
      (fun _ => At E g done) := by
  refine Triple.lift (fun s : Line × Bool => s.1.1) ?_ hp hquiet
  rintro op ⟨⟨own, role⟩, flag⟩ hop ⟨hrole, hflag⟩ hmay
  obtain rfl : role = g := hrole
  obtain rfl : flag = done := hflag
  cases op with
  | connect | accept | send | recv | lock | unlock => exact hop.elim
  | load o f =>
    refine ⟨⟨⟨hmay, trivial⟩, by simp [quitEffect]⟩, ?_⟩
    rintro answer ⟨⟨own', role'⟩, flag'⟩ ⟨⟨hhand, -, hnext⟩, hdone⟩
    exact ⟨hhand, hnext, by simpa [quitEffect] using hdone⟩
  | _ =>
    refine ⟨⟨⟨hmay, hop⟩, by simp [quitEffect]⟩, ?_⟩
    rintro answer ⟨⟨own', role'⟩, flag'⟩ ⟨⟨hhand, -, hnext⟩, hdone⟩
    exact ⟨hhand, hnext, by simpa [quitEffect] using hdone⟩

theorem turns_of_keeps {E : Hand → Prop} {Q : α → Prop} {p : Prog α}
    (hp : Keeps base own E Q p) (hquiet : p.only (Quiet g)) :
    Turns base Spec settled (At (· = own) g done) p (fun value s => Q value ∧ At (· = own) g done s)
      (fun _ => At E g done) := by
  refine (turns_of_manages hp hquiet).post ?_
  rintro value s ⟨⟨hown, hvalue⟩, hrest⟩
  exact ⟨hvalue, hown, hrest⟩

theorem turns_of_total {Q : α → Prop} {p : Prog α} (hp : Keeps base own (fun _ => False) Q p)
    (hquiet : p.only (Quiet g)) {E : Exn → Line × Bool → Prop} :
    Turns base Spec settled (At (· = own) g done) p (fun value s => Q value ∧ At (· = own) g done s)
      E :=
  (turns_of_keeps hp hquiet).conseq (fun _ h => h) (fun _ _ h => h) fun _ _ h => h.1.elim

theorem turns_call (op : Op) {E : Exn → Line × Bool → Prop} (hmay : HandMay base op own)
    (hrole : g.May op)
    (hpoint : ∀ M, quitEffect op = some M → done = false ∧ ∀ a b, M a b → Spec settled a b) :
    Turns base Spec settled (At (· = own) g done) (Sys.call op)
      (fun answer s => (Delivers op answer ∧ Learns (base.sees own) op answer) ∧
        At (· = own.change (op.change answer)) (g.next op answer)
          (done || (quitEffect op).isSome) s) E := by
  apply Triple.perform
  · rintro ⟨⟨_, _⟩, _⟩ ⟨rfl, rfl, rfl⟩
    exact ⟨⟨hmay, hrole⟩, hpoint⟩
  · rintro ⟨⟨_, _⟩, _⟩ answer ⟨⟨own', role'⟩, flag'⟩ ⟨rfl, rfl, rfl⟩
      ⟨⟨hhand, hdelivers, hnext⟩, hdone⟩
    exact ⟨⟨hdelivers, hhand.1⟩, hhand.2, hnext, hdone⟩

/-! ## Quiet functions -/

section
variable {B : Op → Prop}

theorem only_call {op : Op} (h : B op) : (Sys.call op).only B := ⟨h, fun _ => trivial⟩

theorem only_throw_error (errmsg : Errmsg) :
    (throw_error errmsg : Prog α).only (Quiet .free) :=
  only_bind (only_call rfl) fun _ => trivial

theorem only_closeSocketP (fd : SOCKET) : (closeSocketP fd).only (Quiet .free) :=
  only_bind (only_call rfl) fun _ => trivial

end

namespace CSocket

theorem only_construct (aDomain aType aProtocol : Int) :
    (construct aDomain aType aProtocol).only (Quiet .free) := by
  have hclose : ∀ (fd : SOCKET) errmsg, (do
      let _ ← closeSocketP fd
      throw_error errmsg : Prog Unit).only (Quiet .free) :=
    fun fd errmsg => only_bind (only_closeSocketP fd) fun _ => only_throw_error errmsg
  have hstores : ∀ this fd, (do
      Sys.store this .mSfd fd
      Sys.store this .mAf aDomain : Prog Unit).only (Quiet .free) :=
    fun this fd => only_bind (only_call rfl) fun _ => only_call rfl
  refine only_bind (only_call rfl) fun this => ?_
  refine only_bind (only_onError ?_ (only_call rfl)) fun _ => trivial
  refine only_ite trivial (only_bind (only_call rfl) fun fd => ?_)
  refine only_ite (only_throw_error _) (only_bind (only_call rfl) fun _ => ?_)
  refine only_ite (hclose fd _) (only_ite ?_ (hstores this fd))
  exact only_bind (only_call rfl) fun _ => only_ite (hclose fd _) (hstores this fd)

theorem only_destruct (this : ObjId) : (destruct this).only (Quiet .free) := by
  refine only_bind (only_call trivial) fun fd => only_bind (only_closeSocketP fd) fun _ => ?_
  exact only_bind (only_call rfl) fun _ => only_call rfl

end CSocket

namespace CAddrinfo

theorem only_construct (aNode aService : String) (aFamily aSocktype aFlags aProtocol : Int) :
    (construct aNode aService aFamily aSocktype aFlags aProtocol).only (Quiet .free) := by
  have hget : ∀ this, (getNewAddrinfo this).only (Quiet .free) := by
    intro this
    refine only_bind (only_call rfl) fun _ => only_bind (only_call rfl) fun _ => ?_
    refine only_bind (only_call rfl) fun _ => only_bind (only_call rfl) fun answer => ?_
    refine only_ite trivial (only_bind (only_call rfl) fun _ => ?_)
    refine only_bind (only_call rfl) fun _ => only_bind (only_call rfl) fun _ => ?_
    exact only_bind (only_call rfl) fun _ => trivial
  refine only_bind (only_call rfl) fun this => only_bind ?_ fun _ => trivial
  exact only_onError (only_bind (hget this) fun _ => only_call rfl) (only_call rfl)

theorem only_destruct (this : InfoId) : (destruct this).only (Quiet .free) := by
  refine only_bind (only_call rfl) fun _ => only_bind (only_call rfl) fun _ => ?_
  exact only_bind (only_call rfl) fun _ => only_call rfl

theorem only_arrow (this : InfoId) : (arrow this).only (Quiet .free) := by
  have hentries : (entries this).only (Quiet .free) := by
    refine only_bind (only_call rfl) fun _ => only_bind (only_call rfl) fun list => ?_
    cases list <;> trivial
  refine only_bind hentries fun list => ?_
  cases list <;> trivial

end CAddrinfo

theorem turns_throw_error (errmsg : Errmsg) :
    Turns base Spec settled (At (· = own) .free done) (throw_error errmsg : Prog α)
      (fun _ _ => False) (fun error s => (∃ errno, error = .thrown (.withErrno errmsg errno)) ∧
        At (· = own) .free done s) := by
  have herrno : Keeps base own (fun _ => False) (fun _ => True) Sys.errno :=
    (Keeps.idle .errno (by simp [Op.uses]) rfl fun _ => rfl).mono fun _ _ => trivial
  exact (turns_of_total herrno (only_call rfl)).bind fun errno =>
    Triple.raise fun s hs => ⟨⟨errno, rfl⟩, hs.2⟩

/-! ## client-tcp.cpp -/

theorem turns_block {acquire : Prog β} {release : β → Prog Unit} {body : β → Prog α}
    {P : Hand → Prop} {P' : β → Hand → Prop} {φ : β → Prop}
    (hacquire : Manages base P acquire (fun x own => φ x ∧ P' x own) P)
    (hquiet : acquire.only (Quiet .free))
    (hrelease : ∀ x, φ x → Manages base (P' x) (release x) (fun _ => P) fun _ => False)
    (hquiet' : ∀ x, (release x).only (Quiet .free))
    (hbody : ∀ x, φ x → Turns base Spec settled (At (P' x) .free false) (body x)
      (fun _ => At (P' x) .free true) fun _ => At (P' x) .free false) :
    Turns base Spec settled (At P .free false) (.bracket acquire release body)
      (fun _ => At P .free true) fun _ => At P .free false := by
  refine Triple.bind (turns_of_manages hacquire hquiet) fun x => ?_
  refine (Triple.assume fun hx => ?_ : Turns base Spec settled
    (fun s => φ x ∧ At (P' x) .free false s) _ _ _).pre fun s h => ⟨h.1.1, h.1.2, h.2⟩
  have hend : ∀ done, Turns base Spec settled (At (P' x) .free done) (release x)
      (fun _ => At P .free done) fun _ => At P .free false := by
    intro done
    exact (turns_of_manages (hrelease x hx) (hquiet' x)).conseq (fun _ h => h) (fun _ _ h => h)
      fun _ _ h => h.1.elim
  exact (hbody x hx).onExit (fun _ => hend true) fun _ => hend false

theorem turns_quitServerBody {os : Set ObjId} {as : Set InfoId} {sock : ObjId} {ai : InfoId}
    (h : Scope os as own) (hsock : sock ∈ os) (hai : ai ∈ as)
    (hspec : ∀ n, Spec settled n (n + 1)) :
    Turns base Spec settled (At (· = own) .free false) (quitServerBody sock ai)
      (fun _ => At (· = own) .free true) fun _ => At (· = own) .free false := by
  obtain ⟨fd, hobject, hfd⟩ := h.owned hsock
  have hload : ∀ {g : Role} {done : Bool}, Turns base Spec settled (At (· = own) g done)
      (CSocket.operatorSOCKET sock) (fun value s => value = fd ∧ At (· = own) g done s)
      fun _ => At (· = own) .free false :=
    fun {g done} => turns_of_total (keeps_load_own hobject) (only_call trivial)
  have htakes : ∀ x ∈ (if fd = invalidSocket then [] else [Resource.descriptor fd]),
      (own x).isSome := fun x hx => hfd.of_mem hx
  have huses : ∀ x ∈ (if fd = invalidSocket then [] else [Resource.descriptor fd]),
      (base.sees own x).isSome := fun x hx => Hand.sees_own (htakes x hx)
  refine Triple.bind (turns_of_keeps (CAddrinfo.keeps_arrow (h.readable hai) rfl)
    (CAddrinfo.only_arrow ai)) fun res => Triple.assume fun _ => ?_
  refine Triple.bind hload fun value => Triple.assume ?_
  rintro rfl
  refine Triple.bind (turns_call (.connect ..) ⟨huses, htakes⟩ rfl (by simp [quitEffect]))
    fun ret => Triple.assume fun _ => Triple.ite (fun hret => ?_) fun hret => ?_
  · have hrole : Role.next .free (.connect value res.aiAddr res.aiAddrlen) ret = .free :=
      if_neg hret
    rw [hrole]
    exact (turns_throw_error _).conseq (fun _ h => h) (fun _ _ h => h.elim) fun _ _ h => h.2
  · have hrole : Role.next .free (.connect value res.aiAddr res.aiAddrlen) ret = .calling value :=
      if_pos (by simpa using hret)
    rw [hrole]
    refine Triple.bind hload fun value' => Triple.assume ?_
    rintro rfl
    refine Triple.bind (turns_call (.send value' [charQ]) ⟨huses, by simp [Op.takes]⟩ ⟨rfl, rfl⟩ ?_)
      fun valsend => Triple.assume fun hsent => Triple.ite (fun hne => ?_) fun _ => ?_
    · rintro M hM
      obtain rfl := Option.some.inj hM
      refine ⟨rfl, ?_⟩
      rintro a b rfl
      exact hspec a
    · exact absurd hsent.1 hne
    · refine Triple.bind hload fun value'' => Triple.assume ?_
      rintro rfl
      refine Triple.bind (turns_call (.shutdown value'' shutRdwr) ⟨huses, htakes⟩ rfl
        (by simp [quitEffect])) fun _ => Triple.assume fun _ => Triple.pure fun s hs => hs

theorem turns_quitServer (hspec : ∀ n, Spec settled n (n + 1)) :
    Turns base Spec settled (At (Scope ∅ ∅) .free false) quitServer
      (fun _ => At (Scope ∅ ∅) .free true) fun _ => At (Scope ∅ ∅) .free false := by
  refine turns_block (CSocket.manages_construct _ _ _) (CSocket.only_construct _ _ _)
    (fun sock hnew => ?_) CSocket.only_destruct fun sock _ => ?_
  · refine (CSocket.manages_destruct (Set.mem_insert _ _)).post fun _ own h => ?_
    rwa [Set.insert_sdiff_self_of_notMem hnew] at h
  · refine turns_block (CAddrinfo.manages_construct _ _ _ _ _ _)
      (CAddrinfo.only_construct _ _ _ _ _ _) (fun ai hnew => ?_) CAddrinfo.only_destruct
      fun ai _ => ?_
    · refine (CAddrinfo.manages_destruct (Set.mem_insert _ _)).post fun _ own h => ?_
      rwa [Set.insert_sdiff_self_of_notMem hnew] at h
    · rintro ⟨⟨own, role⟩, done⟩ ⟨hown, hrest⟩
      have hbody : Turns base Spec settled (At (· = own) .free false) (quitServerBody sock ai)
          (fun _ => At (· = own) .free true) fun _ => At (· = own) .free false :=
        turns_quitServerBody hown (Set.mem_insert sock ∅) (Set.mem_insert ai ∅) hspec
      exact (hbody.conseq (fun _ h => h) (fun _ _ h => ⟨h.1 ▸ hown, h.2⟩)
        fun _ _ h => ⟨h.1 ▸ hown, h.2⟩) _ ⟨rfl, hrest⟩

/-! ## server-tcp.cpp -/

namespace CServerTCP
variable (this : CServerTCP) {lfd : SOCKET} (hlfd : lfd ≠ invalidSocket)
  (hthis : base.sees own (.object this.mListenSfd) = some lfd)
  (hopen : (base.sees own (.descriptor lfd)).isSome)
include hlfd hthis hopen

/-- A round reads a 'Q', which ends the loop, unless no connection is accepted. -/
theorem turns_serve (hspec : ∀ n, Spec settled (n + 1) n) (l : Locals) :
    Turns base Spec settled (At (· = own) .free false) (this.serve l)
      (fun l' s => looping l' = false ∧ At (· = own) .free true s)
      fun error s => (∃ errno, error = .thrown (.withErrno .msg1022 errno)) ∧
        At (· = own) .free false s := by
  have hobject : ∀ x ∈ (Op.load this.mListenSfd .mSfd).uses, (base.sees own x).isSome := by
    simp [Op.uses, hthis]
  have huses : ∀ x ∈ (Op.accept lfd).uses, (base.sees own x).isSome := by
    simpa [Op.uses, hlfd] using hopen
  have hload : Keeps base own (fun _ => False) (· = lfd)
      (CSocket.operatorSOCKET this.mListenSfd) :=
    (Keeps.idle (.load this.mListenSfd .mSfd) hobject rfl fun _ => rfl).mono
      fun value hvalue => Option.some.inj (hvalue.symm.trans hthis)
  refine Triple.bind (turns_of_total hload (only_call trivial)) fun value => Triple.assume ?_
  rintro rfl
  refine Triple.bind (turns_call (.accept value) ⟨huses, by simp [Op.takes]⟩ ⟨rfl, hlfd⟩
    (by simp [quitEffect])) fun fd => Triple.assume fun haccepted =>
      Triple.ite (fun hfailed => ?_) fun hfd => ?_
  · have hrole : Role.next .free (.accept value) fd = .free := if_pos hfailed
    have hchange : own.change (Op.change (.accept value) fd) = own := by
      rw [Op.change, hfailed]
      rfl
    rw [hrole, hchange]
    exact (turns_throw_error _).conseq (fun _ h => h) (fun _ _ h => h.elim) fun _ _ h => h
  · have hrole : Role.next .free (.accept value) fd = .serving fd := if_neg hfd
    have hchange : own.change (Op.change (.accept value) fd) =
        Function.update own (.descriptor fd) (some ()) := Hand.change_opened hfd
    rw [hrole, hchange]
    have hvalid : Hand.Valid (Function.update own (.descriptor fd) (some ())) fd :=
      Hand.valid_opened
    have htakes : ∀ x ∈ [Resource.descriptor fd],
        (Function.update own (.descriptor fd) (some ()) x).isSome := by
      intro x hx
      obtain rfl := List.mem_singleton.mp hx
      exact hvalid hfd
    have hsees : ∀ x ∈ [Resource.descriptor fd],
        (base.sees (Function.update own (.descriptor fd) (some ())) x).isSome :=
      fun x hx => Hand.sees_own (htakes x hx)
    refine Triple.bind (turns_call (.recv fd (bufferSize - 1))
      ⟨by simpa [Op.uses, hfd] using hsees, by simp [Op.takes]⟩ ⟨rfl, by decide⟩ ?_) fun answer =>
        Triple.assume ?_
    · rintro M hM
      obtain rfl := Option.some.inj hM
      refine ⟨rfl, ?_⟩
      rintro a b rfl
      exact hspec b
    rintro ⟨hreads, -⟩
    obtain rfl : answer = (1, [charQ]) := hreads
    have hread : ∀ own₁ : Hand, own₁.change (Op.change (.recv fd (bufferSize - 1)) (1, [charQ])) =
        own₁ := fun _ => rfl
    rw [hread]
    refine Triple.bind (turns_call (.shutdown fd shutRdwr)
      ⟨by simpa [Op.uses, hfd] using hsees, by simp [Op.takes, hfd]⟩ rfl
      (by simp [quitEffect])) fun _ => Triple.assume fun _ => ?_
    have hclose : Turns base Spec settled
        (At (· = Function.update own (.descriptor fd) (some ())) .free true) (closeSocketP fd)
        (fun _ => At (· = own) .free true) fun _ => At (fun _ => False) .free true :=
      (turns_of_manages (keeps_close hfd (Learns.opened hfd (haccepted.2 rfl)))
        (only_closeSocketP fd)).post fun _ _ h => ⟨h.1.1, h.2⟩
    refine Triple.bind (hclose.conseq (fun _ h => h) (fun _ _ h => h) fun _ _ h => h.1.elim)
      fun acceptSfd => ?_
    have hlt : [charQ].length < bufferSize := by decide
    have hwrite : (l.buffer.overwrite [charQ]).write 1 0 = some (l.after [charQ] hlt).buffer :=
      Buffer.write_of_lt _ hlt 0
    have hdone : looping { acceptSfd, buffer := (l.after [charQ] hlt).buffer, valread := 1 } =
        false := by
      have hafter := looping_after l hlt (List.cons_ne_nil _ _)
      rwa [decide_eq_false (by simp)] at hafter
    simp only [hwrite]
    exact Triple.ite (fun h => absurd h (by decide)) fun _ => Triple.ite
      (fun h => absurd h (by decide)) fun _ => Triple.pure fun _ hs => ⟨hdone, hs⟩

/-- It runs until it has read a 'Q', or cannot accept a connection. -/
theorem turns_run (hspec : ∀ n, Spec settled (n + 1) n) (fuel : Nat) :
    Turns base Spec settled (At (· = own) .free false) (this.run (fuel + 1))
      (fun value s => value = some () ∧ At (· = own) .free true s)
      fun error s => (∃ errno, error = .thrown (.withErrno .msg1022 errno)) ∧
        At (· = own) .free false s := by
  have hstore : Keeps base own (fun _ => False) (fun _ => True)
      (Sys.storeReady this.mListenSfd true) :=
    this.keeps_storeReady ⟨lfd, hthis, fun _ => hopen⟩ true
  refine Triple.bind (turns_of_total hstore (only_call rfl)) fun _ => Triple.assume fun _ => ?_
  refine Triple.bind (T := fun exit s => exit.isSome ∧ At (· = own) .free true s) ?_ fun exit =>
    Triple.assume fun hexit => Triple.pure fun s hs => ⟨?_, hs⟩
  · refine Triple.bind (this.turns_serve hlfd hthis hopen hspec {}) fun l =>
      Triple.assume fun hl => ?_
    -- The first 'Q' ends the loop.
    have hleft : whileLoop looping this.serve fuel l = Pure.pure (some l) := by
      cases fuel <;> simp only [whileLoop, hl] <;> rfl
    rw [hleft]
    exact Triple.pure fun _ hs => ⟨rfl, hs⟩
  · obtain ⟨l, rfl⟩ := Option.isSome_iff_exists.mp hexit
    rfl

end CServerTCP

end
end ClientServerTcp
