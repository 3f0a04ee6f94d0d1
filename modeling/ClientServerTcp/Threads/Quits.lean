import ClientServerTcp.Library.Points
import ClientServerTcp.Threads.Usage
import ClientServerTcp.Threads.Wiring

/-! The protocol of `quit_server` and `run()`: whoever has connected sends one
'Q', and whoever has accepted reads it. No connection carries anything else. -/
namespace ClientServerTcp
open Effects

/-- What a thread has to do next on a connection: send, or read. -/
inductive Role where
  | free
  | calling (fd : SOCKET)
  | serving (fd : SOCKET)
  deriving DecidableEq, Repr

namespace Role

def fd : Role → Option SOCKET
  | .free => none
  | .calling fd | .serving fd => some fd

def next (g : Role) : (op : Op) → op.Res → Role
  | .connect fd _ _, ret => if ret = 0 then .calling fd else g
  | .accept _, fd => if fd = invalidSocket then g else .serving fd
  | .send .., _ | .recv .., _ => .free
  | _, _ => g

def May (g : Role) : Op → Prop
  | .send fd msg => g = .calling fd ∧ msg = [charQ]
  | .accept sfd => g = .free ∧ sfd ≠ invalidSocket
  | .recv fd len => g = .serving fd ∧ 0 < len
  | .load .. => True
  | .lock .. | .unlock .. => False
  | _ => g = .free

end Role

section
variable {ι : Type} (roles : ι → Role) (n : Wiring) (l : Nat)

def Called : Prop := ∃ i fd, roles i = .calling fd ∧ n.dialed fd = some l

def Served : Prop := ∃ i fd, roles i = .serving fd ∧ n.accepted fd = some l

end

/-- Every connection carries 'Q', or its caller is about to send it, and is read
once, by the one who has accepted it. -/
structure Wired {ι : Type} (roles : ι → Role) (n : Wiring) : Prop where
  dialed : ∀ {fd fd' l}, n.dialed fd = some l → n.dialed fd' = some l → fd = fd'
  accepted : ∀ {fd fd' l}, n.accepted fd = some l → n.accepted fd' = some l → fd = fd'
  known : ∀ {fd l}, n.dialed fd = some l → l < n.links.length
  heard : ∀ {fd l}, n.accepted fd = some l →
    ∃ link : Link, n.links[l]? = some link ∧ link.taken = true
  caller : ∀ {i fd}, roles i = .calling fd →
    ∃ (l : Nat) (link : Link), n.dialed fd = some l ∧ n.links[l]? = some link ∧ link.wire = []
  server : ∀ {i fd}, roles i = .serving fd →
    ∃ (l : Nat) (link : Link), n.accepted fd = some l ∧ n.links[l]? = some link ∧ link.read = 0
  sent : ∀ {l : Nat} {link : Link}, n.links[l]? = some link → link.wire = [charQ] ∨
    link.wire = [] ∧ link.ended = false ∧ link.cut = false ∧ link.read = 0 ∧ Called roles n l
  waiting : ∀ {l : Nat} {link : Link}, n.links[l]? = some link → link.taken = false → link.read = 0
  served : ∀ {l : Nat} {link : Link}, n.links[l]? = some link → link.taken = true →
    link.read = 0 → Served roles n l

namespace Wired

variable {ι : Type} {roles : ι → Role} {n : Wiring} {i : ι} {fd : SOCKET} {l : Nat} {link : Link}

theorem start : Wired (fun _ : ι => .free) {} := by
  constructor <;> simp

variable [DecidableEq ι]

private theorem apply_of_ne {g g' : Role} {j : ι} (hi : roles i ≠ g') (hj : roles j = g') :
    Function.update roles i g j = g' := by
  rwa [Function.update_of_ne]
  rintro rfl
  exact hi hj

variable (h : Wired roles n)
include h

theorem dial (hi : roles i = .free) (hfd : n.dialed fd = none) :
    Wired (Function.update roles i (.calling fd)) (n.dial fd) := by
  obtain ⟨hdialed, haccepted, hknown, hheard, hcaller, hserver, hsent, hwaiting, hserved⟩ := h
  have hlt : ∀ {l : Nat} {link : Link}, n.links[l]? = some link → l < n.links.length :=
    fun hlink => (List.getElem?_eq_some_iff.mp hlink).1
  have hnew : Called (Function.update roles i (.calling fd)) (n.dial fd) n.links.length :=
    ⟨i, fd, Function.update_self .., by simp [Wiring.dialed_dial]⟩
  have hcalls : ∀ l, Called roles n l →
      Called (Function.update roles i (.calling fd)) (n.dial fd) l := by
    rintro l ⟨j, fd', hj, hl⟩
    refine ⟨j, fd', apply_of_ne (by simp [hi]) hj, ?_⟩
    grind [Wiring.dialed_dial]
  have hserves : ∀ l, Served roles n l →
      Served (Function.update roles i (.calling fd)) (n.dial fd) l := by
    rintro l ⟨j, fd', hj, hl⟩
    exact ⟨j, fd', apply_of_ne (by simp [hi]) hj, hl⟩
  constructor
  case caller =>
    intro j fd' hj
    by_cases hji : j = i
    · obtain rfl : fd = fd' := by simpa [hji] using hj
      exact ⟨n.links.length, {}, by rw [Wiring.dialed_dial, if_pos rfl],
        by rw [Wiring.links_dial, if_pos rfl], rfl⟩
    · grind [Wiring.links_dial, Wiring.dialed_dial, Function.update_apply]
  all_goals grind [Wiring.links_dial, Wiring.dialed_dial, Wiring.accepted_dial, Wiring.length_dial,
      Function.update_apply]

theorem take (hi : roles i = .free) (hquiet : ∀ j, (roles j).fd ≠ some fd)
    (hlink : n.links[l]? = some link) (htaken : link.taken = false) :
    Wired (Function.update roles i (.serving fd)) (n.take fd l link) := by
  obtain ⟨hdialed, haccepted, hknown, hheard, hcaller, hserver, hsent, hwaiting, hserved⟩ := h
  have hlinks := @Wiring.links_take n fd l link hlink
  have hnew : Served (Function.update roles i (.serving fd)) (n.take fd l link) l :=
    ⟨i, fd, Function.update_self .., by simp [Wiring.accepted_take]⟩
  have hcalls : ∀ l', Called roles n l' →
      Called (Function.update roles i (.serving fd)) (n.take fd l link) l' := by
    rintro l' ⟨j, fd', hj, hl⟩
    exact ⟨j, fd', apply_of_ne (by simp [hi]) hj, hl⟩
  have hserves : ∀ l', Served roles n l' →
      Served (Function.update roles i (.serving fd)) (n.take fd l link) l' := by
    rintro l' ⟨j, fd', hj, hl⟩
    refine ⟨j, fd', apply_of_ne (by simp [hi]) hj, ?_⟩
    grind [Role.fd, Wiring.accepted_take]
  constructor
  all_goals grind [Role.fd, Wiring.dialed_take, Wiring.accepted_take, Wiring.length_take,
      Function.update_apply, -getElem?_pos]

theorem send (hi : roles i = .calling fd) (hquiet : ∀ j, j ≠ i → (roles j).fd ≠ some fd)
    (hl : n.dialed fd = some l) (hlink : n.links[l]? = some link) :
    Wired (Function.update roles i .free) (n.put l { link with wire := [charQ] }) := by
  obtain ⟨hdialed, haccepted, hknown, hheard, hcaller, hserver, hsent, hwaiting, hserved⟩ := h
  have hlinks := @Wiring.links_put n l { link with wire := [charQ] } link hlink
  have hcalls : ∀ l', l' ≠ l → Called roles n l' →
      Called (Function.update roles i .free) (n.put l { link with wire := [charQ] }) l' := by
    rintro l' hne ⟨j, fd', hj, hl'⟩
    refine ⟨j, fd', apply_of_ne ?_ hj, hl'⟩
    grind
  have hserves : ∀ l', Served roles n l' →
      Served (Function.update roles i .free) (n.put l { link with wire := [charQ] }) l' := by
    rintro l' ⟨j, fd', hj, hl'⟩
    exact ⟨j, fd', apply_of_ne (by simp [hi]) hj, hl'⟩
  constructor
  all_goals grind [Role.fd, Wiring.dialed_put, Wiring.accepted_put, Wiring.length_put,
      Function.update_apply]

theorem recv (hi : roles i = .serving fd) (hquiet : ∀ j, j ≠ i → (roles j).fd ≠ some fd)
    (hl : n.accepted fd = some l) (hlink : n.links[l]? = some link) (hwire : link.wire = [charQ]) :
    Wired (Function.update roles i .free) (n.put l { link with read := 1 }) := by
  obtain ⟨hdialed, haccepted, hknown, hheard, hcaller, hserver, hsent, hwaiting, hserved⟩ := h
  have hlinks := @Wiring.links_put n l { link with read := 1 } link hlink
  have hcalls : ∀ l', Called roles n l' →
      Called (Function.update roles i .free) (n.put l { link with read := 1 }) l' := by
    rintro l' ⟨j, fd', hj, hl'⟩
    exact ⟨j, fd', apply_of_ne (by simp [hi]) hj, hl'⟩
  have hserves : ∀ l', l' ≠ l → Served roles n l' →
      Served (Function.update roles i .free) (n.put l { link with read := 1 }) l' := by
    rintro l' hne ⟨j, fd', hj, hl'⟩
    refine ⟨j, fd', apply_of_ne ?_ hj, hl'⟩
    grind
  constructor
  all_goals grind [Role.fd, Wiring.dialed_put, Wiring.accepted_put, Wiring.length_put,
      Function.update_apply]

omit [DecidableEq ι] in
theorem hangUp (hquiet : ∀ j, (roles j).fd ≠ some fd) : Wired roles (n.hangUp fd) := by
  obtain ⟨hdialed, haccepted, hknown, hheard, hcaller, hserver, hsent, hwaiting, hserved⟩ := h
  have hkept : ∀ {l : Nat} {link : Link}, n.links[l]? = some link → (n.hangUp fd).links[l]? =
      some { link with
        ended := link.ended || n.dialed fd = some l
        cut := link.cut || n.accepted fd = some l } := by
    intro l link hlink
    rw [Wiring.links_hangUp, hlink, Option.map_some]
  have hold : ∀ {l : Nat} {link' : Link}, (n.hangUp fd).links[l]? = some link' →
      ∃ link, n.links[l]? = some link ∧ { link with
        ended := link.ended || n.dialed fd = some l
        cut := link.cut || n.accepted fd = some l } = link' := by
    intro l link' hlink'
    rw [Wiring.links_hangUp] at hlink'
    exact Option.map_eq_some_iff.mp hlink'
  have hcalls : ∀ l, Called roles n l → Called roles (n.hangUp fd) l := fun _ hcall => hcall
  have hserves : ∀ l, Served roles n l → Served roles (n.hangUp fd) l := fun _ hserve => hserve
  have hother : ∀ l, Called roles n l → n.dialed fd ≠ some l := by
    rintro l ⟨j, fd', hj, hl⟩ hfd
    grind [Role.fd]
  have hmine : ∀ l, Served roles n l → n.accepted fd ≠ some l := by
    rintro l ⟨j, fd', hj, hl⟩ hfd
    grind [Role.fd]
  have hlength : (n.hangUp fd).links.length = n.links.length := by simp [Wiring.hangUp]
  constructor
  all_goals grind [Role.fd, Wiring.dialed_hangUp, Wiring.accepted_hangUp]

omit [DecidableEq ι] in
theorem forget (hquiet : ∀ j, (roles j).fd ≠ some fd) : Wired roles (n.forget fd) := by
  obtain ⟨hdialed, haccepted, hknown, hheard, hcaller, hserver, hsent, hwaiting, hserved⟩ :=
    h.hangUp hquiet
  have hlinks : (n.forget fd).links = (n.hangUp fd).links := rfl
  have hdials : ∀ fd', (n.forget fd).dialed fd' =
      if fd' = fd then none else (n.hangUp fd).dialed fd' := Wiring.dialed_forget
  have haccepts : ∀ fd', (n.forget fd).accepted fd' =
      if fd' = fd then none else (n.hangUp fd).accepted fd' := Wiring.accepted_forget
  have hcalls : ∀ l, Called roles (n.hangUp fd) l → Called roles (n.forget fd) l := by
    rintro l ⟨j, fd', hj, hl⟩
    refine ⟨j, fd', hj, ?_⟩
    grind [Role.fd]
  have hserves : ∀ l, Served roles (n.hangUp fd) l → Served roles (n.forget fd) l := by
    rintro l ⟨j, fd', hj, hl⟩
    refine ⟨j, fd', hj, ?_⟩
    grind [Role.fd]
  constructor
  all_goals grind [Role.fd]

omit [DecidableEq ι] in
theorem waits (hi : roles i = .serving fd) :
    ∃ (l : Nat) (link : Link), n.accepted fd = some l ∧ n.links[l]? = some link ∧
      (link.unread = [charQ] ∨ ∃ j fd', roles j = .calling fd') := by
  obtain ⟨l, link, hl, hlink, hread⟩ := h.server hi
  refine ⟨l, link, hl, hlink, ?_⟩
  rcases h.sent hlink with hwire | ⟨-, -, -, -, j, fd', hj, -⟩
  · left
    rw [Link.unread, hwire, hread, List.drop_zero]
  · exact .inr ⟨j, fd', hj⟩

omit [DecidableEq ι] in
/-- No message is left when everybody is done and every connection was taken. -/
theorem nothing_pending (hfree : ∀ i, roles i = .free)
    (htaken : ∀ (l : Nat) (link : Link), n.links[l]? = some link → link.taken = true) :
    n.pending = 0 := by
  by_contra hpending
  obtain ⟨l, link, hlink, hunread⟩ := Wiring.exists_of_pending (Nat.pos_of_ne_zero hpending)
  rcases h.sent hlink with hwire | ⟨hwire, _⟩
  · have hread : link.read = 0 := by
      by_contra hne
      refine hunread (List.drop_eq_nil_iff.mpr ?_)
      rw [hwire, List.length_singleton]
      omega
    obtain ⟨j, fd', hj, -⟩ := h.served hlink (htaken l link hlink) hread
    exact absurd ((hfree j).symm.trans hj) (by simp)
  · exact hunread (by rw [Link.unread, hwire, List.drop_nil])

end Wired

/-! ## One step of one thread -/

abbrev Line := Hand × Role

def Delivers : (op : Op) → op.Res → Prop
  | .send _ msg, ret => ret = msg.length
  | .recv .., answer => answer = (1, [charQ])
  | _, _ => True

def LineStep (base : Hand) : Answers Op.Res Line := fun op own answer own' =>
  HandStep base op own.1 answer own'.1 ∧ Delivers op answer ∧ own'.2 = own.2.next op answer

def LineMay (base : Hand) (op : Op) (own : Line) : Prop := HandMay base op own.1 ∧ own.2.May op

def quitEffect : Op → Option (Nat → Nat → Prop)
  | .send .. => some fun before after => after = before + 1
  | .recv .. => some fun before after => before = after + 1
  | _ => none

/-- All threads hold what they work on. -/
structure Manned {ι : Type} (base : Hand) (lines : ι → Line) (s : Host ι) : Prop where
  custody : Custody base (fun j => (lines j).1) s.process
  wired : Wired (fun j => (lines j).2) s.wiring
  ends : ∀ {j fd}, (lines j).2.fd = some fd → ((lines j).1 (.descriptor fd)).isSome

namespace Manned

section
variable {ι : Type} {base : Hand} {lines : ι → Line} {s : Host ι} {i : ι} {fd : SOCKET}
  (h : Manned base lines s)
include h

theorem quiet_closed (hfd : s.process.world.inventory (.descriptor fd) = none) (j : ι) :
    (lines j).2.fd ≠ some fd := by
  intro hj
  have halive := h.custody.joined.isSome_of_part (j := some j) (h.ends hj)
  simp [hfd] at halive

theorem quiet_others (hfd : ((lines i).1 (.descriptor fd)).isSome) (j : ι) (hj : j ≠ i) :
    (lines j).2.fd ≠ some fd := by
  intro hworks
  have hmine : ((some i).elim base (fun j => (lines j).1) (.descriptor fd)).isSome := hfd
  have htheirs : ((some j).elim base (fun j => (lines j).1) (.descriptor fd)).isSome :=
    h.ends hworks
  have hsame : some j = some i := h.custody.joined.alone htheirs hmine
  exact hj (Option.some.inj hsame)

theorem quiet_free (hi : (lines i).2 = .free)
    (hfd : fd ≠ invalidSocket → ((lines i).1 (.descriptor fd)).isSome) (j : ι) :
    (lines j).2.fd ≠ some fd := by
  by_cases hinvalid : fd = invalidSocket
  · refine h.quiet_closed ?_ j
    simp [hinvalid, World.inventory, h.custody.invalid]
  · by_cases hj : j = i
    · simp [hj, hi, Role.fd]
    · exact h.quiet_others (hfd hinvalid) j hj

end

variable {ι : Type} [DecidableEq ι] {base : Hand} {lines : ι → Line} {s t : Host ι} {i : ι}
  {op : Op} {answer : op.Res}

private theorem wires (h : Manned base lines s) (hmay : LineMay base op (lines i))
    (hstep : HostStep i op s answer t) :
    Delivers op answer ∧ Moves quitEffect op s.wiring.pending t.wiring.pending ∧
      Wired (Function.update (fun j => (lines j).2) i ((lines i).2.next op answer)) t.wiring := by
  obtain ⟨hprocess, hwires⟩ := hstep
  obtain ⟨hhand, hrole⟩ := hmay
  have hsame : Wired (Function.update (fun j => (lines j).2) i (lines i).2) s.wiring := by
    rw [Function.update_eq_self]
    exact h.wired
  cases op with
  | connect fd addr addrlen =>
    refine ⟨trivial, ?_⟩
    simp only [Wires] at hwires
    simp only [Role.next]
    split at hwires
    · rename_i hret
      obtain ⟨hfd, hwiring⟩ := hwires
      rw [if_pos hret, hwiring]
      exact ⟨Wiring.pending_dial, h.wired.dial hrole hfd⟩
    · rename_i hret
      rw [if_neg hret, hwires]
      exact ⟨rfl, hsame⟩
  | send fd msg =>
    obtain ⟨hcalling, rfl⟩ := hrole
    obtain ⟨l, link, hl, hlink, hwire⟩ := h.wired.caller hcalling
    have hup : link.ended = false ∧ link.cut = false ∧ link.read = 0 := by
      rcases h.wired.sent hlink with hsent | ⟨_, hended, hcut, hread, _⟩
      · simp [hwire] at hsent
      · exact ⟨hended, hcut, hread⟩
    obtain ⟨hended, hcut, hread⟩ := hup
    simp only [Wires, Wiring.dials_eq_some.mpr ⟨hl, hlink⟩] at hwires
    rw [if_neg (by simp [hended, hcut]), hwire, List.nil_append] at hwires
    obtain ⟨hret, hwiring⟩ := hwires
    have hpending : (s.wiring.put l { link with wire := [charQ] }).pending =
        s.wiring.pending + 1 :=
      Wiring.pending_send hlink (by simp [Link.unread, hwire]) (by simp [Link.unread, hread])
    have hends : (lines i).2.fd = some fd := by rw [hcalling, Role.fd]
    have hothers := h.quiet_others (h.ends hends)
    rw [hwiring]
    exact ⟨hret, hpending, h.wired.send hcalling hothers hl hlink⟩
  | accept sfd =>
    refine ⟨trivial, ?_⟩
    simp only [Wires] at hwires
    simp only [Role.next]
    split at hwires
    · rename_i hfailed
      rw [if_pos hfailed, hwires]
      exact ⟨rfl, hsame⟩
    · rename_i hfd
      obtain ⟨l, link, hlink, htaken, hwiring⟩ := hwires
      rw [if_neg hfd, hwiring]
      have hopened : Op.opened answer = some ⟨.descriptor answer, some ()⟩ := if_neg hfd
      have hnew : s.process.world.inventory (.descriptor answer) = none :=
        (threadStep_inventory h.custody.invalid
          (fun x hx => h.custody.alive (hhand.uses x hx)) hprocess).1.fresh rfl hopened
      exact ⟨Wiring.pending_take hlink,
        h.wired.take hrole.1 (h.quiet_closed hnew) hlink htaken⟩
  | recv fd len =>
    obtain ⟨ret, bytes⟩ := answer
    obtain ⟨l, link, hl, hlink, hread⟩ := h.wired.server hrole.1
    simp only [Wires, Wiring.hears_eq_some.mpr ⟨hl, hlink⟩] at hwires
    obtain ⟨rfl, hfront, hend, hwiring⟩ := hwires
    rw [Link.unread, hread, List.drop_zero] at hfront hend
    -- A caller who has not sent yet has not hung up.
    have hwire : link.wire = [charQ] ∧ bytes = [charQ] := by
      rcases h.wired.sent hlink with hwire | ⟨hwire, hended, _⟩
      · rw [hwire] at hfront hend
        refine ⟨hwire, ?_⟩
        rcases List.prefix_cons_iff.mp hfront with hnil | ⟨rest, hbytes, hrest⟩
        · exact absurd (hend hnil).1 (List.cons_ne_nil _ _)
        · rw [hbytes, List.prefix_nil.mp hrest]
      · rw [hwire] at hfront
        have hdown := (hend (List.prefix_nil.mp hfront)).2
        simp [hended] at hdown
    obtain ⟨hwire, rfl⟩ := hwire
    have hpending : s.wiring.pending = (s.wiring.put l { link with read := 1 }).pending + 1 :=
      Wiring.pending_recv hlink (by simp [Link.unread, hwire, hread]) (by simp [Link.unread, hwire])
    have hends : (lines i).2.fd = some fd := by rw [hrole.1, Role.fd]
    have hothers := h.quiet_others (h.ends hends)
    rw [hwiring, hread]
    exact ⟨rfl, hpending, h.wired.recv hrole.1 hothers hl hlink hwire⟩
  | shutdown fd how =>
    have hquiet : ∀ j, (lines j).2.fd ≠ some fd :=
      h.quiet_free hrole fun hfd => hhand.takes _ (by simp [Op.takes, hfd])
    have hroles : Function.update (fun j => (lines j).2) i
        ((lines i).2.next (.shutdown fd how) answer) = fun j => (lines j).2 :=
      Function.update_eq_self i _
    simp only [Wires] at hwires
    rw [hroles, hwires]
    split
    · exact ⟨trivial, Wiring.pending_of_unread Wiring.unread_hangUp, h.wired.hangUp hquiet⟩
    · exact ⟨trivial, rfl, h.wired⟩
  | close fd =>
    have hquiet : ∀ j, (lines j).2.fd ≠ some fd :=
      h.quiet_free hrole fun hfd => hhand.takes _ (by simp [Op.takes, hfd])
    have hroles : Function.update (fun j => (lines j).2) i ((lines i).2.next (.close fd) answer) =
        fun j => (lines j).2 := Function.update_eq_self i _
    simp only [Wires] at hwires
    rw [hroles, hwires]
    exact ⟨trivial, Wiring.pending_forget, h.wired.forget hquiet⟩
  | lock | unlock => exact hrole.elim
  | _ =>
    have hwiring : t.wiring = s.wiring := hwires
    rw [hwiring]
    exact ⟨trivial, rfl, hsame⟩

private theorem ends_next {own hand : Hand} {g : Role} {fd : SOCKET}
    (hmay : LineMay base op (own, g))
    (hhand : HandStep base op own answer hand) (hg : g.fd = some fd → (own (.descriptor fd)).isSome)
    (hconnect : ∀ fd addr addrlen, op = .connect fd addr addrlen → g.next op answer = .calling fd →
      fd ≠ invalidSocket)
    (hnext : (g.next op answer).fd = some fd) : (hand (.descriptor fd)).isSome := by
  obtain ⟨-, rfl⟩ := hhand
  obtain ⟨hmine, hrole⟩ := hmay
  cases op with
  | connect fd' addr addrlen =>
    obtain rfl : g = .free := hrole
    simp only [Role.next] at hnext hconnect
    split at hnext
    · obtain rfl := Option.some.inj hnext
      have hvalid := hconnect fd' addr addrlen rfl (if_pos ‹_›)
      exact hmine.takes _ (by simp [Op.takes, hvalid])
    · contradiction
  | accept sfd =>
    obtain ⟨rfl, -⟩ := hrole
    simp only [Role.next] at hnext
    split at hnext
    · contradiction
    · rename_i hfd
      obtain rfl := Option.some.inj hnext
      rw [Op.change, Hand.change_opened hfd, Function.update_self]
      rfl
  | send | recv => contradiction
  | load o f => exact hg hnext
  | lock | unlock => exact hrole.elim
  | _ =>
    obtain rfl : g = .free := hrole
    contradiction

theorem step (h : Manned base lines s) (hmay : LineMay base op (lines i))
    (hstep : HostStep i op s answer t) :
    ∃ own, LineStep base op (lines i) answer own ∧ Manned base (Function.update lines i own) t ∧
      Moves quitEffect op s.wiring.pending t.wiring.pending := by
  obtain ⟨hdelivers, hmoves, hwired⟩ := h.wires hmay hstep
  obtain ⟨hand, hhand, hcustody⟩ := h.custody.step hmay.1 hstep.1
  have hfst : ∀ own : Line, (fun j => (Function.update lines i own j).1) =
      Function.update (fun j => (lines j).1) i own.1 := by
    intro own
    funext j
    by_cases hj : j = i <;> simp [Function.update, hj]
  have hsnd : ∀ own : Line, (fun j => (Function.update lines i own j).2) =
      Function.update (fun j => (lines j).2) i own.2 := by
    intro own
    funext j
    by_cases hj : j = i <;> simp [Function.update, hj]
  have hconnect : ∀ fd addr addrlen, op = .connect fd addr addrlen →
      (lines i).2.next op answer = .calling fd → fd ≠ invalidSocket := by
    rintro fd addr addrlen rfl hcalling rfl
    obtain ⟨os, hanswer, -⟩ := hstep.1
    have hclosed : (s.process.view i).kernel.table invalidSocket = none := h.custody.invalid
    have hfailed : answer = -1 := by
      rw [hanswer]
      exact congrArg Prod.fst (Kernel.attempt_closed hclosed)
    have hfree : (lines i).2 = .free := hmay.2
    simp [Role.next, hfailed, hfree] at hcalling
  refine ⟨(hand, (lines i).2.next op answer), ⟨hhand, hdelivers, rfl⟩, ⟨?_, ?_, ?_⟩, hmoves⟩
  · rw [hfst]
    exact hcustody
  · rw [hsnd]
    exact hwired
  · intro j fd hj
    by_cases hji : j = i
    · subst hji
      rw [Function.update_self] at hj ⊢
      exact ends_next hmay hhand h.ends hconnect hj
    · rw [Function.update_of_ne hji] at hj ⊢
      exact h.ends hj

end Manned
end ClientServerTcp
