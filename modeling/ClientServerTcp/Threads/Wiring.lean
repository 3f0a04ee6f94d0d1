import ClientServerTcp.Threads.Shared

/-! The connections to the server of a process, as its threads make them, write
on them and read from them. Whoever connects, connects to this server. A
connection is a stream of bytes: what was sent arrives in order, and no call on a
connection that is up fails. -/
namespace ClientServerTcp
open Effects

/-- A connection. Its caller may have hung up, and so may the server, if it has
taken it at all. -/
structure Link where
  wire : Bytes := []
  ended : Bool := false
  taken : Bool := false
  read : Nat := 0
  cut : Bool := false
  deriving DecidableEq, Repr

def Link.unread (link : Link) : Bytes := link.wire.drop link.read

/-- All connections there ever were, and the descriptors at their ends. -/
structure Wiring where
  links : List Link := []
  dialed : SOCKET → Option Nat := fun _ => none
  accepted : SOCKET → Option Nat := fun _ => none

namespace Wiring

variable (n : Wiring)

/-- The connection that was made with a descriptor. -/
def dials (fd : SOCKET) : Option (Nat × Link) :=
  (n.dialed fd).bind fun l => (n.links[l]?).map fun link => (l, link)

/-- The connection that was accepted under a descriptor. -/
def hears (fd : SOCKET) : Option (Nat × Link) :=
  (n.accepted fd).bind fun l => (n.links[l]?).map fun link => (l, link)

def put (l : Nat) (link : Link) : Wiring := { n with links := n.links.set l link }

def dial (fd : SOCKET) : Wiring := { n with
  links := n.links ++ [{}]
  dialed := Function.update n.dialed fd (some n.links.length) }

def take (fd : SOCKET) (l : Nat) (link : Link) : Wiring :=
  { n.put l { link with taken := true } with
    accepted := Function.update n.accepted fd (some l) }

/-- The end of a connection is shut down, whichever end it is. -/
def hangUp (fd : SOCKET) : Wiring := { n with
  links := n.links.mapIdx fun l link => { link with
    ended := link.ended || n.dialed fd = some l
    cut := link.cut || n.accepted fd = some l } }

def forget (fd : SOCKET) : Wiring := { n.hangUp fd with
  dialed := Function.update n.dialed fd none
  accepted := Function.update n.accepted fd none }

def unread : List Bytes := n.links.map Link.unread

def pending : Nat := n.unread.countP fun bytes => !bytes.isEmpty

end Wiring

/-- What a call does to the connections. It may be refused to connect or to
accept; `accept` takes any connection that waits, and `recv` gives a front of
what has arrived, or nothing when the caller has hung up. -/
def Wires : Answers Op.Res Wiring
  | .connect fd _ _, n, ret, n' =>
    if ret = 0 then n.dialed fd = none ∧ n' = n.dial fd else n' = n
  | .send fd msg, n, ret, n' => match n.dials fd with
    | some (l, link) =>
      if link.ended ∨ link.cut then n' = n
      else ret = msg.length ∧ n' = n.put l { link with wire := link.wire ++ msg }
    | none => n' = n
  | .accept _, n, fd, n' =>
    if fd = invalidSocket then n' = n
    else ∃ l link, n.links[l]? = some link ∧ link.taken = false ∧ n' = n.take fd l link
  | .recv fd _, n, (ret, bytes), n' => match n.hears fd with
    | some (l, link) => ret = bytes.length ∧ bytes <+: link.unread ∧
      (bytes = [] → link.unread = [] ∧ link.ended = true) ∧
      n' = n.put l { link with read := link.read + bytes.length }
    | none => n' = n
  | .shutdown fd _, n, ret, n' => n' = if ret = 0 then n.hangUp fd else n
  | .close fd, n, _, n' => n' = n.forget fd
  | _, n, _, n' => n' = n

def Wiring.exec (n : Wiring) : (op : Op) → op.Res → Option Wiring
  | .connect fd _ _, ret =>
    if ret = 0 then (if (n.dialed fd).isNone then some (n.dial fd) else none) else some n
  | .send fd msg, ret => match n.dials fd with
    | some (l, link) =>
      if link.ended ∨ link.cut then some n
      else if ret = msg.length then some (n.put l { link with wire := link.wire ++ msg })
      else none
    | none => some n
  | .accept _, fd =>
    if fd = invalidSocket then some n
    else (n.links.findIdx? fun link => !link.taken).bind fun l =>
      (n.links[l]?).bind fun link => if link.taken then none else some (n.take fd l link)
  | .recv fd _, (ret, bytes) => match n.hears fd with
    | some (l, link) =>
      if ret = bytes.length ∧ bytes <+: link.unread ∧
        (bytes = [] → link.unread = [] ∧ link.ended = true) then
        some (n.put l { link with read := link.read + bytes.length })
      else none
    | none => some n
  | .shutdown fd _, ret => some (if ret = 0 then n.hangUp fd else n)
  | .close fd, _ => some (n.forget fd)
  | _, _ => some n

theorem wires_of_exec {n n' : Wiring} (op : Op) {answer : op.Res}
    (h : n.exec op answer = some n') : Wires op n answer n' := by
  cases op with
  | connect fd addr addrlen =>
    simp only [Wiring.exec] at h
    simp only [Wires]
    split at h
    · rename_i hret
      rw [if_pos hret]
      split at h
      · exact ⟨Option.isNone_iff_eq_none.mp ‹_›, (Option.some.inj h).symm⟩
      · contradiction
    · rename_i hret
      rw [if_neg hret]
      exact (Option.some.inj h).symm
  | send fd msg =>
    simp only [Wiring.exec] at h
    simp only [Wires]
    cases hdials : n.dials fd with
    | none =>
      rw [hdials] at h
      exact (Option.some.inj h).symm
    | some x =>
      obtain ⟨l, link⟩ := x
      simp only [hdials] at h ⊢
      split at h
      · rename_i hdown
        rw [if_pos hdown]
        exact (Option.some.inj h).symm
      · rename_i hdown
        rw [if_neg hdown]
        split at h
        · exact ⟨‹_›, (Option.some.inj h).symm⟩
        · contradiction
  | accept sfd =>
    simp only [Wiring.exec] at h
    simp only [Wires]
    split at h
    · rename_i hfd
      rw [if_pos hfd]
      exact (Option.some.inj h).symm
    · rename_i hfd
      rw [if_neg hfd]
      obtain ⟨l, -, h⟩ := Option.bind_eq_some_iff.mp h
      obtain ⟨link, hlink, h⟩ := Option.bind_eq_some_iff.mp h
      split at h
      · contradiction
      · rename_i htaken
        exact ⟨l, link, hlink, Bool.eq_false_of_not_eq_true htaken, (Option.some.inj h).symm⟩
  | recv fd len =>
    obtain ⟨ret, bytes⟩ := answer
    simp only [Wiring.exec] at h
    simp only [Wires]
    cases hhears : n.hears fd with
    | none =>
      rw [hhears] at h
      exact (Option.some.inj h).symm
    | some x =>
      obtain ⟨l, link⟩ := x
      simp only [hhears] at h ⊢
      split at h
      · rename_i hok
        obtain ⟨hret, hfront, hend⟩ := hok
        exact ⟨hret, hfront, hend, (Option.some.inj h).symm⟩
      · contradiction
  | _ => exact (Option.some.inj h).symm

/-! ## A process with its connections -/

structure Host (ι : Type) where
  process : Shared ι
  wiring : Wiring

section
variable {ι : Type} [DecidableEq ι]

def HostStep (i : ι) : Answers Op.Res (Host ι) := fun op s answer t =>
  ThreadStep i op s.process answer t.process ∧ Wires op s.wiring answer t.wiring

def hostExec (os : OS) (i : ι) (op : Op) (s : Host ι) : Option (op.Res × Host ι) :=
  (threadExec os i op s.process).bind fun step =>
    (s.wiring.exec op step.1).map fun n => (step.1, ⟨step.2, n⟩)

theorem hostStep_of_exec {os : OS} {i : ι} (op : Op) {s t : Host ι} {answer : op.Res}
    (h : hostExec os i op s = some (answer, t)) : HostStep i op s answer t := by
  obtain ⟨⟨answer', t'⟩, hprocess, h⟩ := Option.bind_eq_some_iff.mp h
  obtain ⟨n, hwiring, h⟩ := Option.map_eq_some_iff.mp h
  obtain ⟨rfl, rfl⟩ := Prod.mk.inj h
  exact ⟨threadStep_of_exec op hprocess, wires_of_exec op hwiring⟩

end

/-! ## What a change of the wiring leaves as it is -/

namespace Wiring

variable {n : Wiring} {fd : SOCKET} {l l' : Nat} {link link' : Link}

theorem dials_eq_some :
    n.dials fd = some (l, link) ↔ n.dialed fd = some l ∧ n.links[l]? = some link := by
  simp only [dials, Option.bind_eq_some_iff, Option.map_eq_some_iff, Prod.mk.injEq]
  constructor
  · rintro ⟨l', hl', link', hlink', rfl, rfl⟩
    exact ⟨hl', hlink'⟩
  · exact fun ⟨hl, hlink⟩ => ⟨l, hl, link, hlink, rfl, rfl⟩

theorem hears_eq_some :
    n.hears fd = some (l, link) ↔ n.accepted fd = some l ∧ n.links[l]? = some link := by
  simp only [hears, Option.bind_eq_some_iff, Option.map_eq_some_iff, Prod.mk.injEq]
  constructor
  · rintro ⟨l', hl', link', hlink', rfl, rfl⟩
    exact ⟨hl', hlink'⟩
  · exact fun ⟨hl, hlink⟩ => ⟨l, hl, link, hlink, rfl, rfl⟩

section
variable (fd' : SOCKET)

@[simp] theorem dialed_put : (n.put l link).dialed fd' = n.dialed fd' := rfl
@[simp] theorem accepted_put : (n.put l link).accepted fd' = n.accepted fd' := rfl
@[simp] theorem accepted_dial : (n.dial fd).accepted fd' = n.accepted fd' := rfl
@[simp] theorem dialed_take : (n.take fd l link).dialed fd' = n.dialed fd' := rfl
@[simp] theorem dialed_hangUp : (n.hangUp fd).dialed fd' = n.dialed fd' := rfl
@[simp] theorem accepted_hangUp : (n.hangUp fd).accepted fd' = n.accepted fd' := rfl

theorem dialed_dial : (n.dial fd).dialed fd' =
    if fd' = fd then some n.links.length else n.dialed fd' := Function.update_apply ..

theorem accepted_take : (n.take fd l link).accepted fd' =
    if fd' = fd then some l else n.accepted fd' := Function.update_apply ..

theorem dialed_forget : (n.forget fd).dialed fd' =
    if fd' = fd then none else n.dialed fd' := Function.update_apply ..

theorem accepted_forget : (n.forget fd).accepted fd' =
    if fd' = fd then none else n.accepted fd' := Function.update_apply ..

end

@[simp] theorem length_put : (n.put l link).links.length = n.links.length := List.length_set

@[simp] theorem length_take : (n.take fd l link).links.length = n.links.length := List.length_set

@[simp] theorem length_dial : (n.dial fd).links.length = n.links.length + 1 := by simp [dial]

theorem links_put (h : n.links[l]? = some link') (l' : Nat) :
    (n.put l link).links[l']? = if l = l' then some link else n.links[l']? := by
  obtain ⟨hlt, -⟩ := List.getElem?_eq_some_iff.mp h
  simp only [put, List.getElem?_set, hlt, if_true]

theorem links_take (h : n.links[l]? = some link) (l' : Nat) : (n.take fd l link).links[l']? =
    if l = l' then some { link with taken := true } else n.links[l']? := links_put h l'

theorem links_dial (l : Nat) : (n.dial fd).links[l]? =
    if l = n.links.length then some {} else n.links[l]? := by
  simp only [dial, List.getElem?_append]
  by_cases hl : l = n.links.length
  · subst hl
    simp
  · rw [if_neg hl]
    split
    · rfl
    · rename_i hge
      rw [List.getElem?_eq_none (by simp; omega), List.getElem?_eq_none (by omega)]

theorem links_hangUp (l : Nat) : (n.hangUp fd).links[l]? = (n.links[l]?).map fun link =>
    { link with
      ended := link.ended || n.dialed fd = some l
      cut := link.cut || n.accepted fd = some l } := by
  simp only [hangUp, List.getElem?_mapIdx]

/-! ## The messages that are pending -/

theorem unread_put : (n.put l link).unread = n.unread.set l link.unread := List.map_set

theorem unread_hangUp : (n.hangUp fd).unread = n.unread := by
  apply List.ext_getElem?
  intro l
  simp only [unread, hangUp, List.getElem?_map, List.getElem?_mapIdx, Option.map_map]
  rfl

theorem pending_of_unread {n' : Wiring} (h : n'.unread = n.unread) : n'.pending = n.pending := by
  rw [pending, pending, h]

theorem pending_forget : (n.forget fd).pending = n.pending := pending_of_unread unread_hangUp

theorem pending_dial : (n.dial fd).pending = n.pending := by
  have hunread : (n.dial fd).unread = n.unread ++ [[]] := by simp [unread, dial, Link.unread]
  rw [pending, pending, hunread]
  simp

private theorem pending_put (h : n.links[l]? = some link) (link' : Link) :
    (n.put l link').pending + (if link.unread.isEmpty then 0 else 1) =
      n.pending + (if link'.unread.isEmpty then 0 else 1) := by
  obtain ⟨hlt, hlink⟩ := List.getElem?_eq_some_iff.mp h
  have hlt' : l < n.unread.length := by simpa [unread] using hlt
  have hget : n.unread[l] = link.unread := by simp [unread, hlink]
  have hpos : link.unread.isEmpty = false → 0 < n.pending := by
    intro hne
    exact List.countP_pos_iff.mpr ⟨n.unread[l], List.getElem_mem hlt', by simp [hget, hne]⟩
  rw [pending, unread_put, List.countP_set hlt', hget]
  change n.pending - _ + _ + _ = _
  cases hold : link.unread.isEmpty with
  | true => cases link'.unread.isEmpty <;> simp
  | false =>
    have hpending := hpos hold
    cases link'.unread.isEmpty <;> simp <;> omega

theorem pending_take (h : n.links[l]? = some link) : (n.take fd l link).pending = n.pending :=
  Nat.add_right_cancel (pending_put h { link with taken := true })

theorem pending_send (h : n.links[l]? = some link) (hold : link.unread = [])
    (hnew : link'.unread ≠ []) : (n.put l link').pending = n.pending + 1 := by
  have hput := pending_put h link'
  simpa [hold, hnew] using hput

theorem pending_recv (h : n.links[l]? = some link) (hold : link.unread ≠ [])
    (hnew : link'.unread = []) : n.pending = (n.put l link').pending + 1 := by
  have hput := pending_put h link'
  simpa [hold, hnew] using hput.symm

theorem exists_of_pending (h : 0 < n.pending) :
    ∃ (l : Nat) (link : Link), n.links[l]? = some link ∧ link.unread ≠ [] := by
  obtain ⟨bytes, hmem, hne⟩ := List.countP_pos_iff.mp h
  obtain ⟨link, hlink, rfl⟩ : ∃ link ∈ n.links, link.unread = bytes := List.mem_map.mp hmem
  obtain ⟨l, hl⟩ := List.getElem?_of_mem hlink
  exact ⟨l, link, hl, by simpa using hne⟩

end Wiring
end ClientServerTcp
