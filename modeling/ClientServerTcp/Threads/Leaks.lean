import ClientServerTcp.Threads.Blocks
import ClientServerTcp.Threads.Runs

/-! Any number of threads that run code with local objects, in every order of
their steps. They never use what is gone, never get in each other's way, and
leave nothing behind. -/
namespace ClientServerTcp
open Effects Program Relation

section
variable {ι : Type} (b : Start) (errno : ι → Int)

theorem Start.usable (o : ObjId) (ho : (b.sharing.sfd o).isSome) :
    Hand.Usable b.world.inventory o := by
  obtain ⟨s, hs, hvalid, _⟩ := b.shared_holds ⟨o, ho⟩
  refine ⟨s.mSfd, World.inventory_object.mpr ⟨s, hs, rfl⟩, fun _ => ?_⟩
  obtain ⟨d, hd, _⟩ := b.invariant.sound.desc (b.invariant.cached hs hvalid)
  rw [World.isSome_inventory_descriptor, hd]
  rfl

theorem Start.custody :
    Custody b.world.inventory (fun _ _ => none) (b.first errno) where
  invalid := b.invariant.sound.invalid
  joined := {
    covers := by
      intro x value
      constructor
      · exact fun hx => ⟨none, hx⟩
      · rintro ⟨_ | i, hx⟩
        · exact hx
        · contradiction
    alone := by
      rintro (_ | i) (_ | j) x hx hx'
      · rfl
      · contradiction
      · contradiction
      · contradiction }

variable [DecidableEq ι] {c : Pool Op.Res Exn Reply (Shared ι) ι (Request b.sharing)}

section
variable (hc : b.Reaches errno c) (hscoped : ∀ i r, .invoked i r ∈ c.history → r.Scoped)
include hc hscoped

private theorem Start.hands : ∃ hands : ι → Hand,
    Custody b.world.inventory hands c.state ∧
      ∀ i, Checked (HandStep b.world.inventory) (HandMay b.world.inventory) (Scope ∅ ∅)
        (c.active i) (hands i) := by
  have hstep : ∀ i (hands : ι → Hand) (s : Shared ι) (op : Op) answer t,
      Custody b.world.inventory hands s → HandMay b.world.inventory op (hands i) →
      ThreadStep i op s answer t → ∃ own, HandStep b.world.inventory op (hands i) answer own ∧
        Custody b.world.inventory (Function.update hands i own) t :=
    fun i hands s op answer t hcustody hmay hstep => hcustody.step hmay hstep
  refine Pool.checked hstep ⟨_, b.custody errno, fun _ => Scope.nothing⟩ hc ?_
  intro i r hinvoked
  exact Request.manages (hscoped i r hinvoked) b.usable

/-- In every order of the steps, no thread comes to use a descriptor that is not
open, an object that has been deleted or a list that has been freed. So nothing
is closed, deleted or freed twice. -/
theorem threads_never_dangle {i : ι} {op : Op} (hnext : c.next i = some op) :
    ∀ x ∈ op.uses, (c.state.world.inventory x).isSome := by
  obtain ⟨hands, hcustody, hchecked⟩ := b.hands errno hc hscoped
  exact fun x hx => hcustody.alive ((Checked.may hchecked hnext).uses x hx)

/-- A descriptor that a thread is about to close, to shut down or to connect, an
object that it is about to delete or to give another descriptor, and an address
object or a list that it is about to rewrite or to end: no other thread is about
to use it, and it was not there before the threads began. -/
theorem threads_keep_apart {i j : ι} (hne : i ≠ j) {op op' : Op} (hi : c.next i = some op)
    (hj : c.next j = some op') {x : Resource} (hx : x ∈ op.takes) :
    x ∉ op'.uses ∧ b.world.inventory x = none := by
  obtain ⟨hands, hcustody, hchecked⟩ := b.hands errno hc hscoped
  have hmine : (hands i x).isSome := (Checked.may hchecked hi).takes x hx
  have hbase : b.world.inventory x = none := by
    cases hthere : b.world.inventory x with
    | none => rfl
    | some value =>
      have htheirs : ((none : Option ι).elim b.world.inventory hands x).isSome := by
        simp [hthere]
      have hsame : some i = none := hcustody.joined.alone hmine htheirs
      contradiction
  refine ⟨fun huses => ?_, hbase⟩
  have hseen := (Checked.may hchecked hj).uses x huses
  rw [Hand.sees, hbase, Option.or_none] at hseen
  have hsame : some i = some j := hcustody.joined.alone hmine hseen
  exact hne (Option.some.inj hsame)

/-- What was there before the threads began is there all the while, and keeps its
descriptor or its list. When every thread has responded, normally or with an
exception, nothing else is left: no descriptor, no object and no list. -/
theorem threads_leave_nothing :
    (∀ x value, b.world.inventory x = some value → c.state.world.inventory x = some value) ∧
      ((∀ i, c.active i = none) → c.state.world.inventory = b.world.inventory) := by
  obtain ⟨hands, hcustody, hchecked⟩ := b.hands errno hc hscoped
  have hbase : ∀ x value, b.world.inventory x = some value →
      c.state.world.inventory x = some value :=
    fun x value hx => hcustody.joined.of_part (j := none) hx
  refine ⟨hbase, ?_⟩
  intro hidle
  funext x
  cases hx : b.world.inventory x with
  | some value => exact hbase x value hx
  | none =>
    cases hnow : c.state.world.inventory x with
    | none => rfl
    | some value =>
      obtain ⟨_ | i, hpart⟩ := (hcustody.joined.covers x value).mp hnow
      · exact absurd (hx.symm.trans hpart) (by simp)
      · have hnothing := (Checked.rest hchecked (hidle i)).eq_none
        simp [hnothing] at hpart

end
end

/-! ## Two threads that tell a server to quit -/

def fresh : Start where
  os := .obliging
  ops := []
  shared := fun _ => false

def quitThread : Prog Reply := do
  quitServer
  return .none

private theorem quitThread_block {S : Sharing} : Block S ∅ ∅ quitThread :=
  .bind .quitServer fun _ => .pure _

def quitRequest : Request fresh.sharing :=
  .own quitThread (quitThread_block.own (by simp))

/-- Both threads are told to quit a server. The first one is done with it and
about to close its socket; there was no descriptor left for the second one. -/
def quitting : List (Pool.Choice Bool (Request fresh.sharing)) :=
  [.invoke true quitRequest] ++ List.replicate 29 (.move true) ++
    [.invoke false quitRequest] ++ List.replicate 3 (.move false)

private def noError : Bool → Int := fun _ => 0

private theorem requests_quitting {i : Bool} {r : Request fresh.sharing}
    (h : .invoke i r ∈ quitting) : r = quitRequest := by
  have hmoves : ∀ {n : Nat} {j : Bool},
      (.invoke i r : Pool.Choice Bool (Request fresh.sharing)) ∉ List.replicate n (.move j) := by
    intro n j hmem
    have heq := List.eq_of_mem_replicate hmem
    contradiction
  have hinvoke : ∀ {j : Bool},
      (.invoke i r : Pool.Choice Bool (Request fresh.sharing)) ∈ [.invoke j quitRequest] →
        r = quitRequest := fun hmem => (Pool.Choice.invoke.inj (List.mem_singleton.mp hmem)).2
  rcases List.mem_append.mp h with h | h
  · rcases List.mem_append.mp h with h | h
    · rcases List.mem_append.mp h with h | h
      · exact hinvoke h
      · exact absurd h hmoves
    · exact hinvoke h
  · exact absurd h hmoves

private theorem quitting_reaches {schedule : List (Pool.Choice Bool (Request fresh.sharing))}
    {c : Pool Op.Res Exn Reply (Shared Bool) Bool (Request fresh.sharing)}
    (h : (Pool.start (fresh.first noError)).follow Request.code (threadExec .obliging)
      (quitting ++ schedule) = some c)
    (hmoves : ∀ i r, .invoke i r ∉ schedule) :
    fresh.Reaches noError c ∧ ∀ i r, .invoked i r ∈ c.history → r.Scoped := by
  refine ⟨fresh.reaches_of_choices h, ?_⟩
  intro i r hinvoked
  rcases Pool.invoked_of_follow h hinvoked with hstart | hmem
  · exact absurd hstart List.not_mem_nil
  · rcases List.mem_append.mp hmem with hmem | hmem
    · rw [requests_quitting hmem]
      exact quitThread_block
    · exact absurd hmem (hmoves i r)

private theorem quitting_reached : ∃ c, fresh.Reaches noError c ∧
    (∀ i r, .invoked i r ∈ c.history → r.Scoped) ∧ c.next true = some (.close 3) ∧
    c.next false = some (.delete 1) := by
  have hseen : ((Pool.start (fresh.first noError)).follow Request.code (threadExec .obliging)
      (quitting ++ [])).map (fun c => (c.next true, c.next false)) =
      some (some (.close 3), some (.delete 1)) := by decide +kernel
  obtain ⟨c, hc, hnext⟩ := Option.map_eq_some_iff.mp hseen
  obtain ⟨hreached, hscoped⟩ := quitting_reaches hc (by simp)
  obtain ⟨htrue, hfalse⟩ := Prod.mk.inj hnext
  exact ⟨c, hreached, hscoped, htrue, hfalse⟩

/-- What is about to be closed is still open. -/
theorem quitting_never_dangles : ∃ c, fresh.Reaches noError c ∧
    c.next true = some (.close 3) ∧ (c.state.world.inventory (.descriptor 3)).isSome := by
  obtain ⟨c, hc, hscoped, htrue, _⟩ := quitting_reached
  exact ⟨c, hc, htrue, threads_never_dangle fresh noError hc hscoped htrue _ (by decide)⟩

/-- One thread is about to close its socket, and the other one to delete its object. -/
theorem quitting_keeps_apart : ∃ c op, fresh.Reaches noError c ∧
    c.next true = some (.close 3) ∧ c.next false = some op ∧ .descriptor 3 ∉ op.uses := by
  obtain ⟨c, hc, hscoped, htrue, hfalse⟩ := quitting_reached
  exact ⟨c, _, hc, htrue, hfalse,
    (threads_keep_apart fresh noError hc hscoped Bool.noConfusion htrue hfalse (by decide)).1⟩

/-- Both threads have responded. -/
theorem quitting_leaves_nothing : ∃ c, fresh.Reaches noError c ∧ c.history.length = 4 ∧
    c.state.world.inventory = fresh.world.inventory := by
  have hseen : ((Pool.start (fresh.first noError)).follow Request.code (threadExec .obliging)
      (quitting ++ (List.replicate 4 (.move true) ++ List.replicate 2 (.move false)))).map
        (fun c => (c.history.length, (c.active true).isNone, (c.active false).isNone)) =
      some (4, true, true) := by decide +kernel
  obtain ⟨c, hc, hend⟩ := Option.map_eq_some_iff.mp hseen
  simp only [Prod.mk.injEq, Option.isNone_iff_eq_none] at hend
  obtain ⟨hlength, htrue, hfalse⟩ := hend
  obtain ⟨hreached, hscoped⟩ := quitting_reaches hc (by simp)
  have hidle : ∀ i, c.active i = none := by
    intro i
    cases i with
    | false => exact hfalse
    | true => exact htrue
  exact ⟨c, hreached, hlength, (threads_leave_nothing fresh noError hreached hscoped).2 hidle⟩

end ClientServerTcp
