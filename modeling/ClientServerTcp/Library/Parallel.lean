import ClientServerTcp.Library.Interference
import Mathlib.Data.List.Sublists
import Mathlib.Logic.Function.Basic

/-! Two programs side by side, one operation after the other, with mutexes. The
left program is the one that assertions are proved of; the right program is
its environment. -/
namespace Effects
open Relation

variable {Op μ : Type} {Res : Op → Type} {ε α β σ : Type}

inductive Side where
  | left | right
  deriving DecidableEq, Repr

/-- The mutex that an operation takes, and the one that it gives back. -/
structure Locking (Op μ : Type) where
  takes : Op → Option μ
  gives : Op → Option μ

/-- What the left program runs beside: the right program, the state they share,
who holds which mutex, and the operations so far, the newest first. -/
structure Beside (Res : Op → Type) (ε β σ μ : Type) where
  right : Program Res ε β
  state : σ
  held : μ → Option Side
  log : List (Side × Op)

namespace Beside

def start (right : Program Res ε β) (state : σ) : Beside Res ε β σ μ :=
  ⟨right, state, fun _ => none, []⟩

variable [DecidableEq μ] (h : Program.Handler Res σ) (locking : Locking Op μ)

def free (t : Beside Res ε β σ μ) (op : Op) : Bool :=
  (locking.takes op).all fun m => (t.held m).isNone

def after (t : Beside Res ε β σ μ) (side : Side) (op : Op) : Beside Res ε β σ μ where
  right := t.right
  state := (h op t.state).2
  held :=
    match locking.takes op, locking.gives op with
    | some m, _ => Function.update t.held m (some side)
    | none, some m => Function.update t.held m none
    | none, none => t.held
  log := (side, op) :: t.log

def leftStep : Answers Res (Beside Res ε β σ μ) := fun op t answer t' =>
  t.free locking op = true ∧ answer = (h op t.state).1 ∧ t' = t.after h locking .left op

inductive RightStep : Beside Res ε β σ μ → Beside Res ε β σ μ → Prop
  | mk (op : Op) (next : Res op → Program Res ε β) (t : Beside Res ε β σ μ)
    (hright : t.right = .call op next) (hfree : t.free locking op = true) :
    RightStep t { t.after h locking .right op with right := next (h op t.state).1 }

/-- The next step of one side, if it has one and is not blocked. -/
def advance : Side → Program Res ε α × Beside Res ε β σ μ →
    Option (Program Res ε α × Beside Res ε β σ μ)
  | .left, (.call op next, t) =>
    if t.free locking op then some (next (h op t.state).1, t.after h locking .left op) else none
  | .right, (p, t) =>
    match t.right with
    | .call op next =>
      if t.free locking op then
        some (p, { t.after h locking .right op with right := next (h op t.state).1 })
      else
        none
    | _ => none
  | _, _ => none

def follow : List Side → Program Res ε α × Beside Res ε β σ μ →
    Option (Program Res ε α × Beside Res ε β σ μ)
  | [], c => some c
  | side :: sides, c => (advance h locking side c).bind (follow sides)

theorem reaches_of_advance {side : Side} {c c' : Program Res ε α × Beside Res ε β σ μ}
    (hc : advance h locking side c = some c') :
    Reaches (leftStep h locking) (RightStep h locking) c c' := by
  obtain ⟨p, t⟩ := c
  cases side with
  | left =>
    cases p with
    | done value => simp [advance] at hc
    | raise error => simp [advance] at hc
    | call op next =>
      simp only [advance, Option.ite_none_right_eq_some] at hc
      obtain ⟨hfree, hc⟩ := hc
      rw [← Option.some.inj hc]
      exact .single (.call next ⟨hfree, rfl, rfl⟩)
  | right =>
    simp only [advance] at hc
    split at hc
    · rename_i op next hright
      simp only [Option.ite_none_right_eq_some] at hc
      obtain ⟨hfree, hc⟩ := hc
      rw [← Option.some.inj hc]
      exact .single (.env p (.mk op next t hright hfree))
    · contradiction

theorem reaches_of_follow (sides : List Side) {c c' : Program Res ε α × Beside Res ε β σ μ}
    (hc : follow h locking sides c = some c') :
    Reaches (leftStep h locking) (RightStep h locking) c c' := by
  induction sides generalizing c with
  | nil =>
    obtain rfl := Option.some.inj hc
    exact .refl
  | cons side sides ih =>
    obtain ⟨c₁, hfirst, hrest⟩ := Option.bind_eq_some_iff.mp hc
    exact (reaches_of_advance h locking hfirst).trans (ih hrest)

end Beside
end Effects
