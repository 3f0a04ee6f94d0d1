import Mathlib.Logic.Basic

/-! Programs that call an environment and may raise an exception. A program is
a tree: it is done, it raises, or it performs one operation and continues with
the answer. A handler gives every operation a meaning on a state; the rules
below reason about every run of a program under a handler. -/
namespace Effects

variable {Op : Type} {Res : Op → Type} {ε α β σ : Type}

inductive Program {Op : Type} (Res : Op → Type) (ε α : Type) : Type where
  | done (value : α)
  | raise (error : ε)
  | call (op : Op) (next : Res op → Program Res ε α)

namespace Program

def bind : Program Res ε α → (α → Program Res ε β) → Program Res ε β
  | .done value, f => f value
  | .raise error, _ => .raise error
  | .call op next, f => .call op fun answer => (next answer).bind f

def perform (op : Op) : Program Res ε (Res op) := .call op .done

def ended : Program Res ε α → Bool
  | .done _ | .raise _ => true
  | .call .. => false

/-- Run `cleanup` when the program is left by an exception, and pass it on. -/
def onError : Program Res ε α → Program Res ε Unit → Program Res ε α
  | .done value, _ => .done value
  | .raise error, cleanup => cleanup.bind fun _ => .raise error
  | .call op next, cleanup => .call op fun answer => (next answer).onError cleanup

/-- Run `cleanup` however the program is left. -/
def onExit : Program Res ε α → Program Res ε Unit → Program Res ε α
  | .done value, cleanup => cleanup.bind fun _ => .done value
  | .raise error, cleanup => cleanup.bind fun _ => .raise error
  | .call op next, cleanup => .call op fun answer => (next answer).onExit cleanup

/-- An automatic object: released on every exit of the block it lives in, and
never released when its own acquisition fails. -/
def bracket (acquire : Program Res ε β) (release : β → Program Res ε Unit)
    (body : β → Program Res ε α) : Program Res ε α :=
  acquire.bind fun object => (body object).onExit (release object)

instance : Monad (Program Res ε) where
  pure := .done
  bind := bind

theorem bind_done (p : Program Res ε α) : p.bind .done = p := by
  induction p with
  | done value => rfl
  | raise error => rfl
  | call op next ih =>
    simp only [bind]
    congr 1
    funext answer
    exact ih answer

theorem bind_assoc {γ : Type} (p : Program Res ε α) (f : α → Program Res ε β)
    (g : β → Program Res ε γ) : (p.bind f).bind g = p.bind fun a => (f a).bind g := by
  induction p with
  | done value => rfl
  | raise error => rfl
  | call op next ih =>
    simp only [bind]
    congr 1
    funext answer
    exact ih answer

instance : LawfulMonad (Program Res ε) :=
  LawfulMonad.mk' _ bind_done (fun _ _ => rfl) bind_assoc

/-! ## Running a program -/

abbrev Handler (Res : Op → Type) (σ : Type) := (op : Op) → σ → Res op × σ

def run (h : Handler Res σ) : Program Res ε α → σ → Except ε α × σ
  | .done value, s => (.ok value, s)
  | .raise error, s => (.error error, s)
  | .call op next, s => (next (h op s).1).run h (h op s).2

theorem state_run_ended (h : Handler Res σ) {p : Program Res ε α} (hp : p.ended = true) (s : σ) :
    (p.run h s).2 = s := by
  cases p with
  | done value => rfl
  | raise error => rfl
  | call op next => simp [ended] at hp

/-- Continue a run that has ended normally. -/
def chain : Except ε α × σ → (α → σ → Except ε β × σ) → Except ε β × σ
  | (.ok value, s), f => f value s
  | (.error error, s), _ => (.error error, s)

@[simp] theorem chain_ok (value : α) (s : σ) (f : α → σ → Except ε β × σ) :
    chain (.ok value, s) f = f value s := rfl

@[simp] theorem chain_error (error : ε) (s : σ) (f : α → σ → Except ε β × σ) :
    chain (.error error, s) f = (.error error, s) := rfl

theorem run_bind (h : Handler Res σ) (p : Program Res ε α) (f : α → Program Res ε β) (s : σ) :
    (p.bind f).run h s = chain (p.run h s) fun value s => (f value).run h s := by
  induction p generalizing s with
  | done value => rfl
  | raise error => rfl
  | call op next ih => exact ih _ _

theorem state_run_drop (h : Handler Res σ) (p : Program Res ε α) (s : σ) :
    ((do let _ ← p : Program Res ε Unit).run h s).2 = (p.run h s).2 := by
  have hdrop : (do let _ ← p : Program Res ε Unit) = p.bind fun _ => .done () := rfl
  rw [hdrop, run_bind]
  rcases p.run h s with ⟨_ | value, t⟩ <;> rfl

theorem run_keeps (h : Handler Res σ) {P : σ → Prop} (hP : ∀ op s, P s → P (h op s).2)
    (p : Program Res ε α) (s : σ) (hs : P s) : P (p.run h s).2 := by
  induction p generalizing s with
  | done value => exact hs
  | raise error => exact hs
  | call op next ih => exact ih _ _ (hP op s hs)

/-- The weakest precondition of a normal exit in `Q` and an exceptional exit
in `E`. -/
def wp (h : Handler Res σ) (Q : α → σ → Prop) (E : ε → σ → Prop) :
    Program Res ε α → σ → Prop
  | .done value, s => Q value s
  | .raise error, s => E error s
  | .call op next, s => (next (h op s).1).wp h Q E (h op s).2

/-- How a run ended, as seen by a pair of postconditions. -/
def Exits (Q : α → σ → Prop) (E : ε → σ → Prop) : Except ε α × σ → Prop
  | (.ok value, s) => Q value s
  | (.error error, s) => E error s

variable (h : Handler Res σ) {Q : α → σ → Prop} {E : ε → σ → Prop}

theorem wp_iff_run (p : Program Res ε α) (s : σ) : p.wp h Q E s ↔ Exits Q E (p.run h s) := by
  induction p generalizing s with
  | done value => rfl
  | raise error => rfl
  | call op next ih => exact ih _ _

theorem exits_run {p : Program Res ε α} {s : σ} (hp : p.wp h Q E s) : Exits Q E (p.run h s) :=
  (wp_iff_run h p s).mp hp

variable {h} in
theorem wp_mono {Q' : α → σ → Prop} {E' : ε → σ → Prop} {p : Program Res ε α} {s : σ}
    (hp : p.wp h Q E s) (hQ : ∀ value s, Q value s → Q' value s)
    (hE : ∀ error s, E error s → E' error s) : p.wp h Q' E' s := by
  induction p generalizing s with
  | done value => exact hQ _ _ hp
  | raise error => exact hE _ _ hp
  | call op next ih => exact ih _ hp

theorem wp_and {Q' : α → σ → Prop} {E' : ε → σ → Prop} {p : Program Res ε α} {s : σ}
    (hp : p.wp h Q E s) (hp' : p.wp h Q' E' s) :
    p.wp h (fun value s => Q value s ∧ Q' value s) (fun error s => E error s ∧ E' error s) s := by
  induction p generalizing s with
  | done value => exact ⟨hp, hp'⟩
  | raise error => exact ⟨hp, hp'⟩
  | call op next ih => exact ih _ hp hp'

/-- A run is determined by its weakest preconditions. -/
theorem run_eq_of_wp {p : Program Res ε α} {s : σ} {result : Except ε α × σ}
    (hp : p.wp h (fun value t => (.ok value, t) = result)
      (fun error t => (.error error, t) = result) s) : p.run h s = result := by
  have hexits := exits_run h hp
  revert hexits
  rcases p.run h s with ⟨_ | a, u⟩ <;> exact id

theorem run_of_wp {p : Program Res ε α} {s t : σ} {value : α}
    (hp : p.wp h (fun a u => a = value ∧ u = t) (fun _ _ => False) s) :
    p.run h s = (.ok value, t) := by
  apply run_eq_of_wp
  apply wp_mono hp
  · rintro a u ⟨rfl, rfl⟩
    rfl
  · exact fun _ _ h => h.elim

theorem state_of_wp {P : σ → Prop} {p : Program Res ε α} {s : σ}
    (hp : p.wp h (fun _ => P) (fun _ => P) s) : P (p.run h s).2 := by
  have hexits := exits_run h hp
  revert hexits
  rcases p.run h s with ⟨_ | a, u⟩ <;> exact id

theorem wp_of_run {p : Program Res ε α} {s t : σ} {value : α}
    (hp : p.run h s = (.ok value, t)) : p.wp h Q E s = Q value t := by
  rw [wp_iff_run, hp]
  rfl

@[simp] theorem wp_done (value : α) (s : σ) :
    (Program.done value : Program Res ε α).wp h Q E s = Q value s := rfl

@[simp] theorem wp_pure (value : α) (s : σ) :
    (pure value : Program Res ε α).wp h Q E s = Q value s := rfl

@[simp] theorem wp_raise (error : ε) (s : σ) :
    (Program.raise error : Program Res ε α).wp h Q E s = E error s := rfl

@[simp] theorem wp_perform (op : Op) {Q : Res op → σ → Prop} (s : σ) :
    (perform op : Program Res ε (Res op)).wp h Q E s = Q (h op s).1 (h op s).2 := rfl

@[simp] theorem wp_bind (p : Program Res ε β) (f : β → Program Res ε α) (s : σ) :
    (p.bind f).wp h Q E s = p.wp h (fun b s => (f b).wp h Q E s) E s := by
  induction p generalizing s with
  | done value => rfl
  | raise error => rfl
  | call op next ih => exact ih _ _

@[simp] theorem wp_bind' (p : Program Res ε β) (f : β → Program Res ε α) (s : σ) :
    (p >>= f).wp h Q E s = p.wp h (fun b s => (f b).wp h Q E s) E s :=
  wp_bind h p f s

@[simp] theorem wp_map (f : β → α) (p : Program Res ε β) (s : σ) :
    (f <$> p).wp h Q E s = p.wp h (fun b s => Q (f b) s) E s :=
  wp_bind h p (fun b => .done (f b)) s

@[simp] theorem wp_ite (c : Prop) [Decidable c] (p q : Program Res ε α) (s : σ) :
    (if c then p else q).wp h Q E s = if c then p.wp h Q E s else q.wp h Q E s := by
  split <;> rfl

@[simp] theorem wp_onError (p : Program Res ε α) (cleanup : Program Res ε Unit) (s : σ) :
    (p.onError cleanup).wp h Q E s =
      p.wp h Q (fun error s => cleanup.wp h (fun _ s => E error s) E s) s := by
  induction p generalizing s with
  | done value => rfl
  | raise error => exact wp_bind h _ _ _
  | call op next ih => exact ih _ _

@[simp] theorem wp_onExit (p : Program Res ε α) (cleanup : Program Res ε Unit) (s : σ) :
    (p.onExit cleanup).wp h Q E s =
      p.wp h (fun value s => cleanup.wp h (fun _ s => Q value s) E s)
        (fun error s => cleanup.wp h (fun _ s => E error s) E s) s := by
  induction p generalizing s with
  | done value => exact wp_bind h _ _ _
  | raise error => exact wp_bind h _ _ _
  | call op next ih => exact ih _ _

@[simp] theorem wp_bracket (acquire : Program Res ε β) (release : β → Program Res ε Unit)
    (body : β → Program Res ε α) (s : σ) :
    (bracket acquire release body).wp h Q E s =
      acquire.wp h (fun object s => (body object).wp h
        (fun value s => (release object).wp h (fun _ s => Q value s) E s)
        (fun error s => (release object).wp h (fun _ s => E error s) E s) s) E s := by
  simp only [bracket, wp_bind, wp_onExit]

end Program
end Effects
