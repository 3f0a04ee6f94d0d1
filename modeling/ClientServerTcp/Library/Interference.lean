import ClientServerTcp.Library.Loop
import Mathlib.Logic.Relation

/-! Programs in an environment that acts between their steps. The operations
are relations: the environment may answer in any way the relation allows. An
assertion proved by the rules below holds in every interleaving. -/
namespace Effects

open Relation

variable {Op : Type} {Res : Op → Type} {ε α β σ : Type}

/-- The answers and the next states an operation may have. -/
abbrev Answers (Res : Op → Type) (σ : Type) := (op : Op) → σ → Res op → σ → Prop

/-- A step of the program, or a step of its environment. -/
inductive Interleaving (R : Answers Res σ) (Env : σ → σ → Prop) :
    Program Res ε α × σ → Program Res ε α × σ → Prop
  | env (p : Program Res ε α) {s t : σ} (h : Env s t) : Interleaving R Env (p, s) (p, t)
  | call {op : Op} (next : Res op → Program Res ε α) {s t : σ} {answer : Res op}
    (h : R op s answer t) : Interleaving R Env (.call op next, s) (next answer, t)

/-- What a program and its environment can come to. -/
abbrev Reaches (R : Answers Res σ) (Env : σ → σ → Prop) :
    Program Res ε α × σ → Program Res ε α × σ → Prop :=
  ReflTransGen (Interleaving R Env)

namespace Program

variable (R : Answers Res σ) (Env : σ → σ → Prop) (A : Op → σ → Prop)

/-- However the environment acts, `A` holds at every operation, and the program
ends normally in `Q` and exceptionally in `E`. -/
def always (Q : α → σ → Prop) (E : ε → σ → Prop) : Program Res ε α → σ → Prop
  | .done value, s => ∀ t, ReflTransGen Env s t → Q value t
  | .raise error, s => ∀ t, ReflTransGen Env s t → E error t
  | .call op next, s => ∀ t, ReflTransGen Env s t →
    A op t ∧ ∀ answer u, R op t answer u → (next answer).always Q E u

variable {R Env A} {Q : α → σ → Prop} {E : ε → σ → Prop}

theorem always_env {p : Program Res ε α} {s t : σ} (hp : p.always R Env A Q E s)
    (hst : ReflTransGen Env s t) : p.always R Env A Q E t := by
  cases p with
  | done value => exact fun u htu => hp u (hst.trans htu)
  | raise error => exact fun u htu => hp u (hst.trans htu)
  | call op next => exact fun u htu => hp u (hst.trans htu)

theorem always_step {p q : Program Res ε α} {s t : σ} (hp : p.always R Env A Q E s)
    (hstep : Interleaving R Env (p, s) (q, t)) : q.always R Env A Q E t := by
  cases hstep with
  | env p h => exact always_env hp (.single h)
  | call next h => exact (hp s .refl).2 _ t h

theorem always_reaches {p q : Program Res ε α} {s t : σ} (hp : p.always R Env A Q E s)
    (h : Reaches R Env (p, s) (q, t)) : q.always R Env A Q E t := by
  suffices ∀ c, Reaches R Env (p, s) c → c.1.always R Env A Q E c.2 from this (q, t) h
  intro c hc
  induction hc with
  | refl => exact hp
  | tail _ hstep ih => exact always_step ih hstep

theorem always_mono {Q' : α → σ → Prop} {E' : ε → σ → Prop} {p : Program Res ε α} {s : σ}
    (hp : p.always R Env A Q E s) (hQ : ∀ value s, Q value s → Q' value s)
    (hE : ∀ error s, E error s → E' error s) : p.always R Env A Q' E' s := by
  induction p generalizing s with
  | done value => exact fun t hst => hQ _ _ (hp t hst)
  | raise error => exact fun t hst => hE _ _ (hp t hst)
  | call op next ih =>
    exact fun t hst => ⟨(hp t hst).1, fun answer u h => ih answer ((hp t hst).2 answer u h)⟩

theorem always_bind {p : Program Res ε β} {f : β → Program Res ε α} {s : σ}
    (hp : p.always R Env A (fun value t => (f value).always R Env A Q E t) E s) :
    (p.bind f).always R Env A Q E s := by
  induction p generalizing s with
  | done value => exact hp s .refl
  | raise error => exact hp
  | call op next ih =>
    exact fun t hst => ⟨(hp t hst).1, fun answer u h => ih answer ((hp t hst).2 answer u h)⟩

theorem always_later {p : Program Res ε α} {s : σ} (hp : p.always R Env A Q E s) :
    p.always R Env A (fun value t => ∀ u, ReflTransGen Env t u → Q value u)
      (fun error t => ∀ u, ReflTransGen Env t u → E error u) s := by
  induction p generalizing s with
  | done value => exact fun t hst u htu => hp u (hst.trans htu)
  | raise error => exact fun t hst u htu => hp u (hst.trans htu)
  | call op next ih =>
    exact fun t hst => ⟨(hp t hst).1, fun answer u h => ih answer ((hp t hst).2 answer u h)⟩

theorem always_onExit {p : Program Res ε α} {cleanup : Program Res ε Unit} {s : σ}
    (hp : p.always R Env A
      (fun value t => cleanup.always R Env A (fun _ => Q value) E t)
      (fun error t => cleanup.always R Env A (fun _ => E error) E t) s) :
    (p.onExit cleanup).always R Env A Q E s := by
  induction p generalizing s with
  | done value =>
    apply always_bind
    exact always_mono (always_later (hp s .refl)) (fun _ _ hQ => hQ) (fun _ t hE => hE t .refl)
  | raise error =>
    apply always_bind
    exact always_mono (always_later (hp s .refl)) (fun _ _ hE => hE) (fun _ t hE => hE t .refl)
  | call op next ih =>
    exact fun t hst => ⟨(hp t hst).1, fun answer u h => ih answer ((hp t hst).2 answer u h)⟩

theorem stable_env (P : σ → Prop) (hP : ∀ {s t}, P s → Env s t → P t) {s t : σ} (hs : P s)
    (hst : ReflTransGen Env s t) : P t := by
  induction hst with
  | refl => exact hs
  | tail _ h ih => exact hP ih h

theorem always_perform {op : Op} {k : Res op → Program Res ε α} {P : σ → Prop} {s : σ}
    (hP : ∀ {s t}, P s → Env s t → P t) (hs : P s) (hA : ∀ t, P t → A op t)
    (hk : ∀ t answer u, P t → R op t answer u → (k answer).always R Env A Q E u) :
    ((perform op : Program Res ε (Res op)) >>= k).always R Env A Q E s := by
  intro t hst
  have ht := stable_env P hP hs hst
  exact ⟨hA t ht, fun answer u h => hk t answer u ht h⟩

theorem always_pure {value : α} {s : σ} (hQ : ∀ {s t}, Q value s → Env s t → Q value t)
    (hs : Q value s) : (Program.done value : Program Res ε α).always R Env A Q E s :=
  fun _ hst => stable_env (Q value) hQ hs hst

def answersOf (h : Handler Res σ) : Answers Res σ := fun op s answer t => (answer, t) = h op s

def alone : σ → σ → Prop := fun _ _ => False

theorem eq_of_alone {s t : σ} (hst : ReflTransGen alone s t) : t = s :=
  stable_env (· = s) (fun _ h => h.elim) rfl hst

/-- A program that runs alone ends as its weakest precondition says. What
holds at its operations can be shown apart from that. -/
theorem always_of_wp {h : Handler Res σ} {p : Program Res ε α} {s : σ} (hp : p.wp h Q E s)
    (hA : p.always (answersOf h) alone A (fun _ _ => True) (fun _ _ => True) s) :
    p.always (answersOf h) alone A Q E s := by
  induction p generalizing s with
  | done value =>
    intro t hst
    rw [eq_of_alone hst]
    exact hp
  | raise error =>
    intro t hst
    rw [eq_of_alone hst]
    exact hp
  | call op next ih =>
    intro t hst
    rw [eq_of_alone hst]
    refine ⟨(hA s .refl).1, ?_⟩
    intro answer u hanswer
    have hnext := (hA s .refl).2 answer u hanswer
    have hstep : (answer, u) = h op s := hanswer
    apply ih answer _ hnext
    rw [show answer = (h op s).1 from congrArg Prod.fst hstep,
      show u = (h op s).2 from congrArg Prod.snd hstep]
    exact hp

theorem always_onError {p : Program Res ε α} {cleanup : Program Res ε Unit} {s : σ}
    (hp : p.always R Env A Q
      (fun error t => cleanup.always R Env A (fun _ => E error) E t) s) :
    (p.onError cleanup).always R Env A Q E s := by
  induction p generalizing s with
  | done value => exact hp
  | raise error =>
    apply always_bind
    exact always_mono (always_later (hp s .refl)) (fun _ _ hE => hE) (fun _ t hE => hE t .refl)
  | call op next ih =>
    exact fun t hst => ⟨(hp t hst).1, fun answer u h => ih answer ((hp t hst).2 answer u h)⟩

/-- A program is checked alone against an abstraction of the states. What is
shown of it holds in every state that the abstraction describes. -/
theorem always_refine {τ : Type} {R' : Answers Res τ} {A' : Op → τ → Prop} {Q' : α → τ → Prop}
    {E' : ε → τ → Prop} (Rel : σ → τ → Prop) {p : Program Res ε α} {s : σ} {x : τ}
    (hp : p.always R' alone A' Q' E' x) (hs : Rel s x)
    (henv : ∀ {s t x}, Rel s x → Env s t → Rel t x)
    (hstep : ∀ op s x, Rel s x → A' op x →
      A op s ∧ ∀ answer t, R op s answer t → ∃ y, R' op x answer y ∧ Rel t y) :
    p.always R Env A (fun value t => ∃ y, Rel t y ∧ Q' value y)
      (fun error t => ∃ y, Rel t y ∧ E' error y) s := by
  induction p generalizing s x with
  | done value => exact fun t hst => ⟨x, stable_env (Rel · x) henv hs hst, hp x .refl⟩
  | raise error => exact fun t hst => ⟨x, stable_env (Rel · x) henv hs hst, hp x .refl⟩
  | call op next ih =>
    intro t hst
    obtain ⟨hA', hnext⟩ := hp x .refl
    obtain ⟨hA, hanswer⟩ := hstep op t x (stable_env (Rel · x) henv hs hst) hA'
    refine ⟨hA, ?_⟩
    intro answer u hR
    obtain ⟨y, hR', hu⟩ := hanswer answer u hR
    exact ih answer (hnext answer y hR') hu

/-- The invariant rule for loops under interference. -/
theorem always_whileLoop {cond : β → Bool} {body : β → Program Res ε β} {I : β → σ → Prop}
    (hI : ∀ {locals s t}, I locals s → Env s t → I locals t)
    (round : ∀ locals s, I locals s → cond locals = true → (body locals).always R Env A I E s)
    (fuel : Nat) (locals : β) (s : σ) (hs : I locals s) :
    (whileLoop cond body fuel locals).always R Env A
      (fun result s => match result with
        | none => ∃ locals, cond locals = true ∧ I locals s
        | some locals => cond locals = false ∧ I locals s) E s := by
  have hstable : ∀ {locals s t}, I locals s → ReflTransGen Env s t → I locals t :=
    fun {locals} => stable_env (I locals) hI
  induction fuel generalizing locals s with
  | zero =>
    unfold whileLoop
    intro t hst
    by_cases hc : cond locals = true
    · rw [if_pos hc]
      exact ⟨locals, hc, hstable hs hst⟩
    · rw [if_neg hc]
      exact ⟨by simpa using hc, hstable hs hst⟩
  | succ fuel ih =>
    unfold whileLoop
    by_cases hc : cond locals = true
    · rw [if_pos hc]
      apply always_bind
      exact always_mono (round locals s hs hc) (fun locals s hs => ih locals s hs)
        (fun _ _ he => he)
    · rw [if_neg hc]
      exact fun t hst => ⟨by simpa using hc, hstable hs hst⟩

end Program
end Effects
