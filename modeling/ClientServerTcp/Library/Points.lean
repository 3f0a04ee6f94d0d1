import ClientServerTcp.Library.Threads

/-! Requests that take effect at an operation of a certain kind. Each program is
checked alone, against what its thread knows of itself; when the operations fit
to the specification, every history of the threads is linearizable. -/
namespace Effects

open Relation

variable {Op : Type} {Res : Op → Type} {ε α σ τ ι Req L : Type}

/-- What the operations do to the abstract state: the silent ones do nothing. -/
def Moves (effect : Op → Option (τ → τ → Prop)) (op : Op) (a b : τ) : Prop :=
  match effect op with
  | none => b = a
  | some E => E a b

section
variable (LStep : Answers Res L) (LMay : Op → L → Prop) (effect : Op → Option (τ → τ → Prop))
  (Rest : L → Prop) (Spec : Except ε α → τ → τ → Prop) (settled : Except ε α)

/-- The steps of a thread, which also remembers whether its request has taken effect. -/
def PointStep : Answers Res (L × Bool) := fun op own answer own' =>
  LStep op own.1 answer own'.1 ∧ own'.2 = (own.2 || (effect op).isSome)

/-- A request takes effect once, and then its response is settled. -/
def PointMay (op : Op) (own : L × Bool) : Prop :=
  LMay op own.1 ∧ ∀ E, effect op = some E → own.2 = false ∧ ∀ a b, E a b → Spec settled a b

/-- How a request ends: a thread at rest has the settled response, or another
one that needs no effect. -/
def Ends (result : Except ε α) (own : L × Bool) : Prop :=
  Rest own.1 ∧ if own.2 then result = settled else ∀ a, Spec result a a

/-- The program of a request, checked from where its thread stands. -/
def Program.Points (p : Program Res ε α) (own : L × Bool) : Prop :=
  p.always (PointStep LStep effect) alone (PointMay LMay effect Spec settled)
    (fun value => Ends Rest Spec settled (.ok value))
    (fun error => Ends Rest Spec settled (.error error)) own

variable {LStep LMay effect Rest Spec settled}

theorem Program.Points.performs {op : Op} {next : Res op → Program Res ε α} {own : L × Bool}
    (hp : (Program.call op next).Points LStep LMay effect Rest Spec settled own) :
    PointMay LMay effect Spec settled op own ∧ ∀ answer own',
      PointStep LStep effect op own answer own' →
        (next answer).Points LStep LMay effect Rest Spec settled own' := by
  obtain ⟨hmay, hnext⟩ := hp _ .refl
  exact ⟨hmay, fun answer own' hstep => hnext answer own' hstep⟩

theorem Program.Points.ends {p : Program Res ε α} {own : L × Bool} {result : Except ε α}
    (hp : p.Points LStep LMay effect Rest Spec settled own) (hresult : p.result = some result) :
    Ends Rest Spec settled result own := by
  cases p with
  | done value =>
    obtain rfl := Option.some.inj hresult
    exact hp _ .refl
  | raise error =>
    obtain rfl := Option.some.inj hresult
    exact hp _ .refl
  | call op next => contradiction

end

/-- Every step keeps the parts of the threads apart and moves the abstract state
as its operation says, and every request was checked. -/
structure Pointed (code : Req → Program Res ε α) (R : ι → Answers Res σ) (LStep : Answers Res L)
    (LMay : Op → L → Prop) (effect : Op → Option (τ → τ → Prop)) (Held : (ι → L) → σ → Prop)
    (abs : σ → τ) (Rest : L → Prop) (Spec : Req → Except ε α → τ → τ → Prop)
    (settled : Req → Except ε α) [DecidableEq ι] : Prop where
  step : ∀ i parts s op answer t, Held parts s → LMay op (parts i) → R i op s answer t →
    ∃ own, LStep op (parts i) answer own ∧ Held (Function.update parts i own) t ∧
      Moves effect op (abs s) (abs t)
  code : ∀ r own, Rest own →
    (code r).Points LStep LMay effect Rest (Spec r) (settled r) (own, false)

namespace Pointed

variable {code : Req → Program Res ε α} {R : ι → Answers Res σ} {LStep : Answers Res L}
  {LMay : Op → L → Prop} {effect : Op → Option (τ → τ → Prop)} {Held : (ι → L) → σ → Prop}
  {abs : σ → τ} {Rest : L → Prop} {Spec : Req → Except ε α → τ → τ → Prop}
  {settled : Req → Except ε α} [DecidableEq ι]

def Stands (LStep : Answers Res L) (LMay : Op → L → Prop) (effect : Op → Option (τ → τ → Prop))
    (Rest : L → Prop) (Spec : Req → Except ε α → τ → τ → Prop) (settled : Req → Except ε α)
    (own : L) : Phase Req ε α → Option (Req × Program Res ε α) → Prop
  | .idle, none => Rest own
  | .pending r, some (r', p) =>
    r' = r ∧ p.Points LStep LMay effect Rest (Spec r) (settled r) (own, false)
  | .settled r result, some (r', p) => r' = r ∧ result = settled r ∧
    p.Points LStep LMay effect Rest (Spec r) (settled r) (own, true)
  | _, _ => False

def Kept (LStep : Answers Res L) (LMay : Op → L → Prop) (effect : Op → Option (τ → τ → Prop))
    (Held : (ι → L) → σ → Prop) (abs : σ → τ) (Rest : L → Prop)
    (Spec : Req → Except ε α → τ → τ → Prop) (settled : Req → Except ε α) (a : τ)
    (c : Pool Res ε α σ ι Req) : Prop :=
  ∃ parts phases, Held parts c.state ∧ Tracked Spec a c.history (abs c.state) phases ∧
    ∀ i, Stands LStep LMay effect Rest Spec settled (parts i) (phases i) (c.active i)

private theorem stands_update {parts parts' : ι → L} {phases : ι → Phase Req ε α}
    {active : ι → Option (Req × Program Res ε α)} {i : ι} {phase : Phase Req ε α}
    {x : Option (Req × Program Res ε α)}
    (hall : ∀ j, Stands LStep LMay effect Rest Spec settled (parts j) (phases j) (active j))
    (hothers : ∀ j, j ≠ i → parts' j = parts j)
    (hi : Stands LStep LMay effect Rest Spec settled (parts' i) phase x) (j : ι) :
    Stands LStep LMay effect Rest Spec settled (parts' j) (Function.update phases i phase j)
      (Function.update active i x j) := by
  by_cases hj : j = i
  · subst hj
    rwa [Function.update_self, Function.update_self]
  · rw [Function.update_of_ne hj, Function.update_of_ne hj, hothers j hj]
    exact hall j

private theorem stands_stay {parts : ι → L} {own : L} {phases : ι → Phase Req ε α}
    {active : ι → Option (Req × Program Res ε α)} {i : ι} {x : Option (Req × Program Res ε α)}
    (hall : ∀ j, Stands LStep LMay effect Rest Spec settled (parts j) (phases j) (active j))
    (hi : Stands LStep LMay effect Rest Spec settled own (phases i) x) (j : ι) :
    Stands LStep LMay effect Rest Spec settled (Function.update parts i own j) (phases j)
      (Function.update active i x j) := by
  have hself : Stands LStep LMay effect Rest Spec settled (Function.update parts i own i)
      (phases i) x := by rwa [Function.update_self]
  have hstands := stands_update hall (fun j hj => Function.update_of_ne hj ..) hself j
  rwa [Function.update_eq_self] at hstands

variable (h : Pointed code R LStep LMay effect Held abs Rest Spec settled)
include h

section
variable {a : τ} {c : Pool Res ε α σ ι Req} {i : ι} {r : Req}
  (hkept : Kept LStep LMay effect Held abs Rest Spec settled a c)
include hkept

private theorem kept_invoke (hidle : c.active i = none) :
    Kept LStep LMay effect Held abs Rest Spec settled a { c with
      active := Function.update c.active i (some (r, code r))
      history := .invoked i r :: c.history } := by
  obtain ⟨parts, phases, hheld, htracked, hall⟩ := hkept
  have hi := hall i
  rw [hidle] at hi
  cases hphase : phases i with
  | idle =>
    rw [hphase] at hi
    exact ⟨parts, _, hheld, htracked.invoke hphase r,
      stands_update hall (fun _ _ => rfl) ⟨rfl, h.code r _ hi⟩⟩
  | pending | settled =>
    rw [hphase] at hi
    exact hi.elim

private theorem kept_perform {op : Op} {next : Res op → Program Res ε α} {answer : Res op} {t : σ}
    (hcall : c.active i = some (r, .call op next)) (hanswer : R i op c.state answer t) :
    Kept LStep LMay effect Held abs Rest Spec settled a { c with
      state := t
      active := Function.update c.active i (some (r, next answer)) } := by
  obtain ⟨parts, phases, hheld, htracked, hall⟩ := hkept
  have hi := hall i
  rw [hcall] at hi
  cases hphase : phases i with
  | idle =>
    rw [hphase] at hi
    exact hi.elim
  | pending r' =>
    rw [hphase] at hi
    obtain ⟨rfl, hp⟩ := hi
    obtain ⟨⟨hmay, hpoint⟩, hnext⟩ := hp.performs
    obtain ⟨own, hown, hheld', hmoves⟩ := h.step i parts _ op answer t hheld hmay hanswer
    have hcont := hnext answer (own, (effect op).isSome) ⟨hown, by simp⟩
    unfold Moves at hmoves
    cases heffect : effect op with
    | none =>
      rw [heffect] at hmoves hcont
      refine ⟨_, phases, hheld', hmoves ▸ htracked, stands_stay hall ?_⟩
      rw [hphase]
      exact ⟨rfl, hcont⟩
    | some E =>
      rw [heffect] at hmoves hcont
      obtain ⟨-, hspec⟩ := hpoint E heffect
      refine ⟨_, _, hheld', htracked.effect hphase (hspec _ _ hmoves),
        stands_update hall (fun j hj => Function.update_of_ne hj ..) ?_⟩
      rw [Function.update_self]
      exact ⟨rfl, rfl, hcont⟩
  | settled r' result =>
    rw [hphase] at hi
    obtain ⟨rfl, hresult, hp⟩ := hi
    obtain ⟨⟨hmay, hpoint⟩, hnext⟩ := hp.performs
    obtain ⟨own, hown, hheld', hmoves⟩ := h.step i parts _ op answer t hheld hmay hanswer
    have hsilent : effect op = none := by
      cases heffect : effect op with
      | none => rfl
      | some E => exact absurd (hpoint E heffect).1 (by simp)
    rw [Moves, hsilent] at hmoves
    refine ⟨_, phases, hheld', hmoves ▸ htracked, stands_stay hall ?_⟩
    rw [hphase]
    exact ⟨rfl, hresult, hnext answer (own, true) ⟨hown, by simp⟩⟩

omit h in
private theorem kept_respond {p : Program Res ε α} {result : Except ε α}
    (hcall : c.active i = some (r, p)) (hresult : p.result = some result) :
    Kept LStep LMay effect Held abs Rest Spec settled a { c with
      active := Function.update c.active i none
      history := .responded i r result :: c.history } := by
  obtain ⟨parts, phases, hheld, htracked, hall⟩ := hkept
  have hi := hall i
  rw [hcall] at hi
  cases hphase : phases i with
  | idle =>
    rw [hphase] at hi
    exact hi.elim
  | pending r' =>
    rw [hphase] at hi
    obtain ⟨rfl, hp⟩ := hi
    obtain ⟨hrest, hspec⟩ := hp.ends hresult
    exact ⟨parts, _, hheld, htracked.effect_respond hphase (hspec _),
      stands_update hall (fun _ _ => rfl) hrest⟩
  | settled r' result' =>
    rw [hphase] at hi
    obtain ⟨rfl, rfl, hp⟩ := hi
    obtain ⟨hrest, rfl⟩ := hp.ends hresult
    exact ⟨parts, _, hheld, htracked.respond hphase,
      stands_update hall (fun _ _ => rfl) hrest⟩

end

private theorem kept_move {a : τ} {c c' : Pool Res ε α σ ι Req}
    (hkept : Kept LStep LMay effect Held abs Rest Spec settled a c)
    (hstep : Pool.Step code R c c') :
    Kept LStep LMay effect Held abs Rest Spec settled a c' := by
  cases hstep with
  | invoke i r hidle => exact h.kept_invoke hkept hidle
  | perform i hcall hanswer => exact h.kept_perform hkept hcall hanswer
  | respond i hcall hresult => exact kept_respond hkept hcall hresult

variable {parts : ι → L} {s : σ} (hheld : Held parts s) (hrest : ∀ i, Rest (parts i))
  {c : Pool Res ε α σ ι Req} (hc : ReflTransGen (Pool.Step code R) (.start s) c)
include hheld hrest hc

private theorem kept_run : Kept LStep LMay effect Held abs Rest Spec settled (abs s) c := by
  induction hc with
  | refl => exact ⟨parts, _, hheld, .start, hrest⟩
  | tail _ hstep ih => exact h.kept_move ih hstep

/-- Every history of the threads is linearizable. -/
theorem history_linearizes : Linearizes Spec (abs s) c.history (abs c.state) := by
  obtain ⟨_, _, _, htracked, _⟩ := h.kept_run hheld hrest hc
  exact htracked.linearizes

/-- In every state the threads can be told apart, and each is where it was checked. -/
theorem knows : ∃ parts, Held parts c.state ∧ ∀ i,
    (c.active i = none → Rest (parts i)) ∧
    ∀ r p, c.active i = some (r, p) → ∃ done,
      p.Points LStep LMay effect Rest (Spec r) (settled r) (parts i, done) := by
  obtain ⟨parts, phases, hheld', -, hall⟩ := h.kept_run hheld hrest hc
  refine ⟨parts, hheld', ?_⟩
  intro i
  have hi := hall i
  generalize phases i = phase at hi
  constructor
  · intro hidle
    rw [hidle] at hi
    cases phase with
    | idle => exact hi
    | pending | settled => exact hi.elim
  · intro r p hactive
    rw [hactive] at hi
    cases phase with
    | idle => exact hi.elim
    | pending =>
      obtain ⟨rfl, hp⟩ := hi
      exact ⟨false, hp⟩
    | settled =>
      obtain ⟨rfl, -, hp⟩ := hi
      exact ⟨true, hp⟩

end Pointed
end Effects
