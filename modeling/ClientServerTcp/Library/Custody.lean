import ClientServerTcp.Library.Threads

/-! Things that threads hold apart from each other. Every thread has a part of
what exists, and changes nothing but its own part. A program is then checked
against its part alone, and what is shown holds in every order of the steps. -/
namespace Effects

open Relation

/-- A part of what exists: some things, with what is known of each. -/
abbrev Part {X : Type} (V : X → Type) := (x : X) → Option (V x)

section
variable {X κ : Type} {V : X → Type}

/-- The parts are apart from each other, and make up the whole. -/
structure Joined (parts : κ → Part V) (whole : Part V) : Prop where
  covers : ∀ x value, whole x = some value ↔ ∃ j, parts j x = some value
  alone : ∀ {j j' x}, (parts j x).isSome → (parts j' x).isSome → j = j'

namespace Joined

variable {parts : κ → Part V} {whole : Part V}

theorem of_part (h : Joined parts whole) {j : κ} {x : X} {value : V x}
    (hx : parts j x = some value) : whole x = some value := (h.covers x value).mpr ⟨j, hx⟩

theorem isSome_of_part (h : Joined parts whole) {j : κ} {x : X} (hx : (parts j x).isSome) :
    (whole x).isSome := by
  obtain ⟨value, hvalue⟩ := Option.isSome_iff_exists.mp hx
  simp [h.of_part hvalue]

theorem none_of_whole (h : Joined parts whole) {x : X} (hx : whole x = none) (j : κ) :
    parts j x = none := by
  cases hj : parts j x with
  | none => rfl
  | some value =>
    rw [h.of_part hj] at hx
    contradiction

theorem update [DecidableEq X] [DecidableEq κ] (h : Joined parts whole) (j : κ) {x : X}
    (new : Option (V x)) (hx : (parts j x).isSome ∨ whole x = none) :
    Joined (Function.update parts j (Function.update (parts j) x new))
      (Function.update whole x new) := by
  -- The others do not have it.
  have hother : ∀ j', j' ≠ j → parts j' x = none := by
    intro j' hne
    rcases hx with hx | hx
    · cases hj' : parts j' x with
      | none => rfl
      | some value => exact absurd (h.alone (by simp [hj']) hx) hne
    · exact h.none_of_whole hx j'
  have hsame : ∀ j' {y}, y ≠ x →
      Function.update parts j (Function.update (parts j) x new) j' y = parts j' y := by
    intro j' y hy
    by_cases hj : j' = j
    · subst hj
      rw [Function.update_self, Function.update_of_ne hy]
    · rw [Function.update_of_ne hj]
  have hthere : ∀ j', Function.update parts j (Function.update (parts j) x new) j' x =
      if j' = j then new else none := by
    intro j'
    by_cases hj : j' = j
    · subst hj
      rw [if_pos rfl, Function.update_self, Function.update_self]
    · rw [if_neg hj, Function.update_of_ne hj, hother j' hj]
  constructor
  · intro y value
    by_cases hy : y = x
    · subst hy
      simp only [Function.update_self, hthere]
      constructor
      · exact fun hnew => ⟨j, by rw [if_pos rfl, hnew]⟩
      · rintro ⟨j', hj'⟩
        split at hj'
        · exact hj'
        · contradiction
    · simp only [Function.update_of_ne hy, hsame _ hy]
      exact h.covers y value
  · intro j₁ j₂ y h₁ h₂
    by_cases hy : y = x
    · subst hy
      rw [hthere] at h₁ h₂
      split at h₁
      · split at h₂
        · simp [*]
        · contradiction
      · contradiction
    · rw [hsame _ hy] at h₁ h₂
      exact h.alone h₁ h₂

end Joined
end

/-! ## Programs that are checked against a part -/

section
variable {Op : Type} {Res : Op → Type} {ε α σ ι Req L : Type}

/-- What a thread runs has been checked against what it has, and a thread that
runs nothing is at rest. -/
def Checked (LStep : Answers Res L) (LMay : Op → L → Prop) (Rest : L → Prop) :
    Option (Req × Program Res ε α) → L → Prop
  | none, own => Rest own
  | some (_, p), own => p.always LStep Program.alone LMay (fun _ => Rest) (fun _ => Rest) own

variable {code : Req → Program Res ε α} {R : ι → Answers Res σ} {LStep : Answers Res L}
  {LMay : Op → L → Prop} {Held : (ι → L) → σ → Prop} {Rest : L → Prop} [DecidableEq ι]
  {s : σ} {c : Pool Res ε α σ ι Req}

/-- The requests were checked one by one, each against what its own thread has.
Then the threads can be told apart in whatever they come to. -/
theorem Pool.checked (hstep : ∀ i parts s op answer t, Held parts s → LMay op (parts i) →
      R i op s answer t →
      ∃ own, LStep op (parts i) answer own ∧ Held (Function.update parts i own) t)
    (hs : ∃ parts, Held parts s ∧ ∀ i, Rest (parts i))
    (hc : ReflTransGen (Pool.Step code R) (.start s) c)
    (hcode : ∀ i r, .invoked i r ∈ c.history → ∀ own, Rest own →
      (code r).always LStep Program.alone LMay (fun _ => Rest) (fun _ => Rest) own) :
    ∃ parts, Held parts c.state ∧ ∀ i, Checked LStep LMay Rest (c.active i) (parts i) := by
  induction hc with
  | refl => exact hs
  | @tail c c' _ hmove ih =>
    obtain ⟨parts, hheld, hall⟩ := ih fun i r hmem => hcode i r <| by
      cases hmove with
      | invoke | respond => exact List.mem_cons_of_mem _ hmem
      | perform => exact hmem
    -- One thread has moved, and the others stand where they stood.
    have hmoved : ∀ {parts' : ι → L} {i x}, (∀ j, j ≠ i → parts' j = parts j) →
        Checked LStep LMay Rest x (parts' i) →
        ∀ j, Checked LStep LMay Rest (Function.update c.active i x j) (parts' j) := by
      intro parts' i x hothers hi j
      by_cases hj : j = i
      · subst hj
        rwa [Function.update_self]
      · rw [Function.update_of_ne hj, hothers j hj]
        exact hall j
    cases hmove with
    | invoke i r hidle =>
      have hrest := hall i
      rw [hidle] at hrest
      exact ⟨parts, hheld, hmoved (fun _ _ => rfl) (hcode i r List.mem_cons_self _ hrest)⟩
    | @perform i _ r op next answer t hcall hanswer =>
      have hi := hall i
      rw [hcall] at hi
      obtain ⟨hmay, hnext⟩ := hi _ .refl
      obtain ⟨own, hown, hheld'⟩ := hstep i parts _ op answer t hheld hmay hanswer
      refine ⟨_, hheld', hmoved (fun j hj => Function.update_of_ne hj ..) ?_⟩
      rw [Function.update_self]
      exact hnext answer own hown
    | @respond i _ r p result hcall hresult =>
      have hi := hall i
      rw [hcall] at hi
      refine ⟨parts, hheld, hmoved (fun _ _ => rfl) ?_⟩
      cases p with
      | done value => exact hi _ .refl
      | raise error => exact hi _ .refl
      | call op next => contradiction

variable {parts : ι → L} (hall : ∀ i, Checked LStep LMay Rest (c.active i) (parts i))
include hall

omit [DecidableEq ι] in
theorem Checked.may {i : ι} {op : Op} (hnext : c.next i = some op) : LMay op (parts i) := by
  obtain ⟨r, k, hi⟩ := Pool.next_eq_some hnext
  have hchecked := hall i
  rw [hi] at hchecked
  exact (hchecked _ .refl).1

omit [DecidableEq ι] in
theorem Checked.rest {i : ι} (hidle : c.active i = none) : Rest (parts i) := by
  have hchecked := hall i
  rwa [hidle] at hchecked

end
end Effects
