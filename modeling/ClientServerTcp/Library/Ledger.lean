import Mathlib.Logic.Equiv.Basic

/-! Exclusive ownership of resources. Holders each hold at most one resource
together with a note of its state; the ledger is exact when the notes are right,
nothing is held twice, and everything that exists is held. -/
namespace Ownership

variable {H R S : Type}

structure Exact (holds : H → Option (R × S)) (state : R → Option S) : Prop where
  noted : ∀ {h r x}, holds h = some (r, x) → state r = some x
  held : ∀ {r x}, state r = some x → ∃ h, holds h = some (r, x)
  alone : ∀ {h h' r x x'}, holds h = some (r, x) → holds h' = some (r, x') → h = h'

namespace Exact

variable {holds : H → Option (R × S)} {state : R → Option S}

theorem empty : Exact (fun _ : H => none) (fun _ : R => (none : Option S)) where
  noted := by simp
  held := by simp
  alone := by simp

theorem exists_iff (exact : Exact holds state) (r : R) :
    (state r).isSome ↔ ∃ h x, holds h = some (r, x) := by
  constructor
  · intro hr
    obtain ⟨x, hx⟩ := Option.isSome_iff_exists.mp hr
    obtain ⟨h, hh⟩ := exact.held hx
    exact ⟨h, x, hh⟩
  · rintro ⟨h, x, hh⟩
    simp [exact.noted hh]

/-- Holders may be renamed: a swap, or a move to a holder of nothing. -/
theorem rename (exact : Exact holds state) (e : H ≃ H) : Exact (holds ∘ e) state where
  noted := fun hh => exact.noted hh
  held := by
    intro r x hx
    obtain ⟨h, hh⟩ := exact.held hx
    exact ⟨e.symm h, by simpa using hh⟩
  alone := fun hh hh' => e.injective (exact.alone hh hh')

variable [DecidableEq H]

theorem move (exact : Exact holds state) (h h' : H) (hfree : h' ≠ h → holds h' = none) :
    Exact (Function.update (Function.update holds h none) h' (holds h)) state := by
  have hswap : Function.update (Function.update holds h none) h' (holds h) =
      holds ∘ Equiv.swap h h' := by
    funext i
    by_cases hi' : i = h'
    · simp [hi']
    · by_cases hi : i = h
      · have hne : h' ≠ h := fun heq => hi' (hi.trans heq.symm)
        simp [hi, hne.symm, hfree hne]
      · simp [hi, hi', Equiv.swap_apply_of_ne_of_ne hi hi']
  rw [hswap]
  exact exact.rename _

variable [DecidableEq R]

theorem acquire (exact : Exact holds state) {h : H} {r : R} (x : S)
    (hfree : holds h = none) (hnew : state r = none) :
    Exact (Function.update holds h (some (r, x))) (Function.update state r (some x)) where
  noted := by
    intro h' r' x' hh
    by_cases heq : h' = h
    · subst heq
      simp only [Function.update_self, Option.some.injEq, Prod.mk.injEq] at hh
      obtain ⟨rfl, rfl⟩ := hh
      exact Function.update_self ..
    · rw [Function.update_of_ne heq] at hh
      have hne : r' ≠ r := by
        rintro rfl
        simp [exact.noted hh] at hnew
      rw [Function.update_of_ne hne]
      exact exact.noted hh
  held := by
    intro r' x' hx
    by_cases heq : r' = r
    · subst heq
      simp only [Function.update_self, Option.some.injEq] at hx
      exact ⟨h, by simp [hx]⟩
    · rw [Function.update_of_ne heq] at hx
      obtain ⟨h', hh⟩ := exact.held hx
      have hne : h' ≠ h := by
        rintro rfl
        simp [hfree] at hh
      exact ⟨h', by rw [Function.update_of_ne hne, hh]⟩
  alone := by
    have other : ∀ {h' x'}, h' ≠ h → holds h' = some (r, x') → False := by
      intro h' x' _ hh
      simp [exact.noted hh] at hnew
    intro h₁ h₂ r' x₁ x₂ hh₁ hh₂
    by_cases heq₁ : h₁ = h <;> by_cases heq₂ : h₂ = h
    · rw [heq₁, heq₂]
    · subst heq₁
      simp only [Function.update_self, Option.some.injEq, Prod.mk.injEq] at hh₁
      rw [Function.update_of_ne heq₂, ← hh₁.1] at hh₂
      exact (other heq₂ hh₂).elim
    · subst heq₂
      simp only [Function.update_self, Option.some.injEq, Prod.mk.injEq] at hh₂
      rw [Function.update_of_ne heq₁, ← hh₂.1] at hh₁
      exact (other heq₁ hh₁).elim
    · rw [Function.update_of_ne heq₁] at hh₁
      rw [Function.update_of_ne heq₂] at hh₂
      exact exact.alone hh₁ hh₂

theorem release (exact : Exact holds state) {h : H} {r : R} {x : S} (hh : holds h = some (r, x)) :
    Exact (Function.update holds h none) (Function.update state r none) where
  noted := by
    intro h' r' x' hh'
    have hne : h' ≠ h := by
      rintro rfl
      simp at hh'
    rw [Function.update_of_ne hne] at hh'
    have hr : r' ≠ r := by
      rintro rfl
      exact hne (exact.alone hh' hh)
    rw [Function.update_of_ne hr]
    exact exact.noted hh'
  held := by
    intro r' x' hx
    have hr : r' ≠ r := by
      rintro rfl
      simp at hx
    rw [Function.update_of_ne hr] at hx
    obtain ⟨h', hh'⟩ := exact.held hx
    have hne : h' ≠ h := by
      rintro rfl
      exact hr (by simp_all)
    exact ⟨h', by rw [Function.update_of_ne hne, hh']⟩
  alone := by
    intro h₁ h₂ r' x₁ x₂ hh₁ hh₂
    have hne₁ : h₁ ≠ h := by
      rintro rfl
      simp at hh₁
    have hne₂ : h₂ ≠ h := by
      rintro rfl
      simp at hh₂
    rw [Function.update_of_ne hne₁] at hh₁
    rw [Function.update_of_ne hne₂] at hh₂
    exact exact.alone hh₁ hh₂

theorem modify (exact : Exact holds state) {h : H} {r : R} {x : S} (y : S)
    (hh : holds h = some (r, x)) :
    Exact (Function.update holds h (some (r, y))) (Function.update state r (some y)) := by
  have released := exact.release hh
  have reacquired := released.acquire (h := h) (r := r) y (Function.update_self ..)
    (Function.update_self ..)
  simpa only [Function.update_idem] using reacquired

end Exact
end Ownership
