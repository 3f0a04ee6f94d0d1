import ClientServerTcp.Library.Program

/-! `while` loops of programs. A loop may run forever, so its program takes the
number of rounds it is watched for; `none` says that it is still looping. -/
namespace Effects

variable {Op : Type} {Res : Op → Type} {ε β σ : Type}

def Program.whileLoop (cond : β → Bool) (body : β → Program Res ε β) :
    Nat → β → Program Res ε (Option β)
  | 0, locals => .done (if cond locals then none else some locals)
  | fuel + 1, locals =>
    if cond locals then (body locals).bind (whileLoop cond body fuel) else .done (some locals)

namespace Program

variable (h : Handler Res σ) (cond : β → Bool) (body : β → Program Res ε β)

theorem run_whileLoop_succ (fuel : Nat) (locals : β) (s : σ) (hc : cond locals = true) :
    (whileLoop cond body (fuel + 1) locals).run h s =
      chain ((body locals).run h s) fun locals s => (whileLoop cond body fuel locals).run h s := by
  simp only [whileLoop, hc, ↓reduceIte, run_bind]

theorem run_whileLoop_exit (fuel : Nat) (locals : β) (s : σ) (hc : cond locals = false) :
    (whileLoop cond body fuel locals).run h s = (.ok (some locals), s) := by
  cases fuel <;> simp [whileLoop, hc, run]

/-- The invariant rule. It needs no variant: a loop that is still running when
the watch ends satisfies the invariant. -/
theorem wp_whileLoop {I : β → σ → Prop} {E : ε → σ → Prop}
    (round : ∀ locals s, I locals s → cond locals = true → (body locals).wp h I E s)
    (fuel : Nat) (locals : β) (s : σ) (hI : I locals s) :
    (whileLoop cond body fuel locals).wp h
      (fun result s => match result with
        | none => ∃ locals, cond locals = true ∧ I locals s
        | some locals => cond locals = false ∧ I locals s) E s := by
  induction fuel generalizing locals s with
  | zero =>
    cases hc : cond locals
    · simp [whileLoop, hc, hI]
    · simpa [whileLoop, hc] using ⟨locals, hc, hI⟩
  | succ fuel ih =>
    cases hc : cond locals
    · simp [whileLoop, hc, hI]
    · simp only [whileLoop, hc, ↓reduceIte, wp_bind]
      exact wp_mono (round locals s hI hc) (fun locals s hI => ih locals s hI) (fun _ _ he => he)

end Program
end Effects
