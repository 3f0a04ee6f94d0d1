import ClientServerTcp.Library.Program

/-! Two programs that run on two states. They are coupled when from related
states they end alike, in related states. There is one rule for every way to
build a program. -/
namespace Effects
open Program

variable {Op : Type} {Res : Op → Type} {ε α β σ τ : Type}

namespace Program

theorem run_onExit (h : Handler Res σ) (p : Program Res ε α) (cleanup : Program Res ε Unit)
    (s : σ) : (p.onExit cleanup).run h s =
      chain (cleanup.run h (p.run h s).2) fun _ t => ((p.run h s).1, t) := by
  induction p generalizing s with
  | done value => exact run_bind h _ _ _
  | raise error => exact run_bind h _ _ _
  | call op next ih => exact ih _ _

theorem run_onError (h : Handler Res σ) (p : Program Res ε α) (cleanup : Program Res ε Unit)
    (s : σ) : (p.onError cleanup).run h s =
      match p.run h s with
      | (.ok value, t) => (.ok value, t)
      | (.error error, t) => chain (cleanup.run h t) fun _ t => (.error error, t) := by
  induction p generalizing s with
  | done value => rfl
  | raise error => exact run_bind h _ _ _
  | call op next ih => exact ih _ _

end Program

/-- With the same value, of which `V` holds, or with the same exception. -/
def EndAlike (R : σ → τ → Prop) (V : α → Prop) : Except ε α × σ → Except ε α × τ → Prop
  | (.ok value, s), (result, t) => result = .ok value ∧ V value ∧ R s t
  | (.error error, s), (result, t) => result = .error error ∧ R s t

theorem EndAlike.result {R : σ → τ → Prop} {V : α → Prop} {e : Except ε α × σ} {e' : Except ε α × τ}
    (h : EndAlike R V e e') : e'.1 = e.1 ∧ R e.2 e'.2 := by
  rcases e with ⟨_ | value, s⟩
  · exact h
  · exact ⟨h.1, h.2.2⟩

def Coupled (h : Handler Res σ) (h' : Handler Res τ) (R : σ → τ → Prop) (p q : Program Res ε α)
    (V : α → Prop) : Prop :=
  ∀ s t, R s t → EndAlike R V (p.run h s) (q.run h' t)

namespace Coupled

variable {h : Handler Res σ} {h' : Handler Res τ} {R : σ → τ → Prop} {V : α → Prop}
  {W : β → Prop} {p q : Program Res ε α}

theorem pure {value : α} (hV : V value) :
    Coupled h h' R (Pure.pure value : Program Res ε α) (Pure.pure value) V :=
  fun _ _ hst => ⟨rfl, hV, hst⟩

theorem raise (error : ε) : Coupled h h' R (.raise error : Program Res ε α) (.raise error) V :=
  fun _ _ hst => ⟨rfl, hst⟩

theorem bind {p q : Program Res ε β} {f g : β → Program Res ε α} (hp : Coupled h h' R p q W)
    (hf : ∀ value, W value → Coupled h h' R (f value) (g value) V) :
    Coupled h h' R (p >>= f) (q >>= g) V := by
  intro s t hst
  have hend := hp s t hst
  have hrun : (p >>= f).run h s = chain (p.run h s) fun value s => (f value).run h s :=
    run_bind h p f s
  have hrun' : (q >>= g).run h' t = chain (q.run h' t) fun value t => (g value).run h' t :=
    run_bind h' q g t
  rw [hrun, hrun']
  revert hend
  rcases p.run h s with ⟨error | value, s'⟩ <;> rcases q.run h' t with ⟨result, t'⟩
  · rintro ⟨rfl, hst'⟩
    exact ⟨rfl, hst'⟩
  · rintro ⟨rfl, hW, hst'⟩
    exact hf value hW s' t' hst'

theorem ite {c : Prop} [Decidable c] {p' q' : Program Res ε α} (hp : c → Coupled h h' R p q V)
    (hp' : ¬c → Coupled h h' R p' q' V) :
    Coupled h h' R (if c then p else p') (if c then q else q') V := by
  by_cases hc : c
  · rw [if_pos hc, if_pos hc]
    exact hp hc
  · rw [if_neg hc, if_neg hc]
    exact hp' hc

variable {cleanup cleanup' : Program Res ε Unit}

theorem onError (hp : Coupled h h' R p q V)
    (hcleanup : Coupled h h' R cleanup cleanup' fun _ => True) :
    Coupled h h' R (p.onError cleanup) (q.onError cleanup') V := by
  intro s t hst
  have hend := hp s t hst
  rw [run_onError, run_onError]
  revert hend
  rcases p.run h s with ⟨error | value, s'⟩ <;> rcases q.run h' t with ⟨result, t'⟩
  · rintro ⟨rfl, hst'⟩
    have hclean := hcleanup s' t' hst'
    change EndAlike R V (chain (cleanup.run h s') fun _ t => (.error error, t))
      (chain (cleanup'.run h' t') fun _ t => (.error error, t))
    revert hclean
    rcases cleanup.run h s' with ⟨_ | _, s''⟩ <;> rcases cleanup'.run h' t' with ⟨result, t''⟩
    · rintro ⟨rfl, hst''⟩
      exact ⟨rfl, hst''⟩
    · rintro ⟨rfl, -, hst''⟩
      exact ⟨rfl, hst''⟩
  · rintro ⟨rfl, hV, hst'⟩
    exact ⟨rfl, hV, hst'⟩

theorem onExit (hp : Coupled h h' R p q V)
    (hcleanup : Coupled h h' R cleanup cleanup' fun _ => True) :
    Coupled h h' R (p.onExit cleanup) (q.onExit cleanup') V := by
  intro s t hst
  have hend := hp s t hst
  obtain ⟨hresult, hst'⟩ := hend.result
  have hclean := hcleanup _ _ hst'
  rw [run_onExit, run_onExit, hresult]
  revert hclean
  rcases cleanup.run h (p.run h s).2 with ⟨_ | _, s''⟩ <;>
    rcases cleanup'.run h' (q.run h' t).2 with ⟨result, t''⟩
  · rintro ⟨rfl, hst''⟩
    exact ⟨rfl, hst''⟩
  · rintro ⟨rfl, -, hst''⟩
    revert hend
    rcases p.run h s with ⟨error | value, s'⟩
    · exact fun _ => ⟨rfl, hst''⟩
    · exact fun hend => ⟨rfl, hend.2.1, hst''⟩

/-- The two objects may differ. -/
theorem bracket {acquire acquire' : Program Res ε β} {release release' : β → Program Res ε Unit}
    {body body' : β → Program Res ε α} (hacquire : Coupled h h' R acquire acquire' W)
    (hbody : ∀ object, W object → Coupled h h' R (body object) (body' object) V)
    (hrelease : ∀ object, W object →
      Coupled h h' R (release object) (release' object) fun _ => True) :
    Coupled h h' R (.bracket acquire release body) (.bracket acquire' release' body') V :=
  hacquire.bind fun object hobject => (hbody object hobject).onExit (hrelease object hobject)

end Coupled
end Effects
