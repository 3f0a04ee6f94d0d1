import ClientServerTcp.Library.Interference

/-! Hoare triples for programs that run alone. The operations are relations, and
have assertions of their own. There is one rule for every way to build a program. -/
namespace Effects

open Program

variable {Op : Type} {Res : Op → Type} {ε α β σ : Type}

/-- Begun where `P` holds, the program meets `A` at every operation, and ends
normally in `Q` and exceptionally in `E`. -/
def Triple (R : Answers Res σ) (A : Op → σ → Prop) (P : σ → Prop) (p : Program Res ε α)
    (Q : α → σ → Prop) (E : ε → σ → Prop) : Prop :=
  ∀ s, P s → p.always R alone A Q E s

namespace Triple

variable {R : Answers Res σ} {A : Op → σ → Prop} {P : σ → Prop} {Q : α → σ → Prop}
  {E : ε → σ → Prop} {T : β → σ → Prop}

theorem conseq {P' : σ → Prop} {Q' : α → σ → Prop} {E' : ε → σ → Prop} {p : Program Res ε α}
    (hp : Triple R A P' p Q' E') (hP : ∀ s, P s → P' s) (hQ : ∀ value s, Q' value s → Q value s)
    (hE : ∀ error s, E' error s → E error s) : Triple R A P p Q E :=
  fun s hs => always_mono (hp s (hP s hs)) hQ hE

theorem pre {P' : σ → Prop} {p : Program Res ε α} (hp : Triple R A P' p Q E)
    (hP : ∀ s, P s → P' s) : Triple R A P p Q E := fun s hs => hp s (hP s hs)

theorem post {Q' : α → σ → Prop} {p : Program Res ε α} (hp : Triple R A P p Q' E)
    (hQ : ∀ value s, Q' value s → Q value s) : Triple R A P p Q E :=
  hp.conseq (fun _ h => h) hQ fun _ _ h => h

theorem assume {φ : Prop} {p : Program Res ε α} (hp : φ → Triple R A P p Q E) :
    Triple R A (fun s => φ ∧ P s) p Q E := fun s hs => hp hs.1 s hs.2

theorem at_each {p : Program Res ε α} (hp : ∀ s, P s → Triple R A (· = s) p Q E) :
    Triple R A P p Q E := fun s hs => hp s hs s rfl

theorem pure {value : α} (h : ∀ s, P s → Q value s) :
    Triple R A P (Pure.pure value : Program Res ε α) Q E := by
  intro s hs t hst
  rw [eq_of_alone hst]
  exact h s hs

theorem raise {error : ε} (h : ∀ s, P s → E error s) :
    Triple R A P (.raise error : Program Res ε α) Q E := by
  intro s hs t hst
  rw [eq_of_alone hst]
  exact h s hs

theorem perform {op : Op} {Q : Res op → σ → Prop} (hA : ∀ s, P s → A op s)
    (hQ : ∀ s answer t, P s → R op s answer t → Q answer t) :
    Triple R A P (Program.perform op : Program Res ε (Res op)) Q E := by
  intro s hs t hst
  rw [eq_of_alone hst]
  refine ⟨hA s hs, ?_⟩
  intro answer u hu v huv
  rw [eq_of_alone huv]
  exact hQ s answer u hs hu

theorem bind {p : Program Res ε β} {f : β → Program Res ε α} (hp : Triple R A P p T E)
    (hf : ∀ value, Triple R A (T value) (f value) Q E) : Triple R A P (p >>= f) Q E := by
  intro s hs
  exact always_bind (always_mono (hp s hs) (fun value t ht => hf value t ht) fun _ _ h => h)

theorem bind_at {p : Program Res ε β} {f : β → Program Res ε α} {t : β → σ} {φ : β → Prop}
    (hp : Triple R A P p (fun value s => s = t value ∧ φ value) E)
    (hf : ∀ value, φ value → Triple R A (· = t value) (f value) Q E) :
    Triple R A P (p >>= f) Q E :=
  hp.bind fun value s hs => hf value hs.2 s hs.1

theorem ite {c : Prop} [Decidable c] {p q : Program Res ε α} (hp : c → Triple R A P p Q E)
    (hq : ¬c → Triple R A P q Q E) : Triple R A P (if c then p else q) Q E := by
  split
  · exact hp ‹_›
  · exact hq ‹_›

variable {E' : ε → σ → Prop} {cleanup : Program Res ε Unit}

theorem onError {p : Program Res ε α} (hp : Triple R A P p Q E')
    (hcleanup : ∀ error, Triple R A (E' error) cleanup (fun _ => E error) E) :
    Triple R A P (p.onError cleanup) Q E :=
  fun s hs => always_onError (always_mono (hp s hs) (fun _ _ h => h) hcleanup)

theorem onExit {Q' : α → σ → Prop} {p : Program Res ε α} (hp : Triple R A P p Q' E')
    (hnormal : ∀ value, Triple R A (Q' value) cleanup (fun _ => Q value) E)
    (herror : ∀ error, Triple R A (E' error) cleanup (fun _ => E error) E) :
    Triple R A P (p.onExit cleanup) Q E :=
  fun s hs => always_onExit (always_mono (hp s hs) hnormal herror)

theorem bracket {acquire : Program Res ε β} {release : β → Program Res ε Unit}
    {body : β → Program Res ε α} {T' : β → α → σ → Prop} {E' : β → ε → σ → Prop}
    (hacquire : Triple R A P acquire T E)
    (hbody : ∀ object, Triple R A (T object) (body object) (T' object) (E' object))
    (hnormal : ∀ object value,
      Triple R A (T' object value) (release object) (fun _ => Q value) E)
    (herror : ∀ object error,
      Triple R A (E' object error) (release object) (fun _ => E error) E) :
    Triple R A P (.bracket acquire release body) Q E :=
  hacquire.bind fun object => (hbody object).onExit (hnormal object) (herror object)

theorem whileLoop {cond : β → Bool} {body : β → Program Res ε β} {I : β → σ → Prop}
    (hbody : ∀ locals, cond locals = true → Triple R A (I locals) (body locals) I E)
    (fuel : Nat) (locals : β) :
    Triple R A (I locals) (Program.whileLoop cond body fuel locals)
      (fun result s => match result with
        | none => ∃ locals, cond locals = true ∧ I locals s
        | some locals => cond locals = false ∧ I locals s) E :=
  fun s hs => always_whileLoop (fun _ h => h.elim)
    (fun locals s hs hcond => hbody locals hcond s hs) fuel locals s hs

end Triple

/-! ## Programs of few operations -/

namespace Program

def only (B : Op → Prop) : Program Res ε α → Prop
  | .done _ | .raise _ => True
  | .call op next => B op ∧ ∀ answer, (next answer).only B

variable {B : Op → Prop}

theorem only_bind {p : Program Res ε β} {f : β → Program Res ε α} (hp : p.only B)
    (hf : ∀ value, (f value).only B) : (p >>= f).only B := by
  induction p with
  | done value => exact hf value
  | raise error => trivial
  | call op next ih => exact ⟨hp.1, fun answer => ih answer (hp.2 answer)⟩

theorem only_ite {c : Prop} [Decidable c] {p q : Program Res ε α} (hp : p.only B)
    (hq : q.only B) : (if c then p else q).only B := by
  split
  · exact hp
  · exact hq

theorem only_onError {p : Program Res ε α} {cleanup : Program Res ε Unit} (hp : p.only B)
    (hcleanup : cleanup.only B) : (p.onError cleanup).only B := by
  induction p with
  | done value => trivial
  | raise error => exact only_bind hcleanup fun _ => trivial
  | call op next ih => exact ⟨hp.1, fun answer => ih answer (hp.2 answer)⟩

end Program

/-- A program is checked in a part of the states, and run in the whole. Its
operations keep what is said of the rest. -/
theorem Triple.lift {τ : Type} {R : Answers Res σ} {A : Op → σ → Prop} {P : σ → Prop}
    {Q : α → σ → Prop} {E : ε → σ → Prop} {R' : Answers Res τ} {A' : Op → τ → Prop}
    (view : τ → σ) {I : τ → Prop} {B : Op → Prop}
    (hstep : ∀ op s, B op → I s → A op (view s) →
      A' op s ∧ ∀ answer t, R' op s answer t → R op (view s) answer (view t) ∧ I t)
    {p : Program Res ε α} (hp : Triple R A P p Q E) (honly : p.only B) :
    Triple R' A' (fun s => P (view s) ∧ I s) p (fun value s => Q value (view s) ∧ I s)
      (fun error s => E error (view s) ∧ I s) := by
  rintro s ⟨hs, hI⟩
  have hrun := hp _ hs
  clear hp hs
  induction p generalizing s with
  | done value =>
    intro t hst
    rw [eq_of_alone hst]
    exact ⟨hrun _ .refl, hI⟩
  | raise error =>
    intro t hst
    rw [eq_of_alone hst]
    exact ⟨hrun _ .refl, hI⟩
  | call op next ih =>
    intro t hst
    rw [eq_of_alone hst]
    obtain ⟨hA, hnext⟩ := hrun _ .refl
    obtain ⟨hA', hanswer⟩ := hstep op s honly.1 hI hA
    refine ⟨hA', ?_⟩
    intro answer u hu
    obtain ⟨hR, hI'⟩ := hanswer answer u hu
    exact ih answer (honly.2 answer) u hI' (hnext answer _ hR)

end Effects
