import ClientServerTcp.Library.Parallel

/-! One program takes a value over: it reads the value at one operation and
resets it at a later one. Another program changes the value meanwhile. What the
first one leaves behind depends only on where the change falls among the two. -/
namespace Effects
open Relation

variable {Op μ : Type} {Res : Op → Type} {ε α β σ τ : Type}

namespace Program

def All (P : Op → Prop) : Program Res ε α → Prop
  | .done _ | .raise _ => True
  | .call op next => P op ∧ ∀ answer, (next answer).All P

section
variable (h : Handler Res σ) (I : σ → Prop) (f : σ → σ)

/-- The operation keeps `I` and does not see whether the state was changed by `f`. -/
def Blind (op : Op) (s : σ) : Prop := I (h op s).2 ∧ h op (f s) = ((h op s).1, f (h op s).2)

/-- The program never sees a change by `f`. -/
def Ignores : Program Res ε α → Prop
  | .done _ | .raise _ => True
  | .call op next => ∀ s, I s → Blind h I f op s ∧ (next (h op s).1).Ignores

/-- The program undoes a change by `f` when it performs `reset`. -/
def Overwrites (reset : Op) : Program Res ε α → Prop
  | .done _ | .raise _ => False
  | .call op next =>
    (op = reset ∧ ∀ s, I s → I (h op s).2 ∧ h op (f s) = h op s ∧
      (next (h op s).1).Ignores h I f) ∨
    (op ≠ reset ∧ ∀ s, I s → Blind h I f op s ∧ (next (h op s).1).Overwrites reset)

/-- The program sees a change by `f` when it performs `load`, and undoes it later
when it performs `reset`. -/
def TakesOver (load reset : Op) : Program Res ε α → Prop
  | .done _ | .raise _ => False
  | .call op next => op ≠ reset ∧
    ((op = load ∧ ∀ s, I s → I (h op s).2 ∧ (next (h op s).1).Overwrites h I f reset) ∨
      (op ≠ load ∧ ∀ s, I s → Blind h I f op s ∧ (next (h op s).1).TakesOver load reset))

variable {h I f}

theorem Ignores.run {p : Program Res ε α} (hp : p.Ignores h I f) {s : σ} (hs : I s) :
    p.run h (f s) = ((p.run h s).1, f (p.run h s).2) := by
  induction p generalizing s with
  | done value => rfl
  | raise error => rfl
  | call op next ih =>
    obtain ⟨⟨hkeeps, hblind⟩, hnext⟩ := hp s hs
    simp only [Program.run, hblind]
    exact ih _ hnext hkeeps

theorem Overwrites.run {reset : Op} {p : Program Res ε α} (hp : p.Overwrites h I f reset) {s : σ}
    (hs : I s) : p.run h (f s) = p.run h s := by
  induction p generalizing s with
  | done value => exact hp.elim
  | raise error => exact hp.elim
  | call op next ih =>
    rcases hp with ⟨_, hp⟩ | ⟨_, hp⟩
    · simp only [Program.run, (hp s hs).2.1]
    · obtain ⟨⟨hkeeps, hblind⟩, hnext⟩ := hp s hs
      simp only [Program.run, hblind]
      exact ih _ hnext hkeeps

end
end Program

/-! ## The race -/

def Precedes {γ : Type} (a b : γ) (log : List γ) : Prop := [b, a].Sublist log

instance {γ : Type} [DecidableEq γ] (a b : γ) (log : List γ) : Decidable (Precedes a b log) :=
  inferInstanceAs (Decidable ([b, a].Sublist log))

theorem precedes_cons {γ : Type} {a b e : γ} {log : List γ} :
    Precedes a b (e :: log) ↔ Precedes a b log ∨ (e = b ∧ a ∈ log) := by
  unfold Precedes
  rw [List.sublist_cons_iff]
  constructor
  · rintro (h | ⟨r, hr, h⟩)
    · exact .inl h
    · simp only [List.cons.injEq] at hr
      obtain ⟨rfl, rfl⟩ := hr
      exact .inr ⟨rfl, List.singleton_sublist.mp h⟩
  · rintro (h | ⟨rfl, h⟩)
    · exact .inl h
    · exact .inr ⟨_, rfl, List.singleton_sublist.mpr h⟩

theorem not_precedes {γ : Type} {a b : γ} {log : List γ} (h : b ∉ log) : ¬Precedes a b log :=
  fun hprecedes => h (hprecedes.subset List.mem_cons_self)

/-- The right program takes a value over while the left program changes it once,
at its operation `mark`. The right program works on a part of the state. -/
structure Race (Res : Op → Type) (σ τ : Type) where
  handler : Program.Handler Res σ
  memory : Program.Handler Res τ
  view : σ → τ
  visible : Op → Prop
  sees : ∀ op s, visible op → (handler op s).1 = (memory op (view s)).1 ∧
    view (handler op s).2 = (memory op (view s)).2
  inv : τ → Prop
  change : τ → τ
  load : Op
  reset : Op
  mark : Op

namespace Race

variable [DecidableEq μ] (r : Race Res σ τ) (locking : Locking Op μ)

def outcome (t : Beside Res ε β σ μ) : τ := (t.right.run r.memory (r.view t.state)).2

/-- How far the right program is. -/
inductive Stage (q₀ : Program Res ε β) (m₀ : τ) (t : Beside Res ε β σ μ) : Prop
  | before (h : t.right.TakesOver r.memory r.inv r.change r.load r.reset)
    (hchanged : (t.right.run r.memory (r.change (r.view t.state))).2 =
      (q₀.run r.memory (r.change m₀)).2)
    (hload : (.right, r.load) ∉ t.log) (hreset : (.right, r.reset) ∉ t.log)
  | between (h : t.right.Overwrites r.memory r.inv r.change r.reset)
    (hload : (.right, r.load) ∈ t.log) (hreset : (.right, r.reset) ∉ t.log)
  | past (h : t.right.Ignores r.memory r.inv r.change)
    (hload : (.right, r.load) ∈ t.log) (hreset : (.right, r.reset) ∈ t.log)

/-- The left program has not made its change. -/
structure Unmarked (q₀ : Program Res ε β) (m₀ : τ) (t : Beside Res ε β σ μ) : Prop where
  visible : t.right.All r.visible
  inv : r.inv (r.view t.state)
  outcome : r.outcome t = (q₀.run r.memory m₀).2
  unmarked : (.left, r.mark) ∉ t.log
  stage : r.Stage q₀ m₀ t

/-- The left program has made its change. The right program read what was
changed, read the value from before and reset it, or had reset it already. -/
structure Marked (q₀ : Program Res ε β) (m₀ : τ) (t : Beside Res ε β σ μ) : Prop where
  visible : t.right.All r.visible
  early : ¬Precedes (.right, r.load) (.left, r.mark) t.log →
    r.outcome t = (q₀.run r.memory (r.change m₀)).2
  between : Precedes (.right, r.load) (.left, r.mark) t.log →
    ¬Precedes (.right, r.reset) (.left, r.mark) t.log → r.outcome t = (q₀.run r.memory m₀).2
  late : Precedes (.right, r.load) (.left, r.mark) t.log →
    Precedes (.right, r.reset) (.left, r.mark) t.log →
    r.outcome t = r.change (q₀.run r.memory m₀).2

variable {r locking} {q₀ : Program Res ε β} {m₀ : τ} {t t' : Beside Res ε β σ μ}

omit [DecidableEq μ] in
theorem unmarked_start (hvisible : q₀.All r.visible) {s : σ} (hinv : r.inv (r.view s))
    (htakes : q₀.TakesOver r.memory r.inv r.change r.load r.reset) :
    r.Unmarked q₀ (r.view s) (.start q₀ s : Beside Res ε β σ μ) where
  visible := hvisible
  inv := hinv
  outcome := rfl
  unmarked := List.not_mem_nil
  stage := .before htakes rfl List.not_mem_nil List.not_mem_nil

private theorem rightStep_seen (hvisible : t.right.All r.visible)
    (hstep : Beside.RightStep r.handler locking t t') :
    ∃ op next, t.right = .call op next ∧ t'.right = next (r.memory op (r.view t.state)).1 ∧
      r.view t'.state = (r.memory op (r.view t.state)).2 ∧ t'.log = (.right, op) :: t.log ∧
      t'.right.All r.visible ∧ r.outcome t' = r.outcome t := by
  cases hstep with
  | mk op next t hright hfree =>
    rw [hright] at hvisible
    obtain ⟨hanswer, hview⟩ := r.sees op t.state hvisible.1
    refine ⟨op, next, hright, by rw [← hanswer], hview, rfl, hvisible.2 _, ?_⟩
    have hstate : r.view (t.after r.handler locking .right op).state =
        (r.memory op (r.view t.state)).2 := hview
    simp only [Race.outcome, hright, Program.run, hanswer]
    rw [hstate]

theorem Unmarked.right (hun : r.Unmarked q₀ m₀ t)
    (hstep : Beside.RightStep r.handler locking t t') : r.Unmarked q₀ m₀ t' := by
  obtain ⟨op, next, hright, hright', hview, hlog, hvisible, houtcome⟩ :=
    rightStep_seen hun.visible hstep
  have hunmarked : (.left, r.mark) ∉ t'.log := by
    rw [hlog]
    simpa using hun.unmarked
  suffices r.inv (r.view t'.state) ∧ r.Stage q₀ m₀ t' from
    ⟨hvisible, this.1, houtcome.trans hun.outcome, hunmarked, this.2⟩
  cases hun.stage with
  | before h hchanged hload hreset =>
    rw [hright] at h hchanged
    obtain ⟨hne, ⟨rfl, h⟩ | ⟨hneload, h⟩⟩ := h
    · obtain ⟨hinv, hnext⟩ := h _ hun.inv
      rw [hview]
      refine ⟨hinv, .between (hright' ▸ hnext) ?_ ?_⟩
      · simp [hlog]
      · rw [hlog]
        simpa [Ne.symm hne] using hreset
    · obtain ⟨⟨hinv, hblind⟩, hnext⟩ := h _ hun.inv
      rw [hview]
      refine ⟨hinv, .before (hright' ▸ hnext) ?_ ?_ ?_⟩
      · rw [hright', hview, ← hchanged]
        simp only [Program.run, hblind]
      · rw [hlog]
        simpa [Ne.symm hneload] using hload
      · rw [hlog]
        simpa [Ne.symm hne] using hreset
  | between h hload hreset =>
    rw [hright] at h
    rcases h with ⟨rfl, h⟩ | ⟨hne, h⟩
    · obtain ⟨hinv, _, hnext⟩ := h _ hun.inv
      rw [hview]
      exact ⟨hinv, .past (hright' ▸ hnext) (by simp [hlog, hload]) (by simp [hlog])⟩
    · obtain ⟨⟨hinv, _⟩, hnext⟩ := h _ hun.inv
      rw [hview]
      refine ⟨hinv, .between (hright' ▸ hnext) (by simp [hlog, hload]) ?_⟩
      rw [hlog]
      simpa [Ne.symm hne] using hreset
  | past h hload hreset =>
    rw [hright] at h
    obtain ⟨⟨hinv, _⟩, hnext⟩ := h _ hun.inv
    rw [hview]
    exact ⟨hinv, .past (hright' ▸ hnext) (by simp [hlog, hload]) (by simp [hlog, hreset])⟩

omit [DecidableEq μ] in
private theorem Marked.next (hmarked : r.Marked q₀ m₀ t) {side : Side} {op : Op}
    (hvisible : t'.right.All r.visible) (houtcome : r.outcome t' = r.outcome t)
    (hlog : t'.log = (side, op) :: t.log) (hne : (side, op) ≠ (.left, r.mark)) :
    r.Marked q₀ m₀ t' := by
  have hprecedes : ∀ a, Precedes a (.left, r.mark) t'.log ↔ Precedes a (.left, r.mark) t.log := by
    intro a
    rw [hlog, precedes_cons]
    simp [hne]
  refine ⟨hvisible, ?_, ?_, ?_⟩
  · rw [hprecedes, houtcome]
    exact hmarked.early
  · rw [hprecedes, hprecedes, houtcome]
    exact hmarked.between
  · rw [hprecedes, hprecedes, houtcome]
    exact hmarked.late

theorem Marked.right (hmarked : r.Marked q₀ m₀ t)
    (hstep : Beside.RightStep r.handler locking t t') : r.Marked q₀ m₀ t' := by
  obtain ⟨op, _, _, _, _, hlog, hvisible, houtcome⟩ := rightStep_seen hmarked.visible hstep
  exact hmarked.next hvisible houtcome hlog (by simp)

private theorem outcome_after {op : Op}
    (hview : r.view (r.handler op t.state).2 = r.view t.state) :
    r.outcome (t.after r.handler locking .left op) = r.outcome t := by
  have hstate : r.view (t.after r.handler locking .left op).state = r.view t.state := hview
  rw [Race.outcome, hstate]
  rfl

theorem Unmarked.left (hun : r.Unmarked q₀ m₀ t) {op : Op} (hne : op ≠ r.mark)
    (hview : r.view (r.handler op t.state).2 = r.view t.state) :
    r.Unmarked q₀ m₀ (t.after r.handler locking .left op) := by
  have hstate : r.view (t.after r.handler locking .left op).state = r.view t.state := hview
  have hmem : ∀ op', (.right, op') ∈ (t.after r.handler locking .left op).log ↔
      (.right, op') ∈ t.log := by simp [Beside.after]
  refine ⟨hun.visible, hstate ▸ hun.inv, (outcome_after hview).trans hun.outcome, ?_, ?_⟩
  · simpa [Beside.after, Ne.symm hne] using hun.unmarked
  · cases hun.stage with
    | before h hchanged hload hreset =>
      exact .before h (hstate ▸ hchanged) (mt (hmem _).mp hload) (mt (hmem _).mp hreset)
    | between h hload hreset =>
      exact .between h ((hmem _).mpr hload) (mt (hmem _).mp hreset)
    | past h hload hreset => exact .past h ((hmem _).mpr hload) ((hmem _).mpr hreset)

theorem Marked.left (hmarked : r.Marked q₀ m₀ t) {op : Op} (hne : op ≠ r.mark)
    (hview : r.view (r.handler op t.state).2 = r.view t.state) :
    r.Marked q₀ m₀ (t.after r.handler locking .left op) := by
  have hvisible : (t.after r.handler locking .left op).right.All r.visible := hmarked.visible
  exact hmarked.next hvisible (outcome_after hview) rfl (by simpa using hne)

theorem Unmarked.mark (hun : r.Unmarked q₀ m₀ t)
    (hview : r.view (r.handler r.mark t.state).2 = r.change (r.view t.state)) :
    r.Marked q₀ m₀ (t.after r.handler locking .left r.mark) := by
  have hprecedes : ∀ a, Precedes a (.left, r.mark) (t.after r.handler locking .left r.mark).log ↔
      a ∈ t.log := by
    intro a
    rw [Beside.after, precedes_cons]
    simp [not_precedes hun.unmarked]
  have houtcome : r.outcome (t.after r.handler locking .left r.mark) =
      (t.right.run r.memory (r.change (r.view t.state))).2 := by
    rw [← hview]
    rfl
  refine ⟨hun.visible, ?_, ?_, ?_⟩
  · intro hearly
    rw [hprecedes] at hearly
    cases hun.stage with
    | before h hchanged hload hreset => rw [houtcome, hchanged]
    | between h hload hreset => exact absurd hload hearly
    | past h hload hreset => exact absurd hload hearly
  · intro hbetween hlate
    rw [hprecedes] at hbetween hlate
    cases hun.stage with
    | before h hchanged hload hreset => exact absurd hbetween hload
    | between h hload hreset =>
      rw [houtcome, h.run hun.inv]
      exact hun.outcome
    | past h hload hreset => exact absurd hreset hlate
  · intro _ hlate
    rw [hprecedes] at hlate
    cases hun.stage with
    | before h hchanged hload hreset => exact absurd hlate hreset
    | between h hload hreset => exact absurd hlate hreset
    | past h hload hreset =>
      rw [houtcome, h.run hun.inv, ← hun.outcome]
      rfl

end Race
end Effects
