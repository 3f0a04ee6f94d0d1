import ClientServerTcp.Library.Interference
import Mathlib.Logic.Function.Basic

/-! Requests that any number of threads make of shared objects. When every
request takes effect at one point between its invocation and its response, the
effects in their order are a sequential run with the same responses. -/
namespace Effects

open Relation

variable {Op : Type} {Res : Op → Type} {ε α σ τ ι Req : Type}

/-- What an observer sees of the threads. -/
inductive Moment (ι Req ε α : Type) where
  | invoked (i : ι) (r : Req)
  | responded (i : ι) (r : Req) (result : Except ε α)

def Program.result : Program Res ε α → Option (Except ε α)
  | .done value => some (.ok value)
  | .raise error => some (.error error)
  | .call .. => none

/-- The threads, what they share, and what was seen of them, the newest moment
first. An idle thread runs nothing. -/
structure Pool (Res : Op → Type) (ε α σ ι Req : Type) where
  state : σ
  active : ι → Option (Req × Program Res ε α)
  history : List (Moment ι Req ε α)

namespace Pool

def start (s : σ) : Pool Res ε α σ ι Req := ⟨s, fun _ => none, []⟩

def next (c : Pool Res ε α σ ι Req) (i : ι) : Option Op :=
  match c.active i with
  | some (_, .call op _) => some op
  | _ => none

theorem next_of_active {c : Pool Res ε α σ ι Req} {i : ι} {r : Req} {op : Op}
    {k : Res op → Program Res ε α} (h : c.active i = some (r, .call op k)) :
    c.next i = some op := by
  simp only [next, h]

theorem next_eq_some {c : Pool Res ε α σ ι Req} {i : ι} {op : Op} (h : c.next i = some op) :
    ∃ r k, c.active i = some (r, .call op k) := by
  unfold next at h
  split at h
  · rename_i r op' k hactive
    obtain rfl := Option.some.inj h
    exact ⟨r, k, hactive⟩
  · contradiction

variable [DecidableEq ι]

inductive Step (code : Req → Program Res ε α) (R : ι → Answers Res σ) :
    Pool Res ε α σ ι Req → Pool Res ε α σ ι Req → Prop
  | invoke (i : ι) (r : Req) {c : Pool Res ε α σ ι Req} (h : c.active i = none) :
    Step code R c { c with
      active := Function.update c.active i (some (r, code r))
      history := .invoked i r :: c.history }
  | perform (i : ι) {c : Pool Res ε α σ ι Req} {r : Req} {op : Op}
    {next : Res op → Program Res ε α} {answer : Res op} {t : σ}
    (h : c.active i = some (r, .call op next)) (hanswer : R i op c.state answer t) :
    Step code R c { c with
      state := t
      active := Function.update c.active i (some (r, next answer)) }
  | respond (i : ι) {c : Pool Res ε α σ ι Req} {r : Req} {p : Program Res ε α}
    {result : Except ε α} (h : c.active i = some (r, p)) (hresult : p.result = some result) :
    Step code R c { c with
      active := Function.update c.active i none
      history := .responded i r result :: c.history }

/-- What a schedule says next. -/
inductive Choice (ι Req : Type) where
  | invoke (i : ι) (r : Req)
  | move (i : ι)

variable (code : Req → Program Res ε α) (exec : ι → (op : Op) → σ → Option (Res op × σ))

def advance (c : Pool Res ε α σ ι Req) : Choice ι Req → Option (Pool Res ε α σ ι Req)
  | .invoke i r =>
    if (c.active i).isNone then
      some { c with
        active := Function.update c.active i (some (r, code r))
        history := .invoked i r :: c.history }
    else
      none
  | .move i =>
    match c.active i with
    | none => none
    | some (r, .call op next) => (exec i op c.state).map fun step => { c with
        state := step.2
        active := Function.update c.active i (some (r, next step.1)) }
    | some (r, .done value) => some { c with
        active := Function.update c.active i none
        history := .responded i r (.ok value) :: c.history }
    | some (r, .raise error) => some { c with
        active := Function.update c.active i none
        history := .responded i r (.error error) :: c.history }

def follow (c : Pool Res ε α σ ι Req) (schedule : List (Choice ι Req)) :
    Option (Pool Res ε α σ ι Req) :=
  schedule.foldlM (fun c choice => c.advance code exec choice) c

variable {code exec} {R : ι → Answers Res σ}
  (hexec : ∀ i op s answer t, exec i op s = some (answer, t) → R i op s answer t)
include hexec

theorem step_of_advance {c c' : Pool Res ε α σ ι Req} {choice : Choice ι Req}
    (h : c.advance code exec choice = some c') : Step code R c c' := by
  cases choice with
  | invoke i r =>
    simp only [advance] at h
    split at h
    · obtain rfl := Option.some.inj h
      exact .invoke i r (Option.isNone_iff_eq_none.mp ‹_›)
    · contradiction
  | move i =>
    simp only [advance] at h
    split at h
    · contradiction
    · rename_i r op next hactive
      obtain ⟨⟨answer, t⟩, hanswer, rfl⟩ := Option.map_eq_some_iff.mp h
      exact .perform i hactive (hexec i op _ answer t hanswer)
    · obtain rfl := Option.some.inj h
      exact .respond i ‹_› rfl
    · obtain rfl := Option.some.inj h
      exact .respond i ‹_› rfl

theorem reaches_of_follow {c c' : Pool Res ε α σ ι Req} (schedule : List (Choice ι Req))
    (h : c.follow code exec schedule = some c') : ReflTransGen (Step code R) c c' := by
  induction schedule generalizing c with
  | nil =>
    obtain rfl := Option.some.inj h
    exact .refl
  | cons choice schedule ih =>
    obtain ⟨d, hd, hrest⟩ := Option.bind_eq_some_iff.mp h
    exact .head (step_of_advance hexec hd) (ih hrest)

omit hexec in
private theorem invoked_of_advance {c c' : Pool Res ε α σ ι Req} {choice : Choice ι Req}
    (h : c.advance code exec choice = some c') {i : ι} {r : Req}
    (hmem : .invoked i r ∈ c'.history) : .invoked i r ∈ c.history ∨ choice = .invoke i r := by
  cases choice with
  | invoke j r' =>
    simp only [advance] at h
    split at h
    · obtain rfl := Option.some.inj h
      rcases List.mem_cons.mp hmem with heq | hmem
      · obtain ⟨rfl, rfl⟩ := Moment.invoked.inj heq
        exact .inr rfl
      · exact .inl hmem
    · contradiction
  | move j =>
    simp only [advance] at h
    split at h
    · contradiction
    · obtain ⟨_, _, rfl⟩ := Option.map_eq_some_iff.mp h
      exact .inl hmem
    · obtain rfl := Option.some.inj h
      exact .inl (by simpa using hmem)
    · obtain rfl := Option.some.inj h
      exact .inl (by simpa using hmem)

omit hexec in
theorem invoked_of_follow {c c' : Pool Res ε α σ ι Req} {schedule : List (Choice ι Req)}
    (h : c.follow code exec schedule = some c') {i : ι} {r : Req}
    (hmem : .invoked i r ∈ c'.history) : .invoked i r ∈ c.history ∨ .invoke i r ∈ schedule := by
  induction schedule generalizing c with
  | nil =>
    obtain rfl := Option.some.inj h
    exact .inl hmem
  | cons choice schedule ih =>
    obtain ⟨d, hd, hrest⟩ := Option.bind_eq_some_iff.mp h
    rcases ih hrest with hthere | hlater
    · rcases invoked_of_advance hd hthere with hbefore | rfl
      · exact .inl hbefore
      · exact .inr List.mem_cons_self
    · exact .inr (List.mem_cons_of_mem _ hlater)

end Pool

/-! ## Linearizable histories -/

/-- A moment of a history, or a point at which a request takes effect. -/
inductive Mark (ι Req ε α : Type) where
  | seen (moment : Moment ι Req ε α)
  | effect (i : ι) (r : Req) (result : Except ε α)

namespace Mark

def moment : Mark ι Req ε α → Option (Moment ι Req ε α)
  | .seen moment => some moment
  | .effect .. => none

def thread : Mark ι Req ε α → ι
  | .seen (.invoked i _) | .seen (.responded i ..) | .effect i .. => i

@[simp] theorem moments_seen (moment : Moment ι Req ε α) (marks : List (Mark ι Req ε α)) :
    (.seen moment :: marks).filterMap Mark.moment = moment :: marks.filterMap Mark.moment := rfl

@[simp] theorem moments_effect (i : ι) (r : Req) (result : Except ε α)
    (marks : List (Mark ι Req ε α)) :
    (.effect i r result :: marks).filterMap Mark.moment = marks.filterMap Mark.moment := rfl

end Mark

/-- The effects are a run of the specification from one state to another. -/
inductive Legal (Spec : Req → Except ε α → τ → τ → Prop) (a : τ) :
    List (Mark ι Req ε α) → τ → Prop
  | nil : Legal Spec a [] a
  | seen (moment : Moment ι Req ε α) {marks : List (Mark ι Req ε α)} {b : τ}
    (h : Legal Spec a marks b) : Legal Spec a (.seen moment :: marks) b
  | effect (i : ι) {r : Req} {result : Except ε α} {marks : List (Mark ι Req ε α)} {b c : τ}
    (h : Legal Spec a marks b) (hspec : Spec r result b c) :
    Legal Spec a (.effect i r result :: marks) c

/-- Where a thread stands. -/
inductive Phase (Req ε α : Type) where
  | idle
  | pending (r : Req)
  | settled (r : Req) (result : Except ε α)

/-- The requests of a thread, one after the other: each takes effect once, after
its invocation and before its response, with the result it responds. -/
inductive Lived (i : ι) : List (Mark ι Req ε α) → Phase Req ε α → Prop
  | start : Lived i [] .idle
  | invoked {marks : List (Mark ι Req ε α)} (r : Req) (h : Lived i marks .idle) :
    Lived i (.seen (.invoked i r) :: marks) (.pending r)
  | effect {marks : List (Mark ι Req ε α)} {r : Req} (result : Except ε α)
    (h : Lived i marks (.pending r)) : Lived i (.effect i r result :: marks) (.settled r result)
  | responded {marks : List (Mark ι Req ε α)} {r : Req} {result : Except ε α}
    (h : Lived i marks (.settled r result)) :
    Lived i (.seen (.responded i r result) :: marks) .idle
  | other {marks : List (Mark ι Req ε α)} {phase : Phase Req ε α} (mark : Mark ι Req ε α)
    (hne : mark.thread ≠ i) (h : Lived i marks phase) : Lived i (mark :: marks) phase

/-- Points can be put into the history at which the requests take effect, one
after the other, and lead from one state of the specification to another. -/
def Linearizes (Spec : Req → Except ε α → τ → τ → Prop) (a : τ)
    (history : List (Moment ι Req ε α)) (b : τ) : Prop :=
  ∃ marks : List (Mark ι Req ε α), Legal Spec a marks b ∧
    marks.filterMap Mark.moment = history ∧ ∀ i, ∃ phase, Lived i marks phase

def Tracked (Spec : Req → Except ε α → τ → τ → Prop) (a : τ)
    (history : List (Moment ι Req ε α)) (b : τ) (phases : ι → Phase Req ε α) : Prop :=
  ∃ marks : List (Mark ι Req ε α), Legal Spec a marks b ∧
    marks.filterMap Mark.moment = history ∧ ∀ i, Lived i marks (phases i)

namespace Tracked

variable {Spec : Req → Except ε α → τ → τ → Prop} {a b : τ} {history : List (Moment ι Req ε α)}
  {phases : ι → Phase Req ε α} {i : ι} {r : Req} {result : Except ε α}

theorem linearizes (h : Tracked Spec a history b phases) : Linearizes Spec a history b := by
  obtain ⟨marks, hlegal, hhistory, hlived⟩ := h
  exact ⟨marks, hlegal, hhistory, fun i => ⟨_, hlived i⟩⟩

theorem start : Tracked Spec a [] a (fun _ : ι => .idle) := ⟨[], .nil, rfl, fun _ => .start⟩

variable [DecidableEq ι]

private theorem lived_mark {marks : List (Mark ι Req ε α)} {mark : Mark ι Req ε α}
    {phase : Phase Req ε α} (h : ∀ j, Lived j marks (phases j)) (hi : mark.thread = i)
    (hmark : Lived i (mark :: marks) phase) (j : ι) :
    Lived j (mark :: marks) (Function.update phases i phase j) := by
  by_cases hj : j = i
  · subst hj
    rwa [Function.update_self]
  · rw [Function.update_of_ne hj]
    exact .other mark (fun heq => hj (heq.symm.trans hi)) (h j)

theorem invoke (h : Tracked Spec a history b phases) (hi : phases i = .idle) (r : Req) :
    Tracked Spec a (.invoked i r :: history) b (Function.update phases i (.pending r)) := by
  obtain ⟨marks, hlegal, rfl, hlived⟩ := h
  exact ⟨_, .seen _ hlegal, rfl, lived_mark hlived rfl ((hi ▸ hlived i).invoked r)⟩

theorem effect {b' : τ} (h : Tracked Spec a history b phases) (hi : phases i = .pending r)
    (hspec : Spec r result b b') :
    Tracked Spec a history b' (Function.update phases i (.settled r result)) := by
  obtain ⟨marks, hlegal, rfl, hlived⟩ := h
  exact ⟨_, .effect i hlegal hspec, rfl, lived_mark hlived rfl ((hi ▸ hlived i).effect result)⟩

theorem respond (h : Tracked Spec a history b phases) (hi : phases i = .settled r result) :
    Tracked Spec a (.responded i r result :: history) b (Function.update phases i .idle) := by
  obtain ⟨marks, hlegal, rfl, hlived⟩ := h
  exact ⟨_, .seen _ hlegal, rfl, lived_mark hlived rfl (hi ▸ hlived i).responded⟩

theorem effect_respond {b' : τ} (h : Tracked Spec a history b phases)
    (hi : phases i = .pending r) (hspec : Spec r result b b') :
    Tracked Spec a (.responded i r result :: history) b' (Function.update phases i .idle) := by
  have hresponded := (h.effect hi hspec).respond (Function.update_self ..)
  rwa [Function.update_idem] at hresponded

end Tracked

section
variable {Spec : Req → Except ε α → τ → τ → Prop} {i : ι} {r : Req} {result : Except ε α}
  {marks : List (Mark ι Req ε α)} {phase : Phase Req ε α}

private theorem Lived.was_invoked (h : Lived i marks phase) :
    (phase = .pending r → .seen (.invoked i r) ∈ marks) ∧
      (.effect i r result ∈ marks → .seen (.invoked i r) ∈ marks) := by
  induction h with
  | start => simp
  | invoked r' h ih =>
    refine ⟨?_, fun heffect => List.mem_cons_of_mem _ (ih.2 (by simpa using heffect))⟩
    intro hphase
    obtain rfl := Phase.pending.inj hphase
    exact List.mem_cons_self
  | effect result' h ih =>
    refine ⟨by simp, ?_⟩
    intro heffect
    rcases List.mem_cons.mp heffect with heq | heffect
    · obtain ⟨_, rfl, _⟩ := Mark.effect.inj heq
      exact List.mem_cons_of_mem _ (ih.1 rfl)
    · exact List.mem_cons_of_mem _ (ih.2 heffect)
  | responded h ih => simpa using ih.2
  | other mark hne h ih =>
    refine ⟨fun hphase => List.mem_cons_of_mem _ (ih.1 hphase), ?_⟩
    intro heffect
    rcases List.mem_cons.mp heffect with rfl | heffect
    · exact absurd rfl hne
    · exact List.mem_cons_of_mem _ (ih.2 heffect)

private theorem Lived.took_effect (h : Lived i marks phase) :
    (phase = .settled r result → .effect i r result ∈ marks) ∧
      (.seen (.responded i r result) ∈ marks → .effect i r result ∈ marks) := by
  induction h with
  | start => simp
  | invoked r' h ih => simpa using ih.2
  | effect result' h ih =>
    refine ⟨?_, fun hseen => List.mem_cons_of_mem _ (ih.2 (by simpa using hseen))⟩
    intro hphase
    obtain ⟨rfl, rfl⟩ := Phase.settled.inj hphase
    exact List.mem_cons_self
  | responded h ih =>
    refine ⟨by simp, ?_⟩
    intro hseen
    rcases List.mem_cons.mp hseen with heq | hseen
    · obtain ⟨_, rfl, rfl⟩ := Moment.responded.inj (Mark.seen.inj heq)
      exact List.mem_cons_of_mem _ (ih.1 rfl)
    · exact List.mem_cons_of_mem _ (ih.2 hseen)
  | other mark hne h ih =>
    refine ⟨fun hphase => List.mem_cons_of_mem _ (ih.1 hphase), ?_⟩
    intro hseen
    rcases List.mem_cons.mp hseen with rfl | hseen
    · exact absurd rfl hne
    · exact List.mem_cons_of_mem _ (ih.2 hseen)

private theorem Legal.keeps {P : τ → Prop} {a b : τ} (h : Legal Spec a marks b) (ha : P a)
    (hkeep : ∀ i r result, .effect i r result ∈ marks → ∀ x y, P x → Spec r result x y → P y) :
    P b ∧ ∀ i r result, .effect i r result ∈ marks → ∃ x y, P x ∧ Spec r result x y := by
  induction h with
  | nil => simp [ha]
  | seen moment h ih => simpa using ih fun i r result hmem => hkeep i r result (by simp [hmem])
  | effect i h hspec ih =>
    obtain ⟨hb, hall⟩ := ih fun i r result hmem => hkeep i r result (by simp [hmem])
    refine ⟨hkeep i _ _ List.mem_cons_self _ _ hb hspec, ?_⟩
    intro i' r' result' hmem
    rcases List.mem_cons.mp hmem with heq | hmem
    · obtain ⟨_, rfl, rfl⟩ := Mark.effect.inj heq
      exact ⟨_, _, hb, hspec⟩
    · exact hall i' r' result' hmem

/-- An invariant of the requests that were made: it holds in the end, and every
response is one that the specification gives where it holds. -/
theorem Linearizes.keeps {P : τ → Prop} {a b : τ} {history : List (Moment ι Req ε α)}
    (h : Linearizes Spec a history b) (ha : P a)
    (hkeep : ∀ i r, .invoked i r ∈ history → ∀ result x y, P x → Spec r result x y → P y) :
    P b ∧ ∀ i r result, .responded i r result ∈ history → ∃ x y, P x ∧ Spec r result x y := by
  obtain ⟨marks, hlegal, rfl, hlived⟩ := h
  have hseen : ∀ moment, moment ∈ marks.filterMap Mark.moment → .seen moment ∈ marks := by
    intro moment hmem
    obtain ⟨mark, hmark, heq⟩ := List.mem_filterMap.mp hmem
    cases mark with
    | seen m =>
      obtain rfl := Option.some.inj heq
      exact hmark
    | effect => contradiction
  have hinvoked : ∀ i r result, .effect i r result ∈ marks →
      .invoked i r ∈ marks.filterMap Mark.moment := by
    intro i r result hmem
    obtain ⟨phase, hphase⟩ := hlived i
    exact List.mem_filterMap.mpr ⟨_, hphase.was_invoked.2 hmem, rfl⟩
  obtain ⟨hb, hall⟩ := hlegal.keeps ha fun i r result hmem =>
    hkeep i r (hinvoked i r result hmem) result
  refine ⟨hb, ?_⟩
  intro i r result hresponse
  obtain ⟨phase, hphase⟩ := hlived i
  exact hall i r result (hphase.took_effect.2 (hseen _ hresponse))

end

/-! ## Programs that take effect at one point -/

namespace Program

variable (R : Answers Res σ) (Env : σ → σ → Prop) (A : Op → σ → Prop) (abs : σ → τ)
  (Idle : σ → Prop)

/-- The program has taken effect. What it does from here on is not seen, and it
will respond this result. -/
def settled (result : Except ε α) (p : Program Res ε α) (s : σ) : Prop :=
  p.always R Env (fun op s => A op s ∧ ∀ answer t, R op s answer t → abs t = abs s)
    (fun value t => .ok value = result ∧ Idle t) (fun error t => .error error = result ∧ Idle t) s

/-- The program takes effect at one of its operations, or when it is done. -/
def pending (Spec : Except ε α → τ → τ → Prop) : Program Res ε α → σ → Prop
  | .done value, s => ∀ t, ReflTransGen Env s t → Spec (.ok value) (abs t) (abs t) ∧ Idle t
  | .raise error, s => ∀ t, ReflTransGen Env s t → Spec (.error error) (abs t) (abs t) ∧ Idle t
  | .call op next, s => ∀ t, ReflTransGen Env s t →
    A op t ∧ ∀ answer u, R op t answer u →
      (abs u = abs t ∧ (next answer).pending Spec u) ∨
      ∃ result, Spec result (abs t) (abs u) ∧ (next answer).settled R Env A abs Idle result u

variable {R Env A abs Idle} {Spec : Except ε α → τ → τ → Prop}

theorem pending_env {p : Program Res ε α} {s t : σ} (hp : p.pending R Env A abs Idle Spec s)
    (hst : ReflTransGen Env s t) : p.pending R Env A abs Idle Spec t := by
  cases p with
  | done value => exact fun u htu => hp u (hst.trans htu)
  | raise error => exact fun u htu => hp u (hst.trans htu)
  | call op next => exact fun u htu => hp u (hst.trans htu)

/-- One operation, after an assertion that the environment keeps: the program
takes effect here or later. -/
theorem pending_call {op : Op} {k : Res op → Program Res ε α} {P : σ → Prop} {s : σ}
    (hP : ∀ {s t}, P s → Env s t → P t) (hs : P s) (hA : ∀ t, P t → A op t)
    (hk : ∀ t answer u, P t → R op t answer u →
      (abs u = abs t ∧ (k answer).pending R Env A abs Idle Spec u) ∨
      ∃ result, Spec result (abs t) (abs u) ∧ (k answer).settled R Env A abs Idle result u) :
    (Program.call op k).pending R Env A abs Idle Spec s := by
  intro t hst
  have ht := stable_env P hP hs hst
  exact ⟨hA t ht, fun answer u h => hk t answer u ht h⟩

theorem settled_call {op : Op} {k : Res op → Program Res ε α} {P : σ → Prop} {s : σ}
    {result : Except ε α} (hP : ∀ {s t}, P s → Env s t → P t) (hs : P s)
    (hA : ∀ t, P t → A op t)
    (hk : ∀ t answer u, P t → R op t answer u →
      abs u = abs t ∧ (k answer).settled R Env A abs Idle result u) :
    (Program.call op k).settled R Env A abs Idle result s := by
  intro t hst
  have ht := stable_env P hP hs hst
  exact ⟨⟨hA t ht, fun answer u h => (hk t answer u ht h).1⟩,
    fun answer u h => (hk t answer u ht h).2⟩

theorem pending_of_silent {p : Program Res ε α} {s : σ}
    (hp : p.always R Env (fun op s => A op s ∧ ∀ answer t, R op s answer t → abs t = abs s)
      (fun value t => Spec (.ok value) (abs t) (abs t) ∧ Idle t)
      (fun error t => Spec (.error error) (abs t) (abs t) ∧ Idle t) s) :
    p.pending R Env A abs Idle Spec s := by
  induction p generalizing s with
  | done value => exact hp
  | raise error => exact hp
  | call op next ih =>
    intro t hst
    obtain ⟨⟨hA, habs⟩, hnext⟩ := hp t hst
    exact ⟨hA, fun answer u h => .inl ⟨habs answer u h, ih answer (hnext answer u h)⟩⟩

theorem pending_ended {p : Program Res ε α} {s : σ} {result : Except ε α}
    (hp : p.pending R Env A abs Idle Spec s) (hresult : p.result = some result) :
    Spec result (abs s) (abs s) ∧ Idle s := by
  cases p with
  | done value =>
    obtain rfl := Option.some.inj hresult
    exact hp s .refl
  | raise error =>
    obtain rfl := Option.some.inj hresult
    exact hp s .refl
  | call op next => contradiction

theorem settled_ended {p : Program Res ε α} {s : σ} {result result' : Except ε α}
    (hp : p.settled R Env A abs Idle result s) (hresult : p.result = some result') :
    result' = result ∧ Idle s := by
  cases p with
  | done value =>
    obtain rfl := Option.some.inj hresult
    exact hp s .refl
  | raise error =>
    obtain rfl := Option.some.inj hresult
    exact hp s .refl
  | call op next => contradiction

end Program

/-! ## Threads whose requests take effect at one point -/

def Others (G : ι → σ → σ → Prop) (i : ι) (s t : σ) : Prop := ∃ j, j ≠ i ∧ G j s t

/-- Every request takes effect at one point when the other threads keep to their
guarantees, and whoever makes it keeps to the own one. -/
structure Atomic (code : Req → Program Res ε α) (R : ι → Answers Res σ) (G : ι → σ → σ → Prop)
    (A : ι → Op → σ → Prop) (abs : σ → τ) (Idle : ι → σ → Prop)
    (Spec : Req → Except ε α → τ → τ → Prop) : Prop where
  pending : ∀ i r s, Idle i s →
    (code r).pending (R i) (Others G i) (A i) abs (Idle i) (Spec r) s
  idle : ∀ i s t, Idle i s → Others G i s t → Idle i t
  guarantee : ∀ i op s answer t, A i op s → R i op s answer t → G i s t

namespace Atomic

variable {code : Req → Program Res ε α} {R : ι → Answers Res σ} {G : ι → σ → σ → Prop}
  {A : ι → Op → σ → Prop} {abs : σ → τ} {Idle : ι → σ → Prop}
  {Spec : Req → Except ε α → τ → τ → Prop} [DecidableEq ι]

def Fits (R : ι → Answers Res σ) (G : ι → σ → σ → Prop) (A : ι → Op → σ → Prop) (abs : σ → τ)
    (Idle : ι → σ → Prop) (Spec : Req → Except ε α → τ → τ → Prop) (i : ι) (s : σ) :
    Phase Req ε α → Option (Req × Program Res ε α) → Prop
  | .idle, none => Idle i s
  | .pending r, some (r', p) =>
    r' = r ∧ p.pending (R i) (Others G i) (A i) abs (Idle i) (Spec r) s
  | .settled r result, some (r', p) =>
    r' = r ∧ p.settled (R i) (Others G i) (A i) abs (Idle i) result s
  | _, _ => False

/-- The history so far has points of effect, and every thread is where they say. -/
def Kept (R : ι → Answers Res σ) (G : ι → σ → σ → Prop) (A : ι → Op → σ → Prop) (abs : σ → τ)
    (Idle : ι → σ → Prop) (Spec : Req → Except ε α → τ → τ → Prop) (a : τ)
    (c : Pool Res ε α σ ι Req) : Prop :=
  ∃ phases, Tracked Spec a c.history (abs c.state) phases ∧
    ∀ i, Fits R G A abs Idle Spec i c.state (phases i) (c.active i)

variable (hatomic : Atomic code R G A abs Idle Spec)
include hatomic

omit [DecidableEq ι] in
private theorem fits_env {i : ι} {s t : σ} {phase : Phase Req ε α}
    {p : Option (Req × Program Res ε α)} (h : Fits R G A abs Idle Spec i s phase p)
    (hst : Others G i s t) : Fits R G A abs Idle Spec i t phase p := by
  rcases phase with _ | r | ⟨r, result⟩ <;> rcases p with _ | ⟨r', p⟩
  · exact hatomic.idle i s t h hst
  · exact h
  · exact h
  · exact ⟨h.1, Program.pending_env h.2 (.single hst)⟩
  · exact h
  · exact ⟨h.1, Program.always_env h.2 (.single hst)⟩

private theorem fits_update {i : ι} {s t : σ} {phases : ι → Phase Req ε α}
    {active : ι → Option (Req × Program Res ε α)} {phase : Phase Req ε α}
    {x : Option (Req × Program Res ε α)}
    (hfits : ∀ j, Fits R G A abs Idle Spec j s (phases j) (active j)) (hst : t = s ∨ G i s t)
    (hown : Fits R G A abs Idle Spec i t phase x) (j : ι) :
    Fits R G A abs Idle Spec j t (Function.update phases i phase j)
      (Function.update active i x j) := by
  by_cases heq : j = i
  · subst heq
    rwa [Function.update_self, Function.update_self]
  · rw [Function.update_of_ne heq, Function.update_of_ne heq]
    rcases hst with rfl | hst
    · exact hfits j
    · exact hatomic.fits_env (hfits j) ⟨i, Ne.symm heq, hst⟩

private theorem fits_stay {i : ι} {s t : σ} {phases : ι → Phase Req ε α}
    {active : ι → Option (Req × Program Res ε α)} {x : Option (Req × Program Res ε α)}
    (hfits : ∀ j, Fits R G A abs Idle Spec j s (phases j) (active j)) (hst : t = s ∨ G i s t)
    (hown : Fits R G A abs Idle Spec i t (phases i) x) (j : ι) :
    Fits R G A abs Idle Spec j t (phases j) (Function.update active i x j) := by
  have hall := hatomic.fits_update hfits hst hown j
  rwa [Function.update_eq_self] at hall

private theorem kept_step {a : τ} {c c' : Pool Res ε α σ ι Req}
    (h : Kept R G A abs Idle Spec a c) (hstep : Pool.Step code R c c') :
    Kept R G A abs Idle Spec a c' := by
  obtain ⟨phases, htracked, hfits⟩ := h
  cases hstep with
  | invoke i r hidle =>
    have hi := hfits i
    rw [hidle] at hi
    cases hphase : phases i with
    | idle =>
      rw [hphase] at hi
      exact ⟨_, htracked.invoke hphase r,
        hatomic.fits_update hfits (.inl rfl) ⟨rfl, hatomic.pending i r _ hi⟩⟩
    | pending | settled =>
      rw [hphase] at hi
      exact hi.elim
  | @perform i _ r op next answer t hcall hanswer =>
    have hi := hfits i
    rw [hcall] at hi
    cases hphase : phases i with
    | idle =>
      rw [hphase] at hi
      exact hi.elim
    | pending r' =>
      rw [hphase] at hi
      obtain ⟨rfl, hp⟩ := hi
      obtain ⟨hA, hnext⟩ := hp _ .refl
      have hG := hatomic.guarantee i op _ answer t hA hanswer
      rcases hnext answer t hanswer with ⟨habs, hp⟩ | ⟨result, hspec, hp⟩
      · refine ⟨phases, habs ▸ htracked, hatomic.fits_stay hfits (.inr hG) ?_⟩
        rw [hphase]
        exact ⟨rfl, hp⟩
      · exact ⟨_, htracked.effect hphase hspec, hatomic.fits_update hfits (.inr hG) ⟨rfl, hp⟩⟩
    | settled r' result =>
      rw [hphase] at hi
      obtain ⟨rfl, hp⟩ := hi
      obtain ⟨⟨hA, habs⟩, hnext⟩ := hp _ .refl
      have hG := hatomic.guarantee i op _ answer t hA hanswer
      refine ⟨phases, habs answer t hanswer ▸ htracked, hatomic.fits_stay hfits (.inr hG) ?_⟩
      rw [hphase]
      exact ⟨rfl, hnext answer t hanswer⟩
  | @respond i _ r p result hi' hresult =>
    have hi := hfits i
    rw [hi'] at hi
    cases hphase : phases i with
    | idle =>
      rw [hphase] at hi
      exact hi.elim
    | pending r' =>
      rw [hphase] at hi
      obtain ⟨rfl, hp⟩ := hi
      obtain ⟨hspec, hidle⟩ := Program.pending_ended hp hresult
      exact ⟨_, htracked.effect_respond hphase hspec,
        hatomic.fits_update hfits (.inl rfl) hidle⟩
    | settled =>
      rw [hphase] at hi
      obtain ⟨rfl, hp⟩ := hi
      obtain ⟨rfl, hidle⟩ := Program.settled_ended hp hresult
      exact ⟨_, htracked.respond hphase, hatomic.fits_update hfits (.inl rfl) hidle⟩

private theorem kept {s : σ} {c : Pool Res ε α σ ι Req} (hs : ∀ i, Idle i s)
    (hc : ReflTransGen (Pool.Step code R) (.start s) c) :
    Kept R G A abs Idle Spec (abs s) c := by
  induction hc with
  | refl => exact ⟨_, .start, hs⟩
  | tail _ hstep ih => exact hatomic.kept_step ih hstep

/-- Every history of the threads is linearizable. -/
theorem linearizes {s : σ} {c : Pool Res ε α σ ι Req} (hs : ∀ i, Idle i s)
    (hc : ReflTransGen (Pool.Step code R) (.start s) c) :
    Linearizes Spec (abs s) c.history (abs c.state) := by
  obtain ⟨phases, htracked, _⟩ := hatomic.kept hs hc
  exact htracked.linearizes

theorem performs {s : σ} {c : Pool Res ε α σ ι Req} (hs : ∀ i, Idle i s)
    (hc : ReflTransGen (Pool.Step code R) (.start s) c) {i : ι} {op : Op}
    (hnext : c.next i = some op) : A i op c.state := by
  obtain ⟨r, k, hi⟩ := Pool.next_eq_some hnext
  obtain ⟨phases, _, hfits⟩ := hatomic.kept hs hc
  have hphase := hfits i
  rw [hi] at hphase
  generalize phases i = phase at hphase
  cases phase with
  | idle => exact hphase.elim
  | pending => exact (hphase.2 _ .refl).1
  | settled => exact (hphase.2 _ .refl).1.1

/-- Every run consists of steps that the threads guarantee. -/
theorem guaranteed {s : σ} {c : Pool Res ε α σ ι Req} (hs : ∀ i, Idle i s)
    (hc : ReflTransGen (Pool.Step code R) (.start s) c) :
    ReflTransGen (fun s t => ∃ i, G i s t) s c.state := by
  induction hc with
  | refl => exact .refl
  | tail hbefore hstep ih =>
    cases hstep with
    | invoke => exact ih
    | respond => exact ih
    | @perform i _ r op next answer t hcall hanswer =>
      have hA := hatomic.performs hs hbefore (Pool.next_of_active hcall)
      exact ih.tail ⟨i, hatomic.guarantee i op _ answer t hA hanswer⟩

theorem rests {s : σ} {c : Pool Res ε α σ ι Req} (hs : ∀ i, Idle i s)
    (hc : ReflTransGen (Pool.Step code R) (.start s) c) {i : ι}
    (hnext : c.next i = none) : Idle i c.state := by
  obtain ⟨phases, _, hfits⟩ := hatomic.kept hs hc
  have hphase := hfits i
  generalize phases i = phase at hphase
  rcases hactive : c.active i with _ | ⟨r, p⟩
  · rw [hactive] at hphase
    cases phase with
    | idle => exact hphase
    | pending => exact hphase.elim
    | settled => exact hphase.elim
  · rw [hactive] at hphase
    have hended : ∃ result, p.result = some result := by
      cases p with
      | done value => exact ⟨_, rfl⟩
      | raise error => exact ⟨_, rfl⟩
      | call op next => simp [Pool.next, hactive] at hnext
    obtain ⟨result, hresult⟩ := hended
    cases phase with
    | idle => exact hphase.elim
    | pending => exact (Program.pending_ended hphase.2 hresult).2
    | settled => exact (Program.settled_ended hphase.2 hresult).2

end Atomic

/-! ## Mutexes taken in an order -/

/-- Whoever holds a mutex waits only for mutexes of a higher rank. Then some
holder of a mutex does not wait for one that is held. -/
theorem exists_holder_moves {κ : Type} {held : κ → Option ι} {waits : ι → Option κ}
    {rank : κ → Nat} {bound : Nat} (hbound : ∀ k, rank k ≤ bound)
    (horder : ∀ i k k', waits i = some k → held k' = some i → rank k' < rank k)
    {k : κ} (hk : (held k).isSome) :
    ∃ j k', held k' = some j ∧ ∀ k'', waits j = some k'' → held k'' = none := by
  obtain ⟨n, hn⟩ : ∃ n, n = bound - rank k := ⟨_, rfl⟩
  induction n using Nat.strongRecOn generalizing k with
  | _ n ih =>
    obtain ⟨j, hj⟩ := Option.isSome_iff_exists.mp hk
    by_cases hwaits : ∀ k'', waits j = some k'' → held k'' = none
    · exact ⟨j, k, hj, hwaits⟩
    · -- The holder waits for a mutex of a higher rank.
      obtain ⟨k', hk', hheld⟩ : ∃ k', waits j = some k' ∧ held k' ≠ none := by simpa using hwaits
      have hrank := horder j k' k hk' hj
      have hle := hbound k'
      exact ih (bound - rank k') (by omega) (Option.isSome_iff_ne_none.mpr hheld) rfl

end Effects
