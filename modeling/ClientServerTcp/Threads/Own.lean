import ClientServerTcp.Threads.Steps
import Mathlib.Order.BooleanAlgebra.Set

/-! Programs that use the shared objects in no other way than to read a
descriptor. They are checked without the state: all they need is which mutexes
are held, and that no answer gives them a descriptor of a shared object. -/
namespace ClientServerTcp
open Effects Program

section
variable (S : Sharing)

def OwnStep : Answers Op.Res (Set Guard)
  | .lock o m, ks, _, ks' => ks' = insert (o, m) ks
  | .unlock o m, ks, _, ks' => ks' = ks \ {(o, m)}
  | op, ks, answer, ks' => Tells S op answer ∧ ks' = ks

def OwnMay : Op → Set Guard → Prop
  | .lock o m, ks => S.sfd o = none ∧ ∀ k ∈ ks, k.rank < Guard.rank (o, m)
  | .unlock o m, ks => S.sfd o = none ∧ (o, m) ∈ ks
  | .load o f, _ => S.sfd o = none ∨ f.guard = none
  | op, ks => Harmless S op ∧ (op.blocks = true → ks = ∅)

/-- A program on objects of its own, begun with these mutexes held. However it
ends, they are held again, and a value is one that `Q` is true of. -/
def Own {α : Type} (ks : Set Guard) (Q : α → Prop) (p : Prog α) : Prop :=
  p.always (OwnStep S) alone (OwnMay S) (fun value ks' => ks' = ks ∧ Q value)
    (fun _ ks' => ks' = ks) ks

end

namespace Own

variable {S : Sharing} {ks : Set Guard} {α β : Type} {Q : α → Prop} {T : β → Prop}

theorem mono {Q' : α → Prop} {p : Prog α} (hp : Own S ks Q p) (hQ : ∀ value, Q value → Q' value) :
    Own S ks Q' p := by
  apply always_mono hp
  · rintro value _ ⟨rfl, hvalue⟩
    exact ⟨rfl, hQ value hvalue⟩
  · exact fun _ _ h => h

theorem pure {value : α} (h : Q value) : Own S ks Q (Pure.pure value) := by
  intro t hst
  exact ⟨eq_of_alone hst, h⟩

theorem raise (error : Exn) : Own S ks Q (.raise error) := fun _ hst => eq_of_alone hst

theorem bind {p : Prog β} {f : β → Prog α} (hp : Own S ks T p)
    (hf : ∀ value, T value → Own S ks Q (f value)) : Own S ks Q (p >>= f) := by
  apply always_bind
  apply always_mono hp
  · rintro value _ ⟨rfl, hvalue⟩
    exact hf value hvalue
  · exact fun _ _ h => h

theorem call {op : Op} (hop : OwnMay S op ks)
    (hnolock : ∀ o m, op ≠ .lock o m ∧ op ≠ .unlock o m) :
    Own S ks (Tells S op) (Sys.call op) := by
  intro t hst
  rw [eq_of_alone hst]
  refine ⟨hop, ?_⟩
  intro answer u hu v hv
  rw [eq_of_alone hv]
  cases op with
  | lock o m => exact absurd rfl (hnolock o m).1
  | unlock o m => exact absurd rfl (hnolock o m).2
  | _ => exact ⟨hu.2, hu.1⟩

theorem ite {c : Prop} [Decidable c] {p q : Prog α} (hp : c → Own S ks Q p)
    (hq : ¬c → Own S ks Q q) : Own S ks Q (if c then p else q) := by
  split
  · exact hp ‹_›
  · exact hq ‹_›

theorem onError {p : Prog α} {cleanup : Prog Unit} (hp : Own S ks Q p)
    (hcleanup : Own S ks (fun _ => True) cleanup) : Own S ks Q (p.onError cleanup) := by
  apply always_onError
  apply always_mono hp
  · exact fun _ _ h => h
  · rintro error _ rfl
    exact always_mono hcleanup (fun _ _ h => h.1) (fun _ _ h => h)

theorem bracket {acquire : Prog β} {release : β → Prog Unit} {body : β → Prog α}
    (hacquire : Own S ks T acquire)
    (hbody : ∀ object, T object → Own S ks Q (body object))
    (hrelease : ∀ object, T object → Own S ks (fun _ => True) (release object)) :
    Own S ks Q (.bracket acquire release body) := by
  apply always_bind
  apply always_mono hacquire
  · rintro object _ ⟨rfl, hobject⟩
    apply always_onExit
    apply always_mono (hbody object hobject)
    · rintro value _ ⟨rfl, hvalue⟩
      exact always_mono (hrelease object hobject) (fun _ _ h => ⟨h.1, hvalue⟩) (fun _ _ h => h)
    · rintro error _ rfl
      exact always_mono (hrelease object hobject) (fun _ _ h => h.1) (fun _ _ h => h)
  · exact fun _ _ h => h

theorem scopedLock {o : ObjId} {m : Mutex} {body : Prog α} (ho : S.sfd o = none)
    (hrank : ∀ k ∈ ks, k.rank < Guard.rank (o, m)) (hbody : Own S (insert (o, m) ks) Q body) :
    Own S ks Q (ClientServerTcp.scopedLock o m body) := by
  have hnew : (o, m) ∉ ks := fun hmem => Nat.lt_irrefl _ (hrank _ hmem)
  have hunlock : ∀ {E : Set Guard → Prop}, E ks →
      (Sys.unlock o m).always (OwnStep S) alone (OwnMay S) (fun _ => E)
        (fun (_ : Exn) ks' => ks' = ks) (insert (o, m) ks) := by
    intro E hE t hst
    rw [eq_of_alone hst]
    refine ⟨⟨ho, Set.mem_insert _ _⟩, ?_⟩
    intro answer u hu v hv
    obtain rfl : u = insert (o, m) ks \ {(o, m)} := hu
    rw [eq_of_alone hv, Set.insert_sdiff_self_of_notMem hnew]
    exact hE
  intro t hst
  rw [eq_of_alone hst]
  refine ⟨⟨ho, hrank⟩, ?_⟩
  intro answer u hu
  obtain rfl : u = insert (o, m) ks := hu
  apply always_onExit
  apply always_mono hbody
  · rintro value _ ⟨rfl, hvalue⟩
    exact hunlock ⟨rfl, hvalue⟩
  · rintro error _ rfl
    exact hunlock rfl

theorem whileLoop {cond : β → Bool} {body : β → Prog β}
    (hbody : ∀ locals, Own S ks (fun _ => True) (body locals)) (fuel : Nat) (locals : β) :
    Own S ks (fun _ => True) (Program.whileLoop cond body fuel locals) := by
  induction fuel generalizing locals with
  | zero => exact pure trivial
  | succ fuel ih =>
    unfold Program.whileLoop
    exact ite (fun _ => bind (hbody locals) fun locals _ => ih locals) fun _ => pure trivial

end Own

/-! ## Such a program beside other threads -/

section
variable {ι : Type} [DecidableEq ι] {S : Sharing} {i : ι} {ks : Set Guard}

private def Follows (S : Sharing) (i : ι) (op : Op) (ks : Set Guard) (s : Shared ι) : Prop :=
  (May S i op s ∧ ∀ answer t, ThreadStep i op s answer t → t.endpoints S = s.endpoints S) ∧
    ∀ answer t, ThreadStep i op s answer t → ∃ ks', OwnStep S op ks answer ks' ∧ Holds S i ks' t

private theorem follows_harmless {op : Op} {s : Shared ι} (hs : Holds S i ks s)
    (hop : Harmless S op) (hblocks : op.blocks = true → ks = ∅) (hcareful : Careful S i op s) :
    Follows S i op ks s := by
  have hnolock : ∀ o m, op ≠ .lock o m ∧ op ≠ .unlock o m := by
    intro o m
    constructor <;> rintro rfl <;> exact hop
  refine ⟨⟨⟨fun _ _ => hop.conduct, ?_, hcareful⟩, fun _ _ => hop.endpoints hs.good⟩, ?_⟩
  · have hempty : op.blocks = true → ∀ k, s.held k ≠ some i := by
      intro hb k hk
      have hmem := (hs.held k).mp hk
      simp [hblocks hb] at hmem
    cases op with
    | lock o m => exact absurd rfl (hnolock o m).1
    | _ => exact hempty
  · intro answer t hstep
    refine ⟨ks, ?_, hop.holds hs hstep⟩
    have htells := hop.tells hs.good hstep
    cases op with
    | lock o m => exact absurd rfl (hnolock o m).1
    | unlock o m => exact absurd rfl (hnolock o m).2
    | _ => exact ⟨htells, rfl⟩

private theorem follows {op : Op} {s : Shared ι} (hs : Holds S i ks s) (hop : OwnMay S op ks) :
    Follows S i op ks s := by
  have hnotShared : ∀ {o}, S.sfd o = none → ¬(S.sfd o).isSome := by
    intro o ho
    simp [ho]
  cases op with
  | lock o m =>
    have hlock := fun t => lock_step (t := t) (o := o) (m := m) hs
    have horderly : Orderly i (.lock o m) s := fun k hk => hop.2 k ((hs.held k).mp hk)
    refine ⟨⟨⟨fun _ t h => (hlock t h).1, horderly, trivial⟩, ?_⟩, ?_⟩
    · intro _ t h
      exact endpoints_of_world (hlock t h).2.2.1
    · exact fun _ t h => ⟨_, rfl, (hlock t h).2.1⟩
  | unlock o m =>
    have hown : ∀ o' : S.Object, o'.1 = o → ∀ c e, Shows S s o' c e → c.flag m = e.flag m := by
      rintro o' rfl
      exact absurd o'.2 (hnotShared hop.1)
    have hunlock := fun t => unlock_step (t := t) hs hop.2 hown
    refine ⟨⟨⟨fun _ t h => (hunlock t h).1, by simp [Orderly, Op.blocks], trivial⟩, ?_⟩, ?_⟩
    · intro _ t h
      exact endpoints_of_world (hunlock t h).2.2
    · exact fun _ t h => ⟨_, rfl, (hunlock t h).2.1⟩
  | load o f =>
    have hharmless : Harmless S (.load o f) := trivial
    apply follows_harmless hs hharmless (by simp [Op.blocks])
    intro hshared m hm
    rcases hop with ho | hf
    · exact absurd hshared (hnotShared ho)
    · simp [hf] at hm
  | store o f value =>
    exact follows_harmless hs hop.1 hop.2 fun hshared =>
      absurd hshared (hnotShared hop.1.store.1)
  | delete o => exact follows_harmless hs hop.1 hop.2 hop.1
  | _ => exact follows_harmless hs hop.1 hop.2 trivial

/-- Such a program keeps to the conduct between the steps of the other threads,
and the shared objects do not see it. -/
theorem Own.always {α : Type} {Q : α → Prop} {p : Prog α} {s : Shared ι} (hp : Own S ks Q p)
    (hs : Holds S i ks s) :
    p.always (ThreadStep i) (Others (Conduct S) i)
      (fun op s => May S i op s ∧
        ∀ answer t, ThreadStep i op s answer t → t.endpoints S = s.endpoints S)
      (fun value t => Holds S i ks t ∧ Q value) (fun _ t => Holds S i ks t) s := by
  have hrefine := always_refine (fun s ks => Holds S i ks s) hp hs (fun h => h.env)
    fun _ _ _ hs hop => follows hs hop
  apply always_mono hrefine
  · rintro value t ⟨_, hholds, rfl, hvalue⟩
    exact ⟨hholds, hvalue⟩
  · rintro error t ⟨_, hholds, rfl⟩
    exact hholds

end
end ClientServerTcp
