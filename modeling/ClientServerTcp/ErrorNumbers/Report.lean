import ClientServerTcp.System.Machine

/-! Where the number in the text of an exception comes from. The sources read
`errno` when they throw, which may be after calls that clean up, or after a call
that has not failed. -/
namespace ClientServerTcp
open Effects

/-- The calls whose failure a message reports. -/
def Errmsg.blames : Errmsg → Call → Bool
  | .msg1002, .socket .. => true
  | .msg1003, .setsockopt _ level optname _ => level == solSocket && optname == soReuseaddr
  | .msg1005, .setsockopt _ level optname _ => level == ipprotoIpv6 && optname == ipv6V6only
  | .msg1007, .getsockopt .. => true
  | .msg1009, .bind .. => true
  | .msg1010, .listen .. => true
  | .msg1013, .getsockname _ => true
  | .msg1017 _, .getsockopt .. => true
  | .msg1019, .connect .. => true
  | .msg1021, .send .. => true
  | .msg1022, .accept _ => true
  | .msg1023, .recv .. => true
  | .msg1024, .recv .. => true
  | _, _ => false

def Call.readsErrno : Call → Bool
  | .errno => true
  | _ => false

/-- A call whose failure is reported after a descriptor was given up. -/
def Call.reportedLate : Call → Bool
  | .setsockopt .. | .recv .. => true
  | _ => false

/-- A call that gives up a descriptor. -/
def Call.cleansUp : Call → Bool
  | .shutdown .. | .close _ => true
  | _ => false

def Event.movesNothing (e : Event) : Bool :=
  match e.call with
  | .recv .. | .send .. => e.errno.isNone && e.ret == 0
  | _ => false

/-- The events before `errno` was read, the newest first. -/
def beforeErrno (events : List Event) : List Event :=
  (events.dropWhile fun e => !e.call.readsErrno).tail

/-- The number is that of the last call that failed, and this is the last call
whose failure the message reports. -/
def Reported (errmsg : Errmsg) (errno : Int) (events : List Event) : Prop :=
  ∃ e, (beforeErrno events).find? (fun e => e.errno.isSome) = some e ∧
    (beforeErrno events).find? (fun e => errmsg.blames e.call) = some e ∧ e.errno = some errno

/-- What the caller is told about `errno` is true. -/
def Honest (r : Except Exn Unit) (events : List Event) : Prop :=
  ∀ errmsg errno, r = .error (.thrown (.withErrno errmsg errno)) → Reported errmsg errno events

/-- No `recv` and no `send` has returned 0, and no `shutdown` or `close` has failed
after a `setsockopt` or a `recv` that failed. -/
def Unmasked (events : List Event) : Prop :=
  (∀ e ∈ events, e.movesNothing = false) ∧
  events.Pairwise fun later earlier => earlier.call.reportedLate = true → earlier.errno.isSome →
    later.call.cleansUp = true → later.errno = none

def Clean (events : List Event) : Prop :=
  ∀ e ∈ events, e.movesNothing = false ∧ (e.call.reportedLate = false ∨ e.errno = none)

section
variable {errmsg : Errmsg} {errno : Int} {events newer older late : List Event}

theorem Clean.unmasked (h : Clean events) : Unmasked events := by
  refine ⟨fun e he => (h e he).1, ?_⟩
  induction events with
  | nil => exact .nil
  | cons e events ih =>
    have htail : Clean events := fun e' he' => h e' (List.mem_cons_of_mem _ he')
    refine .cons ?_ (ih htail)
    intro e' he' hlate hfailed
    rcases (htail e' he').2 with hearly | hnone
    · simp [hlate] at hearly
    · simp [hnone] at hfailed

theorem clean_nil : Clean [] := by
  simp [Clean]

theorem Clean.cons {e : Event} {events : List Event} (h : Clean events)
    (he : e.movesNothing = false) (he' : e.call.reportedLate = false ∨ e.errno = none) :
    Clean (e :: events) := by
  intro e' hmem
  rcases List.mem_cons.mp hmem with rfl | hmem
  · exact ⟨he, he'⟩
  · exact h e' hmem

theorem Clean.append (hnewer : Clean newer) (holder : Clean older) : Clean (newer ++ older) := by
  intro e he
  rcases List.mem_append.mp he with he | he
  · exact hnewer e he
  · exact holder e he

theorem beforeErrno_append (hnewer : ∀ e ∈ newer, e.call.readsErrno = false) (ret : Int)
    (number : Option Int) (out : Ptr) :
    beforeErrno (newer ++ ⟨.errno, ret, number, out⟩ :: older) = older := by
  unfold beforeErrno
  induction newer with
  | nil => rfl
  | cons e newer ih =>
    have hfirst := hnewer e List.mem_cons_self
    rw [List.cons_append, List.dropWhile_cons, hfirst]
    exact ih fun e' he' => hnewer e' (List.mem_cons_of_mem _ he')

theorem find?_after {p : Event → Bool} {e : Event} (hlate : ∀ e' ∈ late, p e' = false)
    (he : p e = true) : (late ++ e :: older).find? p = some e := by
  have hnone : late.find? p = none := List.find?_eq_none.mpr fun e' he' => by simp [hlate e' he']
  rw [List.find?_append, hnone, Option.none_or, List.find?_cons_of_pos he]

theorem honest_ok (h : Clean events) : Honest (.ok ()) events ↔ Unmasked events := by
  refine iff_of_true ?_ h.unmasked
  intro errmsg errno heq
  contradiction

theorem honest_plain {error : RuntimeError}
    (herror : ∀ errmsg errno, error ≠ .withErrno errmsg errno)
    (h : Clean events) : Honest (.error (.thrown error)) events ↔ Unmasked events := by
  refine iff_of_true ?_ h.unmasked
  intro errmsg errno heq
  simp only [Except.error.injEq, Exn.thrown.injEq] at heq
  exact absurd heq (herror errmsg errno)

theorem honest_blamed {call : Call} {ret : Int} {out : Ptr} (hblames : errmsg.blames call = true)
    (hnewer : ∀ e ∈ newer, e.call.readsErrno = false)
    (h : Clean (newer ++ ⟨.errno, errno, none, 0⟩ :: ⟨call, ret, some errno, out⟩ :: older)) :
    Honest (.error (.thrown (.withErrno errmsg errno)))
        (newer ++ ⟨.errno, errno, none, 0⟩ :: ⟨call, ret, some errno, out⟩ :: older) ↔
      Unmasked (newer ++ ⟨.errno, errno, none, 0⟩ :: ⟨call, ret, some errno, out⟩ :: older) := by
  refine iff_of_true ?_ h.unmasked
  intro errmsg' errno' heq
  cases heq
  refine ⟨⟨call, ret, some errno, out⟩, ?_, ?_, rfl⟩
  · rw [beforeErrno_append hnewer]
    rfl
  · rw [beforeErrno_append hnewer]
    exact List.find?_cons_of_pos hblames

theorem honest_direct {call : Call} {out : Ptr} (hblames : errmsg.blames call = true)
    (hcall : call.reportedLate = false) (h : Clean older) :
    Honest (.error (.thrown (.withErrno errmsg errno)))
        (⟨.errno, errno, none, 0⟩ :: ⟨call, -1, some errno, out⟩ :: older) ↔
      Unmasked (⟨.errno, errno, none, 0⟩ :: ⟨call, -1, some errno, out⟩ :: older) := by
  have hmoves : Event.movesNothing ⟨call, -1, some errno, out⟩ = false := by
    unfold Event.movesNothing
    split <;> rfl
  apply honest_blamed hblames (List.forall_mem_nil _)
  exact (h.cons hmoves (.inl hcall)).cons rfl (.inl rfl)

theorem honest_idle (newer late : List Event) {call : Call} {ret : Int} {out : Ptr}
    (hblames : errmsg.blames call = true)
    (hidle : Event.movesNothing ⟨call, ret, none, out⟩ = true)
    (hnewer : ∀ e ∈ newer, e.call.readsErrno = false)
    (hlate : ∀ e ∈ late, errmsg.blames e.call = false) :
    Honest (.error (.thrown (.withErrno errmsg errno)))
        (newer ++ ⟨.errno, errno, none, 0⟩ :: (late ++ ⟨call, ret, none, out⟩ :: older)) ↔
      Unmasked (newer ++ ⟨.errno, errno, none, 0⟩ :: (late ++ ⟨call, ret, none, out⟩ :: older)) := by
  apply iff_of_false
  · intro h
    obtain ⟨e, _, hblamed, hnumber⟩ := h errmsg errno rfl
    rw [beforeErrno_append hnewer, find?_after hlate hblames, Option.some_inj] at hblamed
    simp [← hblamed] at hnumber
  · intro h
    have hmoved := h.1 ⟨call, ret, none, out⟩ (by simp)
    simp [hidle] at hmoved

theorem Errmsg.blames_cleansUp (errmsg : Errmsg) {call : Call} (h : call.cleansUp = true) :
    errmsg.blames call = false := by
  cases call <;> cases errmsg <;> first | rfl | simp [Call.cleansUp] at h

theorem Call.cleansUp_of_reportedLate {call : Call} (h : call.reportedLate = true) :
    call.cleansUp = false := by
  cases call <;> first | rfl | simp [Call.reportedLate] at h

/-- The report is that of the failing call as long as no clean-up call fails. -/
theorem honest_late_iff (late : List Event) {call : Call} {ret number : Int} {out : Ptr}
    (hblames : errmsg.blames call = true) (hreported : call.reportedLate = true)
    (hlate : ∀ e ∈ late, e.call.cleansUp = true)
    (herrno : (∀ e ∈ late, e.errno = none) → errno = number) :
    Honest (.error (.thrown (.withErrno errmsg errno)))
        (⟨.errno, errno, none, 0⟩ :: (late ++ ⟨call, ret, some number, out⟩ :: older)) ↔
      ∀ e ∈ late, e.errno = none := by
  have hbefore : beforeErrno (⟨.errno, errno, none, 0⟩ :: (late ++ ⟨call, ret, some number, out⟩ ::
      older)) = late ++ ⟨call, ret, some number, out⟩ :: older := rfl
  have hblamed : (late ++ ⟨call, ret, some number, out⟩ :: older).find?
      (fun e => errmsg.blames e.call) = some ⟨call, ret, some number, out⟩ :=
    find?_after (fun e he => errmsg.blames_cleansUp (hlate e he)) hblames
  constructor
  · intro h e he
    obtain ⟨e', hfailed, hblamed', _⟩ := h errmsg errno rfl
    rw [hbefore] at hfailed hblamed'
    rw [hblamed, Option.some_inj] at hblamed'
    rw [List.find?_append] at hfailed
    by_contra hsome
    have hfound : (late.find? fun e => e.errno.isSome).isSome = true :=
      List.find?_isSome.mpr ⟨e, he, Option.isSome_iff_ne_none.mpr hsome⟩
    obtain ⟨e'', hfirst⟩ := Option.isSome_iff_exists.mp hfound
    rw [hfirst, Option.some_or, Option.some_inj] at hfailed
    -- the newest failure is a clean-up call, and no message blames one
    have hcleans := hlate e'' (List.mem_of_find?_eq_some hfirst)
    rw [hfailed, ← hblamed', Call.cleansUp_of_reportedLate hreported] at hcleans
    contradiction
  · intro hquiet errmsg' errno' heq
    cases heq
    refine ⟨⟨call, ret, some number, out⟩, ?_, by rw [hbefore, hblamed], by rw [herrno hquiet]⟩
    rw [hbefore]
    exact find?_after (fun e he => by simp [hquiet e he]) rfl

theorem unmasked_late_iff (late : List Event) {call : Call} {ret number : Int} {out : Ptr}
    (hreported : call.reportedLate = true) (hlate : ∀ e ∈ late, e.call.cleansUp = true)
    (holder : Clean older) :
    Unmasked (⟨.errno, errno, none, 0⟩ :: (late ++ ⟨call, ret, some number, out⟩ :: older)) ↔
      ∀ e ∈ late, e.errno = none := by
  constructor
  · intro h e he
    have hpair := (List.pairwise_append.mp (List.pairwise_cons.mp h.2).2).2.2 e he
      ⟨call, ret, some number, out⟩ List.mem_cons_self
    exact hpair hreported rfl (hlate e he)
  · intro hquiet
    constructor
    · intro e he
      simp only [List.mem_cons, List.mem_append] at he
      rcases he with rfl | he | rfl | he
      · rfl
      · have hcleans := hlate e he
        unfold Event.movesNothing
        split <;> simp_all [Call.cleansUp]
      · unfold Event.movesNothing
        split <;> rfl
      · exact (holder e he).1
    · refine .cons (by simp [Call.cleansUp]) (List.pairwise_append.mpr ⟨?_, ?_, ?_⟩)
      · exact List.pairwise_of_forall_mem_list fun e he _ _ _ _ _ => hquiet e he
      · refine .cons ?_ holder.unmasked.2
        intro e he _ _ hcleans
        simp [Call.cleansUp_of_reportedLate hreported] at hcleans
      · intro e he _ _ _ _ _
        exact hquiet e he

theorem honest_late (late : List Event) {call : Call} {ret number : Int} {out : Ptr}
    (hblames : errmsg.blames call = true) (hreported : call.reportedLate = true)
    (hlate : ∀ e ∈ late, e.call.cleansUp = true)
    (herrno : (∀ e ∈ late, e.errno = none) → errno = number) (holder : Clean older) :
    Honest (.error (.thrown (.withErrno errmsg errno)))
        (⟨.errno, errno, none, 0⟩ :: (late ++ ⟨call, ret, some number, out⟩ :: older)) ↔
      Unmasked (⟨.errno, errno, none, 0⟩ :: (late ++ ⟨call, ret, some number, out⟩ :: older)) :=
  (honest_late_iff late hblames hreported hlate herrno).trans
    (unmasked_late_iff late hreported hlate holder).symm

end
end ClientServerTcp
