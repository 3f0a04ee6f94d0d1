import ClientServerTcp.Library.Takeover
import ClientServerTcp.Socket.Ownership

/-! One thread binds a socket, or sets it to listen, while another thread moves
it. The two take mutexes of different objects, so that every interleaving of
their steps can happen. -/
namespace ClientServerTcp
open Effects Program CSocket Memory

def mutexes : Locking Op (ObjId × Mutex) where
  takes
    | .lock o m => some (o, m)
    | _ => none
  gives
    | .unlock o m => some (o, m)
    | _ => none

inductive Setter where
  | bind (ai : Addrinfo)
  | listen

namespace Setter

def program (o : ObjId) : Setter → Prog Unit
  | bind ai => CSocket.bind o ai
  | listen => CSocket.listen o

def flag : Setter → Field
  | bind _ => .mBound
  | listen => .mListen

def isSet (s : CSocket) : Setter → Bool
  | bind _ => s.mBound
  | listen => s.mListen

def set (s : CSocket) : Setter → CSocket
  | bind _ => { s with mBound := true }
  | listen => { s with mListen := true }

def load (o : ObjId) : Setter → Op
  | bind _ => .load o .mBound
  | listen => .load o .mListen

def store (o : ObjId) (value : Bool) : Setter → Op
  | bind _ => .store o .mBound value
  | listen => .store o .mListen value

def effect (os : OS) (k : Kernel) (fd : SOCKET) (d : Desc) : Setter → Desc
  | bind ai => { d with
      localAddr := some ((k.log (.getsockopt fd solSocket soType) 0).assigned os fd
        (ai.aiAddr.take ai.aiAddrlen)) }
  | listen => { d with
      listening := true, localAddr := some (d.localAddr.getD (os.ephemeral k fd)) }

variable {setter : Setter} {s : CSocket} {f : Field}

theorem set_eq_self_iff : setter.set s = s ↔ setter.isSet s = true := by
  constructor
  · intro h
    rw [← h]
    cases setter <;> rfl
  · intro h
    cases setter with
    | bind ai =>
      simp only [isSet] at h
      simp only [set, ← h]
    | listen =>
      simp only [isSet] at h
      simp only [set, ← h]

theorem get_set (h : f ≠ setter.flag) : (setter.set s).get f = s.get f := by
  cases setter <;> cases f <;> first | rfl | exact absurd rfl h

theorem set_comm (h : f ≠ setter.flag) (value : f.Ty) :
    (setter.set s).set f value = setter.set (s.set f value) := by
  cases setter <;> cases f <;> first | rfl | exact absurd rfl h

theorem ne_load {op : Op} {o : ObjId} (h : op ≠ .load o setter.flag) : op ≠ setter.load o := by
  cases setter <;> exact h

theorem ne_store {op : Op} {o : ObjId} {value : Bool}
    (h : ∀ value, op ≠ .store o setter.flag value) : op ≠ setter.store o value := by
  cases setter <;> exact h value

end Setter

/-! ## The memory of the process -/

def Op.inMemory : Op → Bool
  | .new | .load .. | .store .. | .lock .. | .unlock .. => true
  | _ => false

def memory : Handler Op.Res (Heap CSocket) := fun op objs =>
  ((step .obliging op (World.initial.withObjs objs)).1,
    (step .obliging op (World.initial.withObjs objs)).2.objs)

theorem step_memory (os : OS) (op : Op) (w : World) (h : op.inMemory = true) :
    (step os op w).1 = (memory op w.objs).1 ∧ (step os op w).2.objs = (memory op w.objs).2 := by
  cases op <;> first | exact ⟨rfl, rfl⟩ | simp [Op.inMemory] at h

theorem kernel_inMemory (os : OS) (op : Op) (w : World) (h : op.inMemory = true) :
    (step os op w).2.kernel = w.kernel := by
  cases op <;> first | rfl | simp [Op.inMemory] at h

theorem run_memory (os : OS) {α : Type} (p : Prog α) (hp : p.All fun op => op.inMemory = true)
    (w : World) : (p.run memory w.objs).2 = (p.run (step os) w).2.objs := by
  induction p generalizing w with
  | done value => rfl
  | raise error => rfl
  | call op next ih =>
    obtain ⟨hanswer, hobjs⟩ := step_memory os op w hp.1
    simp only [run, ← hanswer, ← hobjs]
    exact ih _ (hp.2 _) _

/-- The object is live, and holds the descriptor or nothing. -/
def Owns (o : ObjId) (fd : SOCKET) (objs : Heap CSocket) : Prop :=
  ∃ s, objs o = some s ∧ (s.mSfd = fd ∨ s.mSfd = invalidSocket)

private def taking {α : Type} (n o : ObjId) (f : Field) (reset : f.Ty) (rest : Prog α) : Prog α :=
  .call (.load o f) fun value => .call (.store n f value) fun _ => .call (.store o f reset) fun _ =>
    rest

private theorem moveConstruct_eq (o : ObjId) : moveConstruct o = .call .new fun n =>
    taking n o .mAf (-1) <| taking n o .mSfd invalidSocket <|
    .call (.lock n .mBoundMutex) fun _ => .call (.lock n .mListenMutex) fun _ =>
    taking n o .mBound false <| taking n o .mListen false <|
    .call (.unlock n .mListenMutex) fun _ => .call (.unlock n .mBoundMutex) fun _ => .done n := rfl

theorem inMemory_moveConstruct (o : ObjId) :
    (moveConstruct o).All fun op => op.inMemory = true := by
  rw [moveConstruct_eq]
  repeat' first | trivial | refine ⟨rfl, fun _ => ?_⟩

/-! ## A move takes every flag over -/

section
variable {setter : Setter} {o n : ObjId} {fd : SOCKET} {α : Type} {f : Field} {rest : Prog α}

private abbrev change (setter : Setter) (o : ObjId) (objs : Heap CSocket) : Heap CSocket :=
  objs.modify o setter.set

private theorem modify_comm {objs : Heap CSocket} (hne : n ≠ o) (g g' : CSocket → CSocket) :
    (objs.modify o g).modify n g' = (objs.modify n g').modify o g := by
  apply Heap.ext
  · simp only [Heap.cells_modify, Function.update_of_ne hne, Function.update_of_ne hne.symm]
    exact Function.update_comm hne.symm ..
  · rfl

private theorem blind_new {objs : Heap CSocket} (h : Owns o fd objs) :
    Blind memory (Owns o fd) (change setter o) .new objs := by
  obtain ⟨s, hs, hsfd⟩ := h
  refine ⟨⟨s, Heap.alloc_of hs, hsfd⟩, ?_⟩
  have halloc : (change setter o objs).alloc {} = change setter o (objs.alloc {}) := by
    rw [change, change, Heap.modify_eq_set _ hs, Heap.modify_eq_set _ (Heap.alloc_of hs),
      Heap.alloc_set hs]
  exact Prod.ext rfl halloc

private theorem blind_load {objs : Heap CSocket} (hf : f ≠ setter.flag) (h : Owns o fd objs) :
    Blind memory (Owns o fd) (change setter o) (.load o f) objs := by
  refine ⟨h, ?_⟩
  obtain ⟨s, hs, _⟩ := h
  have hvalue : (((change setter o objs) o).getD {}).get f = ((objs o).getD {}).get f := by
    rw [change, Heap.modify_eq_set _ hs, Heap.set_at hs, hs, Option.getD_some, Option.getD_some,
      Setter.get_set hf]
  exact Prod.ext hvalue rfl

private theorem blind_store_new {objs : Heap CSocket} (hne : n ≠ o) (value : f.Ty)
    (h : Owns o fd objs) : Blind memory (Owns o fd) (change setter o) (.store n f value) objs := by
  obtain ⟨s, hs, hsfd⟩ := h
  refine ⟨⟨s, ?_, hsfd⟩, Prod.ext rfl (modify_comm hne ..)⟩
  exact (Function.update_of_ne hne.symm ..).trans hs

private theorem blind_store {objs : Heap CSocket} (hf : f ≠ setter.flag) (value : f.Ty)
    (hsfd : ∀ s : CSocket, (s.set f value).mSfd = s.mSfd ∨ (s.set f value).mSfd = invalidSocket)
    (h : Owns o fd objs) : Blind memory (Owns o fd) (change setter o) (.store o f value) objs := by
  obtain ⟨s, hs, hown⟩ := h
  constructor
  · refine ⟨s.set f value, ?_, ?_⟩
    · exact (congrArg (fun m : Heap CSocket => m o) (Heap.modify_eq_set _ hs)).trans
        (Heap.set_at hs)
    · rcases hsfd s with heq | heq
      · rw [heq]
        exact hown
      · exact .inr heq
  · refine Prod.ext rfl ?_
    have hcomm : (change setter o objs).modify o (fun s => s.set f value) =
        change setter o (objs.modify o fun s => s.set f value) := by
      rw [change, change, Heap.modify_modify, Heap.modify_modify]
      congr 1
      funext s
      exact Setter.set_comm hf value
    exact hcomm

private theorem ignores_taking (hne : n ≠ o) (hf : f ≠ setter.flag) (reset : f.Ty)
    (hsfd : ∀ s : CSocket, (s.set f reset).mSfd = s.mSfd ∨ (s.set f reset).mSfd = invalidSocket)
    (hrest : rest.Ignores memory (Owns o fd) (change setter o)) :
    (taking n o f reset rest).Ignores memory (Owns o fd) (change setter o) := by
  intro _ h
  refine ⟨blind_load hf h, ?_⟩
  intro _ h
  refine ⟨blind_store_new hne _ h, ?_⟩
  intro _ h
  exact ⟨blind_store hf reset hsfd h, hrest⟩

private theorem takesOver_call {op : Op} {next : op.Res → Prog α}
    (hload : op ≠ .load o setter.flag) (hreset : ∀ value, op ≠ .store o setter.flag value)
    (h : ∀ objs, Owns o fd objs → Blind memory (Owns o fd) (change setter o) op objs ∧
      (next (memory op objs).1).TakesOver memory (Owns o fd) (change setter o) (setter.load o)
        (setter.store o false)) :
    (Program.call op next).TakesOver memory (Owns o fd) (change setter o) (setter.load o)
      (setter.store o false) := ⟨Setter.ne_store hreset, .inr ⟨Setter.ne_load hload, h⟩⟩

private theorem takesOver_taking (hne : n ≠ o) (hf : f ≠ setter.flag) (reset : f.Ty)
    (hsfd : ∀ s : CSocket, (s.set f reset).mSfd = s.mSfd ∨ (s.set f reset).mSfd = invalidSocket)
    (hrest : rest.TakesOver memory (Owns o fd) (change setter o) (setter.load o)
      (setter.store o false)) :
    (taking n o f reset rest).TakesOver memory (Owns o fd) (change setter o) (setter.load o)
      (setter.store o false) := by
  apply takesOver_call (by simpa using hf) (by simp)
  intro _ h
  refine ⟨blind_load hf h, ?_⟩
  apply takesOver_call (by simp) (by simp [hne])
  intro _ h
  refine ⟨blind_store_new hne _ h, ?_⟩
  apply takesOver_call (by simp) (by simp [hf])
  intro _ h
  exact ⟨blind_store hf reset hsfd h, hrest⟩

private theorem takesOver_flag (hne : n ≠ o) (reset : f.Ty) (hload : setter.load o = .load o f)
    (hreset : setter.store o false = .store o f reset)
    (hundone : ∀ s : CSocket, (setter.set s).set f reset = s.set f reset)
    (hsfd : ∀ s : CSocket, (s.set f reset).mSfd = s.mSfd)
    (hrest : rest.Ignores memory (Owns o fd) (change setter o)) :
    (taking n o f reset rest).TakesOver memory (Owns o fd) (change setter o) (setter.load o)
      (setter.store o false) := by
  rw [hload, hreset]
  refine ⟨by simp, .inl ⟨rfl, ?_⟩⟩
  intro _ h
  refine ⟨h, .inr ⟨by simp [hne], ?_⟩⟩
  intro _ h
  refine ⟨blind_store_new hne _ h, .inl ⟨rfl, ?_⟩⟩
  intro objs h
  obtain ⟨s, hs, hown⟩ := h
  refine ⟨⟨s.set f reset, ?_, by rwa [hsfd]⟩, Prod.ext rfl ?_, hrest⟩
  · exact (congrArg (fun m : Heap CSocket => m o) (Heap.modify_eq_set _ hs)).trans
      (Heap.set_at hs)
  · have habsorbed : (change setter o objs).modify o (fun s => s.set f reset) =
        objs.modify o fun s => s.set f reset := by
      rw [change, Heap.modify_modify]
      congr 1
      funext s
      exact hundone s
    exact habsorbed

theorem takesOver_moveConstruct (setter : Setter) (o : ObjId) (fd : SOCKET) :
    (moveConstruct o).TakesOver memory (Owns o fd) (fun objs => objs.modify o setter.set)
      (setter.load o) (setter.store o false) := by
  have hmutex : ∀ {objs : Heap CSocket} (n : ObjId) (m : Mutex), Owns o fd objs →
      Blind memory (Owns o fd) (change setter o) (.lock n m) objs ∧
        Blind memory (Owns o fd) (change setter o) (.unlock n m) objs := by
    intro objs n m h
    exact ⟨⟨h, rfl⟩, ⟨h, rfl⟩⟩
  have hunlocks : ∀ n : ObjId, Program.Ignores memory (Owns o fd) (change setter o)
      (.call (.unlock n .mListenMutex) fun _ => .call (.unlock n .mBoundMutex) fun _ => .done n :
        Prog ObjId) := by
    intro n _ h
    refine ⟨(hmutex n _ h).2, ?_⟩
    intro _ h
    exact ⟨(hmutex n _ h).2, trivial⟩
  rw [moveConstruct_eq]
  apply takesOver_call (by simp) (by simp)
  intro objs h
  refine ⟨blind_new h, ?_⟩
  have hne : (memory .new objs).1 ≠ o := by
    obtain ⟨s, hs, _⟩ := h
    exact (Heap.ne_next hs).symm
  generalize (memory .new objs).1 = n at hne ⊢
  apply takesOver_taking hne (by cases setter <;> simp [Setter.flag]) _ fun _ => .inl rfl
  apply takesOver_taking hne (by cases setter <;> simp [Setter.flag]) _ fun _ => .inr rfl
  apply takesOver_call (by simp) (by simp)
  intro _ h
  refine ⟨(hmutex n _ h).1, ?_⟩
  apply takesOver_call (by simp) (by simp)
  intro _ h
  refine ⟨(hmutex n _ h).1, ?_⟩
  cases setter with
  | bind ai =>
    apply takesOver_flag hne _ rfl rfl (fun _ => rfl) (fun _ => rfl)
    exact ignores_taking hne (by simp [Setter.flag]) _ (fun _ => .inl rfl) (hunlocks n)
  | listen =>
    apply takesOver_taking hne (by simp [Setter.flag]) _ fun _ => .inl rfl
    exact takesOver_flag hne _ rfl rfl (fun _ => rfl) (fun _ => rfl) (hunlocks n)

end

end ClientServerTcp
