import Mathlib.Logic.Function.Basic

/-! Memory that is handed out in cells. An address is given out once, and every
address that was not given out yet is free: a heap without free addresses cannot
be built. -/
namespace Memory

@[ext] structure Heap (α : Type) where
  cells : Nat → Option α
  next : Nat
  fresh : ∀ p, next ≤ p → cells p = none

namespace Heap

variable {α β : Type}

instance : CoeFun (Heap α) fun _ => Nat → Option α := ⟨cells⟩

/-- Nothing is allocated, and `first` is the first address to be given out. -/
def empty (first : Nat) : Heap α := ⟨fun _ => none, first, fun _ _ => rfl⟩

def alloc (h : Heap α) (a : α) : Heap α where
  cells := Function.update h h.next (some a)
  next := h.next + 1
  fresh := by
    intro p hp
    rw [Function.update_of_ne (Nat.ne_of_gt hp)]
    exact h.fresh p (Nat.le_of_succ_le hp)

def free (h : Heap α) (p : Nat) : Heap α where
  cells := Function.update h p none
  next := h.next
  fresh := by
    intro q hq
    by_cases heq : q = p
    · rw [heq, Function.update_self]
    · rw [Function.update_of_ne heq]
      exact h.fresh q hq

/-- Write to a cell. Nothing happens at an address that is free. -/
def modify (h : Heap α) (p : Nat) (f : α → α) : Heap α where
  cells := Function.update h p ((h p).map f)
  next := h.next
  fresh := by
    intro q hq
    by_cases heq : q = p
    · rw [heq, Function.update_self, ← heq, h.fresh q hq, Option.map_none]
    · rw [Function.update_of_ne heq]
      exact h.fresh q hq

def set (h : Heap α) (p : Nat) (a : α) : Heap α := h.modify p fun _ => a

/-- An address is given out, and nothing is put there. -/
def skip (h : Heap α) : Heap α where
  cells := h
  next := h.next + 1
  fresh := fun p hp => h.fresh p (Nat.le_of_succ_le hp)

section
variable (h : Heap α) (a : α) (p : Nat) (f : α → α)

@[simp] theorem cells_empty (first : Nat) : (empty first : Heap α).cells = fun _ => none := rfl
@[simp] theorem next_empty (first : Nat) : (empty first : Heap α).next = first := rfl
@[simp] theorem cells_alloc : (h.alloc a).cells = Function.update h h.next (some a) := rfl
@[simp] theorem next_alloc : (h.alloc a).next = h.next + 1 := rfl
@[simp] theorem cells_free : (h.free p).cells = Function.update h p none := rfl
@[simp] theorem next_free : (h.free p).next = h.next := rfl
@[simp] theorem cells_modify : (h.modify p f).cells = Function.update h p ((h p).map f) := rfl
@[simp] theorem next_modify : (h.modify p f).next = h.next := rfl
@[simp] theorem cells_skip : h.skip.cells = h := rfl
@[simp] theorem next_skip : h.skip.next = h.next + 1 := rfl
@[simp] theorem cells_next : h h.next = none := h.fresh _ (Nat.le_refl _)

end

variable {h h' : Heap α} {a b c : α} {p q : Nat}

theorem lt_next (hp : h p = some a) : p < h.next := by
  by_contra hle
  simp [h.fresh p (Nat.le_of_not_lt hle)] at hp

theorem ne_next (hp : h p = some a) : p ≠ h.next := Nat.ne_of_lt (lt_next hp)

theorem alloc_next : (h.alloc a) h.next = some a := Function.update_self ..

theorem alloc_of (hp : h p = some a) : (h.alloc b) p = some a := by
  rw [cells_alloc, Function.update_of_ne (ne_next hp), hp]

theorem cells_set (hp : h p = some b) : (h.set p a).cells = Function.update h p (some a) := by
  rw [set, cells_modify, hp, Option.map_some]

theorem set_at (hp : h p = some b) : (h.set p a) p = some a := by
  rw [cells_set hp, Function.update_self]

theorem set_of_ne (hne : q ≠ p) : (h.set p a) q = h q := Function.update_of_ne hne ..

theorem free_of_ne (hne : q ≠ p) : (h.free p) q = h q := Function.update_of_ne hne ..

theorem set_self (hp : h p = some a) : h.set p a = h := by
  apply Heap.ext
  · rw [cells_set hp, ← hp, Function.update_eq_self]
  · rfl

theorem modify_eq_set (f : α → α) (hp : h p = some a) : h.modify p f = h.set p (f a) := by
  apply Heap.ext
  · rw [cells_set hp, cells_modify, hp, Option.map_some]
  · rfl

@[simp] theorem modify_modify (f g : α → α) : (h.modify p f).modify p g = h.modify p (g ∘ f) := by
  apply Heap.ext
  · simp
  · rfl

@[simp] theorem modify_set (f : α → α) : (h.set p a).modify p f = h.set p (f a) :=
  modify_modify _ f

@[simp] theorem set_set : (h.set p a).set p b = h.set p b := modify_set _

@[simp] theorem free_modify (f : α → α) : (h.modify p f).free p = h.free p := by
  apply Heap.ext
  · simp
  · rfl

@[simp] theorem modify_alloc (f : α → α) : (h.alloc a).modify h.next f = h.alloc (f a) := by
  apply Heap.ext
  · simp
  · rfl

@[simp] theorem set_alloc : (h.alloc a).set h.next b = h.alloc b := modify_alloc _

@[simp] theorem free_alloc : (h.alloc a).free h.next = h.skip := by
  apply Heap.ext
  · simp only [cells_free, cells_alloc, Function.update_idem, cells_skip]
    rw [← h.cells_next, Function.update_eq_self]
  · rfl

theorem alloc_set (hp : h p = some b) : (h.alloc a).set p c = (h.set p c).alloc a := by
  have hne := ne_next hp
  apply Heap.ext
  · simp only [set, cells_modify, cells_alloc, next_modify, Function.update_of_ne hne]
    exact Function.update_comm hne.symm ..
  · rfl

/-! ## What holds of every cell -/

def All (P : α → Prop) (h : Heap α) : Prop := ∀ p a, h p = some a → P a

namespace All

variable {P : α → Prop}

theorem empty (first : Nat) : All P (empty first) := by
  intro p a hp
  simp at hp

private theorem update {s : Option α} (hall : All P h) (hs : ∀ a, s = some a → P a)
    (hcells : h'.cells = Function.update h p s) : All P h' := by
  intro q a hq
  rw [hcells] at hq
  by_cases heq : q = p
  · exact hs a (by simpa [heq] using hq)
  · exact hall q a (by simpa [heq] using hq)

theorem alloc (hall : All P h) (ha : P a) : All P (h.alloc a) := by
  apply hall.update _ rfl
  rintro _ ⟨rfl⟩
  exact ha

theorem set (hall : All P h) (ha : P a) : All P (h.set p a) := by
  apply hall.update _ rfl
  intro a' h'
  obtain ⟨_, _, rfl⟩ := Option.map_eq_some_iff.mp h'
  exact ha

theorem free (hall : All P h) (p : Nat) : All P (h.free p) := hall.update (by simp) rfl

theorem skip (hall : All P h) : All P h.skip := hall

end All

/-! ## What the cells show of themselves -/

def view (f : α → Option β) (h : Heap α) (p : Nat) : Option β := (h p).bind f

section
variable (f : α → Option β)

theorem view_of (hp : h p = some a) : h.view f p = f a := by
  rw [view, hp, Option.bind_some]

@[simp] theorem view_next : h.view f h.next = none := by
  rw [view, cells_next, Option.bind_none]

private theorem view_update {s : Option α} (hcells : h'.cells = Function.update h p s) :
    h'.view f = Function.update (h.view f) p (s.bind f) := by
  funext q
  by_cases heq : q = p
  · simp [view, hcells, heq]
  · simp [view, hcells, heq]

@[simp] theorem view_alloc :
    (h.alloc a).view f = Function.update (h.view f) h.next (f a) :=
  view_update (s := some a) f rfl

theorem view_set (hp : h p = some b) :
    (h.set p a).view f = Function.update (h.view f) p (f a) := view_update f (cells_set hp)

@[simp] theorem view_free : (h.free p).view f = Function.update (h.view f) p none :=
  view_update (s := none) f rfl

@[simp] theorem view_skip : h.skip.view f = h.view f := rfl

end
end Heap
end Memory
