import ClientServerTcp.System.History

/-! What a function has acquired since it was called: at most one descriptor
and one address list. Everything else it opened was closed once, and every
other list it obtained was freed once. -/
namespace ClientServerTcp

/-- The call can neither open nor close a descriptor, and neither obtain nor
free an address list. -/
def Call.idle : Call → Bool
  | .socket .. | .accept _ | .close _ | .getaddrinfo _ | .freeaddrinfo _ => false
  | _ => true

structure Holding (start : Kernel) (fd : Option SOCKET) (res : Option Ptr) (k : Kernel) : Prop where
  table : ∀ fd', fd ≠ some fd' → k.table fd' = start.table fd'
  opened : ∀ fd', fd = some fd' → start.table fd' = none ∧ (k.table fd').isSome
  lists : ∀ p, res ≠ some p → k.lists p = start.lists p
  obtained : ∀ p, res = some p → start.lists p = none ∧ (k.lists p).isSome
  events : ∃ events, k.trace = events ++ start.trace ∧
    (∀ fd', events.countP (Event.opens fd') =
      events.countP (Event.closes fd') + if fd = some fd' then 1 else 0) ∧
    ∀ p, events.countP (Event.obtains p) =
      events.countP (Event.frees p) + if res = some p then 1 else 0

/-- Everything acquired since `start` was given back once. -/
structure Restored (start k : Kernel) : Prop where
  table : k.table = start.table
  lists : k.lists.cells = start.lists.cells
  events : ∃ events, k.trace = events ++ start.trace ∧
    (∀ fd, events.countP (Event.opens fd) = events.countP (Event.closes fd)) ∧
    ∀ p, events.countP (Event.obtains p) = events.countP (Event.frees p)

namespace Holding

variable {start k : Kernel} {fd : Option SOCKET} {res : Option Ptr} {f : SOCKET}

theorem nothing (k : Kernel) : Holding k none none k where
  table := fun _ _ => rfl
  opened := by simp
  lists := fun _ _ => rfl
  obtained := by simp
  events := ⟨[], rfl, by simp, by simp⟩

private theorem idle_counts {call : Call} (h : call.idle = true) (ret : Int) (error : Option Int)
    (out : Ptr) (fd' : SOCKET) (p : Ptr) :
    Event.opens fd' ⟨call, ret, error, out⟩ = false ∧
      Event.closes fd' ⟨call, ret, error, out⟩ = false ∧
      Event.obtains p ⟨call, ret, error, out⟩ = false ∧
      Event.frees p ⟨call, ret, error, out⟩ = false := by
  cases call <;> first | exact ⟨rfl, rfl, rfl, rfl⟩ | simp [Call.idle] at h

private theorem idle {k' : Kernel} {call : Call} {ret : Int} {error : Option Int} {out : Ptr}
    (h : Holding start fd res k) (hcall : call.idle = true)
    (htrace : k'.trace = ⟨call, ret, error, out⟩ :: k.trace)
    (hlists : k'.lists = k.lists)
    (htable : ∀ fd', fd ≠ some fd' → k'.table fd' = k.table fd')
    (hopened : ∀ fd', fd = some fd' → (k'.table fd').isSome) : Holding start fd res k' where
  table := fun fd' hne => (htable fd' hne).trans (h.table fd' hne)
  opened := fun fd' heq => ⟨(h.opened fd' heq).1, hopened fd' heq⟩
  lists := by
    rw [hlists]
    exact h.lists
  obtained := by
    rw [hlists]
    exact h.obtained
  events := by
    obtain ⟨events, hevents, hfds, hlists⟩ := h.events
    refine ⟨⟨call, ret, error, out⟩ :: events, by rw [htrace, hevents]; rfl, ?_, ?_⟩
    · intro fd'
      obtain ⟨ho, hc, _, _⟩ := idle_counts hcall ret error out fd' 0
      simpa [ho, hc] using hfds fd'
    · intro p
      obtain ⟨_, _, ho, hf⟩ := idle_counts hcall ret error out 0 p
      simpa [ho, hf] using hlists p

theorem log (h : Holding start fd res k) {call : Call} (hcall : call.idle = true) (ret : Int)
    (out : Ptr) : Holding start fd res (k.log call ret out) :=
  h.idle hcall rfl rfl (fun _ _ => rfl) fun fd' heq => (h.opened fd' heq).2

theorem fail (h : Holding start fd res k) {call : Call} (hcall : call.idle = true) (error : Int) :
    Holding start fd res (k.fail call error) :=
  h.idle hcall rfl rfl (fun _ _ => rfl) fun fd' heq => (h.opened fd' heq).2

theorem failed (h : Holding start fd res k) {call : Call} (hcall : call.idle = true) (error : Int) :
    Holding start fd res ((k.fail call error).log .errno error) :=
  (h.fail hcall error).log rfl error 0

theorem modify (h : Holding start (some f) res k) {call : Call} (hcall : call.idle = true)
    (d : Desc) (ret : Int) : Holding start (some f) res ((k.setDesc f (some d)).log call ret) := by
  refine h.idle hcall rfl rfl ?_ ?_
  · intro fd' hne
    have hne' : fd' ≠ f := by
      rintro rfl
      exact hne rfl
    simp [hne']
  · rintro fd' ⟨rfl⟩
    simp

theorem noSocket (h : Holding start fd res k) (domain type protocol error : Int) :
    Holding start fd res ((k.fail (.socket domain type protocol) error).log .errno error) := by
  apply log _ rfl
  obtain ⟨events, hevents, hfds, hlists⟩ := h.events
  exact {
    table := h.table
    opened := h.opened
    lists := h.lists
    obtained := h.obtained
    events := by
      refine ⟨⟨.socket domain type protocol, -1, some error, 0⟩ :: events, ?_, ?_, ?_⟩
      · simp [hevents]
      · intro fd'
        simpa [Event.opens, Event.closes] using hfds fd'
      · intro p
        simpa [Event.obtains, Event.frees] using hlists p }

theorem socket (h : Holding start none res k) (hfree : k.table f = none) (d : Desc)
    (domain type protocol : Int) :
    Holding start (some f) res ((k.setDesc f (some d)).log (.socket domain type protocol) f) where
  table := by
    intro fd' hne
    have hne' : fd' ≠ f := by
      rintro rfl
      exact hne rfl
    simpa [hne'] using h.table fd' (by simp)
  opened := by
    rintro fd' ⟨rfl⟩
    rw [← h.table f (by simp)]
    exact ⟨hfree, by simp⟩
  lists := h.lists
  obtained := h.obtained
  events := by
    obtain ⟨events, hevents, hfds, hlists⟩ := h.events
    refine ⟨⟨.socket domain type protocol, f, none, 0⟩ :: events, ?_, ?_, ?_⟩
    · simp [hevents]
    · intro fd'
      have hcount := hfds fd'
      by_cases heq : f = fd' <;> simp_all [Event.opens, Event.closes]
    · intro p
      simpa [Event.obtains, Event.frees] using hlists p

theorem close (os : OS) (h : Holding start (some f) res k) :
    Holding start none res (k.close os f).2 := by
  obtain ⟨ret, error, htable, htrace, hlists, _⟩ := k.close_effect os f
  exact {
    table := by
      intro fd' _
      rw [htable]
      by_cases heq : fd' = f
      · simp [heq, (h.opened f rfl).1]
      · rw [Function.update_of_ne heq]
        exact h.table fd' (by simpa using Ne.symm heq)
    opened := by simp
    lists := by
      rw [hlists]
      exact h.lists
    obtained := by
      rw [hlists]
      exact h.obtained
    events := by
      obtain ⟨events, hevents, hfds, hlists⟩ := h.events
      refine ⟨⟨.close f, ret, error, 0⟩ :: events, ?_, ?_, ?_⟩
      · simp [htrace, hevents]
      · intro fd'
        have hcount := hfds fd'
        by_cases heq : f = fd' <;> simp_all [Event.opens, Event.closes]
      · intro p
        simpa [Event.obtains, Event.frees] using hlists p }

theorem noList (h : Holding start fd res k) (q : Query) {error : Int} (herror : error ≠ 0) :
    Holding start fd res (k.log (.getaddrinfo q) error) where
  table := h.table
  opened := h.opened
  lists := h.lists
  obtained := h.obtained
  events := by
    obtain ⟨events, hevents, hfds, hlists⟩ := h.events
    refine ⟨⟨.getaddrinfo q, error, none, 0⟩ :: events, ?_, ?_, ?_⟩
    · simp [hevents]
    · intro fd'
      simpa [Event.opens, Event.closes] using hfds fd'
    · intro p
      simpa [Event.obtains, Event.frees, herror] using hlists p

theorem list (h : Holding start fd none k) (q : Query) (l : AddrList) :
    Holding start fd (some k.lists.next)
      ((k.setLists (k.lists.alloc l)).log (.getaddrinfo q) 0 k.lists.next) where
  table := h.table
  opened := h.opened
  lists := by
    intro p hne
    have hne' : p ≠ k.lists.next := by
      rintro rfl
      exact hne rfl
    simpa [hne'] using h.lists p (by simp)
  obtained := by
    rintro p ⟨rfl⟩
    rw [← h.lists k.lists.next (by simp)]
    exact ⟨k.lists.cells_next, by simp⟩
  events := by
    obtain ⟨events, hevents, hfds, hlists⟩ := h.events
    refine ⟨⟨.getaddrinfo q, 0, none, k.lists.next⟩ :: events, ?_, ?_, ?_⟩
    · simp [hevents]
    · intro fd'
      simpa [Event.opens, Event.closes] using hfds fd'
    · intro p
      have hcount := hlists p
      by_cases heq : k.lists.next = p <;> simp_all [Event.obtains, Event.frees]

theorem free {p : Ptr} (h : Holding start fd (some p) k) :
    Holding start fd none (k.freeaddrinfo p) where
  table := h.table
  opened := h.opened
  lists := by
    intro p' _
    by_cases heq : p' = p
    · simp [Kernel.freeaddrinfo, heq, (h.obtained p rfl).1]
    · simpa [Kernel.freeaddrinfo, heq] using h.lists p' (by simpa using Ne.symm heq)
  obtained := by simp
  events := by
    obtain ⟨events, hevents, hfds, hlists⟩ := h.events
    refine ⟨⟨.freeaddrinfo p, 0, none, 0⟩ :: events, ?_, ?_, ?_⟩
    · simp [Kernel.freeaddrinfo, hevents]
    · intro fd'
      simpa [Event.opens, Event.closes] using hfds fd'
    · intro p'
      have hcount := hlists p'
      by_cases heq : p = p' <;> simp_all [Event.obtains, Event.frees]

theorem restored (h : Holding start none none k) : Restored start k where
  table := funext fun fd => h.table fd (by simp)
  lists := funext fun p => h.lists p (by simp)
  events := by simpa using h.events

end Holding
end ClientServerTcp
