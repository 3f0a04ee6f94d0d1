import ClientServerTcp.Addrinfo.Observation

/-! Two platforms answer one query with lists that differ in protocol numbers and
flags. A `CAddrinfo` hides the difference in the head of its list only. -/
namespace ClientServerTcp
open Effects Program CAddrinfo Memory

/-- An entry without the two members that platforms fill in differently. -/
def Addrinfo.stripped (e : Addrinfo) : Addrinfo := { e with aiProtocol := 0, aiFlags := 0 }

def Addrinfo.marked (aProtocol aFlags : Int) (e : Addrinfo) : Addrinfo :=
  { e with aiProtocol := aProtocol, aiFlags := aFlags }

def Addrinfo.isMarked (aProtocol aFlags : Int) (e : Addrinfo) : Prop :=
  e.aiProtocol = aProtocol ∧ e.aiFlags = aFlags

@[simp] theorem Addrinfo.marked_stripped (aProtocol aFlags : Int) (e : Addrinfo) :
    e.stripped.marked aProtocol aFlags = e.marked aProtocol aFlags := rfl

theorem Addrinfo.marked_of_isMarked {aProtocol aFlags : Int} {e : Addrinfo}
    (h : e.isMarked aProtocol aFlags) : e.marked aProtocol aFlags = e := by
  rw [marked, ← h.1, ← h.2]

theorem map_marked_of_stripped {l₁ l₂ : List Addrinfo} (aProtocol aFlags : Int)
    (h : l₁.map Addrinfo.stripped = l₂.map Addrinfo.stripped) :
    l₁.map (Addrinfo.marked aProtocol aFlags) = l₂.map (Addrinfo.marked aProtocol aFlags) := by
  have hmarked : ∀ l : List Addrinfo, l.map (Addrinfo.marked aProtocol aFlags) =
      (l.map Addrinfo.stripped).map (Addrinfo.marked aProtocol aFlags) := by
    intro l
    rw [List.map_map]
    rfl
  rw [hmarked l₁, hmarked l₂, h]

/-- Everything a caller can read: the text, the port, and the list that is
reached through `operator->` and `ai_next`. -/
def survey (inetNtop : Int → Bytes → Option String) (aNode aService : String)
    (aFamily aSocktype aFlags aProtocol : Int) : Prog (String × UInt16 × List Addrinfo) := do
  let ai ← construct aNode aService aFamily aSocktype aFlags aProtocol
  let addrStr ← addrStr inetNtop ai
  let port ← port ai
  let list ← entries ai
  return (addrStr, port, list)

/-- Two surveys agree, and all they list is marked with what the caller wanted. -/
def Independent (aProtocol aFlags : Int)
    (r₁ r₂ : Except Exn (String × UInt16 × List Addrinfo)) : Prop :=
  r₁ = r₂ ∧ ∃ addrStr port list, r₁ = .ok (addrStr, port, list) ∧
    ∀ e ∈ list, e.isMarked aProtocol aFlags

def wanted (aNode aService : String) (aFamily aSocktype aFlags aProtocol : Int) : Query :=
  CAddrinfo.query { mNode := aNode, mService := aService, mHints := {
    aiFlags := aFlags, aiFamily := aFamily, aiSocktype := aSocktype, aiProtocol := aProtocol } }

section
variable {inetNtop : Int → Bytes → Option String} {aNode aService : String}
  {aFamily aSocktype aFlags aProtocol : Int}

theorem run_survey {os : OS} {w : World} {e : Addrinfo} {rest : List Addrinfo}
    (hanswer : os.getaddrinfo w.kernel
      (wanted aNode aService aFamily aSocktype aFlags aProtocol) = .ok (e :: rest)) :
    ((survey inetNtop aNode aService aFamily aSocktype aFlags aProtocol).run (step os) w).1 =
      .ok (hostText inetNtop e, ntohs (sin6Port e.aiAddr),
        e.marked aProtocol aFlags :: rest) := by
  let a : CAddrinfo := { mNode := aNode, mService := aService, mHints := {
    aiFlags := aFlags, aiFamily := aFamily, aiSocktype := aSocktype, aiProtocol := aProtocol } }
  let w₁ : World := { w with
    kernel := obtained w.kernel a.query (e :: rest)
    infos := w.infos.alloc { a with mRes := w.kernel.lists.next } }
  have hinfo : w₁.infos w.infos.next = some { a with mRes := w.kernel.lists.next } :=
    Heap.alloc_next
  have hlist : w₁.kernel.lists w.kernel.lists.next =
      some ⟨a.query, e :: rest, normalised a.query.hints (e :: rest)⟩ := Heap.alloc_next
  have hconstruct : (construct aNode aService aFamily aSocktype aFlags aProtocol).run (step os) w =
      (.ok w.infos.next, w₁) := by
    have hasked : os.getaddrinfo w.kernel a.query = .ok (e :: rest) := hanswer
    rw [run_construct, created, hasked]
  have harrow := run_arrow os hinfo hlist rfl
  suffices h : (survey inetNtop aNode aService aFamily aSocktype aFlags aProtocol).run
      (step os) w = (.ok (hostText inetNtop e, ntohs (sin6Port e.aiAddr),
        e.marked aProtocol aFlags :: rest), w₁) by
    rw [h]
  apply run_of_wp
  rw [survey, wp_bind', wp_of_run _ hconstruct, wp_bind',
    wp_of_run _ (run_addrStr os inetNtop harrow), wp_bind', wp_of_run _ (run_port os harrow)]
  simp only [entries, wp_bind', Sys.wp_loadInfo_mRes, Sys.wp_readRes, hinfo, Option.getD_some,
    hlist, Option.map_some, wp_pure]
  exact ⟨rfl, trivial⟩

theorem eq_of_stripped {α : Type} {f : Addrinfo → α} (hf : ∀ e, f e.stripped = f e)
    {e₁ e₂ : Addrinfo} (h : e₁.stripped = e₂.stripped) : f e₁ = f e₂ := by
  rw [← hf e₁, ← hf e₂, h]

/-- Two platforms look the same exactly when every entry after the first has the
protocol and the flags of the hints already. -/
theorem independent_iff (inetNtop : Int → Bytes → Option String) (os₁ os₂ : OS) (w₁ w₂ : World)
    (aNode aService : String) (aFamily aSocktype aFlags aProtocol : Int)
    (l₁ l₂ : List Addrinfo)
    (h₁ : os₁.getaddrinfo w₁.kernel
      (wanted aNode aService aFamily aSocktype aFlags aProtocol) = .ok l₁)
    (h₂ : os₂.getaddrinfo w₂.kernel
      (wanted aNode aService aFamily aSocktype aFlags aProtocol) = .ok l₂)
    (hsame : l₁.map Addrinfo.stripped = l₂.map Addrinfo.stripped) :
    Independent aProtocol aFlags
      ((survey inetNtop aNode aService aFamily aSocktype aFlags aProtocol).run (step os₁) w₁).1
      ((survey inetNtop aNode aService aFamily aSocktype aFlags aProtocol).run (step os₂) w₂).1 ↔
    ∀ e ∈ l₁.tail ++ l₂.tail, e.isMarked aProtocol aFlags := by
  obtain ⟨e₁, rest₁, rfl⟩ := List.exists_cons_of_ne_nil (os₁.getaddrinfo_ne h₁)
  obtain ⟨e₂, rest₂, rfl⟩ := List.exists_cons_of_ne_nil (os₂.getaddrinfo_ne h₂)
  rw [List.map_cons, List.map_cons, List.cons.injEq] at hsame
  obtain ⟨hhead, htail⟩ := hsame
  have hmarked : e₁.marked aProtocol aFlags = e₂.marked aProtocol aFlags :=
    eq_of_stripped (Addrinfo.marked_stripped _ _) hhead
  rw [run_survey h₁, run_survey h₂, List.tail_cons, List.tail_cons]
  constructor
  · intro ⟨hequal, addrStr, port, list, hlist, hall⟩ e he
    simp only [Except.ok.injEq, Prod.mk.injEq] at hequal hlist
    have hrest : rest₁ = rest₂ := (List.cons.inj hequal.2.2).2
    rw [← hrest, List.mem_append, or_self] at he
    apply hall
    rw [← hlist.2.2]
    exact List.mem_cons_of_mem _ he
  · intro hall
    have hmap : ∀ rest : List Addrinfo, (∀ e ∈ rest, e.isMarked aProtocol aFlags) →
        rest.map (Addrinfo.marked aProtocol aFlags) = rest := by
      intro rest hrest
      rw [List.map_congr_left fun e he => Addrinfo.marked_of_isMarked (hrest e he)]
      exact List.map_id' rest
    have hrest : rest₁ = rest₂ := by
      calc rest₁ = rest₁.map (Addrinfo.marked aProtocol aFlags) :=
            (hmap rest₁ fun e he => hall e (List.mem_append_left _ he)).symm
        _ = rest₂.map (Addrinfo.marked aProtocol aFlags) :=
            map_marked_of_stripped aProtocol aFlags htail
        _ = rest₂ := hmap rest₂ fun e he => hall e (List.mem_append_right _ he)
    refine ⟨?_, _, _, _, rfl, ?_⟩
    · have haddr : e₁.aiAddr = e₂.aiAddr := eq_of_stripped (fun _ => rfl) hhead
      have htext : hostText inetNtop e₁ = hostText inetNtop e₂ :=
        eq_of_stripped (fun _ => rfl) hhead
      rw [htext, haddr, hmarked, hrest]
    · intro e he
      rcases List.mem_cons.mp he with rfl | he
      · exact ⟨rfl, rfl⟩
      · exact hall e (List.mem_append_left _ he)

end

def OS.answering (list : List Addrinfo) (hne : list ≠ []) : OS := { OS.obliging with
  getaddrinfo := fun _ _ => .ok list
  getaddrinfo_ne := by
    intro k q l h
    rw [← Except.ok.inj h]
    exact hne
  getaddrinfo_err := by simp }

def loopbacks (protocol : Int) : List Addrinfo :=
  [{ loopback6 0x11 0x51 with aiProtocol := protocol },
    { loopback4 0x11 0x51 with aiProtocol := protocol }]

def OS.loopbacks (protocol : Int) : OS :=
  .answering (ClientServerTcp.loopbacks protocol) (List.cons_ne_nil _ _)

def ipprotoTcp : Int := 6

theorem independent_iff_loopbacks :
    Independent 0 0
      ((survey plainNtop "" "4433" afUnspec sockStream 0 0).run
        (step (.loopbacks ipprotoTcp)) .initial).1
      ((survey plainNtop "" "4433" afUnspec sockStream 0 0).run (step (.loopbacks 0)) .initial).1 ↔
    ∀ e ∈ (loopbacks ipprotoTcp).tail ++ (loopbacks 0).tail, e.isMarked 0 0 :=
  independent_iff plainNtop (.loopbacks ipprotoTcp) (.loopbacks 0) .initial .initial "" "4433"
    afUnspec sockStream 0 0 (loopbacks ipprotoTcp) (loopbacks 0) rfl rfl rfl

/-- The second entry still tells a platform that fills in IPPROTO_TCP from one
that fills in 0. -/
theorem second_entry_differs : ¬ ∀ (os₁ os₂ : OS) (l₁ l₂ : List Addrinfo),
    os₁.getaddrinfo World.initial.kernel (wanted "" "4433" afUnspec sockStream 0 0) = .ok l₁ →
    os₂.getaddrinfo World.initial.kernel (wanted "" "4433" afUnspec sockStream 0 0) = .ok l₂ →
    l₁.map Addrinfo.stripped = l₂.map Addrinfo.stripped →
    Independent 0 0
      ((survey plainNtop "" "4433" afUnspec sockStream 0 0).run (step os₁) .initial).1
      ((survey plainNtop "" "4433" afUnspec sockStream 0 0).run (step os₂) .initial).1 := by
  intro h
  have hequal := (h (.loopbacks ipprotoTcp) (.loopbacks 0) _ _ rfl rfl rfl).1
  rw [run_survey (show (OS.loopbacks ipprotoTcp).getaddrinfo _ _ = .ok (_ :: _) from rfl),
    run_survey (show (OS.loopbacks 0).getaddrinfo _ _ = .ok (_ :: _) from rfl)] at hequal
  simp only [Except.ok.injEq, Prod.mk.injEq, List.cons.injEq] at hequal
  exact absurd hequal.2.2.2 (by decide)

end ClientServerTcp
