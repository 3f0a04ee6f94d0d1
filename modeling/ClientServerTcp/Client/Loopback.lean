import ClientServerTcp.Addrinfo.Platforms
import ClientServerTcp.Client.Quit

/-! The address that `quit_server` connects to is the head of the resolver's
answer, whatever the family of the socket it has opened before. -/
namespace ClientServerTcp
open Effects Program CSocket

/-- `sa_family` of an address, on a little endian host. -/
def saFamily (addr : Bytes) : Int := (addr.getD 0 0).toNat + 256 * (addr.getD 1 0).toNat

/-- An entry for the loopback interface and port 4433, of either family. -/
def Addrinfo.isLoopback (e : Addrinfo) : Prop :=
  e.stripped = loopback6 0x11 0x51 ∨ e.stripped = loopback4 0x11 0x51

theorem Addrinfo.isLoopback.saFamily {e : Addrinfo} (h : e.isLoopback) :
    ClientServerTcp.saFamily e.aiAddr = e.aiFamily := by
  rcases h with h | h
  · have haddr : e.aiAddr = (loopback6 0x11 0x51).aiAddr := eq_of_stripped (fun _ => rfl) h
    have hfamily : e.aiFamily = (loopback6 0x11 0x51).aiFamily := eq_of_stripped (fun _ => rfl) h
    rw [haddr, hfamily]
    decide
  · have haddr : e.aiAddr = (loopback4 0x11 0x51).aiAddr := eq_of_stripped (fun _ => rfl) h
    have hfamily : e.aiFamily = (loopback4 0x11 0x51).aiFamily := eq_of_stripped (fun _ => rfl) h
    rw [haddr, hfamily]
    decide

/-! ## Addresses in the log -/

/-- Every `connect` among the events, the newest first, passes an address of the
family that its descriptor was opened with. -/
def connectsFit (start : List Event) : List Event → Prop
  | [] => True
  | e :: events =>
    (∀ fd addr addrlen, e.call = .connect fd addr addrlen →
      saFamily addr = openDomain fd (events ++ start)) ∧ connectsFit start events

def Event.connectless (e : Event) : Prop := ∀ fd addr addrlen, e.call ≠ .connect fd addr addrlen

theorem connectsFit_connectless {start events : List Event} (h : ∀ e ∈ events, e.connectless) :
    connectsFit start events := by
  induction events with
  | nil => trivial
  | cons e events ih =>
    refine ⟨?_, ih fun e' he' => h e' (List.mem_cons_of_mem _ he')⟩
    intro fd addr addrlen hcall
    exact absurd hcall (h e List.mem_cons_self fd addr addrlen)

theorem connectsFit_append (start newer older : List Event) :
    connectsFit start (newer ++ older) ↔
      connectsFit (older ++ start) newer ∧ connectsFit start older := by
  induction newer with
  | nil => simp [connectsFit]
  | cons e newer ih =>
    rw [List.cons_append, connectsFit, connectsFit, ih, List.append_assoc, and_assoc]

theorem connectsFit_single {start newer older : List Event} {fd : SOCKET} {addr : Bytes}
    {addrlen : Nat} {ret : Int} {errno : Option Int} {out : Ptr}
    (hnewer : ∀ e ∈ newer, e.connectless) (holder : ∀ e ∈ older, e.connectless) :
    connectsFit start (newer ++ ⟨.connect fd addr addrlen, ret, errno, out⟩ :: older) ↔
      saFamily addr = openDomain fd (older ++ start) := by
  rw [connectsFit_append, connectsFit]
  constructor
  · intro ⟨_, hfit, _⟩
    exact hfit fd addr addrlen rfl
  · intro hfit
    refine ⟨connectsFit_connectless hnewer, ?_, connectsFit_connectless holder⟩
    intro fd' addr' addrlen' hcall
    cases hcall
    exact hfit

theorem openDomain_append {fd : SOCKET} {events trace : List Event}
    (h : ∀ e ∈ events, e.opens fd = false) :
    openDomain fd (events ++ trace) = openDomain fd trace := by
  induction events with
  | nil => rfl
  | cons e events ih =>
    rw [List.cons_append, openDomain_cons fd e _ (h e List.mem_cons_self)]
    exact ih fun e' he' => h e' (List.mem_cons_of_mem _ he')

/-! ## The log of `quit_server` -/

section
variable {os : OS} {k k' : Kernel}

theorem Constructed.connectless {domain type protocol : Int} {error : RuntimeError}
    (h : Constructed os k domain type protocol (.error error) k') :
    ∃ events, k'.trace = events ++ k.trace ∧ ∀ e ∈ events, e.connectless := by
  rcases h.trace_error with ⟨number, _, htrace⟩ |
    ⟨errmsg, fd, level, optname, number, ret, closeError, options, _, _, hoptions, htrace⟩
  · refine ⟨[⟨.errno, number, none, 0⟩, ⟨.socket domain type protocol, -1, some number, 0⟩],
      htrace, ?_⟩
    simp [Event.connectless]
  · refine ⟨⟨.errno, closeError.getD number, none, 0⟩ :: ⟨.close fd, ret, closeError, 0⟩ ::
      ⟨.setsockopt fd level optname 0, -1, some number, 0⟩ :: options ++
      [⟨.socket domain type protocol, fd, none, 0⟩], by simp [htrace], ?_⟩
    intro e he
    simp only [List.cons_append, List.mem_cons, List.mem_append, List.not_mem_nil, or_false] at he
    rcases he with rfl | rfl | rfl | he | rfl
    · simp [Event.connectless]
    · simp [Event.connectless]
    · simp [Event.connectless]
    · obtain ⟨level', optname', rfl⟩ := hoptions e he
      simp [Event.connectless]
    · simp [Event.connectless]

theorem Delivery.log {fd : SOCKET} {d : Desc} {res : Addrinfo} {r : Except RuntimeError Unit}
    (h : Delivery os k fd d res r k') : ∃ newer ret errno,
      k'.trace = newer ++ ⟨.connect fd res.aiAddr res.aiAddrlen, ret, errno, 0⟩ :: k.trace ∧
        ∀ e ∈ newer, e.connectless := by
  cases h with
  | refused error h =>
    exact ⟨[⟨.errno, error, none, 0⟩], _, _, rfl, by simp [Event.connectless]⟩
  | unsent error h hsend =>
    exact ⟨[⟨.errno, error, none, 0⟩, ⟨.send fd [charQ], -1, some error, 0⟩], _, _, rfl,
      by simp [Event.connectless]⟩
  | untaken h hsend =>
    exact ⟨[⟨.errno, k.errno, none, 0⟩, ⟨.send fd [charQ], 0, none, 0⟩], _, _, rfl,
      by simp [Event.connectless]⟩
  | sent h hsend =>
    obtain ⟨ret, error, htrace⟩ := sent_trace os fd res k d
    exact ⟨[⟨.shutdown fd shutRdwr, ret, error, 0⟩, ⟨.send fd [charQ], 1, none, 0⟩], _, _, htrace,
      by simp [Event.connectless]⟩

theorem Quits.connects {r : Except RuntimeError Unit} (h : Quits os k r k') :
    ∃ events, k'.trace = events ++ k.trace ∧
      ((∀ e ∈ events, e.connectless) ∧
        ((∃ error k₁, Constructed os k afInet6 sockStream 0 (.error error) k₁) ∨
          ∃ k₁ error, os.getaddrinfo k₁ quitInfo.query = .error error) ∨
      ∃ k₁ entry rest,
        os.getaddrinfo k₁ quitInfo.query = .ok (entry :: rest) ∧
          (connectsFit k.trace events ↔ saFamily entry.aiAddr = afInet6)) := by
  cases h with
  | noSocket error _ h =>
    obtain ⟨events, htrace, hevents⟩ := Constructed.connectless h
    exact ⟨events, htrace, .inl ⟨hevents, .inl ⟨error, _, h⟩⟩⟩
  | noAddress s k₁ error h hanswer =>
    obtain ⟨options, htrace, hoptions⟩ := h.trace_ok (by decide)
    obtain ⟨ret, closeError, _, hclosed, _⟩ :=
      (k₁.log (.getaddrinfo quitInfo.query) error).close_effect os s.mSfd
    refine ⟨⟨.close s.mSfd, ret, closeError, 0⟩ :: ⟨.getaddrinfo quitInfo.query, error, none, 0⟩ ::
      options ++ [⟨.socket afInet6 sockStream 0, s.mSfd, none, 0⟩], ?_,
      .inl ⟨?_, .inr ⟨k₁, error, hanswer⟩⟩⟩
    · simp [hclosed, htrace]
    · intro e he
      simp only [List.cons_append, List.mem_cons, List.mem_append, List.not_mem_nil, or_false] at he
      rcases he with rfl | rfl | he | rfl
      · simp [Event.connectless]
      · simp [Event.connectless]
      · obtain ⟨level, optname, rfl⟩ := hoptions e he
        simp [Event.connectless]
      · simp [Event.connectless]
  | attempted s k₁ k₂ d entry rest _ h hopen hanswer hdelivery =>
    obtain ⟨newer, r, errno, hlog, hnewer⟩ := hdelivery.log
    obtain ⟨ret, error, options, hoptions, htrace⟩ := attempted_trace (newer ++
      [⟨.connect s.mSfd entry.aiAddr entry.aiAddrlen, r, errno, 0⟩]) h
      (by simpa [quitAddress] using hlog)
    have hcloses : ∀ e ∈ ([⟨.close s.mSfd, ret, error, 0⟩,
        ⟨.freeaddrinfo k₁.lists.next, 0, none, 0⟩] : List Event) ++ newer, e.connectless := by
      intro e he
      simp only [List.mem_append, List.mem_cons, List.not_mem_nil, or_false] at he
      rcases he with (rfl | rfl) | he
      · simp [Event.connectless]
      · simp [Event.connectless]
      · exact hnewer e he
    let older : List Event := ⟨.getaddrinfo quitInfo.query, 0, none, k₁.lists.next⟩ :: (options ++
      [⟨.socket afInet6 sockStream 0, s.mSfd, none, 0⟩])
    have holder : ∀ e ∈ older, e.connectless := by
      intro e he
      simp only [older, List.mem_cons, List.mem_append, List.not_mem_nil, or_false] at he
      rcases he with rfl | he | rfl
      · simp [Event.connectless]
      · obtain ⟨level, optname, rfl⟩ := hoptions e he
        simp [Event.connectless]
      · simp [Event.connectless]
    have hopens : openDomain s.mSfd (older ++ k.trace) = afInet6 := by
      have hquiet :
          ∀ e ∈ (⟨.getaddrinfo quitInfo.query, 0, none, k₁.lists.next⟩ : Event) :: options,
          e.opens s.mSfd = false := by
        intro e he
        rcases List.mem_cons.mp he with rfl | he
        · rfl
        · obtain ⟨level, optname, rfl⟩ := hoptions e he
          rfl
      simp only [older]
      rw [← List.cons_append, List.append_assoc, openDomain_append hquiet]
      simp [openDomain, Event.opens]
    refine ⟨([⟨.close s.mSfd, ret, error, 0⟩,
      ⟨.freeaddrinfo k₁.lists.next, 0, none, 0⟩] ++ newer) ++
      ⟨.connect s.mSfd entry.aiAddr entry.aiAddrlen, r, errno, 0⟩ :: older, ?_, .inr ?_⟩
    · rw [htrace]
      simp [older]
    · refine ⟨k₁, entry, rest, hanswer, ?_⟩
      rw [connectsFit_single hcloses holder, hopens]

end

/-! ## Every answer of the resolver -/

/-- The resolver answers `quit_server` with a list, and a socket of the family
AF_INET6 cannot be connected to an address of the family AF_INET. -/
structure OS.Loopback (os : OS) (list : List Addrinfo) : Prop where
  answer : ∀ k, os.getaddrinfo k quitInfo.query = .ok list
  separate : ∀ k fd d addr addrlen, k.table fd = some d → d.domain = afInet6 →
    saFamily addr = afInet → ∃ error, os.connect k fd addr addrlen = some error

/-- No call of `quit_server` fails, except perhaps `connect`. -/
structure OS.Willing (os : OS) (k : Kernel) : Prop where
  socket : ∃ fd, os.socket k afInet6 sockStream 0 = .ok fd
  setsockopt : ∀ k fd level optname value, os.setsockopt k fd level optname value = none
  send : ∀ k fd msg, os.send k fd msg = .ok msg.length

/-- A server accepts connections to an address. -/
def OS.Reaches (os : OS) (e : Addrinfo) : Prop :=
  ∀ k fd, os.connect k fd e.aiAddr e.aiAddrlen = none

/-- With this answer `quit_server` connects with an address that fits its socket,
and reaches a server that listens on an entry of the family AF_INET6. -/
def FitsSocket (list : List Addrinfo) : Prop :=
  ∀ (os : OS) (w : World), os.Loopback list →
    (∃ events, (quitServer.run (step os) w).2.kernel.trace = events ++ w.kernel.trace ∧
      connectsFit w.kernel.trace events) ∧
    ∀ e ∈ list, e.aiFamily = afInet6 → os.Willing w.kernel → os.Reaches e →
      ∃ w', quitServer.run (step os) w = (.ok (), w') ∧ Delivered w.kernel w'.kernel

section
variable {os : OS} {w : World} {list : List Addrinfo}

/-- Every run ends in one of the ways that `Quits` lists. -/
theorem quits (os : OS) (w : World) :
    ∃ r, Quits os w.kernel r (quitServer.run (step os) w).2.kernel ∧
    (quitServer.run (step os) w).1 = r.mapError Exn.thrown := by
  have hexits := exits_run (step os) (wp_quitServer os (w := w))
  revert hexits
  rcases quitServer.run (step os) w with ⟨_ | _, w'⟩
  · intro ⟨error, hthrown, hquits⟩
    exact ⟨.error error, hquits, by rw [hthrown]; rfl⟩
  · intro hquits
    exact ⟨.ok (), hquits, rfl⟩

theorem OS.Willing.constructed {k k' : Kernel} {error : RuntimeError} (h : os.Willing k) :
    ¬Constructed os k afInet6 sockStream 0 (.error error) k' := by
  intro hconstructed
  obtain ⟨fd, hsocket⟩ := h.socket
  cases hconstructed with
  | socket number h' => simp [hsocket] at h'
  | reuseaddr fd' number _ _ hrefused _ => simp [h.setsockopt] at hrefused
  | v6only fd' number _ _ _ hrefused _ => simp [h.setsockopt] at hrefused

theorem Quits.returns {k k' : Kernel} {entry : Addrinfo} {rest : List Addrinfo}
    {r : Except RuntimeError Unit} (h : Quits os k r k') (hos : os.Loopback (entry :: rest))
    (hwilling : os.Willing k) (hreaches : os.Reaches entry) : r = .ok () := by
  cases h with
  | noSocket error _ h => exact absurd h hwilling.constructed
  | noAddress s k₁ error h hanswer => simp [hos.answer] at hanswer
  | attempted s k₁ k₂ d entry' rest' _ h hopen hanswer hdelivery =>
    obtain ⟨rfl, rfl⟩ : entry = entry' ∧ rest = rest' := by simpa [hos.answer] using hanswer
    cases hdelivery with
    | refused error h => simp [quitAddress, hreaches _ _] at h
    | unsent error h hsend => simp [hwilling.send] at hsend
    | untaken h hsend => simp [hwilling.send] at hsend
    | sent h hsend => rfl

theorem Quits.accepted {k k' : Kernel} {entry : Addrinfo} {rest : List Addrinfo}
    (h : Quits os k (.ok ()) k') (hos : os.Loopback (entry :: rest)) :
    saFamily entry.aiAddr ≠ afInet := by
  intro hinet
  cases h with
  | attempted s k₁ k₂ d entry' rest' _ h hopen hanswer hdelivery =>
    obtain ⟨rfl, rfl⟩ : entry = entry' ∧ rest = rest' := by simpa [hos.answer] using hanswer
    obtain ⟨_, d', hopen', hdomain, _⟩ := h.opened_ok (by decide)
    obtain rfl : d' = d := by simpa [hopen'] using hopen
    cases hdelivery with
    | sent hconnect hsend =>
      obtain ⟨error, hrefused⟩ := hos.separate (CAddrinfo.obtained k₁ quitInfo.query
        (entry :: rest)) s.mSfd d' entry.aiAddr entry.aiAddrlen hopen hdomain hinet
      simp [quitAddress, hrefused] at hconnect

/-- `quit_server` does not return when the first entry is of the family AF_INET. -/
theorem OS.Loopback.refuses {entry : Addrinfo} {rest : List Addrinfo}
    (hos : os.Loopback (entry :: rest)) (hinet : saFamily entry.aiAddr = afInet) (w' : World) :
    quitServer.run (step os) w ≠ (.ok (), w') := by
  intro hrun
  obtain ⟨r, hquits, hresult⟩ := quits os w
  rw [hrun] at hquits hresult
  cases r with
  | error error => contradiction
  | ok value => exact hquits.accepted hos hinet

theorem Addrinfo.isLoopback.reaches {e e' : Addrinfo} (h : e.isLoopback) (h' : e'.isLoopback)
    (hfamily : e.aiFamily = e'.aiFamily) (hreaches : os.Reaches e) : os.Reaches e' := by
  have hstripped : e.stripped = e'.stripped := by
    have hfamilies : e.stripped.aiFamily = e'.stripped.aiFamily := hfamily
    rcases h with h | h <;> rcases h' with h' | h'
    · rw [h, h']
    · rw [h, h'] at hfamilies
      exact absurd hfamilies (by decide)
    · rw [h, h'] at hfamilies
      exact absurd hfamilies (by decide)
    · rw [h, h']
  have haddr : e.aiAddr = e'.aiAddr := eq_of_stripped (fun _ => rfl) hstripped
  have haddrlen : e.aiAddrlen = e'.aiAddrlen := eq_of_stripped (fun _ => rfl) hstripped
  intro k fd
  rw [← haddr, ← haddrlen]
  exact hreaches k fd

end

/-- A system with the loopback interface, on which only a mixture of families
fails. -/
def OS.loopback (list : List Addrinfo) (hne : list ≠ []) : OS := { OS.answering list hne with
  connect := fun k fd addr _ =>
    if (k.table fd).any (fun d => d.domain = afInet6) ∧ saFamily addr = afInet then some 22 else none }

theorem OS.loopback_loopback (list : List Addrinfo) (hne : list ≠ []) :
    (OS.loopback list hne).Loopback list where
  answer := fun _ => rfl
  separate := by
    intro k fd d addr addrlen hd hdomain hfamily
    exact ⟨22, if_pos ⟨by simp [hd, hdomain], hfamily⟩⟩

theorem OS.loopback_willing (list : List Addrinfo) (hne : list ≠ []) :
    (OS.loopback list hne).Willing World.initial.kernel where
  socket := ⟨3, rfl⟩
  setsockopt := fun _ _ _ _ _ => rfl
  send := fun _ _ _ => rfl

/-- `quit_server` fits its socket exactly when the resolver puts an entry of the
family AF_INET6 first. -/
theorem fitsSocket_iff (first : Addrinfo) (rest : List Addrinfo)
    (hloopback : ∀ e ∈ first :: rest, e.isLoopback) :
    FitsSocket (first :: rest) ↔ first.aiFamily = afInet6 := by
  have hfirst := hloopback first List.mem_cons_self
  constructor
  · intro h
    have hne : first :: rest ≠ [] := List.cons_ne_nil _ _
    have hos := OS.loopback_loopback (first :: rest) hne
    obtain ⟨⟨events, htrace, hfits⟩, _⟩ := h _ .initial hos
    obtain ⟨r, hquits, _⟩ := quits (OS.loopback (first :: rest) hne) .initial
    obtain ⟨events', htrace', ⟨_, ⟨error, k₁, hfailed⟩ | ⟨k₁, error, hfailed⟩⟩ |
      ⟨k₁, entry, rest', hanswer, hfit⟩⟩ := hquits.connects
    · exact absurd hfailed (OS.loopback_willing _ hne).constructed
    · simp [hos.answer] at hfailed
    · obtain ⟨rfl, rfl⟩ : first = entry ∧ rest = rest' := by simpa [hos.answer] using hanswer
      obtain rfl : events = events' := List.append_cancel_right (htrace.symm.trans htrace')
      exact hfirst.saFamily.symm.trans (hfit.mp hfits)
  · intro hfamily os w hos
    obtain ⟨r, hquits, hresult⟩ := quits os w
    constructor
    · obtain ⟨events, htrace, ⟨hevents, _⟩ | ⟨k₁, entry, rest', hanswer, hfit⟩⟩ := hquits.connects
      · exact ⟨events, htrace, connectsFit_connectless hevents⟩
      · obtain ⟨rfl, rfl⟩ : first = entry ∧ rest = rest' := by simpa [hos.answer] using hanswer
        exact ⟨events, htrace, hfit.mpr (hfirst.saFamily.trans hfamily)⟩
    · intro e he hv6 hwilling hreaches
      have hreaches' := (hloopback e he).reaches hfirst (hv6.trans hfamily.symm) hreaches
      obtain rfl := hquits.returns hos hwilling hreaches'
      exact ⟨_, Prod.ext hresult rfl, hquits.delivered⟩

theorem fitsSocket_iff_loopback6 :
    FitsSocket [loopback6 0x11 0x51, loopback4 0x11 0x51] ↔
      (loopback6 0x11 0x51).aiFamily = afInet6 :=
  fitsSocket_iff (loopback6 0x11 0x51) [loopback4 0x11 0x51] (by simp [Addrinfo.isLoopback]; decide)

/-- A resolver that puts 127.0.0.1 before ::1, as a host may be set up. -/
theorem loopback4_does_not_fit : ¬ FitsSocket [loopback4 0x11 0x51, loopback6 0x11 0x51] := by
  intro h
  have hne : [loopback4 0x11 0x51, loopback6 0x11 0x51] ≠ [] := List.cons_ne_nil _ _
  have hos := OS.loopback_loopback [loopback4 0x11 0x51, loopback6 0x11 0x51] hne
  obtain ⟨w', hrun, _⟩ := (h _ .initial hos).2 (loopback6 0x11 0x51) (by decide) rfl
    (OS.loopback_willing _ hne) fun k fd => if_neg fun h => absurd h.2 (by decide)
  exact hos.refuses (by decide) w' hrun

end ClientServerTcp
