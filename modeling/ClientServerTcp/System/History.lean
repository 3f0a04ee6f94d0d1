import ClientServerTcp.System.Kernel

/-! What the log of calls says about a descriptor, and the kernel states in
which the descriptor table agrees with it. -/
namespace ClientServerTcp

namespace Event

def opens (fd : SOCKET) (e : Event) : Bool :=
  match e.call with
  | .socket .. => e.errno.isNone && e.ret == fd
  | _ => false

def closes (fd : SOCKET) (e : Event) : Bool :=
  match e.call with
  | .close sfd => sfd == fd
  | _ => false

def binds (fd : SOCKET) (e : Event) : Bool :=
  match e.call with
  | .bind sfd .. => e.errno.isNone && sfd == fd
  | _ => false

def listens (fd : SOCKET) (e : Event) : Bool :=
  match e.call with
  | .listen sfd _ => e.errno.isNone && sfd == fd
  | _ => false

def obtains (res : Ptr) (e : Event) : Bool :=
  match e.call with
  | .getaddrinfo _ => e.ret == 0 && e.out == res
  | _ => false

def frees (res : Ptr) (e : Event) : Bool :=
  match e.call with
  | .freeaddrinfo res' => res' == res
  | _ => false

/-- The event neither opens, closes, binds nor listens to any descriptor. -/
def Quiet (e : Event) : Prop :=
  ∀ fd, e.opens fd = false ∧ e.closes fd = false ∧ e.binds fd = false ∧ e.listens fd = false

def passive : Call → Bool
  | .socket .. | .close _ | .bind .. | .listen .. => false
  | _ => true

theorem quiet_of_passive {e : Event} (h : passive e.call = true) : e.Quiet := by
  obtain ⟨call, ret, errno, out⟩ := e
  intro fd
  cases call <;> first | exact ⟨rfl, rfl, rfl, rfl⟩ | simp [passive] at h

theorem quiet_of_failed {e : Event} {error : Int} (h : e.errno = some error)
    (hclose : ∀ fd, e.call ≠ .close fd) : e.Quiet := by
  obtain ⟨call, ret, errno, out⟩ := e
  subst h
  intro fd
  cases call <;> first | exact ⟨rfl, rfl, rfl, rfl⟩ | simp at hclose

end Event

/-- The events since the descriptor was opened last, the newest first. -/
def sinceOpen (fd : SOCKET) (trace : List Event) : List Event :=
  trace.takeWhile fun e => !e.opens fd

/-- `::socket` has opened the descriptor, and no `::close` has closed it since. -/
def ownOpen (fd : SOCKET) (trace : List Event) : Bool :=
  trace.any (Event.opens fd) && !(sinceOpen fd trace).any (Event.closes fd)

def openDomain (fd : SOCKET) (trace : List Event) : Int :=
  match (trace.find? (Event.opens fd)).map Event.call with
  | some (.socket domain ..) => domain
  | _ => 0

/-- Some `::bind` returned success since the descriptor was opened. -/
def boundSince (fd : SOCKET) (trace : List Event) : Bool :=
  (sinceOpen fd trace).any (Event.binds fd)

/-- Some `::listen` returned success since the descriptor was opened. -/
def listenSince (fd : SOCKET) (trace : List Event) : Bool :=
  (sinceOpen fd trace).any (Event.listens fd)

theorem ownOpen_cons (fd : SOCKET) (e : Event) (trace : List Event) :
    ownOpen fd (e :: trace) =
      if e.opens fd then true else if e.closes fd then false else ownOpen fd trace := by
  unfold ownOpen sinceOpen
  cases ho : e.opens fd <;> cases hc : e.closes fd <;> simp [ho, hc]

theorem openDomain_cons (fd : SOCKET) (e : Event) (trace : List Event) (h : e.opens fd = false) :
    openDomain fd (e :: trace) = openDomain fd trace := by
  simp [openDomain, h]

theorem boundSince_cons (fd : SOCKET) (e : Event) (trace : List Event) :
    boundSince fd (e :: trace) =
      if e.opens fd then false else e.binds fd || boundSince fd trace := by
  unfold boundSince sinceOpen
  cases ho : e.opens fd <;> simp [ho]

theorem listenSince_cons (fd : SOCKET) (e : Event) (trace : List Event) :
    listenSince fd (e :: trace) =
      if e.opens fd then false else e.listens fd || listenSince fd trace := by
  unfold listenSince sinceOpen
  cases ho : e.opens fd <;> simp [ho]

/-- What is true of an open descriptor. `tuned` says that the options have the
values every `CSocket` is opened with. -/
structure Status where
  domain : Int
  bound : Bool
  listening : Bool
  tuned : Bool
  deriving DecidableEq, Repr

def Desc.tuned (d : Desc) : Bool :=
  d.option solSocket soReuseaddr = 0 ∧ (d.domain = afInet6 → d.option ipprotoIpv6 ipv6V6only = 0)

theorem Desc.tuned_iff {d : Desc} : d.tuned = true ↔ d.option solSocket soReuseaddr = 0 ∧
    (d.domain = afInet6 → d.option ipprotoIpv6 ipv6V6only = 0) := decide_eq_true_iff

/-- The state of every descriptor that `::socket` opened and that is still open. -/
def Kernel.status (k : Kernel) (fd : SOCKET) : Option Status :=
  if ownOpen fd k.trace then
    (k.table fd).map fun d => ⟨d.domain, boundSince fd k.trace, listenSince fd k.trace, d.tuned⟩
  else
    none

/-- Every `::close` so far was on `INVALID_SOCKET` or on a descriptor that was
open because a `::socket` of these sources had opened it. -/
def ClosesOwn (trace : List Event) : Prop :=
  ∀ newer e older fd, trace = newer ++ e :: older → e.call = .close fd →
    fd = invalidSocket ∨ ownOpen fd older = true

theorem closesOwn_cons {e : Event} {trace : List Event} (h : ClosesOwn trace)
    (he : ∀ fd, e.call = .close fd → fd = invalidSocket ∨ ownOpen fd trace = true) :
    ClosesOwn (e :: trace) := by
  intro newer e' older fd htrace hcall
  cases newer with
  | nil =>
    simp only [List.nil_append, List.cons.injEq] at htrace
    obtain ⟨rfl, rfl⟩ := htrace
    exact he fd hcall
  | cons first newer =>
    simp only [List.cons_append, List.cons.injEq] at htrace
    exact h newer e' older fd htrace.2 hcall

namespace Kernel

/-- The table and the log agree. -/
structure Sound (k : Kernel) : Prop where
  nonneg : ∀ {fd d}, k.table fd = some d → 0 ≤ fd
  own : ∀ fd, ownOpen fd k.trace = true ↔ ∃ d, k.table fd = some d ∧ d.origin = .socket
  domain : ∀ {fd d}, k.table fd = some d → d.origin = .socket → openDomain fd k.trace = d.domain
  closes : ClosesOwn k.trace

variable {k : Kernel}

theorem Sound.invalid (hk : Sound k) : k.table invalidSocket = none := by
  cases h : k.table invalidSocket with
  | none => rfl
  | some d => exact absurd (hk.nonneg h) (by decide)

theorem Sound.status_isSome (hk : Sound k) (fd : SOCKET) :
    (k.status fd).isSome ↔ ∃ d, k.table fd = some d ∧ d.origin = .socket := by
  rw [← hk.own]
  unfold status
  split
  · rename_i h
    obtain ⟨d, hd, _⟩ := (hk.own fd).mp h
    simp [hd, h]
  · simp_all

theorem Sound.status_free (hk : Sound k) {fd : SOCKET} (h : k.table fd = none) :
    k.status fd = none := by
  cases hs : k.status fd with
  | none => rfl
  | some s =>
    obtain ⟨d, hd, _⟩ := (hk.status_isSome fd).mp (by simp [hs])
    simp [h] at hd

theorem Sound.status_invalid (hk : Sound k) : k.status invalidSocket = none :=
  hk.status_free hk.invalid

theorem Sound.desc (hk : Sound k) {fd : SOCKET} {s : Status} (h : k.status fd = some s) :
    ∃ d, k.table fd = some d ∧ d.origin = .socket ∧
      s = ⟨d.domain, boundSince fd k.trace, listenSince fd k.trace, d.tuned⟩ := by
  obtain ⟨d, hd, ho⟩ := (hk.status_isSome fd).mp (by simp [h])
  refine ⟨d, hd, ho, ?_⟩
  unfold status at h
  split at h
  · simpa [hd, eq_comm] using h
  · contradiction

/-! ## Calls that open, close, bind and listen to nothing -/

/-- The table is the same, and only quiet events were added to the log. -/
def Calm (k k' : Kernel) : Prop :=
  k'.table = k.table ∧ ∃ events, k'.trace = events ++ k.trace ∧ ∀ e ∈ events, e.Quiet

theorem Calm.refl (k : Kernel) : Calm k k := ⟨rfl, [], rfl, by simp⟩

theorem Calm.trans {a b c : Kernel} (hab : Calm a b) (hbc : Calm b c) : Calm a c := by
  obtain ⟨htab, es, htr, hes⟩ := hab
  obtain ⟨htab', es', htr', hes'⟩ := hbc
  refine ⟨htab'.trans htab, es' ++ es, by rw [htr', htr, List.append_assoc], ?_⟩
  intro e he
  rcases List.mem_append.mp he with he | he
  · exact hes' e he
  · exact hes e he

theorem Calm.log (k : Kernel) (call : Call) (ret : Int) (out : Ptr)
    (h : Event.passive call = true) : Calm k (k.log call ret out) := by
  refine ⟨rfl, [⟨call, ret, none, out⟩], rfl, ?_⟩
  simpa using Event.quiet_of_passive (e := ⟨call, ret, none, out⟩) h

theorem Calm.fail (k : Kernel) (call : Call) (error : Int) (h : ∀ fd, call ≠ .close fd) :
    Calm k (k.fail call error) := by
  refine ⟨rfl, [⟨call, -1, some error, 0⟩], rfl, ?_⟩
  simpa using Event.quiet_of_failed (e := ⟨call, -1, some error, 0⟩) rfl h

theorem Calm.failed (k : Kernel) (call : Call) (error : Int) (h : ∀ fd, call ≠ .close fd) :
    Calm k ((k.fail call error).log .errno error) :=
  (Calm.fail k call error h).trans (.log _ _ _ _ rfl)

theorem status_cons {k' : Kernel} {e : Event} (htab : k'.table = k.table)
    (htr : k'.trace = e :: k.trace) (he : e.Quiet) : k'.status = k.status := by
  funext fd
  obtain ⟨ho, hc, hb, hl⟩ := he fd
  simp [status, htab, htr, ownOpen_cons, boundSince_cons, listenSince_cons, ho, hc, hb, hl]

private theorem sound_cons {k' : Kernel} {e : Event} (hk : Sound k) (htab : k'.table = k.table)
    (htr : k'.trace = e :: k.trace) (he : e.Quiet) : Sound k' where
  nonneg := by
    intro fd d hd
    exact hk.nonneg (by rwa [htab] at hd)
  own := by
    intro fd
    obtain ⟨ho, hc, _, _⟩ := he fd
    simpa [htab, htr, ownOpen_cons, ho, hc] using hk.own fd
  domain := by
    intro fd d hd horigin
    rw [htr, openDomain_cons fd e k.trace (he fd).1]
    exact hk.domain (by rwa [htab] at hd) horigin
  closes := by
    rw [htr]
    apply closesOwn_cons hk.closes
    intro fd hcall
    have hc := (he fd).2.1
    simp [Event.closes, hcall] at hc

theorem Calm.sound_status {k' : Kernel} (h : Calm k k') (hk : Sound k) :
    Sound k' ∧ k'.status = k.status := by
  obtain ⟨htab, events, htr, hes⟩ := h
  induction events generalizing k' with
  | nil =>
    refine ⟨⟨?_, ?_, ?_, ?_⟩, ?_⟩
    · intro fd d hd
      exact hk.nonneg (by rwa [htab] at hd)
    · simpa [htab, htr] using hk.own
    · intro fd d hd horigin
      simpa [htr] using hk.domain (by rwa [htab] at hd) horigin
    · simpa [htr] using hk.closes
    · funext fd
      simp [status, htab, htr]
  | cons e events ih =>
    let before : Kernel := { k with trace := events ++ k.trace }
    have hprev : Sound before ∧ before.status = k.status :=
      ih rfl rfl fun e he => hes e (List.mem_cons_of_mem _ he)
    have he := hes e List.mem_cons_self
    refine ⟨sound_cons hprev.1 htab htr he, ?_⟩
    rw [status_cons (k := before) htab htr he, hprev.2]

/-! ## The calls that do change a status -/

section
variable {fd : SOCKET} {d : Desc} {e : Event}

private theorem sound_setDesc (hk : Sound k) (hfd : 0 ≤ fd)
    (hown : ownOpen fd (e :: k.trace) = true ↔ d.origin = .socket)
    (hdomain : d.origin = .socket → openDomain fd (e :: k.trace) = d.domain)
    (hother : ∀ fd', fd' ≠ fd → e.opens fd' = false ∧ e.closes fd' = false)
    (hclose : ∀ fd', e.call ≠ .close fd') :
    Sound { k.setDesc fd (some d) with trace := e :: k.trace } where
  nonneg := by
    intro fd' d' hd'
    by_cases heq : fd' = fd
    · rwa [heq]
    · rw [table_setDesc, Function.update_of_ne heq] at hd'
      exact hk.nonneg hd'
  own := by
    intro fd'
    by_cases heq : fd' = fd
    · subst heq
      simpa using hown
    · obtain ⟨ho, hc⟩ := hother fd' heq
      simp only [table_setDesc, Function.update_of_ne heq, ownOpen_cons, ho, hc,
        Bool.false_eq_true, ↓reduceIte]
      exact hk.own fd'
  domain := by
    intro fd' d' hd' horigin
    by_cases heq : fd' = fd
    · subst heq
      obtain rfl : d = d' := by simpa using hd'
      exact hdomain horigin
    · rw [table_setDesc, Function.update_of_ne heq] at hd'
      rw [openDomain_cons fd' e k.trace (hother fd' heq).1]
      exact hk.domain hd' horigin
  closes := by
    apply closesOwn_cons hk.closes
    intro fd' hcall
    exact absurd hcall (hclose fd')

private theorem status_setDesc (k k' : Kernel) (e : Event)
    (htab : k'.table = Function.update k.table fd (some d))
    (htr : k'.trace = e :: k.trace) (hown : ownOpen fd (e :: k.trace) = true)
    (hother : ∀ fd', fd' ≠ fd → e.opens fd' = false ∧ e.closes fd' = false ∧
      e.binds fd' = false ∧ e.listens fd' = false) :
    k'.status = Function.update k.status fd (some ⟨d.domain, boundSince fd (e :: k.trace),
      listenSince fd (e :: k.trace), d.tuned⟩) := by
  funext fd'
  by_cases heq : fd' = fd
  · subst heq
    simp [status, htab, htr, hown]
  · obtain ⟨ho, hc, hb, hl⟩ := hother fd' heq
    simp [status, htab, htr, Function.update_of_ne heq, ownOpen_cons, boundSince_cons,
      listenSince_cons, ho, hc, hb, hl]

theorem Sound.opened (hk : Sound k) {domain type protocol : Int} (hfd : 0 ≤ fd)
    (horigin : d.origin = .socket) (hdomain : d.domain = domain) :
    Sound ((k.setDesc fd (some d)).log (.socket domain type protocol) fd) ∧
      ((k.setDesc fd (some d)).log (.socket domain type protocol) fd).status =
        Function.update k.status fd (some ⟨d.domain, false, false, d.tuned⟩) := by
  have hopens : ∀ fd', Event.opens fd' ⟨.socket domain type protocol, fd, none, 0⟩ =
      decide (fd = fd') := by
    intro fd'
    by_cases heq : fd = fd' <;> simp [Event.opens, heq]
  have hother : ∀ fd', fd' ≠ fd →
      Event.opens fd' ⟨.socket domain type protocol, fd, none, 0⟩ = false := by
    intro fd' hne
    simp [hopens, hne.symm]
  constructor
  · apply sound_setDesc hk hfd
    · simp [ownOpen_cons, hopens, horigin]
    · simp [openDomain, hopens, hdomain]
    · intro fd' hne
      exact ⟨hother fd' hne, rfl⟩
    · simp
  · rw [status_setDesc k _ ⟨.socket domain type protocol, fd, none, 0⟩ rfl rfl]
    · simp [boundSince_cons, listenSince_cons, hopens]
    · simp [ownOpen_cons, hopens]
    · intro fd' hne
      exact ⟨hother fd' hne, rfl, rfl, rfl⟩

private theorem Sound.succeeded (hk : Sound k) (d' : Desc) (call : Call)
    (hd : k.table fd = some d) (hsocket : d.origin = .socket) (horigin : d'.origin = d.origin)
    (hdomain : d'.domain = d.domain)
    (hopens : ∀ fd', Event.opens fd' ⟨call, 0, none, 0⟩ = false)
    (hclose : ∀ fd', call ≠ .close fd')
    (hother : ∀ fd', fd' ≠ fd → Event.binds fd' ⟨call, 0, none, 0⟩ = false ∧
      Event.listens fd' ⟨call, 0, none, 0⟩ = false) :
    Sound ((k.setDesc fd (some d')).log call 0) ∧
      ((k.setDesc fd (some d')).log call 0).status =
        Function.update k.status fd (some ⟨d'.domain,
          Event.binds fd ⟨call, 0, none, 0⟩ || boundSince fd k.trace,
          Event.listens fd ⟨call, 0, none, 0⟩ || listenSince fd k.trace, d'.tuned⟩) := by
  have hcloses : ∀ fd', Event.closes fd' ⟨call, 0, none, 0⟩ = false := by
    intro fd'
    unfold Event.closes
    split
    · rename_i sfd heq
      exact absurd heq (hclose sfd)
    · rfl
  have hown : ownOpen fd (⟨call, 0, none, 0⟩ :: k.trace) = true := by
    simp only [ownOpen_cons, hopens, hcloses, Bool.false_eq_true, ↓reduceIte]
    exact (hk.own fd).mpr ⟨d, hd, hsocket⟩
  constructor
  · apply sound_setDesc hk (hk.nonneg hd)
    · simp [hown, horigin, hsocket]
    · intro _
      rw [openDomain_cons fd _ _ (hopens fd), hdomain]
      exact hk.domain hd hsocket
    · intro fd' _
      exact ⟨hopens fd', hcloses fd'⟩
    · exact hclose
  · rw [status_setDesc k _ ⟨call, 0, none, 0⟩ rfl rfl hown]
    · simp [boundSince_cons, listenSince_cons, hopens]
    · intro fd' hne
      exact ⟨hopens fd', hcloses fd', hother fd' hne⟩

theorem Sound.setOption (hk : Sound k) (hd : k.table fd = some d) (hsocket : d.origin = .socket)
    (level optname value : Int) :
    let k' := (k.setDesc fd (some (d.setOption level optname value))).log
      (.setsockopt fd level optname value) 0
    Sound k' ∧ k'.status = Function.update k.status fd (some ⟨d.domain,
      boundSince fd k.trace, listenSince fd k.trace, (d.setOption level optname value).tuned⟩) :=
  hk.succeeded _ _ hd hsocket rfl rfl (fun _ => rfl) (by simp) (fun _ _ => ⟨rfl, rfl⟩)

theorem Sound.bound (hk : Sound k) {s : Status} (hs : k.status fd = some s)
    (hd : k.table fd = some d) (addr : Bytes) (addrlen : Nat) (localAddr : Option Bytes) :
    let k' := (k.setDesc fd (some { d with localAddr := localAddr })).log (.bind fd addr addrlen) 0
    Sound k' ∧ k'.status = Function.update k.status fd (some { s with bound := true }) := by
  obtain ⟨d', hd', hsocket, rfl⟩ := hk.desc hs
  obtain rfl : d = d' := by simpa [hd] using hd'
  have h := hk.succeeded { d with localAddr := localAddr } (.bind fd addr addrlen) hd
    hsocket rfl rfl (fun _ => rfl) (by simp) (fun fd' hne => ⟨by simp [Event.binds, hne.symm], rfl⟩)
  simpa [Event.binds, Event.listens, Desc.tuned] using h

theorem Sound.listening (hk : Sound k) {s : Status} (hs : k.status fd = some s)
    (hd : k.table fd = some d) (backlog : Int) (localAddr : Option Bytes) :
    let k' := (k.setDesc fd (some { d with listening := true, localAddr := localAddr })).log
      (.listen fd backlog) 0
    Sound k' ∧ k'.status = Function.update k.status fd (some { s with listening := true }) := by
  obtain ⟨d', hd', hsocket, rfl⟩ := hk.desc hs
  obtain rfl : d = d' := by simpa [hd] using hd'
  have h := hk.succeeded { d with listening := true, localAddr := localAddr } (.listen fd backlog)
    hd hsocket rfl rfl (fun _ => rfl) (by simp)
    (fun fd' hne => ⟨rfl, by simp [Event.listens, hne.symm]⟩)
  simpa [Event.binds, Event.listens, Desc.tuned] using h

theorem Sound.closed (os : OS) (hk : Sound k) (hfd : fd = invalidSocket ∨ (k.status fd).isSome) :
    Sound (k.close os fd).2 ∧ (k.close os fd).2.status = Function.update k.status fd none := by
  have hown : fd = invalidSocket ∨ ownOpen fd k.trace = true := by
    rcases hfd with hfd | hfd
    · exact .inl hfd
    · exact .inr ((hk.own fd).mpr ((hk.status_isSome fd).mp hfd))
  obtain ⟨ret, error, htab, htr, _⟩ := k.close_effect os fd
  have hcloses : ∀ fd', Event.closes fd' ⟨.close fd, ret, error, 0⟩ = decide (fd = fd') := by
    intro fd'
    by_cases heq : fd = fd' <;> simp [Event.closes, heq]
  have hopens : ∀ fd', Event.opens fd' ⟨.close fd, ret, error, 0⟩ = false := fun _ => rfl
  refine ⟨⟨?_, ?_, ?_, ?_⟩, ?_⟩
  · intro fd' d' hd'
    by_cases heq : fd' = fd
    · subst heq
      simp [htab] at hd'
    · rw [htab, Function.update_of_ne heq] at hd'
      exact hk.nonneg hd'
  · intro fd'
    by_cases heq : fd' = fd
    · subst heq
      simp [htab, htr, ownOpen_cons, hopens, hcloses]
    · simpa [htab, htr, ownOpen_cons, hopens, hcloses, Ne.symm heq,
        Function.update_of_ne heq] using hk.own fd'
  · intro fd' d' hd' horigin
    by_cases heq : fd' = fd
    · subst heq
      simp [htab] at hd'
    · rw [htab, Function.update_of_ne heq] at hd'
      rw [htr, openDomain_cons fd' _ _ (hopens fd')]
      exact hk.domain hd' horigin
  · rw [htr]
    apply closesOwn_cons hk.closes
    intro fd' hcall
    simp only [Call.close.injEq] at hcall
    rwa [← hcall]
  · funext fd'
    by_cases heq : fd' = fd
    · subst heq
      simp [status, htr, ownOpen_cons, hopens, hcloses]
    · have hbinds : Event.binds fd' ⟨.close fd, ret, error, 0⟩ = false := rfl
      have hlistens : Event.listens fd' ⟨.close fd, ret, error, 0⟩ = false := rfl
      simp [status, htab, htr, ownOpen_cons, boundSince_cons, listenSince_cons, hopens, hcloses,
        hbinds, hlistens, Ne.symm heq, Function.update_of_ne heq]

end

/-! ## Other code of the process -/

def foreign (k : Kernel) (fd : SOCKET) (d : Option Desc) : Kernel :=
  if 0 ≤ fd ∧ (k.table fd).all fun d => d.origin = .foreign then
    k.setDesc fd (d.map fun d => { d with origin := .foreign })
  else
    k

theorem Sound.foreign (hk : Sound k) (fd : SOCKET) (d : Option Desc) :
    Sound (k.foreign fd d) ∧ (k.foreign fd d).status = k.status := by
  unfold Kernel.foreign
  split
  · rename_i h
    obtain ⟨hfd, hforeign⟩ := h
    have hnotOwn : ownOpen fd k.trace = false := by
      by_contra hopen
      obtain ⟨d, hd, horigin⟩ := (hk.own fd).mp (by simpa using hopen)
      simp [hd, horigin] at hforeign
    refine ⟨⟨?_, ?_, ?_, hk.closes⟩, ?_⟩
    · intro fd' d' hd'
      by_cases heq : fd' = fd
      · rwa [heq]
      · exact hk.nonneg (by simpa [heq] using hd')
    · intro fd'
      by_cases heq : fd' = fd
      · subst heq
        simp [hnotOwn]
      · simpa [heq] using hk.own fd'
    · intro fd' d' hd' horigin
      by_cases heq : fd' = fd
      · subst heq
        have hput : ∃ e, d.map (fun d => { d with origin := .foreign }) = some e ∧ e = d' := by
          simpa using hd'
        obtain ⟨e, hmap, rfl⟩ := hput
        obtain ⟨d'', _, rfl⟩ := Option.map_eq_some_iff.mp hmap
        contradiction
      · exact hk.domain (by simpa [heq] using hd') horigin
    · funext fd'
      by_cases heq : fd' = fd
      · subst heq
        simp [status, hnotOwn]
      · simp [status, heq]
  · exact ⟨hk, rfl⟩

end Kernel
end ClientServerTcp
