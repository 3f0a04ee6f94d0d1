import ClientServerTcp.Socket.Scope
import ClientServerTcp.Sources.ServerTcp

/-! The constructor of `CServerTCP`: either a socket that is bound and listening,
or an exception and nothing acquired. -/
namespace ClientServerTcp.CServerTCP
open Effects Program Memory

variable (os : OS) {w : World}

/-- A descriptor as a server holds it. -/
structure Serving (d : Desc) : Prop where
  domain : d.domain = afInet6
  bound : d.localAddr.isSome
  listening : d.listening = true
  reuseaddr : d.option solSocket soReuseaddr = 0
  v6only : d.option ipprotoIpv6 ipv6V6only = 0

private theorem wp_constructBody {start : Kernel} {o : ObjId} {s : CSocket} {d : Desc}
    (aPort : String) (hs : w.objs o = some s) (hd : w.kernel.table s.mSfd = some d)
    (hdomain : d.domain = afInet6) (htuned : d.tuned = true)
    (hk : Holding start (some s.mSfd) none w.kernel) :
    (constructBody o aPort).wp (step os)
      (fun _ w' => Holding start (some s.mSfd) none w'.kernel ∧ w'.ready = w.ready ∧
        w'.objs o = some { s with mBound := true, mListen := true } ∧
        ∃ d', w'.kernel.table s.mSfd = some d' ∧ Serving d')
      (fun e w' => (∃ error, e = .thrown error) ∧ Holding start (some s.mSfd) none w'.kernel ∧
        ∃ s', w'.objs o = some s' ∧ s'.mSfd = s.mSfd) w := by
  unfold constructBody
  apply wp_automaticAddrinfo os _ rfl
  · intro error hanswer
    exact ⟨⟨_, rfl⟩, hk.noList _ (os.getaddrinfo_err hanswer), s, hs, rfl⟩
  · intro entry rest _ this w₁ entry' harrow
    have hk₁ : Holding start (some s.mSfd) (some this.mRes) w₁.kernel := hk.list _ _
    have hs₁ : w₁.objs o = some s := hs
    have hd₁ : w₁.kernel.table s.mSfd = some d := hd
    rw [wp_bind', wp_of_run _ harrow, wp_bind']
    apply wp_mono (CSocket.wp_bind os entry' hs₁)
    · intro _ w₂ hbound
      obtain ⟨s₂, k₂, hspec, rfl⟩ := hbound
      obtain ⟨rfl, hk₂, hd₂⟩ := hspec.holding_ok hd₁ hk₁
      have hs₂ := Heap.set_at (a := { s with mBound := true }) hs₁
      apply wp_mono (CSocket.wp_listen os hs₂)
      · intro _ w₃ hlistening
        obtain ⟨s₃, k₃, hspec, rfl⟩ := hlistening
        obtain ⟨rfl, hk₃, hd₃⟩ := hspec.holding_ok hd₂ hk₂
        refine ⟨Heap.alloc_next, hk₃.free, rfl, Heap.set_at hs₂, _, hd₃, ?_⟩
        obtain ⟨hreuseaddr, hv6only⟩ := Desc.tuned_iff.mp htuned
        exact ⟨hdomain, rfl, rfl, hreuseaddr, hv6only hdomain⟩
      · intro e w₃ hthrown
        obtain ⟨error, k₃, rfl, hspec, rfl⟩ := hthrown
        refine ⟨Heap.alloc_next, ⟨error, rfl⟩, (hspec.holding_error hk₂).free, ?_⟩
        exact ⟨_, hs₂, rfl⟩
    · intro e w₂ hthrown
      obtain ⟨error, k₂, rfl, hspec, rfl⟩ := hthrown
      exact ⟨Heap.alloc_next, ⟨error, rfl⟩, (hspec.holding_error hk₁).free, s, hs₁, rfl⟩

/-- On an exception the complete member `m_listen_sfd` is destructed. -/
theorem wp_construct {start : Kernel} (aPort : String) (aReuseAddr : Bool)
    (hk : Holding start none none w.kernel) :
    (construct aPort aReuseAddr).wp (step os)
      (fun this w' => w'.ready this.mListenSfd = false ∧ ∃ fd d,
        w'.objs this.mListenSfd = some
          { mSfd := fd, mAf := afInet6, mBound := true, mListen := true } ∧
        Holding start (some fd) none w'.kernel ∧ w'.kernel.table fd = some d ∧ Serving d)
      (fun e w' => (∃ error, e = .thrown error) ∧ Holding start none none w'.kernel) w := by
  simp only [construct, wp_bind', wp_onError, Sys.wp_storeReady, wp_pure]
  apply wp_mono (CSocket.wp_construct os w afInet6 sockStream 0)
  · intro o w₁ hconstructed
    obtain ⟨rfl, s, k₁, hspec, rfl⟩ := hconstructed
    obtain ⟨hs, d, hd, hdomain, _, htuned, _⟩ := hspec.opened_ok (by decide)
    have hk₁ := hspec.holding_ok (by decide) hk
    apply wp_mono (wp_constructBody os aPort Heap.alloc_next hd hdomain htuned hk₁)
    · intro _ w₂ hserving
      obtain ⟨hk₂, hready, hs₂, d₂, hd₂, hserving⟩ := hserving
      refine ⟨by simp [hready], s.mSfd, d₂, ?_, hk₂, hd₂, hserving⟩
      rw [hs₂, hs]
    · intro e w₂ hthrown
      obtain ⟨hthrown, hk₂, s₂, hs₂, hsfd⟩ := hthrown
      rw [wp_destructSocket os hs₂, hsfd]
      exact ⟨hthrown, hk₂.close os⟩
  · intro e w₁ hthrown
    obtain ⟨error, k₁, rfl, hspec, rfl⟩ := hthrown
    exact ⟨⟨error, rfl⟩, hspec.holding_error hk⟩

end ClientServerTcp.CServerTCP
