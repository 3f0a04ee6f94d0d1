import ClientServerTcp.Client.Quit
import ClientServerTcp.Server.Construct

/-! Exception safety of the composed operations. -/
namespace ClientServerTcp
open Effects Program

/-- The constructor of the server acquires one listening socket or nothing, and
`quit_server` acquires nothing. -/
theorem exception_safety (os : OS) (w : World) (aPort : String) (aReuseAddr : Bool) :
    (match (CServerTCP.construct aPort aReuseAddr).run (step os) w with
      | (.error e, w') => (∃ error, e = .thrown error) ∧ Restored w.kernel w'.kernel
      | (.ok server, w') => w'.ready server.mListenSfd = false ∧ ∃ fd d,
          w'.objs server.mListenSfd = some
            { mSfd := fd, mAf := afInet6, mBound := true, mListen := true } ∧
          Holding w.kernel (some fd) none w'.kernel ∧
          w'.kernel.table fd = some d ∧ CServerTCP.Serving d) ∧
    (match quitServer.run (step os) w with
      | (.error e, w') => (∃ error, e = .thrown error) ∧ Restored w.kernel w'.kernel
      | (.ok (), w') => Restored w.kernel w'.kernel ∧ Delivered w.kernel w'.kernel) := by
  have hnothing := Holding.nothing w.kernel
  constructor
  · have hexits := exits_run (step os) (CServerTCP.wp_construct os aPort aReuseAddr hnothing)
    revert hexits
    rcases (CServerTCP.construct aPort aReuseAddr).run (step os) w with ⟨_ | server, w'⟩
    · intro ⟨hthrown, hholding⟩
      exact ⟨hthrown, hholding.restored⟩
    · exact id
  · have hexits := exits_run (step os) (wp_quitServer os (w := w))
    revert hexits
    rcases quitServer.run (step os) w with ⟨_ | value, w'⟩
    · intro ⟨error, hthrown, hquits⟩
      exact ⟨⟨error, hthrown⟩, (hquits.holding hnothing).restored⟩
    · intro hquits
      exact ⟨(hquits.holding hnothing).restored, hquits.delivered⟩

end ClientServerTcp
