import ClientServerTcp.Sources.Addrinfo

/-! What each member function of `CAddrinfo` does to the objects and to the
address lists, in every run. -/
namespace ClientServerTcp.CAddrinfo
open Effects Program Memory

/-- The list that an object stores when the resolver answers `answer`: only the
head is written to. -/
def normalised (hints : Addrinfo) (answer : List Addrinfo) : List Addrinfo :=
  answer.modifyHead fun e => { e with aiProtocol := hints.aiProtocol, aiFlags := hints.aiFlags }

def obtained (k : Kernel) (q : Query) (answer : List Addrinfo) : Kernel :=
  (k.setLists (k.lists.alloc ⟨q, answer, normalised q.hints answer⟩)).log
    (.getaddrinfo q) 0 k.lists.next

def created (os : OS) (w : World) (a : CAddrinfo) : Except Exn InfoId × World :=
  match os.getaddrinfo w.kernel a.query with
  | .error error => (.error (.thrown (.msg1025 error)), { w with
      kernel := w.kernel.log (.getaddrinfo a.query) error
      infos := w.infos.skip })
  | .ok answer => (.ok w.infos.next, { w with
      kernel := obtained w.kernel a.query answer
      infos := w.infos.alloc { a with mRes := w.kernel.lists.next } })

variable (os : OS) {w : World}

private theorem wp_getNewAddrinfo {this : InfoId} {a : CAddrinfo} (hthis : w.infos this = some a)
    {Q : Ptr → World → Prop} {E : Exn → World → Prop} :
    (getNewAddrinfo this).wp (step os) Q E w =
      match os.getaddrinfo w.kernel a.query with
      | .error error =>
        E (.thrown (.msg1025 error)) (w.withKernel (w.kernel.log (.getaddrinfo a.query) error))
      | .ok answer => Q w.kernel.lists.next (w.withKernel (obtained w.kernel a.query answer)) := by
  have hquery : query { mNode := a.mNode, mService := a.mService, mHints := a.mHints } =
      a.query := rfl
  simp only [getNewAddrinfo, wp_bind', wp_ite, wp_pure, Sys.wp_loadInfo_mNode,
    Sys.wp_loadInfo_mService, Sys.wp_loadInfo_mHints, Sys.wp_getaddrinfo, wp_throwRuntimeError,
    Sys.wp_writeProtocol, Sys.wp_writeFlags, World.infos_withKernel, World.kernel_withKernel,
    World.withKernel_withKernel, hthis, Option.getD_some, hquery]
  unfold Kernel.getaddrinfo
  cases hanswer : os.getaddrinfo w.kernel a.query with
  | error error =>
    have hne : error ≠ 0 := os.getaddrinfo_err hanswer
    rw [if_pos hne]
  | ok answer =>
    rw [if_neg (by simp)]
    congr 1
    simp only [Kernel.writeRes, Kernel.setLists, Kernel.log, obtained, normalised, query,
      Heap.modify_alloc, List.modifyHead_modifyHead]
    rfl

private theorem wp_fill {this : InfoId} {a : CAddrinfo} (hthis : w.infos this = some a)
    {Q : InfoId → World → Prop} {E : Exn → World → Prop} :
    (fill this).wp (step os) Q E w =
      match os.getaddrinfo w.kernel a.query with
      | .error error => E (.thrown (.msg1025 error))
        { w with kernel := w.kernel.log (.getaddrinfo a.query) error, infos := w.infos.free this }
      | .ok answer => Q this { w with
          kernel := obtained w.kernel a.query answer
          infos := w.infos.set this { a with mRes := w.kernel.lists.next } } := by
  simp only [fill, wp_bind', wp_onError, wp_pure, Sys.wp_storeInfo, Sys.wp_deleteInfo,
    wp_getNewAddrinfo os hthis]
  cases os.getaddrinfo w.kernel a.query with
  | error error => rfl
  | ok answer =>
    simp only [World.infos_withKernel, Heap.modify_eq_set _ hthis, set]
    rfl

theorem run_construct (aNode aService : String) (aFamily aSocktype aFlags aProtocol : Int) :
    (construct aNode aService aFamily aSocktype aFlags aProtocol).run (step os) w =
      created os w { mNode := aNode, mService := aService, mHints := {
        aiFlags := aFlags, aiFamily := aFamily, aiSocktype := aSocktype,
        aiProtocol := aProtocol } } := by
  apply run_eq_of_wp
  simp only [construct, wp_bind', Sys.wp_newInfo, created]
  rw [wp_fill os Heap.alloc_next]
  simp only [World.kernel_withInfos, World.infos_withInfos, Heap.free_alloc, Heap.set_alloc]
  split <;> rfl

theorem run_copy {that : InfoId} {s : CAddrinfo} (hs : w.infos that = some s) :
    (copy that).run (step os) w = created os w { s with mRes := 0 } := by
  have hs' : ∀ a : CAddrinfo, (w.infos.alloc a) that = some s := fun _ => Heap.alloc_of hs
  apply run_eq_of_wp
  simp only [copy, wp_bind', Sys.wp_newInfo, Sys.wp_loadInfo_mNode, Sys.wp_loadInfo_mService,
    Sys.wp_loadInfo_mHints, Sys.wp_storeInfo, World.infos_withInfos, World.withInfos_withInfos,
    Heap.modify_alloc, hs', Option.getD_some, created, set]
  rw [wp_fill os Heap.alloc_next]
  simp only [World.kernel_withInfos, World.infos_withInfos, Heap.free_alloc, Heap.set_alloc]
  split <;> rfl

theorem run_assign {this that : InfoId} {t s : CAddrinfo} (hne : this ≠ that)
    (ht : w.infos this = some t) (hs : w.infos that = some s) :
    (assign this that).run (step os) w =
      (.ok (), w.withInfos ((w.infos.set this s).set that t)) := by
  apply run_of_wp
  simp only [assign, swapM, wp_bind', Sys.wp_loadInfo_mRes, Sys.wp_loadInfo_mNode,
    Sys.wp_loadInfo_mService, Sys.wp_loadInfo_mHints, Sys.wp_storeInfo, World.infos_withInfos,
    World.withInfos_withInfos, true_and]
  refine congrArg w.withInfos (Heap.ext (funext fun a => ?_) rfl)
  by_cases hthis : a = this
  · simp [hthis, hne, hne.symm, ht, hs, set, Heap.set]
  · by_cases hthat : a = that
    · simp [hthat, hne, hne.symm, ht, hs, set, Heap.set]
    · simp [hthis, hthat, Heap.set]

theorem run_destruct {this : InfoId} {a : CAddrinfo} (ha : w.infos this = some a) :
    (destruct this).run (step os) w = (.ok (), { w with
      kernel := w.kernel.freeaddrinfo a.mRes
      infos := w.infos.free this }) := by
  apply run_of_wp
  simp only [destruct, wp_bind', Sys.wp_loadInfo_mRes, Sys.wp_freeaddrinfo, Sys.wp_storeInfo,
    Sys.wp_deleteInfo, ha, Option.getD_some, true_and]
  simp [World.withKernel, World.withInfos]

/-- An assignment leaves everything as it was when the query fails. Else the
object takes the new list over, and the list it had is freed. -/
theorem run_copyAssign {this source : InfoId} {t s : CAddrinfo} (ht : w.infos this = some t)
    (hs : w.infos source = some s) :
    (copyAssign this source).run (step os) w =
      match os.getaddrinfo w.kernel s.query with
      | .error error => (.error (.thrown (.msg1025 error)), { w with
          kernel := w.kernel.log (.getaddrinfo s.query) error
          infos := w.infos.skip })
      | .ok answer => (.ok (), { w with
          kernel := (obtained w.kernel s.query answer).freeaddrinfo t.mRes
          infos := (w.infos.set this { s with mRes := w.kernel.lists.next }).skip }) := by
  have hquery : query { s with mRes := 0 } = s.query := rfl
  apply run_eq_of_wp
  rw [copyAssign, wp_bracket, wp_iff_run, run_copy os hs, created, hquery]
  cases os.getaddrinfo w.kernel s.query with
  | error error => rfl
  | ok answer =>
    let i : CAddrinfo := { s with mRes := w.kernel.lists.next }
    have ht' : (w.infos.alloc i) this = some t := Heap.alloc_of ht
    have hassigned : ((w.infos.alloc i).set this i).set w.infos.next t =
        (w.infos.set this i).alloc t := by
      rw [Heap.alloc_set ht]
      exact Heap.set_alloc ..
    have hdead : ((w.infos.set this i).alloc t).free w.infos.next = (w.infos.set this i).skip :=
      Heap.free_alloc ..
    simp only [Exits]
    rw [wp_of_run _ (run_assign os (Heap.ne_next ht) ht' Heap.alloc_next), World.withInfos,
      hassigned, wp_of_run _ (run_destruct os Heap.alloc_next), hdead]

theorem run_arrow {this : InfoId} {a : CAddrinfo} {l : AddrList} {entry : Addrinfo}
    {rest : List Addrinfo} (ha : w.infos this = some a) (hl : w.kernel.lists a.mRes = some l)
    (hentries : l.entries = entry :: rest) :
    (arrow this).run (step os) w = (.ok entry, w) := by
  apply run_of_wp
  simp only [arrow, entries, wp_bind', Sys.wp_loadInfo_mRes, Sys.wp_readRes, ha, Option.getD_some,
    hl, Option.map_some, hentries, wp_pure, true_and]

end ClientServerTcp.CAddrinfo
