import Vb2DmaContig.Ledger
import Vb2DmaContig.Mmap

/-!
# The Exporter's Attachments

When an MMAP buffer is exported, each importer attaches to the dma-buf, and
`vb2_dc_dmabuf_ops_attach` gives the attachment a private copy of `sgt_base`. The
attachment caches one DMA mapping of that copy: `vb2_dc_dmabuf_ops_map` returns the cached
mapping when the direction is unchanged, and otherwise undoes it and maps again;
`vb2_dc_dmabuf_ops_unmap` does nothing; `vb2_dc_dmabuf_ops_detach` undoes the cached
mapping, if any, and frees the copy. The dma-buf lock serialises these calls, so a run of
an attachment is a sequence.

The calls an attachment makes into the kernel are `Event`s of `ExpRes`, replayed by
`Ledger.run`; the cached direction is `Vb2DcAttachment.dmaDir`. What `dma_map_sg` writes
into the copy is an argument of `map`, as the other kernel services are.

## Main results

* `ExpReach.ledger`: in every state of every run, the resources held are the attachment,
  its table, and one mapping exactly when `dma_dir` is not `DMA_NONE`, in that direction.
* `exporter_attachment_protocol`: moreover every successful `map` returns the
  attachment's table, and a new direction the table `dma_map_sg` made of the copy in that
  direction; a repeated direction maps nothing, and `detach` gives back everything, each
  mapping unmapped once in its own direction.
* `vb2DcDmabufOpsAttach_live`: an attachment to a live export always finds `sgt_base`.
-/

namespace Vb2DmaContig

/-- `struct vb2_dc_attachment`: the attachment's copy of `sgt_base` and the direction its
cached mapping was made in (`DMA_NONE`: no mapping). -/
structure Vb2DcAttachment where
  sgt : SgTable
  dmaDir : DmaDataDirection
  deriving DecidableEq, Repr

/-- What an attachment takes from the kernel: its `kzalloc`ed descriptor, the table
`sg_alloc_table` builds, and a `dma_map_sg` mapping of that table in a direction. -/
inductive ExpRes
  | attachment
  | sgTable
  | dmaMapping (dir : DmaDataDirection)
  deriving DecidableEq, Repr

/-- `vb2_dc_dmabuf_ops_attach`, given whether the `kzalloc` and the `sg_alloc_table`
succeeded. The copy takes page, length and offset of each entry of `buf->sgt_base`;
`none` is the `NULL` dereference of a missing `sgt_base`. -/
def vb2DcDmabufOpsAttach (buf : Vb2DcBuf) (allocated tableAllocated : Bool) :
    Option (Except Int Vb2DcAttachment × List (Event ExpRes)) :=
  if !allocated then some (.error (-ENOMEM), []) else
  match buf.sgtBase with
  | none => none
  | some base =>
      if !tableAllocated then
        some (.error (-ENOMEM), [.acquire .attachment, .release .attachment])
      else
        let sgl := base.sgl.map fun rd => ⟨rd.page, rd.offset, rd.length, 0, 0⟩
        some (.ok ⟨⟨sgl, sgl.length⟩, .none⟩, [.acquire .attachment, .acquire .sgTable])

/-- `vb2_dc_dmabuf_ops_detach`: undo the cached mapping, free the copy and the descriptor;
nothing for an attachment without one. -/
def vb2DcDmabufOpsDetach : Option Vb2DcAttachment → List (Event ExpRes)
  | none => []
  | some attach =>
      (if attach.dmaDir ≠ .none then [.release (.dmaMapping attach.dmaDir)] else []) ++
        [.release .sgTable, .release .attachment]

/-- `vb2_dc_dmabuf_ops_map`, given the table `dma_map_sg` leaves of the copy in a
direction: its entries with the DMA addresses written in, and `nents` the segment count it
returns (`0`: failure). The cached table comes back as is when the direction is
unchanged; otherwise the old mapping is undone and the table mapped again. -/
def vb2DcDmabufOpsMap (attach : Vb2DcAttachment) (dmaDir : DmaDataDirection)
    (dmaMapSg : SgTable → DmaDataDirection → SgTable) :
    Vb2DcAttachment × Except Int SgTable × List (Event ExpRes) :=
  if attach.dmaDir = dmaDir then (attach, .ok attach.sgt, []) else
  let released : List (Event ExpRes) :=
    if attach.dmaDir ≠ .none then [.release (.dmaMapping attach.dmaDir)] else []
  let sgt := dmaMapSg attach.sgt dmaDir
  if sgt.nents = 0 then (⟨sgt, .none⟩, .error (- EIO), released)
  else (⟨sgt, dmaDir⟩, .ok sgt, released ++ [.acquire (.dmaMapping dmaDir)])

/-- `vb2_dc_dmabuf_ops_unmap`: "nothing to be done here". -/
def vb2DcDmabufOpsUnmap (_attach : Vb2DcAttachment) (_sgt : SgTable)
    (_dmaDir : DmaDataDirection) : List (Event ExpRes) := []

/-- `vb2_dc_dmabuf_ops_vmap`: the buffer's kernel mapping. -/
def vb2DcDmabufOpsVmap (buf : Vb2DcBuf) : Option Nat := buf.vaddr

/-- `vb2_dc_dmabuf_ops_kmap`: `buf->vaddr + pgnum * PAGE_SIZE`, an address of
`unsigned long` width, with `NULL` read as `0`. -/
def vb2DcDmabufOpsKmap (a : Arch) (buf : Vb2DcBuf) (pgnum : Nat) : Nat :=
  (buf.vaddr.getD 0 + pgnum * a.pageSize) % 2 ^ a.ulongBits

/-! ### Runs of an attachment -/

/-- What an attachment holds, top of the stack first: its cached mapping, if any, then
its table and its descriptor. -/
def Vb2DcAttachment.held (attach : Vb2DcAttachment) : List ExpRes :=
  (if attach.dmaDir ≠ .none then [.dmaMapping attach.dmaDir] else []) ++
    [.sgTable, .attachment]

/-- The states of an attachment and the kernel calls made so far: a successful attach,
then any sequence of `map` calls in directions other than `DMA_NONE` and `unmap` calls. -/
inductive ExpReach : Vb2DcAttachment → List (Event ExpRes) → Prop
  | attach {buf : Vb2DcBuf} {attach : Vb2DcAttachment} {evs : List (Event ExpRes)} :
      vb2DcDmabufOpsAttach buf true true = some (.ok attach, evs) → ExpReach attach evs
  | map {attach attach' : Vb2DcAttachment} {evs evs' : List (Event ExpRes)}
      {dmaDir : DmaDataDirection} {dmaMapSg : SgTable → DmaDataDirection → SgTable}
      {r : Except Int SgTable} :
      ExpReach attach evs → dmaDir ≠ .none →
      vb2DcDmabufOpsMap attach dmaDir dmaMapSg = (attach', r, evs') →
      ExpReach attach' (evs ++ evs')
  | unmap {attach : Vb2DcAttachment} {evs : List (Event ExpRes)} {sgt : SgTable}
      {dmaDir : DmaDataDirection} :
      ExpReach attach evs → ExpReach attach (evs ++ vb2DcDmabufOpsUnmap attach sgt dmaDir)

/-- A successful attach holds the copy and the descriptor, and no mapping. -/
theorem vb2DcDmabufOpsAttach_ok {buf : Vb2DcBuf} {attach : Vb2DcAttachment}
    {evs : List (Event ExpRes)} (h : vb2DcDmabufOpsAttach buf true true = some (.ok attach, evs)) :
    attach.dmaDir = .none ∧ Ledger.run evs [] = some attach.held := by
  unfold vb2DcDmabufOpsAttach at h
  rcases hb : buf.sgtBase with _ | base <;> simp [hb] at h
  obtain ⟨rfl, rfl⟩ := h
  exact ⟨rfl, rfl⟩

/-- A `map` that succeeds returns the attachment's table, cached in the requested
direction, and in a new direction the table `dma_map_sg` made of the copy. -/
theorem vb2DcDmabufOpsMap_ok {attach : Vb2DcAttachment} {dmaDir : DmaDataDirection}
    {dmaMapSg : SgTable → DmaDataDirection → SgTable} {sgt : SgTable}
    (h : (vb2DcDmabufOpsMap attach dmaDir dmaMapSg).2.1 = .ok sgt) :
    sgt = (vb2DcDmabufOpsMap attach dmaDir dmaMapSg).1.sgt ∧
      (vb2DcDmabufOpsMap attach dmaDir dmaMapSg).1.dmaDir = dmaDir ∧
      (attach.dmaDir ≠ dmaDir → sgt = dmaMapSg attach.sgt dmaDir) := by
  unfold vb2DcDmabufOpsMap at h ⊢
  by_cases heq : attach.dmaDir = dmaDir
  · simp_all
  · by_cases h0 : (dmaMapSg attach.sgt dmaDir).nents = 0 <;> simp_all

/-- **`map` on the ledger**: from what an attachment holds, the calls of `map` lead to what
the new attachment holds. -/
theorem vb2DcDmabufOpsMap_run (attach : Vb2DcAttachment) {dmaDir : DmaDataDirection}
    (hdir : dmaDir ≠ .none) (dmaMapSg : SgTable → DmaDataDirection → SgTable) :
    Ledger.run (vb2DcDmabufOpsMap attach dmaDir dmaMapSg).2.2 attach.held =
      some (vb2DcDmabufOpsMap attach dmaDir dmaMapSg).1.held := by
  unfold vb2DcDmabufOpsMap
  by_cases heq : attach.dmaDir = dmaDir
  · simp [heq]
  by_cases hnone : attach.dmaDir = .none <;>
    by_cases h0 : (dmaMapSg attach.sgt dmaDir).nents = 0 <;>
    simp [heq, hnone, h0, hdir, hdir.symm, Vb2DcAttachment.held, Ledger.run_append]

/-- `detach` gives back all an attachment holds, in reverse order. -/
theorem vb2DcDmabufOpsDetach_run (attach : Vb2DcAttachment) :
    Ledger.run (vb2DcDmabufOpsDetach (some attach)) attach.held = some [] := by
  by_cases hnone : attach.dmaDir = .none <;>
    simp [hnone, vb2DcDmabufOpsDetach, Vb2DcAttachment.held]

/-- **The ledger of an attachment**: in every state, the calls made so far leave exactly
what `held` says: a mapping is outstanding exactly when `dma_dir` is not `DMA_NONE`, and
it was made in direction `dma_dir`. -/
theorem ExpReach.ledger {attach : Vb2DcAttachment} {evs : List (Event ExpRes)}
    (h : ExpReach attach evs) : Ledger.run evs [] = some attach.held := by
  induction h with
  | attach h => exact (vb2DcDmabufOpsAttach_ok h).2
  | @map attach _ _ _ _ dmaMapSg _ _ hdir hm ih =>
      rw [Ledger.run_append, ih, Option.some_bind]
      simpa [hm] using vb2DcDmabufOpsMap_run attach hdir dmaMapSg
  | unmap _ ih => simpa [Ledger.run_append, vb2DcDmabufOpsUnmap] using ih

/-- **The attachment protocol.** In every state reached by a run of an attachment: the
calls made so far hold one mapping exactly when `dma_dir` is not `DMA_NONE`, in that
direction; a `map` in any direction but `DMA_NONE` that succeeds returns the attachment's
table, which in a new direction is the table `dma_map_sg` made of the copy in that
direction, and the calls up to it hold that table mapped in the requested direction; a
`map` in the cached direction returns the cached table and makes no call; and `detach`
then gives everything back, each mapping unmapped once, in its own direction. -/
theorem exporter_attachment_protocol {attach : Vb2DcAttachment} {evs : List (Event ExpRes)}
    (h : ExpReach attach evs) :
    Ledger.run evs [] =
        some ((if attach.dmaDir ≠ .none then [.dmaMapping attach.dmaDir] else []) ++
          [.sgTable, .attachment]) ∧
      (∀ dmaDir dmaMapSg sgt, dmaDir ≠ .none →
        (vb2DcDmabufOpsMap attach dmaDir dmaMapSg).2.1 = .ok sgt →
        sgt = (vb2DcDmabufOpsMap attach dmaDir dmaMapSg).1.sgt ∧
          (vb2DcDmabufOpsMap attach dmaDir dmaMapSg).1.dmaDir = dmaDir ∧
          (attach.dmaDir ≠ dmaDir → sgt = dmaMapSg attach.sgt dmaDir) ∧
          Ledger.run (evs ++ (vb2DcDmabufOpsMap attach dmaDir dmaMapSg).2.2) [] =
            some [.dmaMapping dmaDir, .sgTable, .attachment]) ∧
      (∀ dmaMapSg,
        vb2DcDmabufOpsMap attach attach.dmaDir dmaMapSg = (attach, .ok attach.sgt, [])) ∧
      Ledger.run (evs ++ vb2DcDmabufOpsDetach (some attach)) [] = some [] := by
  refine ⟨h.ledger, fun dmaDir dmaMapSg sgt hdir hok => ?_,
    fun _ => by simp [vb2DcDmabufOpsMap],
    by rw [Ledger.run_append, h.ledger, Option.some_bind, vb2DcDmabufOpsDetach_run]⟩
  obtain ⟨hsgt, hdir', hnew⟩ := vb2DcDmabufOpsMap_ok hok
  refine ⟨hsgt, hdir', hnew, ?_⟩
  rw [Ledger.run_append, h.ledger, Option.some_bind, vb2DcDmabufOpsMap_run attach hdir,
    Vb2DcAttachment.held, hdir', if_pos hdir]
  rfl

/-- Attaching to the exported buffer of `vb2DcAlloc_page`, whose `sgt_base` is the one
entry `dma_get_sgtable` fills in for its page. -/
theorem vb2DcDmabufOpsAttach_page :
    vb2DcDmabufOpsAttach { Vb2DcBuf.zeroed with
        vaddr := some 4096
        size := 4096
        dmaAddr := 8192
        refcount := 2
        sgtBase := some ⟨[⟨1, 0, 4096, 0, 0⟩], 1⟩ } true true =
      some (.ok ⟨⟨[⟨1, 0, 4096, 0, 0⟩], 1⟩, .none⟩,
        [.acquire .attachment, .acquire .sgTable]) := rfl

/-- `exporter_attachment_protocol` after a run that maps the attachment's copy for the
device, maps it again in the same direction, which comes back cached, unmaps, which does
nothing, and maps it for the CPU, which undoes the first mapping. `dma_map_sg` places the
page at DMA address `8192`. -/
theorem exporter_attachment_protocol_at_remap :
    let attach : Vb2DcAttachment := ⟨⟨[⟨1, 0, 4096, 8192, 4096⟩], 1⟩, .fromDevice⟩
    let evs : List (Event ExpRes) :=
      [.acquire .attachment, .acquire .sgTable, .acquire (.dmaMapping .toDevice),
        .release (.dmaMapping .toDevice), .acquire (.dmaMapping .fromDevice)]
    ExpReach attach evs ∧
      (Ledger.run evs [] =
          some ((if attach.dmaDir ≠ .none then [.dmaMapping attach.dmaDir] else []) ++
            [.sgTable, .attachment]) ∧
        (∀ dmaDir dmaMapSg sgt, dmaDir ≠ .none →
          (vb2DcDmabufOpsMap attach dmaDir dmaMapSg).2.1 = .ok sgt →
          sgt = (vb2DcDmabufOpsMap attach dmaDir dmaMapSg).1.sgt ∧
            (vb2DcDmabufOpsMap attach dmaDir dmaMapSg).1.dmaDir = dmaDir ∧
            (attach.dmaDir ≠ dmaDir → sgt = dmaMapSg attach.sgt dmaDir) ∧
            Ledger.run (evs ++ (vb2DcDmabufOpsMap attach dmaDir dmaMapSg).2.2) [] =
              some [.dmaMapping dmaDir, .sgTable, .attachment]) ∧
        (∀ dmaMapSg,
          vb2DcDmabufOpsMap attach attach.dmaDir dmaMapSg = (attach, .ok attach.sgt, [])) ∧
        Ledger.run (evs ++ vb2DcDmabufOpsDetach (some attach)) [] = some []) := by
  intro attach evs
  let mapSg : SgTable → DmaDataDirection → SgTable := fun t _ =>
    ⟨t.sgl.map fun s => { s with dmaAddress := 8192, dmaLen := s.length }, t.sgl.length⟩
  have h1 := ExpReach.map (.attach vb2DcDmabufOpsAttach_page) (by decide)
    (show vb2DcDmabufOpsMap _ .toDevice mapSg = _ from rfl)
  have h2 := ExpReach.map h1 (by decide)
    (show vb2DcDmabufOpsMap _ .toDevice mapSg = _ from rfl)
  have h3 := @ExpReach.unmap _ _ ⟨[⟨1, 0, 4096, 8192, 4096⟩], 1⟩ .toDevice h2
  have h4 : ExpReach attach evs := ExpReach.map h3 (by decide)
    (show vb2DcDmabufOpsMap _ .fromDevice mapSg = _ from rfl)
  exact ⟨h4, exporter_attachment_protocol h4⟩

/-- **An attachment to a live export finds `sgt_base`**: while an exported dma-buf of an
MMAP buffer is live, `vb2_dc_dmabuf_ops_attach` never dereferences a `NULL` `sgt_base`. -/
theorem vb2DcDmabufOpsAttach_live {s : MmapState} (h : MmapReachBelow (2 ^ 32) s)
    (hex : 0 < s.exports) (allocated tableAllocated : Bool) :
    (vb2DcDmabufOpsAttach s.buf allocated tableAllocated).isSome := by
  have hsgt := h.inv.sgtBase_of_exports hex
  unfold vb2DcDmabufOpsAttach
  cases allocated <;> cases tableAllocated <;> cases hb : s.buf.sgtBase <;> simp_all

/-- The first export of the buffer of `vb2DcAlloc_page`: `vb2_dc_get_base_sgt` builds
`sgt_base`, and the dma-buf takes a reference. -/
theorem mmapExec_page_export :
    let t : SgTable := ⟨[⟨1, 0, 4096, 0, 0⟩], 1⟩
    let buf : Vb2DcBuf := { Vb2DcBuf.zeroed with
      vaddr := some 4096
      size := 4096
      dmaAddr := 8192
      refcount := 1 }
    mmapExec (2 ^ 32) (.init buf) [.getDmabuf 0 true (some t) true] =
      some ⟨{ buf with refcount := 2, sgtBase := some t }, false, true, 1, 0, [], 1⟩ := by
  with_unfolding_all rfl

/-- `vb2DcDmabufOpsAttach_live` after the first export. -/
theorem vb2DcDmabufOpsAttach_live_at_export :
    let buf : Vb2DcBuf := { Vb2DcBuf.zeroed with
      vaddr := some 4096
      size := 4096
      dmaAddr := 8192
      refcount := 2
      sgtBase := some ⟨[⟨1, 0, 4096, 0, 0⟩], 1⟩ }
    let s : MmapState := ⟨buf, false, true, 1, 0, [], 1⟩
    MmapReachBelow (2 ^ 32) s ∧ 0 < s.exports ∧
      (vb2DcDmabufOpsAttach s.buf true true).isSome :=
  ⟨(MmapReachBelow.alloc vb2DcAlloc_page).exec mmapExec_page_export, by decide,
    vb2DcDmabufOpsAttach_live ((MmapReachBelow.alloc vb2DcAlloc_page).exec mmapExec_page_export)
      (by decide) true true⟩

end Vb2DmaContig
