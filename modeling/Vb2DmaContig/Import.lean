import Vb2DmaContig.Ledger
import Vb2DmaContig.ContiguousSize

/-!
# Imported Buffers

A DMABUF buffer is a descriptor attached to a dma-buf that another driver exports.
`vb2_dc_attach_dmabuf` allocates the descriptor and attaches; `vb2_dc_map_dmabuf` asks the
exporter for the attachment's table, checks that it is contiguous over the buffer's size,
and records its first DMA address; `vb2_dc_unmap_dmabuf` gives the table back, with the
kernel mapping `vb2_dc_vaddr` may have taken; `vb2_dc_detach_dmabuf` unmaps a buffer still
mapped, detaches and frees.

Whether a buffer is mapped is recorded twice: `dma_sgt` is the table, and `dma_addr` its
first address, `0` while unmapped. `vb2_dc_unmap_dmabuf` tests the first,
`vb2_dc_detach_dmabuf` the second.

## Main results

* `ImpReach.dmaAddr_eq`: in every state of every run, `dma_addr` is the first DMA address
  of the table held, and `0` without one; so the two records agree exactly as long as no
  table starts at address `0` (`vb2DcMapDmabuf_dmaAddr_zero`).
* `importer_mappings_released`: in a run where the kernel mapping is only asked for while
  the buffer is mapped, a detach that does not find a table starting at address `0` gives
  back every table and every kernel mapping exactly once, and nothing that is not held.
* `vb2DcVaddr_unmapped_leaks`: a kernel mapping taken while unmapped is never given back.
* `importer_calls_replay`: in every run, admissible or not, the calls replay in order, the
  only resources held beyond what the descriptor records are kernel mappings `map`
  dropped, and detach leaves held exactly those and, when `dma_addr` is `0`, the mapped
  table.
* `impStep_map_unmap`: `map` then `unmap` on an unmapped buffer gives back the descriptor
  and everything the two calls took.
-/

namespace Vb2DmaContig

/-- What an imported buffer takes: its descriptor, its attachment, a table the exporter
mapped for it in a direction, and a kernel mapping `dma_buf_vmap` returned. -/
inductive ImpRes
  | descriptor
  | attachment
  | mapping (sgt : SgTable) (dir : DmaDataDirection)
  | vmap (vaddr : Nat)
  deriving DecidableEq, Repr

/-- `vb2_dc_attach_dmabuf(alloc_ctx, dbuf, size, dma_dir)` for the device `dev`, given
`dbuf->size`, whether the `kzalloc` succeeded and what `dma_buf_attach` returned. -/
def vb2DcAttachDmabuf (dev dbufSize size : Nat) (dmaDir : DmaDataDirection)
    (allocated : Bool) (dba : Except Int Nat) : Except Int Vb2DcBuf × List (Event ImpRes) :=
  if dbufSize < size then (.error (-EFAULT), []) else
  if !allocated then (.error (-ENOMEM), []) else
  match dba with
  | .error e => (.error e, [.acquire .descriptor, .release .descriptor])
  | .ok dba =>
      (.ok { Vb2DcBuf.zeroed with dev, dmaDir, size, dbAttach := some dba },
        [.acquire .descriptor, .acquire .attachment])

/-- `vb2_dc_vaddr`, given what `dma_buf_vmap` returns: an imported buffer without a kernel
mapping takes one from the exporter. -/
def vb2DcVaddr (buf : Vb2DcBuf) (vmap : Option Nat) :
    Vb2DcBuf × Option Nat × List (Event ImpRes) :=
  match buf.vaddr, buf.dbAttach with
  | none, some _ => ({ buf with vaddr := vmap }, vmap, vmap.elim [] fun v => [.acquire (.vmap v)])
  | _, _ => (buf, buf.vaddr, [])

/-- `vb2_dc_map_dmabuf`, given what `dma_buf_map_attachment` returns. A table contiguous
over less than the buffer's size is given back at once. -/
def vb2DcMapDmabuf (a : Arch) (buf : Vb2DcBuf) (mapped : Except Int SgTable) :
    Vb2DcBuf × Int × List (Event ImpRes) :=
  match buf.dbAttach, buf.dmaSgt, mapped with
  | none, _, _ => (buf, -EINVAL, [])
  | some _, some _, _ => (buf, 0, [])
  | some _, none, .error _ => (buf, -EINVAL, [])
  | some _, none, .ok sgt =>
      if vb2DcGetContiguousSize a sgt < buf.size then
        (buf, -EFAULT, [.acquire (.mapping sgt buf.dmaDir), .release (.mapping sgt buf.dmaDir)])
      else
        ({ buf with dmaAddr := sgt.firstDmaAddress, dmaSgt := some sgt, vaddr := none }, 0,
          [.acquire (.mapping sgt buf.dmaDir)])

/-- `vb2_dc_unmap_dmabuf`: give back the kernel mapping, if any, then the table. -/
def vb2DcUnmapDmabuf (buf : Vb2DcBuf) : Vb2DcBuf × List (Event ImpRes) :=
  match buf.dbAttach, buf.dmaSgt with
  | some _, some sgt =>
      ({ buf with vaddr := none, dmaAddr := 0, dmaSgt := none },
        buf.vaddr.elim [] (fun v => [.release (.vmap v)]) ++ [.release (.mapping sgt buf.dmaDir)])
  | _, _ => (buf, [])

/-- `vb2_dc_detach_dmabuf`: "if vb2 works correctly you should never detach mapped buffer";
one with a nonzero `dma_addr` is unmapped first. -/
def vb2DcDetachDmabuf (buf : Vb2DcBuf) : List (Event ImpRes) :=
  (if buf.dmaAddr ≠ 0 then (vb2DcUnmapDmabuf buf).2 else []) ++
    [.release .attachment, .release .descriptor]

/-! ### Runs of an imported buffer -/

/-- A call the framework makes on an imported buffer, with what the exporter returns. -/
inductive ImpOp
  | map (mapped : Except Int SgTable)
  | unmap
  | vaddr (vmap : Option Nat)

/-- One call: the new descriptor and the kernel calls it made. -/
def impStep (a : Arch) (buf : Vb2DcBuf) : ImpOp → Vb2DcBuf × List (Event ImpRes)
  | .map mapped => ((vb2DcMapDmabuf a buf mapped).1, (vb2DcMapDmabuf a buf mapped).2.2)
  | .unmap => vb2DcUnmapDmabuf buf
  | .vaddr vmap => ((vb2DcVaddr buf vmap).1, (vb2DcVaddr buf vmap).2.2)

/-- The runs of an imported buffer in which each call satisfies `allowed` in the state it
is made in: a successful attach, then the calls one after another. -/
inductive ImpReach (a : Arch) (allowed : Vb2DcBuf → ImpOp → Prop) :
    Vb2DcBuf → List (Event ImpRes) → Prop
  | attach {dev dbufSize size : Nat} {dmaDir : DmaDataDirection} {allocated : Bool}
      {dba : Except Int Nat} {buf : Vb2DcBuf} {evs : List (Event ImpRes)} :
      vb2DcAttachDmabuf dev dbufSize size dmaDir allocated dba = (.ok buf, evs) →
      ImpReach a allowed buf evs
  | step {buf buf' : Vb2DcBuf} {evs evs' : List (Event ImpRes)} {op : ImpOp} :
      ImpReach a allowed buf evs → allowed buf op → impStep a buf op = (buf', evs') →
      ImpReach a allowed buf' (evs ++ evs')

/-- The calls of the runs `importer_mappings_released` is about: a kernel mapping is taken
only while the buffer is mapped. -/
def ImpOp.Admissible (buf : Vb2DcBuf) : ImpOp → Prop
  | .map _ => True
  | .unmap => True
  | .vaddr vmap => buf.dmaSgt = none → vmap = none

/-- A successful attach: an attached descriptor with no table and no kernel mapping. -/
theorem vb2DcAttachDmabuf_ok {dev dbufSize size : Nat} {dmaDir : DmaDataDirection}
    {allocated : Bool} {dba : Except Int Nat} {buf : Vb2DcBuf} {evs : List (Event ImpRes)}
    (h : vb2DcAttachDmabuf dev dbufSize size dmaDir allocated dba = (.ok buf, evs)) :
    buf.dbAttach.isSome ∧ buf.dmaSgt = none ∧ buf.dmaAddr = 0 ∧ buf.vaddr = none ∧
      evs = [.acquire .descriptor, .acquire .attachment] := by
  unfold vb2DcAttachDmabuf at h
  split_ifs at h <;> rcases dba with _ | dba <;> simp at h
  obtain ⟨rfl, rfl⟩ := h
  exact ⟨rfl, rfl, rfl, rfl, rfl⟩

/-- **What `map` can do**: either nothing that lasts (the descriptor unchanged, and every
table taken given back at once), or, on an attached and unmapped buffer, record a table
contiguous over the buffer's size, and hold it. -/
theorem vb2DcMapDmabuf_cases (a : Arch) (buf : Vb2DcBuf) (mapped : Except Int SgTable) :
    ((vb2DcMapDmabuf a buf mapped).1 = buf ∧
      ∀ held, Ledger.run (vb2DcMapDmabuf a buf mapped).2.2 held = some held) ∨
    ∃ sgt, mapped = .ok sgt ∧ buf.dbAttach.isSome ∧ buf.dmaSgt = none ∧
      buf.size ≤ vb2DcGetContiguousSize a sgt ∧
      (vb2DcMapDmabuf a buf mapped).1 =
        { buf with dmaAddr := sgt.firstDmaAddress, dmaSgt := some sgt, vaddr := none } ∧
      (vb2DcMapDmabuf a buf mapped).2.2 = [.acquire (.mapping sgt buf.dmaDir)] := by
  unfold vb2DcMapDmabuf
  rcases hat : buf.dbAttach with _ | d
  · simp
  rcases hsgt : buf.dmaSgt with _ | t
  · rcases mapped with _ | sgt
    · simp
    · by_cases hc : vb2DcGetContiguousSize a sgt < buf.size
      · simp [hc]
      · exact .inr ⟨sgt, rfl, rfl, rfl, by omega, by simp [hc]⟩
  · simp

/-- What `unmap` can do: nothing, or on an attached and mapped buffer give back the kernel
mapping, if any, then the table, and clear both records. -/
theorem vb2DcUnmapDmabuf_cases (buf : Vb2DcBuf) :
    vb2DcUnmapDmabuf buf = (buf, []) ∨
    ∃ sgt, buf.dbAttach.isSome ∧ buf.dmaSgt = some sgt ∧
      vb2DcUnmapDmabuf buf = ({ buf with vaddr := none, dmaAddr := 0, dmaSgt := none },
        buf.vaddr.elim [] (fun v => [.release (.vmap v)]) ++ [.release (.mapping sgt buf.dmaDir)]) := by
  unfold vb2DcUnmapDmabuf
  rcases hat : buf.dbAttach with _ | d <;> rcases hsgt : buf.dmaSgt with _ | sgt <;> simp

/-- `unmap` on an attached and mapped buffer gives back its kernel mapping, if any, then its
table, and clears both records. -/
theorem vb2DcUnmapDmabuf_of_mapped {buf : Vb2DcBuf} {sgt : SgTable} (hat : buf.dbAttach.isSome)
    (hsgt : buf.dmaSgt = some sgt) :
    vb2DcUnmapDmabuf buf = ({ buf with vaddr := none, dmaAddr := 0, dmaSgt := none },
      buf.vaddr.elim [] (fun v => [.release (.vmap v)]) ++ [.release (.mapping sgt buf.dmaDir)]) := by
  obtain ⟨d, hd⟩ := Option.isSome_iff_exists.mp hat
  simp [vb2DcUnmapDmabuf, hd, hsgt]

/-- What `vaddr` can do: nothing, or on an attached buffer without a kernel mapping record
the one the exporter returned, and hold it. -/
theorem vb2DcVaddr_cases (buf : Vb2DcBuf) (vmap : Option Nat) :
    ((vb2DcVaddr buf vmap).1 = buf ∧ (vb2DcVaddr buf vmap).2.2 = []) ∨
    (buf.vaddr = none ∧ buf.dbAttach.isSome ∧ (vb2DcVaddr buf vmap).1 = { buf with vaddr := vmap } ∧
      (vb2DcVaddr buf vmap).2.2 = vmap.elim [] fun v => [.acquire (.vmap v)]) := by
  unfold vb2DcVaddr
  rcases hv : buf.vaddr with _ | v <;> rcases hat : buf.dbAttach with _ | d <;> simp

/-! ### `dma_addr` and `dma_sgt` -/

/-- What every run keeps of an imported buffer: it stays attached, and `dma_addr` is the
first DMA address of the table held, `0` without one. -/
structure ImpWf (buf : Vb2DcBuf) : Prop where
  attached : buf.dbAttach.isSome
  dmaAddr_eq : buf.dmaAddr = (buf.dmaSgt.map SgTable.firstDmaAddress).getD 0

/-- Every call keeps the buffer attached and `dma_addr` the first address of its table. -/
theorem ImpWf.step {a : Arch} {buf : Vb2DcBuf} (h : ImpWf buf) (op : ImpOp) :
    ImpWf (impStep a buf op).1 := by
  cases op with
  | map mapped =>
      rcases vb2DcMapDmabuf_cases a buf mapped with ⟨h1, -⟩ | ⟨sgt, -, -, -, -, h1, -⟩ <;>
        simp only [impStep, h1]
      · exact h
      · exact ⟨h.attached, rfl⟩
  | unmap =>
      rcases vb2DcUnmapDmabuf_cases buf with h1 | ⟨sgt, -, -, h1⟩ <;> simp only [impStep, h1]
      · exact h
      · exact ⟨h.attached, rfl⟩
  | vaddr vmap =>
      rcases vb2DcVaddr_cases buf vmap with ⟨h1, -⟩ | ⟨-, -, h1, -⟩ <;> simp only [impStep, h1]
      · exact h
      · exact ⟨h.attached, h.dmaAddr_eq⟩

/-- **`dma_addr` follows `dma_sgt`**: in every state of every run, whatever the calls and
whatever the exporter returns, `dma_addr` is the first DMA address of the table held, and
`0` when none is. -/
theorem ImpReach.dmaAddr_eq {a : Arch} {allowed : Vb2DcBuf → ImpOp → Prop} {buf : Vb2DcBuf}
    {evs : List (Event ImpRes)} (h : ImpReach a allowed buf evs) : ImpWf buf := by
  induction h with
  | attach h =>
      obtain ⟨hat, hsgt, haddr, -⟩ := vb2DcAttachDmabuf_ok h
      exact ⟨hat, by simp [hsgt, haddr]⟩
  | @step buf _ _ _ op _ _ hs ih =>
      have := ih.step (a := a) op
      rwa [hs] at this

/-- Attaching a buffer of one page to a dma-buf of one page. -/
theorem vb2DcAttachDmabuf_page :
    vb2DcAttachDmabuf 0 4096 4096 .bidirectional true (.ok 1) =
      (.ok ⟨0, none, 4096, 0, .bidirectional, none, none, 0, none, some 1⟩,
        [.acquire .descriptor, .acquire .attachment]) := rfl

/-- A table that starts at DMA address `0` is recorded with `dma_addr` `0`: the buffer is
mapped and `dma_addr` says it is not, so detach leaves the table mapped. -/
theorem vb2DcMapDmabuf_dmaAddr_zero :
    let sgt : SgTable := ⟨[⟨0, 0, 4096, 0, 4096⟩], 1⟩
    let buf : Vb2DcBuf := ⟨0, none, 4096, 0, .bidirectional, some sgt, none, 0, none, some 1⟩
    ImpReach ⟨64, 64, 12⟩ (fun _ _ => True) buf
        ([.acquire .descriptor, .acquire .attachment] ++ [.acquire (.mapping sgt .bidirectional)]) ∧
      buf.dmaSgt.isSome ∧ buf.dmaAddr = 0 ∧
      (vb2DcDetachDmabuf buf).count (.release (.mapping sgt .bidirectional)) = 0 :=
  ⟨.step (.attach vb2DcAttachDmabuf_page) trivial
    (show impStep _ _ (.map (.ok ⟨[⟨0, 0, 4096, 0, 4096⟩], 1⟩)) = _ from rfl), rfl, rfl, by decide⟩

/-! ### Admissible runs -/

/-- What an imported buffer holds, top of the stack first: its kernel mapping, its table,
its attachment and its descriptor. -/
def Vb2DcBuf.importHeld (buf : Vb2DcBuf) : List ImpRes :=
  buf.vaddr.elim [] (fun v => [.vmap v]) ++ buf.dmaSgt.elim [] (fun sgt => [.mapping sgt buf.dmaDir]) ++
    [.attachment, .descriptor]

/-- The invariant of admissible runs: a kernel mapping only beside a table, and the calls
made so far hold exactly what `importHeld` says. -/
structure ImpInv (buf : Vb2DcBuf) (evs : List (Event ImpRes)) extends ImpWf buf : Prop where
  vaddr_of_unmapped : buf.dmaSgt = none → buf.vaddr = none
  ledger : Ledger.run evs [] = some buf.importHeld

/-- **One admissible call keeps the invariant**: each call's kernel calls lead from what the
buffer holds before to what it holds after. -/
theorem ImpInv.step {a : Arch} {buf : Vb2DcBuf} {evs : List (Event ImpRes)} (h : ImpInv buf evs)
    {op : ImpOp} (hop : op.Admissible buf) :
    ImpInv (impStep a buf op).1 (evs ++ (impStep a buf op).2) := by
  have hwf := h.toImpWf.step (a := a) op
  cases op with
  | map mapped =>
      rcases vb2DcMapDmabuf_cases a buf mapped with ⟨h1, h2⟩ | ⟨sgt, rfl, -, hsgt, -, h1, h2⟩ <;>
        simp only [impStep, h1, h2] at hwf ⊢
      · exact ⟨hwf, h.vaddr_of_unmapped, by
          rw [Ledger.run_append, h.ledger, Option.some_bind, h2]⟩
      · refine ⟨hwf, by simp, ?_⟩
        rw [Ledger.run_append, h.ledger, Option.some_bind]
        simp [Vb2DcBuf.importHeld, hsgt, h.vaddr_of_unmapped hsgt]
  | unmap =>
      rcases vb2DcUnmapDmabuf_cases buf with h1 | ⟨sgt, -, hsgt, h1⟩ <;>
        simp only [impStep, h1] at hwf ⊢
      · simpa using h
      · refine ⟨hwf, fun _ => rfl, ?_⟩
        rw [Ledger.run_append, h.ledger, Option.some_bind]
        rcases hv : buf.vaddr with _ | v <;> simp [Vb2DcBuf.importHeld, hsgt, hv]
  | vaddr vmap =>
      rcases vb2DcVaddr_cases buf vmap with ⟨h1, h2⟩ | ⟨hv, -, h1, h2⟩ <;>
        simp only [impStep, h1, h2] at hwf ⊢
      · simpa using h
      · refine ⟨hwf, fun hs => hop hs, ?_⟩
        rw [Ledger.run_append, h.ledger, Option.some_bind]
        rcases vmap with _ | v <;> simp [Vb2DcBuf.importHeld, hv]

/-- **The invariant of admissible runs** holds in every state of every one of them. -/
theorem ImpReach.inv {a : Arch} {buf : Vb2DcBuf} {evs : List (Event ImpRes)}
    (h : ImpReach a ImpOp.Admissible buf evs) : ImpInv buf evs := by
  induction h with
  | attach h =>
      obtain ⟨hat, hsgt, haddr, hv, rfl⟩ := vb2DcAttachDmabuf_ok h
      exact ⟨⟨hat, by simp [hsgt, haddr]⟩, fun _ => hv, by simp [Vb2DcBuf.importHeld, hsgt, hv]⟩
  | @step buf _ _ _ op _ hop hs ih =>
      have := ih.step (a := a) hop
      rwa [hs] at this

/-- `detach` gives back all an admissible run holds, when it does not find a table starting
at DMA address `0`: a buffer still mapped is unmapped, since its `dma_addr` is not `0`. -/
theorem ImpInv.detach {buf : Vb2DcBuf} {evs : List (Event ImpRes)} (h : ImpInv buf evs)
    (hdetach : ∀ sgt, buf.dmaSgt = some sgt → sgt.firstDmaAddress ≠ 0) :
    Ledger.run (vb2DcDetachDmabuf buf) buf.importHeld = some [] := by
  have haddr := h.dmaAddr_eq
  unfold vb2DcDetachDmabuf
  rcases hsgt : buf.dmaSgt with _ | sgt
  · simp [hsgt] at haddr
    simp [haddr, Vb2DcBuf.importHeld, hsgt, h.vaddr_of_unmapped hsgt]
  · have hne : buf.dmaAddr ≠ 0 := by simpa [hsgt, haddr] using hdetach sgt hsgt
    rw [if_pos hne, vb2DcUnmapDmabuf_of_mapped h.attached hsgt]
    rcases hv : buf.vaddr with _ | v <;> simp [Vb2DcBuf.importHeld, hsgt, hv]

/-- **Every mapping given back once.** In every run of an imported buffer in which a kernel
mapping is taken only while the buffer is mapped, and whatever tables the exporter
returns, a detach that does not find a table starting at DMA address `0` makes the calls
since attach replay from nothing back to nothing: nothing is unmapped or vunmapped that
is not held, and every table and every kernel mapping taken is given back exactly once,
each table in the direction it was mapped in. -/
theorem importer_mappings_released {a : Arch} {buf : Vb2DcBuf} {evs : List (Event ImpRes)}
    (h : ImpReach a ImpOp.Admissible buf evs)
    (hdetach : ∀ sgt, buf.dmaSgt = some sgt → sgt.firstDmaAddress ≠ 0) :
    Ledger.run (evs ++ vb2DcDetachDmabuf buf) [] = some [] ∧
      ∀ r, (evs ++ vb2DcDetachDmabuf buf).count (.release r) =
        (evs ++ vb2DcDetachDmabuf buf).count (.acquire r) := by
  have hrun : Ledger.run (evs ++ vb2DcDetachDmabuf buf) [] = some [] := by
    rw [Ledger.run_append, h.inv.ledger, Option.some_bind, h.inv.detach hdetach]
  exact ⟨hrun, Ledger.run_balanced hrun⟩

/-- `importer_mappings_released` after a run that maps a table starting at DMA address `0`,
takes a kernel mapping, unmaps both, maps a table at `8192` and takes a kernel mapping
again, before detach. -/
theorem importer_mappings_released_at_remap :
    let t0 : SgTable := ⟨[⟨1, 0, 4096, 0, 4096⟩], 1⟩
    let t1 : SgTable := ⟨[⟨1, 0, 4096, 8192, 4096⟩], 1⟩
    let buf : Vb2DcBuf :=
      ⟨0, some 9, 4096, 8192, .bidirectional, some t1, none, 0, none, some 1⟩
    let evs : List (Event ImpRes) :=
      [.acquire .descriptor, .acquire .attachment, .acquire (.mapping t0 .bidirectional),
        .acquire (.vmap 7), .release (.vmap 7), .release (.mapping t0 .bidirectional),
        .acquire (.mapping t1 .bidirectional), .acquire (.vmap 9)]
    ImpReach ⟨64, 64, 12⟩ ImpOp.Admissible buf evs ∧
      (∀ sgt, buf.dmaSgt = some sgt → sgt.firstDmaAddress ≠ 0) ∧
      (Ledger.run (evs ++ vb2DcDetachDmabuf buf) [] = some [] ∧
        ∀ r, (evs ++ vb2DcDetachDmabuf buf).count (.release r) =
          (evs ++ vb2DcDetachDmabuf buf).count (.acquire r)) := by
  have h1 : ImpReach ⟨64, 64, 12⟩ ImpOp.Admissible _ _ := .step (.attach vb2DcAttachDmabuf_page)
    (by trivial)
    (show impStep ⟨64, 64, 12⟩ _ (.map (.ok ⟨[⟨1, 0, 4096, 0, 4096⟩], 1⟩)) = _ from rfl)
  have h2 : ImpReach ⟨64, 64, 12⟩ ImpOp.Admissible _ _ := .step h1
    (by intro h; cases h) (show impStep ⟨64, 64, 12⟩ _ (.vaddr (some 7)) = _ from rfl)
  have h3 : ImpReach ⟨64, 64, 12⟩ ImpOp.Admissible _ _ := .step h2
    (by trivial) (show impStep ⟨64, 64, 12⟩ _ .unmap = _ from rfl)
  have h4 : ImpReach ⟨64, 64, 12⟩ ImpOp.Admissible _ _ := .step h3
    (by trivial)
    (show impStep ⟨64, 64, 12⟩ _ (.map (.ok ⟨[⟨1, 0, 4096, 8192, 4096⟩], 1⟩)) = _ from rfl)
  have h5 := ImpReach.step h4
    (by intro h; cases h) (show impStep ⟨64, 64, 12⟩ _ (.vaddr (some 9)) = _ from rfl)
  exact ⟨h5, by rintro _ ⟨⟩; decide,
    importer_mappings_released h5 (by rintro _ ⟨⟩; decide)⟩

/-- A kernel mapping taken while the buffer is unmapped is never given back: neither `map`,
which clears `vaddr`, nor detach, which finds `dma_addr` `0`, calls `dma_buf_vunmap`. -/
theorem vb2DcVaddr_unmapped_leaks :
    let buf : Vb2DcBuf := ⟨0, some 1, 4096, 0, .bidirectional, none, none, 0, none, some 1⟩
    let evs : List (Event ImpRes) :=
      [.acquire .descriptor, .acquire .attachment] ++ [.acquire (.vmap 1)]
    ImpReach ⟨64, 64, 12⟩ (fun _ _ => True) buf evs ∧
      (evs ++ vb2DcDetachDmabuf buf).count (.acquire (.vmap 1)) = 1 ∧
      (evs ++ vb2DcDetachDmabuf buf).count (.release (.vmap 1)) = 0 :=
  ⟨.step (.attach vb2DcAttachDmabuf_page) trivial
    (show impStep _ _ (.vaddr (some 1)) = _ from rfl), by decide, by decide⟩

/-! ### Every run

Without the restrictions of admissible runs, a kernel mapping may be taken while the buffer
is unmapped, and `map` then clears `vaddr` without giving it back. Nothing else goes wrong:
the calls of every run replay, with only such kernel mappings held beyond what the
descriptor records; detach, its releases replayed in any order, leaves exactly those and a
table recorded at DMA address `0`. -/

/-- What the calls of a run hold, top of the stack first: the buffer's kernel mapping and
table, then kernel mappings `map` dropped from `vaddr`, then the attachment and the
descriptor. -/
def Vb2DcBuf.importHeldLeaking (buf : Vb2DcBuf) (leaked : List Nat) : List ImpRes :=
  buf.vaddr.elim [] (fun v => [.vmap v]) ++
    buf.dmaSgt.elim [] (fun sgt => [.mapping sgt buf.dmaDir]) ++
    (leaked.map .vmap ++ [.attachment, .descriptor])

/-- **One call replays**, from any descriptor: `map` may push the kernel mapping it clears
down among the dropped ones, and nothing else changes below what the descriptor records. -/
theorem impStep_replay (a : Arch) (buf : Vb2DcBuf) (leaked : List Nat) (op : ImpOp) :
    ∃ leaked', Ledger.run (impStep a buf op).2 (buf.importHeldLeaking leaked) =
      some ((impStep a buf op).1.importHeldLeaking leaked') := by
  cases op with
  | map mapped =>
      rcases vb2DcMapDmabuf_cases a buf mapped with
        ⟨h1, h2⟩ | ⟨sgt, -, -, hsgt, -, h1, h2⟩ <;> simp only [impStep, h1, h2]
      · exact ⟨leaked, rfl⟩
      · refine ⟨buf.vaddr.toList ++ leaked, ?_⟩
        rcases hv : buf.vaddr with _ | v <;> simp [Vb2DcBuf.importHeldLeaking, hsgt, hv]
  | unmap =>
      rcases vb2DcUnmapDmabuf_cases buf with h1 | ⟨sgt, -, hsgt, h1⟩ <;> simp only [impStep, h1]
      · exact ⟨leaked, rfl⟩
      · refine ⟨leaked, ?_⟩
        rcases hv : buf.vaddr with _ | v <;> simp [Vb2DcBuf.importHeldLeaking, hsgt, hv]
  | vaddr vmap =>
      rcases vb2DcVaddr_cases buf vmap with ⟨h1, h2⟩ | ⟨hv, -, h1, h2⟩ <;>
        simp only [impStep, h1, h2]
      · exact ⟨leaked, rfl⟩
      · refine ⟨leaked, ?_⟩
        rcases vmap with _ | v <;> simp [Vb2DcBuf.importHeldLeaking, hv]

/-- The calls of every run replay in order, to what the descriptor records over dropped
kernel mappings. -/
theorem ImpReach.replay {a : Arch} {allowed : Vb2DcBuf → ImpOp → Prop} {buf : Vb2DcBuf}
    {evs : List (Event ImpRes)} (h : ImpReach a allowed buf evs) :
    ∃ leaked, Ledger.run evs [] = some (buf.importHeldLeaking leaked) := by
  induction h with
  | attach h =>
      obtain ⟨-, hsgt, -, hv, rfl⟩ := vb2DcAttachDmabuf_ok h
      exact ⟨[], by simp [Vb2DcBuf.importHeldLeaking, hsgt, hv]⟩
  | @step buf _ _ _ op _ _ hs ih =>
      obtain ⟨leaked, hrun⟩ := ih
      obtain ⟨leaked', h'⟩ := impStep_replay a buf leaked op
      rw [hs] at h'
      exact ⟨leaked', by rw [Ledger.run_append, hrun, Option.some_bind, h']⟩

/-- What detach leaves of a run, releases taken in any order: the kernel mappings `map`
dropped and, when `dma_addr` is `0`, the kernel mapping and table the descriptor records. -/
theorem vb2DcDetachDmabuf_runAny {buf : Vb2DcBuf} (hwf : ImpWf buf) (leaked : List Nat) :
    Ledger.runAny (vb2DcDetachDmabuf buf) (buf.importHeldLeaking leaked) =
      some ((if buf.dmaAddr ≠ 0 then [] else
          buf.vaddr.elim [] (fun v => [.vmap v]) ++
            buf.dmaSgt.elim [] (fun sgt => [.mapping sgt buf.dmaDir])) ++
        leaked.map .vmap) := by
  have hatt : ImpRes.attachment ∉ leaked.map ImpRes.vmap := by simp
  have hdesc : ImpRes.descriptor ∉ leaked.map ImpRes.vmap := by simp
  unfold vb2DcDetachDmabuf
  by_cases hz : buf.dmaAddr = 0
  · rw [if_neg (not_not.mpr hz), if_neg (not_not.mpr hz)]
    rcases hv : buf.vaddr with _ | v <;> rcases hs : buf.dmaSgt with _ | sgt <;>
      simp [Vb2DcBuf.importHeldLeaking, hv, hs, Ledger.runAny, Ledger.stepAny,
        List.erase_append_right _ hatt, List.erase_append_right _ hdesc]
  · obtain ⟨sgt, hs⟩ : ∃ sgt, buf.dmaSgt = some sgt :=
      Option.ne_none_iff_exists'.mp fun hs => hz (by simpa [hs] using hwf.dmaAddr_eq)
    rw [if_pos hz, if_pos hz, vb2DcUnmapDmabuf_of_mapped hwf.attached hs]
    rcases hv : buf.vaddr with _ | v <;>
      simp [Vb2DcBuf.importHeldLeaking, hv, hs, Ledger.runAny, Ledger.stepAny,
        List.erase_append_right _ hatt, List.erase_append_right _ hdesc]

/-- **Every run of an imported buffer, through detach.** Whatever the calls and whatever the
exporter returns, the calls made since attach replay in order: no table and no kernel
mapping is given back that is not held, or out of order, and what is held beyond the
buffer's kernel mapping and table, its attachment and its descriptor is only kernel
mappings that `map` dropped from `vaddr`. Detach then gives back the attachment and the
descriptor, and what stays held is exactly those dropped kernel mappings and, when
`dma_addr` is `0`, the kernel mapping and table the descriptor still records. -/
theorem importer_calls_replay {a : Arch} {allowed : Vb2DcBuf → ImpOp → Prop} {buf : Vb2DcBuf}
    {evs : List (Event ImpRes)} (h : ImpReach a allowed buf evs) :
    ∃ leaked, Ledger.run evs [] = some (buf.importHeldLeaking leaked) ∧
      Ledger.runAny (evs ++ vb2DcDetachDmabuf buf) [] =
        some ((if buf.dmaAddr ≠ 0 then [] else
            buf.vaddr.elim [] (fun v => [.vmap v]) ++
              buf.dmaSgt.elim [] (fun sgt => [.mapping sgt buf.dmaDir])) ++
          leaked.map .vmap) := by
  obtain ⟨leaked, hrun⟩ := h.replay
  refine ⟨leaked, hrun, ?_⟩
  rw [Ledger.runAny_append, Ledger.run_runAny hrun, Option.some_bind,
    vb2DcDetachDmabuf_runAny h.dmaAddr_eq]

/-- `importer_calls_replay` after a kernel mapping taken while the buffer is unmapped, the
run of `vb2DcVaddr_unmapped_leaks`: detach leaves that mapping held. -/
theorem importer_calls_replay_at_leak :
    let buf : Vb2DcBuf := ⟨0, some 1, 4096, 0, .bidirectional, none, none, 0, none, some 1⟩
    let evs : List (Event ImpRes) :=
      [.acquire .descriptor, .acquire .attachment] ++ [.acquire (.vmap 1)]
    ImpReach ⟨64, 64, 12⟩ (fun _ _ => True) buf evs ∧
      ∃ leaked, Ledger.run evs [] = some (buf.importHeldLeaking leaked) ∧
        Ledger.runAny (evs ++ vb2DcDetachDmabuf buf) [] =
          some ((if buf.dmaAddr ≠ 0 then [] else
              buf.vaddr.elim [] (fun v => [.vmap v]) ++
                buf.dmaSgt.elim [] (fun sgt => [.mapping sgt buf.dmaDir])) ++
            leaked.map .vmap) :=
  ⟨.step (.attach vb2DcAttachDmabuf_page) trivial
      (show impStep _ _ (.vaddr (some 1)) = _ from rfl),
    @importer_calls_replay ⟨64, 64, 12⟩ (fun _ _ => True) _ _
      (.step (.attach vb2DcAttachDmabuf_page) trivial
        (show impStep _ _ (.vaddr (some 1)) = _ from rfl))⟩

/-- **`map` then `unmap` is a round trip.** In every run, on a buffer that is unmapped and
has no kernel mapping, a `map` followed by an `unmap` leaves the descriptor as it was,
`dma_addr` back at `0`, and its calls give back what they took. -/
theorem impStep_map_unmap {a : Arch} {allowed : Vb2DcBuf → ImpOp → Prop} {buf : Vb2DcBuf}
    {evs : List (Event ImpRes)} (h : ImpReach a allowed buf evs) (hsgt : buf.dmaSgt = none)
    (hv : buf.vaddr = none) (mapped : Except Int SgTable) :
    (impStep a (impStep a buf (.map mapped)).1 .unmap).1 = buf ∧
      ∀ held, Ledger.run ((impStep a buf (.map mapped)).2 ++
        (impStep a (impStep a buf (.map mapped)).1 .unmap).2) held = some held := by
  have haddr : buf.dmaAddr = 0 := by simpa [hsgt] using h.dmaAddr_eq.dmaAddr_eq
  rcases vb2DcMapDmabuf_cases a buf mapped with ⟨h1, h2⟩ | ⟨sgt, -, hat, -, -, h1, h2⟩
  · have hu : vb2DcUnmapDmabuf buf = (buf, []) := by simp [vb2DcUnmapDmabuf, hsgt]
    refine ⟨by simp only [impStep, h1, hu], fun held => ?_⟩
    simpa only [impStep, h1, hu, List.append_nil] using h2 held
  · have hu := @vb2DcUnmapDmabuf_of_mapped
      { buf with dmaAddr := sgt.firstDmaAddress, dmaSgt := some sgt, vaddr := none } sgt hat rfl
    simp only [impStep, h1, h2, hu]
    refine ⟨?_, fun held => by simp⟩
    cases buf
    cases hsgt; cases hv; cases haddr
    rfl

/-- `impStep_map_unmap` on a freshly attached buffer, mapped with a one-page table and
unmapped again. -/
theorem impStep_map_unmap_at_attach :
    let a : Arch := ⟨64, 64, 12⟩
    let buf : Vb2DcBuf := ⟨0, none, 4096, 0, .bidirectional, none, none, 0, none, some 1⟩
    let mapped : Except Int SgTable := .ok ⟨[⟨0, 0, 4096, 8192, 4096⟩], 1⟩
    ImpReach a (fun _ _ => True) buf [.acquire .descriptor, .acquire .attachment] ∧
      buf.dmaSgt = none ∧ buf.vaddr = none ∧
      ((impStep a (impStep a buf (.map mapped)).1 .unmap).1 = buf ∧
        ∀ held, Ledger.run ((impStep a buf (.map mapped)).2 ++
          (impStep a (impStep a buf (.map mapped)).1 .unmap).2) held = some held) :=
  ⟨.attach vb2DcAttachDmabuf_page, rfl, rfl,
    @impStep_map_unmap ⟨64, 64, 12⟩ (fun _ _ => True) _ _ (.attach vb2DcAttachDmabuf_page)
      rfl rfl _⟩

end Vb2DmaContig
