import Mathlib

/-!
# The Buffer Descriptor

This module fixes the data `videobuf2-dma-contig.c` works on: the widths its arithmetic
runs at, the DMA data direction, the scatterlist entry and the `sg_table`, the frame vector
of a pinned user range, and the one descriptor `struct vb2_dc_buf` that the three kinds of
buffer (MMAP, USERPTR, DMABUF) share. It also holds the callbacks that every kind of buffer
answers the same way: `vb2_dc_cookie`, `vb2_dc_num_users` and the cache bracket
`vb2_dc_prepare` / `vb2_dc_finish`.

## Conventions

A pointer the code only tests against `NULL` is an `Option`. A freshly `kzalloc`ed
descriptor is `Vb2DcBuf.zeroed`; its direction is `DMA_BIDIRECTIONAL`, the enumerator
numbered `0`. Machine integers are `Nat`s, and where the code adds at a fixed width the
model reduces modulo `2 ^ w` at that addition, `w` read off `Arch`. The kernel services the
code calls (allocators, the DMA API, the dma-buf core) are not modelled: each module takes
their outcomes as arguments, so every theorem holds for every outcome.
-/

namespace Vb2DmaContig

/-- The widths of the types the source computes in: `dma_addr_t`, `unsigned long`, and
`PAGE_SHIFT`. -/
structure Arch where
  dmaAddrBits : Nat
  ulongBits : Nat
  pageShift : Nat
  deriving DecidableEq, Repr

/-- `PAGE_SIZE`. -/
def Arch.pageSize (a : Arch) : Nat := 2 ^ a.pageShift

/-- `enum dma_data_direction`, its enumerators in order. -/
inductive DmaDataDirection
  | bidirectional
  | toDevice
  | fromDevice
  | none
  deriving DecidableEq, Repr

/-- One `struct scatterlist` entry: the page (by frame number), the offset and length of
the CPU-side chunk, and the `sg_dma_address` / `sg_dma_len` the DMA API fills in. -/
structure Scatterlist where
  page : Nat
  offset : Nat
  length : Nat
  dmaAddress : Nat
  dmaLen : Nat
  deriving DecidableEq, Repr

/-- `struct sg_table`: its entries, `orig_nents` of them, and `nents`, the number of
segments the DMA API mapped. -/
structure SgTable where
  sgl : List Scatterlist
  nents : Nat
  deriving DecidableEq, Repr

/-- `sgt->orig_nents`. -/
def SgTable.origNents (t : SgTable) : Nat := t.sgl.length

/-- `sg_dma_address(sgt->sgl)`, the DMA address of the first entry. -/
def SgTable.firstDmaAddress (t : SgTable) : Nat :=
  match t.sgl with
  | [] => 0
  | s :: _ => s.dmaAddress

/-- The first `nents` entries: those `for_each_sg(sgt->sgl, s, sgt->nents, i)` visits. -/
def SgTable.mapped (t : SgTable) : List Scatterlist := t.sgl.take t.nents

/-- `struct frame_vector` of a pinned user range: its frame numbers, in order. After
`frame_vector_to_pages` the same frames are read as pages. -/
structure FrameVector where
  pfns : List Nat
  deriving DecidableEq, Repr

/-- `struct vb2_dc_buf`. `dbAttach` is the `dma_buf_attachment` of an imported buffer,
named by the dma-buf it attaches to. The vm-area handler, which only points back at
`refcount` and `vb2_dc_put`, is not a field: its two uses are modelled where they happen
(`Vb2DmaContig.Mmap`). -/
structure Vb2DcBuf where
  dev : Nat
  vaddr : Option Nat
  size : Nat
  dmaAddr : Nat
  dmaDir : DmaDataDirection
  dmaSgt : Option SgTable
  vec : Option FrameVector
  refcount : Nat
  sgtBase : Option SgTable
  dbAttach : Option Nat
  deriving DecidableEq, Repr

/-- The descriptor as `kzalloc` returns it: every field zero or `NULL`. -/
def Vb2DcBuf.zeroed : Vb2DcBuf where
  dev := 0
  vaddr := .none
  size := 0
  dmaAddr := 0
  dmaDir := .bidirectional
  dmaSgt := .none
  vec := .none
  refcount := 0
  sgtBase := .none
  dbAttach := .none

/-- The error numbers the allocator returns; `ERR_PTR(-e)` is `.error (-e)`. -/
def EIO : Int := 5

/-- `ENOMEM`. -/
def ENOMEM : Int := 12

/-- `EFAULT`. -/
def EFAULT : Int := 14

/-- `EINVAL`. -/
def EINVAL : Int := 22

/-! ### Callbacks for all buffers -/

/-- `vb2_dc_cookie`: the framework reads the buffer's DMA address through it. -/
def vb2DcCookie (buf : Vb2DcBuf) : Nat := buf.dmaAddr

/-- A cache synchronisation of the bracket: `dma_sync_sg_for_device` (`toDevice := true`)
or `dma_sync_sg_for_cpu`, over `orig_nents` entries of a table, in a direction. -/
structure DmaSync where
  toDevice : Bool
  sgl : List Scatterlist
  nents : Nat
  dir : DmaDataDirection
  deriving DecidableEq, Repr

/-- The one test of `vb2_dc_prepare` and `vb2_dc_finish`: a buffer with no local table, or
an imported one ("DMABUF exporter will flush the cache for us"), is not synchronised. -/
def vb2DcSync (toDevice : Bool) (buf : Vb2DcBuf) : Option DmaSync :=
  match buf.dmaSgt, buf.dbAttach with
  | some sgt, .none => some ⟨toDevice, sgt.sgl, sgt.origNents, buf.dmaDir⟩
  | _, _ => .none

/-- `vb2_dc_prepare`: `dma_sync_sg_for_device` over the buffer's table. -/
def vb2DcPrepare (buf : Vb2DcBuf) : Option DmaSync := vb2DcSync true buf

/-- `vb2_dc_finish`: `dma_sync_sg_for_cpu` over the buffer's table. -/
def vb2DcFinish (buf : Vb2DcBuf) : Option DmaSync := vb2DcSync false buf

/-- **The bracket is symmetric**: `prepare` and `finish` synchronise the same buffers, over
the same entries and in the same direction, and differ only in which side they flush. -/
theorem vb2DcFinish_eq_prepare (buf : Vb2DcBuf) :
    vb2DcFinish buf = (vb2DcPrepare buf).map fun s => { s with toDevice := false } := by
  unfold vb2DcFinish vb2DcPrepare vb2DcSync
  split <;> rfl

/-- A buffer is synchronised exactly when it has a local table and is not imported. -/
theorem vb2DcPrepare_isSome_iff (buf : Vb2DcBuf) :
    (vb2DcPrepare buf).isSome ↔ buf.dmaSgt.isSome ∧ buf.dbAttach = .none := by
  cases h : buf.dmaSgt <;> cases h' : buf.dbAttach <;> simp [vb2DcPrepare, vb2DcSync, h, h']

end Vb2DmaContig
