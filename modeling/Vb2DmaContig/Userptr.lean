import Vb2DmaContig.Import

/-!
# User Pointer Buffers

`vb2_dc_get_userptr` pins a user range and makes it one contiguous DMA range. The range is
pinned as a frame vector. When the frames have pages, they are grouped into an sg table,
mapped with `dma_map_sg`, and the mapping must be contiguous over the requested size; when
they do not, the frames themselves must be consecutive, and the DMA address is computed
from the first one (`vb2_dc_pfn_to_dma`). Each failure jumps to an error label, and the
labels fall through into each other, releasing in reverse what the call took.
`vb2_dc_put_userptr` releases what a returned buffer holds.

The kernel services the call makes are the fields of `UserptrEnv`; as in the other
modules, the calls into them are `Event`s, replayed by `Ledger.run`.

## Main results

* `vb2DcGetUserptr_resources`: for every request and every outcome of every step, a failed
  call has given back all it took, in reverse order, and nothing else; a returned buffer
  holds its mapping, its table, its frame vector and its descriptor, and
  `vb2_dc_put_userptr` gives each of them back once.
* `vb2DcGetUserptr_errno`: a failure returns the error of the step that failed, an errno
  the framework's `IS_ERR_OR_NULL` recognises when the kernel services fail with errnos.
* `vb2DcGetUserptr_pfn_offset`: the two paths record DMA addresses that differ by the
  offset of `vaddr` in its page, which the pfn path leaves out.
* `vb2DcGetUserptr_pfn_frames`: the pfn path translates only the first frame, and where
  `dma_addr_t` is no wider than an `unsigned long` shifted by `PAGE_SHIFT` that is right
  for every frame, page after page.
* `vb2DcSync_imported_userptr`: `prepare` and `finish` never synchronise an imported
  buffer, and synchronise a USERPTR buffer exactly on the page path, over the table it
  mapped and in the direction it mapped it.
* `vb2DcPutUserptr_dirty`: a returned buffer has a table exactly when its frames were
  turned into pages, so `vb2_dc_put_userptr` never meets its `BUG_ON` and marks dirty every
  pinned page, and nothing on the pfn path.
* `accepted_range_covered_exact`: where no segment reaches the top of the address space,
  an accepted table covers the buffer's device range as integers.
-/

namespace Vb2DmaContig

/-- What a USERPTR buffer takes: its descriptor, its frame vector, the `struct sg_table`,
the entries `sg_alloc_table_from_pages` allocates in it, and a `dma_map_sg` mapping of the
table in a direction. -/
inductive UserRes
  | descriptor
  | frameVector
  | sgtStruct
  | sgTable
  | dmaMapping (sgt : SgTable) (dir : DmaDataDirection)
  deriving DecidableEq, Repr

/-- `vb2_dc_pfn_to_dma` where the architecture provides no translation:
`(dma_addr_t)(pfn) << PAGE_SHIFT`. -/
def vb2DcPfnToDma (a : Arch) (pfn : Nat) : Nat :=
  ((pfn % 2 ^ a.dmaAddrBits) <<< a.pageShift) % 2 ^ a.dmaAddrBits

/-- `dma_map_sg` under the translation `vb2_dc_pfn_to_dma` makes: each entry mapped at the
DMA address of its page plus its offset, one segment per entry. -/
def directMapSg (a : Arch) (t : SgTable) (_dir : DmaDataDirection) : SgTable :=
  ⟨t.sgl.map fun s =>
      { s with dmaAddress := (vb2DcPfnToDma a s.page + s.offset) % 2 ^ a.dmaAddrBits
               dmaLen := s.length },
    t.sgl.length⟩

/-- The runs of consecutive frames of a page list, each as its first frame and its number
of pages. -/
def pageRuns : List Nat → List (Nat × Nat)
  | [] => []
  | p :: ps =>
      match pageRuns ps with
      | (q, n) :: rs => if q = p + 1 then (p, n + 1) :: rs else (p, 1) :: (q, n) :: rs
      | [] => [(p, 1)]

/-- The entries of the runs: the first starts `offset` bytes into its page, and the
entries cover `size` bytes. -/
def runEntries (a : Arch) : List (Nat × Nat) → Nat → Nat → List Scatterlist
  | [], _, _ => []
  | (p, n) :: rs, offset, size =>
      ⟨p, offset, min size (n * a.pageSize - offset), 0, 0⟩ ::
        runEntries a rs 0 (size - (n * a.pageSize - offset))

/-- Modelled from the spec: `sg_alloc_table_from_pages`, which the source calls and does
not contain ("groups pages into device-address segments"): one entry for each run of
consecutive frames, the first starting `offset` bytes into its page, the entries together
covering `size` bytes. -/
def sgAllocTableFromPages (a : Arch) (pages : List Nat) (offset size : Nat) : SgTable :=
  ⟨runEntries a (pageRuns pages) offset size, (runEntries a (pageRuns pages) offset size).length⟩

/-- Whether the frames of a vector that has no pages are consecutive: the loop over
`nums[i-1] + 1 != nums[i]`, in `unsigned long`. -/
def pfnsConsecutive (a : Arch) : List Nat → Bool
  | p :: q :: rest => (p + 1) % 2 ^ a.ulongBits == q && pfnsConsecutive a (q :: rest)
  | _ => true

/-- What the kernel services `vb2_dc_get_userptr` calls return: the cache alignment,
whether each allocation succeeded, the frame vector `vb2_create_framevec` pins (or its
error), what `frame_vector_to_pages` and `sg_alloc_table_from_pages` return, and the table
`dma_map_sg_attrs` leaves, its `nents` the count it returns. -/
structure UserptrEnv where
  dmaAlign : Nat
  bufAllocated : Bool
  vec : Except Int FrameVector
  toPages : Int
  sgtAllocated : Bool
  tableRet : Int
  dmaMapSg : SgTable → DmaDataDirection → SgTable

/-! ### The error labels

`vb2_dc_get_userptr` ends in five labels, each one call falling through into the next;
`goto` a label makes the calls from it to the `return`. -/

/-- `fail_buf`: `kfree(buf)`. -/
def failBuf : List (Event UserRes) := [.release .descriptor]

/-- `fail_pfnvec`: `vb2_destroy_framevec(vec)`, then `fail_buf`. -/
def failPfnvec : List (Event UserRes) := .release .frameVector :: failBuf

/-- `fail_sgt`: `kfree(sgt)`, then `fail_pfnvec`. -/
def failSgt : List (Event UserRes) := .release .sgtStruct :: failPfnvec

/-- `fail_sgt_init`: `sg_free_table(sgt)`, then `fail_sgt`. -/
def failSgtInit : List (Event UserRes) := .release .sgTable :: failSgt

/-- `fail_map_sg`: `dma_unmap_sg_attrs` of the table in the buffer's direction, then
`fail_sgt_init`. -/
def failMapSg (sgt : SgTable) (dir : DmaDataDirection) : List (Event UserRes) :=
  .release (.dmaMapping sgt dir) :: failSgtInit

/-- `vb2_dc_get_userptr(alloc_ctx, vaddr, size, dma_dir)` for the device `dev`.
`IS_ALIGNED` masks with `dma_align - 1` computed in `unsigned long`. -/
def vb2DcGetUserptr (a : Arch) (env : UserptrEnv) (dev vaddr size : Nat)
    (dmaDir : DmaDataDirection) : Except Int Vb2DcBuf × List (Event UserRes) :=
  if (vaddr ||| size) &&& ((env.dmaAlign + (2 ^ a.ulongBits - 1)) % 2 ^ a.ulongBits) ≠ 0 then
    (.error (-EINVAL), []) else
  if size = 0 then (.error (-EINVAL), []) else
  if !env.bufAllocated then (.error (-ENOMEM), []) else
  let offset := vaddr &&& (a.pageSize - 1)
  match env.vec with
  | .error ret => (.error ret, .acquire .descriptor :: failBuf)
  | .ok vec =>
  let buf : Vb2DcBuf := { Vb2DcBuf.zeroed with dev, dmaDir, vec := some vec }
  let held : List (Event UserRes) := [.acquire .descriptor, .acquire .frameVector]
  if env.toPages < 0 then
    if pfnsConsecutive a vec.pfns then
      (.ok { buf with dmaAddr := vb2DcPfnToDma a (vec.pfns.headD 0), size }, held)
    else (.error env.toPages, held ++ failPfnvec)
  else if !env.sgtAllocated then (.error (-ENOMEM), held ++ failPfnvec)
  else if env.tableRet ≠ 0 then (.error env.tableRet, held ++ .acquire .sgtStruct :: failSgt)
  else
  let held := held ++ [.acquire .sgtStruct, .acquire .sgTable]
  let sgt := env.dmaMapSg (sgAllocTableFromPages a vec.pfns offset size) dmaDir
  if sgt.nents = 0 then (.error (- EIO), held ++ failSgtInit)
  else if vb2DcGetContiguousSize a sgt < size then
    (.error (-EFAULT), held ++ .acquire (.dmaMapping sgt dmaDir) :: failMapSg sgt dmaDir)
  else
    (.ok { buf with dmaAddr := sgt.firstDmaAddress, dmaSgt := some sgt, size },
      held ++ [.acquire (.dmaMapping sgt dmaDir)])

/-- `vb2_dc_put_userptr`: the pages it marks dirty, and the calls releasing the buffer.
A buffer with a table is unmapped with that table and its own direction, and the table
freed, before the frame vector and the descriptor. -/
def vb2DcPutUserptr (buf : Vb2DcBuf) : List Nat × List (Event UserRes) :=
  match buf.dmaSgt with
  | some sgt =>
      ((buf.vec.map FrameVector.pfns).getD [],
        [.release (.dmaMapping sgt buf.dmaDir), .release .sgTable, .release .sgtStruct,
          .release .frameVector, .release .descriptor])
  | none => ([], [.release .frameVector, .release .descriptor])

/-! ### Resources -/

/-- What a USERPTR buffer holds, top of the stack first: its mapping and its table, when it
has one, then its frame vector and its descriptor. -/
def Vb2DcBuf.userptrHeld (buf : Vb2DcBuf) : List UserRes :=
  buf.dmaSgt.elim [] (fun sgt => [.dmaMapping sgt buf.dmaDir, .sgTable, .sgtStruct]) ++
    [.frameVector, .descriptor]

/-- The errors `vb2_dc_get_userptr` returns: its own `-EINVAL`, `-ENOMEM`, `-EIO` and
`-EFAULT`, or what a kernel service it calls returned: the error of `vb2_create_framevec`,
the negative count of `frame_vector_to_pages`, the nonzero return of
`sg_alloc_table_from_pages`. -/
def UserptrEnv.ErrorOf (env : UserptrEnv) (e : Int) : Prop :=
  e = -EINVAL ∨ e = -ENOMEM ∨ e = - EIO ∨ e = -EFAULT ∨ env.vec = .error e ∨
    (env.toPages < 0 ∧ e = env.toPages) ∨ (env.tableRet ≠ 0 ∧ e = env.tableRet)

/-- **What `vb2_dc_get_userptr` can do**: fail with the error of the step that failed,
having made calls that give back all they took; or return a buffer by the pfn path,
holding the frame vector; or by the page path, holding a mapped table that is contiguous
over the size. -/
theorem vb2DcGetUserptr_cases (a : Arch) (env : UserptrEnv) (dev vaddr size : Nat)
    (dmaDir : DmaDataDirection) :
    (∃ e, (vb2DcGetUserptr a env dev vaddr size dmaDir).1 = .error e ∧ env.ErrorOf e ∧
      Ledger.run (vb2DcGetUserptr a env dev vaddr size dmaDir).2 [] = some []) ∨
    ∃ vec, env.vec = .ok vec ∧
      ((env.toPages < 0 ∧ pfnsConsecutive a vec.pfns = true ∧
        vb2DcGetUserptr a env dev vaddr size dmaDir =
          (.ok { Vb2DcBuf.zeroed with
                 dev, dmaDir, vec := some vec, dmaAddr := vb2DcPfnToDma a (vec.pfns.headD 0), size },
            [.acquire .descriptor, .acquire .frameVector])) ∨
        (0 ≤ env.toPages ∧ ∃ sgt,
          sgt = env.dmaMapSg (sgAllocTableFromPages a vec.pfns (vaddr % a.pageSize) size) dmaDir ∧
          sgt.nents ≠ 0 ∧ size ≤ vb2DcGetContiguousSize a sgt ∧
          vb2DcGetUserptr a env dev vaddr size dmaDir =
            (.ok { Vb2DcBuf.zeroed with
                   dev, dmaDir, vec := some vec, dmaAddr := sgt.firstDmaAddress,
                   dmaSgt := some sgt, size },
              [.acquire .descriptor, .acquire .frameVector, .acquire .sgtStruct,
                .acquire .sgTable, .acquire (.dmaMapping sgt dmaDir)]))) := by
  unfold vb2DcGetUserptr
  by_cases halign :
    (vaddr ||| size) &&& ((env.dmaAlign + (2 ^ a.ulongBits - 1)) % 2 ^ a.ulongBits) ≠ 0
  · rw [if_pos halign]; exact .inl ⟨_, rfl, .inl rfl, rfl⟩
  rw [if_neg halign]
  by_cases hsize : size = 0
  · rw [if_pos hsize]; exact .inl ⟨_, rfl, .inl rfl, rfl⟩
  rw [if_neg hsize]
  by_cases hbuf : !env.bufAllocated
  · rw [if_pos hbuf]; exact .inl ⟨_, rfl, .inr (.inl rfl), rfl⟩
  rw [if_neg hbuf]
  rcases hv : env.vec with ret | vec
  · exact .inl ⟨_, rfl, .inr (.inr (.inr (.inr (.inl hv)))), rfl⟩
  dsimp only
  by_cases hpages : env.toPages < 0
  · rw [if_pos hpages]
    by_cases hcons : pfnsConsecutive a vec.pfns
    · rw [if_pos hcons]; exact .inr ⟨vec, rfl, .inl ⟨hpages, hcons, rfl⟩⟩
    · rw [if_neg hcons]
      exact .inl ⟨_, rfl, .inr (.inr (.inr (.inr (.inr (.inl ⟨hpages, rfl⟩))))), rfl⟩
  rw [if_neg hpages]
  by_cases hsgt : !env.sgtAllocated
  · rw [if_pos hsgt]; exact .inl ⟨_, rfl, .inr (.inl rfl), rfl⟩
  rw [if_neg hsgt]
  by_cases htable : env.tableRet ≠ 0
  · rw [if_pos htable]
    exact .inl ⟨_, rfl, .inr (.inr (.inr (.inr (.inr (.inr ⟨htable, rfl⟩))))), rfl⟩
  have hoff : vaddr &&& (a.pageSize - 1) = vaddr % a.pageSize :=
    Nat.and_pow_two_sub_one_eq_mod _ _
  rw [if_neg htable, hoff]
  by_cases hnents : (env.dmaMapSg (sgAllocTableFromPages a vec.pfns (vaddr % a.pageSize) size)
      dmaDir).nents = 0
  · rw [if_pos hnents]; exact .inl ⟨_, rfl, .inr (.inr (.inl rfl)), rfl⟩
  rw [if_neg hnents]
  by_cases hcontig : vb2DcGetContiguousSize a
      (env.dmaMapSg (sgAllocTableFromPages a vec.pfns (vaddr % a.pageSize) size) dmaDir) < size
  · rw [if_pos hcontig]
    exact .inl ⟨_, rfl, .inr (.inr (.inr (.inl rfl))),
      by simp [failMapSg, failSgtInit, failSgt, failPfnvec, failBuf]⟩
  rw [if_neg hcontig]
  exact .inr ⟨vec, rfl, .inr ⟨by omega, _, rfl, hnents, by omega, rfl⟩⟩

/-- Every path of `vb2_dc_get_userptr`, on the ledger: an error leaves nothing held, a
returned buffer what `userptrHeld` says. -/
theorem vb2DcGetUserptr_run (a : Arch) (env : UserptrEnv) (dev vaddr size : Nat)
    (dmaDir : DmaDataDirection) :
    Ledger.run (vb2DcGetUserptr a env dev vaddr size dmaDir).2 [] =
      some (((vb2DcGetUserptr a env dev vaddr size dmaDir).1.toOption.map
        Vb2DcBuf.userptrHeld).getD []) := by
  rcases vb2DcGetUserptr_cases a env dev vaddr size dmaDir with
    ⟨e, he, -, hrun⟩ | ⟨vec, -, ⟨-, -, h⟩ | ⟨-, sgt, -, -, -, h⟩⟩
  · rw [hrun, he]; rfl
  all_goals rw [h]; rfl

/-- `vb2_dc_put_userptr` releases all a buffer holds, in reverse order. -/
theorem vb2DcPutUserptr_run (buf : Vb2DcBuf) :
    Ledger.run (vb2DcPutUserptr buf).2 buf.userptrHeld = some [] := by
  unfold vb2DcPutUserptr Vb2DcBuf.userptrHeld
  cases buf.dmaSgt <;> simp

/-- **`vb2_dc_get_userptr` gives back what it does not hand over.** For every request,
every frame vector and table, and every outcome of every step: a call that fails has made
calls that replay from nothing back to nothing, so it released each resource it took
exactly once, in reverse order, and nothing else; a call that returns a buffer holds what
`userptrHeld` says, the mapping with the buffer's own table and direction, and
`vb2_dc_put_userptr` then releases each of those once and nothing else. -/
theorem vb2DcGetUserptr_resources (a : Arch) (env : UserptrEnv) (dev vaddr size : Nat)
    (dmaDir : DmaDataDirection) :
    (∀ e, (vb2DcGetUserptr a env dev vaddr size dmaDir).1 = .error e →
      Ledger.run (vb2DcGetUserptr a env dev vaddr size dmaDir).2 [] = some [] ∧
        ∀ r, (vb2DcGetUserptr a env dev vaddr size dmaDir).2.count (.release r) =
          (vb2DcGetUserptr a env dev vaddr size dmaDir).2.count (.acquire r)) ∧
    (∀ buf, (vb2DcGetUserptr a env dev vaddr size dmaDir).1 = .ok buf →
      Ledger.run (vb2DcGetUserptr a env dev vaddr size dmaDir).2 [] = some buf.userptrHeld ∧
        Ledger.run (vb2DcPutUserptr buf).2 buf.userptrHeld = some []) := by
  have hrun := vb2DcGetUserptr_run a env dev vaddr size dmaDir
  refine ⟨fun e he => ?_, fun buf hb => ?_⟩
  · rw [he] at hrun
    exact ⟨hrun, Ledger.run_balanced hrun⟩
  · rw [hb] at hrun
    exact ⟨hrun, vb2DcPutUserptr_run buf⟩

/-- `vb2DcGetUserptr_resources` at `vaddr = 64` over one page. On frames `5` and `7` the table
maps in two segments that do not chain, so the call fails with `-EFAULT` after taking all
five resources and unwinds through every label; on frames `5` and `6` it returns a
buffer. -/
theorem vb2DcGetUserptr_resources_at_unwind :
    let a : Arch := ⟨64, 64, 12⟩
    let envF : UserptrEnv := ⟨64, true, .ok ⟨[5, 7]⟩, 0, true, 0, directMapSg a⟩
    let sgtF : SgTable := ⟨[⟨5, 64, 4032, 20544, 4032⟩, ⟨7, 0, 64, 28672, 64⟩], 2⟩
    let env : UserptrEnv := ⟨64, true, .ok ⟨[5, 6]⟩, 0, true, 0, directMapSg a⟩
    let buf : Vb2DcBuf := ⟨0, none, 4096, 20544, .bidirectional,
      some ⟨[⟨5, 64, 4096, 20544, 4096⟩], 1⟩, some ⟨[5, 6]⟩, 0, none, none⟩
    ((vb2DcGetUserptr a envF 0 64 4096 .bidirectional).1 = .error (-EFAULT) ∧
      (vb2DcGetUserptr a envF 0 64 4096 .bidirectional).2 =
        [.acquire .descriptor, .acquire .frameVector, .acquire .sgtStruct, .acquire .sgTable,
          .acquire (.dmaMapping sgtF .bidirectional), .release (.dmaMapping sgtF .bidirectional),
          .release .sgTable, .release .sgtStruct, .release .frameVector, .release .descriptor] ∧
      Ledger.run (vb2DcGetUserptr a envF 0 64 4096 .bidirectional).2 [] = some [] ∧
        ∀ r, (vb2DcGetUserptr a envF 0 64 4096 .bidirectional).2.count (.release r) =
          (vb2DcGetUserptr a envF 0 64 4096 .bidirectional).2.count (.acquire r)) ∧
    ((vb2DcGetUserptr a env 0 64 4096 .bidirectional).1 = .ok buf ∧
      Ledger.run (vb2DcGetUserptr a env 0 64 4096 .bidirectional).2 [] = some buf.userptrHeld ∧
        Ledger.run (vb2DcPutUserptr buf).2 buf.userptrHeld = some []) :=
  ⟨⟨rfl, rfl, (vb2DcGetUserptr_resources _ _ _ _ _ _).1 _ rfl⟩,
    ⟨rfl, (vb2DcGetUserptr_resources _ _ _ _ _ _).2 _ rfl⟩⟩

/-! ### Errors -/

/-- An errno as `ERR_PTR` carries it, and `IS_ERR` recognises it: in `[-MAX_ERRNO, -1]`. -/
def IsErrno (e : Int) : Prop := -4095 ≤ e ∧ e < 0

/-- Being an errno is decided by two comparisons. -/
instance (e : Int) : Decidable (IsErrno e) := inferInstanceAs (Decidable (_ ∧ _))

/-- **A failure is an errno.** When the kernel services `vb2_dc_get_userptr` calls fail with
errnos, every failure of `vb2_dc_get_userptr` returns `ERR_PTR` of an errno, so the
framework's `IS_ERR_OR_NULL` sees it fail: the error of the step that failed, or one of
its own. -/
theorem vb2DcGetUserptr_errno {a : Arch} {env : UserptrEnv} {dev vaddr size : Nat}
    {dmaDir : DmaDataDirection} {e : Int}
    (hvec : ∀ e', env.vec = .error e' → IsErrno e')
    (hpages : env.toPages < 0 → -4095 ≤ env.toPages)
    (htable : env.tableRet ≠ 0 → IsErrno env.tableRet)
    (h : (vb2DcGetUserptr a env dev vaddr size dmaDir).1 = .error e) : IsErrno e := by
  rcases vb2DcGetUserptr_cases a env dev vaddr size dmaDir with
    ⟨e', he', hof, -⟩ | ⟨vec, -, ⟨-, -, hr⟩ | ⟨-, sgt, -, -, -, hr⟩⟩
  · obtain rfl : e' = e := Except.error.inj (he'.symm.trans h)
    rcases hof with rfl | rfl | rfl | rfl | hv | ⟨hneg, rfl⟩ | ⟨hne, rfl⟩
    · decide
    · decide
    · decide
    · decide
    · exact hvec _ hv
    · exact ⟨hpages hneg, hneg⟩
    · exact htable hne
  all_goals rw [hr] at h; cases h

/-- `vb2DcGetUserptr_errno` when `sg_alloc_table_from_pages` fails with `-ENOMEM`, which
`vb2_dc_get_userptr` passes on after unwinding. -/
theorem vb2DcGetUserptr_errno_at_table :
    let env : UserptrEnv := ⟨64, true, .ok ⟨[5, 6]⟩, 0, true, -ENOMEM, directMapSg ⟨64, 64, 12⟩⟩
    (∀ e', env.vec = .error e' → IsErrno e') ∧ (env.toPages < 0 → -4095 ≤ env.toPages) ∧
      (env.tableRet ≠ 0 → IsErrno env.tableRet) ∧
      (vb2DcGetUserptr ⟨64, 64, 12⟩ env 0 64 4096 .bidirectional).1 = .error (-ENOMEM) ∧
      IsErrno (-ENOMEM) :=
  ⟨(fun _ h => nomatch h), fun h => absurd h (by decide), fun _ => by decide, rfl,
    @vb2DcGetUserptr_errno ⟨64, 64, 12⟩
      ⟨64, true, .ok ⟨[5, 6]⟩, 0, true, -ENOMEM, directMapSg ⟨64, 64, 12⟩⟩ 0 64 4096 .bidirectional
      _ (fun _ h => nomatch h) (fun h => absurd h (by decide)) (fun _ => by decide) rfl⟩

/-! ### The two paths -/

/-- **What a returned buffer is**: the requested size, and either the pfn path (no table,
the DMA address of the first frame) or the page path (the mapped table, contiguous over the
size, and its first DMA address). -/
theorem vb2DcGetUserptr_ok {a : Arch} {env : UserptrEnv} {dev vaddr size : Nat}
    {dmaDir : DmaDataDirection} {buf : Vb2DcBuf}
    (h : (vb2DcGetUserptr a env dev vaddr size dmaDir).1 = .ok buf) :
    buf.size = size ∧ ∃ vec, env.vec = .ok vec ∧
      ((env.toPages < 0 ∧ buf.dmaSgt = none ∧
          buf.dmaAddr = vb2DcPfnToDma a (vec.pfns.headD 0)) ∨
        (0 ≤ env.toPages ∧ ∃ sgt,
          sgt = env.dmaMapSg (sgAllocTableFromPages a vec.pfns (vaddr % a.pageSize) size) dmaDir ∧
          sgt.nents ≠ 0 ∧ size ≤ vb2DcGetContiguousSize a sgt ∧ buf.dmaSgt = some sgt ∧
          buf.dmaAddr = sgt.firstDmaAddress)) := by
  rcases vb2DcGetUserptr_cases a env dev vaddr size dmaDir with
    ⟨e, he, -, -⟩ | ⟨vec, hv, ⟨hneg, -, hr⟩ | ⟨hpos, sgt, hsgt, hn, hle, hr⟩⟩
  · rw [he] at h; cases h
  · obtain rfl := Except.ok.inj ((congrArg Prod.fst hr).symm.trans h)
    exact ⟨rfl, vec, hv, .inl ⟨hneg, rfl, rfl⟩⟩
  · obtain rfl := Except.ok.inj ((congrArg Prod.fst hr).symm.trans h)
    exact ⟨rfl, vec, hv, .inr ⟨hpos, sgt, hsgt, hn, hle, rfl, rfl⟩⟩

/-- The first run of a page list starts at its first frame. -/
theorem pageRuns_cons (p : Nat) (ps : List Nat) : ∃ n rs, pageRuns (p :: ps) = (p, n) :: rs := by
  rw [pageRuns]
  split
  · split <;> exact ⟨_, _, rfl⟩
  · exact ⟨_, _, rfl⟩

/-- Under the direct translation the table of a page list starts at the DMA address of its
first frame plus the offset; the table of no pages maps nothing. -/
theorem directMapSg_sgAllocTableFromPages (a : Arch) (pages : List Nat) (offset size : Nat)
    (dir : DmaDataDirection) :
    (directMapSg a (sgAllocTableFromPages a pages offset size) dir).nents ≠ 0 →
      ∃ p ps, pages = p :: ps ∧
        (directMapSg a (sgAllocTableFromPages a pages offset size) dir).firstDmaAddress =
          (vb2DcPfnToDma a p + offset) % 2 ^ a.dmaAddrBits := by
  rcases pages with _ | ⟨p, ps⟩
  · simp [directMapSg, sgAllocTableFromPages, pageRuns, runEntries]
  · obtain ⟨n, rs, h⟩ := pageRuns_cons p ps
    intro _
    exact ⟨p, ps, rfl, by
      simp [directMapSg, sgAllocTableFromPages, h, runEntries, SgTable.firstDmaAddress]⟩

/-- **The pfn path leaves out the offset.** Under the direct translation, when the pfn path
(`frame_vector_to_pages` fails) and the page path both return a buffer for one request,
they record the same size, and the page path's DMA address is the pfn path's plus the
offset of `vaddr` in its page. -/
theorem vb2DcGetUserptr_paths {a : Arch} {env : UserptrEnv} {dev vaddr size : Nat}
    {dmaDir : DmaDataDirection} {tF tP : Int} {bufF bufP : Vb2DcBuf}
    (hmap : env.dmaMapSg = directMapSg a)
    (hF : (vb2DcGetUserptr a { env with toPages := tF } dev vaddr size dmaDir).1 = .ok bufF)
    (htF : tF < 0)
    (hP : (vb2DcGetUserptr a { env with toPages := tP } dev vaddr size dmaDir).1 = .ok bufP)
    (htP : 0 ≤ tP) :
    bufP.size = bufF.size ∧
      bufP.dmaAddr = (bufF.dmaAddr + vaddr % a.pageSize) % 2 ^ a.dmaAddrBits := by
  obtain ⟨hsF, vec, hv, ⟨-, -, haddrF⟩ | ⟨hF0, -⟩⟩ := vb2DcGetUserptr_ok hF
  · obtain ⟨hsP, vec', hv', ⟨hP0, -⟩ | ⟨-, sgt, rfl, hn, -, -, haddrP⟩⟩ := vb2DcGetUserptr_ok hP
    · exact absurd hP0 (by simpa using htP)
    obtain rfl : vec = vec' := Except.ok.inj (hv.symm.trans hv')
    simp only [hmap] at hn haddrP
    obtain ⟨p, ps, hps, hfirst⟩ := directMapSg_sgAllocTableFromPages a _ _ _ _ hn
    refine ⟨hsP.trans hsF.symm, ?_⟩
    rw [haddrP, hfirst, haddrF, hps, List.headD_cons]
  · exact absurd hF0 (by simpa using htF)

/-- At `vaddr = 64`, a cache-aligned address `64` bytes into frame `5`, for the two pages of
frames `5` and `6`: the pfn path records the DMA address of the page, `20480`, the page
path that of the byte at `vaddr`, `20544`. -/
theorem vb2DcGetUserptr_pfn_offset :
    let env : UserptrEnv := ⟨64, true, .ok ⟨[5, 6]⟩, 0, true, 0, directMapSg ⟨64, 64, 12⟩⟩
    (vb2DcGetUserptr ⟨64, 64, 12⟩ { env with toPages := -EINVAL } 0 64 4096 .bidirectional).1.map
        (fun buf => (buf.dmaAddr, buf.size)) = .ok (20480, 4096) ∧
      (vb2DcGetUserptr ⟨64, 64, 12⟩ env 0 64 4096 .bidirectional).1.map
        (fun buf => (buf.dmaAddr, buf.size)) = .ok (20544, 4096) :=
  ⟨rfl, rfl⟩

/-- `vb2DcGetUserptr_paths` at the request of `vb2DcGetUserptr_pfn_offset`. -/
theorem vb2DcGetUserptr_paths_at_offset :
    let a : Arch := ⟨64, 64, 12⟩
    let env : UserptrEnv := ⟨64, true, .ok ⟨[5, 6]⟩, 0, true, 0, directMapSg a⟩
    let bufF : Vb2DcBuf :=
      ⟨0, none, 4096, 20480, .bidirectional, none, some ⟨[5, 6]⟩, 0, none, none⟩
    let bufP : Vb2DcBuf := ⟨0, none, 4096, 20544, .bidirectional,
      some ⟨[⟨5, 64, 4096, 20544, 4096⟩], 1⟩, some ⟨[5, 6]⟩, 0, none, none⟩
    env.dmaMapSg = directMapSg a ∧
      (vb2DcGetUserptr a { env with toPages := -EINVAL } 0 64 4096 .bidirectional).1 = .ok bufF ∧
      -EINVAL < 0 ∧
      (vb2DcGetUserptr a { env with toPages := 0 } 0 64 4096 .bidirectional).1 = .ok bufP ∧
      (0 : Int) ≤ 0 ∧
      (bufP.size = bufF.size ∧
        bufP.dmaAddr = (bufF.dmaAddr + 64 % a.pageSize) % 2 ^ a.dmaAddrBits) :=
  ⟨rfl, rfl, by decide, rfl, le_rfl,
    @vb2DcGetUserptr_paths ⟨64, 64, 12⟩
      ⟨64, true, .ok ⟨[5, 6]⟩, 0, true, 0, directMapSg ⟨64, 64, 12⟩⟩ 0 64 4096
      .bidirectional (-EINVAL) 0 _ _ rfl rfl (by decide) rfl le_rfl⟩

/-- The generic `vb2_dc_pfn_to_dma` is the frame number times the page size, modulo the
width of `dma_addr_t`. -/
theorem vb2DcPfnToDma_eq (a : Arch) (pfn : Nat) :
    vb2DcPfnToDma a pfn = pfn * a.pageSize % 2 ^ a.dmaAddrBits := by
  rw [vb2DcPfnToDma, Nat.shiftLeft_eq, Arch.pageSize, Nat.mod_mul_mod]

/-- Frames that pass the pfn check are consecutive modulo `2 ^ ulongBits`. -/
theorem pfnsConsecutive_get {a : Arch} {p : Nat} {ps : List Nat}
    (h : pfnsConsecutive a (p :: ps) = true) (i : Nat) (hi : i < (p :: ps).length) :
    (p :: ps).get ⟨i, hi⟩ % 2 ^ a.ulongBits = (p + i) % 2 ^ a.ulongBits := by
  induction ps generalizing p i with
  | nil =>
      cases i with
      | zero => rfl
      | succ i => simp at hi
  | cons q rest ih =>
      simp only [pfnsConsecutive, Bool.and_eq_true, beq_iff_eq] at h
      cases i with
      | zero => rfl
      | succ i =>
          have := ih h.2 i (by simpa using hi)
          rw [List.get_cons_succ, this, ← h.1, Nat.mod_add_mod, Nat.add_assoc, Nat.add_comm 1 i]

/-- Translation respects the pfn check: frame numbers equal modulo `2 ^ ulongBits` translate
alike where `dma_addr_t` is no wider than `ulongBits + pageShift` bits. -/
theorem vb2DcPfnToDma_congr {a : Arch} (hw : a.dmaAddrBits ≤ a.ulongBits + a.pageShift)
    {x y : Nat} (h : x % 2 ^ a.ulongBits = y % 2 ^ a.ulongBits) :
    vb2DcPfnToDma a x = vb2DcPfnToDma a y := by
  have hdvd : 2 ^ a.dmaAddrBits ∣ 2 ^ a.ulongBits * a.pageSize := by
    rw [Arch.pageSize, ← Nat.pow_add]; exact Nat.pow_dvd_pow 2 hw
  rw [vb2DcPfnToDma_eq, vb2DcPfnToDma_eq, ← Nat.mod_mod_of_dvd _ hdvd,
    ← Nat.mod_mod_of_dvd (y * _) hdvd, Nat.mul_mod_mul_right, Nat.mul_mod_mul_right, h]

/-- **The pfn path translates one frame for all.** When `vb2_dc_get_userptr` returns a buffer
by the pfn path, on an architecture whose `dma_addr_t` is no wider than an `unsigned long`
shifted by `PAGE_SHIFT`, frame `i` of the pinned vector translates to the buffer's DMA
address plus `i` pages: the check that the frames are consecutive is what makes the one
translation `vb2_dc_get_userptr` does right for every page. -/
theorem vb2DcGetUserptr_pfn_frames {a : Arch} {env : UserptrEnv} {dev vaddr size : Nat}
    {dmaDir : DmaDataDirection} {buf : Vb2DcBuf} (hw : a.dmaAddrBits ≤ a.ulongBits + a.pageShift)
    (h : (vb2DcGetUserptr a env dev vaddr size dmaDir).1 = .ok buf) (hpfn : env.toPages < 0) :
    ∃ vec, buf.vec = some vec ∧ ∀ i (hi : i < vec.pfns.length),
      vb2DcPfnToDma a (vec.pfns.get ⟨i, hi⟩) =
        (buf.dmaAddr + i * a.pageSize) % 2 ^ a.dmaAddrBits := by
  rcases vb2DcGetUserptr_cases a env dev vaddr size dmaDir with
    ⟨e, he, -, -⟩ | ⟨vec, -, ⟨-, hcons, hr⟩ | ⟨hpos, -⟩⟩
  · rw [he] at h; cases h
  · obtain rfl := Except.ok.inj ((congrArg Prod.fst hr).symm.trans h)
    refine ⟨vec, rfl, fun i hi => ?_⟩
    obtain ⟨_ | ⟨p, ps⟩⟩ := vec
    · simp at hi
    calc vb2DcPfnToDma a ((p :: ps).get ⟨i, hi⟩)
        = vb2DcPfnToDma a (p + i) := vb2DcPfnToDma_congr hw (pfnsConsecutive_get hcons i hi)
      _ = (vb2DcPfnToDma a p + i * a.pageSize) % 2 ^ a.dmaAddrBits := by
          rw [vb2DcPfnToDma_eq, vb2DcPfnToDma_eq, Nat.mod_add_mod, Nat.add_mul]
  · exact absurd hpfn (not_lt.mpr hpos)

/-- `vb2DcGetUserptr_pfn_frames` for the pfn path over frames `5` and `6`. -/
theorem vb2DcGetUserptr_pfn_frames_at_two_frames :
    let a : Arch := ⟨64, 64, 12⟩
    let env : UserptrEnv := ⟨64, true, .ok ⟨[5, 6]⟩, -EINVAL, true, 0, directMapSg a⟩
    let buf : Vb2DcBuf :=
      ⟨0, none, 4096, 20480, .bidirectional, none, some ⟨[5, 6]⟩, 0, none, none⟩
    a.dmaAddrBits ≤ a.ulongBits + a.pageShift ∧
      (vb2DcGetUserptr a env 0 64 4096 .bidirectional).1 = .ok buf ∧ env.toPages < 0 ∧
      ∃ vec, buf.vec = some vec ∧ ∀ i (hi : i < vec.pfns.length),
        vb2DcPfnToDma a (vec.pfns.get ⟨i, hi⟩) =
          (buf.dmaAddr + i * a.pageSize) % 2 ^ a.dmaAddrBits :=
  ⟨by decide, rfl, by decide,
    @vb2DcGetUserptr_pfn_frames ⟨64, 64, 12⟩
      ⟨64, true, .ok ⟨[5, 6]⟩, -EINVAL, true, 0, directMapSg ⟨64, 64, 12⟩⟩ 0 64 4096 .bidirectional
      _ (by decide) rfl (by decide)⟩

/-! ### The cache bracket -/

/-- **Who `prepare` and `finish` synchronise.** An imported buffer is never synchronised, in
any state of any run: its exporter is. A buffer `vb2_dc_get_userptr` returns is
synchronised exactly when it came by the page path, and then over all `orig_nents` entries
of the table it mapped, in the direction it mapped it. -/
theorem vb2DcSync_imported_userptr (a : Arch) :
    (∀ allowed buf evs, ImpReach a allowed buf evs →
      vb2DcPrepare buf = none ∧ vb2DcFinish buf = none) ∧
    (∀ env dev vaddr size dmaDir buf,
      (vb2DcGetUserptr a env dev vaddr size dmaDir).1 = .ok buf →
      ((vb2DcPrepare buf).isSome ↔ 0 ≤ env.toPages) ∧
        ∀ sgt, buf.dmaSgt = some sgt →
          vb2DcPrepare buf = some ⟨true, sgt.sgl, sgt.origNents, dmaDir⟩ ∧
            vb2DcFinish buf = some ⟨false, sgt.sgl, sgt.origNents, dmaDir⟩) := by
  refine ⟨fun allowed buf evs h => ?_, fun env dev vaddr size dmaDir buf hok => ?_⟩
  · obtain ⟨d, hd⟩ := Option.isSome_iff_exists.mp h.dmaAddr_eq.attached
    simp [vb2DcPrepare, vb2DcFinish, vb2DcSync, hd]
  · rcases vb2DcGetUserptr_cases a env dev vaddr size dmaDir with
      ⟨e, he, -, -⟩ | ⟨vec, -, ⟨hneg, -, hr⟩ | ⟨hpos, sgt, -, -, -, hr⟩⟩
    · rw [he] at hok; cases hok
    · obtain rfl := Except.ok.inj ((congrArg Prod.fst hr).symm.trans hok)
      refine ⟨?_, fun t h => by cases h⟩
      simp [vb2DcPrepare, vb2DcSync, Vb2DcBuf.zeroed, hneg]
    · obtain rfl := Except.ok.inj ((congrArg Prod.fst hr).symm.trans hok)
      refine ⟨by simp [vb2DcPrepare, vb2DcSync, Vb2DcBuf.zeroed, hpos], fun t h => ?_⟩
      cases h
      exact ⟨rfl, rfl⟩

/-- `vb2DcSync_imported_userptr` on an imported buffer that `map` gave a one-page table,
which `prepare` and `finish` leave to the exporter, and on the buffer `vb2_dc_get_userptr`
returns by the page path for frames `5` and `6`. -/
theorem vb2DcSync_imported_userptr_at_mapped :
    let a : Arch := ⟨64, 64, 12⟩
    let t : SgTable := ⟨[⟨1, 0, 4096, 8192, 4096⟩], 1⟩
    let bufI : Vb2DcBuf := ⟨0, none, 4096, 8192, .bidirectional, some t, none, 0, none, some 1⟩
    let env : UserptrEnv := ⟨64, true, .ok ⟨[5, 6]⟩, 0, true, 0, directMapSg a⟩
    let sgt : SgTable := ⟨[⟨5, 64, 4096, 20544, 4096⟩], 1⟩
    let buf : Vb2DcBuf :=
      ⟨0, none, 4096, 20544, .bidirectional, some sgt, some ⟨[5, 6]⟩, 0, none, none⟩
    (ImpReach a (fun _ _ => True) bufI
        [.acquire .descriptor, .acquire .attachment, .acquire (.mapping t .bidirectional)] ∧
      bufI.dmaSgt = some t ∧ vb2DcPrepare bufI = none ∧ vb2DcFinish bufI = none) ∧
    ((vb2DcGetUserptr a env 0 64 4096 .bidirectional).1 = .ok buf ∧
      ((vb2DcPrepare buf).isSome ↔ 0 ≤ env.toPages) ∧
        (buf.dmaSgt = some sgt ∧
          vb2DcPrepare buf = some ⟨true, sgt.sgl, sgt.origNents, .bidirectional⟩ ∧
            vb2DcFinish buf = some ⟨false, sgt.sgl, sgt.origNents, .bidirectional⟩)) :=
  ⟨⟨.step (.attach vb2DcAttachDmabuf_page) trivial
      (show impStep _ _ (.map (.ok ⟨[⟨1, 0, 4096, 8192, 4096⟩], 1⟩)) = _ from rfl), rfl,
    (vb2DcSync_imported_userptr ⟨64, 64, 12⟩).1 (fun _ _ => True) _ _
      (.step (.attach vb2DcAttachDmabuf_page) trivial
        (show impStep _ _ (.map (.ok ⟨[⟨1, 0, 4096, 8192, 4096⟩], 1⟩)) = _ from rfl))⟩,
    ⟨rfl, ((vb2DcSync_imported_userptr ⟨64, 64, 12⟩).2
      ⟨64, true, .ok ⟨[5, 6]⟩, 0, true, 0, directMapSg ⟨64, 64, 12⟩⟩ 0 64 4096
      .bidirectional _ rfl).1, rfl, ((vb2DcSync_imported_userptr ⟨64, 64, 12⟩).2
      ⟨64, true, .ok ⟨[5, 6]⟩, 0, true, 0, directMapSg ⟨64, 64, 12⟩⟩ 0 64 4096
      .bidirectional _ rfl).2 _ rfl⟩⟩

/-! ### What `put_userptr` marks dirty -/

/-- **`vb2_dc_put_userptr` marks dirty exactly the pinned pages.** A buffer
`vb2_dc_get_userptr` returns keeps the frame vector it pinned, and has a table exactly when
`frame_vector_to_pages` turned that vector into pages, so the `BUG_ON(IS_ERR(pages))` of
`vb2_dc_put_userptr` never fires. The pages it marks dirty are then every frame of the
vector; on the pfn path it marks none. -/
theorem vb2DcPutUserptr_dirty {a : Arch} {env : UserptrEnv} {dev vaddr size : Nat}
    {dmaDir : DmaDataDirection} {buf : Vb2DcBuf}
    (h : (vb2DcGetUserptr a env dev vaddr size dmaDir).1 = .ok buf) :
    ∃ vec, env.vec = .ok vec ∧ buf.vec = some vec ∧
      (buf.dmaSgt.isSome ↔ 0 ≤ env.toPages) ∧
      (vb2DcPutUserptr buf).1 = if 0 ≤ env.toPages then vec.pfns else [] := by
  rcases vb2DcGetUserptr_cases a env dev vaddr size dmaDir with
    ⟨e, he, -, -⟩ | ⟨vec, hv, ⟨hneg, -, hr⟩ | ⟨hpos, sgt, -, -, -, hr⟩⟩
  · rw [he] at h; cases h
  · obtain rfl := Except.ok.inj ((congrArg Prod.fst hr).symm.trans h)
    have hle : ¬ 0 ≤ env.toPages := not_le.mpr hneg
    exact ⟨vec, hv, rfl, by simp [Vb2DcBuf.zeroed, hle],
      by simp [vb2DcPutUserptr, Vb2DcBuf.zeroed, hle]⟩
  · obtain rfl := Except.ok.inj ((congrArg Prod.fst hr).symm.trans h)
    exact ⟨vec, hv, rfl, by simp [hpos], by simp [vb2DcPutUserptr, hpos]⟩

/-- `vb2DcPutUserptr_dirty` for the page path over frames `5` and `6`. -/
theorem vb2DcPutUserptr_dirty_at_page :
    let a : Arch := ⟨64, 64, 12⟩
    let env : UserptrEnv := ⟨64, true, .ok ⟨[5, 6]⟩, 0, true, 0, directMapSg a⟩
    let buf : Vb2DcBuf := ⟨0, none, 4096, 20544, .bidirectional,
      some ⟨[⟨5, 64, 4096, 20544, 4096⟩], 1⟩, some ⟨[5, 6]⟩, 0, none, none⟩
    (vb2DcGetUserptr a env 0 64 4096 .bidirectional).1 = .ok buf ∧
      ∃ vec, env.vec = .ok vec ∧ buf.vec = some vec ∧
        (buf.dmaSgt.isSome ↔ 0 ≤ env.toPages) ∧
        (vb2DcPutUserptr buf).1 = if 0 ≤ env.toPages then vec.pfns else [] :=
  ⟨rfl, @vb2DcPutUserptr_dirty ⟨64, 64, 12⟩
    ⟨64, true, .ok ⟨[5, 6]⟩, 0, true, 0, directMapSg ⟨64, 64, 12⟩⟩ 0 64 4096 .bidirectional _ rfl⟩

/-! ### What an accepted table covers -/

/-- The device range `[addr, addr + size)` lies in the first `nents` segments of `sgt`,
every address taken modulo the width of `dma_addr_t`. -/
def RangeCovered (a : Arch) (sgt : SgTable) (addr size : Nat) : Prop :=
  ∀ k < size, ∃ x ∈ sgt.mapped, ∃ j < x.dmaLen,
    (addr + k) % 2 ^ a.dmaAddrBits = (x.dmaAddress + j) % 2 ^ a.dmaAddrBits

/-- A table recorded at its first DMA address, over a size its contiguous run reaches,
covers the recorded range. -/
theorem rangeCovered_of_le {a : Arch} {sgt : SgTable} {size : Nat}
    (h : size ≤ vb2DcGetContiguousSize a sgt) : RangeCovered a sgt sgt.firstDmaAddress size :=
  fun _ hk => covered_of_le_vb2DcGetContiguousSize a h hk

/-- **An accepted table covers the buffer.** Whenever `vb2_dc_map_dmabuf` records a table
on an unmapped buffer, or `vb2_dc_get_userptr` returns a buffer with a table, every device
address of `[dma_addr, dma_addr + size)` lies in one of the table's first `nents` segments,
addresses taken modulo the width of `dma_addr_t`. -/
theorem accepted_range_covered (a : Arch) :
    (∀ buf mapped sgt, buf.dmaSgt = none → (vb2DcMapDmabuf a buf mapped).1.dmaSgt = some sgt →
      RangeCovered a sgt (vb2DcMapDmabuf a buf mapped).1.dmaAddr
        (vb2DcMapDmabuf a buf mapped).1.size) ∧
    (∀ env dev vaddr size dmaDir buf sgt,
      (vb2DcGetUserptr a env dev vaddr size dmaDir).1 = .ok buf → buf.dmaSgt = some sgt →
      RangeCovered a sgt buf.dmaAddr buf.size) := by
  refine ⟨fun buf mapped sgt hnone hsgt => ?_, fun env dev vaddr size dmaDir buf sgt hok hsgt => ?_⟩
  · rcases vb2DcMapDmabuf_cases a buf mapped with ⟨h1, -⟩ | ⟨sgt', -, -, -, hle, h1, -⟩ <;>
      rw [h1] at hsgt ⊢
    · rw [hnone] at hsgt; cases hsgt
    · cases hsgt; exact rangeCovered_of_le hle
  · obtain ⟨rfl, vec, -, ⟨-, hnone, -⟩ | ⟨-, sgt', -, -, hle, hsgt', haddr⟩⟩ :=
      vb2DcGetUserptr_ok hok
    · rw [hnone] at hsgt; cases hsgt
    · rw [hsgt'] at hsgt; cases hsgt
      rw [haddr]; exact rangeCovered_of_le hle

/-- `accepted_range_covered` on tables of two chained segments: one the exporter returns
to `map` for a buffer of two pages, and one an IOMMU makes for `vb2_dc_get_userptr` of
frames `5` and `7`, placing the two entries back to back at DMA address `65600`. -/
theorem accepted_range_covered_at_two_segments :
    let a : Arch := ⟨64, 64, 12⟩
    let buf : Vb2DcBuf := ⟨0, none, 8192, 0, .bidirectional, none, none, 0, none, some 1⟩
    let sgt : SgTable := ⟨[⟨1, 0, 4096, 8192, 4096⟩, ⟨2, 0, 4096, 12288, 4096⟩], 2⟩
    let sgtU : SgTable := ⟨[⟨5, 64, 4032, 65600, 4032⟩, ⟨7, 0, 3968, 69632, 3968⟩], 2⟩
    let env : UserptrEnv := ⟨64, true, .ok ⟨[5, 7]⟩, 0, true, 0, fun _ _ => sgtU⟩
    let bufU : Vb2DcBuf :=
      ⟨0, none, 8000, 65600, .bidirectional, some sgtU, some ⟨[5, 7]⟩, 0, none, none⟩
    (buf.dmaSgt = none ∧ (vb2DcMapDmabuf a buf (.ok sgt)).1.dmaSgt = some sgt ∧
      RangeCovered a sgt (vb2DcMapDmabuf a buf (.ok sgt)).1.dmaAddr
        (vb2DcMapDmabuf a buf (.ok sgt)).1.size) ∧
    ((vb2DcGetUserptr a env 0 64 8000 .bidirectional).1 = .ok bufU ∧ bufU.dmaSgt = some sgtU ∧
      RangeCovered a sgtU bufU.dmaAddr bufU.size) :=
  ⟨⟨rfl, rfl, (accepted_range_covered _).1 _ (.ok _) _ rfl rfl⟩,
    ⟨rfl, rfl, (accepted_range_covered _).2
      ⟨64, true, .ok ⟨[5, 7]⟩, 0, true, 0,
        fun _ _ => ⟨[⟨5, 64, 4032, 65600, 4032⟩, ⟨7, 0, 3968, 69632, 3968⟩], 2⟩⟩
      0 64 8000 .bidirectional _ _ rfl rfl⟩⟩

/-- Read as integers, the range `map` records for a table whose run wraps past the top of a
64-bit address space holds the address `2 ^ 64`, which no segment holds. -/
theorem vb2DcMapDmabuf_range_wraps :
    let sgt : SgTable := ⟨[⟨0, 0, 4096, 2 ^ 64 - 4096, 4096⟩, ⟨0, 0, 4096, 0, 4096⟩], 2⟩
    let buf : Vb2DcBuf := ⟨0, none, 8192, 0, .bidirectional, none, none, 0, none, some 1⟩
    (vb2DcMapDmabuf ⟨64, 64, 12⟩ buf (.ok sgt)).1.dmaSgt = some sgt ∧
      (vb2DcMapDmabuf ⟨64, 64, 12⟩ buf (.ok sgt)).1.dmaAddr + 4096 = 2 ^ 64 ∧
      4096 < (vb2DcMapDmabuf ⟨64, 64, 12⟩ buf (.ok sgt)).1.size ∧
      ∀ x ∈ sgt.mapped, ¬ (x.dmaAddress ≤ 2 ^ 64 ∧ 2 ^ 64 < x.dmaAddress + x.dmaLen) :=
  ⟨rfl, rfl, by decide, by decide⟩


/-! ### Without wrap-around -/

/-- The device range `[addr, addr + size)` lies in the first `nents` segments of `sgt`, as
integers. -/
def RangeCoveredExact (sgt : SgTable) (addr size : Nat) : Prop :=
  ∀ k < size, ∃ x ∈ sgt.mapped, ∃ j < x.dmaLen, addr + k = x.dmaAddress + j

/-- What an accepted table is: `map` on an unmapped buffer, or `get_userptr`, records a
table at its first DMA address, over a size its contiguous run reaches. -/
theorem accepted_table (a : Arch) :
    (∀ buf mapped sgt, buf.dmaSgt = none → (vb2DcMapDmabuf a buf mapped).1.dmaSgt = some sgt →
      (vb2DcMapDmabuf a buf mapped).1.dmaAddr = sgt.firstDmaAddress ∧
        (vb2DcMapDmabuf a buf mapped).1.size ≤ vb2DcGetContiguousSize a sgt) ∧
    (∀ env dev vaddr size dmaDir buf sgt,
      (vb2DcGetUserptr a env dev vaddr size dmaDir).1 = .ok buf → buf.dmaSgt = some sgt →
      buf.dmaAddr = sgt.firstDmaAddress ∧ buf.size ≤ vb2DcGetContiguousSize a sgt) := by
  refine ⟨fun buf mapped sgt hnone hsgt => ?_,
    fun env dev vaddr size dmaDir buf sgt hok hsgt => ?_⟩
  · rcases vb2DcMapDmabuf_cases a buf mapped with ⟨h1, -⟩ | ⟨sgt', -, -, -, hle, h1, -⟩ <;>
      rw [h1] at hsgt ⊢
    · rw [hnone] at hsgt; cases hsgt
    · cases hsgt; exact ⟨rfl, hle⟩
  · obtain ⟨rfl, vec, -, ⟨-, hnone, -⟩ | ⟨-, sgt', -, -, hle, hsgt', haddr⟩⟩ :=
      vb2DcGetUserptr_ok hok
    · rw [hnone] at hsgt; cases hsgt
    · rw [hsgt'] at hsgt; cases hsgt
      exact ⟨haddr, hle⟩

/-- **Without wrap-around an accepted table covers the buffer as integers.** Whenever
`vb2_dc_map_dmabuf` records a table on an unmapped buffer, or `vb2_dc_get_userptr` returns a
buffer with a table, and no mapped segment of that table ends at or past the top of the DMA
address space, every device address of `[dma_addr, dma_addr + size)` lies inside one of
the table's first `nents` segments. -/
theorem accepted_range_covered_exact (a : Arch) :
    (∀ buf mapped sgt, buf.dmaSgt = none → (vb2DcMapDmabuf a buf mapped).1.dmaSgt = some sgt →
      (∀ s ∈ sgt.mapped, s.dmaAddress + s.dmaLen < 2 ^ a.dmaAddrBits) →
      RangeCoveredExact sgt (vb2DcMapDmabuf a buf mapped).1.dmaAddr
        (vb2DcMapDmabuf a buf mapped).1.size) ∧
    (∀ env dev vaddr size dmaDir buf sgt,
      (vb2DcGetUserptr a env dev vaddr size dmaDir).1 = .ok buf → buf.dmaSgt = some sgt →
      (∀ s ∈ sgt.mapped, s.dmaAddress + s.dmaLen < 2 ^ a.dmaAddrBits) →
      RangeCoveredExact sgt buf.dmaAddr buf.size) := by
  refine ⟨fun buf mapped sgt hnone hsgt hend k hk => ?_,
    fun env dev vaddr size dmaDir buf sgt hok hsgt hend k hk => ?_⟩
  · obtain ⟨haddr, hle⟩ := (accepted_table a).1 buf mapped sgt hnone hsgt
    rw [haddr]
    exact covered_exact_of_le_vb2DcGetContiguousSize a hend hle hk
  · obtain ⟨haddr, hle⟩ := (accepted_table a).2 env dev vaddr size dmaDir buf sgt hok hsgt
    rw [haddr]
    exact covered_exact_of_le_vb2DcGetContiguousSize a hend hle hk

/-- `accepted_range_covered_exact` on the two tables of
`accepted_range_covered_at_two_segments`, which end far below `2 ^ 64`. -/
theorem accepted_range_covered_exact_at_two_segments :
    let a : Arch := ⟨64, 64, 12⟩
    let buf : Vb2DcBuf := ⟨0, none, 8192, 0, .bidirectional, none, none, 0, none, some 1⟩
    let sgt : SgTable := ⟨[⟨1, 0, 4096, 8192, 4096⟩, ⟨2, 0, 4096, 12288, 4096⟩], 2⟩
    let sgtU : SgTable := ⟨[⟨5, 64, 4032, 65600, 4032⟩, ⟨7, 0, 3968, 69632, 3968⟩], 2⟩
    let env : UserptrEnv := ⟨64, true, .ok ⟨[5, 7]⟩, 0, true, 0, fun _ _ => sgtU⟩
    let bufU : Vb2DcBuf :=
      ⟨0, none, 8000, 65600, .bidirectional, some sgtU, some ⟨[5, 7]⟩, 0, none, none⟩
    (buf.dmaSgt = none ∧ (vb2DcMapDmabuf a buf (.ok sgt)).1.dmaSgt = some sgt ∧
      (∀ s ∈ sgt.mapped, s.dmaAddress + s.dmaLen < 2 ^ a.dmaAddrBits) ∧
      RangeCoveredExact sgt (vb2DcMapDmabuf a buf (.ok sgt)).1.dmaAddr
        (vb2DcMapDmabuf a buf (.ok sgt)).1.size) ∧
    ((vb2DcGetUserptr a env 0 64 8000 .bidirectional).1 = .ok bufU ∧ bufU.dmaSgt = some sgtU ∧
      (∀ s ∈ sgtU.mapped, s.dmaAddress + s.dmaLen < 2 ^ a.dmaAddrBits) ∧
      RangeCoveredExact sgtU bufU.dmaAddr bufU.size) :=
  ⟨⟨rfl, rfl, by decide, (accepted_range_covered_exact ⟨64, 64, 12⟩).1 _ (.ok _) _ rfl rfl
      (by decide)⟩,
    ⟨rfl, rfl, by decide, (accepted_range_covered_exact ⟨64, 64, 12⟩).2
      ⟨64, true, .ok ⟨[5, 7]⟩, 0, true, 0,
        fun _ _ => ⟨[⟨5, 64, 4032, 65600, 4032⟩, ⟨7, 0, 3968, 69632, 3968⟩], 2⟩⟩
      0 64 8000 .bidirectional _ _ rfl rfl (by decide)⟩⟩

end Vb2DmaContig
