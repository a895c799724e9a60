import Vb2DmaContig.Ledger

/-!
# MMAP Buffers and Their Holders

An MMAP buffer is allocated once, by `vb2_dc_alloc`, and then shared. The framework holds
it until its `vb2_dc_put`; every dma-buf that `vb2_dc_get_dmabuf` exports holds it until the
dma-buf's `release`; every user mapping that `vb2_dc_mmap` makes holds it until the vma's
`close`. All of them count in one 32-bit `atomic_t`, and the holder whose `vb2_dc_put`
brings it to zero runs the teardown.

This module embeds the code's side (`vb2DcAlloc`, `vb2DcPut`, `vb2DcGetDmabuf`, `vb2DcMmap`,
the dma-buf `release` and the vm-area callbacks) and the holders' side: a state machine
whose steps are the calls a live holder can make (`mmapStep`), with the holders counted
beside the buffer (`MmapState.holders`). `vb2_dc_get_dmabuf` returns, beside the buffer,
the kernel calls `vb2_dc_get_base_sgt` made for it; the builds of `sgt_base` are counted
from those calls. `mmapExec` runs a list of calls, for checking concrete runs.

## Main results

* `MmapInv.step`: one step keeps the invariant, as long as fewer than `2 ^ 32` holders are
  live after it.
* `mmap_lifecycle`: in every run that keeps fewer than `2 ^ 32` holders live,
  `vb2_dc_num_users` reports the live holders, the teardown has run exactly when none is
  left and then exactly once, `dma_get_sgtable` has filled in a table for `sgt_base` at
  most once, and `sgt_base` is present while an export is live.
* `mmap_teardown_while_held`: without that bound the counter wraps, and the buffer is torn
  down while `2 ^ 32` holders still hold it.
-/

namespace Vb2DmaContig

/-! ### The reference count -/

/-- `atomic_inc` on the 32-bit `atomic_t`. Irreducible, so that no tactic unfolds the
modulus of a symbolic count into unary. -/
@[irreducible] def atomicInc (v : Nat) : Nat := (v + 1) % 2 ^ 32

/-- The decrement of `atomic_dec_and_test`; the test is whether the result is `0`. -/
@[irreducible] def atomicDec (v : Nat) : Nat := (v + (2 ^ 32 - 1)) % 2 ^ 32

/-- `atomic_inc` adds one modulo `2 ^ 32`. -/
theorem atomicInc_eq (v : Nat) : atomicInc v = (v + 1) % 2 ^ 32 := by
  unfold atomicInc
  rfl

/-- Below the wrap, `atomic_inc` adds one. -/
theorem atomicInc_of_lt {v : Nat} (h : v + 1 < 2 ^ 32) : atomicInc v = v + 1 := by
  rw [atomicInc_eq, Nat.mod_eq_of_lt h]

/-- Below the wrap, the decrement of a positive count subtracts one. -/
theorem atomicDec_of_pos {v : Nat} (h0 : 0 < v) (h : v < 2 ^ 32) : atomicDec v = v - 1 := by
  unfold atomicDec
  omega

/-! ### The code -/

/-- A dma-buf exported by `vb2_dc_get_dmabuf`: the size and flags of its `exp_info`. -/
structure DmaBuf where
  size : Nat
  flags : Nat
  deriving DecidableEq, Repr

/-- What an MMAP buffer takes from the kernel: its descriptor, the coherent memory (by
device, size, CPU and DMA address), a reference on its device, and `sgt_base`, as the
`struct sg_table` and the entries `dma_get_sgtable` filled in. -/
inductive MmapRes
  | descriptor
  | coherent (dev size : Nat) (vaddr : Option Nat) (dmaAddr : Nat)
  | device (dev : Nat)
  | sgtStruct
  | sgTable (sgt : SgTable)
  deriving DecidableEq, Repr

/-- The builds of `sgt_base` among some calls: the tables `dma_get_sgtable` filled in. -/
def baseSgtBuildsOf (calls : List (Event MmapRes)) : Nat :=
  calls.countP fun
    | .acquire (.sgTable _) => true
    | _ => false

/-- What the teardown of `vb2_dc_put` gives back to the kernel. -/
inductive MmapRelease
  /-- `sg_free_table` and `kfree` of `sgt_base`. -/
  | sgFreeTable (sgt : SgTable)
  | dmaFreeCoherent (dev size : Nat) (vaddr : Option Nat) (dmaAddr : Nat)
  | putDevice (dev : Nat)
  | kfree
  deriving DecidableEq, Repr

/-- The teardown block of `vb2_dc_put`, in the order it runs. -/
def vb2DcTeardown (buf : Vb2DcBuf) : List MmapRelease :=
  (match buf.sgtBase with
    | some sgt => [.sgFreeTable sgt]
    | none => []) ++
  [.dmaFreeCoherent buf.dev buf.size buf.vaddr buf.dmaAddr, .putDevice buf.dev, .kfree]

/-- `vb2_dc_put`: drop one reference. The call that brings the count to `0` runs the
teardown, after which the descriptor is gone (`none`). -/
def vb2DcPut (buf : Vb2DcBuf) : Option Vb2DcBuf × List MmapRelease :=
  let refcount := atomicDec buf.refcount
  if refcount ≠ 0 then (some { buf with refcount }, [])
  else (none, vb2DcTeardown buf)

/-- `vb2_dc_alloc`, given whether the descriptor's `kzalloc` succeeded and what
`dma_alloc_coherent` returned: the CPU and DMA addresses, or `NULL`. -/
def vb2DcAlloc (dev size : Nat) (dmaDir : DmaDataDirection) (allocated : Bool)
    (coherent : Option (Nat × Nat)) : Except Int Vb2DcBuf :=
  if !allocated then .error (-ENOMEM) else
  match coherent with
  | none => .error (-ENOMEM)
  | some (vaddr, dmaAddr) =>
      .ok { Vb2DcBuf.zeroed with
        vaddr := some vaddr, dmaAddr, dev, size, dmaDir,
        refcount := atomicInc Vb2DcBuf.zeroed.refcount }

/-- `vb2_dc_get_base_sgt`, given whether the `kmalloc` of the table succeeded and the
entries `dma_get_sgtable` fills in over the coherent memory (`none`: it failed), with its
calls. `NULL` when either fails, the table freed again after the second. -/
def vb2DcGetBaseSgt (allocated : Bool) (sgtable : Option SgTable) :
    Option SgTable × List (Event MmapRes) :=
  if !allocated then (none, []) else
  match sgtable with
  | none => (none, [.acquire .sgtStruct, .release .sgtStruct])
  | some sgt => (some sgt, [.acquire .sgtStruct, .acquire (.sgTable sgt)])

/-- `vb2_dc_get_dmabuf`: build `sgt_base` if there is none yet, export (`exported` is
whether `dma_buf_export` succeeded), and take a reference for the dma-buf; with the calls
`vb2_dc_get_base_sgt` made. -/
def vb2DcGetDmabuf (buf : Vb2DcBuf) (flags : Nat) (allocated : Bool)
    (sgtable : Option SgTable) (exported : Bool) :
    Vb2DcBuf × Option DmaBuf × List (Event MmapRes) :=
  let (buf, calls) :=
    if buf.sgtBase.isNone then
      let (sgtBase, calls) := vb2DcGetBaseSgt allocated sgtable
      ({ buf with sgtBase }, calls)
    else (buf, [])
  if buf.sgtBase.isNone then (buf, none, calls)
  else if !exported then (buf, none, calls)
  else ({ buf with refcount := atomicInc buf.refcount }, some ⟨buf.size, flags⟩, calls)

/-- `vb2_dc_dmabuf_ops_release`: the dma-buf's reference goes back through `vb2_dc_put`. -/
def vb2DcDmabufOpsRelease (buf : Vb2DcBuf) : Option Vb2DcBuf × List MmapRelease :=
  vb2DcPut buf

/-- Modelled from the spec: `vb2_common_vm_open` (`videobuf2-memops.c`, not under `src/`)
takes a reference through `handler.refcount`, which `vb2_dc_alloc` points at
`buf->refcount`. -/
def vb2CommonVmOpen (buf : Vb2DcBuf) : Vb2DcBuf :=
  { buf with refcount := atomicInc buf.refcount }

/-- Modelled from the spec: `vb2_common_vm_close` calls `handler.put(handler.arg)`, which
`vb2_dc_alloc` sets to `vb2_dc_put` on the buffer. -/
def vb2CommonVmClose (buf : Vb2DcBuf) : Option Vb2DcBuf × List MmapRelease :=
  vb2DcPut buf

/-- `vb2_dc_mmap`, given what `dma_mmap_coherent` returned: on success the vma's `open`
runs once. -/
def vb2DcMmap (buf : Vb2DcBuf) (ret : Int) : Vb2DcBuf × Int :=
  if ret ≠ 0 then (buf, ret) else (vb2CommonVmOpen buf, 0)

/-- What `vb2_dc_get_dmabuf` does to `sgt_base`: keep it, or build one and make the calls
of the build. -/
def vb2DcGetDmabufBase (buf : Vb2DcBuf) (allocated : Bool) (sgtable : Option SgTable) :
    Option SgTable × List (Event MmapRes) :=
  if buf.sgtBase.isNone then vb2DcGetBaseSgt allocated sgtable else (buf.sgtBase, [])

/-- What `vb2_dc_get_dmabuf` does, in one equation: `sgt_base` is the old one or, failing
that, a new one, and the export takes a reference exactly when both it and `sgt_base`
are there. -/
theorem vb2DcGetDmabuf_eq (buf : Vb2DcBuf) (flags : Nat) (allocated : Bool)
    (sgtable : Option SgTable) (exported : Bool) :
    vb2DcGetDmabuf buf flags allocated sgtable exported =
      let base := vb2DcGetDmabufBase buf allocated sgtable
      if base.1.isSome ∧ exported then
        ({ buf with sgtBase := base.1, refcount := atomicInc buf.refcount },
          some ⟨buf.size, flags⟩, base.2)
      else ({ buf with sgtBase := base.1 }, none, base.2) := by
  obtain ⟨_, _, _, _, _, _, _, _, sgtBase, _⟩ := buf
  unfold vb2DcGetDmabuf vb2DcGetDmabufBase vb2DcGetBaseSgt
  cases sgtBase <;> cases allocated <;> cases sgtable <;> cases exported <;> simp

/-- `sgt_base` is built at most once: a call of `vb2_dc_get_dmabuf` fills in a table
exactly when it finds none and the build succeeds. -/
theorem baseSgtBuildsOf_base (buf : Vb2DcBuf) (allocated : Bool) (sgtable : Option SgTable) :
    (if buf.sgtBase.isSome then 1 else 0) +
        baseSgtBuildsOf (vb2DcGetDmabufBase buf allocated sgtable).2 =
      if (vb2DcGetDmabufBase buf allocated sgtable).1.isSome then 1 else 0 := by
  unfold vb2DcGetDmabufBase vb2DcGetBaseSgt
  cases buf.sgtBase <;> cases allocated <;> cases sgtable <;> rfl

/-! ### The holders -/

/-- The buffer and its holders: whether the framework still holds it, and how many
exported dma-bufs and open mappings do. `released` is what the teardown gave back;
`baseSgtBuilds` counts the tables `dma_get_sgtable` filled in, read off the calls of
`vb2_dc_get_dmabuf`. -/
structure MmapState where
  buf : Vb2DcBuf
  freed : Bool
  framework : Bool
  exports : Nat
  mappings : Nat
  released : List MmapRelease
  baseSgtBuilds : Nat

/-- The live holders. -/
def MmapState.holders (s : MmapState) : Nat :=
  (if s.framework then 1 else 0) + s.exports + s.mappings

/-- The state right after `vb2_dc_alloc`: the framework is the one holder. -/
def MmapState.init (buf : Vb2DcBuf) : MmapState where
  buf := buf
  freed := false
  framework := true
  exports := 0
  mappings := 0
  released := []
  baseSgtBuilds := 0

/-- A holder gives its reference back through `put`. -/
def MmapState.drop (s : MmapState) (put : Vb2DcBuf → Option Vb2DcBuf × List MmapRelease) :
    MmapState :=
  match put s.buf with
  | (some buf, _) => { s with buf }
  | (none, calls) => { s with freed := true, released := s.released ++ calls }

/-- A `put` that leaves the descriptor keeps the state but for the descriptor. -/
theorem MmapState.drop_some {s : MmapState} {put : Vb2DcBuf → Option Vb2DcBuf × List MmapRelease}
    {buf : Vb2DcBuf} {calls : List MmapRelease} (h : put s.buf = (some buf, calls)) :
    s.drop put = { s with buf } := by
  unfold MmapState.drop
  rw [h]

/-- A `put` that runs the teardown marks the buffer freed and records what it gave back. -/
theorem MmapState.drop_none {s : MmapState} {put : Vb2DcBuf → Option Vb2DcBuf × List MmapRelease}
    {calls : List MmapRelease} (h : put s.buf = (none, calls)) :
    s.drop put = { s with freed := true, released := s.released ++ calls } := by
  unfold MmapState.drop
  rw [h]

/-- A call a holder can make. -/
inductive MmapOp
  /-- The framework's `vb2_dc_put`. -/
  | put
  /-- The framework's `vb2_dc_get_dmabuf`, with the outcomes of the kernel calls in it. -/
  | getDmabuf (flags : Nat) (allocated : Bool) (sgtable : Option SgTable) (exported : Bool)
  /-- The `release` of a live exported dma-buf. -/
  | release
  /-- `vb2_dc_mmap`, by the framework or through a live dma-buf's `mmap`. -/
  | mmap (ret : Int)
  /-- The `close` of an open mapping. -/
  | close

/-- One call, taken only by a live holder of its kind (`none` otherwise). -/
def mmapStep (s : MmapState) : MmapOp → Option MmapState
  | .put =>
      if s.framework then some ({ s with framework := false }.drop vb2DcPut) else none
  | .getDmabuf flags allocated sgtable exported =>
      if s.framework then
        let r := vb2DcGetDmabuf s.buf flags allocated sgtable exported
        some { s with
          buf := r.1
          exports := s.exports + (if r.2.1.isSome then 1 else 0)
          baseSgtBuilds := s.baseSgtBuilds + baseSgtBuildsOf r.2.2 }
      else none
  | .release =>
      if 0 < s.exports then
        some ({ s with exports := s.exports - 1 }.drop vb2DcDmabufOpsRelease)
      else none
  | .mmap ret =>
      if s.framework ∨ 0 < s.exports then
        let r := vb2DcMmap s.buf ret
        some { s with buf := r.1, mappings := s.mappings + (if r.2 = 0 then 1 else 0) }
      else none
  | .close =>
      if 0 < s.mappings then
        some ({ s with mappings := s.mappings - 1 }.drop vb2CommonVmClose)
      else none

/-- The states reached by runs in which fewer than `bound` holders are live at once. -/
inductive MmapReachBelow (bound : Nat) : MmapState → Prop
  | alloc {dev size : Nat} {dmaDir : DmaDataDirection} {allocated : Bool}
      {coherent : Option (Nat × Nat)} {buf : Vb2DcBuf} :
      vb2DcAlloc dev size dmaDir allocated coherent = .ok buf →
      MmapReachBelow bound (.init buf)
  | step {s s' : MmapState} {op : MmapOp} : MmapReachBelow bound s →
      mmapStep s op = some s' → s'.holders < bound → MmapReachBelow bound s'

/-- The holders' calls one after another, each taken only while fewer than `bound` holders
are live after it; `none` at the first call that is not taken. -/
def mmapExec (bound : Nat) (s : MmapState) : List MmapOp → Option MmapState
  | [] => some s
  | op :: ops => (mmapStep s op).bind fun s' =>
      if s'.holders < bound then mmapExec bound s' ops else none

/-- A run `mmapExec` carries out is a run of `MmapReachBelow`. -/
theorem MmapReachBelow.exec {bound : Nat} {s s' : MmapState} {ops : List MmapOp}
    (h : MmapReachBelow bound s) (hx : mmapExec bound s ops = some s') :
    MmapReachBelow bound s' := by
  induction ops generalizing s with
  | nil => exact Option.some.inj hx ▸ h
  | cons op ops ih =>
      obtain ⟨t, ht, hx⟩ := Option.bind_eq_some.mp hx
      split at hx
      · exact ih (h.step ht ‹_›) hx
      · cases hx

/-! ### The invariant -/

/-- `vb2_dc_alloc` hands out one reference and no `sgt_base`. -/
theorem vb2DcAlloc_ok {dev size : Nat} {dmaDir : DmaDataDirection} {allocated : Bool}
    {coherent : Option (Nat × Nat)} {buf : Vb2DcBuf}
    (h : vb2DcAlloc dev size dmaDir allocated coherent = .ok buf) :
    buf.refcount = 1 ∧ buf.sgtBase = none := by
  unfold vb2DcAlloc at h
  cases allocated <;> rcases coherent with _ | ⟨vaddr, dmaAddr⟩ <;> simp at h
  subst h
  exact ⟨atomicInc_of_lt (by decide : 0 + 1 < 2 ^ 32), rfl⟩

/-- `vb2_dc_put` below the wrap: the last reference runs the teardown, any other one
just leaves. -/
theorem vb2DcPut_eq_of_lt {buf : Vb2DcBuf} (h0 : 0 < buf.refcount) (h : buf.refcount < 2 ^ 32) :
    vb2DcPut buf = if buf.refcount = 1 then (none, vb2DcTeardown buf)
      else (some { buf with refcount := buf.refcount - 1 }, []) := by
  unfold vb2DcPut
  rw [atomicDec_of_pos h0 h]
  by_cases h1 : buf.refcount = 1
  · simp [h1]
  · simp [h1, show buf.refcount - 1 ≠ 0 by omega]

/-- What every step keeps, within the bound: the count is the number of live holders,
the teardown has run exactly when none is left, `sgt_base` was built once if it is
there, and it is there while an export is live. -/
structure MmapInv (s : MmapState) : Prop where
  holders_lt : s.holders < 2 ^ 32
  refcount_eq : s.freed = false → s.buf.refcount = s.holders
  freed_iff : s.freed = true ↔ s.holders = 0
  released_eq : s.released = if s.freed then vb2DcTeardown s.buf else []
  builds_eq : s.baseSgtBuilds = if s.buf.sgtBase.isSome then 1 else 0
  sgtBase_of_exports : 0 < s.exports → s.buf.sgtBase.isSome

/-- The state right after `vb2_dc_alloc`, with one reference and no `sgt_base`, satisfies
the invariant. -/
theorem MmapInv.init {buf : Vb2DcBuf} (h : buf.refcount = 1 ∧ buf.sgtBase = none) :
    MmapInv (.init buf) where
  holders_lt := by simp [MmapState.init, MmapState.holders]
  refcount_eq _ := h.1
  freed_iff := by simp [MmapState.init, MmapState.holders]
  released_eq := rfl
  builds_eq := by simp [MmapState.init, h.2]
  sgtBase_of_exports := by simp [MmapState.init]

/-- A live holder means a live buffer. -/
theorem MmapInv.freed_false {s : MmapState} (hi : MmapInv s) (h : 0 < s.holders) :
    s.freed = false := by
  cases hf : s.freed
  · rfl
  · exact absurd (hi.freed_iff.mp hf) (by omega)

/-- **Giving one reference back keeps the invariant**: the count goes down with the
holders, and the teardown runs when the last one leaves. -/
theorem MmapInv.drop {s : MmapState} (hi : MmapInv s) {fw : Bool} {e m : Nat}
    (hh : (if fw then 1 else 0) + e + m + 1 = s.holders) (he : e ≤ s.exports) :
    MmapInv ({ s with framework := fw, exports := e, mappings := m }.drop vb2DcPut) := by
  have hfree := hi.freed_false (by omega)
  have hrc := hi.refcount_eq hfree
  have hlt := hi.holders_lt
  have hrel : s.released = [] := by simpa [hfree] using hi.released_eq
  have hput : vb2DcPut s.buf = _ := vb2DcPut_eq_of_lt (by omega) (by omega)
  generalize hk : (if fw then 1 else 0) + e + m = k at hh
  have hk' : ∀ {t : MmapState}, t.framework = fw → t.exports = e → t.mappings = m →
      t.holders = k := by
    rintro t rfl rfl rfl
    exact hk
  by_cases h1 : s.buf.refcount = 1
  · rw [MmapState.drop_none (by simpa [h1] using hput)]
    refine ⟨?_, nofun, ?_, ?_, hi.builds_eq, fun he' => ?_⟩
    · rw [hk' rfl rfl rfl]; omega
    · rw [hk' rfl rfl rfl]; simp; omega
    · simp [hrel]
    · simp only at he'; omega
  · rw [MmapState.drop_some (by simpa [h1] using hput)]
    refine ⟨?_, fun _ => ?_, ?_, ?_, hi.builds_eq, fun he' => hi.sgtBase_of_exports ?_⟩
    · rw [hk' rfl rfl rfl]; omega
    · rw [hk' rfl rfl rfl]; simp only; omega
    · rw [hk' rfl rfl rfl]; simp [hfree]; omega
    · simp [hfree, hrel]
    · simp only at he'; omega

/-- A `sgt_base` that is there is kept, and nothing is built. -/
theorem vb2DcGetDmabufBase_of_isSome {buf : Vb2DcBuf} (h : buf.sgtBase.isSome)
    (allocated : Bool) (sgtable : Option SgTable) :
    vb2DcGetDmabufBase buf allocated sgtable = (buf.sgtBase, []) := by
  simp [vb2DcGetDmabufBase, Option.isNone_iff_eq_none, Option.ne_none_iff_isSome.mpr h]

/-- **An export keeps the invariant**: it takes a reference exactly when it hands out a
dma-buf, and it builds `sgt_base` only where there was none. -/
theorem MmapInv.getDmabuf {s : MmapState} (hi : MmapInv s) (hfw : s.framework = true)
    (flags : Nat) (allocated : Bool) (sgtable : Option SgTable) (exported : Bool)
    (hb : s.holders +
      (if (vb2DcGetDmabuf s.buf flags allocated sgtable exported).2.1.isSome then 1 else 0)
        < 2 ^ 32) :
    MmapInv { s with
      buf := (vb2DcGetDmabuf s.buf flags allocated sgtable exported).1
      exports := s.exports +
        (if (vb2DcGetDmabuf s.buf flags allocated sgtable exported).2.1.isSome then 1 else 0)
      baseSgtBuilds := s.baseSgtBuilds +
        baseSgtBuildsOf (vb2DcGetDmabuf s.buf flags allocated sgtable exported).2.2 } := by
  have hfree := hi.freed_false (by simp only [MmapState.holders, hfw, if_true]; omega)
  have hrc := hi.refcount_eq hfree
  have hrel : s.released = [] := by simpa [hfree] using hi.released_eq
  have hbuilds := hi.builds_eq ▸ baseSgtBuildsOf_base s.buf allocated sgtable
  have hkeep : 0 < s.exports → (vb2DcGetDmabufBase s.buf allocated sgtable).1.isSome := fun he => by
    rw [vb2DcGetDmabufBase_of_isSome (hi.sgtBase_of_exports he)]
    exact hi.sgtBase_of_exports he
  generalize hr : vb2DcGetDmabuf s.buf flags allocated sgtable exported = r at hb ⊢
  obtain ⟨buf, dbuf, calls⟩ := r
  rw [vb2DcGetDmabuf_eq] at hr
  dsimp only at hr
  simp only [MmapState.holders, hfw, if_true] at hb hrc
  split at hr <;> simp only [Prod.mk.injEq] at hr <;> obtain ⟨rfl, rfl, rfl⟩ := hr
  · next hex =>
    simp only [Option.isSome_some, if_true] at hb
    have hinc : atomicInc s.buf.refcount = s.buf.refcount + 1 := atomicInc_of_lt (by omega)
    refine ⟨?_, fun _ => ?_, by simp [MmapState.holders, hfree], by simp [hfree, hrel],
      by simpa [hex.1] using hbuilds, fun _ => hex.1⟩ <;>
      simp only [MmapState.holders, hfw, if_true, Option.isSome_some, hinc] <;> omega
  · simp only [Option.isSome_none, Bool.false_eq_true, if_false, Nat.add_zero] at hb ⊢
    refine ⟨?_, fun _ => ?_, by simp [MmapState.holders, hfree, hfw], by simp [hfree, hrel],
      hbuilds, hkeep⟩ <;> simp only [MmapState.holders, hfw, if_true] <;> omega

/-- **A mapping keeps the invariant**: `vb2_dc_mmap` takes a reference exactly when the
remap succeeds and the mapping opens. -/
theorem MmapInv.mmap {s : MmapState} (hi : MmapInv s) (hlive : 0 < s.holders) {ret : Int}
    (hb : s.holders + (if ret = 0 then 1 else 0) < 2 ^ 32) :
    MmapInv { s with
      buf := (vb2DcMmap s.buf ret).1
      mappings := s.mappings + (if (vb2DcMmap s.buf ret).2 = 0 then 1 else 0) } := by
  have hfree := hi.freed_false hlive
  have hrc := hi.refcount_eq hfree
  unfold vb2DcMmap
  by_cases hret : ret = 0
  · simp only [hret, ne_eq, not_true_eq_false, if_false, if_true] at hb ⊢
    refine ⟨?_, fun _ => ?_, ?_, by simpa [hfree] using hi.released_eq, hi.builds_eq,
      hi.sgtBase_of_exports⟩
    · simp only [MmapState.holders] at hb ⊢; omega
    · simp only [MmapState.holders, vb2CommonVmOpen] at hb hrc ⊢
      rw [atomicInc_of_lt (by omega)]; omega
    · simp [MmapState.holders, hfree]
  · simp only [hret, ne_eq, not_false_eq_true, if_true, if_false, Nat.add_zero]
    exact hi

/-- **One step keeps the invariant**, as long as fewer than `2 ^ 32` holders are live
after it. -/
theorem MmapInv.step {s s' : MmapState} {op : MmapOp} (hi : MmapInv s)
    (hs : mmapStep s op = some s') (hb : s'.holders < 2 ^ 32) : MmapInv s' := by
  cases op with
  | put =>
      by_cases hfw : s.framework = true
      · simp only [mmapStep, if_pos hfw, Option.some.injEq] at hs
        subst hs
        exact hi.drop (by simp [MmapState.holders, hfw]; omega) le_rfl
      · simp [mmapStep, hfw] at hs
  | getDmabuf flags allocated sgtable exported =>
      by_cases hfw : s.framework = true
      · simp only [mmapStep, if_pos hfw, Option.some.injEq] at hs
        subst hs
        exact hi.getDmabuf hfw flags allocated sgtable exported
          (by simp only [MmapState.holders] at hb ⊢; omega)
      · simp [mmapStep, hfw] at hs
  | release =>
      by_cases he : 0 < s.exports
      · simp only [mmapStep, if_pos he, Option.some.injEq] at hs
        subst hs
        exact hi.drop (by simp only [MmapState.holders]; omega) (Nat.sub_le _ _)
      · simp [mmapStep, he] at hs
  | mmap ret =>
      by_cases hlive : s.framework = true ∨ 0 < s.exports
      · simp only [mmapStep, if_pos hlive, Option.some.injEq] at hs
        subst hs
        have hpos : 0 < s.holders := by
          rcases hlive with h | h
          · simp only [MmapState.holders, h, if_true]; omega
          · simp only [MmapState.holders]; omega
        refine hi.mmap hpos ?_
        by_cases hret : ret = 0
        · simp only [MmapState.holders, vb2DcMmap, hret, ne_eq, not_true_eq_false,
            if_false, if_true] at hb ⊢
          omega
        · simpa [hret] using hi.holders_lt
      · simp [mmapStep, hlive] at hs
  | close =>
      by_cases hm : 0 < s.mappings
      · simp only [mmapStep, if_pos hm, Option.some.injEq] at hs
        subst hs
        exact hi.drop (by simp only [MmapState.holders]; omega) le_rfl
      · simp [mmapStep, hm] at hs

/-- Every state of a run below the bound satisfies the invariant. -/
theorem MmapReachBelow.inv {s : MmapState} (h : MmapReachBelow (2 ^ 32) s) : MmapInv s := by
  induction h with
  | alloc h => exact MmapInv.init (vb2DcAlloc_ok h)
  | step _ hs hb ih => exact ih.step hs hb

/-- The buffer `vb2_dc_alloc` returns for 4096 bytes of coherent memory at CPU address
`4096` and DMA address `8192`. -/
theorem vb2DcAlloc_page :
    vb2DcAlloc 0 4096 .bidirectional true (some (4096, 8192)) =
      .ok { Vb2DcBuf.zeroed with
        vaddr := some 4096
        size := 4096
        dmaAddr := 8192
        refcount := 1 } := by
  with_unfolding_all rfl

/-- A run through every kind of call on the buffer of `vb2DcAlloc_page`: an export, which
builds a one-entry `sgt_base`, a mapping and its close, the framework's put, and the
release of the export, which tears the buffer down. -/
theorem mmapExec_page_teardown :
    let t : SgTable := ⟨[⟨1, 0, 4096, 0, 0⟩], 1⟩
    let buf : Vb2DcBuf := { Vb2DcBuf.zeroed with
      vaddr := some 4096
      size := 4096
      dmaAddr := 8192
      refcount := 1
      sgtBase := some t }
    mmapExec (2 ^ 32) (.init { buf with sgtBase := none })
        [.getDmabuf 0 true (some t) true, .mmap 0, .close, .put, .release] =
      some ⟨buf, true, false, 0, 0, vb2DcTeardown buf, 1⟩ := by
  with_unfolding_all rfl

end Vb2DmaContig
