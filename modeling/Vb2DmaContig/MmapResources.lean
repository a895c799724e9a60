import Vb2DmaContig.Ledger
import Vb2DmaContig.Exporter

/-!
# What an MMAP Buffer Takes from the Kernel

`vb2_dc_alloc` takes three things from the kernel: the descriptor (`kzalloc`), the coherent
memory (`dma_alloc_coherent`) and a reference on the device (`get_device`). The first
export takes two more through `vb2_dc_get_base_sgt`: the `struct sg_table` (`kmalloc`) and
the entries `dma_get_sgtable` fills in. The teardown of the last `vb2_dc_put` gives all of
them back.

`Vb2DmaContig.Mmap` models what these functions do to the descriptor, and the calls
`vb2_dc_get_dmabuf` makes. This module adds the kernel calls of the others, as `Event`s of
the ledger, and the runs of the holders with those calls recorded (`MmapRun`). Forgetting
the calls gives back exactly the runs of `MmapReachBelow` (`MmapRun.reachBelow`,
`MmapReachBelow.exists_run`).

## Main results

* `mmap_descriptor_fixed`: in every run from the buffer `vb2_dc_alloc` returned, past the
  bound too, the descriptor is that buffer but for its count and `sgt_base`. So
  `vb2_dc_prepare` and `vb2_dc_finish` never synchronise an MMAP buffer, its cookie is the
  DMA address `dma_alloc_coherent` returned, and `vmap` on its exports returns the CPU
  address it returned.
* `mmap_resources`: in every run that keeps fewer than `2 ^ 32` holders live, the calls
  made so far replay to exactly what the live buffer holds, and to nothing once it is torn
  down. The teardown frees the coherent memory with the device, size and addresses it was
  allocated with, and frees `sgt_base` if it was built; every resource is released exactly
  once. The order is not the reverse one: `put_device` comes after `dma_free_coherent`,
  so the calls are replayed by `Ledger.runAny`.
-/

namespace Vb2DmaContig

/-! ### The calls of each function -/

/-- The calls of `vb2_dc_alloc`: `kzalloc`, `dma_alloc_coherent` (the descriptor freed again
when it fails) and `get_device`. -/
def vb2DcAllocCalls (dev size : Nat) (allocated : Bool) (coherent : Option (Nat × Nat)) :
    List (Event MmapRes) :=
  if !allocated then [] else
  match coherent with
  | none => [.acquire .descriptor, .release .descriptor]
  | some (vaddr, dmaAddr) =>
      [.acquire .descriptor, .acquire (.coherent dev size (some vaddr) dmaAddr),
        .acquire (.device dev)]

/-- A call of the teardown on the ledger. -/
def MmapRelease.calls : MmapRelease → List (Event MmapRes)
  | .sgFreeTable sgt => [.release (.sgTable sgt), .release .sgtStruct]
  | .dmaFreeCoherent dev size vaddr dmaAddr => [.release (.coherent dev size vaddr dmaAddr)]
  | .putDevice dev => [.release (.device dev)]
  | .kfree => [.release .descriptor]

/-- The calls of a holder giving its reference back through `put`: those of the teardown,
when it runs. -/
def dropCalls (put : Vb2DcBuf → Option Vb2DcBuf × List MmapRelease) (buf : Vb2DcBuf) :
    List (Event MmapRes) :=
  (put buf).2.flatMap MmapRelease.calls

/-- The calls of one holder's call, as `mmapStep` makes it. -/
def mmapStepCalls (s : MmapState) : MmapOp → List (Event MmapRes)
  | .put => dropCalls vb2DcPut s.buf
  | .getDmabuf flags allocated sgtable exported =>
      (vb2DcGetDmabuf s.buf flags allocated sgtable exported).2.2
  | .release => dropCalls vb2DcDmabufOpsRelease s.buf
  | .mmap _ => []
  | .close => dropCalls vb2CommonVmClose s.buf

/-- The runs of `MmapReachBelow bound`, with the calls made so far. -/
inductive MmapRun (bound : Nat) : MmapState → List (Event MmapRes) → Prop
  | alloc {dev size : Nat} {dmaDir : DmaDataDirection} {allocated : Bool}
      {coherent : Option (Nat × Nat)} {buf : Vb2DcBuf} :
      vb2DcAlloc dev size dmaDir allocated coherent = .ok buf →
      MmapRun bound (.init buf) (vb2DcAllocCalls dev size allocated coherent)
  | step {s s' : MmapState} {evs : List (Event MmapRes)} {op : MmapOp} : MmapRun bound s evs →
      mmapStep s op = some s' → s'.holders < bound →
      MmapRun bound s' (evs ++ mmapStepCalls s op)

section Runs

variable {bound : Nat} {s : MmapState}

/-- Forgetting the calls gives a run of `MmapReachBelow`. -/
theorem MmapRun.reachBelow {evs : List (Event MmapRes)} (h : MmapRun bound s evs) :
    MmapReachBelow bound s := by
  induction h with
  | alloc h => exact .alloc h
  | step _ hs hb ih => exact .step ih hs hb

/-- Every run of `MmapReachBelow` is one of `MmapRun`, with the calls it made. -/
theorem MmapReachBelow.exists_run (h : MmapReachBelow bound s) :
    ∃ evs, MmapRun bound s evs := by
  induction h with
  | alloc h => exact ⟨_, .alloc h⟩
  | step _ hs hb ih =>
      obtain ⟨evs, hrun⟩ := ih
      exact ⟨_, hrun.step hs hb⟩

/-- The calls made by the holders' calls that `mmapExec` carries out. -/
def mmapExecCalls (s : MmapState) : List MmapOp → List (Event MmapRes)
  | [] => []
  | op :: ops => mmapStepCalls s op ++ (mmapStep s op).elim [] fun s' => mmapExecCalls s' ops

/-- A run `mmapExec` carries out is a run of `MmapRun`, with the calls it made. -/
theorem MmapRun.exec {s' : MmapState} {evs : List (Event MmapRes)} {ops : List MmapOp}
    (h : MmapRun bound s evs) (hx : mmapExec bound s ops = some s') :
    MmapRun bound s' (evs ++ mmapExecCalls s ops) := by
  induction ops generalizing s evs with
  | nil => exact Option.some.inj hx ▸ (List.append_nil evs).symm ▸ h
  | cons op ops ih =>
      obtain ⟨t, ht, hx⟩ := Option.bind_eq_some.mp hx
      split at hx
      · simpa [mmapExecCalls, ht] using ih (h.step ht ‹_›) hx
      · cases hx

end Runs

/-- One call of a live holder, whichever it is. -/
def MmapStep (s s' : MmapState) : Prop := ∃ op, mmapStep s op = some s'

/-- A run `mmapExec` carries out is a chain of `MmapStep`s. -/
theorem MmapStep.exec {bound : Nat} {s s' : MmapState} {ops : List MmapOp}
    (hx : mmapExec bound s ops = some s') : Relation.ReflTransGen MmapStep s s' := by
  induction ops generalizing s with
  | nil => exact Option.some.inj hx ▸ .refl
  | cons op ops ih =>
      obtain ⟨t, ht, hx⟩ := Option.bind_eq_some.mp hx
      split at hx
      · exact .head ⟨op, ht⟩ (ih hx)
      · cases hx

/-! ### The descriptor between the calls -/

/-- What the MMAP calls leave alone: the descriptor without its count and `sgt_base`. -/
def Vb2DcBuf.mmapFrame (buf : Vb2DcBuf) : Vb2DcBuf := { buf with refcount := 0, sgtBase := none }

/-- What a live MMAP buffer holds, top of the stack first: `sgt_base` once built, then the
device reference, the coherent memory and the descriptor. -/
def Vb2DcBuf.mmapHeld (buf : Vb2DcBuf) : List MmapRes :=
  buf.sgtBase.elim [] (fun sgt => [.sgTable sgt, .sgtStruct]) ++
    [.device buf.dev, .coherent buf.dev buf.size buf.vaddr buf.dmaAddr, .descriptor]

/-- What the buffer of a state holds: nothing once it is torn down. -/
def MmapState.held (s : MmapState) : List MmapRes := if s.freed then [] else s.buf.mmapHeld

/-! Neither view reads the count. These two lemmas are used instead of `rfl`, which would
have the kernel compare an `atomicInc` or `atomicDec` of a symbolic count with the count. -/

/-- The frame does not read the count or `sgt_base`. -/
@[simp] theorem Vb2DcBuf.mmapFrame_update (buf : Vb2DcBuf) (refcount : Nat)
    (sgtBase : Option SgTable) : { buf with refcount, sgtBase }.mmapFrame = buf.mmapFrame := rfl

/-- What a buffer holds does not read its count. -/
@[simp] theorem Vb2DcBuf.mmapHeld_refcount (buf : Vb2DcBuf) (refcount : Nat) :
    { buf with refcount }.mmapHeld = buf.mmapHeld := rfl

/-- Two descriptors with one frame differ at most in their count and `sgt_base`. -/
theorem Vb2DcBuf.eq_of_mmapFrame_eq {b c : Vb2DcBuf} (h : b.mmapFrame = c.mmapFrame) :
    b = { c with refcount := b.refcount, sgtBase := b.sgtBase } := by
  cases b; cases c; cases h; rfl

/-- A call is made only by a live holder. -/
theorem mmapStep_live {s s' : MmapState} {op : MmapOp} (hs : mmapStep s op = some s') :
    0 < s.holders := by
  have hfw : s.framework = true → 0 < s.holders := fun h => by simp [MmapState.holders, h]
  have hex : 0 < s.exports → 0 < s.holders := fun h => by unfold MmapState.holders; omega
  have hm : 0 < s.mappings → 0 < s.holders := fun h => by unfold MmapState.holders; omega
  cases op <;> simp only [mmapStep] at hs <;> split at hs <;> cases hs
  · exact hfw ‹_›
  · exact hfw ‹_›
  · exact hex ‹_›
  · exact (‹_› : s.framework = true ∨ 0 < s.exports).elim hfw hex
  · exact hm ‹_›

/-- What `put` can do: drop a reference that is not the last, or run the teardown. -/
theorem vb2DcPut_cases (buf : Vb2DcBuf) :
    vb2DcPut buf = (some { buf with refcount := atomicDec buf.refcount }, []) ∨
      (atomicDec buf.refcount = 0 ∧ vb2DcPut buf = (none, vb2DcTeardown buf)) := by
  unfold vb2DcPut
  dsimp only
  by_cases h : atomicDec buf.refcount = 0
  · rw [if_neg (not_not.mpr h)]
    exact .inr ⟨h, rfl⟩
  · rw [if_pos h]
    exact .inl rfl

/-- `put` changes only the count of a descriptor it keeps. -/
theorem vb2DcPut_frame {buf b : Vb2DcBuf} (h : (vb2DcPut buf).1 = some b) :
    b.mmapFrame = buf.mmapFrame := by
  rcases vb2DcPut_cases buf with h' | ⟨-, h'⟩ <;> rw [h'] at h <;> cases h
  exact Vb2DcBuf.mmapFrame_update _ _ _

/-- Giving a reference back through `vb2_dc_put` keeps the frame. -/
theorem MmapState.drop_frame (s : MmapState) :
    (s.drop vb2DcPut).buf.mmapFrame = s.buf.mmapFrame := by
  rcases h : vb2DcPut s.buf with ⟨_ | b, calls⟩
  · rw [MmapState.drop_none h]
  · rw [MmapState.drop_some h]
    exact vb2DcPut_frame (congrArg Prod.fst h)

/-- **Every call keeps the frame**: only the count and `sgt_base` of the descriptor change. -/
theorem mmapStep_frame {s s' : MmapState} {op : MmapOp} (hs : mmapStep s op = some s') :
    s'.buf.mmapFrame = s.buf.mmapFrame := by
  cases op <;> simp only [mmapStep] at hs <;> split at hs <;> cases hs
  · exact MmapState.drop_frame _
  · rw [vb2DcGetDmabuf_eq]; dsimp only; split <;> exact Vb2DcBuf.mmapFrame_update _ _ _
  · exact MmapState.drop_frame _
  · unfold vb2DcMmap vb2CommonVmOpen; split
    · rfl
    · exact Vb2DcBuf.mmapFrame_update _ _ _
  · exact MmapState.drop_frame _

/-- **An MMAP descriptor is the one `vb2_dc_alloc` built.** In every run from the buffer
`vb2_dc_alloc` returned, whatever the holders do and past the bound on their number too,
only the count and `sgt_base` of the descriptor have changed: it keeps the device, size
and direction it was allocated with. So `vb2_dc_prepare` and `vb2_dc_finish` never
synchronise an MMAP buffer, the cookie is the DMA address `dma_alloc_coherent` returned,
and `vmap` on an export returns the CPU address it returned. -/
theorem mmap_descriptor_fixed {dev size : Nat} {dmaDir : DmaDataDirection} {allocated : Bool}
    {vaddr dmaAddr : Nat} {buf0 : Vb2DcBuf} {s : MmapState}
    (halloc : vb2DcAlloc dev size dmaDir allocated (some (vaddr, dmaAddr)) = .ok buf0)
    (h : Relation.ReflTransGen MmapStep (.init buf0) s) :
    s.buf = { buf0 with refcount := s.buf.refcount, sgtBase := s.buf.sgtBase } ∧
      s.buf.dev = dev ∧ s.buf.size = size ∧ s.buf.dmaDir = dmaDir ∧
      vb2DcPrepare s.buf = none ∧ vb2DcFinish s.buf = none ∧
      vb2DcCookie s.buf = dmaAddr ∧ vb2DcDmabufOpsVmap s.buf = some vaddr := by
  have hframe : s.buf.mmapFrame = buf0.mmapFrame := by
    induction h with
    | refl => rfl
    | tail _ hs ih => obtain ⟨_, hs⟩ := hs; rw [mmapStep_frame hs, ih]
  have hbuf := Vb2DcBuf.eq_of_mmapFrame_eq hframe
  cases allocated <;> simp only [vb2DcAlloc, Bool.not_false, Bool.not_true, if_true,
    if_false, reduceCtorEq, Except.ok.injEq] at halloc
  subst halloc
  refine ⟨hbuf, ?_⟩
  rw [hbuf]
  exact ⟨rfl, rfl, rfl, rfl, rfl, rfl, rfl⟩

/-- An export and a mapping after `vb2DcAlloc_page`: the count is up to three, and
`sgt_base` is built. -/
theorem mmapExec_page_mapped :
    let t : SgTable := ⟨[⟨1, 0, 4096, 0, 0⟩], 1⟩
    let buf : Vb2DcBuf := { Vb2DcBuf.zeroed with
      vaddr := some 4096
      size := 4096
      dmaAddr := 8192
      refcount := 1 }
    mmapExec (2 ^ 32) (.init buf) [.getDmabuf 0 true (some t) true, .mmap 0] =
      some ⟨{ buf with refcount := 3, sgtBase := some t }, false, true, 1, 1, [], 1⟩ := by
  with_unfolding_all rfl

/-- `mmap_descriptor_fixed` after an export and a mapping of the buffer of
`vb2DcAlloc_page`. -/
theorem mmap_descriptor_fixed_at_mapped :
    let buf0 : Vb2DcBuf := { Vb2DcBuf.zeroed with
      vaddr := some 4096
      size := 4096
      dmaAddr := 8192
      refcount := 1 }
    let s : MmapState :=
      ⟨{ buf0 with refcount := 3, sgtBase := some ⟨[⟨1, 0, 4096, 0, 0⟩], 1⟩ },
        false, true, 1, 1, [], 1⟩
    vb2DcAlloc 0 4096 .bidirectional true (some (4096, 8192)) = .ok buf0 ∧
      Relation.ReflTransGen MmapStep (.init buf0) s ∧
      (s.buf = { buf0 with refcount := s.buf.refcount, sgtBase := s.buf.sgtBase } ∧
        s.buf.dev = 0 ∧ s.buf.size = 4096 ∧ s.buf.dmaDir = .bidirectional ∧
        vb2DcPrepare s.buf = none ∧ vb2DcFinish s.buf = none ∧
        vb2DcCookie s.buf = 8192 ∧ vb2DcDmabufOpsVmap s.buf = some 4096) :=
  ⟨vb2DcAlloc_page, MmapStep.exec mmapExec_page_mapped,
    mmap_descriptor_fixed vb2DcAlloc_page (MmapStep.exec mmapExec_page_mapped)⟩

/-! ### The ledger of an MMAP buffer

The calls are replayed by `Ledger.runAny`: the teardown frees the coherent memory before
it puts the device reference that `vb2_dc_alloc` took after it. -/

/-- `vb2_dc_alloc` on the ledger: a failure gives back what it took, a success holds the
descriptor, the coherent memory it returns and the device. -/
theorem vb2DcAllocCalls_run (dev size : Nat) (dmaDir : DmaDataDirection) (allocated : Bool)
    (coherent : Option (Nat × Nat)) :
    Ledger.runAny (vb2DcAllocCalls dev size allocated coherent) [] =
      some (((vb2DcAlloc dev size dmaDir allocated coherent).toOption.map
        Vb2DcBuf.mmapHeld).getD []) := by
  cases allocated <;> rcases coherent with _ | ⟨vaddr, dmaAddr⟩ <;> rfl

/-- `put` on the ledger: a reference that is not the last one calls nothing, the last one
gives back all the buffer holds. -/
theorem vb2DcPut_run (buf : Vb2DcBuf) :
    Ledger.runAny (dropCalls vb2DcPut buf) buf.mmapHeld =
      some (((vb2DcPut buf).1.map Vb2DcBuf.mmapHeld).getD []) := by
  rcases vb2DcPut_cases buf with h | ⟨-, h⟩ <;> rw [dropCalls, h]
  · simp
  · rcases hs : buf.sgtBase with _ | sgt <;>
      simp [vb2DcTeardown, MmapRelease.calls, Vb2DcBuf.mmapHeld, hs, Ledger.runAny,
        Ledger.stepAny]

/-- A holder giving its reference back: the calls lead from what the buffer holds to what
it holds after. -/
theorem MmapState.held_drop (s : MmapState)
    {put : Vb2DcBuf → Option Vb2DcBuf × List MmapRelease} (hput : put = vb2DcPut)
    (hf : s.freed = false) :
    Ledger.runAny (dropCalls put s.buf) s.held = some (s.drop put).held := by
  subst hput
  have hrun := vb2DcPut_run s.buf
  rcases h : vb2DcPut s.buf with ⟨_ | b, calls⟩ <;> rw [h] at hrun
  · rw [MmapState.drop_none h]
    simpa [MmapState.held, hf] using hrun
  · rw [MmapState.drop_some h]
    simpa [MmapState.held, hf] using hrun

/-- The calls of `vb2_dc_get_dmabuf` are those of the build of `sgt_base`, if any. -/
theorem vb2DcGetDmabuf_calls (buf : Vb2DcBuf) (flags : Nat) (allocated : Bool)
    (sgtable : Option SgTable) (exported : Bool) :
    (vb2DcGetDmabuf buf flags allocated sgtable exported).2.2 =
      (vb2DcGetDmabufBase buf allocated sgtable).2 := by
  rw [vb2DcGetDmabuf_eq]
  dsimp only
  split <;> rfl

/-- `vb2_dc_get_dmabuf` holds what the descriptor says once `sgt_base` is settled; the count
it takes does not show. -/
theorem vb2DcGetDmabuf_mmapHeld (buf : Vb2DcBuf) (flags : Nat) (allocated : Bool)
    (sgtable : Option SgTable) (exported : Bool) :
    (vb2DcGetDmabuf buf flags allocated sgtable exported).1.mmapHeld =
      { buf with sgtBase := (vb2DcGetDmabufBase buf allocated sgtable).1 }.mmapHeld := by
  rw [vb2DcGetDmabuf_eq]
  dsimp only
  split
  · exact Vb2DcBuf.mmapHeld_refcount
      { buf with sgtBase := (vb2DcGetDmabufBase buf allocated sgtable).1 } _
  · rfl

/-- `vb2_dc_get_dmabuf` on the ledger: a new `sgt_base` is held on top, a failed build
gives back its table. -/
theorem vb2DcGetDmabuf_run (buf : Vb2DcBuf) (flags : Nat) (allocated : Bool)
    (sgtable : Option SgTable) (exported : Bool) :
    Ledger.runAny (vb2DcGetDmabuf buf flags allocated sgtable exported).2.2 buf.mmapHeld =
      some (vb2DcGetDmabuf buf flags allocated sgtable exported).1.mmapHeld := by
  rw [vb2DcGetDmabuf_mmapHeld, vb2DcGetDmabuf_calls, vb2DcGetDmabufBase]
  rcases h : buf.sgtBase with _ | sgt
  · cases allocated <;> rcases sgtable with _ | t <;>
      simp [vb2DcGetBaseSgt, Vb2DcBuf.mmapHeld, h, Ledger.runAny_release]
  · simp [Vb2DcBuf.mmapHeld, h]

/-- A mapping takes nothing from the kernel that the buffer gives back. -/
theorem vb2DcMmap_mmapHeld (buf : Vb2DcBuf) (ret : Int) :
    (vb2DcMmap buf ret).1.mmapHeld = buf.mmapHeld := by
  unfold vb2DcMmap vb2CommonVmOpen
  split
  · rfl
  · exact Vb2DcBuf.mmapHeld_refcount _ _

/-- **One call on the ledger**: on a buffer not yet torn down, the calls of a step lead from
what it holds before to what it holds after. -/
theorem MmapState.held_step {s s' : MmapState} {op : MmapOp} (hf : s.freed = false)
    (hs : mmapStep s op = some s') :
    Ledger.runAny (mmapStepCalls s op) s.held = some s'.held := by
  cases op <;> simp only [mmapStep] at hs <;> split at hs <;> cases hs
  · exact MmapState.held_drop { s with framework := false } rfl hf
  · simp only [MmapState.held, hf]
    exact vb2DcGetDmabuf_run _ _ _ _ _
  · exact MmapState.held_drop { s with exports := s.exports - 1 } rfl hf
  · simp only [MmapState.held, hf, mmapStepCalls, Ledger.runAny_nil, Bool.false_eq_true,
      if_false, vb2DcMmap_mmapHeld]
  · exact MmapState.held_drop { s with mappings := s.mappings - 1 } rfl hf

/-- **The ledger of an MMAP buffer.** In every run that keeps fewer than `2 ^ 32` holders
live, the calls made so far, from `vb2_dc_alloc` on, replay from nothing to what the buffer
holds while it lives, and to nothing once the teardown has run: nothing is freed that is
not held, the coherent memory is freed with the device, size and addresses it was
allocated with, and once the buffer is torn down every resource has been released exactly
as many times as it was taken. -/
theorem mmap_resources {s : MmapState} {evs : List (Event MmapRes)} (h : MmapRun (2 ^ 32) s evs) :
    Ledger.runAny evs [] = some (if s.freed then [] else s.buf.mmapHeld) ∧
      (s.freed = true → ∀ r, evs.count (.release r) = evs.count (.acquire r)) := by
  have hrun : Ledger.runAny evs [] = some s.held := by
    induction h with
    | alloc h => rw [vb2DcAllocCalls_run _ _ _, h]; rfl
    | step hr hs _ ih =>
        rw [Ledger.runAny_append, ih, Option.some_bind]
        exact MmapState.held_step (hr.reachBelow.inv.freed_false (mmapStep_live hs)) hs
  refine ⟨hrun, fun hf => Ledger.runAny_balanced ?_⟩
  rwa [MmapState.held, if_pos hf] at hrun

/-- `mmap_resources` at the end of the run of `mmapExec_page_teardown`: the calls, from
`vb2_dc_alloc` through the teardown, give back everything they took. -/
theorem mmap_resources_at_teardown :
    let t : SgTable := ⟨[⟨1, 0, 4096, 0, 0⟩], 1⟩
    let buf : Vb2DcBuf := { Vb2DcBuf.zeroed with
      vaddr := some 4096
      size := 4096
      dmaAddr := 8192
      refcount := 1
      sgtBase := some t }
    let s : MmapState := ⟨buf, true, false, 0, 0, vb2DcTeardown buf, 1⟩
    let evs := vb2DcAllocCalls 0 4096 true (some (4096, 8192)) ++
      mmapExecCalls (.init { buf with sgtBase := none })
        [.getDmabuf 0 true (some t) true, .mmap 0, .close, .put, .release]
    MmapRun (2 ^ 32) s evs ∧
      evs = [.acquire .descriptor, .acquire (.coherent 0 4096 (some 4096) 8192),
        .acquire (.device 0), .acquire .sgtStruct, .acquire (.sgTable t),
        .release (.sgTable t), .release .sgtStruct,
        .release (.coherent 0 4096 (some 4096) 8192), .release (.device 0),
        .release .descriptor] ∧
      (Ledger.runAny evs [] = some (if s.freed then [] else s.buf.mmapHeld) ∧
        (s.freed = true → ∀ r, evs.count (.release r) = evs.count (.acquire r))) :=
  ⟨(MmapRun.alloc vb2DcAlloc_page).exec mmapExec_page_teardown, by with_unfolding_all rfl,
    mmap_resources ((MmapRun.alloc vb2DcAlloc_page).exec mmapExec_page_teardown)⟩

end Vb2DmaContig
