import Vb2DmaContig.Basic

/-!
# The Contiguous Run of a Segment Table

`vb2_dc_get_contiguous_size` is the one check between a DMA mapping and a buffer the
device will address: the USERPTR path and the DMABUF import path both accept a mapped
table only when it returns at least the buffer's size. This module embeds the loop
(`vb2DcGetContiguousSize`), states what it computes in the words of its purpose
(`contiguousRun`, the longest prefix of the mapped segments in which each one starts where
the one before it ends), and relates the two at the real widths of the loop's two
accumulators: `expected` is a `dma_addr_t`, `size` an `unsigned long`.

## Main results

* `contiguousRun_isPrefix`, `contiguousRun_chain'`, `prefix_contiguousRun`: the run is the
  longest chained prefix.
* `vb2DcGetContiguousSize_eq`: the loop returns the run's total length modulo
  `2 ^ ulongBits`, the run chained modulo `2 ^ dmaAddrBits`.
* `covered_of_le_vb2DcGetContiguousSize`: below an accepted size, every offset from the first
  DMA address lands, modulo `2 ^ dmaAddrBits`, inside one of the mapped segments.
* `vb2DcGetContiguousSize_exact`, `covered_exact_of_le_vb2DcGetContiguousSize`: where no
  segment reaches the top of the address space, the loop measures the run of integer
  addresses (exactly, while the total fits an `unsigned long`), and an accepted size is
  covered as integers.

Chaining modulo the width is what the loop does: a segment that ends at the top of the
address space is chained to one that starts at `0`, which no integer reading allows.
-/

namespace Vb2DmaContig

/-- Segment `t` starts where `s` ends, the end computed modulo `M`, as `expected` is. -/
def Chained (M : Nat) (s t : Scatterlist) : Prop :=
  t.dmaAddress = (s.dmaAddress + s.dmaLen) % M

/-- Chaining is decided by comparing two addresses. -/
instance (M : Nat) : DecidableRel (Chained M) := fun _ _ => inferInstanceAs (Decidable (_ = _))

/-- Segment `t` starts where `s` ends, as integers. -/
def ChainedExact (s t : Scatterlist) : Prop :=
  t.dmaAddress = s.dmaAddress + s.dmaLen

/-- Exact chaining is decided by comparing two addresses. -/
instance : DecidableRel ChainedExact := fun _ _ => inferInstanceAs (Decidable (_ = _))

/-- The run of a segment list: its first segment, and each next one while it is chained
to the one before it. -/
def contiguousRun (R : Scatterlist → Scatterlist → Prop) [DecidableRel R] :
    List Scatterlist → List Scatterlist
  | [] => []
  | [s] => [s]
  | s :: t :: rest => s :: if R s t then contiguousRun R (t :: rest) else []

/-- The total DMA length of a list of segments. -/
def totalLen (l : List Scatterlist) : Nat := (l.map (·.dmaLen)).sum

/-- No segments, no length. -/
@[simp] theorem totalLen_nil : totalLen [] = 0 := rfl

/-- The length of a list is that of its first segment plus that of the rest. -/
@[simp] theorem totalLen_cons (s : Scatterlist) (l : List Scatterlist) :
    totalLen (s :: l) = s.dmaLen + totalLen l := by
  simp [totalLen]

section Run

variable {R : Scatterlist → Scatterlist → Prop} [DecidableRel R]

/-- The run of two or more segments: the first, then the run from the second while it is
chained to the first. -/
theorem contiguousRun_cons_cons (s t : Scatterlist) (rest : List Scatterlist) :
    contiguousRun R (s :: t :: rest) =
      s :: if R s t then contiguousRun R (t :: rest) else [] := rfl

/-- The run of a nonempty list starts with its first segment. -/
theorem contiguousRun_head? (t : Scatterlist) (rest : List Scatterlist) :
    (contiguousRun R (t :: rest)).head? = some t := by
  cases rest <;> rfl

/-- The run is a prefix of the list. -/
theorem contiguousRun_isPrefix (l : List Scatterlist) : contiguousRun R l <+: l := by
  induction l using contiguousRun.induct R with
  | case1 => exact List.prefix_rfl
  | case2 s => exact List.prefix_rfl
  | case3 s t rest ih =>
      rw [contiguousRun_cons_cons, List.cons_prefix_cons]
      split
      · exact ⟨rfl, ih⟩
      · exact ⟨rfl, List.nil_prefix⟩

/-- Each segment of the run is chained to the one before it. -/
theorem contiguousRun_chain' (l : List Scatterlist) : (contiguousRun R l).Chain' R := by
  induction l using contiguousRun.induct R with
  | case1 => exact List.chain'_nil
  | case2 s => exact List.chain'_singleton s
  | case3 s t rest ih =>
      rw [contiguousRun_cons_cons]
      split
      · next hR => exact ih.cons' fun y hy => by simp_all [contiguousRun_head?]
      · exact List.chain'_singleton s

/-- **The run is the longest chained prefix**: every chained prefix is a prefix of it. -/
theorem prefix_contiguousRun {p l : List Scatterlist} (hp : p <+: l) (hc : p.Chain' R) :
    p <+: contiguousRun R l := by
  induction l using contiguousRun.induct R generalizing p with
  | case1 => exact hp
  | case2 s => exact hp
  | case3 s t rest ih =>
      rcases p with _ | ⟨x, p'⟩
      · exact List.nil_prefix
      obtain ⟨rfl, hp'⟩ := List.cons_prefix_cons.mp hp
      rw [contiguousRun_cons_cons, List.cons_prefix_cons]
      refine ⟨rfl, ?_⟩
      split
      · exact ih hp' hc.tail
      · next hR =>
          rcases p' with _ | ⟨y, p''⟩
          · exact List.nil_prefix
          · obtain ⟨rfl, -⟩ := List.cons_prefix_cons.mp hp'
            exact absurd (List.chain'_cons.mp hc).1 hR

end Run

/-! ### The loop -/

/-- The loop of `vb2_dc_get_contiguous_size` over the segments left, with its running
`expected` address (a `dma_addr_t`) and `size` (an `unsigned long`). -/
def contiguousSizeLoop (a : Arch) : List Scatterlist → Nat → Nat → Nat
  | [], _, size => size
  | s :: ss, expected, size =>
      if s.dmaAddress ≠ expected then size
      else contiguousSizeLoop a ss ((s.dmaAddress + s.dmaLen) % 2 ^ a.dmaAddrBits)
        ((size + s.dmaLen) % 2 ^ a.ulongBits)

/-- `vb2_dc_get_contiguous_size`: `expected` starts at `sg_dma_address(sgt->sgl)`, `size`
at `0`, over the first `nents` entries. -/
def vb2DcGetContiguousSize (a : Arch) (sgt : SgTable) : Nat :=
  contiguousSizeLoop a sgt.mapped sgt.firstDmaAddress 0

/-- The first mapped segment is the table's first entry. -/
theorem SgTable.firstDmaAddress_of_mapped {sgt : SgTable} {s : Scatterlist}
    {ss : List Scatterlist} (h : sgt.mapped = s :: ss) : sgt.firstDmaAddress = s.dmaAddress := by
  unfold SgTable.mapped at h
  unfold SgTable.firstDmaAddress
  rcases hs : sgt.sgl with _ | ⟨x, xs⟩
  · simp [hs] at h
  · cases hn : sgt.nents <;> simp_all

/-- A segment that matches `expected` is counted. -/
theorem contiguousSizeLoop_match (a : Arch) (s : Scatterlist) (ss : List Scatterlist)
    (size : Nat) :
    contiguousSizeLoop a (s :: ss) s.dmaAddress size =
      contiguousSizeLoop a ss ((s.dmaAddress + s.dmaLen) % 2 ^ a.dmaAddrBits)
        ((size + s.dmaLen) % 2 ^ a.ulongBits) := by
  simp [contiguousSizeLoop]

/-- A segment that does not match `expected` ends the loop. -/
theorem contiguousSizeLoop_mismatch (a : Arch) {s : Scatterlist} {e : Nat}
    (h : s.dmaAddress ≠ e) (ss : List Scatterlist) (size : Nat) :
    contiguousSizeLoop a (s :: ss) e size = size := by
  simp [contiguousSizeLoop, h]

/-- The loop invariant: from a segment that matches `expected`, the loop adds the run's
length to `size`, both at the width of `unsigned long`. -/
theorem contiguousSizeLoop_cons (a : Arch) (s : Scatterlist) (ss : List Scatterlist)
    (size : Nat) :
    contiguousSizeLoop a (s :: ss) s.dmaAddress size =
      (size + totalLen (contiguousRun (Chained (2 ^ a.dmaAddrBits)) (s :: ss)))
        % 2 ^ a.ulongBits := by
  induction ss generalizing s size with
  | nil => simp [contiguousSizeLoop, contiguousRun]
  | cons t rest ih =>
      rw [contiguousSizeLoop_match, contiguousRun_cons_cons]
      by_cases hR : Chained (2 ^ a.dmaAddrBits) s t
      · rw [if_pos hR, ← show t.dmaAddress = _ from hR, ih, totalLen_cons, Nat.mod_add_mod,
          Nat.add_assoc]
      · rw [if_neg hR, contiguousSizeLoop_mismatch a hR]
        simp

/-- **What the loop computes**: the total length of the longest prefix of the mapped
segments chained modulo `2 ^ dmaAddrBits`, reduced modulo `2 ^ ulongBits`. -/
theorem vb2DcGetContiguousSize_eq (a : Arch) (sgt : SgTable) :
    vb2DcGetContiguousSize a sgt =
      totalLen (contiguousRun (Chained (2 ^ a.dmaAddrBits)) sgt.mapped) % 2 ^ a.ulongBits := by
  unfold vb2DcGetContiguousSize
  rcases h : sgt.mapped with _ | ⟨s, ss⟩
  · simp [contiguousSizeLoop, contiguousRun]
  · rw [SgTable.firstDmaAddress_of_mapped h, contiguousSizeLoop_cons, Nat.zero_add]

/-- **`vb2_dc_get_contiguous_size` measures the longest chained prefix**: there is a prefix
of the first `nents` segments, chained modulo `2 ^ dmaAddrBits`, that contains every such
chained prefix (so it holds the first segment, and the first gap or overlap ends it), and
the loop returns its total length modulo `2 ^ ulongBits`. -/
theorem vb2DcGetContiguousSize_longest_run (a : Arch) (sgt : SgTable) :
    ∃ run, run <+: sgt.mapped ∧ run.Chain' (Chained (2 ^ a.dmaAddrBits)) ∧
      (∀ p, p <+: sgt.mapped → p.Chain' (Chained (2 ^ a.dmaAddrBits)) → p <+: run) ∧
      vb2DcGetContiguousSize a sgt = totalLen run % 2 ^ a.ulongBits :=
  ⟨_, contiguousRun_isPrefix _, contiguousRun_chain' _, fun _ hp hc => prefix_contiguousRun hp hc,
    vb2DcGetContiguousSize_eq a sgt⟩

/-- At 64-bit widths, a segment that ends at the top of the DMA address space is chained to
one that starts at `0`: the loop counts both, where the run of integer addresses is the
first segment alone. -/
theorem vb2DcGetContiguousSize_wraps :
    vb2DcGetContiguousSize ⟨64, 64, 12⟩
        ⟨[⟨0, 0, 4096, 2 ^ 64 - 4096, 4096⟩, ⟨0, 0, 4096, 0, 4096⟩], 2⟩ = 8192 ∧
      totalLen (contiguousRun ChainedExact
        (SgTable.mapped ⟨[⟨0, 0, 4096, 2 ^ 64 - 4096, 4096⟩, ⟨0, 0, 4096, 0, 4096⟩], 2⟩)) =
        4096 :=
  ⟨rfl, rfl⟩

/-! ### What an accepted size covers -/

/-- Every offset below the run's length, counted from the run's first address, lands
inside one of its segments, addresses taken modulo `M`. -/
theorem covered_of_lt_totalLen {M : Nat} (s : Scatterlist) (ss : List Scatterlist) {k : Nat}
    (hk : k < totalLen (contiguousRun (Chained M) (s :: ss))) :
    ∃ x ∈ contiguousRun (Chained M) (s :: ss), ∃ j < x.dmaLen,
      (s.dmaAddress + k) % M = (x.dmaAddress + j) % M := by
  induction ss generalizing s k with
  | nil => exact ⟨s, by simp [contiguousRun], k, by simpa [contiguousRun] using hk, rfl⟩
  | cons t rest ih =>
      rw [contiguousRun_cons_cons] at hk ⊢
      by_cases hks : k < s.dmaLen
      · exact ⟨s, List.mem_cons_self _ _, k, hks, rfl⟩
      by_cases hR : Chained M s t
      · simp only [if_pos hR, totalLen_cons] at hk ⊢
        obtain ⟨x, hx, j, hj, heq⟩ := ih t (k := k - s.dmaLen) (by omega)
        refine ⟨x, List.mem_cons_of_mem _ hx, j, hj, ?_⟩
        calc (s.dmaAddress + k) % M
            = ((s.dmaAddress + s.dmaLen) % M + (k - s.dmaLen)) % M := by
              rw [Nat.mod_add_mod]; congr 1; omega
          _ = (x.dmaAddress + j) % M := by rw [← hR]; exact heq
      · simp [if_neg hR] at hk
        omega

/-- **An accepted size is covered by the mapping**: when the contiguous size is at least
`size`, every device address `firstDmaAddress + k` with `k < size` lies, modulo
`2 ^ dmaAddrBits`, inside one of the first `nents` segments. -/
theorem covered_of_le_vb2DcGetContiguousSize (a : Arch) {sgt : SgTable} {size : Nat}
    (hsize : size ≤ vb2DcGetContiguousSize a sgt) {k : Nat} (hk : k < size) :
    ∃ x ∈ sgt.mapped, ∃ j < x.dmaLen,
      (sgt.firstDmaAddress + k) % 2 ^ a.dmaAddrBits =
        (x.dmaAddress + j) % 2 ^ a.dmaAddrBits := by
  rw [vb2DcGetContiguousSize_eq] at hsize
  have hlt := Nat.lt_of_lt_of_le hk (hsize.trans (Nat.mod_le _ _))
  rcases h : sgt.mapped with _ | ⟨s, ss⟩
  · simp [h, contiguousRun] at hlt
  · rw [h] at hlt
    obtain ⟨x, hx, j, hj, heq⟩ := covered_of_lt_totalLen s ss hlt
    rw [SgTable.firstDmaAddress_of_mapped h]
    exact ⟨x, (contiguousRun_isPrefix _).subset hx, j, hj, heq⟩

/-! ### Without wrap-around -/

/-- Where no segment ends at or past `M`, chaining modulo `M` is chaining as integers. -/
theorem contiguousRun_chained_eq_exact {M : Nat} {l : List Scatterlist}
    (h : ∀ s ∈ l, s.dmaAddress + s.dmaLen < M) :
    contiguousRun (Chained M) l = contiguousRun ChainedExact l := by
  induction l using contiguousRun.induct (Chained M) with
  | case1 => rfl
  | case2 s => rfl
  | case3 s t rest ih =>
      have hst : Chained M s t ↔ ChainedExact s t := by
        rw [Chained, ChainedExact, Nat.mod_eq_of_lt (h s (List.mem_cons_self _ _))]
      rw [contiguousRun_cons_cons, contiguousRun_cons_cons]
      by_cases hc : ChainedExact s t
      · rw [if_pos (hst.mpr hc), if_pos hc, ih fun x hx => h x (List.mem_cons_of_mem _ hx)]
      · rw [if_neg (mt hst.mp hc), if_neg hc]

/-- A prefix is no longer than the list. -/
theorem totalLen_le_of_isPrefix {p l : List Scatterlist} (h : p <+: l) :
    totalLen p ≤ totalLen l := by
  obtain ⟨t, rfl⟩ := h
  simp [totalLen]

/-- **Without wrap-around the loop measures the integer run.** When no mapped segment ends
at or past the top of the DMA address space, and the mapped segments are together shorter
than `2 ^ ulongBits`, `vb2_dc_get_contiguous_size` returns the total length of the longest
prefix of the mapped segments in which each starts, as an integer, where the one before it
ends. -/
theorem vb2DcGetContiguousSize_exact (a : Arch) {sgt : SgTable}
    (hend : ∀ s ∈ sgt.mapped, s.dmaAddress + s.dmaLen < 2 ^ a.dmaAddrBits)
    (hsum : totalLen sgt.mapped < 2 ^ a.ulongBits) :
    vb2DcGetContiguousSize a sgt = totalLen (contiguousRun ChainedExact sgt.mapped) := by
  rw [vb2DcGetContiguousSize_eq, contiguousRun_chained_eq_exact hend, Nat.mod_eq_of_lt]
  exact lt_of_le_of_lt (totalLen_le_of_isPrefix (contiguousRun_isPrefix _)) hsum

/-- `vb2DcGetContiguousSize_exact` on two chained pages, far below the top of a 64-bit
address space. -/
theorem vb2DcGetContiguousSize_exact_at_two_pages :
    let sgt : SgTable := ⟨[⟨0, 0, 4096, 0, 4096⟩, ⟨0, 0, 4096, 4096, 4096⟩], 2⟩
    (∀ s ∈ sgt.mapped, s.dmaAddress + s.dmaLen < 2 ^ 64) ∧ totalLen sgt.mapped < 2 ^ 64 ∧
      vb2DcGetContiguousSize ⟨64, 64, 12⟩ sgt = totalLen (contiguousRun ChainedExact sgt.mapped) :=
  ⟨by decide, by decide, vb2DcGetContiguousSize_exact ⟨64, 64, 12⟩ (by decide) (by decide)⟩

/-- Every offset below the integer run's length, counted from its first address, lands
inside one of its segments. -/
theorem covered_of_lt_totalLen_exact (s : Scatterlist) (ss : List Scatterlist) {k : Nat}
    (hk : k < totalLen (contiguousRun ChainedExact (s :: ss))) :
    ∃ x ∈ contiguousRun ChainedExact (s :: ss), ∃ j < x.dmaLen,
      s.dmaAddress + k = x.dmaAddress + j := by
  induction ss generalizing s k with
  | nil => exact ⟨s, by simp [contiguousRun], k, by simpa [contiguousRun] using hk, rfl⟩
  | cons t rest ih =>
      rw [contiguousRun_cons_cons] at hk ⊢
      by_cases hks : k < s.dmaLen
      · exact ⟨s, List.mem_cons_self _ _, k, hks, rfl⟩
      by_cases hR : ChainedExact s t
      · simp only [if_pos hR, totalLen_cons] at hk ⊢
        obtain ⟨x, hx, j, hj, heq⟩ := ih t (k := k - s.dmaLen) (by omega)
        refine ⟨x, List.mem_cons_of_mem _ hx, j, hj, ?_⟩
        rw [← heq, show t.dmaAddress = _ from hR]
        omega
      · simp [if_neg hR] at hk
        omega

/-- **Without wrap-around an accepted size is covered as integers**: when no mapped segment
ends at or past the top of the DMA address space, every device address `firstDmaAddress + k`
with `k` below a size the loop accepts lies inside one of the first `nents` segments. The
reduction of `size` modulo `2 ^ ulongBits` only makes the loop return less. -/
theorem covered_exact_of_le_vb2DcGetContiguousSize (a : Arch) {sgt : SgTable} {size : Nat}
    (hend : ∀ s ∈ sgt.mapped, s.dmaAddress + s.dmaLen < 2 ^ a.dmaAddrBits)
    (hsize : size ≤ vb2DcGetContiguousSize a sgt) {k : Nat} (hk : k < size) :
    ∃ x ∈ sgt.mapped, ∃ j < x.dmaLen, sgt.firstDmaAddress + k = x.dmaAddress + j := by
  rw [vb2DcGetContiguousSize_eq, contiguousRun_chained_eq_exact hend] at hsize
  have hlt := Nat.lt_of_lt_of_le hk (hsize.trans (Nat.mod_le _ _))
  rcases h : sgt.mapped with _ | ⟨s, ss⟩
  · simp [h, contiguousRun] at hlt
  · rw [h] at hlt
    obtain ⟨x, hx, j, hj, heq⟩ := covered_of_lt_totalLen_exact s ss hlt
    rw [SgTable.firstDmaAddress_of_mapped h]
    exact ⟨x, (contiguousRun_isPrefix _).subset hx, j, hj, heq⟩

end Vb2DmaContig
