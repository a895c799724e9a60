import Vb2DmaContig.Basic

/-!
# The Resource Ledger

The allocator's obligations towards the kernel (every mapping undone once, every
allocation freed once, an error path unwinding what it took in reverse order) are all read
off one semantics. A modelled function returns, beside its result, the `Event`s of the
kernel calls it made: an allocation or mapping that succeeded is an `acquire`, a free or
unmap a `release`. `Ledger.run` replays the events on the stack of resources held. An
acquisition pushes; a release must name the resource on top of the stack, or the replay
fails: the call would release something not held, or release out of order.

A replay that ends on the empty stack therefore says three things at once: nothing was
released that was not held, every acquisition was released exactly once
(`Ledger.run_count`), and each release undid the latest acquisition still held.
`Ledger.runAny` is the same replay with releases allowed in any order, for code that gives
resources back in an order of its own; it keeps the first two.
-/

namespace Vb2DmaContig

/-- A kernel call as the ledger sees it: a resource taken or given back. -/
inductive Event (α : Type)
  | acquire (r : α)
  | release (r : α)
  deriving DecidableEq, Repr

namespace Ledger

variable {α : Type} [DecidableEq α]

/-- One event on the stack of resources held, latest on top. -/
def step : Event α → List α → Option (List α)
  | .acquire r, held => some (r :: held)
  | .release r, r' :: held => if r' = r then some held else none
  | .release _, [] => none

/-- Replay of a sequence of events; `none` as soon as one of them is refused. -/
def run : List (Event α) → List α → Option (List α)
  | [], held => some held
  | e :: es, held => (step e held).bind (run es)

/-- No events leave the stack as it is. -/
@[simp] theorem run_nil (held : List α) : run [] held = some held := rfl

/-- An acquisition pushes the resource. -/
@[simp] theorem run_acquire (r : α) (es : List (Event α)) (held : List α) :
    run (.acquire r :: es) held = run es (r :: held) := rfl

/-- A release of the top of the stack pops it. -/
@[simp] theorem run_release_top (r : α) (es : List (Event α)) (held : List α) :
    run (.release r :: es) (r :: held) = run es held := by
  simp [run, step]

/-- A release on the empty stack is refused. -/
@[simp] theorem run_release_nil (r : α) (es : List (Event α)) :
    run (.release r :: es) [] = none := rfl

/-- A release of anything but the top of the stack is refused. -/
theorem run_release_ne {r r' : α} (h : r' ≠ r) (es : List (Event α)) (held : List α) :
    run (.release r :: es) (r' :: held) = none := by
  simp [run, step, h]

/-- Replays compose: a sequence is replayed by replaying its two halves in turn. -/
theorem run_append (es fs : List (Event α)) (held : List α) :
    run (es ++ fs) held = (run es held).bind (run fs) := by
  induction es generalizing held with
  | nil => rfl
  | cons e es ih =>
      simp only [List.cons_append, run]
      cases step e held <;> simp [ih]

/-- **A replay counts every resource**: what is held at the end, plus what was released,
is what was held at the start, plus what was acquired. -/
theorem run_count {es : List (Event α)} {held held' : List α}
    (h : run es held = some held') (r : α) :
    held'.count r + es.count (.release r) = held.count r + es.count (.acquire r) := by
  induction es generalizing held with
  | nil => simp_all
  | cons e es ih =>
      cases e with
      | acquire x =>
          have := ih h
          simp only [List.count_cons, List.count_cons, beq_iff_eq, Event.acquire.injEq,
            reduceCtorEq, if_false] at this ⊢
          split_ifs at this ⊢ <;> omega
      | release x =>
          cases held with
          | nil => simp at h
          | cons y held =>
              by_cases hxy : y = x
              · subst hxy
                have := ih (by simpa using h)
                simp only [List.count_cons, beq_iff_eq, Event.release.injEq,
                  reduceCtorEq, if_false] at this ⊢
                split_ifs at this ⊢ <;> omega
              · simp [run_release_ne hxy] at h

/-- **Exactly once**: a replay from nothing back to nothing released every resource as many
times as it acquired it. -/
theorem run_balanced {es : List (Event α)} (h : run es [] = some []) (r : α) :
    es.count (.release r) = es.count (.acquire r) := by
  simpa using run_count h r

/-! ### Releases in any order

`vb2_dc_put` tears an MMAP buffer down in an order of its own: it frees the coherent memory
before it puts the device reference, though `vb2_dc_alloc` took the reference after the
memory, since the free goes through the device. `runAny` replays such sequences: a release
may name any resource held. It still refuses a release of anything not held, and still
counts every resource (`runAny_count`). -/

/-- One event on the resources held, a release giving back any one of them. -/
def stepAny : Event α → List α → Option (List α)
  | .acquire r, held => some (r :: held)
  | .release r, held => if r ∈ held then some (held.erase r) else none

/-- Replay of a sequence of events whose releases may come in any order; `none` as soon as
one of them is refused. -/
def runAny : List (Event α) → List α → Option (List α)
  | [], held => some held
  | e :: es, held => (stepAny e held).bind (runAny es)

/-- No events leave the resources held as they are. -/
@[simp] theorem runAny_nil (held : List α) : runAny [] held = some held := rfl

/-- An acquisition adds the resource on top. -/
@[simp] theorem runAny_acquire (r : α) (es : List (Event α)) (held : List α) :
    runAny (.acquire r :: es) held = runAny es (r :: held) := rfl

/-- A release of a resource held takes one copy of it away, wherever it is. -/
theorem runAny_release {r : α} {held : List α} (h : r ∈ held) (es : List (Event α)) :
    runAny (.release r :: es) held = runAny es (held.erase r) := by
  simp [runAny, stepAny, h]

/-- Replaying two sequences of events is replaying the first, then the second. -/
theorem runAny_append (es fs : List (Event α)) (held : List α) :
    runAny (es ++ fs) held = (runAny es held).bind (runAny fs) := by
  induction es generalizing held with
  | nil => rfl
  | cons e es ih =>
      simp only [List.cons_append, runAny]
      cases stepAny e held <;> simp [ih]

/-- **A replay in any order counts every resource**, as `run_count` does. -/
theorem runAny_count {es : List (Event α)} {held held' : List α}
    (h : runAny es held = some held') (r : α) :
    held'.count r + es.count (.release r) = held.count r + es.count (.acquire r) := by
  induction es generalizing held with
  | nil => simp_all
  | cons e es ih =>
      cases e with
      | acquire x =>
          have := ih h
          simp only [List.count_cons, beq_iff_eq, Event.acquire.injEq,
            reduceCtorEq, if_false] at this ⊢
          split_ifs at this ⊢ <;> omega
      | release x =>
          by_cases hx : x ∈ held
          · have := ih (by rwa [runAny_release hx] at h)
            have hpos := List.count_pos_iff.mpr hx
            simp only [List.count_cons, List.count_erase, beq_iff_eq, Event.release.injEq,
              reduceCtorEq, if_false] at this ⊢
            split_ifs at this ⊢ <;> subst_vars <;> omega
          · simp [runAny, stepAny, hx] at h

/-- Exactly once, for a replay in any order from nothing back to nothing. -/
theorem runAny_balanced {es : List (Event α)} (h : runAny es [] = some []) (r : α) :
    es.count (.release r) = es.count (.acquire r) := by
  simpa using runAny_count h r

/-- A replay in order is a replay in any order, to the same resources. -/
theorem run_runAny {es : List (Event α)} {held held' : List α} (h : run es held = some held') :
    runAny es held = some held' := by
  induction es generalizing held with
  | nil => exact h
  | cons e es ih =>
      cases e with
      | acquire r => exact ih h
      | release r =>
          cases held with
          | nil => simp at h
          | cons y held =>
              by_cases hy : y = r
              · subst hy
                rw [runAny_release (List.mem_cons_self _ _), List.erase_cons_head]
                exact ih (by simpa using h)
              · simp [run_release_ne hy] at h

end Ledger

end Vb2DmaContig
