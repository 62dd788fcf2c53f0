import Nvrhi.Calls

/-!
# Scissors and vertex buffers as `setGraphicsState` passes them

Each scissor `Rect` becomes
`vk::Rect2D(vk::Offset2D(sc.minX, sc.minY), vk::Extent2D(std::abs(sc.maxX - sc.minX), std::abs(sc.maxY - sc.minY)))`.
The offset is the corner `(minX, minY)` whatever the order of the corners, and the
differences are `int` arithmetic: when one of them, or its absolute value, does not fit in an
`int`, the call has undefined behaviour (`convertScissor_eq_some_iff`).

The vertex-buffer loop writes, for each binding whose slot is below `c_MaxVertexAttributes`,
that slot of two local arrays, and `bindVertexBuffers(0, maxVbIndex + 1, ...)` then passes
every slot from `0` to the largest one written, including the slots no binding wrote
(`vertexBufferArrays_spec`). A null buffer below `c_MaxVertexAttributes` is dereferenced,
and then the loop cannot complete (`vertexBufferArrays_isSome`).

* `setGraphicsState_scissorRects`: the scissors recorded, and when the call completes.
* `setGraphicsState_vertexBuffers`: the entries the vertex-buffer bind passes.
* `setGraphicsState_vertexBuffers_unwritten_slot`: a binding at slot 1 alone passes slot 0
  unwritten.
-/

namespace Nvrhi

open CommandList

/-! ## Scissors -/

/-- `maxX - minX` and `maxY - minY`, and their absolute values, fit in an `int`. -/
def Rect.fitsInt (sc : Rect) : Prop :=
  (-2 ^ 31 < sc.maxX.toInt - sc.minX.toInt ∧ sc.maxX.toInt - sc.minX.toInt < 2 ^ 31) ∧
    (-2 ^ 31 < sc.maxY.toInt - sc.minY.toInt ∧ sc.maxY.toInt - sc.minY.toInt < 2 ^ 31)

instance (sc : Rect) : Decidable sc.fitsInt := inferInstanceAs (Decidable (_ ∧ _))

/-- The `vk::Rect2D` of a scissor whose differences fit in an `int`. -/
def Rect.toRect2D (sc : Rect) : Rect2D :=
  ⟨sc.minX.toInt, sc.minY.toInt, (sc.maxX.toInt - sc.minX.toInt).natAbs,
    (sc.maxY.toInt - sc.minY.toInt).natAbs⟩

theorem convertScissor_eq_some_iff {sc : Rect} {r : Rect2D} :
    convertScissor sc = some r ↔ sc.fitsInt ∧ r = sc.toRect2D := by
  simp only [convertScissor_eq_some, absDiff_eq_some, Rect.fitsInt, Rect.toRect2D]
  constructor
  · rintro ⟨w, h, ⟨hw, rfl⟩, ⟨hh, rfl⟩, rfl⟩
    exact ⟨⟨hw, hh⟩, rfl⟩
  · rintro ⟨⟨hw, hh⟩, rfl⟩
    exact ⟨_, _, ⟨hw, rfl⟩, ⟨hh, rfl⟩, rfl⟩

theorem convertScissor_eq (sc : Rect) :
    convertScissor sc = if sc.fitsInt then some sc.toRect2D else none := by
  split
  · exact convertScissor_eq_some_iff.2 ⟨‹_›, rfl⟩
  · cases hc : convertScissor sc with
    | none => rfl
    | some r => exact absurd (convertScissor_eq_some_iff.1 hc).1 ‹_›

/-- The scissors convert, all of them, exactly when every one fits in an `int`. -/
theorem mapM_convertScissor (scs : List Rect) :
    scs.mapM convertScissor =
      if ∀ sc ∈ scs, sc.fitsInt then some (scs.map Rect.toRect2D) else none := by
  induction scs with
  | nil => rfl
  | cons sc scs ih =>
    rw [List.mapM_cons, convertScissor_eq, ih]
    by_cases hs : ∀ sc ∈ scs, sc.fitsInt
    · by_cases h : sc.fitsInt <;> simp [h, hs, if_pos hs, bind, pure]
    · simp [hs, if_neg hs, bind, pure]

/-- When `setGraphicsState` records scissors, it completes exactly when every scissor fits in
an `int`, and then it records each scissor's offset `(minX, minY)` and extent
`(|maxX - minX|, |maxY - minY|)`. -/
theorem setGraphicsState_scissorRects (dev : Device) (s : GraphicsState) (cl : CommandList)
    (hp : s.pipeline.isSome) (hvb : vertexBuffersValid s.vertexBuffers)
    (hne : s.viewport.scissorRects ≠ [])
    (hdiff : arraysAreDifferent s.viewport.scissorRects
      cl.currentGraphicsState.viewport.scissorRects) :
    ((setGraphicsState dev s cl).isSome ↔ ∀ sc ∈ s.viewport.scissorRects, sc.fitsInt) ∧
      ∀ cl', setGraphicsState dev s cl = some cl' →
        .setScissor (s.viewport.scissorRects.map Rect.toRect2D) ∈
          cl'.cmdBuf.drop cl.cmdBuf.length := by
  have hsc : scissorCommands cl.currentGraphicsState s =
      if ∀ sc ∈ s.viewport.scissorRects, sc.fitsInt then
        some [.setScissor (s.viewport.scissorRects.map Rect.toRect2D)] else none := by
    have hne' : s.viewport.scissorRects.isEmpty = false := List.isEmpty_eq_false.2 hne
    simp only [scissorCommands, hdiff, hne', mapM_convertScissor, Bool.not_false, Bool.and_self,
      if_true, apply_ite (Option.map _), Option.map_some', Option.map_none']
  refine ⟨by
    rw [setGraphicsState_isSome, hsc]; split <;> simp_all [vertexBufferCommands_isSome _ hvb],
    fun cl' h => ?_⟩
  obtain ⟨p, cmds, refs, -, hc, pre, e⟩ := setGraphicsState_records h
  obtain ⟨scissors, _, hs, -, rfl, -⟩ := graphicsStateCommands_eq_some hc
  rw [e, List.append_assoc, List.drop_left]
  rw [hsc] at hs
  split at hs
  · cases hs
    simp
  · cases hs

/-- Inverted corners: the recorded offset is `(minX, minY) = (10, 0)`, not the smaller
corner `(0, 0)`. Corners `2^32 - 1` apart: `maxX - minX` overflows and the call cannot
complete. -/
theorem setGraphicsState_scissor_inverted_overflow :
    (setGraphicsState plainDevice
        { GraphicsState.init with pipeline := some 0, viewport := ⟨[], [⟨10, 0, 0, 0⟩]⟩ }
        (.opened false)).map CommandList.cmdBuf =
      some [.bindPipeline 0, .setScissor [⟨10, 0, 10, 0⟩]] ∧
    setGraphicsState plainDevice
        { GraphicsState.init with
          pipeline := some 0, viewport := ⟨[], [⟨0x80000000, 0x7fffffff, 0, 0⟩]⟩ }
        (.opened false) = none :=
  ⟨rfl, rfl⟩

theorem setGraphicsState_scissorRects_screen :
    ∃ cl, setGraphicsState plainDevice
        { GraphicsState.init with pipeline := some 0, viewport := ⟨[], [⟨0, 640, 0, 480⟩]⟩ }
        (.opened false) = some cl ∧ Command.setScissor [⟨0, 0, 640, 480⟩] ∈ cl.cmdBuf := by
  have h := setGraphicsState_scissorRects plainDevice
    { GraphicsState.init with pipeline := some 0, viewport := ⟨[], [⟨0, 640, 0, 480⟩]⟩ }
    (.opened false) rfl rfl (by simp) rfl
  obtain ⟨cl, hcl⟩ := Option.isSome_iff_exists.mp (h.1.mpr (by decide))
  exact ⟨cl, hcl, List.mem_of_mem_drop (h.2 cl hcl)⟩

/-! ## Vertex buffers -/

/-- The buffer and offset of the last binding of `bindings` with slot `j`, if any and if its
buffer is not null. -/
def lastBinding (bindings : List VertexBufferBinding) (j : Nat) : Option (Handle × UInt64) :=
  (bindings.filter (·.slot.toNat = j)).getLast?.bind fun b => b.buffer.map (·, b.offset)

/-- The largest slot below `c_MaxVertexAttributes` that `bindings` supply, `0` if none. -/
def maxSlot (bindings : List VertexBufferBinding) : Nat :=
  ((bindings.filter (·.slot.toNat < c_MaxVertexAttributes)).map (·.slot.toNat)).foldl max 0

section Slots

variable (bindings : List VertexBufferBinding) (b : VertexBufferBinding)

theorem lastBinding_append_singleton (j : Nat) :
    lastBinding (bindings ++ [b]) j =
      if b.slot.toNat = j then b.buffer.map (·, b.offset) else lastBinding bindings j := by
  unfold lastBinding
  split <;> simp_all [List.filter_append, List.getLast?_append]

theorem maxSlot_append_singleton :
    maxSlot (bindings ++ [b]) = if b.slot.toNat < c_MaxVertexAttributes then
      max (maxSlot bindings) b.slot.toNat else maxSlot bindings := by
  unfold maxSlot
  split <;> simp_all [List.filter_append]

theorem maxSlot_lt : maxSlot bindings < c_MaxVertexAttributes := by
  induction bindings using List.reverseRecOn with
  | nil => decide
  | append_singleton bindings b ih =>
    rw [maxSlot_append_singleton]
    split <;> omega

/-- A slot below `c_MaxVertexAttributes` that a binding supplies is at most `maxSlot`. -/
theorem le_maxSlot {j : Nat} (hj : j < c_MaxVertexAttributes) (h : lastBinding bindings j ≠ none) :
    j ≤ maxSlot bindings := by
  induction bindings using List.reverseRecOn with
  | nil => simp [lastBinding] at h
  | append_singleton bindings b ih =>
    rw [lastBinding_append_singleton] at h
    rw [maxSlot_append_singleton]
    split at h
    · subst j
      simp only [hj, if_true]
      omega
    · have := ih h
      split <;> omega

end Slots

theorem uint32_toNat_max (a b : UInt32) : (max a b).toNat = max a.toNat b.toNat := by
  show (if a ≤ b then b else a).toNat = _
  split <;> rename_i h <;> simp only [UInt32.le_def, BitVec.le_def] at h <;>
    simp only [UInt32.toNat] <;> omega

theorem vertexBufferArrays_append_singleton (bindings : List VertexBufferBinding)
    (b : VertexBufferBinding) :
    vertexBufferArrays (bindings ++ [b]) = (vertexBufferArrays bindings).bind (vertexBufferStep · b) := by
  simp [vertexBufferArrays, List.foldlM_append]

/-- The loop of `setGraphicsState` over the vertex-buffer bindings, when it completes: slot `j`
of the arrays holds the last binding of slot `j`, `maxVbIndex` is the largest slot supplied
below `c_MaxVertexAttributes`, and the buffers of those bindings are referenced in order. -/
theorem vertexBufferArrays_spec {bindings : List VertexBufferBinding} {a : VertexBufferArrays}
    (h : vertexBufferArrays bindings = some a) :
    a.entries = (List.range c_MaxVertexAttributes).map (lastBinding bindings) ∧
      a.maxVbIndex.toNat = maxSlot bindings ∧
      a.referenced =
        (bindings.filter (·.slot.toNat < c_MaxVertexAttributes)).filterMap (·.buffer) := by
  induction bindings using List.reverseRecOn generalizing a with
  | nil => cases h; exact ⟨rfl, rfl, rfl⟩
  | append_singleton bindings b ih =>
    rw [vertexBufferArrays_append_singleton, Option.bind_eq_some] at h
    obtain ⟨a₀, h₀, h⟩ := h
    obtain ⟨he, hm, hr⟩ := ih h₀
    unfold vertexBufferStep at h
    split at h <;> rename_i hslot
    · cases h
      refine ⟨?_, by rw [hm, maxSlot_append_singleton, if_neg (by omega)],
        by simp [hr, List.filter_append, Nat.not_lt.mpr hslot]⟩
      rw [he]
      refine List.map_congr_left fun j hj => ?_
      rw [lastBinding_append_singleton, if_neg]
      simp only [List.mem_range] at hj
      omega
    · obtain ⟨buffer, hb, rfl⟩ := Option.map_eq_some'.1 h
      refine ⟨?_, ?_, by simp [hr, List.filter_append, Nat.not_le.mp hslot, hb]⟩
      · rw [he]
        refine List.ext_getElem? fun j => ?_
        by_cases hj : j < c_MaxVertexAttributes
        · simp only [List.getElem?_set, List.length_map, List.length_range, List.getElem?_map,
            List.getElem?_range hj, Option.map_some', lastBinding_append_singleton, hb]
          by_cases hs : b.slot.toNat = j
          · rw [if_pos hs, if_pos hs, if_pos (by omega)]
          · rw [if_neg hs, if_neg hs]
        · rw [List.getElem?_eq_none (by simp; omega), List.getElem?_eq_none (by simp; omega)]
      · rw [uint32_toNat_max, hm, maxSlot_append_singleton, if_pos (by omega)]

/-- The entries `bindVertexBuffers` passes: slots `0` to `maxSlot`, each with its last binding
or, where no binding wrote, `none`. -/
theorem vertexBufferArrays_bound {bindings : List VertexBufferBinding} {a : VertexBufferArrays}
    (h : vertexBufferArrays bindings = some a) :
    a.bound = (List.range (maxSlot bindings + 1)).map (lastBinding bindings) := by
  obtain ⟨he, hm, -⟩ := vertexBufferArrays_spec h
  have hlt := maxSlot_lt bindings
  have hsucc : (a.maxVbIndex + 1).toNat = maxSlot bindings + 1 := by
    have h1 : (1 : UInt32).toNat = 1 := rfl
    rw [UInt32.toNat_add, hm, h1]
    unfold c_MaxVertexAttributes at hlt
    exact Nat.mod_eq_of_lt (by unfold UInt32.size; omega)
  rw [VertexBufferArrays.bound, hsucc, he, ← List.map_take, List.take_range,
    min_eq_left (by omega)]

/-- When `setGraphicsState` records vertex buffers, the bind passes slots `0` to `maxSlot`,
each with the buffer and offset of its last binding or, where no binding wrote, `none`. -/
theorem setGraphicsState_vertexBuffers {dev : Device} {s : GraphicsState} {cl cl' : CommandList}
    (h : setGraphicsState dev s cl = some cl') (hne : s.vertexBuffers ≠ [])
    (hdiff : arraysAreDifferent s.vertexBuffers cl.currentGraphicsState.vertexBuffers) :
    .bindVertexBuffers ((List.range (maxSlot s.vertexBuffers + 1)).map
      (lastBinding s.vertexBuffers)) ∈ cl'.cmdBuf.drop cl.cmdBuf.length := by
  obtain ⟨p, cmds, refs, -, hc, pre, e⟩ := setGraphicsState_records h
  obtain ⟨scissors, vb, -, hv, rfl, -⟩ := graphicsStateCommands_eq_some hc
  have hne' : s.vertexBuffers.isEmpty = false := List.isEmpty_eq_false.2 hne
  simp only [vertexBufferCommands, hne', hdiff, Bool.not_false, Bool.and_self, if_true] at hv
  obtain ⟨a, ha, rfl⟩ := Option.map_eq_some'.1 hv
  rw [e, List.append_assoc, List.drop_left, ← vertexBufferArrays_bound ha]
  simp

/-- Slot 1 bound twice and slot 20 skipped: the last binding of slot 1 is passed. A null
buffer at slot 0 is dereferenced: the call cannot complete. -/
example :
    (setGraphicsState plainDevice { GraphicsState.init with
        pipeline := some 0, vertexBuffers := [⟨some 7, 1, 0⟩, ⟨none, 20, 0⟩, ⟨some 9, 1, 16⟩] }
        (.opened false)).map CommandList.cmdBuf =
      some [.bindPipeline 0, .bindVertexBuffers [none, some (9, 16)]] ∧
    setGraphicsState plainDevice
        { GraphicsState.init with pipeline := some 0, vertexBuffers := [⟨none, 0, 0⟩] }
        (.opened false) = none :=
  ⟨rfl, rfl⟩

/-- One binding, at slot 1: the bind passes slot 0 too, which no binding wrote. -/
theorem setGraphicsState_vertexBuffers_unwritten_slot :
    ∃ cl, run plainDevice (.opened false) [.setGraphicsState
        { GraphicsState.init with pipeline := some 0, vertexBuffers := [⟨some 7, 1, 0⟩] }] =
        some cl ∧
      cl.cmdBuf = [.bindPipeline 0, .bindVertexBuffers [none, some (7, 0)]] :=
  ⟨_, rfl, rfl⟩

end Nvrhi
