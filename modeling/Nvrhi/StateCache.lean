import Nvrhi.Conversions

/-!
# The graphics-state cache

`setGraphicsState` records a command only for what differs from `m_CurrentGraphicsState`, so
the cache has to say what the Vulkan command buffer holds. `CacheSound` relates the cache to
the replay of the recorded commands (`Driver.replay`): the bound pipeline, viewports,
scissors, stencil reference, blend constants, index buffer and vertex buffers are the
cache's, and the descriptor sets are its binding sets at the current volatile version unless
a volatile buffer was written since they were bound. Every call keeps it
(`CacheSound.step`).

Floats are compared with `==`, so a cached `+0.0` stands for a requested `-0.0`: the driver
may hold a value that only compares equal to the requested one (`Same`).

* `cache_sound_at_draw`: each draw executes with the state of the last `setGraphicsState`.
* `cache_keeps_positive_zero`: a `-0.0` viewport requested after a `+0.0` one is not recorded.
-/

namespace Nvrhi

open CommandList

/-! ## What the state-setting commands set -/

section Segments

variable (ps : Handle → GraphicsPipeline) (d : Driver) (cache state : GraphicsState)

theorem foldl_exec_bindingSetCommands (cl : CommandList) :
    (bindingSetCommands cl state).foldl (Driver.exec ps) d = { d with
      descriptorSets := if arraysAreDifferent cl.currentGraphicsState.bindings state.bindings ||
          cl.anyVolatileBufferWrites then
        overwrite (state.bindings.map fun b => (b, cl.volatileVersion)) d.descriptorSets
      else d.descriptorSets } := by
  unfold bindingSetCommands bindBindingSets
  split <;> rfl

theorem foldl_exec_viewportCommands :
    (viewportCommands cache state).foldl (Driver.exec ps) d = { d with
      viewports := if !state.viewport.viewports.isEmpty &&
          arraysAreDifferent state.viewport.viewports cache.viewport.viewports then
        overwrite state.viewport.viewports d.viewports
      else d.viewports } := by
  unfold viewportCommands
  split <;> rfl

theorem foldl_exec_scissorCommands {scissors : List Command}
    (h : scissorCommands cache state = some scissors) :
    scissors.foldl (Driver.exec ps) d = { d with
      scissors := if !state.viewport.scissorRects.isEmpty &&
          arraysAreDifferent state.viewport.scissorRects cache.viewport.scissorRects then
        overwrite (state.viewport.scissorRects.map Rect.toRect2D) d.scissors
      else d.scissors } := by
  unfold scissorCommands at h
  rw [mapM_convertScissor] at h
  split at h
  · rename_i hc
    split at h
    · cases h
      simp only [hc, if_true]
      rfl
    · cases h
  · rename_i hc
    cases h
    simp only [hc]
    rfl

theorem foldl_exec_stencilRefCommands (pso : GraphicsPipeline) (updatePipeline : Bool) :
    (stencilRefCommands pso updatePipeline cache state).foldl (Driver.exec ps) d = { d with
      stencilReference := if pso.desc.renderState.depthStencilState.dynamicStencilRef &&
          (updatePipeline || cache.dynamicStencilRefValue != state.dynamicStencilRefValue) then
        some state.dynamicStencilRefValue
      else d.stencilReference } := by
  unfold stencilRefCommands
  split <;> rfl

theorem foldl_exec_blendConstantCommands (pso : GraphicsPipeline) (updatePipeline : Bool) :
    (blendConstantCommands pso updatePipeline cache state).foldl (Driver.exec ps) d = { d with
      blendConstants := if pso.usesBlendConstants &&
          (updatePipeline || cache.blendConstantColor != state.blendConstantColor) then
        some state.blendConstantColor
      else d.blendConstants } := by
  unfold blendConstantCommands
  split <;> rfl

theorem foldl_exec_indexBufferCommands :
    (indexBufferCommands cache state).1.foldl (Driver.exec ps) d = { d with
      indexBuffer := match state.indexBuffer.buffer with
        | some b => if cache.indexBuffer != state.indexBuffer then
            some (b, state.indexBuffer.offset, indexType state.indexBuffer.format)
          else d.indexBuffer
        | none => d.indexBuffer } := by
  rcases hb : state.indexBuffer.buffer with _ | b <;> simp only [indexBufferCommands, hb]
  · rfl
  · split <;> rfl

theorem foldl_exec_vertexBufferCommands {vb : List Command × List Handle}
    (h : vertexBufferCommands cache state = some vb) :
    vb.1.foldl (Driver.exec ps) d = { d with
      vertexBuffers := if !state.vertexBuffers.isEmpty &&
          arraysAreDifferent state.vertexBuffers cache.vertexBuffers then
        overwrite ((List.range (maxSlot state.vertexBuffers + 1)).map
          (lastBinding state.vertexBuffers)) d.vertexBuffers
      else d.vertexBuffers } := by
  unfold vertexBufferCommands at h
  split at h
  · obtain ⟨a, ha, rfl⟩ := Option.map_eq_some'.1 h
    simp_all [vertexBufferArrays_bound ha, Driver.exec]
  · cases h; rw [if_neg ‹_›]; rfl

theorem foldl_exec_shadingRateCommands :
    (shadingRateCommands state).foldl (Driver.exec ps) d = d := by
  unfold shadingRateCommands
  split <;> rfl

end Segments

/-- The prologue changes the state a draw reads only by binding the pipeline, when it
changed. -/
theorem replay_prologue (dev : Device) (state : GraphicsState) (p : Handle) (cl : CommandList) :
    Driver.replay dev.graphicsPipeline (setGraphicsStatePrologue dev state p cl).cmdBuf =
      if cl.currentGraphicsState.pipeline != state.pipeline then
        (Driver.replay dev.graphicsPipeline cl.cmdBuf).exec dev.graphicsPipeline (.bindPipeline p)
      else Driver.replay dev.graphicsPipeline cl.cmdBuf := by
  obtain ⟨rest, e, hrest⟩ := prologue_cmdBuf dev state p cl
  rw [e, Driver.replay_append, List.foldl_append, Driver.foldl_exec_of_forall
    fun c hc => Command.exec_of_isPassOrBarrier (hrest c hc) _]
  split <;> rfl

/-- The state a draw reads after `setGraphicsState`: the pipeline bound when it changed, then
each state the call compared and found changed. -/
theorem replay_setGraphicsState {dev : Device} {s : GraphicsState} {cl cl' : CommandList}
    (h : setGraphicsState dev s cl = some cl') :
    ∃ p, s.pipeline = some p ∧
      let cache := cl.currentGraphicsState
      let pso := dev.graphicsPipeline p
      let updatePipeline := cache.pipeline != s.pipeline
      let d₀ := Driver.replay dev.graphicsPipeline cl.cmdBuf
      let d := if updatePipeline then d₀.exec dev.graphicsPipeline (.bindPipeline p) else d₀
      Driver.replay dev.graphicsPipeline cl'.cmdBuf = { d with
        descriptorSets := if arraysAreDifferent cache.bindings s.bindings ||
            cl.anyVolatileBufferWrites then
          overwrite (s.bindings.map fun b => (b, cl.volatileVersion)) d.descriptorSets
        else d.descriptorSets
        viewports := if !s.viewport.viewports.isEmpty &&
            arraysAreDifferent s.viewport.viewports cache.viewport.viewports then
          overwrite s.viewport.viewports d.viewports
        else d.viewports
        scissors := if !s.viewport.scissorRects.isEmpty &&
            arraysAreDifferent s.viewport.scissorRects cache.viewport.scissorRects then
          overwrite (s.viewport.scissorRects.map Rect.toRect2D) d.scissors
        else d.scissors
        stencilReference := if pso.desc.renderState.depthStencilState.dynamicStencilRef &&
            (updatePipeline || cache.dynamicStencilRefValue != s.dynamicStencilRefValue) then
          some s.dynamicStencilRefValue
        else d.stencilReference
        blendConstants := if pso.usesBlendConstants &&
            (updatePipeline || cache.blendConstantColor != s.blendConstantColor) then
          some s.blendConstantColor
        else d.blendConstants
        indexBuffer := match s.indexBuffer.buffer with
          | some b => if cache.indexBuffer != s.indexBuffer then
              some (b, s.indexBuffer.offset, indexType s.indexBuffer.format)
            else d.indexBuffer
          | none => d.indexBuffer
        vertexBuffers := if !s.vertexBuffers.isEmpty &&
            arraysAreDifferent s.vertexBuffers cache.vertexBuffers then
          overwrite ((List.range (maxSlot s.vertexBuffers + 1)).map
            (lastBinding s.vertexBuffers)) d.vertexBuffers
        else d.vertexBuffers } := by
  obtain ⟨p, cmds, refs, hp, hc, rfl⟩ := setGraphicsState_eq_some h
  obtain ⟨scissors, vb, hs, hv, rfl, -⟩ := graphicsStateCommands_eq_some hc
  refine ⟨p, hp, ?_⟩
  simp only [emit_cmdBuf, Driver.replay_append, replay_prologue, List.foldl_append,
    foldl_exec_bindingSetCommands, foldl_exec_viewportCommands, foldl_exec_scissorCommands _ _ _ _ hs,
    foldl_exec_stencilRefCommands, foldl_exec_blendConstantCommands,
    foldl_exec_indexBufferCommands, foldl_exec_vertexBufferCommands _ _ _ _ hv,
    foldl_exec_shadingRateCommands]

/-! ## The cache is sound -/

/-- The state `d` a draw reads agrees with the graphics state `s`, descriptor sets apart:
the pipeline is bound; the first viewports are `s`'s, up to `==`; the first scissors are
`s`'s, converted; the dynamic stencil reference and blend constants are set when the
pipeline uses them; the index buffer is bound when `s` has one; and each vertex slot `s`
supplies holds its last binding. -/
structure Agrees (pipelines : Handle → GraphicsPipeline) (s : GraphicsState) (d : Driver) :
    Prop where
  pipeline : ∀ p, s.pipeline = some p → d.pipeline = some p
  viewports : List.Forall₂ Same (d.viewports.take s.viewport.viewports.length)
    s.viewport.viewports
  scissors : d.scissors.take s.viewport.scissorRects.length =
    s.viewport.scissorRects.map Rect.toRect2D
  stencilReference : ∀ p, s.pipeline = some p →
    (pipelines p).desc.renderState.depthStencilState.dynamicStencilRef →
      d.stencilReference = some s.dynamicStencilRefValue
  blendConstants : ∀ p, s.pipeline = some p → (pipelines p).usesBlendConstants →
    ∃ c, d.blendConstants = some c ∧ Same c s.blendConstantColor
  indexBuffer : ∀ b, s.indexBuffer.buffer = some b →
    d.indexBuffer = some (b, s.indexBuffer.offset, indexType s.indexBuffer.format)
  vertexBuffers : ∀ j < c_MaxVertexAttributes, ∀ e, lastBinding s.vertexBuffers j = some e →
    d.vertexBuffers[j]? = some (some e)

/-- The descriptor sets bound from index `0` are `bindings`, each at volatile version `v`. -/
def SetsBound (d : Driver) (bindings : List Handle) (v : Nat) : Prop :=
  d.descriptorSets.take bindings.length = bindings.map fun b => (b, v)

/-- The cache says what the recorded commands set; the binding sets are bound at the current
volatile version unless a volatile buffer was written since. -/
structure CacheSound (dev : Device) (cl : CommandList) : Prop where
  agrees : Agrees dev.graphicsPipeline cl.currentGraphicsState
    (Driver.replay dev.graphicsPipeline cl.cmdBuf)
  sets : cl.anyVolatileBufferWrites = false →
    SetsBound (Driver.replay dev.graphicsPipeline cl.cmdBuf) cl.currentGraphicsState.bindings
      cl.volatileVersion

theorem Agrees.descriptorSets {ps : Handle → GraphicsPipeline} {s : GraphicsState} {d : Driver}
    (sets : List (Handle × Nat)) : Agrees ps s { d with descriptorSets := sets } ↔ Agrees ps s d :=
  ⟨fun h => ⟨h.1, h.2, h.3, h.4, h.5, h.6, h.7⟩, fun h => ⟨h.1, h.2, h.3, h.4, h.5, h.6, h.7⟩⟩

theorem Agrees.framebuffer {ps : Handle → GraphicsPipeline} {s : GraphicsState} {d : Driver}
    (f : Option Handle) : Agrees ps { s with framebuffer := f } d ↔ Agrees ps s d :=
  ⟨fun h => ⟨h.1, h.2, h.3, h.4, h.5, h.6, h.7⟩, fun h => ⟨h.1, h.2, h.3, h.4, h.5, h.6, h.7⟩⟩

theorem getElem?_overwrite {α : Type} {new old : List α} {j : Nat} (h : j < new.length) :
    (overwrite new old)[j]? = new[j]? :=
  List.getElem?_append_left h

theorem take_overwrite_map {α β : Type} (f : α → β) (xs : List α) (old : List β) :
    (overwrite (xs.map f) old).take xs.length = xs.map f := by
  simpa using take_overwrite (xs.map f) old

/-- A driver value the same as a cached viewport is the same as a requested one that compares
equal to it. -/
theorem forall₂_same_of_beq {ds cached requested : List Viewport}
    (h : List.Forall₂ Same ds cached)
    (h' : List.Forall₂ (fun x y => (x == y) = true) requested cached) :
    List.Forall₂ Same ds requested := by
  induction h generalizing requested with
  | nil => cases h'; exact .nil
  | cons hd _ ih =>
    cases h' with
    | cons hr h' => exact .cons (Viewport.same_of_beq hd (Viewport.beq_symm hr)) (ih h')

/-! ### Each state, after `setGraphicsState` -/

section After

variable {α : Type}

/-- The viewports after `setGraphicsState`: set when given and changed, otherwise the same as
the cached ones, which compare equal. -/
theorem viewports_after {cached requested vp : List Viewport}
    (h : List.Forall₂ Same (vp.take cached.length) cached) :
    List.Forall₂ Same ((if !requested.isEmpty && arraysAreDifferent requested cached then
      overwrite requested vp else vp).take requested.length) requested := by
  split
  · rw [take_overwrite]
    exact List.forall₂_same.2 fun x _ => Same.refl x
  · rename_i hc
    rcases eq_or_ne requested [] with rfl | hne
    · exact .nil
    · have hr := arraysAreDifferent_eq_false.1 (by simpa [hne] using hc)
      rw [hr.length_eq]
      exact forall₂_same_of_beq h hr

theorem scissors_after {cached requested : List Rect} {sc : List Rect2D}
    (h : sc.take cached.length = cached.map Rect.toRect2D) :
    (if !requested.isEmpty && arraysAreDifferent requested cached then
      overwrite (requested.map Rect.toRect2D) sc else sc).take requested.length =
        requested.map Rect.toRect2D := by
  split
  · exact take_overwrite_map _ _ _
  · rename_i hc
    rcases eq_or_ne requested [] with rfl | hne
    · simp
    · obtain rfl := arraysAreDifferent_eq_false_iff.1 (by simpa [hne] using hc)
      exact h

theorem vertexBuffers_after {cached requested : List VertexBufferBinding}
    {vb : List (Option (Handle × UInt64))}
    (h : ∀ j < c_MaxVertexAttributes, ∀ e, lastBinding cached j = some e →
      vb[j]? = some (some e)) :
    ∀ j < c_MaxVertexAttributes, ∀ e, lastBinding requested j = some e →
      (if !requested.isEmpty && arraysAreDifferent requested cached then
        overwrite ((List.range (maxSlot requested + 1)).map (lastBinding requested)) vb
      else vb)[j]? = some (some e) := by
  intro j hj e he
  split
  · have hle := le_maxSlot requested hj (by simp [he])
    rw [getElem?_overwrite (by simpa using Nat.lt_succ_of_le hle), List.getElem?_map,
      List.getElem?_range (Nat.lt_succ_of_le hle), Option.map_some', he]
  · rename_i hc
    rcases eq_or_ne requested [] with rfl | hne
    · simp [lastBinding] at he
    · obtain rfl := arraysAreDifferent_eq_false_iff.1 (by simpa [hne] using hc)
      exact h j hj e he

theorem sets_after {cached requested : List Handle} {ds : List (Handle × Nat)} {v : Nat}
    {anyVolatileBufferWrites : Bool}
    (h : anyVolatileBufferWrites = false → ds.take cached.length = cached.map fun b => (b, v)) :
    (if arraysAreDifferent cached requested || anyVolatileBufferWrites then
      overwrite (requested.map fun b => (b, v)) ds else ds).take requested.length =
        requested.map fun b => (b, v) := by
  split
  · exact take_overwrite_map _ _ _
  · rename_i hc
    simp only [Bool.or_eq_true, not_or, Bool.not_eq_true] at hc
    obtain rfl := arraysAreDifferent_eq_false_iff.1 hc.1
    exact h hc.2

end After

namespace CacheSound

variable {dev : Device} {cl cl' : CommandList}

theorem setGraphicsState {s : GraphicsState} (hc : CacheSound dev cl)
    (h : setGraphicsState dev s cl = some cl') : CacheSound dev cl' := by
  obtain ⟨p, hp, hd⟩ := replay_setGraphicsState h
  obtain ⟨_, _, _, _, _, hcl⟩ := setGraphicsState_eq_some h
  have hcache : cl'.currentGraphicsState = s := by rw [hcl]
  have hver : cl'.volatileVersion = cl.volatileVersion := by rw [hcl]; simp
  dsimp only at hd
  have hA := hc.agrees
  set d₀ := Driver.replay dev.graphicsPipeline cl.cmdBuf
  set d := if (cl.currentGraphicsState.pipeline != s.pipeline) = true then
    d₀.exec dev.graphicsPipeline (.bindPipeline p) else d₀ with hd_def
  have hkeep : d.descriptorSets = d₀.descriptorSets ∧ d.viewports = d₀.viewports ∧
      d.scissors = d₀.scissors ∧ d.indexBuffer = d₀.indexBuffer ∧
      d.vertexBuffers = d₀.vertexBuffers := by
    rw [hd_def]
    split <;> exact ⟨rfl, rfl, rfl, rfl, rfl⟩
  obtain ⟨hds, hvp, hsc, hib, hvb⟩ := hkeep
  -- with the pipeline unchanged nothing was bound, and the cache held the same pipeline
  have hsame : cl.currentGraphicsState.pipeline = s.pipeline →
      d = d₀ ∧ cl.currentGraphicsState.pipeline = some p := fun hu =>
    ⟨if_neg (by simp [hu]), hu.trans hp⟩
  constructor
  · rw [hcache, hd]
    refine ⟨fun q hq => ?_, ?_, ?_, fun q hq hdyn => ?_, fun q hq huses => ?_, fun b hb => ?_, ?_⟩ <;>
      dsimp only
    · cases hp.symm.trans hq
      by_cases hu : cl.currentGraphicsState.pipeline = s.pipeline
      · rw [(hsame hu).1]; exact hA.pipeline p (hsame hu).2
      · rw [hd_def, if_pos (by simpa using hu)]; rfl
    · rw [hvp]; exact viewports_after hA.viewports
    · rw [hsc]; exact scissors_after hA.scissors
    · cases hp.symm.trans hq
      split
      · rfl
      · rename_i hn
        simp only [hdyn, Bool.true_and, Bool.or_eq_true, not_or, Bool.not_eq_true, bne_eq_false_iff_eq] at hn
        rw [(hsame hn.1).1, ← hn.2]
        exact hA.stencilReference p (hsame hn.1).2 hdyn
    · cases hp.symm.trans hq
      split
      · exact ⟨_, rfl, Same.refl _⟩
      · rename_i hn
        simp only [huses, Bool.true_and, Bool.or_eq_true, not_or, Bool.not_eq_true,
          bne_eq_false_iff_eq] at hn
        obtain ⟨c, hc', hsame'⟩ := hA.blendConstants p (hsame hn.1).2 huses
        rw [(hsame hn.1).1]
        exact ⟨c, hc', Color.same_of_beq hsame' (by simpa [bne] using hn.2)⟩
    · simp only [hb]
      split
      · rfl
      · rename_i hn
        simp only [bne_iff_ne, ne_eq, Decidable.not_not] at hn
        rw [hib, ← hn]
        exact hA.indexBuffer b (hn ▸ hb)
    · rw [hvb]; exact vertexBuffers_after hA.vertexBuffers
  · intro _
    rw [hcache, hd, hver]
    dsimp only [SetsBound]
    rw [hds]
    exact sets_after hc.sets

/-- Commands that leave the state a draw reads as it is, with the cache changed only in its
framebuffer, keep the cache sound. -/
theorem of_append (hc : CacheSound dev cl) {more : List Command}
    (he : cl'.cmdBuf = cl.cmdBuf ++ more)
    (hmore : ∀ c ∈ more, ∀ d : Driver, d.exec dev.graphicsPipeline c = d)
    (hcache : ∃ f, cl'.currentGraphicsState = { cl.currentGraphicsState with framebuffer := f })
    (hv : cl'.volatileVersion = cl.volatileVersion)
    (ha : cl'.anyVolatileBufferWrites = cl.anyVolatileBufferWrites) : CacheSound dev cl' := by
  obtain ⟨f, hf⟩ := hcache
  have hr : Driver.replay dev.graphicsPipeline cl'.cmdBuf =
      Driver.replay dev.graphicsPipeline cl.cmdBuf := by
    rw [he, Driver.replay_append, Driver.foldl_exec_of_forall hmore]
  refine ⟨?_, fun h => ?_⟩
  · rw [hr, hf, Agrees.framebuffer]
    exact hc.agrees
  · rw [hr, hf, hv]
    exact hc.sets (ha ▸ h)

theorem endRenderPass (hc : CacheSound dev cl) : CacheSound dev (endRenderPass cl) :=
  hc.of_append (endRenderPass_cmdBuf cl)
    (fun c hc' => by
      split at hc' <;> simp_all [Command.exec_of_isPassOrBarrier, Command.isPassOrBarrier])
    ⟨none, endRenderPass_currentGraphicsState cl⟩ (by simp) (by simp)

theorem beginRenderPass (fb : Option Handle) (hc : CacheSound dev cl) :
    CacheSound dev (beginRenderPass fb cl) :=
  hc.endRenderPass.of_append (beginRenderPass_cmdBuf cl fb)
    (fun c hc' => by
      obtain ⟨f, -, rfl⟩ := List.mem_map.1 hc'
      exact fun _ => rfl)
    ⟨fb, by simp⟩ (by simp) (by simp)

/-- Rebinding the binding sets after a volatile-buffer write binds them at the current
version. -/
theorem updateGraphicsVolatileBuffers (hc : CacheSound dev cl) :
    CacheSound dev (updateGraphicsVolatileBuffers cl) := by
  unfold Nvrhi.updateGraphicsVolatileBuffers
  split
  · refine ⟨?_, fun _ => ?_⟩ <;>
      simp only [emit_cmdBuf, Driver.replay_append, bindBindingSets, List.foldl_cons,
        List.foldl_nil, Driver.exec, emit_currentGraphicsState, emit_volatileVersion]
    · exact (Agrees.descriptorSets _).2 hc.agrees
    · exact take_overwrite_map _ _ _
  · exact hc

theorem step {op : Op} (hc : CacheSound dev cl) (hs : step dev cl op = some cl') :
    CacheSound dev cl' := by
  rcases step_eq_some hs with ⟨s, -, hs⟩ | ⟨-, c, hc', rfl⟩ | ⟨fb, -, rfl⟩ | ⟨-, rfl⟩ | ⟨-, rfl⟩ |
    ⟨b, s, -, rfl⟩
  · exact hc.setGraphicsState hs
  · exact hc.updateGraphicsVolatileBuffers.of_append rfl
      (fun c' h' => by rw [List.mem_singleton.1 h']; exact Command.exec_of_isDraw hc' _)
      ⟨_, (GraphicsState.framebuffer_update_self rfl).symm⟩ rfl rfl
  · exact hc.beginRenderPass fb
  · exact hc.endRenderPass
  · exact ⟨hc.agrees, fun h => nomatch h⟩
  · exact ⟨hc.agrees, hc.sets⟩

end CacheSound

theorem opened_cacheSound (dev : Device) (enable : Bool) :
    CacheSound dev (CommandList.opened enable) := by
  refine ⟨⟨?_, .nil, rfl, ?_, ?_, ?_, ?_⟩, fun _ => rfl⟩ <;> intros <;>
    simp_all [CommandList.opened, GraphicsState.init, lastBinding]

/-! ## At every draw -/

/-- Each draw executes with the state of the last `setGraphicsState`: from an opened command
list, after any calls, `setGraphicsState s`, then calls other than `setGraphicsState`, a draw
records its command after commands `cmds` whose replay agrees with `s` and binds `s`'s
binding sets at the current volatile version, which counts every volatile-buffer write made
before the draw. -/
theorem cache_sound_at_draw (dev : Device) (enable : Bool) (pre mid : List Op)
    (s : GraphicsState) (op : Op) (cl cl' : CommandList)
    (hrun : run dev (CommandList.opened enable) (pre ++ .setGraphicsState s :: mid) = some cl)
    (hmid : ∀ o ∈ mid, ∀ s', o ≠ .setGraphicsState s')
    (hop : op.isDraw) (hdraw : step dev cl op = some cl') :
    ∃ cmds c, cl'.cmdBuf = cmds ++ [c] ∧ c.isDraw ∧
      Agrees dev.graphicsPipeline s (Driver.replay dev.graphicsPipeline cmds) ∧
      SetsBound (Driver.replay dev.graphicsPipeline cmds) s.bindings cl'.volatileVersion := by
  have hsound := run_invariant dev (CacheSound dev) (fun _ _ _ h hs => h.step hs)
    (opened_cacheSound dev enable) hrun
  rw [run_append] at hrun
  obtain ⟨cl₀, -, hrun⟩ := Option.bind_eq_some.1 hrun
  obtain ⟨cl₁, h₁, hrun⟩ := Option.bind_eq_some.1 hrun
  obtain ⟨p, _, _, hp, _, hcl₁⟩ := setGraphicsState_eq_some h₁
  obtain ⟨f, hf⟩ := run_invariant_on dev
    (fun x => ∃ f, x.currentGraphicsState = { s with framebuffer := f })
    (fun o => ∀ s', o ≠ .setGraphicsState s')
    (fun _ _ _ hq ⟨f, hf⟩ hs => by
      obtain ⟨f', hf'⟩ := step_currentGraphicsState hs hq
      exact ⟨f', by rw [hf', hf]⟩)
    hmid ⟨s.framebuffer, by rw [hcl₁]⟩ hrun
  obtain ⟨c, hc, rfl⟩ := step_of_isDraw cl hop hdraw
  have hu := hsound.updateGraphicsVolatileBuffers
  have hav : (updateGraphicsVolatileBuffers cl).anyVolatileBufferWrites = false := by
    simp [hf, hp]
  refine ⟨_, c, rfl, hc, ?_, ?_⟩
  · have := hu.agrees
    rwa [updateGraphicsVolatileBuffers_currentGraphicsState, hf, Agrees.framebuffer] at this
  · have := hu.sets hav
    rw [updateGraphicsVolatileBuffers_currentGraphicsState, hf,
      updateGraphicsVolatileBuffers_volatileVersion] at this
    rw [emit_volatileVersion, updateGraphicsVolatileBuffers_volatileVersion]
    exact this

/-- The first draw after `setGraphicsState` with pipeline 0 on an opened command list
executes with pipeline 0 bound. -/
theorem cache_sound_at_draw_first :
    ∃ cl cl', run plainDevice (.opened false)
        [.setGraphicsState { GraphicsState.init with pipeline := some 0 }] = some cl ∧
      step plainDevice cl (.draw ⟨3, 1, 0, 0, 0⟩) = some cl' ∧
      ∃ cmds c, cl'.cmdBuf = cmds ++ [c] ∧
        Agrees plainDevice.graphicsPipeline { GraphicsState.init with pipeline := some 0 }
          (Driver.replay plainDevice.graphicsPipeline cmds) := by
  obtain ⟨cl, hrun⟩ : ∃ cl, run plainDevice (.opened false)
      [.setGraphicsState { GraphicsState.init with pipeline := some 0 }] = some cl :=
    exists_run_of_readyRun plainDevice (by rfl)
  obtain ⟨cl', hdraw⟩ : ∃ cl', step plainDevice cl (.draw ⟨3, 1, 0, 0, 0⟩) = some cl' :=
    exists_step_of_ready (by rfl)
  obtain ⟨cmds, c, hcmds, -, hag, -⟩ := cache_sound_at_draw plainDevice false [] [] _
    (.draw ⟨3, 1, 0, 0, 0⟩) cl cl' hrun (by simp) rfl hdraw
  exact ⟨cl, cl', hrun, hdraw, cmds, c, hcmds, hag⟩

/-- A viewport at `+0.0`, then one whose `minX` is `-0.0`: they compare equal, so the second
is not recorded and the draw executes with the first, which differs from it. -/
theorem cache_keeps_positive_zero :
    (run plainDevice (.opened false)
      [.setGraphicsState { GraphicsState.init with pipeline := some 0, viewport :=
          ⟨[⟨.posZero, .posZero, .posZero, .posZero, .posZero, .posZero⟩], []⟩ },
        .setGraphicsState { GraphicsState.init with pipeline := some 0, viewport :=
          ⟨[⟨.negZero, .posZero, .posZero, .posZero, .posZero, .posZero⟩], []⟩ },
        .draw ⟨3, 1, 0, 0, 0⟩]).map CommandList.cmdBuf =
      some [.bindPipeline 0, .setViewport [⟨.posZero, .posZero, .posZero, .posZero, .posZero, .posZero⟩],
        .draw ⟨3, 1, 0, 0, 0⟩] ∧
    (Driver.replay plainDevice.graphicsPipeline [.bindPipeline 0,
        .setViewport [⟨.posZero, .posZero, .posZero, .posZero, .posZero, .posZero⟩]]).viewports ≠
      [⟨.negZero, .posZero, .posZero, .posZero, .posZero, .posZero⟩] :=
  ⟨rfl, by decide⟩

end Nvrhi
