import Nvrhi.Calls

/-!
# Setting the same graphics state again

`setGraphicsState` compares the requested state with the cache before it records, so a
second call with the state just set finds almost everything unchanged. What it still
records:

* the fragment shading rate, whenever the state enables it: that command is not compared
  with the cache;
* a viewport or a blend color with a NaN member: they are compared with float `==`, under
  which a NaN differs from itself;
* the barriers the state tracker adds during the second call, with the end and restart of
  the render pass they force.

* `setGraphicsState_settled`: what a completed call leaves behind.
* `setGraphicsState_repeat`: without NaNs and new barriers, the second call records the
  shading rate only and keeps the cache.
* `shadingRate_recorded_again`: the shading rate is recorded again.
-/

namespace Nvrhi

open CommandList

/-- What a completed `setGraphicsState state` leaves behind. -/
structure Settled (state : GraphicsState) (cl : CommandList) : Prop where
  /-- The cache is the state just set. -/
  cache : cl.currentGraphicsState = state
  /-- No meshlet render pass is open. -/
  meshlet : cl.currentMeshletFramebuffer = none
  /-- No volatile-buffer write waits for a rebind. -/
  noVolatileWrites : cl.anyVolatileBufferWrites = false
  /-- The barriers have been committed. -/
  noPendingBarriers : cl.stateTracker.pendingBarriers = []

section Repeat

variable {dev : Device} {state : GraphicsState} {cl cl' : CommandList}

theorem setGraphicsState_settled (h : setGraphicsState dev state cl = some cl') :
    Settled state cl' := by
  obtain ⟨p, cmds, refs, _, _, rfl⟩ := setGraphicsState_eq_some h
  exact ⟨rfl, rfl, rfl, by simp⟩

/-- On a settled command list the prologue only tracks, when tracking adds no barrier: the
pipeline and framebuffer are the cached ones, nothing is committed, and a render pass that
is closed stays closed because the state has no framebuffer. -/
theorem prologue_of_settled (p : Handle) (hs : Settled state cl)
    (hb : (trackIfEnabled dev state cl).stateTracker.pendingBarriers = []) :
    setGraphicsStatePrologue dev state p cl = trackIfEnabled dev state cl := by
  simp only [setGraphicsStatePrologue]
  set t := trackIfEnabled dev state cl with ht
  have hcache : t.currentGraphicsState = state := by rw [ht, trackIfEnabled_currentGraphicsState, hs.cache]
  have hcommit : commitBarriers t = t := by simp [commitBarriers, hb]
  simp only [anyBarriers, hb, hcache, hcommit, bne_self_eq_false, List.isEmpty_nil, Bool.not_true,
    Bool.or_false, Bool.false_eq_true, if_false]
  cases hf : state.framebuffer with
  | some f => rfl
  | none =>
    have hclosed : t.openFramebuffer = none := by
      simp [openFramebuffer, ht, hs.cache, hs.meshlet, hf]
    simp [beginRenderPass, endRenderPass_of_closed hclosed]

/-- Against a cache holding the state itself, with no volatile write outstanding, the
state-setting commands are the shading rate only, provided `==` finds each viewport and the
blend color, when the pipeline uses it, equal to itself. -/
theorem graphicsStateCommands_of_cache (pso : GraphicsPipeline)
    (hcache : cl.currentGraphicsState = state) (hvol : cl.anyVolatileBufferWrites = false)
    (hv : ∀ v ∈ state.viewport.viewports, (v == v) = true)
    (hc : pso.usesBlendConstants = true →
      (state.blendConstantColor == state.blendConstantColor) = true) :
    graphicsStateCommands pso false cl state =
      some (shadingRateCommands state, state.indirectParams.toList) := by
  have hvs : arraysAreDifferent state.viewport.viewports state.viewport.viewports = false :=
    arraysAreDifferent_eq_false.mpr (List.forall₂_same.mpr hv)
  have hblend : blendConstantCommands pso false state state = [] := by
    unfold blendConstantCommands
    cases h : pso.usesBlendConstants
    · rfl
    · simp [bne, hc h]
  have hindex : indexBufferCommands state state = ([], []) := by
    unfold indexBufferCommands
    split <;> simp
  simp [graphicsStateCommands, bindingSetCommands, viewportCommands, scissorCommands,
    stencilRefCommands, vertexBufferCommands, hcache, hvol, hvs, hblend, hindex, bind, pure]

end Repeat

/-- A second `setGraphicsState` with the state just set records the shading rate only, if
the state enables it, and keeps the cache, provided no viewport and no blend color the
pipeline uses holds a NaN and the state tracker adds no barrier. -/
theorem setGraphicsState_repeat (dev : Device) (s : GraphicsState) (cl cl₁ : CommandList)
    (h₁ : setGraphicsState dev s cl = some cl₁)
    (hv : ∀ v ∈ s.viewport.viewports, (v == v) = true)
    (hc : ∀ p, s.pipeline = some p → (dev.graphicsPipeline p).usesBlendConstants = true →
      (s.blendConstantColor == s.blendConstantColor) = true)
    (hb : (trackIfEnabled dev s cl₁).stateTracker.pendingBarriers =
      cl₁.stateTracker.pendingBarriers) :
    ∃ cl₂, setGraphicsState dev s cl₁ = some cl₂ ∧
      cl₂.cmdBuf = cl₁.cmdBuf ++ shadingRateCommands s ∧
      cl₂.currentGraphicsState = cl₁.currentGraphicsState := by
  have hs := setGraphicsState_settled h₁
  obtain ⟨p, _, _, hp, _⟩ := setGraphicsState_eq_some h₁
  rw [hs.noPendingBarriers] at hb
  have hcmds : graphicsStateCommands (dev.graphicsPipeline p) false (trackIfEnabled dev s cl₁) s =
      some (shadingRateCommands s, s.indirectParams.toList) :=
    graphicsStateCommands_of_cache _ (by simp [hs.cache]) (by simp [hs.noVolatileWrites]) hv
      (hc p hp)
  simp only [setGraphicsState, hp, bind, Option.some_bind, hs.cache, bne_self_eq_false,
    prologue_of_settled p hs hb, hcmds]
  exact ⟨_, rfl, by simp, rfl⟩

/-- A state with a NaN in its viewport, set twice: `==` finds the viewport changed, and the
second call records it again. -/
example :
    (run plainDevice (.opened false)
      [.setGraphicsState { GraphicsState.init with pipeline := some 0, viewport :=
          ⟨[⟨.quietNaN, .posZero, .posZero, .posZero, .posZero, .posZero⟩], []⟩ },
        .setGraphicsState { GraphicsState.init with pipeline := some 0, viewport :=
          ⟨[⟨.quietNaN, .posZero, .posZero, .posZero, .posZero, .posZero⟩], []⟩ }]).map cmdBuf =
      some [.bindPipeline 0,
        .setViewport [⟨.quietNaN, .posZero, .posZero, .posZero, .posZero, .posZero⟩],
        .setViewport [⟨.quietNaN, .posZero, .posZero, .posZero, .posZero, .posZero⟩]] :=
  rfl

/-- Setting, on an opened command list, a state that enables the shading rate, then the state
the cache then holds: the second call completes and keeps the cache, yet records the shading
rate again. -/
theorem shadingRate_recorded_again :
    ∃ cl₁ cl₂, run plainDevice (.opened false) [.setGraphicsState { GraphicsState.init with
          pipeline := some 0, shadingRateState := ⟨true, .e2x2, .Passthrough, .Passthrough⟩ }] =
        some cl₁ ∧
      setGraphicsState plainDevice cl₁.currentGraphicsState cl₁ = some cl₂ ∧
      cl₂.currentGraphicsState = cl₁.currentGraphicsState ∧
      cl₂.cmdBuf = cl₁.cmdBuf ++
        [.setFragmentShadingRate ⟨true, .e2x2, .Passthrough, .Passthrough⟩] := by
  obtain ⟨cl₁, h₁⟩ : ∃ cl₁, setGraphicsState plainDevice { GraphicsState.init with
      pipeline := some 0, shadingRateState := ⟨true, .e2x2, .Passthrough, .Passthrough⟩ }
      (.opened false) = some cl₁ := ⟨_, rfl⟩
  obtain ⟨cl₂, h₂, hcmd, hcache⟩ := setGraphicsState_repeat plainDevice _ _ cl₁ h₁
    (fun _ hv => absurd hv (List.not_mem_nil _)) (fun _ _ h => Bool.noConfusion h)
    (by unfold trackIfEnabled; split <;> rfl)
  rw [← (setGraphicsState_settled h₁).cache] at h₂
  exact ⟨cl₁, cl₂, by rw [run_cons, step, h₁]; rfl, h₂, hcache, hcmd⟩

end Nvrhi
