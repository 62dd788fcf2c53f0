import Nvrhi.Calls

/-!
# Dynamic states at draws

`createGraphicsPipeline` declares three dynamic states conditionally: the blend constants
when the pipeline uses them, the stencil reference when its depth-stencil state asks for a
dynamic one, and the fragment shading rate when its description enables shading rate. A
draw reads each declared state, so each has to be set after the pipeline is bound.
`setGraphicsState` sets the first two whenever it binds the pipeline, deciding from the
pipeline as creation did; it sets the shading rate whenever the graphics state, not the
pipeline, enables it.

`lastBind` finds the last `bindPipeline` of a command buffer and the commands after it;
`DynamicStatesSet` says what those commands set, and every call keeps it
(`DynamicStatesSet.step`).

* `dynamicStates_at_draw`: at every draw, the blend constants and the stencil reference
  have been set since the pipeline was bound if it declares them, and the shading rate if
  the cached state enables it.
* `shadingRate_declared_not_set`: a pipeline that declares the shading rate, bound by a
  state that does not enable it, is drawn with the shading rate never set.
-/

namespace Nvrhi

open CommandList

/-! ## The last pipeline bind -/

def Command.isBindPipeline : Command → Bool
  | .bindPipeline _ => true
  | _ => false

namespace Command

variable {c : Command}

theorem isBindPipeline_of_isPassOrBarrier (h : c.isPassOrBarrier) : c.isBindPipeline = false := by
  cases c <;> first | rfl | exact Bool.noConfusion h

theorem isBindPipeline_of_setsState (h : c.setsState) : c.isBindPipeline = false := by
  cases c <;> first | rfl | exact Bool.noConfusion h

theorem isBindPipeline_of_isDraw (h : c.isDraw) : c.isBindPipeline = false := by
  cases c <;> first | rfl | exact Bool.noConfusion h

end Command

/-- One command of `lastBind`. -/
def lastBindStep (acc : Option (Handle × List Command)) :
    Command → Option (Handle × List Command)
  | .bindPipeline p => some (p, [])
  | c => acc.map fun b => (b.1, b.2 ++ [c])

/-- The pipeline of the last `bindPipeline` of `cmds`, and the commands recorded after it. -/
def lastBind (cmds : List Command) : Option (Handle × List Command) :=
  cmds.foldl lastBindStep none

theorem lastBindStep_of_not_isBindPipeline {c : Command} (h : c.isBindPipeline = false)
    (acc : Option (Handle × List Command)) :
    lastBindStep acc c = acc.map fun b => (b.1, b.2 ++ [c]) := by
  cases c <;> first | rfl | exact Bool.noConfusion h

/-- Commands other than `bindPipeline` join the commands after the last bind. -/
theorem lastBind_append_of_forall {cmds more : List Command}
    (h : ∀ c ∈ more, c.isBindPipeline = false) :
    lastBind (cmds ++ more) = (lastBind cmds).map fun b => (b.1, b.2 ++ more) := by
  unfold lastBind
  rw [List.foldl_append]
  generalize cmds.foldl lastBindStep none = acc
  induction more generalizing acc with
  | nil => cases acc <;> simp
  | cons c more ih =>
    rw [List.foldl_cons, lastBindStep_of_not_isBindPipeline (h c (List.mem_cons_self _ _)),
      ih fun c hc => h c (List.mem_cons_of_mem _ hc)]
    cases acc <;> simp

theorem lastBind_append_bindPipeline (cmds : List Command) (p : Handle) {more : List Command}
    (h : ∀ c ∈ more, c.isBindPipeline = false) :
    lastBind (cmds ++ .bindPipeline p :: more) = some (p, more) := by
  rw [← List.singleton_append, ← List.append_assoc, lastBind_append_of_forall h]
  simp [lastBind, lastBindStep]

/-! ## What is set since the bind -/

/-- What the commands `post`, recorded since `pso` was bound, set: the blend constants and
the stencil reference when `pso` declares them dynamic, and the shading rate `vrs` when it
is enabled. -/
structure SetSince (pso : GraphicsPipeline) (vrs : VariableRateShadingState)
    (post : List Command) : Prop where
  blendConstants : .eBlendConstants ∈ pso.dynamicStates → ∃ c, .setBlendConstants c ∈ post
  stencilReference : .eStencilReference ∈ pso.dynamicStates →
    ∃ r, .setStencilReference r ∈ post
  fragmentShadingRate : vrs.enabled → .setFragmentShadingRate vrs ∈ post

theorem SetSince.mono {pso : GraphicsPipeline} {vrs : VariableRateShadingState}
    {post post' : List Command} (h : SetSince pso vrs post) (hsub : post ⊆ post') :
    SetSince pso vrs post' :=
  ⟨fun hd => (h.1 hd).imp fun _ hc => hsub hc, fun hd => (h.2 hd).imp fun _ hc => hsub hc,
    fun he => hsub (h.3 he)⟩

section Commands

variable {pso : GraphicsPipeline} {updatePipeline : Bool} {cl : CommandList}
  {state : GraphicsState} {cmds : List Command} {refs : List Handle}

theorem graphicsStateCommands_shadingRate
    (h : graphicsStateCommands pso updatePipeline cl state = some (cmds, refs))
    (he : state.shadingRateState.enabled) :
    .setFragmentShadingRate state.shadingRateState ∈ cmds := by
  obtain ⟨_, _, -, -, rfl, -⟩ := graphicsStateCommands_eq_some h
  simp [shadingRateCommands, he]

/-- When the pipeline was bound by the same call, the state-setting commands set every
dynamic state it declares among the blend constants and the stencil reference. -/
theorem graphicsStateCommands_setSince
    (h : graphicsStateCommands pso true cl state = some (cmds, refs)) :
    SetSince pso state.shadingRateState cmds := by
  obtain ⟨_, _, -, -, rfl, -⟩ := graphicsStateCommands_eq_some h
  refine ⟨fun hd => ⟨state.blendConstantColor, ?_⟩, fun hd => ⟨state.dynamicStencilRefValue, ?_⟩,
    fun he => ?_⟩
  · simp [blendConstantCommands, (pso.eBlendConstants_mem_dynamicStates).mp hd]
  · simp [stencilRefCommands, (pso.eStencilReference_mem_dynamicStates).mp hd]
  · exact graphicsStateCommands_shadingRate h he

end Commands

/-! ## The invariant -/

/-- The cached pipeline is the one bound last, and the commands recorded since then set
what `SetSince` asks for it and the cached shading rate. -/
structure DynamicStatesSet (dev : Device) (cl : CommandList) : Prop where
  bound : (lastBind cl.cmdBuf).map Prod.fst = cl.currentGraphicsState.pipeline
  set : ∀ p post, lastBind cl.cmdBuf = some (p, post) →
    SetSince (dev.graphicsPipeline p) cl.currentGraphicsState.shadingRateState post

namespace DynamicStatesSet

variable {dev : Device} {cl cl' : CommandList}

theorem opened (enable : Bool) : DynamicStatesSet dev (.opened enable) :=
  ⟨rfl, fun _ _ h => Option.noConfusion h⟩

/-- Appending commands that bind no pipeline keeps the invariant when the cached pipeline
and shading rate stay. -/
theorem of_appends (h : DynamicStatesSet dev cl)
    (ha : Appends (·.isBindPipeline = false) cl cl')
    (hcache : ∃ f, cl'.currentGraphicsState = { cl.currentGraphicsState with framebuffer := f }) :
    DynamicStatesSet dev cl' := by
  obtain ⟨more, e, hmore⟩ := ha
  obtain ⟨f, hf⟩ := hcache
  constructor
  · rw [e, lastBind_append_of_forall hmore, hf, Option.map_map]
    exact h.bound
  · intro p post hl
    rw [e, lastBind_append_of_forall hmore] at hl
    obtain ⟨⟨p', post'⟩, hl', he⟩ := Option.map_eq_some'.mp hl
    cases he
    rw [hf]
    exact (h.set p' post' hl').mono (List.subset_append_left _ _)

theorem setGraphicsState {state : GraphicsState} (h : DynamicStatesSet dev cl)
    (hs : setGraphicsState dev state cl = some cl') : DynamicStatesSet dev cl' := by
  obtain ⟨p, cmds, refs, hp, hc, rfl⟩ := setGraphicsState_eq_some hs
  obtain ⟨rest, e, hrest⟩ := prologue_cmdBuf dev state p cl
  have hnew : ∀ c ∈ rest ++ cmds, c.isBindPipeline = false := fun c hm =>
    (List.mem_append.mp hm).elim (fun hm => Command.isBindPipeline_of_isPassOrBarrier (hrest c hm))
      fun hm => Command.isBindPipeline_of_setsState (graphicsStateCommands_setsState hc c hm)
  obtain ⟨post, hl, hset⟩ : ∃ post,
      lastBind ((setGraphicsStatePrologue dev state p cl).cmdBuf ++ cmds) = some (p, post) ∧
      SetSince (dev.graphicsPipeline p) state.shadingRateState post := by
    rw [e, List.append_assoc, List.append_assoc]
    split
    · case isTrue hu =>
      rw [hu] at hc
      exact ⟨rest ++ cmds, lastBind_append_bindPipeline _ _ hnew,
        (graphicsStateCommands_setSince hc).mono (List.subset_append_right _ _)⟩
    · case isFalse hu =>
      have hcache : cl.currentGraphicsState.pipeline = some p := by simpa [hp] using hu
      obtain ⟨⟨_, post⟩, hl, he⟩ := Option.map_eq_some'.mp (h.bound.trans hcache)
      cases he
      have hold := h.set _ post hl
      refine ⟨post ++ (rest ++ cmds), by rw [List.nil_append, lastBind_append_of_forall hnew, hl]; rfl,
        fun hd => (hold.1 hd).imp fun _ hm => List.mem_append_left _ hm,
        fun hd => (hold.2 hd).imp fun _ hm => List.mem_append_left _ hm,
        fun he => List.mem_append_right _ (List.mem_append_right _
          (graphicsStateCommands_shadingRate hc he))⟩
  refine ⟨?_, fun p' post' h' => ?_⟩
  · simp only [emit_cmdBuf, hl, hp]
    rfl
  · simp only [emit_cmdBuf, hl, Option.some.injEq, Prod.mk.injEq] at h'
    obtain ⟨rfl, rfl⟩ := h'
    exact hset

theorem updateGraphicsVolatileBuffers (h : DynamicStatesSet dev cl) :
    DynamicStatesSet dev (updateGraphicsVolatileBuffers cl) :=
  h.of_appends ⟨_, updateGraphicsVolatileBuffers_cmdBuf cl, by
    split <;> simp [bindBindingSets, Command.isBindPipeline]⟩
    ⟨cl.currentGraphicsState.framebuffer, by simp⟩

theorem step {op : Op} (h : DynamicStatesSet dev cl) (hs : step dev cl op = some cl') :
    DynamicStatesSet dev cl' := by
  rcases step_eq_some hs with ⟨s, -, hs⟩ | ⟨-, c, hc, rfl⟩ | ⟨fb, -, rfl⟩ | ⟨-, rfl⟩ | ⟨-, rfl⟩ |
    ⟨b, s, -, rfl⟩
  · exact h.setGraphicsState hs
  · exact h.updateGraphicsVolatileBuffers.of_appends
      ⟨[c], rfl, by simpa using Command.isBindPipeline_of_isDraw hc⟩
      ⟨cl.currentGraphicsState.framebuffer, by simp⟩
  · exact h.of_appends ((appends_beginRenderPass cl fb).mono
      fun _ => Command.isBindPipeline_of_isPassOrBarrier) ⟨fb, beginRenderPass_currentGraphicsState cl fb⟩
  · exact h.of_appends ((appends_endRenderPass cl).mono
      fun _ => Command.isBindPipeline_of_isPassOrBarrier) ⟨none, endRenderPass_currentGraphicsState cl⟩
  all_goals exact h.of_appends (.refl _) ⟨cl.currentGraphicsState.framebuffer, rfl⟩

end DynamicStatesSet

/-- At every draw of a run from an opened command list, if a pipeline is bound, it is the
cached one, and since it was bound the blend constants and the stencil reference have been
set when it declares them dynamic, and the shading rate when the cached state enables it. -/
theorem dynamicStates_at_draw (dev : Device) (enable : Bool) (ops : List Op) (op : Op)
    (cl cl' : CommandList) (hrun : run dev (.opened enable) ops = some cl) (hop : op.isDraw)
    (hdraw : step dev cl op = some cl') :
    ∃ cmds c, cl'.cmdBuf = cmds ++ [c] ∧ c.isDraw ∧ ∀ p post, lastBind cmds = some (p, post) →
      cl.currentGraphicsState.pipeline = some p ∧
      SetSince (dev.graphicsPipeline p) cl.currentGraphicsState.shadingRateState post := by
  have hinv := (run_invariant dev (DynamicStatesSet dev) (fun _ _ _ h hs => h.step hs)
    (DynamicStatesSet.opened enable) hrun).updateGraphicsVolatileBuffers
  obtain ⟨c, hc, rfl⟩ := step_of_isDraw cl hop hdraw
  refine ⟨_, c, emit_cmdBuf _ _ _, hc, fun p post hl => ⟨?_, by simpa using hinv.set p post hl⟩⟩
  simpa [hl] using hinv.bound.symm

/-- A state that enables shading rate on an opened command list, then a draw: both complete,
and the rate was set after the pipeline was bound. -/
theorem dynamicStates_at_draw_shadingRate :
    ∃ cl cl', run plainDevice (.opened false) [.setGraphicsState { GraphicsState.init with
          pipeline := some 0, shadingRateState := ⟨true, .e2x2, .Passthrough, .Passthrough⟩ }] =
        some cl ∧ step plainDevice cl (.draw ⟨3, 1, 0, 0, 0⟩) = some cl' ∧
      cl'.cmdBuf = [.bindPipeline 0,
        .setFragmentShadingRate ⟨true, .e2x2, .Passthrough, .Passthrough⟩, .draw ⟨3, 1, 0, 0, 0⟩] ∧
      SetSince (plainDevice.graphicsPipeline 0) ⟨true, .e2x2, .Passthrough, .Passthrough⟩
        [.setFragmentShadingRate ⟨true, .e2x2, .Passthrough, .Passthrough⟩] := by
  obtain ⟨cl, hrun⟩ : ∃ cl, run plainDevice (.opened false) [.setGraphicsState
      { GraphicsState.init with
        pipeline := some 0, shadingRateState := ⟨true, .e2x2, .Passthrough, .Passthrough⟩ }] =
      some cl := exists_run_of_readyRun plainDevice (by rfl)
  obtain ⟨cl', hdraw⟩ : ∃ cl', step plainDevice cl (.draw ⟨3, 1, 0, 0, 0⟩) = some cl' :=
    exists_step_of_ready (by rfl)
  have hstep : setGraphicsState plainDevice _ (.opened false) = some cl :=
    (run_singleton plainDevice _ _).symm.trans hrun
  have hcmd : cl'.cmdBuf = [.bindPipeline 0,
      .setFragmentShadingRate ⟨true, .e2x2, .Passthrough, .Passthrough⟩,
      .draw ⟨3, 1, 0, 0, 0⟩] := by
    cases hstep; cases hdraw; rfl
  obtain ⟨cmds, c, hcmds, -, hset⟩ :=
    dynamicStates_at_draw plainDevice false _ (.draw ⟨3, 1, 0, 0, 0⟩) cl cl' hrun rfl hdraw
  have e : cmds ++ [c] = [.bindPipeline 0,
      .setFragmentShadingRate ⟨true, .e2x2, .Passthrough, .Passthrough⟩] ++
      [.draw ⟨3, 1, 0, 0, 0⟩] := hcmds.symm.trans hcmd
  obtain ⟨_, _, _, -, -, rfl⟩ := setGraphicsState_eq_some hstep
  rw [(List.append_inj' e rfl).1] at hset
  exact ⟨_, cl', hrun, hdraw, hcmd, (hset 0 _ rfl).2⟩

/-- A pipeline created with shading rate enabled declares `eFragmentShadingRateKHR`; bound by
a state that leaves shading rate disabled, it is drawn right after the bind, with no
`setFragmentShadingRateKHR` recorded. -/
theorem shadingRate_declared_not_set :
    createGraphicsPipeline (fun _ _ => false)
        ⟨none, none, none, none, none, ⟨⟨false⟩, ⟨false⟩⟩, ⟨true, .e2x2, .Passthrough, .Passthrough⟩⟩
        ⟨[]⟩ =
      .ok (⟨⟨none, none, none, none, none, ⟨⟨false⟩, ⟨false⟩⟩,
          ⟨true, .e2x2, .Passthrough, .Passthrough⟩⟩, false⟩,
        ⟨setupShaderStages ⟨none, none, none, none, none, ⟨⟨false⟩, ⟨false⟩⟩,
          ⟨true, .e2x2, .Passthrough, .Passthrough⟩⟩,
          [.eViewport, .eScissor, .eFragmentShadingRateKHR]⟩) ∧
    (run ⟨fun _ => ⟨⟨none, none, none, none, none, ⟨⟨false⟩, ⟨false⟩⟩,
          ⟨true, .e2x2, .Passthrough, .Passthrough⟩⟩, false⟩,
        fun _ => ⟨[], none, none, none, []⟩, fun _ _ => []⟩ (.opened false)
      [.setGraphicsState { GraphicsState.init with pipeline := some 0 },
        .draw ⟨3, 1, 0, 0, 0⟩]).map cmdBuf =
      some [.bindPipeline 0, .draw ⟨3, 1, 0, 0, 0⟩] :=
  ⟨rfl, rfl⟩

end Nvrhi
