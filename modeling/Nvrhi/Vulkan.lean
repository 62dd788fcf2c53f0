import Nvrhi.GraphicsState

/-!
# Recorded Vulkan commands

The commands the graphics part of the command list records into `m_CurrentCmdBuf->cmdBuf`,
and two readings of a recorded command buffer that the invariants are stated against.

* `Driver.replay`: the state of the Vulkan command buffer after a list of commands, as far
  as a draw reads it: the bound pipeline, descriptor sets (with the volatile-buffer version
  each captured), viewports, scissors, stencil reference, blend constants, index buffer and
  vertex buffers. Binding a pipeline makes the stencil reference and the blend constants
  invalid unless the pipeline declares them dynamic.
* `renderingAfter`: whether `beginRendering`/`endRendering` nest properly, and which
  framebuffer's rendering is open at the end.

A command that records an object's native handle (`pso->pipeline`, `buffer->buffer`, the
framebuffer's attachments) is written here with the object's pointer.
-/

namespace Nvrhi

/-- A transition pending in the state tracker. -/
structure Barrier where
  resource : Handle
  stateBefore : ResourceStates
  stateAfter : ResourceStates
  deriving DecidableEq, Repr

/-- `vk::IndexType`. -/
inductive IndexType
  | eUint16 | eUint32
  deriving DecidableEq, Repr

/-- `DrawArguments`. -/
structure DrawArguments where
  vertexCount : UInt32
  instanceCount : UInt32
  startIndexLocation : UInt32
  startVertexLocation : UInt32
  startInstanceLocation : UInt32
  deriving DecidableEq, Repr

/-- A command recorded into the Vulkan command buffer. `setViewport`, `setScissor`,
`bindDescriptorSets` and `bindVertexBuffers` start at index `0`. -/
inductive Command
  | bindPipeline (pipeline : Handle)
  | beginRendering (framebuffer : Handle)
  | endRendering
  | pipelineBarrier (barriers : List Barrier)
  | bindDescriptorSets (bindingSets : List Handle) (volatileVersion : Nat)
  /-- `setViewport(0, n, viewports)`, with the nvrhi viewports: the code records
  `VKViewportWithDXCoords` of each, a float flip of its y axis that is left out. -/
  | setViewport (viewports : List Viewport)
  | setScissor (scissors : List Rect2D)
  | setStencilReference (reference : UInt8)
  | setBlendConstants (color : Color)
  | bindIndexBuffer (buffer : Handle) (offset : UInt32) (indexType : IndexType)
  | bindVertexBuffers (entries : List (Option (Handle × UInt64)))
  | setFragmentShadingRate (state : VariableRateShadingState)
  | draw (args : DrawArguments)
  | drawIndexed (args : DrawArguments)
  | drawIndirect (buffer : Handle) (offsetBytes drawCount : UInt32)
  | drawIndexedIndirect (buffer : Handle) (offsetBytes drawCount : UInt32)
  | drawIndexedIndirectCount (buffer : Handle) (offsetBytes : UInt32) (countBuffer : Handle)
      (countBufferOffset maxDrawCount : UInt32)
  deriving DecidableEq, Repr

/-! ## The state a draw executes with -/

/-- `new` written over the first `new.length` entries of `old`. -/
def overwrite {α : Type} (new old : List α) : List α := new ++ old.drop new.length

@[simp] theorem take_overwrite {α : Type} (new old : List α) :
    (overwrite new old).take new.length = new := by
  simp [overwrite]

theorem length_le_overwrite {α : Type} (new old : List α) :
    new.length ≤ (overwrite new old).length := by
  rw [overwrite, List.length_append]
  exact Nat.le_add_right _ _

/-- The state of a Vulkan command buffer that a draw reads. A dynamic state is `none` while
unset or after a pipeline bind made it invalid. -/
structure Driver where
  pipeline : Option Handle
  descriptorSets : List (Handle × Nat)
  viewports : List Viewport
  scissors : List Rect2D
  stencilReference : Option UInt8
  blendConstants : Option Color
  indexBuffer : Option (Handle × UInt32 × IndexType)
  vertexBuffers : List (Option (Handle × UInt64))
  deriving DecidableEq, Repr

/-- A fresh command buffer. -/
def Driver.empty : Driver := ⟨none, [], [], [], none, none, none, []⟩

/-- The effect of one command; `pipelines` gives the object behind a pipeline pointer. -/
def Driver.exec (pipelines : Handle → GraphicsPipeline) (d : Driver) : Command → Driver
  | .bindPipeline p =>
    { d with
      pipeline := some p
      stencilReference :=
        if .eStencilReference ∈ (pipelines p).dynamicStates then d.stencilReference else none
      blendConstants :=
        if .eBlendConstants ∈ (pipelines p).dynamicStates then d.blendConstants else none }
  | .bindDescriptorSets sets v =>
    { d with descriptorSets := overwrite (sets.map fun s => (s, v)) d.descriptorSets }
  | .setViewport vs => { d with viewports := overwrite vs d.viewports }
  | .setScissor ss => { d with scissors := overwrite ss d.scissors }
  | .setStencilReference r => { d with stencilReference := some r }
  | .setBlendConstants c => { d with blendConstants := some c }
  | .bindIndexBuffer b off t => { d with indexBuffer := some (b, off, t) }
  | .bindVertexBuffers es => { d with vertexBuffers := overwrite es d.vertexBuffers }
  | _ => d

/-- The state after the commands `cmds`, from a fresh command buffer. -/
def Driver.replay (pipelines : Handle → GraphicsPipeline) (cmds : List Command) : Driver :=
  cmds.foldl (Driver.exec pipelines) .empty

@[simp] theorem Driver.replay_append (pipelines : Handle → GraphicsPipeline)
    (cmds more : List Command) :
    Driver.replay pipelines (cmds ++ more) = more.foldl (Driver.exec pipelines)
      (Driver.replay pipelines cmds) :=
  List.foldl_append _ _ _ _

theorem Driver.foldl_exec_of_forall {pipelines : Handle → GraphicsPipeline} {cmds : List Command}
    (h : ∀ c ∈ cmds, ∀ d, Driver.exec pipelines d c = d) (d : Driver) :
    cmds.foldl (Driver.exec pipelines) d = d := by
  induction cmds generalizing d with
  | nil => rfl
  | cons c cmds ih =>
    rw [List.foldl_cons, h c (List.mem_cons_self _ _),
      ih fun c hc => h c (List.mem_cons_of_mem _ hc)]

/-! ## Dynamic rendering -/

/-- One command's effect on the open rendering (`some fb`: begun on `fb`); `none` when a
`beginRendering` meets an open rendering or an `endRendering` a closed one. -/
def renderingStep : Option Handle → Command → Option (Option Handle)
  | none, .beginRendering fb => some (some fb)
  | some _, .beginRendering _ => none
  | some _, .endRendering => some none
  | none, .endRendering => none
  | o, _ => some o

/-- The rendering open after `cmds`, from `o`; `none` when the commands do not nest. -/
def renderingAfter (o : Option Handle) (cmds : List Command) : Option (Option Handle) :=
  cmds.foldlM renderingStep o

/-- A command that neither begins nor ends a rendering. -/
def Command.isRendering : Command → Bool
  | .beginRendering _ | .endRendering => true
  | _ => false

theorem renderingStep_of_not_isRendering {c : Command} (h : c.isRendering = false)
    (o : Option Handle) : renderingStep o c = some o := by
  cases c <;> cases o <;> first | rfl | exact Bool.noConfusion h

@[simp] theorem renderingAfter_nil (o : Option Handle) : renderingAfter o [] = some o := rfl

theorem renderingAfter_append (o : Option Handle) (cmds more : List Command) :
    renderingAfter o (cmds ++ more) = (renderingAfter o cmds).bind (renderingAfter · more) := by
  simp [renderingAfter, List.foldlM_append]

/-- A command that begins or ends a rendering or records barriers: what
`setGraphicsState` records besides `bindPipeline` before it sets any state. -/
def Command.isPassOrBarrier : Command → Bool
  | .beginRendering _ | .endRendering | .pipelineBarrier _ => true
  | _ => false

/-- A command that sets state a draw reads, other than the pipeline: what
`setGraphicsState` records once the render pass is open. -/
def Command.setsState : Command → Bool
  | .bindDescriptorSets _ _ | .setViewport _ | .setScissor _ | .setStencilReference _
  | .setBlendConstants _ | .bindIndexBuffer _ _ _ | .bindVertexBuffers _
  | .setFragmentShadingRate _ => true
  | _ => false

/-- The five draw commands. -/
def Command.isDraw : Command → Bool
  | .draw _ | .drawIndexed _ | .drawIndirect _ _ _ | .drawIndexedIndirect _ _ _
  | .drawIndexedIndirectCount _ _ _ _ _ => true
  | _ => false

namespace Command

variable {c : Command}

theorem isDraw_of_isPassOrBarrier (h : c.isPassOrBarrier) : c.isDraw = false := by
  cases c <;> first | rfl | exact Bool.noConfusion h

theorem isDraw_of_setsState (h : c.setsState) : c.isDraw = false := by
  cases c <;> first | rfl | exact Bool.noConfusion h

theorem isPassOrBarrier_of_setsState (h : c.setsState) : c.isPassOrBarrier = false := by
  cases c <;> first | rfl | exact Bool.noConfusion h

theorem isRendering_of_isPassOrBarrier_eq_false (h : c.isPassOrBarrier = false) :
    c.isRendering = false := by
  cases c <;> first | rfl | exact Bool.noConfusion h

theorem isPassOrBarrier_of_isDraw (h : c.isDraw) : c.isPassOrBarrier = false := by
  cases c <;> first | rfl | exact Bool.noConfusion h

/-- Render-pass commands, barriers and draws leave the state a draw reads as it is. -/
theorem exec_of_isPassOrBarrier (h : c.isPassOrBarrier) (pipelines : Handle → GraphicsPipeline)
    (d : Driver) : d.exec pipelines c = d := by
  cases c <;> first | rfl | exact Bool.noConfusion h

theorem exec_of_isDraw (h : c.isDraw) (pipelines : Handle → GraphicsPipeline) (d : Driver) :
    d.exec pipelines c = d := by
  cases c <;> first | rfl | exact Bool.noConfusion h

end Command

/-- Commands that neither begin nor end a rendering leave it as it is. -/
theorem renderingAfter_of_not_isRendering {cmds : List Command}
    (h : ∀ c ∈ cmds, c.isRendering = false) (o : Option Handle) : renderingAfter o cmds = some o := by
  induction cmds generalizing o with
  | nil => rfl
  | cons c cmds ih =>
    simp only [renderingAfter, List.foldlM_cons, renderingStep_of_not_isRendering
      (h c (List.mem_cons_self _ _)), Option.some_bind]
    exact ih (fun c hc => h c (List.mem_cons_of_mem _ hc)) o

/-- No `pipelineBarrier` of `cmds` is recorded while a rendering is open. -/
def NoBarrierInsideRendering (cmds : List Command) : Prop :=
  ∀ pre bs post, cmds = pre ++ .pipelineBarrier bs :: post → renderingAfter none pre = some none

end Nvrhi
