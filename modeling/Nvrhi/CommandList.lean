import Nvrhi.Vulkan
import Nvrhi.Framebuffer

/-!
# The command list

The graphics part of the Vulkan `CommandList` (`vulkan-graphics.cpp`): `beginRenderPass`,
`endRenderPass`, `setGraphicsState`, `updateGraphicsVolatileBuffers` and the five draw
calls, over the members they read and write. `m_CurrentMeshletState` and the other cached
states enter only through the meshlet framebuffer, which `endRenderPass` tests.

The state tracker and `bindBindingSets` are not among the sources. The tracker is modelled
from the spec (`requireState` appends a transition and updates the tracked state at once;
`commitBarriers` records the pending list and clears it), and what `trackResourcesAndBarriers`
requires for a graphics state is a parameter (`Device.requiredStates`). A volatile-buffer
write makes a new version of the buffer current; `bindDescriptorSets` records the version it
binds.

A call the code cannot complete is `none`: a null pointer it dereferences (the pipeline and
the vertex buffers of `setGraphicsState`, the indirect-argument and count buffers of the
indirect draws) or a signed overflow in the scissor conversion.

`run` applies a list of calls (`Op`) in order; the invariants are stated over its runs.
-/

namespace Nvrhi

/-! ## The state tracker -/

/-- The tracked state of each resource (`Unknown` until seeded) and the pending barriers. -/
structure StateTracker where
  resourceStates : Handle → ResourceStates
  pendingBarriers : List Barrier

/-- Modelled from the spec (`requireState`): nothing when the resource is in `state`;
otherwise a transition from its tracked state is appended and the tracked state is updated
at once. The spec's merge of a new transition into a pending one for the same resource is
left out: the spec does not say when two transitions are compatible, and a merge changes
only the entries of a list that is non-empty either way, while the graphics calls read only
whether it is empty and record it whole. -/
def StateTracker.requireBufferState (t : StateTracker) (buffer : Handle)
    (state : ResourceStates) : StateTracker :=
  if t.resourceStates buffer = state then t
  else ⟨Function.update t.resourceStates buffer state,
    t.pendingBarriers ++ [⟨buffer, t.resourceStates buffer, state⟩]⟩

/-- What the command list reaches through pointers: the pipeline and framebuffer objects,
and the states `trackResourcesAndBarriers` requires for a new graphics state, given the
cached one. -/
structure Device where
  graphicsPipeline : Handle → GraphicsPipeline
  framebuffer : Handle → Framebuffer
  requiredStates : GraphicsState → GraphicsState → List (Handle × ResourceStates)

/-- The members of the command list that the graphics calls read and write. -/
structure CommandList where
  /-- `m_CurrentGraphicsState`, the cache. -/
  currentGraphicsState : GraphicsState
  /-- `m_CurrentMeshletState.framebuffer`. -/
  currentMeshletFramebuffer : Option Handle
  /-- `m_AnyVolatileBufferWrites`. -/
  anyVolatileBufferWrites : Bool
  /-- The number of volatile-buffer writes so far: the version that is current. -/
  volatileVersion : Nat
  /-- `m_EnableAutomaticBarriers`. -/
  enableAutomaticBarriers : Bool
  /-- `m_StateTracker`. -/
  stateTracker : StateTracker
  /-- `m_CurrentCmdBuf->cmdBuf`, the commands recorded so far. -/
  cmdBuf : List Command
  /-- `m_CurrentCmdBuf->referencedResources`. -/
  referencedResources : List Handle

namespace CommandList

/-- A command list just opened: empty cache and command buffer, nothing tracked. -/
def opened (enableAutomaticBarriers : Bool) : CommandList :=
  ⟨.init, none, false, 0, enableAutomaticBarriers, ⟨fun _ => ResourceStates.Unknown, []⟩, [], []⟩

/-- Record `cmds` and push `refs` to `referencedResources`. -/
def emit (cl : CommandList) (cmds : List Command) (refs : List Handle) : CommandList :=
  { cl with cmdBuf := cl.cmdBuf ++ cmds, referencedResources := cl.referencedResources ++ refs }

/-- Modelled from the spec: `anyBarriers()`, the pending list is not empty. -/
def anyBarriers (cl : CommandList) : Bool := !cl.stateTracker.pendingBarriers.isEmpty

/-- The framebuffer whose render pass the members say is open. -/
def openFramebuffer (cl : CommandList) : Option Handle :=
  cl.currentGraphicsState.framebuffer.or cl.currentMeshletFramebuffer

end CommandList

open CommandList

/-! ## Render passes and barriers -/

def endRenderPass (cl : CommandList) : CommandList :=
  if cl.currentGraphicsState.framebuffer.isSome || cl.currentMeshletFramebuffer.isSome then
    { cl.emit [.endRendering] [] with
      currentGraphicsState := { cl.currentGraphicsState with framebuffer := none }
      currentMeshletFramebuffer := none }
  else cl

def beginRenderPass (framebuffer : Option Handle) (cl : CommandList) : CommandList :=
  let cl := endRenderPass cl
  match framebuffer with
  | none => cl
  | some fb =>
    ({ cl with
      currentGraphicsState := { cl.currentGraphicsState with framebuffer := some fb }
      currentMeshletFramebuffer := some fb }).emit [.beginRendering fb] [fb]

/-- Modelled from the spec: `commitBarriers()` records the pending barriers, if any, with one
`pipelineBarrier` and clears them. -/
def commitBarriers (cl : CommandList) : CommandList :=
  if cl.stateTracker.pendingBarriers.isEmpty then cl
  else { cl.emit [.pipelineBarrier cl.stateTracker.pendingBarriers] [] with
    stateTracker := { cl.stateTracker with pendingBarriers := [] } }

section Device

variable (dev : Device)

/-- Modelled from the spec: `trackResourcesAndBarriers` requires each state
`dev.requiredStates` lists, in order. -/
def trackResourcesAndBarriers (state : GraphicsState) (cl : CommandList) : CommandList :=
  let required := dev.requiredStates state cl.currentGraphicsState
  { cl with stateTracker := required.foldl (fun t r => t.requireBufferState r.1 r.2) cl.stateTracker }

/-- `if (m_EnableAutomaticBarriers) trackResourcesAndBarriers(state);` -/
def trackIfEnabled (state : GraphicsState) (cl : CommandList) : CommandList :=
  if cl.enableAutomaticBarriers then trackResourcesAndBarriers dev state cl else cl

/-! ## `setGraphicsState` -/

/-- `setGraphicsState` up to the open render pass: track the resources, bind the pipeline if
it changed, end the render pass if the framebuffer changed or barriers are pending (barriers
cannot be set inside a render pass), commit the barriers, and begin a render pass if none is
open. -/
def setGraphicsStatePrologue (state : GraphicsState) (pipeline : Handle) (cl : CommandList) :
    CommandList :=
  let cl := trackIfEnabled dev state cl
  let anyBarriers := cl.anyBarriers
  let cl := if cl.currentGraphicsState.pipeline != state.pipeline then
    cl.emit [.bindPipeline pipeline] [pipeline] else cl
  let cl := if cl.currentGraphicsState.framebuffer != state.framebuffer || anyBarriers then
    endRenderPass cl else cl
  let cl := commitBarriers cl
  if cl.currentGraphicsState.framebuffer.isNone then beginRenderPass state.framebuffer cl else cl

end Device

/-- Modelled from the spec: `bindBindingSets(...)` binds the sets from index 0 with the current
volatile version. -/
def bindBindingSets (bindings : List Handle) (cl : CommandList) : List Command :=
  [.bindDescriptorSets bindings cl.volatileVersion]

/-- The binding sets, when they changed or a volatile buffer was written. -/
def bindingSetCommands (cl : CommandList) (state : GraphicsState) : List Command :=
  if arraysAreDifferent cl.currentGraphicsState.bindings state.bindings ||
      cl.anyVolatileBufferWrites then bindBindingSets state.bindings cl
  else []

/-- `setViewport`, when viewports are given and changed. The code passes
`VKViewportWithDXCoords(vp)` of each viewport, a flip of its y axis in float arithmetic; that
conversion is left out, and the viewports are recorded as given. -/
def viewportCommands (cache state : GraphicsState) : List Command :=
  if !state.viewport.viewports.isEmpty &&
      arraysAreDifferent state.viewport.viewports cache.viewport.viewports then
    [.setViewport state.viewport.viewports]
  else []

/-- `setScissor`, when scissors are given and changed. -/
def scissorCommands (cache state : GraphicsState) : Option (List Command) :=
  if !state.viewport.scissorRects.isEmpty &&
      arraysAreDifferent state.viewport.scissorRects cache.viewport.scissorRects then
    (state.viewport.scissorRects.mapM convertScissor).map fun scissors => [.setScissor scissors]
  else some []

/-- `setStencilReference`, when the pipeline has a dynamic reference and it was bound now or
the value changed. -/
def stencilRefCommands (pso : GraphicsPipeline) (updatePipeline : Bool)
    (cache state : GraphicsState) : List Command :=
  if pso.desc.renderState.depthStencilState.dynamicStencilRef &&
      (updatePipeline || cache.dynamicStencilRefValue != state.dynamicStencilRefValue) then
    [.setStencilReference state.dynamicStencilRefValue]
  else []

/-- `setBlendConstants`, when the pipeline uses them and it was bound now or they changed. -/
def blendConstantCommands (pso : GraphicsPipeline) (updatePipeline : Bool)
    (cache state : GraphicsState) : List Command :=
  if pso.usesBlendConstants &&
      (updatePipeline || cache.blendConstantColor != state.blendConstantColor) then
    [.setBlendConstants state.blendConstantColor]
  else []

/-- `state.indexBuffer.format == Format::R16_UINT ? vk::IndexType::eUint16 : vk::IndexType::eUint32` -/
def indexType (format : Format) : IndexType :=
  if format = Format.R16_UINT then .eUint16 else .eUint32

/-- `bindIndexBuffer`, when an index buffer is given and changed; it is referenced. -/
def indexBufferCommands (cache state : GraphicsState) : List Command × List Handle :=
  match state.indexBuffer.buffer with
  | some b =>
    if cache.indexBuffer != state.indexBuffer then
      ([.bindIndexBuffer b state.indexBuffer.offset (indexType state.indexBuffer.format)], [b])
    else ([], [])
  | none => ([], [])

/-- `bindVertexBuffers`, when vertex buffers are given and changed; the buffers of the
bindings the loop keeps are referenced. -/
def vertexBufferCommands (cache state : GraphicsState) : Option (List Command × List Handle) :=
  if !state.vertexBuffers.isEmpty && arraysAreDifferent state.vertexBuffers cache.vertexBuffers
  then (vertexBufferArrays state.vertexBuffers).map fun a =>
    ([.bindVertexBuffers a.bound], a.referenced)
  else some ([], [])

/-- `setFragmentShadingRateKHR`, whenever the state enables shading rate. -/
def shadingRateCommands (state : GraphicsState) : List Command :=
  if state.shadingRateState.enabled then [.setFragmentShadingRate state.shadingRateState] else []

/-- The commands and references of `setGraphicsState` after the render pass is open, in the
order of the source; the indirect-argument buffer is referenced last. -/
def graphicsStateCommands (pso : GraphicsPipeline) (updatePipeline : Bool) (cl : CommandList)
    (state : GraphicsState) : Option (List Command × List Handle) := do
  let cache := cl.currentGraphicsState
  let scissors ← scissorCommands cache state
  let vertexBuffers ← vertexBufferCommands cache state
  pure (bindingSetCommands cl state ++ viewportCommands cache state ++ scissors ++
      stencilRefCommands pso updatePipeline cache state ++
      blendConstantCommands pso updatePipeline cache state ++
      (indexBufferCommands cache state).1 ++ vertexBuffers.1 ++ shadingRateCommands state,
    (indexBufferCommands cache state).2 ++ vertexBuffers.2 ++ state.indirectParams.toList)

section Device

variable (dev : Device)

def setGraphicsState (state : GraphicsState) (cl : CommandList) : Option CommandList := do
  let pipeline ← state.pipeline
  let updatePipeline := cl.currentGraphicsState.pipeline != state.pipeline
  let cl := setGraphicsStatePrologue dev state pipeline cl
  let (cmds, refs) ← graphicsStateCommands (dev.graphicsPipeline pipeline) updatePipeline cl state
  pure { cl.emit cmds refs with
    currentGraphicsState := state
    currentMeshletFramebuffer := none
    anyVolatileBufferWrites := false }

/-! ## Draws -/

/-- Rebind the current binding sets when a volatile buffer was written since they were
bound. -/
def updateGraphicsVolatileBuffers (cl : CommandList) : CommandList :=
  if cl.anyVolatileBufferWrites && cl.currentGraphicsState.pipeline.isSome then
    { cl.emit (bindBindingSets cl.currentGraphicsState.bindings cl) [] with
      anyVolatileBufferWrites := false }
  else cl

def draw (args : DrawArguments) (cl : CommandList) : CommandList :=
  (updateGraphicsVolatileBuffers cl).emit [.draw args] []

def drawIndexed (args : DrawArguments) (cl : CommandList) : CommandList :=
  (updateGraphicsVolatileBuffers cl).emit [.drawIndexed args] []

/-- The indirect-argument buffer is asserted non-null and dereferenced. -/
def drawIndirect (offsetBytes drawCount : UInt32) (cl : CommandList) : Option CommandList := do
  let cl := updateGraphicsVolatileBuffers cl
  let indirectParams ← cl.currentGraphicsState.indirectParams
  pure (cl.emit [.drawIndirect indirectParams offsetBytes drawCount] [])

def drawIndexedIndirect (offsetBytes drawCount : UInt32) (cl : CommandList) :
    Option CommandList := do
  let cl := updateGraphicsVolatileBuffers cl
  let indirectParams ← cl.currentGraphicsState.indirectParams
  pure (cl.emit [.drawIndexedIndirect indirectParams offsetBytes drawCount] [])

/-- The indirect-argument and count buffers are asserted non-null and dereferenced. -/
def drawIndexedIndirectCount (offsetBytes : UInt32) (countBuffer : Option Handle)
    (countBufferOffset maxDrawCount : UInt32) (cl : CommandList) : Option CommandList := do
  let cl := updateGraphicsVolatileBuffers cl
  let indirectParams ← cl.currentGraphicsState.indirectParams
  let countBuf ← countBuffer
  pure (cl.emit [.drawIndexedIndirectCount indirectParams offsetBytes countBuf countBufferOffset
    maxDrawCount] [])

/-! ## Runs -/

/-- A call on the command list. `writeVolatileBuffer` and `setBufferState` are calls made
outside the modelled code: a `writeBuffer` on a volatile buffer, which makes a new version
current and sets `m_AnyVolatileBufferWrites`, and a barrier added to the state tracker. -/
inductive Op
  | setGraphicsState (state : GraphicsState)
  | draw (args : DrawArguments)
  | drawIndexed (args : DrawArguments)
  | drawIndirect (offsetBytes drawCount : UInt32)
  | drawIndexedIndirect (offsetBytes drawCount : UInt32)
  | drawIndexedIndirectCount (offsetBytes : UInt32) (countBuffer : Option Handle)
      (countBufferOffset maxDrawCount : UInt32)
  | beginRenderPass (framebuffer : Option Handle)
  | endRenderPass
  | writeVolatileBuffer
  | setBufferState (buffer : Handle) (state : ResourceStates)

/-- The five draw calls. -/
def Op.isDraw : Op → Bool
  | .draw _ | .drawIndexed _ | .drawIndirect _ _ | .drawIndexedIndirect _ _
  | .drawIndexedIndirectCount _ _ _ _ => true
  | _ => false

def step (cl : CommandList) : Op → Option CommandList
  | .setGraphicsState state => setGraphicsState dev state cl
  | .draw args => some (draw args cl)
  | .drawIndexed args => some (drawIndexed args cl)
  | .drawIndirect offsetBytes drawCount => drawIndirect offsetBytes drawCount cl
  | .drawIndexedIndirect offsetBytes drawCount => drawIndexedIndirect offsetBytes drawCount cl
  | .drawIndexedIndirectCount offsetBytes countBuffer countBufferOffset maxDrawCount =>
    drawIndexedIndirectCount offsetBytes countBuffer countBufferOffset maxDrawCount cl
  | .beginRenderPass framebuffer => some (beginRenderPass framebuffer cl)
  | .endRenderPass => some (endRenderPass cl)
  | .writeVolatileBuffer =>
    some { cl with anyVolatileBufferWrites := true, volatileVersion := cl.volatileVersion + 1 }
  | .setBufferState buffer state =>
    some { cl with stateTracker := cl.stateTracker.requireBufferState buffer state }

/-- The calls `ops` in order; `none` if one of them cannot complete. -/
def run (cl : CommandList) : List Op → Option CommandList
  | [] => some cl
  | op :: ops => (step dev cl op).bind (run · ops)

end Device

end Nvrhi
