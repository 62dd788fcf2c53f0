import Nvrhi.Conversions

/-!
# Resources of recorded commands

A command buffer names objects by their native handles, so each object it names has to
stay alive until the buffer has executed: the command list pushes the object to
`referencedResources` when it records the handle, and a framebuffer keeps the textures
behind its views in `fb->resources`. Indirect draws also read buffers as indirect data,
which the state tracker has to move to `IndirectArgument` before the draw.

`Retains` says that every object a recorded command names is referenced, except the
count buffer of `drawIndexedIndirectCount`, and every call keeps it (`Retains.step`).
`drawIndexedIndirectCount` neither references its count buffer nor requires a state for
it: the draw calls leave the state tracker as it is.

* `recorded_objects_retained`: every object recorded by a run is referenced, directly or
  through its framebuffer, except count buffers.
* `countBuffer_not_retained`: a count buffer recorded without being referenced.
* `countBuffer_not_transitioned`: a count buffer read by a draw while still in the state
  a barrier left it in.
-/

namespace Nvrhi

open CommandList

/-! ## The objects a command names -/

/-- The objects whose native handles a command records: the pipeline, the framebuffer
(through its attachment views), the index and vertex buffers, and the indirect-argument and
count buffers. -/
def Command.objects : Command → List Handle
  | .bindPipeline p => [p]
  | .beginRendering fb => [fb]
  | .bindIndexBuffer b _ _ => [b]
  | .bindVertexBuffers es => es.filterMap fun e => e.map Prod.fst
  | .drawIndirect b _ _ | .drawIndexedIndirect b _ _ => [b]
  | .drawIndexedIndirectCount b _ cb _ _ => [b, cb]
  | _ => []

/-- The count buffer of `drawIndexedIndirectCount`. -/
def Command.countBuffer : Command → Option Handle
  | .drawIndexedIndirectCount _ _ cb _ _ => some cb
  | _ => none

/-- The vertex buffers `bindVertexBuffers` passes are among those the loop referenced. -/
theorem vertexBufferArrays_bound_referenced {bindings : List VertexBufferBinding}
    {a : VertexBufferArrays} (h : vertexBufferArrays bindings = some a) :
    ∀ b ∈ (Command.bindVertexBuffers a.bound).objects, b ∈ a.referenced := by
  intro b hb
  obtain ⟨e, he, hb⟩ := List.mem_filterMap.mp hb
  rw [vertexBufferArrays_bound h] at he
  obtain ⟨j, hj, rfl⟩ := List.mem_map.mp he
  obtain ⟨⟨b', o⟩, hl, rfl⟩ := Option.map_eq_some'.mp hb
  obtain ⟨x, hx, hxe⟩ := Option.bind_eq_some.mp hl
  obtain ⟨buffer, hbuf, hxe⟩ := Option.map_eq_some'.mp hxe
  obtain ⟨rfl, rfl⟩ := Prod.mk.inj hxe
  have hx := List.mem_of_mem_getLast? hx
  have hslot : x.slot.toNat < c_MaxVertexAttributes := by
    have := maxSlot_lt bindings
    simp only [List.mem_filter, decide_eq_true_eq, List.mem_range] at hx hj
    omega
  rw [(vertexBufferArrays_spec h).2.2]
  exact List.mem_filterMap.mpr
    ⟨x, List.mem_filter.mpr ⟨(List.mem_filter.mp hx).1, by simpa using hslot⟩, hbuf⟩

/-- The state-setting commands name only the objects they reference: the index buffer and
the vertex buffers. -/
theorem graphicsStateCommands_objects {pso : GraphicsPipeline} {updatePipeline : Bool}
    {cl : CommandList} {state : GraphicsState} {cmds : List Command} {refs : List Handle}
    (h : graphicsStateCommands pso updatePipeline cl state = some (cmds, refs)) :
    ∀ c ∈ cmds, ∀ x ∈ c.objects, x ∈ refs := by
  intro c hc x hx
  rcases mem_graphicsStateCommands h hc with ⟨_, _, rfl⟩ | ⟨_, rfl⟩ | ⟨_, rfl⟩ | ⟨_, rfl⟩ |
    ⟨_, rfl⟩ | ⟨_, _, _, rfl, hb⟩ | ⟨_, ha, rfl, hvb⟩ | ⟨_, rfl⟩ <;>
    simp only [Command.objects, List.not_mem_nil] at hx
  -- only the index and vertex buffer binds name objects
  · exact List.mem_singleton.mp hx ▸ hb
  · exact hvb x (vertexBufferArrays_bound_referenced ha x hx)

/-- A draw call records one draw, which names the cached indirect-argument buffer, the count
buffer, or nothing. -/
theorem step_draw_objects {dev : Device} {cl cl' : CommandList} {op : Op} (hop : op.isDraw)
    (h : step dev cl op = some cl') :
    ∃ c, cl' = (updateGraphicsVolatileBuffers cl).emit [c] [] ∧
      ∀ x ∈ c.objects, x ∈ cl.currentGraphicsState.indirectParams ∨ c.countBuffer = some x := by
  cases op <;> simp only [Op.isDraw, Bool.false_eq_true, step, Option.some.injEq] at hop h
  case draw => exact ⟨.draw _, h.symm, by simp [Command.objects]⟩
  case drawIndexed => exact ⟨.drawIndexed _, h.symm, by simp [Command.objects]⟩
  case drawIndirect =>
    simp only [drawIndirect, bind, Option.bind_eq_some, pure, Option.some.injEq,
      updateGraphicsVolatileBuffers_currentGraphicsState] at h
    obtain ⟨ip, hip, rfl⟩ := h
    exact ⟨.drawIndirect ip _ _, rfl, by simp [Command.objects, hip]⟩
  case drawIndexedIndirect =>
    simp only [drawIndexedIndirect, bind, Option.bind_eq_some, pure, Option.some.injEq,
      updateGraphicsVolatileBuffers_currentGraphicsState] at h
    obtain ⟨ip, hip, rfl⟩ := h
    exact ⟨.drawIndexedIndirect ip _ _, rfl, by simp [Command.objects, hip]⟩
  case drawIndexedIndirectCount =>
    obtain ⟨ip, cb, hip, -, rfl⟩ := drawIndexedIndirectCount_eq_some cl h
    exact ⟨.drawIndexedIndirectCount ip _ cb _ _, rfl, by
      simp [Command.objects, Command.countBuffer, hip]⟩

/-! ## The invariant -/

/-- Every object a recorded command names is referenced, except the count buffer of
`drawIndexedIndirectCount`, and so is the cached indirect-argument buffer, which the
indirect draws record. -/
structure Retains (cl : CommandList) : Prop where
  recorded : ∀ c ∈ cl.cmdBuf, ∀ h ∈ c.objects,
    h ∈ cl.referencedResources ∨ c.countBuffer = some h
  indirectParams : ∀ ip ∈ cl.currentGraphicsState.indirectParams, ip ∈ cl.referencedResources

namespace Retains

variable {dev : Device} {cl cl' : CommandList}

theorem opened (enable : Bool) : Retains (.opened enable) :=
  ⟨fun _ h => (nomatch h), fun _ h => (nomatch h)⟩

/-- Recording commands whose objects are referenced afterwards, pushing references, and
keeping the cached indirect-argument buffer keeps the invariant. -/
theorem of_extend (h : Retains cl) (more : List Command)
    (hcmd : cl'.cmdBuf = cl.cmdBuf ++ more)
    (hrefs : cl.referencedResources <+: cl'.referencedResources)
    (hmore : ∀ c ∈ more, ∀ x ∈ c.objects, x ∈ cl'.referencedResources ∨ c.countBuffer = some x)
    (hip : ∀ ip ∈ cl'.currentGraphicsState.indirectParams, ip ∈ cl'.referencedResources) :
    Retains cl' := by
  refine ⟨fun c hc x hx => ?_, hip⟩
  rw [hcmd, List.mem_append] at hc
  rcases hc with hc | hc
  · exact (h.recorded c hc x hx).imp_left fun hm => hrefs.subset hm
  · exact hmore c hc x hx

/-- Commands that name no object, with the references and the cache's indirect-argument
buffer kept. -/
theorem of_no_objects (h : Retains cl) (ha : Appends (·.objects = []) cl cl')
    (hrefs : cl'.referencedResources = cl.referencedResources)
    (hip : cl'.currentGraphicsState.indirectParams = cl.currentGraphicsState.indirectParams) :
    Retains cl' := by
  obtain ⟨more, e, hmore⟩ := ha
  exact h.of_extend more e (hrefs ▸ List.prefix_refl _)
    (fun c hc x hx => by simp [hmore c hc] at hx) (hrefs ▸ hip ▸ h.indirectParams)

theorem endRenderPass (h : Retains cl) : Retains (endRenderPass cl) :=
  h.of_no_objects ⟨_, endRenderPass_cmdBuf cl, by split <;> simp [Command.objects]⟩
    (endRenderPass_referencedResources cl) (by simp)

theorem beginRenderPass (fb : Option Handle) (h : Retains cl) :
    Retains (beginRenderPass fb cl) :=
  h.endRenderPass.of_extend _ (beginRenderPass_cmdBuf cl fb) (by simp)
    (fun c hc x hx => by cases fb <;> simp_all [Command.objects])
    (by simpa using fun ip hip => .inl (h.indirectParams ip hip))

theorem commitBarriers (h : Retains cl) : Retains (commitBarriers cl) :=
  h.of_no_objects ⟨_, commitBarriers_cmdBuf cl, by split <;> simp [Command.objects]⟩
    (by simp) (by simp)

theorem trackIfEnabled (state : GraphicsState) (h : Retains cl) :
    Retains (trackIfEnabled dev state cl) :=
  h.of_no_objects ⟨[], by simp, by simp⟩ (by simp) (by simp)

theorem emit_bindPipeline (p : Handle) (h : Retains cl) :
    Retains (cl.emit [.bindPipeline p] [p]) :=
  h.of_extend _ (emit_cmdBuf _ _ _) (by simp) (by simp [Command.objects])
    (by simpa using fun ip hip => .inl (h.indirectParams ip hip))

theorem prologue (state : GraphicsState) (p : Handle) (h : Retains cl) :
    Retains (setGraphicsStatePrologue dev state p cl) :=
  prologue_induction dev state p cl (h.trackIfEnabled state) (fun _ hx => hx.emit_bindPipeline p)
    (fun _ hx => hx.endRenderPass) (fun _ hx _ => hx.commitBarriers)
    (fun _ hx => hx.beginRenderPass _)

theorem setGraphicsState {state : GraphicsState} (h : Retains cl)
    (hs : setGraphicsState dev state cl = some cl') : Retains cl' := by
  obtain ⟨p, cmds, refs, -, hc, rfl⟩ := setGraphicsState_eq_some hs
  obtain ⟨_, _, _, _, _, rfl⟩ := graphicsStateCommands_eq_some hc
  exact (h.prologue state p).of_extend cmds rfl (by simp)
    (fun c hc' x hx => .inl (List.mem_append_right _ (graphicsStateCommands_objects hc c hc' x hx)))
    (fun ip hip => List.mem_append_right _ (List.mem_append_right _ (by simpa using hip)))

theorem updateGraphicsVolatileBuffers (h : Retains cl) :
    Retains (updateGraphicsVolatileBuffers cl) :=
  h.of_no_objects ⟨_, updateGraphicsVolatileBuffers_cmdBuf cl, by
    split <;> simp [bindBindingSets, Command.objects]⟩ (by simp) (by simp)

theorem step {op : Op} (h : Retains cl) (hs : step dev cl op = some cl') : Retains cl' := by
  rcases step_eq_some hs with ⟨s, -, hs⟩ | ⟨hop, -⟩ | ⟨fb, -, rfl⟩ | ⟨-, rfl⟩ | ⟨-, rfl⟩ |
    ⟨b, s, -, rfl⟩
  · exact h.setGraphicsState hs
  · obtain ⟨c, rfl, hc⟩ := step_draw_objects hop hs
    exact h.updateGraphicsVolatileBuffers.of_extend _ (emit_cmdBuf _ _ _) (by simp)
      (fun c' hc' x hx => by
        obtain rfl := List.mem_singleton.mp hc'
        exact (hc x hx).imp_left fun hip => by simpa using h.indirectParams x hip)
      (by simpa using h.indirectParams)
  · exact h.beginRenderPass fb
  · exact h.endRenderPass
  all_goals exact h.of_no_objects (.refl _) rfl rfl

end Retains

/-- Every object a run records is referenced, except count buffers; the textures behind a
recorded framebuffer's views are kept by the framebuffer, when framebuffers are made by
`createFramebuffer`. -/
theorem recorded_objects_retained (dev : Device) (enable : Bool) (ops : List Op)
    (cl : CommandList)
    (hfb : ∀ fb, ∃ hasStencil desc, dev.framebuffer fb = createFramebuffer hasStencil desc)
    (hrun : run dev (.opened enable) ops = some cl) :
    (∀ c ∈ cl.cmdBuf, ∀ x ∈ c.objects, x ∈ cl.referencedResources ∨ c.countBuffer = some x) ∧
    ∀ fb, .beginRendering fb ∈ cl.cmdBuf → fb ∈ cl.referencedResources ∧
      ∀ t ∈ (dev.framebuffer fb).views, t ∈ (dev.framebuffer fb).resources := by
  have h := run_invariant dev Retains (fun _ _ _ h hs => h.step hs) (Retains.opened enable) hrun
  refine ⟨h.recorded, fun fb hc => ⟨?_, ?_⟩⟩
  · simpa [Command.objects, Command.countBuffer] using h.recorded _ hc fb
  · obtain ⟨hasStencil, desc, e⟩ := hfb fb
    rw [e]
    exact createFramebuffer_views_mem_resources hasStencil desc

/-- A render pass begun on framebuffer `1`, then a state on it: the run completes and the
framebuffer is referenced. -/
theorem recorded_objects_retained_framebuffer :
    ∃ cl, run plainDevice (.opened false)
      [.beginRenderPass (some 1),
        .setGraphicsState { GraphicsState.init with pipeline := some 0, framebuffer := some 1 }] =
        some cl ∧ (1 : Handle) ∈ cl.referencedResources :=
  (exists_run_of_readyRun plainDevice (by rfl)).imp fun cl hrun =>
    ⟨hrun, ((recorded_objects_retained plainDevice false _ cl
      (fun _ => ⟨fun _ => false, ⟨[], ⟨none⟩, ⟨none⟩⟩, rfl⟩) hrun).2 1
      (by rw [run_cmdBuf plainDevice hrun rfl]; decide)).1⟩

/-- `drawIndexedIndirectCount` records the count buffer `2` and references only the
pipeline and the indirect-argument buffer. -/
theorem countBuffer_not_retained :
    (run plainDevice (.opened false)
      [.setGraphicsState { GraphicsState.init with pipeline := some 0, indirectParams := some 1 },
        .drawIndexedIndirectCount 0 (some 2) 0 1]).map
        (fun cl => (cl.cmdBuf, cl.referencedResources)) =
      some ([.bindPipeline 0, .drawIndexedIndirectCount 1 0 2 0 1], [0, 1]) :=
  rfl

/-! ## Indirect-argument state -/

/-- The draw calls leave the state tracker as it is: no buffer they read is required in a
state. -/
theorem step_stateTracker_of_isDraw {dev : Device} {cl cl' : CommandList} {op : Op}
    (hop : op.isDraw) (h : step dev cl op = some cl') : cl'.stateTracker = cl.stateTracker := by
  obtain ⟨c, -, rfl⟩ := step_of_isDraw cl hop h
  simp

/-- With automatic barriers, and a tracker that requires `IndirectArgument` for the
indirect-argument buffer: the count buffer `2`, last written as an unordered-access view, is
read by the draw with no transition to `IndirectArgument` recorded, and stays tracked in the
unordered-access state. -/
theorem countBuffer_not_transitioned :
    (run ⟨plainDevice.graphicsPipeline, plainDevice.framebuffer,
        fun s _ => s.indirectParams.toList.map fun ip => (ip, ResourceStates.IndirectArgument)⟩
      (.opened true)
      [.setBufferState 2 ResourceStates.UnorderedAccess,
        .setGraphicsState { GraphicsState.init with pipeline := some 0, indirectParams := some 1 },
        .drawIndexedIndirectCount 0 (some 2) 0 1]).map
        (fun cl => (cl.cmdBuf, cl.stateTracker.resourceStates 2)) =
      some ([.bindPipeline 0,
          .pipelineBarrier [⟨2, ResourceStates.Unknown, ResourceStates.UnorderedAccess⟩,
            ⟨1, ResourceStates.Unknown, ResourceStates.IndirectArgument⟩],
          .drawIndexedIndirectCount 1 0 2 0 1],
        ResourceStates.UnorderedAccess) :=
  rfl

end Nvrhi
