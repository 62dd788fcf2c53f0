import Nvrhi.CommandList

/-!
# What each call does

One lemma per call of the command list, saying which members it changes and what it
appends to the command buffer, so that the invariants of the later files never unfold a
call. `setGraphicsState` is split at the open render pass: `setGraphicsStatePrologue` ends,
commits and begins (`prologue_currentGraphicsState`, `prologue_pendingBarriers`,
`prologue_cmdBuf`), and `graphicsStateCommands` only appends state-setting commands
(`setGraphicsState_eq_some`). A run completes when each of its calls has what it
dereferences (`exists_run_of_readyRun`).
-/

namespace Nvrhi

open CommandList

/-! ## Small pieces -/

section Pieces

variable (cl : CommandList) (cmds : List Command) (refs : List Handle)

@[simp] theorem emit_cmdBuf : (cl.emit cmds refs).cmdBuf = cl.cmdBuf ++ cmds := rfl
@[simp] theorem emit_referencedResources :
    (cl.emit cmds refs).referencedResources = cl.referencedResources ++ refs := rfl
@[simp] theorem emit_currentGraphicsState :
    (cl.emit cmds refs).currentGraphicsState = cl.currentGraphicsState := rfl
@[simp] theorem emit_currentMeshletFramebuffer :
    (cl.emit cmds refs).currentMeshletFramebuffer = cl.currentMeshletFramebuffer := rfl
@[simp] theorem emit_stateTracker : (cl.emit cmds refs).stateTracker = cl.stateTracker := rfl
@[simp] theorem emit_anyVolatileBufferWrites :
    (cl.emit cmds refs).anyVolatileBufferWrites = cl.anyVolatileBufferWrites := rfl
@[simp] theorem emit_volatileVersion : (cl.emit cmds refs).volatileVersion = cl.volatileVersion :=
  rfl
@[simp] theorem emit_enableAutomaticBarriers :
    (cl.emit cmds refs).enableAutomaticBarriers = cl.enableAutomaticBarriers := rfl

end Pieces

/-- The one command a guarded recording records. -/
theorem eq_of_mem_ite_singleton {p : Prop} [Decidable p] {c d : Command}
    (hc : c ∈ if p then [d] else []) : c = d := by
  split at hc
  · exact List.mem_singleton.mp hc
  · simp at hc

theorem GraphicsState.framebuffer_update_self {c : GraphicsState} {f : Option Handle}
    (h : c.framebuffer = f) : { c with framebuffer := f } = c := by
  cases c; subst h; rfl

/-- `endRenderPass` when a render pass is open. -/
theorem endRenderPass_of_open {cl : CommandList} (h : cl.openFramebuffer.isSome) :
    endRenderPass cl = { cl.emit [.endRendering] [] with
      currentGraphicsState := { cl.currentGraphicsState with framebuffer := none }
      currentMeshletFramebuffer := none } := by
  simp only [openFramebuffer, Option.isSome_or] at h
  simp [endRenderPass, h]

/-- `endRenderPass` when no render pass is open. -/
theorem endRenderPass_of_closed {cl : CommandList} (h : cl.openFramebuffer = none) :
    endRenderPass cl = cl := by
  simp only [openFramebuffer, Option.or_eq_none] at h
  simp [endRenderPass, h.1, h.2]

/-! ## What changes and what does not -/

section Frame

variable (cl : CommandList)

@[simp] theorem endRenderPass_stateTracker : (endRenderPass cl).stateTracker = cl.stateTracker := by
  unfold endRenderPass; split <;> rfl
@[simp] theorem endRenderPass_anyVolatileBufferWrites :
    (endRenderPass cl).anyVolatileBufferWrites = cl.anyVolatileBufferWrites := by
  unfold endRenderPass; split <;> rfl
@[simp] theorem endRenderPass_volatileVersion :
    (endRenderPass cl).volatileVersion = cl.volatileVersion := by
  unfold endRenderPass; split <;> rfl
@[simp] theorem endRenderPass_enableAutomaticBarriers :
    (endRenderPass cl).enableAutomaticBarriers = cl.enableAutomaticBarriers := by
  unfold endRenderPass; split <;> rfl
@[simp] theorem endRenderPass_currentGraphicsState :
    (endRenderPass cl).currentGraphicsState =
      { cl.currentGraphicsState with framebuffer := none } := by
  unfold endRenderPass
  split
  · rfl
  · exact (GraphicsState.framebuffer_update_self (by simp_all)).symm
@[simp] theorem endRenderPass_referencedResources :
    (endRenderPass cl).referencedResources = cl.referencedResources := by
  unfold endRenderPass; split <;> simp
@[simp] theorem endRenderPass_currentMeshletFramebuffer :
    (endRenderPass cl).currentMeshletFramebuffer = none := by
  unfold endRenderPass
  split <;> simp_all

theorem endRenderPass_openFramebuffer : (endRenderPass cl).openFramebuffer = none := by
  simp [openFramebuffer]

@[simp] theorem beginRenderPass_currentGraphicsState (fb : Option Handle) :
    (beginRenderPass fb cl).currentGraphicsState =
      { cl.currentGraphicsState with framebuffer := fb } := by
  cases fb <;> simp [beginRenderPass]

@[simp] theorem beginRenderPass_currentMeshletFramebuffer (fb : Option Handle) :
    (beginRenderPass fb cl).currentMeshletFramebuffer = fb := by
  cases fb <;> simp [beginRenderPass]

theorem beginRenderPass_openFramebuffer (fb : Option Handle) :
    (beginRenderPass fb cl).openFramebuffer = fb := by
  cases fb <;> simp [openFramebuffer]

@[simp] theorem beginRenderPass_stateTracker (fb : Option Handle) :
    (beginRenderPass fb cl).stateTracker = cl.stateTracker := by
  cases fb <;> simp [beginRenderPass]

@[simp] theorem beginRenderPass_anyVolatileBufferWrites (fb : Option Handle) :
    (beginRenderPass fb cl).anyVolatileBufferWrites = cl.anyVolatileBufferWrites := by
  cases fb <;> simp [beginRenderPass]

@[simp] theorem beginRenderPass_volatileVersion (fb : Option Handle) :
    (beginRenderPass fb cl).volatileVersion = cl.volatileVersion := by
  cases fb <;> simp [beginRenderPass]

@[simp] theorem beginRenderPass_enableAutomaticBarriers (fb : Option Handle) :
    (beginRenderPass fb cl).enableAutomaticBarriers = cl.enableAutomaticBarriers := by
  cases fb <;> simp [beginRenderPass]

theorem beginRenderPass_cmdBuf (fb : Option Handle) :
    (beginRenderPass fb cl).cmdBuf = (endRenderPass cl).cmdBuf ++ fb.toList.map .beginRendering := by
  cases fb <;> simp [beginRenderPass]

@[simp] theorem beginRenderPass_referencedResources (fb : Option Handle) :
    (beginRenderPass fb cl).referencedResources = cl.referencedResources ++ fb.toList := by
  cases fb <;> simp [beginRenderPass]

theorem commitBarriers_cmdBuf :
    (commitBarriers cl).cmdBuf = cl.cmdBuf ++
      if cl.stateTracker.pendingBarriers = [] then [] else
        [.pipelineBarrier cl.stateTracker.pendingBarriers] := by
  unfold commitBarriers; split <;> simp_all

@[simp] theorem commitBarriers_pendingBarriers :
    (commitBarriers cl).stateTracker.pendingBarriers = [] := by
  unfold commitBarriers; split <;> simp_all

@[simp] theorem commitBarriers_resourceStates :
    (commitBarriers cl).stateTracker.resourceStates = cl.stateTracker.resourceStates := by
  unfold commitBarriers; split <;> rfl

@[simp] theorem commitBarriers_currentGraphicsState :
    (commitBarriers cl).currentGraphicsState = cl.currentGraphicsState := by
  unfold commitBarriers; split <;> rfl

@[simp] theorem commitBarriers_currentMeshletFramebuffer :
    (commitBarriers cl).currentMeshletFramebuffer = cl.currentMeshletFramebuffer := by
  unfold commitBarriers; split <;> rfl

@[simp] theorem commitBarriers_referencedResources :
    (commitBarriers cl).referencedResources = cl.referencedResources := by
  unfold commitBarriers; split <;> simp

@[simp] theorem commitBarriers_anyVolatileBufferWrites :
    (commitBarriers cl).anyVolatileBufferWrites = cl.anyVolatileBufferWrites := by
  unfold commitBarriers; split <;> rfl

@[simp] theorem commitBarriers_volatileVersion :
    (commitBarriers cl).volatileVersion = cl.volatileVersion := by
  unfold commitBarriers; split <;> rfl

@[simp] theorem commitBarriers_enableAutomaticBarriers :
    (commitBarriers cl).enableAutomaticBarriers = cl.enableAutomaticBarriers := by
  unfold commitBarriers; split <;> rfl

theorem commitBarriers_openFramebuffer :
    (commitBarriers cl).openFramebuffer = cl.openFramebuffer := by
  simp [openFramebuffer]

end Frame

/-! ## Resource tracking -/

theorem requireBufferState_pendingBarriers (t : StateTracker) (b : Handle) (s : ResourceStates) :
    ∃ added, (t.requireBufferState b s).pendingBarriers = t.pendingBarriers ++ added := by
  unfold StateTracker.requireBufferState
  split
  · exact ⟨[], by simp⟩
  · exact ⟨_, rfl⟩

section Tracking

variable (dev : Device) (state : GraphicsState) (cl : CommandList)

/-- Tracking changes the state tracker only, and only appends barriers. -/
theorem trackIfEnabled_eq : ∃ t : StateTracker,
    trackIfEnabled dev state cl = { cl with stateTracker := t } ∧
      ∃ added, t.pendingBarriers = cl.stateTracker.pendingBarriers ++ added := by
  unfold trackIfEnabled trackResourcesAndBarriers
  split
  · refine ⟨_, rfl, ?_⟩
    generalize cl.stateTracker = t
    induction dev.requiredStates state cl.currentGraphicsState generalizing t with
    | nil => exact ⟨[], by simp⟩
    | cons r rs ih =>
      obtain ⟨a₁, h₁⟩ := requireBufferState_pendingBarriers t r.1 r.2
      obtain ⟨a₂, h₂⟩ := ih (t.requireBufferState r.1 r.2)
      exact ⟨a₁ ++ a₂, by simp [h₂, h₁]⟩
  · exact ⟨cl.stateTracker, rfl, [], by simp⟩

theorem trackIfEnabled_pendingBarriers :
    cl.stateTracker.pendingBarriers <+: (trackIfEnabled dev state cl).stateTracker.pendingBarriers := by
  obtain ⟨t, h, added, ht⟩ := trackIfEnabled_eq dev state cl
  rw [h, ht]
  exact List.prefix_append _ _

@[simp] theorem trackIfEnabled_currentGraphicsState :
    (trackIfEnabled dev state cl).currentGraphicsState = cl.currentGraphicsState := by
  obtain ⟨t, h, -⟩ := trackIfEnabled_eq dev state cl; rw [h]
@[simp] theorem trackIfEnabled_currentMeshletFramebuffer :
    (trackIfEnabled dev state cl).currentMeshletFramebuffer = cl.currentMeshletFramebuffer := by
  obtain ⟨t, h, -⟩ := trackIfEnabled_eq dev state cl; rw [h]
@[simp] theorem trackIfEnabled_cmdBuf : (trackIfEnabled dev state cl).cmdBuf = cl.cmdBuf := by
  obtain ⟨t, h, -⟩ := trackIfEnabled_eq dev state cl; rw [h]
@[simp] theorem trackIfEnabled_referencedResources :
    (trackIfEnabled dev state cl).referencedResources = cl.referencedResources := by
  obtain ⟨t, h, -⟩ := trackIfEnabled_eq dev state cl; rw [h]
@[simp] theorem trackIfEnabled_anyVolatileBufferWrites :
    (trackIfEnabled dev state cl).anyVolatileBufferWrites = cl.anyVolatileBufferWrites := by
  obtain ⟨t, h, -⟩ := trackIfEnabled_eq dev state cl; rw [h]
@[simp] theorem trackIfEnabled_volatileVersion :
    (trackIfEnabled dev state cl).volatileVersion = cl.volatileVersion := by
  obtain ⟨t, h, -⟩ := trackIfEnabled_eq dev state cl; rw [h]
@[simp] theorem trackIfEnabled_enableAutomaticBarriers :
    (trackIfEnabled dev state cl).enableAutomaticBarriers = cl.enableAutomaticBarriers := by
  obtain ⟨t, h, -⟩ := trackIfEnabled_eq dev state cl; rw [h]

end Tracking

/-! ## Commands appended -/

/-- `cl'` has the commands of `cl` followed by commands that satisfy `P`. -/
def Appends (P : Command → Prop) (cl cl' : CommandList) : Prop :=
  ∃ rest, cl'.cmdBuf = cl.cmdBuf ++ rest ∧ ∀ c ∈ rest, P c

namespace Appends

variable {P : Command → Prop} {cl cl₁ cl₂ cl₃ : CommandList}

theorem refl (cl : CommandList) : Appends P cl cl := ⟨[], by simp, by simp⟩

theorem trans (h₁ : Appends P cl₁ cl₂) (h₂ : Appends P cl₂ cl₃) : Appends P cl₁ cl₃ := by
  obtain ⟨r₁, e₁, p₁⟩ := h₁
  obtain ⟨r₂, e₂, p₂⟩ := h₂
  refine ⟨r₁ ++ r₂, by simp [e₁, e₂], fun c hc => ?_⟩
  rcases List.mem_append.1 hc with hc | hc
  exacts [p₁ c hc, p₂ c hc]

theorem emit {cmds : List Command} (refs : List Handle) (h : ∀ c ∈ cmds, P c) :
    Appends P cl (cl.emit cmds refs) :=
  ⟨cmds, rfl, h⟩

theorem ite {c : Prop} [Decidable c] (f : CommandList → CommandList)
    (h : ∀ cl, Appends P cl (f cl)) : Appends P cl (if c then f cl else cl) := by
  split
  exacts [h cl, refl cl]

theorem mono {Q : Command → Prop} (h : Appends P cl₁ cl₂) (hPQ : ∀ c, P c → Q c) :
    Appends Q cl₁ cl₂ := by
  obtain ⟨rest, e, hr⟩ := h
  exact ⟨rest, e, fun c hc => hPQ c (hr c hc)⟩

end Appends

section Pass

variable (cl : CommandList)

theorem endRenderPass_cmdBuf : (endRenderPass cl).cmdBuf =
    cl.cmdBuf ++ if cl.openFramebuffer.isSome then [.endRendering] else [] := by
  unfold endRenderPass
  split <;> simp_all [openFramebuffer]

theorem appends_endRenderPass : Appends (·.isPassOrBarrier) cl (endRenderPass cl) :=
  ⟨_, endRenderPass_cmdBuf cl, fun _ hc => by rw [eq_of_mem_ite_singleton hc]; rfl⟩

theorem appends_beginRenderPass (fb : Option Handle) :
    Appends (·.isPassOrBarrier) cl (beginRenderPass fb cl) :=
  (appends_endRenderPass cl).trans
    ⟨_, beginRenderPass_cmdBuf cl fb, fun _ hc => by
      obtain ⟨_, -, rfl⟩ := List.mem_map.mp hc; rfl⟩

theorem appends_commitBarriers : Appends (·.isPassOrBarrier) cl (commitBarriers cl) :=
  ⟨_, commitBarriers_cmdBuf cl, fun _ hc => by
    split at hc
    · exact absurd hc (List.not_mem_nil _)
    · rw [List.mem_singleton.mp hc]; rfl⟩

end Pass

/-! ## The prologue of `setGraphicsState` -/

section Prologue

variable (dev : Device) (state : GraphicsState) (p : Handle) (cl : CommandList)

/-- An invariant that tracking, binding the pipeline, ending and beginning the render pass
keep, and that committing keeps when barriers are pending only outside a render pass, is one
of the prologue: the prologue ends the render pass whenever barriers are pending. -/
theorem prologue_induction {P : CommandList → Prop}
    (htrack : P (trackIfEnabled dev state cl))
    (hbind : ∀ x, P x → P (x.emit [.bindPipeline p] [p]))
    (hend : ∀ x, P x → P (endRenderPass x))
    (hcommit : ∀ x, P x → (x.stateTracker.pendingBarriers ≠ [] → x.openFramebuffer = none) →
      P (commitBarriers x))
    (hbegin : ∀ x, P x → P (beginRenderPass state.framebuffer x)) :
    P (setGraphicsStatePrologue dev state p cl) := by
  simp only [setGraphicsStatePrologue]
  set t := trackIfEnabled dev state cl
  have tail : ∀ y, P y → y.stateTracker.pendingBarriers = t.stateTracker.pendingBarriers →
      ∀ c : Bool, (t.anyBarriers = true → c = true) →
      P (if (commitBarriers (if c = true then endRenderPass y else y)).currentGraphicsState.framebuffer.isNone
        then beginRenderPass state.framebuffer (commitBarriers (if c = true then endRenderPass y else y))
        else commitBarriers (if c = true then endRenderPass y else y)) := by
    intro y hy hpend c hc
    have hz : P (commitBarriers (if c = true then endRenderPass y else y)) := by
      apply hcommit
      · split
        exacts [hend _ hy, hy]
      · split
        · simp [endRenderPass_openFramebuffer]
        · intro hp
          simp_all [anyBarriers]
    generalize commitBarriers _ = z at hz ⊢
    split
    exacts [hbegin _ hz, hz]
  apply tail
  · split
    exacts [hbind _ htrack, htrack]
  · split <;> simp
  · intro h
    simp [h]

theorem prologue_currentGraphicsState :
    (setGraphicsStatePrologue dev state p cl).currentGraphicsState =
      { cl.currentGraphicsState with framebuffer := state.framebuffer } := by
  simp only [setGraphicsStatePrologue]
  split_ifs <;> simp_all [GraphicsState.ext_iff]

/-- After the prologue a render pass is open on the state's framebuffer, or none is open. -/
theorem prologue_openFramebuffer :
    (setGraphicsStatePrologue dev state p cl).openFramebuffer = state.framebuffer := by
  rw [openFramebuffer, prologue_currentGraphicsState]
  cases h : state.framebuffer with
  | some f => rfl
  | none =>
    simp only [setGraphicsStatePrologue]
    split_ifs <;> simp_all

@[simp] theorem prologue_pendingBarriers :
    (setGraphicsStatePrologue dev state p cl).stateTracker.pendingBarriers = [] := by
  simp only [setGraphicsStatePrologue]
  split_ifs <;> simp

/-- The prologue keeps the members it neither records into nor commits: tracking is the only
step that changes the tracked states. -/
theorem prologue_frame :
    (setGraphicsStatePrologue dev state p cl).anyVolatileBufferWrites = cl.anyVolatileBufferWrites ∧
    (setGraphicsStatePrologue dev state p cl).volatileVersion = cl.volatileVersion ∧
    (setGraphicsStatePrologue dev state p cl).enableAutomaticBarriers = cl.enableAutomaticBarriers ∧
    (setGraphicsStatePrologue dev state p cl).stateTracker.resourceStates =
      (trackIfEnabled dev state cl).stateTracker.resourceStates :=
  @prologue_induction dev state p cl (fun x => x.anyVolatileBufferWrites = cl.anyVolatileBufferWrites ∧
      x.volatileVersion = cl.volatileVersion ∧
      x.enableAutomaticBarriers = cl.enableAutomaticBarriers ∧
      x.stateTracker.resourceStates = (trackIfEnabled dev state cl).stateTracker.resourceStates)
    (by simp) (fun _ h => by simpa using h) (fun _ h => by simpa using h)
    (fun _ h _ => by simpa using h) (fun _ h => by simpa using h)

@[simp] theorem prologue_resourceStates :
    (setGraphicsStatePrologue dev state p cl).stateTracker.resourceStates =
      (trackIfEnabled dev state cl).stateTracker.resourceStates :=
  (prologue_frame dev state p cl).2.2.2

@[simp] theorem prologue_anyVolatileBufferWrites :
    (setGraphicsStatePrologue dev state p cl).anyVolatileBufferWrites =
      cl.anyVolatileBufferWrites :=
  (prologue_frame dev state p cl).1

@[simp] theorem prologue_volatileVersion :
    (setGraphicsStatePrologue dev state p cl).volatileVersion = cl.volatileVersion :=
  (prologue_frame dev state p cl).2.1

@[simp] theorem prologue_enableAutomaticBarriers :
    (setGraphicsStatePrologue dev state p cl).enableAutomaticBarriers =
      cl.enableAutomaticBarriers :=
  (prologue_frame dev state p cl).2.2.1

/-- The pipeline is bound first, and only when it changed; everything else the prologue
records ends or begins a rendering or records barriers. -/
theorem prologue_cmdBuf : ∃ rest, (setGraphicsStatePrologue dev state p cl).cmdBuf =
      cl.cmdBuf ++ ((if cl.currentGraphicsState.pipeline != state.pipeline then
        [.bindPipeline p] else []) ++ rest) ∧ ∀ c ∈ rest, c.isPassOrBarrier := by
  let t := trackIfEnabled dev state cl
  have h : Appends (·.isPassOrBarrier) (if t.currentGraphicsState.pipeline != state.pipeline then
      t.emit [.bindPipeline p] [p] else t) (setGraphicsStatePrologue dev state p cl) := by
    simp only [setGraphicsStatePrologue]
    exact ((Appends.ite _ appends_endRenderPass).trans (appends_commitBarriers _)).trans
      (Appends.ite _ (appends_beginRenderPass · _))
  obtain ⟨rest, h, hrest⟩ := h
  refine ⟨rest, ?_, hrest⟩
  rw [h]
  split <;> simp_all [t]

/-- The barriers pending once tracking has run are recorded by the prologue. -/
theorem prologue_records_pendingBarriers
    (h : (trackIfEnabled dev state cl).stateTracker.pendingBarriers ≠ []) :
    .pipelineBarrier (trackIfEnabled dev state cl).stateTracker.pendingBarriers ∈
      (setGraphicsStatePrologue dev state p cl).cmdBuf.drop cl.cmdBuf.length := by
  -- tracking left barriers pending, so the render pass is ended before they are committed
  have hany : (trackIfEnabled dev state cl).anyBarriers = true := by simpa [anyBarriers] using h
  simp only [setGraphicsStatePrologue, hany, Bool.or_true, if_true]
  set b := if (trackIfEnabled dev state cl).currentGraphicsState.pipeline != state.pipeline then
    (trackIfEnabled dev state cl).emit [.bindPipeline p] [p] else trackIfEnabled dev state cl
  set e := commitBarriers (endRenderPass b) with he
  obtain ⟨post, hpost, -⟩ : Appends (fun _ => True) e
      (if e.currentGraphicsState.framebuffer.isNone then beginRenderPass state.framebuffer e
        else e) :=
    Appends.ite _ fun x => (appends_beginRenderPass x _).mono fun _ _ => trivial
  rw [hpost, he, commitBarriers_cmdBuf, endRenderPass_cmdBuf]
  simp only [b]; split <;> simp [h]

end Prologue

/-! ## `setGraphicsState` -/

section SetGraphicsState

variable {dev : Device} {state : GraphicsState} {cl cl' : CommandList}

/-- The state-setting commands read the cache only away from its framebuffer, so the
prologue does not change them. -/
theorem graphicsStateCommands_prologue (pso : GraphicsPipeline) (updatePipeline : Bool)
    (p : Handle) : graphicsStateCommands pso updatePipeline (setGraphicsStatePrologue dev state p cl)
      state = graphicsStateCommands pso updatePipeline cl state := by
  simp only [graphicsStateCommands, bindingSetCommands, bindBindingSets, viewportCommands,
    scissorCommands, stencilRefCommands, blendConstantCommands, indexBufferCommands,
    vertexBufferCommands, prologue_currentGraphicsState, prologue_anyVolatileBufferWrites,
    prologue_volatileVersion]

/-- What `setGraphicsState` does when it completes: the prologue, then the state-setting
commands, then the cache is the new state and no meshlet framebuffer is open. -/
theorem setGraphicsState_eq_some (h : setGraphicsState dev state cl = some cl') :
    ∃ p cmds refs, state.pipeline = some p ∧
      graphicsStateCommands (dev.graphicsPipeline p)
        (cl.currentGraphicsState.pipeline != state.pipeline) cl state = some (cmds, refs) ∧
      cl' = { (setGraphicsStatePrologue dev state p cl).emit cmds refs with
        currentGraphicsState := state
        currentMeshletFramebuffer := none
        anyVolatileBufferWrites := false } := by
  simp only [setGraphicsState, bind, Option.bind_eq_some, graphicsStateCommands_prologue] at h
  obtain ⟨p, hp, ⟨cmds, refs⟩, hc, h⟩ := h
  exact ⟨p, cmds, refs, hp, hc, (Option.some.inj h).symm⟩

/-- The state-setting commands are the last commands `setGraphicsState` appends. -/
theorem setGraphicsState_records (h : setGraphicsState dev state cl = some cl') :
    ∃ p cmds refs, state.pipeline = some p ∧
      graphicsStateCommands (dev.graphicsPipeline p)
        (cl.currentGraphicsState.pipeline != state.pipeline) cl state = some (cmds, refs) ∧
      ∃ pre, cl'.cmdBuf = cl.cmdBuf ++ pre ++ cmds := by
  obtain ⟨p, cmds, refs, hp, hc, rfl⟩ := setGraphicsState_eq_some h
  obtain ⟨rest, e, -⟩ := prologue_cmdBuf dev state p cl
  exact ⟨p, cmds, refs, hp, hc, _, by rw [emit_cmdBuf, e, List.append_assoc]⟩

/-- `setGraphicsState` completes exactly when the pipeline is set, the scissors, if it
records them, convert, and the vertex buffers it binds, if any, are not null. -/
theorem setGraphicsState_isSome : (setGraphicsState dev state cl).isSome ↔
    state.pipeline.isSome ∧ (scissorCommands cl.currentGraphicsState state).isSome ∧
      (vertexBufferCommands cl.currentGraphicsState state).isSome := by
  cases hp : state.pipeline with
  | none => simp [setGraphicsState, hp]
  | some p =>
    simp only [setGraphicsState, hp, graphicsStateCommands_prologue]
    simp only [graphicsStateCommands]
    cases scissorCommands cl.currentGraphicsState state <;>
      cases vertexBufferCommands cl.currentGraphicsState state <;> simp [bind, pure]

theorem scissorCommands_isSome (cache : GraphicsState)
    (h : (state.viewport.scissorRects.mapM convertScissor).isSome) :
    (scissorCommands cache state).isSome := by
  unfold scissorCommands
  split
  · simpa using h
  · rfl

theorem vertexBufferCommands_isSome (cache : GraphicsState)
    (h : vertexBuffersValid state.vertexBuffers) : (vertexBufferCommands cache state).isSome := by
  unfold vertexBufferCommands
  split
  · simpa [vertexBufferArrays_isSome] using h
  · rfl

theorem graphicsStateCommands_eq_some {pso : GraphicsPipeline} {updatePipeline : Bool}
    {cmds : List Command} {refs : List Handle}
    (h : graphicsStateCommands pso updatePipeline cl state = some (cmds, refs)) :
    ∃ scissors vertexBuffers, scissorCommands cl.currentGraphicsState state = some scissors ∧
      vertexBufferCommands cl.currentGraphicsState state = some vertexBuffers ∧
      cmds = bindingSetCommands cl state ++ viewportCommands cl.currentGraphicsState state ++
        scissors ++ stencilRefCommands pso updatePipeline cl.currentGraphicsState state ++
        blendConstantCommands pso updatePipeline cl.currentGraphicsState state ++
        (indexBufferCommands cl.currentGraphicsState state).1 ++ vertexBuffers.1 ++
        shadingRateCommands state ∧
      refs = (indexBufferCommands cl.currentGraphicsState state).2 ++ vertexBuffers.2 ++
        state.indirectParams.toList := by
  simp only [graphicsStateCommands, bind, Option.bind_eq_some, pure, Option.some.injEq,
    Prod.mk.injEq] at h
  obtain ⟨scissors, hs, vb, hv, hc, hr⟩ := h
  exact ⟨scissors, vb, hs, hv, hc.symm, hr.symm⟩

/-- Each state-setting command is one of the eight kinds `setGraphicsState` records, and an
index or vertex buffer bind comes with the buffers it names among the references. -/
theorem mem_graphicsStateCommands {pso : GraphicsPipeline} {updatePipeline : Bool}
    {cmds : List Command} {refs : List Handle} {c : Command}
    (h : graphicsStateCommands pso updatePipeline cl state = some (cmds, refs)) (hc : c ∈ cmds) :
    (∃ sets v, c = .bindDescriptorSets sets v) ∨ (∃ vs, c = .setViewport vs) ∨
      (∃ ss, c = .setScissor ss) ∨ (∃ r, c = .setStencilReference r) ∨
      (∃ col, c = .setBlendConstants col) ∨ (∃ b off t, c = .bindIndexBuffer b off t ∧ b ∈ refs) ∨
      (∃ a, vertexBufferArrays state.vertexBuffers = some a ∧ c = .bindVertexBuffers a.bound ∧
        ∀ b ∈ a.referenced, b ∈ refs) ∨
      ∃ s, c = .setFragmentShadingRate s := by
  obtain ⟨scissors, vb, hs, hv, rfl, rfl⟩ := graphicsStateCommands_eq_some h
  simp only [List.mem_append] at hc
  rcases hc with (((((((hc | hc) | hc) | hc) | hc) | hc) | hc) | hc)
  · unfold bindingSetCommands bindBindingSets at hc
    exact .inl ⟨_, _, eq_of_mem_ite_singleton hc⟩
  · unfold viewportCommands at hc
    exact .inr <| .inl ⟨_, eq_of_mem_ite_singleton hc⟩
  · unfold scissorCommands at hs
    split at hs
    · obtain ⟨rs, -, rfl⟩ := Option.map_eq_some'.1 hs
      exact .inr <| .inr <| .inl ⟨_, List.mem_singleton.mp hc⟩
    · cases hs; simp at hc
  · unfold stencilRefCommands at hc
    exact .inr <| .inr <| .inr <| .inl ⟨_, eq_of_mem_ite_singleton hc⟩
  · unfold blendConstantCommands at hc
    exact .inr <| .inr <| .inr <| .inr <| .inl ⟨_, eq_of_mem_ite_singleton hc⟩
  · refine .inr <| .inr <| .inr <| .inr <| .inr <| .inl ?_
    unfold indexBufferCommands at hc ⊢
    split at hc
    · split at hc
      · exact ⟨_, _, _, List.mem_singleton.mp hc, by simp_all⟩
      · simp at hc
    · simp at hc
  · refine .inr <| .inr <| .inr <| .inr <| .inr <| .inr <| .inl ?_
    unfold vertexBufferCommands at hv
    split at hv
    · obtain ⟨a, ha, rfl⟩ := Option.map_eq_some'.1 hv
      exact ⟨a, ha, List.mem_singleton.mp hc, fun b hb => by simp [hb]⟩
    · cases hv; simp at hc
  · unfold shadingRateCommands at hc
    exact .inr <| .inr <| .inr <| .inr <| .inr <| .inr <| .inr ⟨_, eq_of_mem_ite_singleton hc⟩

theorem graphicsStateCommands_setsState {pso : GraphicsPipeline} {updatePipeline : Bool}
    {cmds : List Command} {refs : List Handle}
    (h : graphicsStateCommands pso updatePipeline cl state = some (cmds, refs)) :
    ∀ c ∈ cmds, c.setsState := fun _ hc => by
  rcases mem_graphicsStateCommands h hc with ⟨_, _, rfl⟩ | ⟨_, rfl⟩ | ⟨_, rfl⟩ | ⟨_, rfl⟩ |
    ⟨_, rfl⟩ | ⟨_, _, _, rfl, -⟩ | ⟨_, -, rfl, -⟩ | ⟨_, rfl⟩ <;> rfl

end SetGraphicsState

/-! ## Draws -/

section Draws

variable (cl : CommandList)

theorem updateGraphicsVolatileBuffers_cmdBuf : (updateGraphicsVolatileBuffers cl).cmdBuf =
    cl.cmdBuf ++ if cl.anyVolatileBufferWrites && cl.currentGraphicsState.pipeline.isSome then
      bindBindingSets cl.currentGraphicsState.bindings cl else [] := by
  unfold updateGraphicsVolatileBuffers; split <;> simp_all

@[simp] theorem updateGraphicsVolatileBuffers_anyVolatileBufferWrites :
    (updateGraphicsVolatileBuffers cl).anyVolatileBufferWrites =
      (cl.anyVolatileBufferWrites && cl.currentGraphicsState.pipeline.isNone) := by
  unfold updateGraphicsVolatileBuffers; split <;> simp_all
@[simp] theorem updateGraphicsVolatileBuffers_currentGraphicsState :
    (updateGraphicsVolatileBuffers cl).currentGraphicsState = cl.currentGraphicsState := by
  unfold updateGraphicsVolatileBuffers; split <;> rfl
@[simp] theorem updateGraphicsVolatileBuffers_currentMeshletFramebuffer :
    (updateGraphicsVolatileBuffers cl).currentMeshletFramebuffer =
      cl.currentMeshletFramebuffer := by
  unfold updateGraphicsVolatileBuffers; split <;> rfl
@[simp] theorem updateGraphicsVolatileBuffers_stateTracker :
    (updateGraphicsVolatileBuffers cl).stateTracker = cl.stateTracker := by
  unfold updateGraphicsVolatileBuffers; split <;> rfl
@[simp] theorem updateGraphicsVolatileBuffers_referencedResources :
    (updateGraphicsVolatileBuffers cl).referencedResources = cl.referencedResources := by
  unfold updateGraphicsVolatileBuffers; split <;> simp
@[simp] theorem updateGraphicsVolatileBuffers_volatileVersion :
    (updateGraphicsVolatileBuffers cl).volatileVersion = cl.volatileVersion := by
  unfold updateGraphicsVolatileBuffers; split <;> rfl
@[simp] theorem updateGraphicsVolatileBuffers_enableAutomaticBarriers :
    (updateGraphicsVolatileBuffers cl).enableAutomaticBarriers = cl.enableAutomaticBarriers := by
  unfold updateGraphicsVolatileBuffers; split <;> rfl

theorem updateGraphicsVolatileBuffers_openFramebuffer :
    (updateGraphicsVolatileBuffers cl).openFramebuffer = cl.openFramebuffer := by
  simp [openFramebuffer]

theorem drawIndexedIndirectCount_eq_some {offsetBytes countBufferOffset maxDrawCount : UInt32}
    {countBuffer : Option Handle} {cl' : CommandList}
    (h : drawIndexedIndirectCount offsetBytes countBuffer countBufferOffset maxDrawCount cl =
      some cl') :
    ∃ indirectParams countBuf, cl.currentGraphicsState.indirectParams = some indirectParams ∧
      countBuffer = some countBuf ∧ cl' = (updateGraphicsVolatileBuffers cl).emit
        [.drawIndexedIndirectCount indirectParams offsetBytes countBuf countBufferOffset
          maxDrawCount] [] := by
  simp only [drawIndexedIndirectCount, bind, Option.bind_eq_some, pure, Option.some.injEq,
    updateGraphicsVolatileBuffers_currentGraphicsState] at h
  obtain ⟨ip, hip, cb, hcb, rfl⟩ := h
  exact ⟨ip, cb, hip, hcb, rfl⟩

/-- A draw call rebinds the binding sets if a volatile buffer was written, then records one
draw command. -/
theorem step_of_isDraw {dev : Device} {op : Op} {cl' : CommandList} (hop : op.isDraw)
    (h : step dev cl op = some cl') :
    ∃ c, c.isDraw ∧ cl' = (updateGraphicsVolatileBuffers cl).emit [c] [] := by
  cases op <;> simp only [Op.isDraw, Bool.false_eq_true, step, Option.some.injEq] at hop h
  case draw => exact ⟨.draw _, rfl, h.symm⟩
  case drawIndexed => exact ⟨.drawIndexed _, rfl, h.symm⟩
  case drawIndirect =>
    simp only [drawIndirect, bind, Option.bind_eq_some, pure, Option.some.injEq] at h
    obtain ⟨_, -, rfl⟩ := h
    exact ⟨.drawIndirect _ _ _, rfl, rfl⟩
  case drawIndexedIndirect =>
    simp only [drawIndexedIndirect, bind, Option.bind_eq_some, pure, Option.some.injEq] at h
    obtain ⟨_, -, rfl⟩ := h
    exact ⟨.drawIndexedIndirect _ _ _, rfl, rfl⟩
  case drawIndexedIndirectCount =>
    obtain ⟨_, _, -, -, rfl⟩ := drawIndexedIndirectCount_eq_some cl h
    exact ⟨.drawIndexedIndirectCount _ _ _ _ _, rfl, rfl⟩

end Draws

/-- What one call does, by the call. -/
theorem step_eq_some {dev : Device} {cl cl' : CommandList} {op : Op}
    (h : step dev cl op = some cl') :
    (∃ state, op = .setGraphicsState state ∧ setGraphicsState dev state cl = some cl') ∨
    (op.isDraw ∧ ∃ c, c.isDraw ∧ cl' = (updateGraphicsVolatileBuffers cl).emit [c] []) ∨
    (∃ fb, op = .beginRenderPass fb ∧ cl' = beginRenderPass fb cl) ∨
    (op = .endRenderPass ∧ cl' = endRenderPass cl) ∨
    (op = .writeVolatileBuffer ∧ cl' = { cl with
      anyVolatileBufferWrites := true
      volatileVersion := cl.volatileVersion + 1 }) ∨
    (∃ buffer state, op = .setBufferState buffer state ∧
      cl' = { cl with stateTracker := cl.stateTracker.requireBufferState buffer state }) := by
  cases op
  case setGraphicsState state => exact .inl ⟨state, rfl, h⟩
  case beginRenderPass fb => exact .inr <| .inr <| .inl ⟨fb, rfl, (Option.some.inj h).symm⟩
  case endRenderPass => exact .inr <| .inr <| .inr <| .inl ⟨rfl, (Option.some.inj h).symm⟩
  case writeVolatileBuffer =>
    exact .inr <| .inr <| .inr <| .inr <| .inl ⟨rfl, (Option.some.inj h).symm⟩
  case setBufferState b s =>
    exact .inr <| .inr <| .inr <| .inr <| .inr ⟨b, s, rfl, (Option.some.inj h).symm⟩
  all_goals exact .inr <| .inl ⟨rfl, step_of_isDraw cl (by rfl) h⟩

/-- `setGraphicsState` appends no draw, and records the barriers pending once tracking has
run. -/
theorem setGraphicsState_cmdBuf {dev : Device} {state : GraphicsState} {cl cl' : CommandList}
    (h : setGraphicsState dev state cl = some cl') :
    ∃ new, cl'.cmdBuf = cl.cmdBuf ++ new ∧ (∀ c ∈ new, c.isDraw = false) ∧
      ((trackIfEnabled dev state cl).stateTracker.pendingBarriers ≠ [] →
        .pipelineBarrier (trackIfEnabled dev state cl).stateTracker.pendingBarriers ∈ new) := by
  obtain ⟨p, cmds, refs, -, hc, rfl⟩ := setGraphicsState_eq_some h
  obtain ⟨rest, hp, hrest⟩ := prologue_cmdBuf dev state p cl
  refine ⟨((if cl.currentGraphicsState.pipeline != state.pipeline then [.bindPipeline p] else []) ++
    rest) ++ cmds, by simp [hp], fun c hc' => ?_, fun hT => ?_⟩
  · simp only [List.mem_append] at hc'
    rcases hc' with (hc' | hc') | hc'
    · rw [eq_of_mem_ite_singleton hc']; rfl
    · exact Command.isDraw_of_isPassOrBarrier (hrest c hc')
    · exact Command.isDraw_of_setsState (graphicsStateCommands_setsState hc c hc')
  · have hb := prologue_records_pendingBarriers dev state p cl hT
    rw [hp, List.drop_left] at hb
    exact List.mem_append_left _ hb

theorem setGraphicsState_openFramebuffer {dev : Device} {state : GraphicsState}
    {cl cl' : CommandList} (h : setGraphicsState dev state cl = some cl') :
    cl'.openFramebuffer = state.framebuffer := by
  obtain ⟨p, cmds, refs, -, -, rfl⟩ := setGraphicsState_eq_some h
  simp [openFramebuffer]

/-- Every call only appends to the command buffer. -/
theorem step_appends {dev : Device} {cl cl' : CommandList} {op : Op}
    (h : step dev cl op = some cl') : Appends (fun _ => True) cl cl' := by
  rcases step_eq_some h with ⟨s, -, h⟩ | ⟨-, c, -, rfl⟩ | ⟨fb, -, rfl⟩ | ⟨-, rfl⟩ | ⟨-, rfl⟩ |
    ⟨b, s, -, rfl⟩
  · obtain ⟨new, hn, -⟩ := setGraphicsState_cmdBuf h
    exact ⟨new, hn, by simp⟩
  · exact ⟨_, by rw [emit_cmdBuf, updateGraphicsVolatileBuffers_cmdBuf, List.append_assoc],
      by simp⟩
  · exact (appends_beginRenderPass cl fb).mono fun _ _ => trivial
  · exact (appends_endRenderPass cl).mono fun _ _ => trivial
  all_goals exact .refl _

/-- Calls other than `setGraphicsState` change the cache only in its framebuffer. -/
theorem step_currentGraphicsState {dev : Device} {cl cl' : CommandList} {op : Op}
    (h : step dev cl op = some cl') (hop : ∀ s, op ≠ .setGraphicsState s) :
    ∃ f, cl'.currentGraphicsState = { cl.currentGraphicsState with framebuffer := f } := by
  rcases step_eq_some h with ⟨s, rfl, -⟩ | ⟨-, c, -, rfl⟩ | ⟨fb, -, rfl⟩ | ⟨-, rfl⟩ | ⟨-, rfl⟩ |
    ⟨b, s, -, rfl⟩
  · exact absurd rfl (hop s)
  · exact ⟨cl.currentGraphicsState.framebuffer, by simp⟩
  · exact ⟨fb, beginRenderPass_currentGraphicsState cl fb⟩
  · exact ⟨none, endRenderPass_currentGraphicsState cl⟩
  all_goals exact ⟨cl.currentGraphicsState.framebuffer, rfl⟩

/-! ## Runs -/

section Runs

variable (dev : Device)

@[simp] theorem run_nil (cl : CommandList) : run dev cl [] = some cl := rfl

@[simp] theorem run_cons (cl : CommandList) (op : Op) (ops : List Op) :
    run dev cl (op :: ops) = (step dev cl op).bind (run dev · ops) := rfl

@[simp] theorem run_singleton (cl : CommandList) (op : Op) : run dev cl [op] = step dev cl op := by
  simp

theorem run_append (cl : CommandList) (ops more : List Op) :
    run dev cl (ops ++ more) = (run dev cl ops).bind (run dev · more) := by
  induction ops generalizing cl with
  | nil => rfl
  | cons op ops ih => cases h : step dev cl op <;> simp [h, ih]

theorem run_concat (cl : CommandList) (ops : List Op) (op : Op) :
    run dev cl (ops ++ [op]) = (run dev cl ops).bind (step dev · op) := by
  simp [run_append]

/-- A property that every call of a kind keeps holds after every run of such calls. -/
theorem run_invariant_on (Inv : CommandList → Prop) (Q : Op → Prop)
    (hstep : ∀ cl op cl', Q op → Inv cl → step dev cl op = some cl' → Inv cl') :
    ∀ {ops cl cl'}, (∀ op ∈ ops, Q op) → Inv cl → run dev cl ops = some cl' → Inv cl'
  | [], _, _, _, h, hrun => by cases hrun; exact h
  | op :: ops, cl, cl', hops, h, hrun => by
    obtain ⟨cl₁, h₁, hrun⟩ := Option.bind_eq_some.1 hrun
    exact run_invariant_on Inv Q hstep (fun o ho => hops o (List.mem_cons_of_mem _ ho))
      (hstep cl op cl₁ (hops op (List.mem_cons_self _ _)) h h₁) hrun

/-- A property that every call keeps holds after every run. -/
theorem run_invariant (Inv : CommandList → Prop)
    (hstep : ∀ cl op cl', Inv cl → step dev cl op = some cl' → Inv cl') {ops : List Op}
    {cl cl' : CommandList} (h : Inv cl) (hrun : run dev cl ops = some cl') : Inv cl' :=
  run_invariant_on dev Inv (fun _ => True) (fun cl op cl' _ => hstep cl op cl')
    (fun _ _ => trivial) h hrun

/-- A run only appends to the command buffer. -/
theorem run_appends {ops : List Op} {cl cl' : CommandList} (h : run dev cl ops = some cl') :
    ∃ new, cl'.cmdBuf = cl.cmdBuf ++ new := by
  obtain ⟨new, hn, -⟩ := run_invariant dev (Appends (fun _ => True) cl)
    (fun _ _ _ hx hs => hx.trans (step_appends hs)) (.refl cl) h
  exact ⟨new, hn⟩

end Runs

/-! ## Runs that complete -/

/-- What a call needs to complete, given whether the cache holds an indirect-argument
buffer: `setGraphicsState` a pipeline, scissors that convert and a buffer for every vertex
binding the loop does not skip; the indirect draws that buffer, and the count draw also its
count buffer. -/
def Op.ready (indirect : Bool) : Op → Bool
  | .setGraphicsState s => s.pipeline.isSome &&
      (s.viewport.scissorRects.mapM convertScissor).isSome && vertexBuffersValid s.vertexBuffers
  | .drawIndirect _ _ | .drawIndexedIndirect _ _ => indirect
  | .drawIndexedIndirectCount _ countBuffer _ _ => indirect && countBuffer.isSome
  | _ => true

/-- Whether the cache holds an indirect-argument buffer after the call. -/
def Op.indirectAfter (indirect : Bool) : Op → Bool
  | .setGraphicsState s => s.indirectParams.isSome
  | _ => indirect

/-- Every call of the list is ready when it is made, starting from a cache that holds an
indirect-argument buffer exactly when `indirect`. -/
def readyRun : Bool → List Op → Bool
  | _, [] => true
  | indirect, op :: ops => op.ready indirect && readyRun (op.indirectAfter indirect) ops

section Completion

variable {dev : Device} {cl cl' : CommandList} {op : Op}

/-- A call that is ready completes. -/
theorem exists_step_of_ready (h : op.ready cl.currentGraphicsState.indirectParams.isSome) :
    ∃ cl', step dev cl op = some cl' := by
  cases op <;> simp only [Op.ready, Bool.and_eq_true] at h
  case setGraphicsState s =>
    exact Option.isSome_iff_exists.mp <| setGraphicsState_isSome.mpr
      ⟨h.1.1, scissorCommands_isSome _ h.1.2, vertexBufferCommands_isSome _ h.2⟩
  case drawIndirect | drawIndexedIndirect =>
    obtain ⟨ip, hip⟩ := Option.isSome_iff_exists.mp h
    simp [step, drawIndirect, drawIndexedIndirect, hip]
  case drawIndexedIndirectCount =>
    obtain ⟨ip, hip⟩ := Option.isSome_iff_exists.mp h.1
    obtain ⟨cb, hcb⟩ := Option.isSome_iff_exists.mp h.2
    simp [step, drawIndexedIndirectCount, hip, hcb]
  all_goals exact ⟨_, rfl⟩

/-- Whether the cache holds an indirect-argument buffer after a call is what
`Op.indirectAfter` says. -/
theorem indirectParams_step (h : step dev cl op = some cl') :
    cl'.currentGraphicsState.indirectParams.isSome =
      op.indirectAfter cl.currentGraphicsState.indirectParams.isSome := by
  by_cases hop : ∃ s, op = .setGraphicsState s
  · obtain ⟨s, rfl⟩ := hop
    obtain ⟨p, cmds, refs, -, -, rfl⟩ := setGraphicsState_eq_some h
    rfl
  · obtain ⟨f, hf⟩ := step_currentGraphicsState h fun s hs => hop ⟨s, hs⟩
    rw [hf]
    cases op <;> first | rfl | exact absurd ⟨_, rfl⟩ hop

variable (dev)

/-- A run whose every call is ready completes. -/
theorem exists_run_of_readyRun :
    ∀ {cl : CommandList} {ops : List Op},
      readyRun cl.currentGraphicsState.indirectParams.isSome ops → ∃ cl', run dev cl ops = some cl'
  | cl, [], _ => ⟨cl, rfl⟩
  | cl, op :: ops, h => by
    simp only [readyRun, Bool.and_eq_true] at h
    obtain ⟨cl₁, h₁⟩ : ∃ cl₁, step dev cl op = some cl₁ := exists_step_of_ready h.1
    rw [run_cons, h₁, Option.some_bind]
    exact exists_run_of_readyRun (by rw [indirectParams_step h₁]; exact h.2)

/-- The commands a completed run records, read off its evaluation. -/
theorem run_cmdBuf {cl₀ cl : CommandList} {ops : List Op} {cmds : List Command}
    (hrun : run dev cl₀ ops = some cl) (h : (run dev cl₀ ops).map cmdBuf = some cmds) :
    cl.cmdBuf = cmds := by
  rw [hrun] at h
  exact Option.some.inj h

end Completion

/-- A device whose pipelines declare no optional dynamic state, whose framebuffers have no
attachments and whose state tracker requires nothing: the device of the concrete runs. -/
def plainDevice : Device :=
  ⟨fun _ => ⟨⟨none, none, none, none, none, ⟨⟨false⟩, ⟨false⟩⟩,
      ⟨false, .e1x1, .Passthrough, .Passthrough⟩⟩, false⟩,
    fun _ => ⟨[], none, none, none, []⟩, fun _ _ => []⟩

end Nvrhi
