import Nvrhi.Calls

/-!
# Render passes and barriers

`beginRenderPass`, `endRenderPass` and `setGraphicsState` keep two members, the graphics
state's framebuffer and the meshlet state's framebuffer, in step with the `beginRendering`
and `endRendering` commands they record: the commands nest, and the rendering open after
them is the one the members name (`Bracketed`). A barrier cannot be recorded inside a
rendering; `setGraphicsState` ends the render pass whenever barriers are pending before it
commits them, so no run records one there (`NoBarrierInsideRendering`).

* `renderPass_bracketing`: from a command list with no rendering open, every run of calls
  that have what they dereference completes; every run keeps the commands nested, the open
  rendering the one the members name, and the two members equal when both are set;
  `setGraphicsState` leaves open the rendering of its framebuffer, and every command recorded
  before the next `beginRendering` or `endRendering` is recorded inside it.
* `barriers_outside_rendering`: no run records a barrier inside a rendering, and
  `setGraphicsState` records the barriers pending on entry and those its tracking adds
  before it returns.
-/

namespace Nvrhi

open CommandList

/-! ## Barriers outside renderings -/

namespace NoBarrierInsideRendering

theorem nil : NoBarrierInsideRendering [] := by
  intro pre bs post h
  simp at h

/-- Appending `more` keeps barriers outside renderings when each barrier of `more` is
recorded with no rendering open. -/
theorem append {cmds more : List Command} (h : NoBarrierInsideRendering cmds)
    (hmore : ∀ pre bs post, more = pre ++ .pipelineBarrier bs :: post →
      (renderingAfter none cmds).bind (renderingAfter · pre) = some none) :
    NoBarrierInsideRendering (cmds ++ more) := by
  intro pre bs post e
  rcases List.append_eq_append_iff.1 e with ⟨a, rfl, hm⟩ | ⟨c, rfl, hc⟩
  · rw [renderingAfter_append]
    exact hmore a bs post hm
  · cases c with
    | nil => simpa using hmore [] bs post (by simpa using hc.symm)
    | cons x c =>
      obtain ⟨rfl, rfl⟩ := List.cons_eq_cons.1 hc
      exact h pre bs c rfl

theorem append_of_no_barrier {cmds more : List Command} (h : NoBarrierInsideRendering cmds)
    (hmore : ∀ bs, .pipelineBarrier bs ∉ more) : NoBarrierInsideRendering (cmds ++ more) :=
  h.append fun pre bs post e =>
    absurd (e ▸ List.mem_append_right pre (List.mem_cons_self _ post)) (hmore bs)

theorem append_of_not_isPassOrBarrier {cmds more : List Command}
    (h : NoBarrierInsideRendering cmds) (hmore : ∀ c ∈ more, c.isPassOrBarrier = false) :
    NoBarrierInsideRendering (cmds ++ more) :=
  h.append_of_no_barrier fun bs hb => by simpa [Command.isPassOrBarrier] using hmore _ hb

/-- A barrier recorded with no rendering open. -/
theorem append_barrier {cmds : List Command} {bs : List Barrier}
    (h : NoBarrierInsideRendering cmds) (hc : renderingAfter none cmds = some none) :
    NoBarrierInsideRendering (cmds ++ [.pipelineBarrier bs]) :=
  h.append fun pre _ _ e => by
    obtain ⟨rfl, -⟩ := List.append_eq_cons_iff.1 e.symm |>.resolve_right
      (by rintro ⟨_, -, h⟩; simp at h)
    simpa using hc

end NoBarrierInsideRendering

/-! ## The members name the open rendering -/

/-- The commands recorded so far nest, and the rendering open after them is the one the
framebuffer members name. -/
def Bracketed (cl : CommandList) : Prop :=
  renderingAfter none cl.cmdBuf = some cl.openFramebuffer

namespace Bracketed

variable {dev : Device} {state : GraphicsState} {cl cl' : CommandList}

theorem of_eq (h : Bracketed cl) (hc : cl'.cmdBuf = cl.cmdBuf)
    (ho : cl'.openFramebuffer = cl.openFramebuffer) : Bracketed cl' := by
  rw [Bracketed, hc, ho]
  exact h

theorem emit {cmds : List Command} (refs : List Handle) (h : Bracketed cl)
    (hc : ∀ c ∈ cmds, c.isRendering = false) : Bracketed (cl.emit cmds refs) := by
  rw [Bracketed, emit_cmdBuf, renderingAfter_append, h, Option.some_bind,
    renderingAfter_of_not_isRendering hc]
  simp [openFramebuffer]

theorem endRenderPass (h : Bracketed cl) : Bracketed (endRenderPass cl) := by
  rw [Bracketed, endRenderPass_cmdBuf, endRenderPass_openFramebuffer, renderingAfter_append, h]
  cases cl.openFramebuffer <;> rfl

theorem beginRenderPass (fb : Option Handle) (h : Bracketed cl) :
    Bracketed (beginRenderPass fb cl) := by
  have he : renderingAfter none (Nvrhi.endRenderPass cl).cmdBuf = some none := by
    simpa [Bracketed, endRenderPass_openFramebuffer] using h.endRenderPass
  rw [Bracketed, beginRenderPass_cmdBuf, beginRenderPass_openFramebuffer, renderingAfter_append, he]
  cases fb <;> rfl

theorem commitBarriers (h : Bracketed cl) : Bracketed (commitBarriers cl) := by
  rw [Bracketed, commitBarriers_cmdBuf, commitBarriers_openFramebuffer, renderingAfter_append, h,
    Option.some_bind, renderingAfter_of_not_isRendering]
  split <;> simp [Command.isRendering]

theorem prologue (p : Handle) (h : Bracketed cl) :
    Bracketed (setGraphicsStatePrologue dev state p cl) :=
  prologue_induction dev state p cl (h.of_eq (by simp) (by simp [openFramebuffer]))
    (fun _ hx => hx.emit _ (by simp [Command.isRendering])) (fun _ hx => hx.endRenderPass)
    (fun _ hx _ => hx.commitBarriers) (fun _ hx => hx.beginRenderPass _)

theorem setGraphicsState (h : Bracketed cl) (hs : setGraphicsState dev state cl = some cl') :
    Bracketed cl' := by
  obtain ⟨p, cmds, refs, -, hc, rfl⟩ := setGraphicsState_eq_some hs
  refine ((h.prologue p).emit refs fun c hc' =>
    Command.isRendering_of_isPassOrBarrier_eq_false
      (Command.isPassOrBarrier_of_setsState (graphicsStateCommands_setsState hc c hc'))).of_eq
    rfl ?_
  simp [openFramebuffer, ← prologue_openFramebuffer dev state p cl]

theorem updateGraphicsVolatileBuffers (h : Bracketed cl) :
    Bracketed (updateGraphicsVolatileBuffers cl) := by
  rw [Bracketed, updateGraphicsVolatileBuffers_cmdBuf, updateGraphicsVolatileBuffers_openFramebuffer,
    renderingAfter_append, h, Option.some_bind, renderingAfter_of_not_isRendering]
  split <;> simp [bindBindingSets, Command.isRendering]

theorem step {op : Op} (h : Bracketed cl) (hs : step dev cl op = some cl') : Bracketed cl' := by
  rcases step_eq_some hs with ⟨s, -, hs⟩ | ⟨-, c, hc, rfl⟩ | ⟨fb, -, rfl⟩ | ⟨-, rfl⟩ | ⟨-, rfl⟩ |
    ⟨b, s, -, rfl⟩
  · exact h.setGraphicsState hs
  · exact h.updateGraphicsVolatileBuffers.emit [] fun c' hc' => by
      rw [List.mem_singleton.1 hc']
      exact Command.isRendering_of_isPassOrBarrier_eq_false (Command.isPassOrBarrier_of_isDraw hc)
  · exact h.beginRenderPass fb
  · exact h.endRenderPass
  all_goals exact h.of_eq rfl rfl

end Bracketed

/-- The graphics state's and the meshlet state's framebuffers are equal when both are set. -/
def FramebuffersAgree (cl : CommandList) : Prop :=
  ∀ a b, cl.currentGraphicsState.framebuffer = some a → cl.currentMeshletFramebuffer = some b →
    a = b

theorem FramebuffersAgree.step {dev : Device} {cl cl' : CommandList} {op : Op}
    (h : FramebuffersAgree cl) (hs : step dev cl op = some cl') : FramebuffersAgree cl' := by
  rcases step_eq_some hs with ⟨s, -, hs⟩ | ⟨-, c, -, rfl⟩ | ⟨fb, -, rfl⟩ | ⟨-, rfl⟩ | ⟨-, rfl⟩ |
    ⟨b, s, -, rfl⟩
  · obtain ⟨p, cmds, refs, -, -, rfl⟩ := setGraphicsState_eq_some hs
    intro a b _ hb
    cases hb
  · simpa [FramebuffersAgree] using h
  · intro a b ha hb
    simp_all
  · intro a b ha
    simp at ha
  all_goals exact h

/-! ## Barriers are recorded outside renderings -/

/-- The commands nest as the members say, and no barrier was recorded inside a rendering. -/
structure BarrierSafe (cl : CommandList) : Prop where
  bracketed : Bracketed cl
  noBarrier : NoBarrierInsideRendering cl.cmdBuf

namespace BarrierSafe

variable {dev : Device} {state : GraphicsState} {cl cl' : CommandList}

theorem emit {cmds : List Command} (refs : List Handle) (h : BarrierSafe cl)
    (hc : ∀ c ∈ cmds, c.isPassOrBarrier = false) : BarrierSafe (cl.emit cmds refs) :=
  ⟨h.bracketed.emit refs fun c hc' => Command.isRendering_of_isPassOrBarrier_eq_false (hc c hc'),
    h.noBarrier.append_of_not_isPassOrBarrier hc⟩

theorem endRenderPass (h : BarrierSafe cl) : BarrierSafe (endRenderPass cl) := by
  refine ⟨h.bracketed.endRenderPass, ?_⟩
  rw [endRenderPass_cmdBuf]
  exact h.noBarrier.append_of_no_barrier fun bs => by split <;> simp

theorem beginRenderPass (fb : Option Handle) (h : BarrierSafe cl) :
    BarrierSafe (beginRenderPass fb cl) := by
  refine ⟨h.bracketed.beginRenderPass fb, ?_⟩
  rw [beginRenderPass_cmdBuf]
  exact h.endRenderPass.noBarrier.append_of_no_barrier fun bs => by simp

/-- Committing keeps barriers outside renderings when barriers are pending only while no
render pass is open. -/
theorem commitBarriers (h : BarrierSafe cl)
    (hclosed : cl.stateTracker.pendingBarriers ≠ [] → cl.openFramebuffer = none) :
    BarrierSafe (commitBarriers cl) := by
  refine ⟨h.bracketed.commitBarriers, ?_⟩
  rw [commitBarriers_cmdBuf]
  split
  · simpa using h.noBarrier
  · have hb := h.bracketed
    rw [Bracketed, hclosed ‹_›] at hb
    exact h.noBarrier.append_barrier hb

theorem prologue (p : Handle) (h : BarrierSafe cl) :
    BarrierSafe (setGraphicsStatePrologue dev state p cl) :=
  prologue_induction dev state p cl
    ⟨h.bracketed.of_eq (by simp) (by simp [openFramebuffer]), by simpa using h.noBarrier⟩
    (fun _ hx => hx.emit _ (by simp [Command.isPassOrBarrier])) (fun _ hx => hx.endRenderPass)
    (fun _ hx hc => hx.commitBarriers hc) (fun _ hx => hx.beginRenderPass _)

theorem updateGraphicsVolatileBuffers (h : BarrierSafe cl) :
    BarrierSafe (updateGraphicsVolatileBuffers cl) := by
  refine ⟨h.bracketed.updateGraphicsVolatileBuffers, ?_⟩
  rw [updateGraphicsVolatileBuffers_cmdBuf]
  exact h.noBarrier.append_of_no_barrier fun bs => by split <;> simp [bindBindingSets]

theorem step {op : Op} (h : BarrierSafe cl) (hs : step dev cl op = some cl') :
    BarrierSafe cl' := by
  refine ⟨h.bracketed.step hs, ?_⟩
  rcases step_eq_some hs with ⟨s, -, hs⟩ | ⟨-, c, hc, rfl⟩ | ⟨fb, -, rfl⟩ | ⟨-, rfl⟩ | ⟨-, rfl⟩ |
    ⟨b, s, -, rfl⟩
  · obtain ⟨p, cmds, refs, -, hc, rfl⟩ := setGraphicsState_eq_some hs
    exact ((h.prologue p).emit refs fun c hc' =>
      Command.isPassOrBarrier_of_setsState (graphicsStateCommands_setsState hc c hc')).noBarrier
  · exact (h.updateGraphicsVolatileBuffers.emit [] fun c' hc' => by
      rw [List.mem_singleton.1 hc']
      exact Command.isPassOrBarrier_of_isDraw hc).noBarrier
  · exact (h.beginRenderPass fb).noBarrier
  · exact h.endRenderPass.noBarrier
  all_goals exact h.noBarrier

end BarrierSafe

/-! ## Runs -/

/-- From a command list with no rendering open and neither framebuffer member set, every run
whose calls are ready (`readyRun`: a pipeline, scissors that convert and vertex buffers for
each `setGraphicsState`, an indirect-argument buffer for each indirect draw and a count buffer
for the count draw) completes.
After every run the recorded `beginRendering`/`endRendering` nest, the rendering open is the
one begun on the framebuffer the members name, and the two members agree when both are set.
After `setGraphicsState s` the rendering open is the one begun on `s.framebuffer`, none if it
is null; with a framebuffer `f`, each command recorded before the next `beginRendering` or
`endRendering` is recorded inside the rendering begun on `f`; a later `beginRenderPass` or
`endRenderPass`, called directly or by `setGraphicsState`, records one of the two first,
since a rendering is open. -/
theorem renderPass_bracketing (dev : Device) (cl₀ : CommandList)
    (hgfx : cl₀.currentGraphicsState.framebuffer = none)
    (hmeshlet : cl₀.currentMeshletFramebuffer = none)
    (hclosed : renderingAfter none cl₀.cmdBuf = some none) :
    (∀ ops, readyRun cl₀.currentGraphicsState.indirectParams.isSome ops →
      ∃ cl, run dev cl₀ ops = some cl) ∧
    (∀ ops cl, run dev cl₀ ops = some cl →
      renderingAfter none cl.cmdBuf = some cl.openFramebuffer ∧
      ∀ a b, cl.currentGraphicsState.framebuffer = some a →
        cl.currentMeshletFramebuffer = some b → a = b) ∧
    (∀ pre s cl₁, run dev cl₀ (pre ++ [.setGraphicsState s]) = some cl₁ →
      renderingAfter none cl₁.cmdBuf = some s.framebuffer) ∧
    (∀ pre s f mid cl₁ cl, run dev cl₀ (pre ++ [.setGraphicsState s]) = some cl₁ →
      s.framebuffer = some f → run dev cl₁ mid = some cl →
      ∀ new c rest, cl.cmdBuf = cl₁.cmdBuf ++ new ++ c :: rest →
        (∀ x ∈ new, x.isRendering = false) →
        renderingAfter none (cl₁.cmdBuf ++ new) = some (some f)) := by
  have inv : ∀ ops cl, run dev cl₀ ops = some cl → Bracketed cl ∧ FramebuffersAgree cl :=
    fun _ _ => run_invariant dev (fun cl => Bracketed cl ∧ FramebuffersAgree cl)
      (fun _ _ _ h hs => ⟨h.1.step hs, h.2.step hs⟩)
      ⟨by simpa [Bracketed, openFramebuffer, hgfx, hmeshlet] using hclosed,
        by simp [FramebuffersAgree, hgfx]⟩
  have hset : ∀ pre s cl₁, run dev cl₀ (pre ++ [.setGraphicsState s]) = some cl₁ →
      renderingAfter none cl₁.cmdBuf = some s.framebuffer := fun pre s cl₁ h₁ => by
    have hb := (inv _ _ h₁).1
    rw [run_concat] at h₁
    obtain ⟨_, -, h₁⟩ := Option.bind_eq_some.1 h₁
    rwa [Bracketed, setGraphicsState_openFramebuffer h₁] at hb
  refine ⟨fun _ h => exists_run_of_readyRun dev h, inv, hset,
    fun pre s f mid cl₁ cl h₁ hf _ new c rest _ hnew => ?_⟩
  rw [renderingAfter_append, hset pre s cl₁ h₁, hf, Option.some_bind,
    renderingAfter_of_not_isRendering hnew]

/-- `setGraphicsState` with framebuffer 1 on an opened command list completes, binds the
pipeline and leaves a rendering open on 1. -/
theorem renderPass_bracketing_opened :
    ∃ cl, run plainDevice (.opened false)
        [.setGraphicsState { GraphicsState.init with pipeline := some 0, framebuffer := some 1 }] =
        some cl ∧ cl.cmdBuf = [.bindPipeline 0, .beginRendering 1] ∧
      renderingAfter none cl.cmdBuf = some (some 1) :=
  have h := renderPass_bracketing plainDevice (.opened false) rfl rfl rfl
  (h.1 _ (by rfl)).imp fun cl hrun => ⟨hrun, run_cmdBuf plainDevice hrun rfl, h.2.2.1 [] _ cl hrun⟩

/-- No run records a barrier inside a rendering, from a command list whose members name the
open rendering and that has none there; calls that add barriers to the state tracker
(`setBufferState`) may come in between. `setGraphicsState` records, among the commands it
appends, the barriers pending on entry followed by those its tracking adds, so before any
draw that follows it. -/
theorem barriers_outside_rendering (dev : Device) :
    (∀ cl₀ ops cl, Bracketed cl₀ → NoBarrierInsideRendering cl₀.cmdBuf →
      run dev cl₀ ops = some cl → NoBarrierInsideRendering cl.cmdBuf) ∧
    (∀ cl₁ state cl₂ post cl, setGraphicsState dev state cl₁ = some cl₂ →
      run dev cl₂ post = some cl →
      cl₁.stateTracker.pendingBarriers <+:
          (trackIfEnabled dev state cl₁).stateTracker.pendingBarriers ∧
        ∃ new later, cl.cmdBuf = cl₁.cmdBuf ++ new ++ later ∧ (∀ c ∈ new, c.isDraw = false) ∧
          ((trackIfEnabled dev state cl₁).stateTracker.pendingBarriers ≠ [] →
            .pipelineBarrier (trackIfEnabled dev state cl₁).stateTracker.pendingBarriers ∈ new)) := by
  refine ⟨fun cl₀ ops cl h₀ h₀' hrun =>
    (run_invariant dev BarrierSafe (fun _ _ _ h hs => h.step hs) ⟨h₀, h₀'⟩ hrun).noBarrier,
    fun cl₁ state cl₂ post cl h₂ hrun => ⟨trackIfEnabled_pendingBarriers dev state cl₁, ?_⟩⟩
  obtain ⟨new, hnew, hdraw, hbar⟩ := setGraphicsState_cmdBuf h₂
  obtain ⟨later, hlater⟩ := run_appends dev hrun
  exact ⟨new, later, by rw [hlater, hnew], hdraw, hbar⟩

/-- A barrier becomes pending while a render pass is open on framebuffer 1:
`setGraphicsState` ends the pass, records the barrier and begins the pass again. -/
theorem barriers_outside_rendering_opened :
    ∃ cl, run plainDevice (.opened false) [.beginRenderPass (some 1),
        .setBufferState 2 ResourceStates.IndirectArgument,
        .setGraphicsState { GraphicsState.init with pipeline := some 0, framebuffer := some 1 }] =
        some cl ∧ cl.cmdBuf = [.beginRendering 1, .bindPipeline 0, .endRendering,
          .pipelineBarrier [⟨2, ResourceStates.Unknown, ResourceStates.IndirectArgument⟩],
          .beginRendering 1] ∧ NoBarrierInsideRendering cl.cmdBuf :=
  (exists_run_of_readyRun plainDevice (by rfl)).imp fun cl hrun =>
    ⟨hrun, run_cmdBuf plainDevice hrun rfl,
      (barriers_outside_rendering plainDevice).1 (.opened false) _ cl rfl .nil hrun⟩

end Nvrhi
