import Nvrhi.Pipeline

/-!
# Graphics state

`GraphicsState` and the bindings it holds (`nvrhi.h`), and two conversions
`CommandList::setGraphicsState` makes before recording: each scissor `Rect` becomes a
`vk::Rect2D` (`convertScissor`), and the vertex-buffer bindings are gathered into the two
local arrays `vertexBuffers` and `vertexBufferOffsets` (`vertexBufferArrays`).

The arrays are declared without an initializer. Their `vk::Buffer`s start as null handles
and their offsets as indeterminate values; an entry that no binding wrote is `none`.
Signed overflow in the scissor conversion, and the dereference of a null vertex buffer, are
undefined behaviour, and then the conversion gives `none`.
-/

namespace Nvrhi

/-! ## Bindings and the state -/

/-- `VertexBufferBinding`. The buffer is a pointer and may be null. -/
structure VertexBufferBinding where
  buffer : Option Handle
  slot : UInt32
  offset : UInt64
  deriving DecidableEq, Repr

/-- `IndexBufferBinding`. -/
structure IndexBufferBinding where
  buffer : Option Handle
  format : Format
  offset : UInt32
  deriving DecidableEq, Repr

/-- `ViewportState`. -/
structure ViewportState where
  viewports : List Viewport
  scissorRects : List Rect
  deriving DecidableEq, Repr

/-- `GraphicsState`. Pointers that may be null are options. -/
@[ext] structure GraphicsState where
  pipeline : Option Handle
  framebuffer : Option Handle
  viewport : ViewportState
  shadingRateState : VariableRateShadingState
  blendConstantColor : Color
  dynamicStencilRefValue : UInt8
  bindings : List Handle
  vertexBuffers : List VertexBufferBinding
  indexBuffer : IndexBufferBinding
  indirectParams : Option Handle
  deriving DecidableEq, Repr

/-- `GraphicsState()`: null pointers, empty arrays, and zero in every other member. -/
def GraphicsState.init : GraphicsState :=
  ⟨none, none, ⟨[], []⟩, ⟨false, .e1x1, .Passthrough, .Passthrough⟩,
    ⟨.posZero, .posZero, .posZero, .posZero⟩, 0, [], [], ⟨none, 0, 0⟩, none⟩

/-! ## Scissor rectangles -/

/-- `vk::Rect2D`: an `int32_t` offset and a `uint32_t` extent. -/
structure Rect2D where
  offsetX : Int
  offsetY : Int
  width : Nat
  height : Nat
  deriving DecidableEq, Repr

/-- `std::abs(a - b)` on `int`s: `none` when the difference, or its absolute value, does not
fit in an `int` (signed overflow, undefined behaviour). -/
def absDiff (a b : Int32) : Option Nat :=
  let d := a.toInt - b.toInt
  if -2 ^ 31 < d ∧ d < 2 ^ 31 then some d.natAbs else none

/-- One scissor of `setGraphicsState`:
`vk::Rect2D(vk::Offset2D(sc.minX, sc.minY), vk::Extent2D(std::abs(sc.maxX - sc.minX), std::abs(sc.maxY - sc.minY)))`. -/
def convertScissor (sc : Rect) : Option Rect2D := do
  let width ← absDiff sc.maxX sc.minX
  let height ← absDiff sc.maxY sc.minY
  pure ⟨sc.minX.toInt, sc.minY.toInt, width, height⟩

theorem absDiff_eq_some {a b : Int32} {n : Nat} :
    absDiff a b = some n ↔ (-2 ^ 31 < a.toInt - b.toInt ∧ a.toInt - b.toInt < 2 ^ 31) ∧
      n = (a.toInt - b.toInt).natAbs := by
  simp only [absDiff]
  split <;> rename_i h
  · simp only [Option.some.injEq, h, true_and, eq_comm]
  · simp only [h, false_and, reduceCtorEq]

theorem convertScissor_eq_some {sc : Rect} {r : Rect2D} :
    convertScissor sc = some r ↔ ∃ w h, absDiff sc.maxX sc.minX = some w ∧
      absDiff sc.maxY sc.minY = some h ∧ r = ⟨sc.minX.toInt, sc.minY.toInt, w, h⟩ := by
  simp only [convertScissor, Option.bind_eq_bind, Option.bind_eq_some, Option.pure_def,
    Option.some.injEq]
  constructor
  · rintro ⟨w, hw, h, hh, rfl⟩; exact ⟨w, h, hw, hh, rfl⟩
  · rintro ⟨w, h, hw, hh, rfl⟩; exact ⟨w, hw, h, hh, rfl⟩

/-! ## The vertex-buffer arrays -/

/-- `c_MaxVertexAttributes`. -/
def c_MaxVertexAttributes : Nat := 16

/-- The loop's state: the entries of `vertexBuffers`/`vertexBufferOffsets` (`none` where no
binding wrote), `maxVbIndex`, and the buffers pushed to `referencedResources`. -/
structure VertexBufferArrays where
  entries : List (Option (Handle × UInt64))
  maxVbIndex : UInt32
  referenced : List Handle
  deriving DecidableEq, Repr

/-- The arrays as declared, and `maxVbIndex = 0`. -/
def VertexBufferArrays.init : VertexBufferArrays :=
  ⟨List.replicate c_MaxVertexAttributes none, 0, []⟩

/-- One iteration of the loop over `state.vertexBuffers`: a slot past the arrays is skipped,
and below it the buffer is dereferenced, so a null one gives `none`. -/
def vertexBufferStep (a : VertexBufferArrays) (binding : VertexBufferBinding) :
    Option VertexBufferArrays :=
  if c_MaxVertexAttributes ≤ binding.slot.toNat then some a
  else binding.buffer.map fun buffer =>
    ⟨a.entries.set binding.slot.toNat (some (buffer, binding.offset)),
      max a.maxVbIndex binding.slot, a.referenced ++ [buffer]⟩

def vertexBufferArrays (bindings : List VertexBufferBinding) : Option VertexBufferArrays :=
  bindings.foldlM vertexBufferStep .init

/-- The bindings the loop completes on: each one it does not skip has a buffer. -/
def vertexBuffersValid (bindings : List VertexBufferBinding) : Bool :=
  bindings.all fun b => c_MaxVertexAttributes ≤ b.slot.toNat || b.buffer.isSome

theorem foldlM_vertexBufferStep_isSome (bindings : List VertexBufferBinding)
    (a : VertexBufferArrays) :
    (bindings.foldlM vertexBufferStep a).isSome = vertexBuffersValid bindings := by
  induction bindings generalizing a with
  | nil => rfl
  | cons b bs ih =>
    rw [List.foldlM_cons, vertexBuffersValid, List.all_cons, ← vertexBuffersValid,
      vertexBufferStep]
    split
    · simp [ih, *]
    · cases b.buffer <;> simp [ih, *]

theorem vertexBufferArrays_isSome (bindings : List VertexBufferBinding) :
    (vertexBufferArrays bindings).isSome = vertexBuffersValid bindings :=
  foldlM_vertexBufferStep_isSome bindings .init

/-- The entries `bindVertexBuffers(0, maxVbIndex + 1, ...)` passes. -/
def VertexBufferArrays.bound (a : VertexBufferArrays) : List (Option (Handle × UInt64)) :=
  a.entries.take (a.maxVbIndex + 1).toNat

end Nvrhi
