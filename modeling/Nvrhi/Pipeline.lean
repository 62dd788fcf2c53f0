import Nvrhi.Basic

/-!
# Graphics pipeline creation

`Device::createGraphicsPipeline` (`vulkan-graphics.cpp`) first counts the specialization
constants of the five shader stages (`countSpecializationConstants`), reserves the vectors
that will hold the `vk::SpecializationInfo`s, map entries and data words, and then lets
`makeShaderStageCreateInfo` take pointers `data() + size()` into those vectors before
pushing into them. The pointers stay valid only if no `push_back` reallocates, which holds
when the counting pass and the filling pass agree. A `std::vector` is modelled with its
capacity for that reason (`StdVector`), and a pointer into it is an index.

Later in the function the pipeline's dynamic states are chosen from its description
(`GraphicsPipeline.dynamicStates`); the command list reads the same members when it decides
which dynamic state to set.

The stage setup is proved correct in `Nvrhi.SpecializationConstants`.
-/

namespace Nvrhi

/-! ## `std::vector` with a capacity -/

/-- A `std::vector`: its elements and its capacity. -/
structure StdVector (α : Type) where
  data : List α
  capacity : Nat
  deriving DecidableEq, Repr

namespace StdVector

variable {α : Type}

def size (v : StdVector α) : Nat := v.data.length

/-- An empty vector after `reserve(n)`. The standard only promises a capacity of at least
`n`; the model takes `n`, where the bound is tightest. -/
def reserved (n : Nat) : StdVector α := ⟨[], n⟩

/-- `push_back`. A full vector reallocates, which moves its elements and invalidates every
pointer into it; the model grows it to twice its capacity (at least one). -/
def pushBack (v : StdVector α) (x : α) : StdVector α :=
  ⟨v.data ++ [x], if v.size < v.capacity then v.capacity else max 1 (2 * v.capacity)⟩

/-- `push_back` of each element of `xs` in turn. -/
def pushAll (v : StdVector α) (xs : List α) : StdVector α := xs.foldl pushBack v

@[simp] theorem pushBack_data (v : StdVector α) (x : α) : (v.pushBack x).data = v.data ++ [x] :=
  rfl

@[simp] theorem size_pushBack (v : StdVector α) (x : α) : (v.pushBack x).size = v.size + 1 := by
  simp [size]

/-- A `push_back` keeps the storage exactly when the vector is not full. -/
theorem pushBack_capacity_eq_iff (v : StdVector α) (x : α) :
    (v.pushBack x).capacity = v.capacity ↔ v.size < v.capacity := by
  by_cases h : v.size < v.capacity
  · simp [pushBack, h]
  · simp only [pushBack, h, if_false, iff_false]
    omega

theorem pushBack_capacity (v : StdVector α) (x : α) (h : v.size < v.capacity) :
    (v.pushBack x).capacity = v.capacity :=
  (pushBack_capacity_eq_iff v x).2 h

@[simp] theorem pushAll_data (v : StdVector α) (xs : List α) :
    (v.pushAll xs).data = v.data ++ xs := by
  induction xs generalizing v with
  | nil => simp [pushAll]
  | cons x xs ih => simp [pushAll] at ih ⊢; simp [ih]

/-- What is appended to a vector's elements sits from its old size on. -/
@[simp] theorem getElem?_append_size (v : StdVector α) (xs : List α) (j : Nat) :
    (v.data ++ xs)[v.size + j]? = xs[j]? := by
  rw [size, List.getElem?_append_right (Nat.le_add_right _ _), Nat.add_sub_cancel_left]

@[simp] theorem getElem?_append_size_self (v : StdVector α) (xs : List α) :
    (v.data ++ xs)[v.size]? = xs[0]? :=
  getElem?_append_size v xs 0

theorem size_pushAll (v : StdVector α) (xs : List α) :
    (v.pushAll xs).size = v.size + xs.length := by
  simp [size]

/-- Pushing `xs` into a vector with room for them keeps its storage. -/
theorem pushAll_capacity (v : StdVector α) (xs : List α) (h : v.size + xs.length ≤ v.capacity) :
    (v.pushAll xs).capacity = v.capacity := by
  induction xs generalizing v with
  | nil => rfl
  | cons x xs ih =>
    have hx : (v.pushBack x).capacity = v.capacity := pushBack_capacity v x (by simp at h; omega)
    show ((v.pushBack x).pushAll xs).capacity = _
    rw [ih _ (by simp at h ⊢; omega), hx]

end StdVector

/-! ## Shaders and their specialization constants -/

/-- `ShaderSpecialization`: a constant id and its value, read through the union member `u`. -/
structure ShaderSpecialization where
  constantID : UInt32
  value : UInt32
  deriving DecidableEq, Repr

/-- The Vulkan `Shader` object, with the members `makeShaderStageCreateInfo` reads. -/
structure Shader where
  stageFlagBits : Nat
  shaderModule : Handle
  entryName : String
  specializationConstants : List ShaderSpecialization
  deriving DecidableEq, Repr

/-- `vk::SpecializationInfo`; the pointers are indices into `specMapEntries` and `specData`. -/
structure SpecializationInfo where
  pMapEntries : Nat
  mapEntryCount : UInt32
  pData : Nat
  dataSize : Nat
  deriving DecidableEq, Repr

/-- `vk::SpecializationMapEntry`. -/
structure SpecializationMapEntry where
  constantID : UInt32
  offset : UInt32
  size : Nat
  deriving DecidableEq, Repr

/-- `vk::PipelineShaderStageCreateInfo`; `pSpecializationInfo` is an index into `specInfos`. -/
structure PipelineShaderStageCreateInfo where
  stage : Nat
  module : Handle
  pName : String
  pSpecializationInfo : Option Nat
  deriving DecidableEq, Repr

/-- The three vectors `makeShaderStageCreateInfo` appends to. -/
structure SpecializationBuffers where
  specInfos : StdVector SpecializationInfo
  specMapEntries : StdVector SpecializationMapEntry
  specData : StdVector UInt32
  deriving DecidableEq, Repr

/-- The counters of `countSpecializationConstants` (`size_t`s). -/
structure SpecializationCounts where
  numShaders : Nat
  numShadersWithSpecializations : Nat
  numSpecializationConstants : Nat
  deriving DecidableEq, Repr

def countSpecializationConstants (shader : Option Shader) (n : SpecializationCounts) :
    SpecializationCounts :=
  match shader with
  | none => n
  | some sh =>
    if sh.specializationConstants.isEmpty then { n with numShaders := n.numShaders + 1 }
    else ⟨n.numShaders + 1, n.numShadersWithSpecializations + 1,
      n.numSpecializationConstants + sh.specializationConstants.length⟩

/-- The loop of `makeShaderStageCreateInfo`: one map entry and one data word per constant,
`dataOffset` advancing by the entry's size, `sizeof(uint32_t)`. -/
def pushSpecializationConstants : List ShaderSpecialization → Nat →
    StdVector SpecializationMapEntry → StdVector UInt32 →
    StdVector SpecializationMapEntry × StdVector UInt32
  | [], _, entries, data => (entries, data)
  | c :: cs, dataOffset, entries, data =>
    let specMapEntry : SpecializationMapEntry := ⟨c.constantID, dataOffset.toUInt32, 4⟩
    pushSpecializationConstants cs (dataOffset + specMapEntry.size)
      (entries.pushBack specMapEntry) (data.pushBack c.value)

def makeShaderStageCreateInfo (shader : Shader) (v : SpecializationBuffers) :
    PipelineShaderStageCreateInfo × SpecializationBuffers :=
  let shaderStageCreateInfo : PipelineShaderStageCreateInfo :=
    ⟨shader.stageFlagBits, shader.shaderModule, shader.entryName, none⟩
  let cs := shader.specializationConstants
  if cs.isEmpty then (shaderStageCreateInfo, v)
  else
    let specInfo : SpecializationInfo :=
      ⟨v.specMapEntries.size, cs.length.toUInt32, v.specData.size, cs.length * 4⟩
    let (entries, data) := pushSpecializationConstants cs 0 v.specMapEntries v.specData
    ({ shaderStageCreateInfo with pSpecializationInfo := some v.specInfos.size },
      ⟨v.specInfos.pushBack specInfo, entries, data⟩)

/-! ## Pipeline description -/

/-- `enum class VariableShadingRate : uint8_t`. -/
inductive VariableShadingRate
  | e1x1 | e1x2 | e2x1 | e2x2 | e2x4 | e4x2 | e4x4
  deriving DecidableEq, Repr

/-- `enum class ShadingRateCombiner : uint8_t`. -/
inductive ShadingRateCombiner
  | Passthrough | Override | Min | Max | ApplyRelative
  deriving DecidableEq, Repr

/-- `VariableRateShadingState`; its `operator==` compares all four members. -/
structure VariableRateShadingState where
  enabled : Bool
  shadingRate : VariableShadingRate
  pipelinePrimitiveCombiner : ShadingRateCombiner
  imageCombiner : ShadingRateCombiner
  deriving DecidableEq, Repr

/-- `DepthStencilState`, with the member the dynamic states depend on. -/
structure DepthStencilState where
  dynamicStencilRef : Bool
  deriving DecidableEq, Repr

/-- `SinglePassStereoState`, with the member `createGraphicsPipeline` rejects. -/
structure SinglePassStereoState where
  enabled : Bool
  deriving DecidableEq, Repr

/-- `RenderState`. The blend state is read only through `BlendState::usesConstantColor`,
which is not among the sources and is a parameter of `createGraphicsPipeline`. -/
structure RenderState where
  depthStencilState : DepthStencilState
  singlePassStereo : SinglePassStereoState
  deriving DecidableEq, Repr

/-- `GraphicsPipelineDesc`, with the five shader stages (`nullptr` is `none`). -/
structure GraphicsPipelineDesc where
  VS : Option Shader
  HS : Option Shader
  DS : Option Shader
  GS : Option Shader
  PS : Option Shader
  renderState : RenderState
  shadingRateState : VariableRateShadingState
  deriving DecidableEq, Repr

/-- The stages in the order `createGraphicsPipeline` counts and adds them. -/
def GraphicsPipelineDesc.stages (desc : GraphicsPipelineDesc) : List (Option Shader) :=
  [desc.VS, desc.HS, desc.DS, desc.GS, desc.PS]

/-- `FramebufferInfo`, with the member `createGraphicsPipeline` reads here. -/
structure FramebufferInfo where
  colorFormats : List Format
  deriving DecidableEq, Repr

/-! ## The stage setup of `createGraphicsPipeline` -/

/-- The vector of stages and the specialization vectors. -/
structure ShaderStageSetup where
  shaderStages : StdVector PipelineShaderStageCreateInfo
  spec : SpecializationBuffers
  deriving DecidableEq, Repr

/-- One `if (desc.XS) shaderStages.push_back(makeShaderStageCreateInfo(XS, ...))`. -/
def addShaderStage (s : ShaderStageSetup) : Option Shader → ShaderStageSetup
  | none => s
  | some shader =>
    let (info, spec) := makeShaderStageCreateInfo shader s.spec
    ⟨s.shaderStages.pushBack info, spec⟩

/-- The counting pass over the five stages. -/
def GraphicsPipelineDesc.specializationCounts (desc : GraphicsPipelineDesc) :
    SpecializationCounts :=
  desc.stages.foldl (fun n shader => countSpecializationConstants shader n) ⟨0, 0, 0⟩

/-- The vectors after `reserve`, before any stage is added. -/
def ShaderStageSetup.reserved (n : SpecializationCounts) : ShaderStageSetup :=
  ⟨.reserved n.numShaders, ⟨.reserved n.numShadersWithSpecializations,
    .reserved n.numSpecializationConstants, .reserved n.numSpecializationConstants⟩⟩

/-- Count, reserve, then add the five stages in order. -/
def setupShaderStages (desc : GraphicsPipelineDesc) : ShaderStageSetup :=
  desc.stages.foldl addShaderStage (.reserved desc.specializationCounts)

/-! ## Dynamic states and the pipeline object -/

/-- `vk::DynamicState`, the values `createGraphicsPipeline` declares. -/
inductive DynamicState
  | eViewport | eScissor | eBlendConstants | eStencilReference | eFragmentShadingRateKHR
  deriving DecidableEq, Repr

/-- The Vulkan `GraphicsPipeline` object, with the members the command list reads. -/
structure GraphicsPipeline where
  desc : GraphicsPipelineDesc
  usesBlendConstants : Bool
  deriving DecidableEq, Repr

/-- The dynamic states `createGraphicsPipeline` declares for `pso`. -/
def GraphicsPipeline.dynamicStates (pso : GraphicsPipeline) : List DynamicState :=
  [.eViewport, .eScissor] ++
    (if pso.usesBlendConstants then [.eBlendConstants] else []) ++
    (if pso.desc.renderState.depthStencilState.dynamicStencilRef then [.eStencilReference]
      else []) ++
    (if pso.desc.shadingRateState.enabled then [.eFragmentShadingRateKHR] else [])

namespace GraphicsPipeline

variable (pso : GraphicsPipeline)

@[simp] theorem eBlendConstants_mem_dynamicStates :
    .eBlendConstants ∈ pso.dynamicStates ↔ pso.usesBlendConstants = true := by
  simp [dynamicStates, List.mem_ite_nil_right]

@[simp] theorem eStencilReference_mem_dynamicStates : .eStencilReference ∈ pso.dynamicStates ↔
    pso.desc.renderState.depthStencilState.dynamicStencilRef = true := by
  simp [dynamicStates, List.mem_ite_nil_right]

@[simp] theorem eFragmentShadingRateKHR_mem_dynamicStates :
    .eFragmentShadingRateKHR ∈ pso.dynamicStates ↔ pso.desc.shadingRateState.enabled = true := by
  simp [dynamicStates, List.mem_ite_nil_right]

end GraphicsPipeline

/-- The parts of `vk::GraphicsPipelineCreateInfo` the modelled code builds. -/
structure GraphicsPipelineCreateInfo where
  stages : ShaderStageSetup
  dynamicStates : List DynamicState
  deriving DecidableEq, Repr

/-- `Device::createGraphicsPipeline(desc, fbinfo)`, up to the Vulkan calls. `usesConstantColor`
is `BlendState::usesConstantColor` applied to the description's blend state. -/
def createGraphicsPipeline (usesConstantColor : GraphicsPipelineDesc → Nat → Bool)
    (desc : GraphicsPipelineDesc) (fbinfo : FramebufferInfo) :
    Except String (GraphicsPipeline × GraphicsPipelineCreateInfo) :=
  if desc.renderState.singlePassStereo.enabled then
    .error "Single-pass stereo is not supported by the Vulkan backend"
  else
    let pso : GraphicsPipeline := ⟨desc, usesConstantColor desc fbinfo.colorFormats.length⟩
    .ok (pso, ⟨setupShaderStages desc, pso.dynamicStates⟩)

end Nvrhi
