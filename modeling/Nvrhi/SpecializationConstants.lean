import Nvrhi.Pipeline

/-!
# The specialization-constant layout of `createGraphicsPipeline`

The counting pass and the filling pass of `createGraphicsPipeline` must agree for the
pointers `makeShaderStageCreateInfo` takes into its vectors to stay valid. Here the filling
pass is shown to grow every vector exactly as the counting pass grows the matching counter
(`sizes_addShaderStage`), so the vectors end at the reserved size and never reallocate, and
each stage's specialization data lands where its pointers point.

* `setupShaderStages_capacity`: every vector ends with the capacity `reserve` gave it and is
  full, so no `push_back` reallocated.
* `setupShaderStages_stage`: the stage of a present shader, its `vk::SpecializationInfo` and
  its map entries and data words, at the indices fixed by the stages before it.
* `setupShaderStages_shaderStages`: one stage per present shader, in the order VS, HS, DS,
  GS, PS.

The counts and offsets are `static_cast<uint32_t>`s: the offset of constant `j` is `4 * j`
modulo `2 ^ 32`, so a shader with more than `2 ^ 30` constants gets map entries whose offsets
repeat those of its first constants (`setupShaderStages_offset_wraps`).
-/

namespace Nvrhi

/-! ## One shader -/

/-- The map entries the loop of `makeShaderStageCreateInfo` pushes for `cs`, the first at
byte offset `dataOffset`. -/
def specializationMapEntries : List ShaderSpecialization → Nat → List SpecializationMapEntry
  | [], _ => []
  | c :: cs, dataOffset =>
    ⟨c.constantID, dataOffset.toUInt32, 4⟩ :: specializationMapEntries cs (dataOffset + 4)

@[simp] theorem length_specializationMapEntries (cs : List ShaderSpecialization) (off : Nat) :
    (specializationMapEntries cs off).length = cs.length := by
  induction cs generalizing off <;> simp [specializationMapEntries, *]

theorem getElem?_specializationMapEntries (cs : List ShaderSpecialization) (off j : Nat) :
    (specializationMapEntries cs off)[j]? =
      cs[j]?.map fun c => ⟨c.constantID, (off + 4 * j).toUInt32, 4⟩ := by
  induction cs generalizing off j with
  | nil => rfl
  | cons c cs ih =>
    cases j with
    | zero =>
      rw [specializationMapEntries, List.getElem?_cons_zero, List.getElem?_cons_zero,
        Option.map_some', Nat.mul_zero, Nat.add_zero]
    | succ j =>
      rw [specializationMapEntries, List.getElem?_cons_succ, List.getElem?_cons_succ, ih,
        show off + 4 + 4 * j = off + 4 * (j + 1) by omega]

theorem pushSpecializationConstants_eq (cs : List ShaderSpecialization) (off : Nat)
    (entries : StdVector SpecializationMapEntry) (data : StdVector UInt32) :
    pushSpecializationConstants cs off entries data =
      (entries.pushAll (specializationMapEntries cs off), data.pushAll (cs.map (·.value))) := by
  induction cs generalizing off entries data with
  | nil => rfl
  | cons c cs ih => simp [pushSpecializationConstants, specializationMapEntries, ih,
      StdVector.pushAll]

section OneShader

variable (shader : Shader) (v : SpecializationBuffers)

theorem makeShaderStageCreateInfo_of_nil (h : shader.specializationConstants = []) :
    makeShaderStageCreateInfo shader v =
      (⟨shader.stageFlagBits, shader.shaderModule, shader.entryName, none⟩, v) := by
  simp [makeShaderStageCreateInfo, h]

theorem makeShaderStageCreateInfo_of_ne_nil (h : shader.specializationConstants ≠ []) :
    makeShaderStageCreateInfo shader v =
      (⟨shader.stageFlagBits, shader.shaderModule, shader.entryName, some v.specInfos.size⟩,
        ⟨v.specInfos.pushBack ⟨v.specMapEntries.size,
            shader.specializationConstants.length.toUInt32, v.specData.size,
            shader.specializationConstants.length * 4⟩,
          v.specMapEntries.pushAll (specializationMapEntries shader.specializationConstants 0),
          v.specData.pushAll (shader.specializationConstants.map (·.value))⟩) := by
  simp [makeShaderStageCreateInfo, List.isEmpty_iff, h, pushSpecializationConstants_eq]

end OneShader

/-! ## The filling pass against the counting pass -/

/-- The counters `countSpecializationConstants` accumulates over `ss`, from `n`. -/
def countStages (ss : List (Option Shader)) (n : SpecializationCounts) : SpecializationCounts :=
  ss.foldl (fun n shader => countSpecializationConstants shader n) n

/-- The sizes of the vectors that the counters count. -/
def ShaderStageSetup.sizes (s : ShaderStageSetup) : SpecializationCounts :=
  ⟨s.shaderStages.size, s.spec.specInfos.size, s.spec.specMapEntries.size⟩

/-- The capacities of the same vectors. -/
def ShaderStageSetup.capacities (s : ShaderStageSetup) : SpecializationCounts :=
  ⟨s.shaderStages.capacity, s.spec.specInfos.capacity, s.spec.specMapEntries.capacity⟩

/-- Adding a stage grows the vectors exactly as counting it grows the counters. -/
theorem sizes_addShaderStage (s : ShaderStageSetup) (o : Option Shader) :
    (addShaderStage s o).sizes = countSpecializationConstants o s.sizes := by
  rcases o with _ | sh
  · rfl
  · by_cases h : sh.specializationConstants = []
    · simp [addShaderStage, makeShaderStageCreateInfo_of_nil _ _ h, countSpecializationConstants,
        h, ShaderStageSetup.sizes]
    · simp [addShaderStage, makeShaderStageCreateInfo_of_ne_nil _ _ h,
        countSpecializationConstants, List.isEmpty_iff, h, ShaderStageSetup.sizes,
        StdVector.size_pushAll]

theorem sizes_foldl_addShaderStage (ss : List (Option Shader)) (s : ShaderStageSetup) :
    (ss.foldl addShaderStage s).sizes = countStages ss s.sizes := by
  induction ss generalizing s with
  | nil => rfl
  | cons o ss ih => simp only [List.foldl_cons, ih, sizes_addShaderStage]; rfl

/-- Componentwise `≤` on counters. -/
def SpecializationCounts.Le (n m : SpecializationCounts) : Prop :=
  n.numShaders ≤ m.numShaders ∧
    n.numShadersWithSpecializations ≤ m.numShadersWithSpecializations ∧
    n.numSpecializationConstants ≤ m.numSpecializationConstants

theorem SpecializationCounts.Le.trans {n m k : SpecializationCounts} (h₁ : n.Le m)
    (h₂ : m.Le k) : n.Le k :=
  ⟨h₁.1.trans h₂.1, h₁.2.1.trans h₂.2.1, h₁.2.2.trans h₂.2.2⟩

theorem le_countSpecializationConstants (o : Option Shader) (n : SpecializationCounts) :
    n.Le (countSpecializationConstants o n) := by
  unfold countSpecializationConstants SpecializationCounts.Le
  split
  · omega
  · split <;> simp

theorem le_countStages (ss : List (Option Shader)) (n : SpecializationCounts) :
    n.Le (countStages ss n) := by
  induction ss generalizing n with
  | nil => exact ⟨le_rfl, le_rfl, le_rfl⟩
  | cons o ss ih => exact (le_countSpecializationConstants o n).trans (ih _)

/-- The data vector has as many words and as much room as the map-entry vector. -/
def ShaderStageSetup.Lockstep (s : ShaderStageSetup) : Prop :=
  s.spec.specData.size = s.spec.specMapEntries.size ∧
    s.spec.specData.capacity = s.spec.specMapEntries.capacity

/-- A stage added to vectors with room for it moves no vector. -/
theorem addShaderStage_capacities {s : ShaderStageSetup} {o : Option Shader} (hs : s.Lockstep)
    (h : (countSpecializationConstants o s.sizes).Le s.capacities) :
    (addShaderStage s o).capacities = s.capacities ∧ (addShaderStage s o).Lockstep := by
  rcases o with _ | sh
  · exact ⟨rfl, hs⟩
  · obtain ⟨hsize, hcap⟩ := hs
    by_cases hc : sh.specializationConstants = []
    · simp only [countSpecializationConstants, hc, List.isEmpty_nil, if_true,
        SpecializationCounts.Le, ShaderStageSetup.sizes, ShaderStageSetup.capacities] at h
      simp (disch := omega) only [addShaderStage, makeShaderStageCreateInfo_of_nil _ _ hc,
        ShaderStageSetup.capacities, ShaderStageSetup.Lockstep, StdVector.pushBack_capacity]
      exact ⟨trivial, hsize, hcap⟩
    · simp only [countSpecializationConstants, List.isEmpty_iff, hc, if_false,
        SpecializationCounts.Le, ShaderStageSetup.sizes, ShaderStageSetup.capacities] at h
      simp (disch := (simp only [StdVector.size, List.length_map, length_specializationMapEntries] at *; omega)) only [addShaderStage,
        makeShaderStageCreateInfo_of_ne_nil _ _ hc, ShaderStageSetup.capacities,
        ShaderStageSetup.Lockstep, StdVector.size_pushAll, StdVector.pushBack_capacity,
        StdVector.pushAll_capacity]
      simp [hsize, hcap]

/-- Adding the stages `ss` to vectors with room for all of them moves no vector. -/
theorem foldl_addShaderStage_capacities (ss : List (Option Shader)) {s : ShaderStageSetup}
    (hs : s.Lockstep) (h : (countStages ss s.sizes).Le s.capacities) :
    (ss.foldl addShaderStage s).capacities = s.capacities ∧
      (ss.foldl addShaderStage s).Lockstep := by
  induction ss generalizing s with
  | nil => exact ⟨rfl, hs⟩
  | cons o ss ih =>
    have h₁ : (countSpecializationConstants o s.sizes).Le s.capacities :=
      (le_countStages ss _).trans h
    obtain ⟨hcap, hs'⟩ := addShaderStage_capacities hs h₁
    obtain ⟨hcap', hs''⟩ := ih hs' (by rw [hcap, sizes_addShaderStage]; exact h)
    exact ⟨hcap'.trans hcap, hs''⟩

/-! ## Adding stages only appends -/

/-- `t` keeps the elements of `s` at their places. -/
def ShaderStageSetup.Extends (s t : ShaderStageSetup) : Prop :=
  s.shaderStages.data <+: t.shaderStages.data ∧ s.spec.specInfos.data <+: t.spec.specInfos.data ∧
    s.spec.specMapEntries.data <+: t.spec.specMapEntries.data ∧
    s.spec.specData.data <+: t.spec.specData.data

theorem ShaderStageSetup.Extends.trans {s t u : ShaderStageSetup} (h₁ : s.Extends t)
    (h₂ : t.Extends u) : s.Extends u :=
  ⟨h₁.1.trans h₂.1, h₁.2.1.trans h₂.2.1, h₁.2.2.1.trans h₂.2.2.1, h₁.2.2.2.trans h₂.2.2.2⟩

theorem extends_addShaderStage (s : ShaderStageSetup) (o : Option Shader) :
    s.Extends (addShaderStage s o) := by
  rcases o with _ | sh
  · exact ⟨List.prefix_refl _, List.prefix_refl _, List.prefix_refl _, List.prefix_refl _⟩
  · by_cases hc : sh.specializationConstants = []
    · simp only [addShaderStage, makeShaderStageCreateInfo_of_nil _ _ hc]
      exact ⟨List.prefix_append _ _, List.prefix_refl _, List.prefix_refl _, List.prefix_refl _⟩
    · simp only [addShaderStage, makeShaderStageCreateInfo_of_ne_nil _ _ hc]
      exact ⟨List.prefix_append _ _, List.prefix_append _ _, by simp, by simp⟩

theorem extends_foldl_addShaderStage (ss : List (Option Shader)) (s : ShaderStageSetup) :
    s.Extends (ss.foldl addShaderStage s) := by
  induction ss generalizing s with
  | nil => exact ⟨List.prefix_refl _, List.prefix_refl _, List.prefix_refl _, List.prefix_refl _⟩
  | cons o ss ih => exact (extends_addShaderStage s o).trans (ih _)

/-- An index that holds a value in a list holds it in every extension of the list. -/
theorem getElem?_eq_some_mono {α : Type} {l₁ l₂ : List α} (h : l₁ <+: l₂) {n : Nat} {a : α}
    (hx : l₁[n]? = some a) : l₂[n]? = some a := by
  obtain ⟨t, rfl⟩ := h
  have hn : n < l₁.length := by
    by_contra hn
    rw [List.getElem?_eq_none (by omega)] at hx
    cases hx
  rw [List.getElem?_append_left hn, hx]


/-- What `addShaderStage` puts at the end of each vector for a present shader. -/
theorem addShaderStage_some (s : ShaderStageSetup) (sh : Shader) :
    let t := addShaderStage s (some sh)
    let cs := sh.specializationConstants
    t.shaderStages.data[s.shaderStages.size]? = some ⟨sh.stageFlagBits, sh.shaderModule,
        sh.entryName, if cs = [] then none else some s.spec.specInfos.size⟩ ∧
      (cs ≠ [] → t.spec.specInfos.data[s.spec.specInfos.size]? = some
        ⟨s.spec.specMapEntries.size, cs.length.toUInt32, s.spec.specData.size, cs.length * 4⟩) ∧
      ∀ j c, cs[j]? = some c →
        t.spec.specMapEntries.data[s.spec.specMapEntries.size + j]? =
          some ⟨c.constantID, (4 * j).toUInt32, 4⟩ ∧
        t.spec.specData.data[s.spec.specData.size + j]? = some c.value := by
  by_cases hc : sh.specializationConstants = []
  · simp [addShaderStage, makeShaderStageCreateInfo_of_nil _ _ hc, hc]
  · simp only [addShaderStage, makeShaderStageCreateInfo_of_ne_nil _ _ hc, hc, if_false]
    refine ⟨by simp, fun _ => by simp, fun j c hj => ?_⟩
    simp [getElem?_specializationMapEntries, hj]

theorem countStages_append (l₁ l₂ : List (Option Shader)) (n : SpecializationCounts) :
    countStages (l₁ ++ l₂) n = countStages l₂ (countStages l₁ n) :=
  List.foldl_append _ _ _ _

/-- The counters over `ss`, in words: the present shaders, those with constants, and their
constants. -/
theorem countStages_eq (ss : List (Option Shader)) (n : SpecializationCounts) :
    countStages ss n =
      ⟨n.numShaders + (ss.filterMap id).length,
        n.numShadersWithSpecializations +
          ((ss.filterMap id).filter fun sh => sh.specializationConstants ≠ []).length,
        n.numSpecializationConstants +
          ((ss.filterMap id).map fun sh => sh.specializationConstants.length).sum⟩ := by
  induction ss generalizing n with
  | nil => rfl
  | cons o ss ih =>
    rcases o with _ | sh
    · exact ih n
    · simp only [countStages, List.foldl_cons] at ih ⊢
      rw [ih]
      by_cases hc : sh.specializationConstants = [] <;>
        simp [countSpecializationConstants, hc, List.filter_cons, Nat.add_assoc, Nat.add_comm 1]

/-! ## The stages of a pipeline -/

section Setup

variable (desc : GraphicsPipelineDesc)

theorem setupShaderStages_eq_foldl :
    setupShaderStages desc = desc.stages.foldl addShaderStage (.reserved desc.specializationCounts) :=
  rfl

/-- Every vector ends full at the capacity `reserve` gave it: the filling pass pushes exactly
what the counting pass counted, and no `push_back` reallocated. -/
theorem setupShaderStages_capacity :
    let r := setupShaderStages desc
    r.capacities = desc.specializationCounts ∧ r.sizes = desc.specializationCounts ∧
      r.spec.specData.capacity = desc.specializationCounts.numSpecializationConstants ∧
      r.spec.specData.size = desc.specializationCounts.numSpecializationConstants := by
  have hroom : (countStages desc.stages (ShaderStageSetup.reserved desc.specializationCounts).sizes).Le
      (ShaderStageSetup.reserved desc.specializationCounts).capacities :=
    ⟨le_rfl, le_rfl, le_rfl⟩
  obtain ⟨hcap, hsize, hdcap⟩ :=
    foldl_addShaderStage_capacities desc.stages ⟨rfl, rfl⟩ hroom
  have hsizes := sizes_foldl_addShaderStage desc.stages (.reserved desc.specializationCounts)
  refine ⟨hcap, hsizes, ?_, ?_⟩
  · exact hdcap.trans (congrArg SpecializationCounts.numSpecializationConstants hcap)
  · exact hsize.trans (congrArg SpecializationCounts.numSpecializationConstants hsizes)

/-- The stage of a present shader, its `vk::SpecializationInfo` and its map entries and data
words sit at the indices fixed by the stages before it: `k` present shaders, `i` of them with
constants, `o` constants in all. -/
theorem setupShaderStages_stage (pre post : List (Option Shader)) (sh : Shader)
    (h : desc.stages = pre ++ some sh :: post) :
    let r := setupShaderStages desc
    let present := pre.filterMap id
    let k := present.length
    let i := (present.filter fun sh => sh.specializationConstants ≠ []).length
    let o := (present.map fun sh => sh.specializationConstants.length).sum
    let cs := sh.specializationConstants
    r.shaderStages.data[k]? = some ⟨sh.stageFlagBits, sh.shaderModule, sh.entryName,
        if cs = [] then none else some i⟩ ∧
      (cs ≠ [] → r.spec.specInfos.data[i]? = some ⟨o, cs.length.toUInt32, o, cs.length * 4⟩) ∧
      ∀ j c, cs[j]? = some c →
        r.spec.specMapEntries.data[o + j]? = some ⟨c.constantID, (4 * j).toUInt32, 4⟩ ∧
        r.spec.specData.data[o + j]? = some c.value := by
  intro r present k i o cs
  let R : ShaderStageSetup := .reserved desc.specializationCounts
  let m := pre.foldl addShaderStage R
  have hr : r = post.foldl addShaderStage (addShaderStage m (some sh)) := by
    simp only [r, m, setupShaderStages_eq_foldl, h, List.foldl_append, List.foldl_cons]
  have hsizes : m.sizes = ⟨k, i, o⟩ := by
    rw [sizes_foldl_addShaderStage, countStages_eq]; simp [R, ShaderStageSetup.reserved,
      ShaderStageSetup.sizes, StdVector.reserved, StdVector.size, k, i, o, present]
  have hroom : (countStages pre R.sizes).Le R.capacities := by
    have := le_countStages (some sh :: post) (countStages pre R.sizes)
    rwa [← countStages_append, ← h] at this
  have hdata : m.spec.specData.size = o := by
    rw [(foldl_addShaderStage_capacities pre ⟨rfl, rfl⟩ hroom).2.1]
    exact congrArg SpecializationCounts.numSpecializationConstants hsizes
  obtain ⟨hstage, hinfo, hconst⟩ := addShaderStage_some m sh
  obtain ⟨e₁, e₂, e₃, e₄⟩ := extends_foldl_addShaderStage post (addShaderStage m (some sh))
  have hk : m.shaderStages.size = k := congrArg SpecializationCounts.numShaders hsizes
  have hi : m.spec.specInfos.size = i :=
    congrArg SpecializationCounts.numShadersWithSpecializations hsizes
  have ho : m.spec.specMapEntries.size = o :=
    congrArg SpecializationCounts.numSpecializationConstants hsizes
  rw [hr]
  refine ⟨?_, fun hc => ?_, fun j c hj => ?_⟩
  · rw [hk, hi] at hstage; exact getElem?_eq_some_mono e₁ hstage
  · have := hinfo hc; rw [hi, ho, hdata] at this; exact getElem?_eq_some_mono e₂ this
  · obtain ⟨h₃, h₄⟩ := hconst j c hj
    rw [ho] at h₃; rw [hdata] at h₄
    exact ⟨getElem?_eq_some_mono e₃ h₃, getElem?_eq_some_mono e₄ h₄⟩

/-- The stage, module and entry point of a stage create-info. -/
def PipelineShaderStageCreateInfo.target (info : PipelineShaderStageCreateInfo) :
    Nat × Handle × String :=
  (info.stage, info.module, info.pName)

theorem target_makeShaderStageCreateInfo (sh : Shader) (v : SpecializationBuffers) :
    (makeShaderStageCreateInfo sh v).1.target = (sh.stageFlagBits, sh.shaderModule, sh.entryName) := by
  by_cases hc : sh.specializationConstants = []
  · rw [makeShaderStageCreateInfo_of_nil _ _ hc]; rfl
  · rw [makeShaderStageCreateInfo_of_ne_nil _ _ hc]; rfl

theorem foldl_addShaderStage_targets (ss : List (Option Shader)) (s : ShaderStageSetup) :
    (ss.foldl addShaderStage s).shaderStages.data.map (·.target) =
      s.shaderStages.data.map (·.target) ++
        (ss.filterMap id).map fun sh => (sh.stageFlagBits, sh.shaderModule, sh.entryName) := by
  induction ss generalizing s with
  | nil => simp
  | cons o ss ih =>
    rcases o with _ | sh
    · simpa using ih s
    · simp [ih, addShaderStage, target_makeShaderStageCreateInfo]

/-- One stage per present shader, in the order VS, HS, DS, GS, PS. -/
theorem setupShaderStages_shaderStages :
    (setupShaderStages desc).shaderStages.data.map (·.target) =
      (desc.stages.filterMap id).map fun sh => (sh.stageFlagBits, sh.shaderModule, sh.entryName) := by
  simp [setupShaderStages_eq_foldl, foldl_addShaderStage_targets, ShaderStageSetup.reserved,
    StdVector.reserved]

/-- The vertex shader comes first: its `vk::SpecializationInfo` is the first one. -/
theorem setupShaderStages_vertexSpecInfo (sh : Shader) (h : desc.VS = some sh)
    (hc : sh.specializationConstants ≠ []) :
    (setupShaderStages desc).spec.specInfos.data[0]? = some ⟨0,
      sh.specializationConstants.length.toUInt32, 0, sh.specializationConstants.length * 4⟩ :=
  (setupShaderStages_stage desc [] [desc.HS, desc.DS, desc.GS, desc.PS] sh
    (by simp [GraphicsPipelineDesc.stages, h])).2.1 hc

end Setup

/-- The layout `createGraphicsPipeline` builds for the stages of `desc`: one stage per present
shader in order, every vector full at its reserved capacity (no reallocation, so every
pointer taken stays valid), and each stage's specialization data where its pointers point.
The `uint32_t` members hold their values modulo `2 ^ 32`. -/
theorem setupShaderStages_layout (desc : GraphicsPipelineDesc) :
    let r := setupShaderStages desc
    r.shaderStages.data.map (·.target) =
        (desc.stages.filterMap id).map (fun sh => (sh.stageFlagBits, sh.shaderModule, sh.entryName)) ∧
      (r.capacities = desc.specializationCounts ∧ r.sizes = desc.specializationCounts ∧
        r.spec.specData.capacity = desc.specializationCounts.numSpecializationConstants ∧
        r.spec.specData.size = desc.specializationCounts.numSpecializationConstants) ∧
      ∀ pre post sh, desc.stages = pre ++ some sh :: post →
        let present := pre.filterMap id
        let i := (present.filter fun sh => sh.specializationConstants ≠ []).length
        let o := (present.map fun sh => sh.specializationConstants.length).sum
        let cs := sh.specializationConstants
        r.shaderStages.data[present.length]? = some ⟨sh.stageFlagBits, sh.shaderModule,
            sh.entryName, if cs = [] then none else some i⟩ ∧
          (cs ≠ [] → r.spec.specInfos.data[i]? = some ⟨o, cs.length.toUInt32, o, cs.length * 4⟩) ∧
          ∀ j c, cs[j]? = some c →
            r.spec.specMapEntries.data[o + j]? = some ⟨c.constantID, (4 * j).toUInt32, 4⟩ ∧
            r.spec.specData.data[o + j]? = some c.value :=
  ⟨setupShaderStages_shaderStages desc, setupShaderStages_capacity desc,
    fun pre post sh h => setupShaderStages_stage desc pre post sh h⟩

/-- A vertex shader with `2 ^ 30 + 1` specialization constants, constant `j` with ID and value
`j`, the other stages absent. `createShaderSpecialization` takes the number of constants as a
`uint32_t`, so it can make such a shader. -/
def wideVertexShaderDesc : GraphicsPipelineDesc :=
  ⟨some ⟨0, 0, "main", (List.range (2 ^ 30 + 1)).map fun j => ⟨j.toUInt32, j.toUInt32⟩⟩,
    none, none, none, none, ⟨⟨false⟩, ⟨false⟩⟩, ⟨false, .e1x1, .Passthrough, .Passthrough⟩⟩

/-- The offset of a map entry is `static_cast<uint32_t>(j * sizeof(uint32_t))`: constant
`2 ^ 30`, the last of `wideVertexShaderDesc`, gets offset `0`, the offset of constant `0`,
although its value is stored at word `2 ^ 30` of the data. -/
theorem setupShaderStages_offset_wraps :
    (setupShaderStages wideVertexShaderDesc).spec.specMapEntries.data[0]? = some ⟨0, 0, 4⟩ ∧
      (setupShaderStages wideVertexShaderDesc).spec.specMapEntries.data[2 ^ 30]? =
        some ⟨2 ^ 30, 0, 4⟩ ∧
      (setupShaderStages wideVertexShaderDesc).spec.specData.data[2 ^ 30]? = some (2 ^ 30) := by
  have hstage := setupShaderStages_stage wideVertexShaderDesc [] [none, none, none, none] _ rfl
  obtain ⟨h₀, -⟩ := hstage.2.2 0 ⟨(0 : Nat).toUInt32, (0 : Nat).toUInt32⟩ (by simp)
  obtain ⟨h₁, h₂⟩ := hstage.2.2 (2 ^ 30) ⟨(2 ^ 30 : Nat).toUInt32, (2 ^ 30 : Nat).toUInt32⟩
    (by simp)
  exact ⟨h₀, h₁, h₂⟩

end Nvrhi
