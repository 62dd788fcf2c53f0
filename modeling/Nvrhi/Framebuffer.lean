import Nvrhi.Basic

/-!
# Framebuffers

`Device::createFramebuffer` makes one image view per attachment and records each
attachment's texture in `fb->resources`, so that a command buffer that references the
framebuffer keeps the textures behind its views alive. A view is named here by its texture
(`Texture::getSubresourceView` makes it from the texture); the subresource range, dimension
and format of the view are not modelled.

* `createFramebuffer_views_mem_resources`: every texture behind an attachment view of a
  framebuffer is among its `resources`.
* `getDimensionForFramebuffer_renderable`: the dimension chosen for a view can be rendered
  into, and is an array only when more than one layer is needed.
-/

namespace Nvrhi

/-- `FramebufferAttachment`, with its texture; `valid()` is a non-null texture. -/
structure FramebufferAttachment where
  texture : Option Handle
  deriving DecidableEq, Repr

/-- `FramebufferDesc`. A color attachment's texture is dereferenced, so it is never null. -/
structure FramebufferDesc where
  colorAttachments : List Handle
  depthAttachment : FramebufferAttachment
  shadingRateAttachment : FramebufferAttachment
  deriving DecidableEq, Repr

/-- The Vulkan `Framebuffer` object: its attachment views, by texture, and `resources`. -/
structure Framebuffer where
  colorAttachments : List Handle
  depthAttachment : Option Handle
  stencilAttachment : Option Handle
  shadingRateAttachment : Option Handle
  resources : List Handle
  deriving DecidableEq, Repr

/-- `Device::createFramebuffer`. `hasStencil` is `getFormatInfo(format).hasStencil` for the
depth texture's format. -/
def createFramebuffer (hasStencil : Handle → Bool) (desc : FramebufferDesc) : Framebuffer :=
  let fb : Framebuffer :=
    ⟨desc.colorAttachments, none, none, none, desc.colorAttachments⟩
  let fb := match desc.depthAttachment.texture with
    | none => fb
    | some t =>
      { fb with
        depthAttachment := some t
        stencilAttachment := if hasStencil t then some t else fb.stencilAttachment
        resources := fb.resources ++ [t] }
  match desc.shadingRateAttachment.texture with
  | none => fb
  | some t => { fb with shadingRateAttachment := some t, resources := fb.resources ++ [t] }

/-- The textures behind the views of `fb`. -/
def Framebuffer.views (fb : Framebuffer) : List Handle :=
  fb.colorAttachments ++ fb.depthAttachment.toList ++ fb.stencilAttachment.toList ++
    fb.shadingRateAttachment.toList

theorem createFramebuffer_views_mem_resources (hasStencil : Handle → Bool)
    (desc : FramebufferDesc) : ∀ t ∈ (createFramebuffer hasStencil desc).views,
      t ∈ (createFramebuffer hasStencil desc).resources := by
  rcases hd : desc.depthAttachment.texture with _ | d <;>
    rcases hs : desc.shadingRateAttachment.texture with _ | r <;>
    simp only [createFramebuffer, hd, hs, Framebuffer.views] <;>
    (try split) <;> simp +contextual

/-! ## View dimensions -/

/-- `enum class TextureDimension : uint8_t`. -/
inductive TextureDimension
  | Unknown | Texture1D | Texture1DArray | Texture2D | Texture2DArray | TextureCube
  | TextureCubeArray | Texture2DMS | Texture2DMSArray | Texture3D
  deriving DecidableEq, Repr

/-- The dimensions with several layers. -/
def TextureDimension.isArray : TextureDimension → Bool
  | .Texture1DArray | .Texture2DArray | .TextureCubeArray | .Texture2DMSArray => true
  | _ => false

/-- The multisampled dimensions. -/
def TextureDimension.isMultisampled : TextureDimension → Bool
  | .Texture2DMS | .Texture2DMSArray => true
  | _ => false

/-- `getDimensionForFramebuffer`: cubes and 3D textures are viewed as 2D arrays, and arrays as
single textures when one layer is needed. -/
def getDimensionForFramebuffer (dimension : TextureDimension) (isArray : Bool) :
    TextureDimension :=
  let dimension :=
    if dimension = .TextureCube ∨ dimension = .TextureCubeArray ∨ dimension = .Texture3D then
      .Texture2DArray
    else dimension
  if !isArray then
    match dimension with
    | .Texture1DArray => .Texture1D
    | .Texture2DArray => .Texture2D
    | .Texture2DMSArray => .Texture2DMS
    | d => d
  else dimension

/-- The view is never of a cube or a 3D texture, which cannot be rendered into directly; it is
an array only when more than one layer is needed, and multisampled exactly when the texture
is. A dimension that can be rendered into is kept when layers are needed. -/
theorem getDimensionForFramebuffer_renderable (dimension : TextureDimension) (isArray : Bool) :
    getDimensionForFramebuffer dimension isArray ∉
        [.TextureCube, .TextureCubeArray, .Texture3D] ∧
      (isArray = false → (getDimensionForFramebuffer dimension isArray).isArray = false) ∧
      (getDimensionForFramebuffer dimension isArray).isMultisampled = dimension.isMultisampled ∧
      (isArray = true → dimension ∉ [.TextureCube, .TextureCubeArray, .Texture3D] →
        getDimensionForFramebuffer dimension isArray = dimension) := by
  cases dimension <;> cases isArray <;> decide

end Nvrhi
