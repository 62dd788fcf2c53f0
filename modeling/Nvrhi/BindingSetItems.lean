import Nvrhi.BindingSet

/-!
# The factory functions of binding-set items

A `BindingSetItem` is made by one of its static factory functions (`Texture_SRV`,
`ConstantBuffer`, `Sampler`, ...), each of which writes every member that `operator==` and
the hash read, and is then adjusted by the setters. The 16 bytes at the end of the item are a
union of the texture subresources, the buffer range and the two words `rawData` that
`operator==` compares, so a factory writes the words through the view its resource uses. On
the little-endian targets of the backend the first word of a subresource set holds
`baseMipLevel` in its low half and `numMipLevels` in its high half, the second
`baseArraySlice` and `numArraySlices`; a range is `byteOffset`, then `byteSize`.

* `TextureSubresourceSet.ofRawData_rawData`: reading the subresources back from the words
  gives what was written, so a subresource set is compared member by member.
* `BindingSetItemCall.ofItem_make`: the factory call that made an item, with all its
  arguments, is read back from the item.
* `BindingSetDesc.addItems_beq_addItems`: two descriptions built from factory items compare
  equal exactly when the same factory calls made their items, in the same order, whatever
  the array elements set on the items.
-/

namespace Nvrhi

/-! ## Two 32-bit members in a 64-bit word -/

theorem toNat_uint32_toUInt64 (a : UInt32) : a.toUInt64.toNat = a.toNat := rfl

theorem toNat_uint64_toUInt32 (a : UInt64) : a.toUInt32.toNat = a.toNat % 2 ^ 32 :=
  BitVec.toNat_ofNat _ _

/-- The word of the union that holds two consecutive 32-bit members, the first one in the
low half. -/
def packWords (lo hi : UInt32) : UInt64 := lo.toUInt64 + hi.toUInt64 * 4294967296

/-- The first of the two members a word holds. -/
def lowWord (w : UInt64) : UInt32 := w.toUInt32

/-- The second of the two members a word holds. -/
def highWord (w : UInt64) : UInt32 := (w / 4294967296).toUInt32

@[simp] theorem lowWord_packWords (lo hi : UInt32) : lowWord (packWords lo hi) = lo := by
  apply UInt32.toNat.inj
  have := lo.toNat_lt_size
  have := hi.toNat_lt_size
  simp only [lowWord, packWords, toNat_uint64_toUInt32, UInt64.toNat_add, UInt64.toNat_mul,
    toNat_uint32_toUInt64, UInt64.toNat_ofNat, UInt64.size, UInt32.size] at *
  omega

@[simp] theorem highWord_packWords (lo hi : UInt32) : highWord (packWords lo hi) = hi := by
  apply UInt32.toNat.inj
  have := lo.toNat_lt_size
  have := hi.toNat_lt_size
  simp only [highWord, packWords, toNat_uint64_toUInt32, UInt64.toNat_div, UInt64.toNat_add,
    UInt64.toNat_mul, toNat_uint32_toUInt64, UInt64.toNat_ofNat, UInt64.size, UInt32.size,
    Nat.reduceMod] at *
  omega

theorem toUInt32_toUInt64 (a : UInt32) : a.toUInt64.toUInt32 = a := by
  apply UInt32.toNat.inj
  have := a.toNat_lt_size
  simp only [toNat_uint64_toUInt32, toNat_uint32_toUInt64, UInt32.size] at *
  omega

/-! ## Subresource sets and buffer ranges -/

/-- `TextureSubresourceSet`; `operator==` compares the four members, as the derived equality
does. -/
structure TextureSubresourceSet where
  baseMipLevel : UInt32
  numMipLevels : UInt32
  baseArraySlice : UInt32
  numArraySlices : UInt32
  deriving DecidableEq, Repr

namespace TextureSubresourceSet

/-- `TextureSubresourceSet::AllMipLevels`, `MipLevel(-1)`. -/
def AllMipLevels : UInt32 := 0xFFFFFFFF

/-- `TextureSubresourceSet::AllArraySlices`, `ArraySlice(-1)`. -/
def AllArraySlices : UInt32 := 0xFFFFFFFF

/-- The two words of the union when it holds a subresource set. -/
def rawData (s : TextureSubresourceSet) : UInt64 × UInt64 :=
  (packWords s.baseMipLevel s.numMipLevels, packWords s.baseArraySlice s.numArraySlices)

/-- The subresource set the two words of the union hold. -/
def ofRawData (w : UInt64 × UInt64) : TextureSubresourceSet :=
  ⟨lowWord w.1, highWord w.1, lowWord w.2, highWord w.2⟩

/-- The words a subresource set is written as give it back. -/
@[simp] theorem ofRawData_rawData (s : TextureSubresourceSet) : ofRawData s.rawData = s := by
  simp [ofRawData, rawData]

end TextureSubresourceSet

/-- `AllSubresources`. -/
def AllSubresources : TextureSubresourceSet :=
  ⟨0, TextureSubresourceSet.AllMipLevels, 0, TextureSubresourceSet.AllArraySlices⟩

/-- `BufferRange`; `operator==` compares the two members, as the derived equality does. -/
structure BufferRange where
  byteOffset : UInt64
  byteSize : UInt64
  deriving DecidableEq, Repr

/-- The two words of the union when it holds a buffer range. -/
def BufferRange.rawData (r : BufferRange) : UInt64 × UInt64 := (r.byteOffset, r.byteSize)

/-- `EntireBuffer`, `BufferRange(0, ~0ull)`. -/
def EntireBuffer : BufferRange := ⟨0, 0xFFFFFFFFFFFFFFFF⟩

/-! ## Factories and setters -/

namespace BindingSetItem

/-- The subresources view of the union. -/
def subresources (s : BindingSetItem) : TextureSubresourceSet :=
  TextureSubresourceSet.ofRawData s.rawData

/-- The range view of the union. -/
def range (s : BindingSetItem) : BufferRange := ⟨s.rawData.1, s.rawData.2⟩

/-- The body of the factories of texture items: `Texture_SRV`, `Texture_UAV` and
`SamplerFeedbackTexture_UAV`. -/
def ofTexture (type : ResourceType) (slot : UInt32) (texture : Option Handle) (format : Format)
    (subresources : TextureSubresourceSet) (dimension : TextureDimension) : BindingSetItem :=
  ⟨texture, slot, 0, type, dimension, format, subresources.rawData⟩

/-- The body of the factories of buffer items: the typed, structured and raw buffers, the
constant buffers and the push constants. -/
def ofBuffer (type : ResourceType) (slot : UInt32) (buffer : Option Handle) (format : Format)
    (range : BufferRange) : BindingSetItem :=
  ⟨buffer, slot, 0, type, .Unknown, format, range.rawData⟩

/-- The body of the factories that write zeros to the union: `None`, `Sampler` and
`RayTracingAccelStruct`. -/
def ofObject (type : ResourceType) (slot : UInt32) (object : Option Handle) : BindingSetItem :=
  ⟨object, slot, 0, type, .Unknown, Format.UNKNOWN, (0, 0)⟩

/-- `BindingSetItem::None`. -/
def None (slot : UInt32 := 0) : BindingSetItem := ofObject .None slot none

/-- `BindingSetItem::Texture_SRV`. -/
def Texture_SRV (slot : UInt32) (texture : Option Handle) (format : Format := Format.UNKNOWN)
    (subresources : TextureSubresourceSet := AllSubresources)
    (dimension : TextureDimension := .Unknown) : BindingSetItem :=
  ofTexture .Texture_SRV slot texture format subresources dimension

/-- `BindingSetItem::Texture_UAV`: by default the first mip level of every array slice. -/
def Texture_UAV (slot : UInt32) (texture : Option Handle) (format : Format := Format.UNKNOWN)
    (subresources : TextureSubresourceSet := ⟨0, 1, 0, TextureSubresourceSet.AllArraySlices⟩)
    (dimension : TextureDimension := .Unknown) : BindingSetItem :=
  ofTexture .Texture_UAV slot texture format subresources dimension

/-- `BindingSetItem::TypedBuffer_SRV`. -/
def TypedBuffer_SRV (slot : UInt32) (buffer : Option Handle) (format : Format := Format.UNKNOWN)
    (range : BufferRange := EntireBuffer) : BindingSetItem :=
  ofBuffer .TypedBuffer_SRV slot buffer format range

/-- `BindingSetItem::TypedBuffer_UAV`. -/
def TypedBuffer_UAV (slot : UInt32) (buffer : Option Handle) (format : Format := Format.UNKNOWN)
    (range : BufferRange := EntireBuffer) : BindingSetItem :=
  ofBuffer .TypedBuffer_UAV slot buffer format range

/-- `BindingSetItem::ConstantBuffer`: the type is `VolatileConstantBuffer` when the buffer is
not null and its description says it is volatile (`isVolatile`). -/
def ConstantBuffer (isVolatile : Handle → Bool) (slot : UInt32) (buffer : Option Handle)
    (range : BufferRange := EntireBuffer) : BindingSetItem :=
  ofBuffer (if buffer.any isVolatile then .VolatileConstantBuffer else .ConstantBuffer) slot
    buffer Format.UNKNOWN range

/-- `BindingSetItem::Sampler`. -/
def Sampler (slot : UInt32) (sampler : Option Handle) : BindingSetItem :=
  ofObject .Sampler slot sampler

/-- `BindingSetItem::RayTracingAccelStruct`. -/
def RayTracingAccelStruct (slot : UInt32) (as : Option Handle) : BindingSetItem :=
  ofObject .RayTracingAccelStruct slot as

/-- `BindingSetItem::StructuredBuffer_SRV`. -/
def StructuredBuffer_SRV (slot : UInt32) (buffer : Option Handle)
    (format : Format := Format.UNKNOWN) (range : BufferRange := EntireBuffer) : BindingSetItem :=
  ofBuffer .StructuredBuffer_SRV slot buffer format range

/-- `BindingSetItem::StructuredBuffer_UAV`. -/
def StructuredBuffer_UAV (slot : UInt32) (buffer : Option Handle)
    (format : Format := Format.UNKNOWN) (range : BufferRange := EntireBuffer) : BindingSetItem :=
  ofBuffer .StructuredBuffer_UAV slot buffer format range

/-- `BindingSetItem::RawBuffer_SRV`. -/
def RawBuffer_SRV (slot : UInt32) (buffer : Option Handle) (range : BufferRange := EntireBuffer) :
    BindingSetItem :=
  ofBuffer .RawBuffer_SRV slot buffer Format.UNKNOWN range

/-- `BindingSetItem::RawBuffer_UAV`. -/
def RawBuffer_UAV (slot : UInt32) (buffer : Option Handle) (range : BufferRange := EntireBuffer) :
    BindingSetItem :=
  ofBuffer .RawBuffer_UAV slot buffer Format.UNKNOWN range

/-- `BindingSetItem::PushConstants`: no resource, and the range `(0, byteSize)`. -/
def PushConstants (slot byteSize : UInt32) : BindingSetItem :=
  ofBuffer .PushConstants slot none Format.UNKNOWN ⟨0, byteSize.toUInt64⟩

/-- `BindingSetItem::SamplerFeedbackTexture_UAV`: every subresource. -/
def SamplerFeedbackTexture_UAV (slot : UInt32) (texture : Option Handle) : BindingSetItem :=
  ofTexture .SamplerFeedbackTexture_UAV slot texture Format.UNKNOWN AllSubresources .Unknown

/-- `BindingSetItem::setArrayElement`. -/
def setArrayElement (s : BindingSetItem) (value : UInt32) : BindingSetItem :=
  { s with arrayElement := value }

/-- `BindingSetItem::setFormat`. -/
def setFormat (s : BindingSetItem) (value : Format) : BindingSetItem := { s with format := value }

/-- `BindingSetItem::setDimension`. -/
def setDimension (s : BindingSetItem) (value : TextureDimension) : BindingSetItem :=
  { s with dimension := value }

/-- `BindingSetItem::setSubresources`. -/
def setSubresources (s : BindingSetItem) (value : TextureSubresourceSet) : BindingSetItem :=
  { s with rawData := value.rawData }

/-- `BindingSetItem::setRange`. -/
def setRange (s : BindingSetItem) (value : BufferRange) : BindingSetItem :=
  { s with rawData := value.rawData }

@[simp] theorem subresources_setSubresources (s : BindingSetItem) (t : TextureSubresourceSet) :
    (s.setSubresources t).subresources = t := by
  simp [setSubresources, subresources]

@[simp] theorem range_setRange (s : BindingSetItem) (r : BufferRange) :
    (s.setRange r).range = r := rfl

/-- The array element is the one member `operator==` does not read. -/
@[simp] theorem key_setArrayElement (s : BindingSetItem) (value : UInt32) :
    (s.setArrayElement value).key = s.key := rfl

end BindingSetItem

/-! ## The factory calls -/

/-- A call of one of the factory functions of `BindingSetItem`, with its arguments. -/
inductive BindingSetItemCall
  | None (slot : UInt32)
  | Texture_SRV (slot : UInt32) (texture : Option Handle) (format : Format)
      (subresources : TextureSubresourceSet) (dimension : TextureDimension)
  | Texture_UAV (slot : UInt32) (texture : Option Handle) (format : Format)
      (subresources : TextureSubresourceSet) (dimension : TextureDimension)
  | TypedBuffer_SRV (slot : UInt32) (buffer : Option Handle) (format : Format) (range : BufferRange)
  | TypedBuffer_UAV (slot : UInt32) (buffer : Option Handle) (format : Format) (range : BufferRange)
  | ConstantBuffer (slot : UInt32) (buffer : Option Handle) (range : BufferRange)
  | Sampler (slot : UInt32) (sampler : Option Handle)
  | RayTracingAccelStruct (slot : UInt32) (as : Option Handle)
  | StructuredBuffer_SRV (slot : UInt32) (buffer : Option Handle) (format : Format)
      (range : BufferRange)
  | StructuredBuffer_UAV (slot : UInt32) (buffer : Option Handle) (format : Format)
      (range : BufferRange)
  | RawBuffer_SRV (slot : UInt32) (buffer : Option Handle) (range : BufferRange)
  | RawBuffer_UAV (slot : UInt32) (buffer : Option Handle) (range : BufferRange)
  | PushConstants (slot byteSize : UInt32)
  | SamplerFeedbackTexture_UAV (slot : UInt32) (texture : Option Handle)
  deriving DecidableEq, Repr

namespace BindingSetItemCall

/-- The item the call returns; `isVolatile` is the `isVolatile` member of each buffer's
description. -/
def make (isVolatile : Handle → Bool) : BindingSetItemCall → BindingSetItem
  | .None slot => BindingSetItem.None slot
  | .Texture_SRV slot texture format subresources dimension =>
    BindingSetItem.Texture_SRV slot texture format subresources dimension
  | .Texture_UAV slot texture format subresources dimension =>
    BindingSetItem.Texture_UAV slot texture format subresources dimension
  | .TypedBuffer_SRV slot buffer format range =>
    BindingSetItem.TypedBuffer_SRV slot buffer format range
  | .TypedBuffer_UAV slot buffer format range =>
    BindingSetItem.TypedBuffer_UAV slot buffer format range
  | .ConstantBuffer slot buffer range => BindingSetItem.ConstantBuffer isVolatile slot buffer range
  | .Sampler slot sampler => BindingSetItem.Sampler slot sampler
  | .RayTracingAccelStruct slot as => BindingSetItem.RayTracingAccelStruct slot as
  | .StructuredBuffer_SRV slot buffer format range =>
    BindingSetItem.StructuredBuffer_SRV slot buffer format range
  | .StructuredBuffer_UAV slot buffer format range =>
    BindingSetItem.StructuredBuffer_UAV slot buffer format range
  | .RawBuffer_SRV slot buffer range => BindingSetItem.RawBuffer_SRV slot buffer range
  | .RawBuffer_UAV slot buffer range => BindingSetItem.RawBuffer_UAV slot buffer range
  | .PushConstants slot byteSize => BindingSetItem.PushConstants slot byteSize
  | .SamplerFeedbackTexture_UAV slot texture =>
    BindingSetItem.SamplerFeedbackTexture_UAV slot texture

/-- The call that made an item, read off the item: its type names the factory, and the union
is read through the view that factory writes. No factory makes the type `Count`. -/
def ofItem (s : BindingSetItem) : Option BindingSetItemCall :=
  match s.type with
  | .None => some (.None s.slot)
  | .Texture_SRV => some (.Texture_SRV s.slot s.resourceHandle s.format s.subresources s.dimension)
  | .Texture_UAV => some (.Texture_UAV s.slot s.resourceHandle s.format s.subresources s.dimension)
  | .TypedBuffer_SRV => some (.TypedBuffer_SRV s.slot s.resourceHandle s.format s.range)
  | .TypedBuffer_UAV => some (.TypedBuffer_UAV s.slot s.resourceHandle s.format s.range)
  | .StructuredBuffer_SRV => some (.StructuredBuffer_SRV s.slot s.resourceHandle s.format s.range)
  | .StructuredBuffer_UAV => some (.StructuredBuffer_UAV s.slot s.resourceHandle s.format s.range)
  | .RawBuffer_SRV => some (.RawBuffer_SRV s.slot s.resourceHandle s.range)
  | .RawBuffer_UAV => some (.RawBuffer_UAV s.slot s.resourceHandle s.range)
  | .ConstantBuffer | .VolatileConstantBuffer =>
    some (.ConstantBuffer s.slot s.resourceHandle s.range)
  | .Sampler => some (.Sampler s.slot s.resourceHandle)
  | .RayTracingAccelStruct => some (.RayTracingAccelStruct s.slot s.resourceHandle)
  | .PushConstants => some (.PushConstants s.slot (lowWord s.range.byteSize))
  | .SamplerFeedbackTexture_UAV => some (.SamplerFeedbackTexture_UAV s.slot s.resourceHandle)
  | .Count => none

/-- `ofItem` reads only the members `operator==` compares. -/
theorem ofItem_eq_of_key_eq {a b : BindingSetItem} (h : a.key = b.key) : ofItem a = ofItem b := by
  obtain ⟨_, _, _, _, _, _, _, _⟩ := a
  obtain ⟨_, _, _, _, _, _, _, _⟩ := b
  simp only [BindingSetItem.key, Prod.mk.injEq] at h
  obtain ⟨rfl, rfl, rfl, rfl, rfl, rfl, rfl⟩ := h
  rfl

/-- Every factory call is read back from the item it returns, all its arguments included:
the factories lose nothing of what they are given, the union included. -/
theorem ofItem_make (isVolatile : Handle → Bool) (c : BindingSetItemCall) :
    ofItem (c.make isVolatile) = some c := by
  cases c
  case Texture_SRV | Texture_UAV =>
    simp [make, ofItem, BindingSetItem.Texture_SRV, BindingSetItem.Texture_UAV,
      BindingSetItem.ofTexture, BindingSetItem.subresources]
  case ConstantBuffer =>
    simp only [make, BindingSetItem.ConstantBuffer]
    split <;> rfl
  case PushConstants => exact congrArg (fun b => some (PushConstants _ b)) (toUInt32_toUInt64 _)
  all_goals rfl

/-- The default subresources of `Texture_UAV` are read back from its union. -/
example : ofItem (BindingSetItem.Texture_UAV 2 (some 5)) =
    some (.Texture_UAV 2 (some 5) Format.UNKNOWN ⟨0, 1, 0, TextureSubresourceSet.AllArraySlices⟩
      .Unknown) := by
  decide

/-- Two factory calls give items with the same key only when they are the same call. -/
theorem make_key_injective (isVolatile : Handle → Bool) :
    Function.Injective fun c : BindingSetItemCall => (c.make isVolatile).key := fun c c' h =>
  Option.some.inj ((ofItem_make isVolatile c).symm.trans
    ((ofItem_eq_of_key_eq h).trans (ofItem_make isVolatile c')))

end BindingSetItemCall

/-! ## Descriptions built from factory items -/

/-- `BindingSetDesc::addItem`. -/
def BindingSetDesc.addItem (d : BindingSetDesc) (value : BindingSetItem) : BindingSetDesc :=
  { d with bindings := d.bindings ++ [value] }

/-- `BindingSetDesc::setTrackLiveness`. -/
def BindingSetDesc.setTrackLiveness (d : BindingSetDesc) (value : Bool) : BindingSetDesc :=
  { d with trackLiveness := value }

@[simp] theorem BindingSetDesc.foldl_addItem_bindings (items : List BindingSetItem)
    (d : BindingSetDesc) : (items.foldl addItem d).bindings = d.bindings ++ items := by
  induction items generalizing d with
  | nil => simp
  | cons s items ih => simp [ih, addItem]

/-- A description built by `addItem` from items that factory calls return, each given an
array element, compares equal to another such description exactly when the same calls, in the
same order, made their items: the binding-set cache hands out a set only for the resources,
views and ranges it was made for, and never tells array elements or `trackLiveness` apart. -/
theorem BindingSetDesc.addItems_beq_addItems (isVolatile : Handle → Bool)
    (calls calls' : List (BindingSetItemCall × UInt32)) (t t' : Bool) :
    ((calls.map fun c => (c.1.make isVolatile).setArrayElement c.2).foldl addItem ⟨[], t⟩ ==
        (calls'.map fun c => (c.1.make isVolatile).setArrayElement c.2).foldl addItem
          ⟨[], t'⟩) = true ↔
      calls.map Prod.fst = calls'.map Prod.fst := by
  have hmap : ∀ l : List (BindingSetItemCall × UInt32),
      (l.map fun c => (c.1.make isVolatile).setArrayElement c.2).map BindingSetItem.key =
        (l.map Prod.fst).map fun c => (c.make isVolatile).key := fun l => by
    simp [Function.comp_def]
  rw [BindingSetDesc.beq_iff, foldl_addItem_bindings, foldl_addItem_bindings, List.nil_append,
    List.nil_append, hmap, hmap,
    (List.map_injective_iff.mpr (BindingSetItemCall.make_key_injective isVolatile)).eq_iff]

end Nvrhi
