import Nvrhi.Framebuffer

/-!
# Binding-set descriptions: equality and hash

A binding-set description is a cache key: `BindingSetDesc::operator==` and
`std::hash<BindingSetDesc>` decide when a set already made can be reused. Both read the same
members of each item: the resource, the slot, the type, the dimension, the format and the
16 bytes of the subresource/range union (`rawData`). `arrayElement`, the index in a
descriptor array, is read by neither, so two items that differ only there compare equal and
hash equally. The description's `operator==` compares the item lists position by position
and ignores `trackLiveness`; its hash combines the item hashes in order.

The hashes of the member types are the standard library's, which the standard leaves to
the implementation: they are a parameter (`Hashers`), and `size_t` is 64 bits wide.

* `BindingSetDesc.beq_iff`: two descriptions compare equal exactly when their item lists
  agree position by position on the members `operator==` reads (`BindingSetItem.key`).
* `BindingSetDesc.hash_eq_of_beq`: descriptions that compare equal hash equally, for every
  choice of the member hashes.
* `arrayElement_not_compared`: two descriptions whose only item differs in its array
  element compare equal and hash equally.
-/

namespace Nvrhi

/-! ## Items -/

/-- `enum class ResourceType : uint8_t`. -/
inductive ResourceType
  | None | Texture_SRV | Texture_UAV | TypedBuffer_SRV | TypedBuffer_UAV | StructuredBuffer_SRV
  | StructuredBuffer_UAV | RawBuffer_SRV | RawBuffer_UAV | ConstantBuffer | VolatileConstantBuffer
  | Sampler | RayTracingAccelStruct | PushConstants | SamplerFeedbackTexture_UAV | Count
  deriving DecidableEq, Repr

/-- `BindingSetItem`. The resource pointer may be null; `rawData` is `rawData[0]` and
`rawData[1]`, the two words of the union of the texture subresources and the buffer range.
The padding members `unused` and `unused2` are read by nothing modelled here. -/
structure BindingSetItem where
  resourceHandle : Option Handle
  slot : UInt32
  arrayElement : UInt32
  type : ResourceType
  dimension : TextureDimension
  format : Format
  rawData : UInt64 × UInt64
  deriving DecidableEq, Repr

/-- `BindingSetItem::operator==`. -/
instance : BEq BindingSetItem :=
  ⟨fun a b => a.resourceHandle == b.resourceHandle && a.slot == b.slot && a.type == b.type &&
    a.dimension == b.dimension && a.format == b.format && a.rawData.1 == b.rawData.1 &&
    a.rawData.2 == b.rawData.2⟩

/-- The members `operator==` compares. -/
def BindingSetItem.key (s : BindingSetItem) :
    Option Handle × UInt32 × ResourceType × TextureDimension × Format × UInt64 × UInt64 :=
  (s.resourceHandle, s.slot, s.type, s.dimension, s.format, s.rawData.1, s.rawData.2)

theorem BindingSetItem.beq_iff {a b : BindingSetItem} : (a == b) = true ↔ a.key = b.key := by
  show (_ && _) = true ↔ _
  simp [key, Prod.ext_iff, and_assoc]

/-! ## Descriptions -/

/-- `BindingSetDesc`. -/
structure BindingSetDesc where
  bindings : List BindingSetItem
  trackLiveness : Bool
  deriving DecidableEq, Repr

/-- `BindingSetDesc::operator==`: the sizes, then the items in order, stopping at the first
pair that differs. -/
instance : BEq BindingSetDesc :=
  ⟨fun a b => if a.bindings.length != b.bindings.length then false
    else (a.bindings.zip b.bindings).all fun (x, y) => !(x != y)⟩

/-- Equal-length item lists agree item by item exactly when their keys agree. -/
theorem all_zip_beq_iff {xs ys : List BindingSetItem} (h : xs.length = ys.length) :
    ((xs.zip ys).all fun (x, y) => !(x != y)) = true ↔
      xs.map BindingSetItem.key = ys.map BindingSetItem.key := by
  induction xs generalizing ys with
  | nil => cases ys <;> simp_all
  | cons x xs ih =>
    cases ys with
    | nil => simp at h
    | cons y ys =>
      rw [List.zip_cons_cons, List.all_cons, Bool.and_eq_true, ih (Nat.succ.inj h)]
      simp [bne, BindingSetItem.beq_iff]

/-- Two descriptions compare equal exactly when their item lists agree, position by position,
on the members `BindingSetItem::operator==` reads. -/
theorem BindingSetDesc.beq_iff {a b : BindingSetDesc} :
    (a == b) = true ↔ a.bindings.map BindingSetItem.key = b.bindings.map BindingSetItem.key := by
  show (if _ then _ else _) = true ↔ _
  by_cases h : a.bindings.length = b.bindings.length
  · simp [h, all_zip_beq_iff h]
  · simp only [bne_iff_ne, ne_eq, h, not_false_eq_true, if_true, Bool.false_eq_true, false_iff]
    exact fun e => h (by simpa using congrArg List.length e)

/-! ## Hashes -/

/-- `std::hash` of the member types, as the standard library at hand defines them. -/
structure Hashers where
  resource : Option Handle → UInt64
  uint32 : UInt32 → UInt64
  resourceType : ResourceType → UInt64
  dimension : TextureDimension → UInt64
  format : Format → UInt64
  uint64 : UInt64 → UInt64

/-- `hash_combine(seed, v)`, where `h` is `std::hash` of `v`. -/
def hashCombine (seed h : UInt64) : UInt64 :=
  seed ^^^ (h + 0x9e3779b9 + (seed <<< (6 : UInt64)) + (seed >>> (2 : UInt64)))

/-- `std::hash<BindingSetItem>`. -/
def BindingSetItem.hash (H : Hashers) (s : BindingSetItem) : UInt64 :=
  [H.resource s.resourceHandle, H.uint32 s.slot, H.resourceType s.type,
    H.dimension s.dimension, H.format s.format, H.uint64 s.rawData.1,
    H.uint64 s.rawData.2].foldl hashCombine 0

/-- `std::hash<BindingSetDesc>`. -/
def BindingSetDesc.hash (H : Hashers) (s : BindingSetDesc) : UInt64 :=
  s.bindings.foldl (fun value item => hashCombine value (item.hash H)) 0

theorem BindingSetItem.hash_eq_of_key_eq (H : Hashers) {a b : BindingSetItem}
    (h : a.key = b.key) : a.hash H = b.hash H := by
  simp only [key, Prod.mk.injEq] at h
  simp [hash, h]

/-- Folding the item hashes over two lists with the same keys gives the same value. -/
theorem foldl_hashCombine_congr (H : Hashers) {xs ys : List BindingSetItem}
    (h : xs.map BindingSetItem.key = ys.map BindingSetItem.key) (value : UInt64) :
    xs.foldl (fun value item => hashCombine value (item.hash H)) value =
      ys.foldl (fun value item => hashCombine value (item.hash H)) value := by
  induction xs generalizing ys value with
  | nil => cases ys <;> simp_all
  | cons x xs ih =>
    cases ys with
    | nil => simp at h
    | cons y ys =>
      simp only [List.map_cons, List.cons.injEq] at h
      simp only [List.foldl_cons, BindingSetItem.hash_eq_of_key_eq H h.1, ih h.2]

/-- The hash is consistent with `operator==`: descriptions that compare equal hash equally,
whatever the standard library's hashes of the members are. -/
theorem BindingSetDesc.hash_eq_of_beq (H : Hashers) {a b : BindingSetDesc}
    (h : (a == b) = true) : a.hash H = b.hash H :=
  foldl_hashCombine_congr H (BindingSetDesc.beq_iff.mp h) 0

/-- libstdc++'s member hashes: an integer, an enumerator or a pointer hashes to its own
value, the null pointer to `0`. -/
def Hashers.libstdcxx : Hashers where
  resource h := (h.getD 0).toUInt64
  uint32 x := x.toUInt64
  resourceType t := t.toCtorIdx.toUInt64
  dimension d := d.toCtorIdx.toUInt64
  format f := f.toUInt64
  uint64 x := x

/-- Under libstdc++, two descriptions that differ in an item's array element and in
`trackLiveness` compare equal and so hash equally. -/
theorem hash_eq_of_beq_libstdcxx :
    (BindingSetDesc.mk [⟨some 1, 0, 0, .Texture_SRV, .Texture2D, 0, (0, 0)⟩] true ==
        BindingSetDesc.mk [⟨some 1, 0, 1, .Texture_SRV, .Texture2D, 0, (0, 0)⟩] false) = true ∧
      (BindingSetDesc.mk [⟨some 1, 0, 0, .Texture_SRV, .Texture2D, 0, (0, 0)⟩] true).hash
          Hashers.libstdcxx =
        (BindingSetDesc.mk [⟨some 1, 0, 1, .Texture_SRV, .Texture2D, 0, (0, 0)⟩] false).hash
          Hashers.libstdcxx :=
  ⟨by decide, BindingSetDesc.hash_eq_of_beq Hashers.libstdcxx (by decide)⟩

/-- Two descriptions whose only item binds the same texture at array element `0` and at
array element `1`: they are different descriptions, yet they compare equal and hash equally,
so a cache keyed by the description returns the set made for the other element. -/
theorem arrayElement_not_compared :
    BindingSetDesc.mk [⟨some 1, 0, 0, .Texture_SRV, .Texture2D, 0, (0, 0)⟩] true ≠
        BindingSetDesc.mk [⟨some 1, 0, 1, .Texture_SRV, .Texture2D, 0, (0, 0)⟩] true ∧
      (BindingSetDesc.mk [⟨some 1, 0, 0, .Texture_SRV, .Texture2D, 0, (0, 0)⟩] true ==
        BindingSetDesc.mk [⟨some 1, 0, 1, .Texture_SRV, .Texture2D, 0, (0, 0)⟩] true) = true ∧
      ∀ H : Hashers,
        (BindingSetDesc.mk [⟨some 1, 0, 0, .Texture_SRV, .Texture2D, 0, (0, 0)⟩] true).hash H =
          (BindingSetDesc.mk [⟨some 1, 0, 1, .Texture_SRV, .Texture2D, 0, (0, 0)⟩] true).hash H :=
  ⟨by decide, by decide, fun _ => rfl⟩

end Nvrhi
