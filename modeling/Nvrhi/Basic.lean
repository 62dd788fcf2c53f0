import Mathlib

/-!
# Values compared by the state cache

The graphics-state cache of the Vulkan command list decides whether to re-record a command
by comparing the requested value with the cached one through the C++ `operator==` of its
type (`nvrhi.h`), element by element for arrays (`arraysAreDifferent`). For the integer and
pointer types that comparison is equality. For `Color` and `Viewport` it is the IEEE 754
equality of their `float` members, which is not an equivalence: a NaN compares equal to
nothing, itself included, and `+0.0 == -0.0`. `Float32` therefore keeps the three bit fields
of a binary32 value, and its `==` is IEEE equality.

* `Float32.beq_trans`, `Color.beq_trans`, `Viewport.beq_trans`: IEEE equality is symmetric
  and transitive, so a value that compared equal to the cache compares equal to every later
  value that compares equal to it.
* `arraysAreDifferent_eq_false`: arrays that are not different agree elementwise under `==`;
  for types whose `==` is equality they are equal (`arraysAreDifferent_eq_false_iff`).
-/

namespace Nvrhi

/-- A pointer to an NVRHI object: a pipeline, framebuffer, buffer, texture or binding set.
Pointers are only compared and dereferenced, so a number stands for each one. -/
abbrev Handle := Nat

/-! ## `float` -/

/-- A binary32 `float` by its fields: sign, biased exponent and fraction. -/
structure Float32 where
  sign : Bool
  exponent : Fin 256
  fraction : Fin (2 ^ 23)
  deriving DecidableEq, Repr

namespace Float32

/-- All exponent bits set and a nonzero fraction. -/
def isNaN (x : Float32) : Bool := x.exponent = 255 && x.fraction ≠ 0

/-- `+0.0` or `-0.0`. -/
def isZero (x : Float32) : Bool := x.exponent = 0 && x.fraction = 0

/-- IEEE 754 equality, the C++ `==` on `float`. -/
def beq (x y : Float32) : Bool :=
  !x.isNaN && !y.isNaN && (decide (x = y) || x.isZero && y.isZero)

instance : BEq Float32 := ⟨beq⟩

def posZero : Float32 := ⟨false, 0, 0⟩

def negZero : Float32 := ⟨true, 0, 0⟩

/-- The quiet NaN `0x7FC00000`. -/
def quietNaN : Float32 := ⟨false, 255, 4194304⟩

theorem beq_iff {x y : Float32} :
    (x == y) = true ↔ x.isNaN = false ∧ y.isNaN = false ∧ (x = y ∨ x.isZero ∧ y.isZero) := by
  simp [BEq.beq, beq, and_assoc]

theorem isNaN_of_isZero {x : Float32} (h : x.isZero) : x.isNaN = false := by
  simp only [isZero, Bool.and_eq_true, decide_eq_true_eq] at h
  simp [isNaN, h.1]

theorem beq_self {x : Float32} (h : x.isNaN = false) : (x == x) = true :=
  beq_iff.2 ⟨h, h, Or.inl rfl⟩

theorem beq_symm {x y : Float32} (h : (x == y) = true) : (y == x) = true := by
  rw [beq_iff] at h ⊢
  obtain ⟨hx, hy, rfl | ⟨zx, zy⟩⟩ := h
  · exact ⟨hx, hx, Or.inl rfl⟩
  · exact ⟨hy, hx, Or.inr ⟨zy, zx⟩⟩

theorem beq_trans {x y z : Float32} (h₁ : (x == y) = true) (h₂ : (y == z) = true) :
    (x == z) = true := by
  rw [beq_iff] at h₁ h₂ ⊢
  obtain ⟨hx, -, rfl | ⟨zx, zy⟩⟩ := h₁
  · exact ⟨hx, h₂.2⟩
  · obtain ⟨-, hz, rfl | ⟨-, zz⟩⟩ := h₂
    · exact ⟨hx, hz, Or.inr ⟨zx, zy⟩⟩
    · exact ⟨hx, hz, Or.inr ⟨zx, zz⟩⟩

/-- The two zeros compare equal and differ in their bits; NaN is not equal to itself. -/
theorem posZero_beq_negZero : (posZero == negZero) = true ∧ posZero ≠ negZero := by decide

theorem quietNaN_not_beq_self : (quietNaN == quietNaN) = false := by decide

end Float32

/-! ## Colors, viewports and rectangles -/

/-- `nvrhi::Color`. -/
structure Color where
  r : Float32
  g : Float32
  b : Float32
  a : Float32
  deriving DecidableEq, Repr

/-- `Color::operator==`. -/
instance : BEq Color := ⟨fun c d => c.r == d.r && c.g == d.g && c.b == d.b && c.a == d.a⟩

/-- `nvrhi::Viewport`, in pixels. -/
structure Viewport where
  minX : Float32
  maxX : Float32
  minY : Float32
  maxY : Float32
  minZ : Float32
  maxZ : Float32
  deriving DecidableEq, Repr

/-- `Viewport::operator==`. -/
instance : BEq Viewport :=
  ⟨fun v w => v.minX == w.minX && v.minY == w.minY && v.minZ == w.minZ &&
    v.maxX == w.maxX && v.maxY == w.maxY && v.maxZ == w.maxZ⟩

/-- A 32-bit `int`, read in two's complement by `BitVec.toInt`. -/
abbrev Int32 := BitVec 32

/-- `nvrhi::Rect`: pixel corners as `int`s. `Rect::operator==` compares all four. -/
structure Rect where
  minX : Int32
  maxX : Int32
  minY : Int32
  maxY : Int32
  deriving DecidableEq, Repr

/-- `enum class Format : uint8_t`; only `UNKNOWN` and `R16_UINT` are named by the modelled
code. -/
abbrev Format := UInt8

def Format.UNKNOWN : Format := 0

def Format.R16_UINT : Format := 9

/-- `enum class ResourceStates : uint32_t`, a bitmask of usages. -/
abbrev ResourceStates := UInt32

namespace ResourceStates

def Unknown : ResourceStates := 0
def VertexBuffer : ResourceStates := 0x4
def IndexBuffer : ResourceStates := 0x8
def IndirectArgument : ResourceStates := 0x10
def UnorderedAccess : ResourceStates := 0x40
def RenderTarget : ResourceStates := 0x80

end ResourceStates

section BEqLaws

variable {c d e : Color} {v w u : Viewport}

theorem Color.beq_iff : (c == d) = true ↔
    (c.r == d.r) = true ∧ (c.g == d.g) = true ∧ (c.b == d.b) = true ∧ (c.a == d.a) = true := by
  simp [BEq.beq, and_assoc]

theorem Color.beq_symm (h : (c == d) = true) : (d == c) = true := by
  simp only [Color.beq_iff] at h ⊢
  exact ⟨Float32.beq_symm h.1, Float32.beq_symm h.2.1, Float32.beq_symm h.2.2.1,
    Float32.beq_symm h.2.2.2⟩

theorem Color.beq_trans (h₁ : (c == d) = true) (h₂ : (d == e) = true) : (c == e) = true := by
  simp only [Color.beq_iff] at h₁ h₂ ⊢
  exact ⟨Float32.beq_trans h₁.1 h₂.1, Float32.beq_trans h₁.2.1 h₂.2.1,
    Float32.beq_trans h₁.2.2.1 h₂.2.2.1, Float32.beq_trans h₁.2.2.2 h₂.2.2.2⟩

theorem Viewport.beq_iff : (v == w) = true ↔
    (v.minX == w.minX) = true ∧ (v.minY == w.minY) = true ∧ (v.minZ == w.minZ) = true ∧
      (v.maxX == w.maxX) = true ∧ (v.maxY == w.maxY) = true ∧ (v.maxZ == w.maxZ) = true := by
  simp [BEq.beq, and_assoc]

theorem Viewport.beq_symm (h : (v == w) = true) : (w == v) = true := by
  simp only [Viewport.beq_iff] at h ⊢
  obtain ⟨h₁, h₂, h₃, h₄, h₅, h₆⟩ := h
  exact ⟨Float32.beq_symm h₁, Float32.beq_symm h₂, Float32.beq_symm h₃, Float32.beq_symm h₄,
    Float32.beq_symm h₅, Float32.beq_symm h₆⟩

theorem Viewport.beq_trans (h : (v == w) = true) (h' : (w == u) = true) : (v == u) = true := by
  simp only [Viewport.beq_iff] at h h' ⊢
  obtain ⟨h₁, h₂, h₃, h₄, h₅, h₆⟩ := h
  obtain ⟨h₁', h₂', h₃', h₄', h₅', h₆'⟩ := h'
  exact ⟨Float32.beq_trans h₁ h₁', Float32.beq_trans h₂ h₂', Float32.beq_trans h₃ h₃',
    Float32.beq_trans h₄ h₄', Float32.beq_trans h₅ h₅', Float32.beq_trans h₆ h₆'⟩

/-- `x` is `y`, or compares equal to it with `==`: what a value the code did not re-record
because it compared equal can be. -/
def Same {α : Type} [BEq α] (x y : α) : Prop := x = y ∨ (x == y) = true

theorem Same.refl {α : Type} [BEq α] (x : α) : Same x x := Or.inl rfl

theorem Color.same_of_beq (h : Same c d) (h' : (d == e) = true) : Same c e := by
  rcases h with rfl | h
  exacts [Or.inr h', Or.inr (Color.beq_trans h h')]

theorem Viewport.same_of_beq (h : Same v w) (h' : (w == u) = true) : Same v u := by
  rcases h with rfl | h
  exacts [Or.inr h', Or.inr (Viewport.beq_trans h h')]

end BEqLaws

/-! ## Array comparison -/

/-- Modelled from the spec ("each sub-field is compared independently and only changed fields
trigger their corresponding driver call"): `arraysAreDifferent` of `nvrhi/common/misc.h`,
which is not among the sources. Arrays differ when their sizes differ or when `operator!=`
holds at some index. -/
def arraysAreDifferent {α : Type} [BEq α] : List α → List α → Bool
  | [], [] => false
  | x :: xs, y :: ys => x != y || arraysAreDifferent xs ys
  | _, _ => true

theorem arraysAreDifferent_eq_false {α : Type} [BEq α] {a b : List α} :
    arraysAreDifferent a b = false ↔ List.Forall₂ (fun x y => (x == y) = true) a b := by
  induction a generalizing b with
  | nil => cases b <;> simp [arraysAreDifferent]
  | cons x xs ih => cases b <;> simp [arraysAreDifferent, ih, bne]

theorem arraysAreDifferent_eq_false_iff {α : Type} [BEq α] [LawfulBEq α] {a b : List α} :
    arraysAreDifferent a b = false ↔ a = b := by
  rw [arraysAreDifferent_eq_false]
  simp only [beq_iff_eq, List.forall₂_eq_eq_eq]

@[simp] theorem arraysAreDifferent_self {α : Type} [BEq α] [LawfulBEq α] (a : List α) :
    arraysAreDifferent a a = false :=
  arraysAreDifferent_eq_false_iff.mpr rfl

end Nvrhi
