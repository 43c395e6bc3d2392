import Mathlib.Data.Int.ConditionallyCompleteOrder
import Mathlib.Data.Set.Prod
import Mathlib.Tactic.Linarith

/-! # Rectangles of the display (`msm/sde/sde_kms_utils.c`)

Rectangles are kept in fields of 16 bits and intersected in wider numbers.
-/

namespace DisplayDrivers.Rois

abbrev U16 := Fin 65536

instance neZero_u16 : NeZero 65536 := ⟨by decide⟩

def u16 (n : ℤ) : U16 := ⟨(n % 65536).toNat, by omega⟩

theorem u16_eq (n : ℤ) : ((u16 n : ℕ) : ℤ) = n % 65536 := Int.toNat_of_nonneg (by omega)

/-- `struct sde_rect` -/
structure Rect where
  x : U16
  y : U16
  w : U16
  h : U16

/-- `struct drm_clip_rect` -/
structure ClipRect where
  x1 : U16
  y1 : U16
  x2 : U16
  y2 : U16

structure Mode where
  hdisplay : ℕ
  vdisplay : ℕ
  wide : 0 < hdisplay
  high : 0 < vdisplay
  h16 : hdisplay < 65536
  v16 : vdisplay < 65536

def einval : Int := -22

def Rect.zero : Rect := ⟨0, 0, 0, 0⟩

def Rect.isNull (r : Rect) : Bool := r.w = 0 || r.h = 0

def rectIntersect (r1 r2 : Rect) : Rect :=
  let l : ℕ := max r1.x r2.x
  let t : ℕ := max r1.y r2.y
  let r : ℕ := min ((r1.x : ℕ) + r1.w) ((r2.x : ℕ) + r2.w)
  let b : ℕ := min ((r1.y : ℕ) + r1.h) ((r2.y : ℕ) + r2.h)
  if r ≤ l ∨ b ≤ t then .zero else ⟨u16 l, u16 t, u16 (r - l), u16 (b - t)⟩

/-! ## Pixels -/

def area (x y : ℤ) (w h : ℕ) : Set (ℤ × ℤ) := Set.Ico x (x + w) ×ˢ Set.Ico y (y + h)

def Rect.pixels (r : Rect) : Set (ℤ × ℤ) := area (r.x : ℕ) (r.y : ℕ) r.w r.h

theorem mem_area {x y : ℤ} {w h : ℕ} {p : ℤ × ℤ} :
    p ∈ area x y w h ↔ (x ≤ p.1 ∧ p.1 < x + w) ∧ y ≤ p.2 ∧ p.2 < y + h := Iff.rfl

theorem mem_pixels {r : Rect} {p : ℤ × ℤ} : p ∈ r.pixels ↔
    ((r.x : ℕ) ≤ p.1 ∧ p.1 < (r.x : ℕ) + (r.w : ℕ)) ∧ (r.y : ℕ) ≤ p.2 ∧
    p.2 < (r.y : ℕ) + (r.h : ℕ) :=
  Iff.rfl

end DisplayDrivers.Rois
