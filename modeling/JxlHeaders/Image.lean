import Mathlib.Data.Fin.Basic

/-!
# Images and interleaved buffers

An `Image` holds exactly its `xsize * ysize` samples. A colour frame is decoded into one
buffer three times as wide and split into planes (`Image.plane`); the split loses no
sample and invents none (`interleave_plane`, `plane_interleave`).
-/

namespace JxlHeaders

structure Image (α : Type) where
  xsize : Nat
  ysize : Nat
  pixel : Fin ysize → Fin xsize → α

namespace Image

variable {α : Type}

def size (img : Image α) : Nat × Nat := (img.xsize, img.ysize)

def new (size : Nat × Nat) (fill : α) : Image α := ⟨size.1, size.2, fun _ _ => fill⟩

def get [Inhabited α] (img : Image α) (x y : Nat) : α :=
  if h : y < img.ysize ∧ x < img.xsize then img.pixel ⟨y, h.1⟩ ⟨x, h.2⟩ else default

/-- Write every sample through a mutable view, which cannot change the image's size. -/
def update (img : Image α) (f : Nat → Nat → α → α) : Image α :=
  { img with pixel := fun y x => f x y (img.pixel y x) }

def plane (src : Image α) (c : Fin 3) : Image α where
  xsize := src.xsize / 3
  ysize := src.ysize
  pixel y x := src.pixel y ⟨3 * x + c, by omega⟩

def interleave [Inhabited α] (r g b : Image α) : Image α where
  xsize := 3 * r.xsize
  ysize := r.ysize
  pixel y x := (if x.val % 3 = 0 then r else if x.val % 3 = 1 then g else b).get (x / 3) y

@[simp] theorem size_new (size : Nat × Nat) (fill : α) : (new size fill).size = size := rfl

@[simp] theorem size_update (img : Image α) (f : Nat → Nat → α → α) :
    (img.update f).size = img.size := rfl

@[simp] theorem size_plane (src : Image α) (c : Fin 3) :
    (src.plane c).size = (src.xsize / 3, src.ysize) := rfl

theorem size_eq {img : Image α} {s : Nat × Nat} :
    img.size = s ↔ img.xsize = s.1 ∧ img.ysize = s.2 := by
  obtain ⟨a, b⟩ := s
  simp [size]

theorem ext_pixel {a b : Image α} (hx : a.xsize = b.xsize) (hy : a.ysize = b.ysize)
    (h : ∀ y x, a.pixel y x = b.pixel (Fin.cast hy y) (Fin.cast hx x)) : a = b := by
  obtain ⟨ax, ay, ap⟩ := a
  obtain ⟨bx, by', bp⟩ := b
  cases hx
  cases hy
  congr
  funext y x
  exact h y x

theorem get_of_lt [Inhabited α] (img : Image α) {x y : Nat} (hy : y < img.ysize)
    (hx : x < img.xsize) : img.get x y = img.pixel ⟨y, hy⟩ ⟨x, hx⟩ := by
  simp [get, hy, hx]

theorem update_eq_plane [Inhabited α] (src img : Image α) (c : Fin 3)
    (h : img.size = (src.xsize / 3, src.ysize)) :
    img.update (fun x y _ => src.get (3 * x + c) y) = src.plane c := by
  rw [size_eq] at h
  refine ext_pixel h.1 h.2 fun y x => ?_
  have hy : y.val < src.ysize := lt_of_lt_of_eq (y.2 : y.val < img.ysize) h.2
  have hx : 3 * x.val + c < src.xsize := by
    have := lt_of_lt_of_eq (x.2 : x.val < img.xsize) h.1
    omega
  simp only [update, plane]
  rw [get_of_lt _ hy hx]
  rfl

theorem interleave_pixel [Inhabited α] (r g b : Image α) (y : Fin r.ysize) (x : Nat)
    (c : Fin 3) (h : 3 * x + c < 3 * r.xsize) :
    (interleave r g b).pixel y ⟨3 * x + c, h⟩ =
      (if c.val = 0 then r else if c.val = 1 then g else b).get x y := by
  have hm : (3 * x + c) % 3 = c := by omega
  have hd : (3 * x + c) / 3 = x := by omega
  simp only [interleave, hm, hd]

theorem plane_interleave_eq [Inhabited α] {r g b p : Image α} (c : Fin 3)
    (hp : (if c.val = 0 then r else if c.val = 1 then g else b) = p)
    (hs : p.size = r.size) : (interleave r g b).plane c = p := by
  simp only [size, Prod.mk.injEq] at hs
  refine ext_pixel (by simp only [plane, interleave]; omega) hs.2.symm fun y x => ?_
  have hx : x.val < p.xsize := by have := x.2; simp only [plane, interleave] at this; omega
  have hy : y.val < p.ysize := lt_of_lt_of_eq (y.2 : y.val < r.ysize) hs.2.symm
  simp only [plane]
  rw [interleave_pixel, hp, get_of_lt p hy hx]
  rfl

theorem interleave_plane [Inhabited α] (src : Image α) (h : src.xsize % 3 = 0) :
    interleave (src.plane 0) (src.plane 1) (src.plane 2) = src := by
  refine ext_pixel (by simp only [interleave, plane]; omega) rfl fun y ⟨x, hx⟩ => ?_
  have hlt : x / 3 < src.xsize / 3 := by simp only [interleave, plane] at hx; omega
  have hc : (if x % 3 = 0 then src.plane 0 else if x % 3 = 1 then src.plane 1 else
      src.plane 2) = src.plane ⟨x % 3, by omega⟩ := by
    split_ifs <;> congr 1 <;> ext <;> simp only [Fin.val_zero, Fin.val_one, Fin.val_two] <;> omega
  simp only [interleave]
  rw [hc, get_of_lt (src.plane _) (y.2 : y.val < src.ysize) hlt]
  simp only [plane]
  congr 1
  ext
  simp only [Fin.coe_cast]
  omega

theorem plane_interleave [Inhabited α] (r g b : Image α) (hg : g.size = r.size)
    (hb : b.size = r.size) :
    (interleave r g b).plane 0 = r ∧ (interleave r g b).plane 1 = g ∧
      (interleave r g b).plane 2 = b :=
  ⟨plane_interleave_eq 0 rfl rfl, plane_interleave_eq 1 rfl hg, plane_interleave_eq 2 rfl hb⟩

def ramp (width start : Nat) : Image Nat := ⟨width, 1, fun _ x => start + x⟩

theorem plane_interleave_ramps :
    (ramp 2 2).size = (ramp 2 0).size ∧ (ramp 2 4).size = (ramp 2 0).size ∧
    (interleave (ramp 2 0) (ramp 2 2) (ramp 2 4)).plane 0 = ramp 2 0 ∧
    (interleave (ramp 2 0) (ramp 2 2) (ramp 2 4)).plane 1 = ramp 2 2 ∧
    (interleave (ramp 2 0) (ramp 2 2) (ramp 2 4)).plane 2 = ramp 2 4 :=
  ⟨rfl, rfl, plane_interleave _ _ _ rfl rfl⟩

end Image

end JxlHeaders
