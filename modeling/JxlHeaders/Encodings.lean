import JxlHeaders.Programs

/-!
# Field encodings

The coders of the fields and the rules by which a field is present, defaulted or
repeated. The source's `headers::encodings` module and its derive macro are not under
src/: everything here is modelled from the spec and the format it describes.
-/

namespace JxlHeaders

/-! ## `u32` values as naturals -/

theorem u32_le_iff {a b : UInt32} : a ≤ b ↔ a.toNat ≤ b.toNat := Iff.rfl

theorem u32_lt_iff {a b : UInt32} : a < b ↔ a.toNat < b.toNat := Iff.rfl

theorem u32_toNat_ofNat {x : Nat} (h : x < 2 ^ 32) : (UInt32.ofNat x).toNat = x :=
  UInt32.toNat_ofNat_of_lt h

theorem u32_toNat_ofNat_add {x : Nat} {off : UInt32} (h : x + off.toNat < 2 ^ 32) :
    (UInt32.ofNat x + off).toNat = x + off.toNat := by
  rw [UInt32.toNat_add, u32_toNat_ofNat (by omega)]
  exact Nat.mod_eq_of_lt h

theorem u32_toNat_shiftLeft (a b : UInt32) :
    (a <<< b).toNat = a.toNat * 2 ^ (b.toNat % 32) % 2 ^ 32 := by
  show (a.toBitVec <<< (b.mod 32).toBitVec).toNat = _
  simp [BitVec.toNat_shiftLeft, Nat.shiftLeft_eq]
  rfl

theorem u32_toNat_shiftRight (a b : UInt32) : (a >>> b).toNat = a.toNat / 2 ^ (b.toNat % 32) := by
  show (a.toBitVec >>> (b.mod 32).toBitVec).toNat = _
  simp [BitVec.toNat_ushiftRight, Nat.shiftRight_eq_div_pow]
  rfl

theorem u32_ofNat_toNat (a : UInt32) : UInt32.ofNat a.toNat = a :=
  UInt32.ext (u32_toNat_ofNat a.toNat_lt)

theorem u32_toNat_ofNat_mod (n : Nat) : (UInt32.ofNat n).toNat = n % 2 ^ 32 := rfl

inductive U32 where
  | bits (n : Nat)
  | bitsOffset (n : Nat) (off : UInt32)
  | val (v : UInt32)
  deriving DecidableEq, Repr

def U32.read : U32 → Prog UInt32
  | .bits n => return UInt32.ofNat (← readBits n)
  | .bitsOffset n off => return UInt32.ofNat (← readBits n) + off
  | .val v => pure v

inductive U32Coder where
  | direct (u : U32)
  | select (u0 u1 u2 u3 : U32)
  deriving DecidableEq, Repr

def U32Coder.pick (u0 u1 u2 u3 : U32) : Nat → U32
  | 0 => u0
  | 1 => u1
  | 2 => u2
  | _ => u3

def U32Coder.read : U32Coder → Prog UInt32
  | .direct u => u.read
  | .select u0 u1 u2 u3 => do
    let s ← readBits 2
    (U32Coder.pick u0 u1 u2 u3 s).read

def U32.Values : U32 → UInt32 → Prop
  | .bits n, v => ∃ x < 2 ^ n, v = UInt32.ofNat x
  | .bitsOffset n off, v => ∃ x < 2 ^ n, v = UInt32.ofNat x + off
  | .val c, v => v = c

def U32Coder.Values : U32Coder → UInt32 → Prop
  | .direct u, v => u.Values v
  | .select u0 u1 u2 u3, v => u0.Values v ∨ u1.Values v ∨ u2.Values v ∨ u3.Values v

theorem U32.read_all (u : U32) : u.read.All u.Values := by
  cases u with
  | bits n => exact fun x hx => ⟨x, hx, rfl⟩
  | bitsOffset n off => exact fun x hx => ⟨x, hx, rfl⟩
  | val c => exact rfl

theorem U32Coder.read_all (c : U32Coder) : c.read.All c.Values := by
  cases c with
  | direct u => exact u.read_all
  | select u0 u1 u2 u3 =>
    refine Prog.All.bind (readBits_all 2) fun s _ => (U32Coder.pick u0 u1 u2 u3 s).read_all.imp ?_
    intro v hv
    match s with
    | 0 => exact .inl hv
    | 1 => exact .inr (.inl hv)
    | 2 => exact .inr (.inr (.inl hv))
    | _ + 3 => exact .inr (.inr (.inr hv))

/-! ## Fixed-width values -/

def readBool : Prog Bool := return (← readBits 1) != 0

theorem readBool_run (b : Bool) (rest : List Bool) (pos : Nat) :
    readBool.run ⟨b :: rest, pos⟩ = .ok (b, ⟨rest, pos + 1⟩) := by
  cases b <;> simp [readBool, Prog.run_bind, run_readBits, bitsValue]

/-- The continuation of a `u64` after its first 12 bits, with `k` 8-bit chunks left:
while a 1 bit follows, the next chunk is or-ed in at shift `60 - 8 k`; the chunk at
shift 60 has 4 bits. -/
def readU64Chunks : Nat → UInt64 → Prog UInt64
  | 0, result => do
    if (← readBits 1) = 1 then return result ||| (UInt64.ofNat (← readBits 4) <<< 60)
    else return result
  | k + 1, result => do
    if (← readBits 1) = 1 then
      readU64Chunks k (result ||| (UInt64.ofNat (← readBits 8) <<< UInt64.ofNat (60 - 8 * (k + 1))))
    else return result

def readU64 : Prog UInt64 := do
  match ← readBits 2 with
  | 0 => pure 0
  | 1 => return 1 + UInt64.ofNat (← readBits 4)
  | 2 => return 17 + UInt64.ofNat (← readBits 8)
  | _ => readU64Chunks 6 (UInt64.ofNat (← readBits 12))

/-- `(u >> 1) ^ ((!u & 1) - 1)` reinterpreted as an `i32`. -/
def unpackSigned (u : UInt32) : Int :=
  let x := (u >>> 1) ^^^ ((~~~u &&& 1) - 1)
  if x.toNat < 2 ^ 31 then x.toNat else x.toNat - 2 ^ 32

def readI32 (c : U32Coder) : Prog Int := return unpackSigned (← c.read)

structure F32 where
  bits : UInt32
  deriving DecidableEq, Repr

def highBit (m : Nat) : Nat :=
  (List.range 10).foldl (fun acc i => if 2 ^ i ≤ m then i else acc) 0

def halfToF32 (h : Nat) : F32 :=
  let s := h / 2 ^ 15 % 2
  let e := h / 2 ^ 10 % 2 ^ 5
  let m := h % 2 ^ 10
  let bits :=
    if e = 0 then
      if m = 0 then s * 2 ^ 31
      else
        let p := highBit m
        s * 2 ^ 31 + (p + 103) * 2 ^ 23 + (m - 2 ^ p) * 2 ^ (23 - p)
    else s * 2 ^ 31 + (e + 112) * 2 ^ 23 + m * 2 ^ 13
  ⟨UInt32.ofNat bits⟩

def readF32 : Prog F32 := do
  let h ← readBits 16
  if h / 2 ^ 10 % 2 ^ 5 = 31 then .fail .floatNaNOrInf else pure (halfToF32 h)

/-! ## Sequences -/

def readVector {α : Type} (read : Prog α) : Nat → Prog (List α)
  | 0 => pure []
  | n + 1 => do
    let a ← read
    let as ← readVector read n
    pure (a :: as)

def readArray {α : Type} (read : Prog α) : (n : Nat) → Prog (Mathlib.Vector α n)
  | 0 => pure Mathlib.Vector.nil
  | n + 1 => do
    let a ← read
    let as ← readArray read n
    pure (Mathlib.Vector.cons a as)

theorem readVector_all {α : Type} {P : α → Prop} {read : Prog α} (h : read.All P) :
    ∀ n, (readVector read n).All fun l => l.length = n ∧ ∀ a ∈ l, P a
  | 0 => ⟨rfl, by simp⟩
  | n + 1 => h.bind fun a ha => (readVector_all h n).bind fun l ⟨hl, hP⟩ =>
      ⟨by simp [hl], by simpa [ha] using hP⟩

theorem readArray_all {α : Type} {P : α → Prop} {read : Prog α} (h : read.All P) :
    ∀ n, (readArray read n).All fun l => ∀ a ∈ l.toList, P a
  | 0 => by simp [readArray, Prog.All]
  | n + 1 => h.bind fun a ha => (readArray_all h n).bind fun l hP => by
      simpa [Prog.All, ha] using hP

def stringLengthCoder : U32Coder :=
  .select (.val 0) (.bits 4) (.bitsOffset 5 16) (.bitsOffset 10 48)

def readString : Prog String := do
  let len ← stringLengthCoder.read
  let cs ← readVector (return Char.ofNat (← readBits 8)) len.toNat
  pure (String.mk cs)

structure Extensions where
  deriving DecidableEq, Repr

def extensionSizes (selector : UInt64) : List Nat → UInt64 → Prog UInt64
  | [], total => pure total
  | i :: is, total =>
    if selector &&& ((1 : UInt64) <<< UInt64.ofNat i) ≠ 0 then do
      let size ← readU64
      if total.toNat + size.toNat < 2 ^ 64 then extensionSizes selector is (total + size)
      else .fail .sizeOverflow
    else extensionSizes selector is total

def Extensions.read : Prog Extensions := do
  let selector ← readU64
  let total ← extensionSizes selector (List.range 64) 0
  skipBits total.toNat
  pure {}

/-! ## Tags -/

def enumCoder : U32Coder := .select (.val 0) (.val 1) (.bitsOffset 4 2) (.bitsOffset 6 18)

/-- A code outside the tag's set is `invalidTag`, not a default. -/
def readEnum {α : Type} (c : U32Coder) (fromU32 : UInt32 → Option α) (tag : String) : Prog α := do
  let u ← c.read
  match fromU32 u with
  | some t => pure t
  | none => .fail (.invalidTag u.toNat tag)

/-! ## Field rules -/

/-- Read when the condition holds, the default otherwise; under `all_default` the
condition is `!all_default && condition`. -/
def readDefaulted {α : Type} (cond : Bool) (default : α) (read : Prog α) : Prog α :=
  if cond then read else pure default

def readDefaultedElement {α : Type} (cond : Bool) (len : Nat) (default : α) (read : Prog α) :
    Prog (List α) :=
  if cond then readVector read len else pure (List.replicate len default)

@[simp] theorem readDefaulted_false {α : Type} (default : α) (read : Prog α) :
    readDefaulted false default read = .pure default := rfl

@[simp] theorem readDefaultedElement_false {α : Type} (len : Nat) (default : α) (read : Prog α) :
    readDefaultedElement false len default read = .pure (List.replicate len default) := rfl

theorem readDefaulted_all {α : Type} {P : α → Prop} {cond : Bool} {default : α} {read : Prog α}
    (hr : read.All P) (hd : P default) : (readDefaulted cond default read).All P := by
  unfold readDefaulted; split
  · exact hr
  · exact hd

theorem readDefaulted_all_default {α : Type} (cond : Bool) (default : α) (read : Prog α) :
    (readDefaulted cond default read).All fun a => cond = false → a = default := by
  unfold readDefaulted; split
  · next hc => exact Prog.all_of_forall (fun _ hf => absurd (hc.symm.trans hf) (by decide)) read
  · exact fun _ => rfl

theorem readDefaultedElement_all {α : Type} {P : α → Prop} {cond : Bool} {len : Nat}
    {default : α} {read : Prog α} (hr : read.All P) (hd : P default) :
    (readDefaultedElement cond len default read).All fun l => l.length = len ∧ ∀ a ∈ l, P a := by
  unfold readDefaultedElement; split
  · exact readVector_all hr len
  · exact ⟨List.length_replicate len default, fun a ha => (List.eq_of_mem_replicate ha) ▸ hd⟩

end JxlHeaders
