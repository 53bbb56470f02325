import Mathlib.Data.String.Basic
import Mathlib.Data.UInt
import Mathlib.Data.Vector.Basic
import Mathlib.Tactic.Ring
import Mathlib.Tactic.SplitIfs

/-!
# The bit cursor and decoding programs

A decoder is a `Prog`, a program over two requests, "read `n` raw bits" and "how many
bits have been read", run by `Prog.run` against a `BitReader`.
-/

namespace JxlHeaders

/-- `truncation` is the cursor running out of bits; the other kinds are format errors. -/
inductive Error where
  | truncation
  | invalidTag (value : Nat) (tag : String)
  | floatNaNOrInf
  | sizeOverflow
  | invalidEcUpsampling (upsampling dimShift ecUpsampling : UInt32)
  | numPassesTooLarge (numDs numPasses : UInt32)
  deriving DecidableEq, Repr

def bitsValue : List Bool → Nat
  | [] => 0
  | b :: bs => b.toNat + 2 * bitsValue bs

theorem bitsValue_lt : ∀ bs : List Bool, bitsValue bs < 2 ^ bs.length
  | [] => Nat.one_pos
  | b :: bs => by
    have := bitsValue_lt bs
    have : b.toNat ≤ 1 := Bool.toNat_le b
    simp only [bitsValue, List.length_cons, Nat.pow_succ]
    omega

/-- Modelled from the spec: the bit cursor is not under src/. -/
structure BitReader where
  rest : List Bool
  pos : Nat
  deriving DecidableEq, Repr

def BitReader.read (br : BitReader) (n : Nat) : Option (Nat × BitReader) :=
  if n ≤ br.rest.length then
    some (bitsValue (br.rest.take n), ⟨br.rest.drop n, br.pos + n⟩)
  else none

def BitReader.start (bs : List Bool) : BitReader := ⟨bs, 0⟩

/-! ## Decoding programs -/

/-- A decoder: a program that reads bits, asks for the position, fails, or returns. -/
inductive Prog (α : Type) where
  | pure : α → Prog α
  | fail : Error → Prog α
  | read : Nat → (Nat → Prog α) → Prog α
  | tell : (Nat → Prog α) → Prog α

namespace Prog

variable {α β γ : Type}

def bind : Prog α → (α → Prog β) → Prog β
  | .pure a, f => f a
  | .fail e, _ => .fail e
  | .read n k, f => .read n fun v => (k v).bind f
  | .tell k, f => .tell fun p => (k p).bind f

instance : Monad Prog where
  pure := .pure
  bind := Prog.bind

@[simp] theorem pure_eq (a : α) : (Pure.pure a : Prog α) = .pure a := rfl

@[simp] theorem bind_eq (p : Prog α) (f : α → Prog β) : p >>= f = p.bind f := rfl

@[simp] theorem pure_bind (a : α) (f : α → Prog β) : (Prog.pure a).bind f = f a := rfl

@[simp] theorem fail_bind (e : Error) (f : α → Prog β) : (Prog.fail e).bind f = .fail e := rfl

theorem bind_assoc (p : Prog α) (f : α → Prog β) (g : β → Prog γ) :
    (p.bind f).bind g = p.bind fun a => (f a).bind g := by
  induction p with
  | pure a => rfl
  | fail e => rfl
  | read n k ih => simp only [bind, ih]
  | tell k ih => simp only [bind, ih]

def run : Prog α → BitReader → Except Error (α × BitReader)
  | .pure a, br => .ok (a, br)
  | .fail e, _ => .error e
  | .read n k, br =>
    match br.read n with
    | some (v, br') => (k v).run br'
    | none => .error .truncation
  | .tell k, br => (k br.pos).run br

@[simp] theorem run_pure (a : α) (br : BitReader) : (Prog.pure a).run br = .ok (a, br) := rfl

@[simp] theorem run_fail (e : Error) (br : BitReader) : (Prog.fail e : Prog α).run br = .error e :=
  rfl

@[simp] theorem run_tell (k : Nat → Prog α) (br : BitReader) :
    (Prog.tell k).run br = (k br.pos).run br := rfl

theorem run_read (n : Nat) (k : Nat → Prog α) (br : BitReader) :
    (Prog.read n k).run br =
      match br.read n with
      | some (v, br') => (k v).run br'
      | none => .error .truncation := by
  rw [run]

theorem run_bind (p : Prog α) (f : α → Prog β) (br : BitReader) :
    (p.bind f).run br =
      match p.run br with
      | .ok (a, br') => (f a).run br'
      | .error e => .error e := by
  induction p generalizing br with
  | pure a => rfl
  | fail e => rfl
  | read n k ih =>
    simp only [bind, run_read]
    cases br.read n with
    | none => rfl
    | some r => exact ih r.1 r.2
  | tell k ih => exact ih br.pos br

theorem run_bind_ok {p : Prog α} {f : α → Prog β} {br br' : BitReader} {a : α}
    (h : p.run br = .ok (a, br')) : (p.bind f).run br = (f a).run br' := by
  rw [run_bind, h]

theorem run_bind_error {p : Prog α} {f : α → Prog β} {br : BitReader} {e : Error}
    (h : p.run br = .error e) : (p.bind f).run br = .error e := by
  rw [run_bind, h]

end Prog

/-! ## Primitive requests -/

def readBits (n : Nat) : Prog Nat := .read n .pure

def totalBitsRead : Prog Nat := .tell .pure

def skipBits (n : Nat) : Prog Unit := .read n fun _ => .pure ()

/-- Modelled from the spec: byte alignment is not under src/. The pad's bits are
skipped whatever their values: they are not checked to be zero. -/
def jumpToByteBoundary : Prog Unit :=
  .tell fun p => skipBits ((8 - p % 8) % 8)

def liftExcept {α : Type} : Except Error α → Prog α
  | .ok a => .pure a
  | .error e => .fail e

theorem jumpToByteBoundary_run (pad rest : List Bool) (pos : Nat)
    (hpad : pad.length = (8 - pos % 8) % 8) :
    jumpToByteBoundary.run ⟨pad ++ rest, pos⟩ = .ok ((), ⟨rest, pos + pad.length⟩) := by
  simp [jumpToByteBoundary, skipBits, Prog.run_read, BitReader.read, ← hpad]

theorem run_readBits (n : Nat) (br : BitReader) :
    (readBits n).run br =
      if n ≤ br.rest.length then .ok (bitsValue (br.rest.take n), ⟨br.rest.drop n, br.pos + n⟩)
      else .error .truncation := by
  by_cases h : n ≤ br.rest.length <;> simp [readBits, Prog.run_read, BitReader.read, h]

end JxlHeaders
