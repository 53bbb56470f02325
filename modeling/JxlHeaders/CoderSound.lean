import JxlHeaders.Records

/-!
# What the coders decode

`n` raw bits give their value, and a selector-coded integer reads its 2-bit selector
and exactly the raw bits of the alternative it names (`U32Coder.read_select`).
-/

namespace JxlHeaders

/-! ## Raw bits -/

def natBits : Nat → Nat → List Bool
  | 0, _ => []
  | n + 1, v => (v % 2 == 1) :: natBits n (v / 2)

@[simp] theorem natBits_length (n v : Nat) : (natBits n v).length = n := by
  induction n generalizing v with
  | zero => rfl
  | succ n ih => simp [natBits, ih]

theorem bitsValue_natBits (n v : Nat) : bitsValue (natBits n v) = v % 2 ^ n := by
  induction n generalizing v with
  | zero => simp [natBits, bitsValue, Nat.mod_one]
  | succ n ih =>
    have h2 : (v % 2 == 1).toNat = v % 2 := by
      rcases Nat.mod_two_eq_zero_or_one v with h | h <;> simp [h]
    rw [natBits, bitsValue, ih, h2, Nat.pow_succ', Nat.mod_mul]

theorem readBits_natBits (n v : Nat) (rest : List Bool) (pos : Nat) :
    (readBits n).run ⟨natBits n v ++ rest, pos⟩ = .ok (v % 2 ^ n, ⟨rest, pos + n⟩) := by
  simp [run_readBits, List.take_left', List.drop_left', bitsValue_natBits]

/-! ## Selector-coded integers -/

def U32.width : U32 → Nat
  | .bits n => n
  | .bitsOffset n _ => n
  | .val _ => 0

def U32.value : U32 → Nat → UInt32
  | .bits _, raw => UInt32.ofNat raw
  | .bitsOffset _ off, raw => UInt32.ofNat raw + off
  | .val c, _ => c

theorem U32.read_natBits (u : U32) {raw : Nat} (hraw : raw < 2 ^ u.width) (rest : List Bool)
    (pos : Nat) :
    u.read.run ⟨natBits u.width raw ++ rest, pos⟩ = .ok (u.value raw, ⟨rest, pos + u.width⟩) := by
  cases u with
  | bits n =>
    simp only [U32.width] at hraw
    simp only [U32.read, U32.width, Prog.bind_eq, Prog.run_bind, readBits_natBits,
      Nat.mod_eq_of_lt hraw]
    rfl
  | bitsOffset n off =>
    simp only [U32.width] at hraw
    simp only [U32.read, U32.width, Prog.bind_eq, Prog.run_bind, readBits_natBits,
      Nat.mod_eq_of_lt hraw]
    rfl
  | val c => rfl

theorem U32Coder.read_select (u0 u1 u2 u3 : U32) (s : Nat) (hs : s < 4) (raw : Nat)
    (hraw : raw < 2 ^ (U32Coder.pick u0 u1 u2 u3 s).width) (rest : List Bool) (pos : Nat) :
    (U32Coder.select u0 u1 u2 u3).read.run
        ⟨natBits 2 s ++ natBits (U32Coder.pick u0 u1 u2 u3 s).width raw ++ rest, pos⟩ =
      .ok ((U32Coder.pick u0 u1 u2 u3 s).value raw,
        ⟨rest, pos + 2 + (U32Coder.pick u0 u1 u2 u3 s).width⟩) := by
  rw [U32Coder.read, Prog.bind_eq, Prog.run_bind, List.append_assoc, readBits_natBits,
    Nat.mod_eq_of_lt (show s < 2 ^ 2 from hs)]
  exact (U32Coder.pick u0 u1 u2 u3 s).read_natBits hraw rest (pos + 2)

/-- The spec's example: `u2S(1, 2, 3, Bits(3) + 4)`, selector 3 and raw bits `101` give 9. -/
theorem U32Coder.read_select_example :
    (3 < 4 ∧ 5 < 2 ^ (U32Coder.pick (.val 1) (.val 2) (.val 3) (.bitsOffset 3 4) 3).width) ∧
    (U32Coder.select (.val 1) (.val 2) (.val 3) (.bitsOffset 3 4)).read.run
        ⟨natBits 2 3 ++ natBits 3 5 ++ [], 0⟩ = .ok (9, ⟨[], 0 + 2 + 3⟩) :=
  ⟨⟨by decide, by decide⟩, U32Coder.read_select _ _ _ _ 3 (by decide) 5 (by decide) [] 0⟩

/-! ## Signed values -/

theorem not_and_one_toNat (u : UInt32) : (~~~u &&& 1).toNat = 1 - u.toNat % 2 := by
  show (~~~u.toBitVec &&& (1 : BitVec 32)).toNat = _
  rw [BitVec.toNat_and, BitVec.toNat_not]
  have := u.toBitVec.isLt
  show (2 ^ 32 - 1 - u.toBitVec.toNat) &&& 1 = 1 - u.toBitVec.toNat % 2
  rw [Nat.and_one_is_mod]
  omega

theorem unpackSigned_bits (u : UInt32) : ((u >>> 1) ^^^ ((~~~u &&& 1) - 1)).toNat =
    if u.toNat % 2 = 0 then u.toNat / 2 else 2 ^ 32 - 1 - u.toNat / 2 := by
  have hs : (u >>> 1).toNat = u.toNat / 2 := by rw [u32_toNat_shiftRight]; rfl
  split
  · next h =>
    have h1 : ~~~u &&& 1 = 1 := UInt32.ext (by rw [not_and_one_toNat, h]; rfl)
    rw [h1]
    show ((u >>> 1).toBitVec ^^^ 0#32).toNat = _
    rw [BitVec.xor_zero]
    exact hs
  · next h =>
    have h1 : ~~~u &&& 1 = 0 := UInt32.ext (by rw [not_and_one_toNat]; show _ = 0; omega)
    rw [h1]
    show ((u >>> 1).toBitVec ^^^ BitVec.allOnes 32).toNat = _
    rw [BitVec.xor_allOnes, BitVec.toNat_not]
    exact congrArg (2 ^ 32 - 1 - ·) hs

def packSigned (x : Int) : UInt32 :=
  UInt32.ofNat (if 0 ≤ x then 2 * x.toNat else 2 * (-x).toNat - 1)

/-! ## Table of contents -/

theorem tocEntryCoder_values {v : UInt32} (h : tocEntryCoder.Values v) :
    v.toNat < 2 ^ 30 + 4211712 := by
  simp only [tocEntryCoder, U32Coder.Values, U32.Values] at h
  rcases h with ⟨x, hx, rfl⟩ | ⟨x, hx, rfl⟩ | ⟨x, hx, rfl⟩ | ⟨x, hx, rfl⟩
  · rw [u32_toNat_ofNat (by omega)]
    omega
  all_goals
    rw [u32_toNat_ofNat_add (by simp [UInt32.toNat_ofNat, UInt32.size]; omega)]
    simp [UInt32.toNat_ofNat, UInt32.size]
    omega

end JxlHeaders
