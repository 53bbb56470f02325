import JxlHeaders.RoundTrip

/-!
# Writers of the field values

The bits of each kind of field value and the acceptance half of their round trips; what
each description admits (`I32Ok`, `F32.IsHalf`, `NameOk`) is also what the decoder
returns.
-/

namespace JxlHeaders

/-! ## Tags -/

theorem Encodes.readEnum_write {α : Type} {c : U32Coder} {fromU32 : UInt32 → Option α}
    {tag : String} {u : UInt32} {t : α} (hc : c.Values u) (ht : fromU32 u = some t) :
    Encodes (JxlHeaders.readEnum c fromU32 tag) (c.write u) t :=
  Encodes.readEnum (U32Coder.encodes_write hc) ht

def FrameType.toU32 : FrameType → UInt32
  | .regularFrame => 0
  | .lfFrame => 1
  | .referenceOnly => 2
  | .skipProgressive => 3

def FrameType.write (t : FrameType) : List Bool := enumCoder.write t.toU32

theorem FrameType.encodes_write (t : FrameType) : Encodes FrameType.read t.write t := by
  cases t <;> exact Encodes.readEnum_write (by decide) rfl

def Encoding.toU32 : Encoding → UInt32
  | .varDCT => 0
  | .modular => 1

def Encoding.write (e : Encoding) : List Bool := Encoding.coder.write e.toU32

theorem Encoding.encodes_write (e : Encoding) : Encodes Encoding.read e.write e := by
  cases e <;> exact Encodes.readEnum_write (by decide) rfl

def BlendingMode.toU32 : BlendingMode → UInt32
  | .replace => 0
  | .add => 1
  | .blend => 2
  | .alphaWeightedAdd => 3
  | .mul => 4

def BlendingMode.write (m : BlendingMode) : List Bool := BlendingMode.coder.write m.toU32

theorem BlendingMode.encodes_write (m : BlendingMode) : Encodes BlendingMode.read m.write m := by
  cases m <;> exact Encodes.readEnum_write (by decide) rfl

/-! ## 64-bit values -/

theorem u64_toNat_ofNat_mod (n : Nat) : (UInt64.ofNat n).toNat = n % 2 ^ 64 := rfl

theorem u64_ofNat_toNat (a : UInt64) : UInt64.ofNat a.toNat = a :=
  UInt64.ext (by rw [u64_toNat_ofNat_mod, Nat.mod_eq_of_lt a.toNat_lt])

theorem u64_toNat_shiftLeft (a b : UInt64) :
    (a <<< b).toNat = a.toNat * 2 ^ (b.toNat % 64) % 2 ^ 64 := by
  show (a.toBitVec <<< (b.mod 64).toBitVec).toNat = _
  simp [BitVec.toNat_shiftLeft, Nat.shiftLeft_eq]
  rfl

theorem or_mul_two_pow (y : Nat) : ∀ {s x : Nat}, x < 2 ^ s → x ||| y * 2 ^ s = x + y * 2 ^ s
  | 0, x, hx => by
    obtain rfl : x = 0 := by simpa using hx
    simp
  | s + 1, x, hx => by
    have hx2 : x / 2 < 2 ^ s := by
      rw [Nat.div_lt_iff_lt_mul two_pos, ← Nat.pow_succ]
      exact hx
    have hy : y * 2 ^ (s + 1) = y * 2 ^ s * 2 := by rw [Nat.pow_succ, Nat.mul_assoc]
    have hdiv : (x ||| y * 2 ^ (s + 1)) / 2 = x / 2 + y * 2 ^ s := by
      rw [Nat.or_div_two, hy, Nat.mul_div_cancel _ two_pos, or_mul_two_pow y hx2]
    have hmod := Nat.or_mod_two_eq_one (a := x) (b := y * 2 ^ (s + 1))
    have hc : y * 2 ^ (s + 1) % 2 = 0 := by rw [hy]; exact Nat.mul_mod_left _ _
    omega

theorem add_mul_two_pow_lt {a b s w : Nat} (ha : a < 2 ^ s) (hb : b < 2 ^ w) :
    a + b * 2 ^ s < 2 ^ (s + w) :=
  calc a + b * 2 ^ s < (b + 1) * 2 ^ s := by rw [Nat.succ_mul]; omega
    _ ≤ 2 ^ w * 2 ^ s := Nat.mul_le_mul_right _ hb
    _ = 2 ^ (s + w) := by rw [Nat.pow_add, Nat.mul_comm]

theorem u64_or_shiftLeft {a b t : UInt64} {s : Nat} (ht : t.toNat = s) (hs : s < 64)
    (ha : a.toNat < 2 ^ s) (hlt : a.toNat + b.toNat * 2 ^ s < 2 ^ 64) :
    a ||| b <<< t = UInt64.ofNat (a.toNat + b.toNat * 2 ^ s) := by
  have hb : (b <<< t).toNat = b.toNat * 2 ^ s := by
    rw [u64_toNat_shiftLeft, ht, Nat.mod_eq_of_lt hs, Nat.mod_eq_of_lt (by omega)]
  refine UInt64.ext ?_
  show (a.toBitVec ||| (b <<< t).toBitVec).toNat = _
  rw [BitVec.toNat_or]
  show a.toNat ||| (b <<< t).toNat = _
  rw [hb, or_mul_two_pow _ ha, u64_toNat_ofNat_mod, Nat.mod_eq_of_lt hlt]

/-- While any bit is left, a 1 bit and the next chunk, then a 0 bit; the chunk at
shift 60 has 4 bits and no stop bit. -/
def writeU64Chunks : Nat → Nat → List Bool
  | 0, r => if r = 0 then [false] else true :: natBits 4 r
  | k + 1, r =>
    if r = 0 then [false] else true :: (natBits 8 (r % 2 ^ 8) ++ writeU64Chunks k (r / 2 ^ 8))

def writeU64 (v : UInt64) : List Bool :=
  if v.toNat = 0 then natBits 2 0
  else if v.toNat ≤ 16 then natBits 2 1 ++ natBits 4 (v.toNat - 1)
  else if v.toNat ≤ 272 then natBits 2 2 ++ natBits 8 (v.toNat - 17)
  else natBits 2 3 ++ (natBits 12 (v.toNat % 2 ^ 12) ++ writeU64Chunks 6 (v.toNat / 2 ^ 12))

theorem Encodes.readU64Chunks_zero (k : Nat) (result : UInt64) :
    Encodes (readU64Chunks k result) (writeU64Chunks k 0) result := by
  cases k <;> exact (Encodes.readBits (n := 1) (v := 0) (by decide)).bind (Encodes.pure result)

theorem Encodes.readU64Chunks : ∀ {k : Nat} {a : UInt64} {r s : Nat}, s + 8 * k = 60 →
    a.toNat < 2 ^ s → r < 2 ^ (4 + 8 * k) →
    Encodes (JxlHeaders.readU64Chunks k a) (writeU64Chunks k r) (UInt64.ofNat (a.toNat + r * 2 ^ s))
  | k, result, 0, s, _, _, _ => by
    simpa [u64_ofNat_toNat] using Encodes.readU64Chunks_zero k result
  | 0, result, r + 1, s, hs, hres, hr => by
    obtain rfl : s = 60 := by omega
    have hr4 : r + 1 < 2 ^ 4 := by simpa using hr
    have hlo : (UInt64.ofNat (r + 1)).toNat = r + 1 := by rw [u64_toNat_ofNat_mod]; omega
    have hv := u64_or_shiftLeft (b := UInt64.ofNat (r + 1)) (t := 60) rfl (by decide) hres
      (by rw [hlo]; exact add_mul_two_pow_lt hres hr4)
    rw [hlo] at hv
    have hc := (Encodes.readBits hr4).bind_pure (fun x => result ||| UInt64.ofNat x <<< 60)
    rw [hv] at hc
    exact (Encodes.readBits (n := 1) (v := 1) (by decide)).bind hc
  | k + 1, result, r + 1, s, hs, hres, hr => by
    have hc : (r + 1) % 2 ^ 8 < 2 ^ 8 := Nat.mod_lt _ (by decide)
    have hlo : (UInt64.ofNat ((r + 1) % 2 ^ 8)).toNat = (r + 1) % 2 ^ 8 := by
      rw [u64_toNat_ofNat_mod]; omega
    have hlt : result.toNat + (r + 1) % 2 ^ 8 * 2 ^ s < 2 ^ (s + 8) := add_mul_two_pow_lt hres hc
    have hs64 : 2 ^ (s + 8) ≤ 2 ^ 64 := Nat.pow_le_pow_right (by decide) (by omega)
    have hnext := u64_or_shiftLeft (a := result) (b := UInt64.ofNat ((r + 1) % 2 ^ 8))
      (t := UInt64.ofNat (60 - 8 * (k + 1))) (by rw [u64_toNat_ofNat_mod]; omega) (by omega) hres
      (by rw [hlo]; omega)
    rw [hlo] at hnext
    have ih := Encodes.readU64Chunks (k := k)
      (a := UInt64.ofNat (result.toNat + (r + 1) % 2 ^ 8 * 2 ^ s)) (r := (r + 1) / 2 ^ 8)
      (s := s + 8) (by omega)
      (by rw [u64_toNat_ofNat_mod, Nat.mod_eq_of_lt (by omega)]; exact hlt)
      (by rw [Nat.div_lt_iff_lt_mul (Nat.two_pow_pos 8), ← Nat.pow_add,
        show 4 + 8 * k + 8 = 4 + 8 * (k + 1) by omega]; exact hr)
    have hval : result.toNat + (r + 1) % 2 ^ 8 * 2 ^ s + (r + 1) / 2 ^ 8 * 2 ^ (s + 8) =
        result.toNat + (r + 1) * 2 ^ s := by
      have hr' := Nat.mod_add_div (r + 1) (2 ^ 8)
      rw [Nat.pow_add]
      conv_rhs => rw [← hr']
      ring
    have hnat : (UInt64.ofNat (result.toNat + (r + 1) % 2 ^ 8 * 2 ^ s)).toNat =
        result.toNat + (r + 1) % 2 ^ 8 * 2 ^ s := by
      rw [u64_toNat_ofNat_mod]; omega
    rw [hnat, hval, ← hnext] at ih
    exact (Encodes.readBits (n := 1) (v := 1) (by decide)).bind ((Encodes.readBits hc).bind ih)

theorem encodes_offset {n o : Nat} {off v : UInt64} (ho : off.toNat = o)
    (h : o ≤ v.toNat ∧ v.toNat - o < 2 ^ n) :
    Encodes ((JxlHeaders.readBits n).bind fun x => .pure (off + UInt64.ofNat x))
      (natBits n (v.toNat - o)) v := by
  have hc := (Encodes.readBits h.2).bind_pure (off + UInt64.ofNat ·)
  rwa [show off + UInt64.ofNat (v.toNat - o) = v from UInt64.ext (by
    rw [UInt64.toNat_add, u64_toNat_ofNat_mod, ho]
    have := v.toNat_lt
    show (o + (v.toNat - o) % 2 ^ 64) % 2 ^ 64 = v.toNat
    omega)] at hc

theorem Encodes.readU64 (v : UInt64) : Encodes JxlHeaders.readU64 (writeU64 v) v := by
  have hv := v.toNat_lt
  unfold writeU64
  split
  · next h0 =>
    rw [show v = 0 from UInt64.ext h0, ← List.append_nil (natBits 2 0)]
    exact (Encodes.readBits (n := 2) (v := 0) (by decide)).bind (Encodes.pure 0)
  split
  · exact (Encodes.readBits (n := 2) (v := 1) (by decide)).bind (encodes_offset rfl (by omega))
  split
  · exact (Encodes.readBits (n := 2) (v := 2) (by decide)).bind (encodes_offset rfl (by omega))
  · have hlo : (UInt64.ofNat (v.toNat % 2 ^ 12)).toNat = v.toNat % 2 ^ 12 := by
      rw [u64_toNat_ofNat_mod]; omega
    have hc := Encodes.readU64Chunks (k := 6) (a := UInt64.ofNat (v.toNat % 2 ^ 12))
      (r := v.toNat / 2 ^ 12) (s := 12) rfl (by rw [hlo]; omega) (by omega)
    rw [hlo, Nat.mod_add_div', u64_ofNat_toNat] at hc
    exact (Encodes.readBits (n := 2) (v := 3) (by decide)).bind
      ((Encodes.readBits (n := 12) (v := v.toNat % 2 ^ 12) (by omega)).bind hc)

theorem readU64_writeU64 (v : UInt64) (rest : List Bool) (pos : Nat) :
    readU64.run ⟨writeU64 v ++ rest, pos⟩ = .ok (v, ⟨rest, pos + (writeU64 v).length⟩) :=
  Encodes.readU64 v rest pos

/-! ## Signed values -/

theorem packSigned_unpackSigned (u : UInt32) : packSigned (unpackSigned u) = u := by
  have hu := u.toNat_lt
  conv_rhs => rw [← u32_ofNat_toNat u]
  simp only [unpackSigned, unpackSigned_bits, packSigned]
  congr 1
  split_ifs <;> omega

def I32Ok (c : U32Coder) (x : Int) : Prop := ∃ u, c.Values u ∧ unpackSigned u = x

def writeI32 (c : U32Coder) (x : Int) : List Bool := c.write (packSigned x)

theorem Encodes.readI32 {c : U32Coder} {x : Int} (h : I32Ok c x) :
    Encodes (JxlHeaders.readI32 c) (writeI32 c x) x := by
  obtain ⟨u, hu, rfl⟩ := h
  rw [writeI32, packSigned_unpackSigned]
  exact (U32Coder.encodes_write hu).bind_pure unpackSigned

theorem readI32_all (c : U32Coder) : (readI32 c).All (I32Ok c) :=
  (U32Coder.read_all c).bind fun u hu => ⟨u, hu, rfl⟩

/-! ## Floats -/

def F32.halfOf (f : F32) (h : Nat) : Bool := h / 2 ^ 10 % 2 ^ 5 != 31 && halfToF32 h == f

def F32.IsHalf (f : F32) : Prop := ∃ h < 2 ^ 16, f.halfOf h = true

def F32.toHalf (f : F32) : Nat := ((List.range (2 ^ 16)).find? f.halfOf).getD 0

def writeF32 (f : F32) : List Bool := natBits 16 f.toHalf

theorem F32.toHalf_spec {f : F32} (hf : f.IsHalf) :
    f.toHalf < 2 ^ 16 ∧ f.halfOf f.toHalf = true := by
  obtain ⟨h, hlt, hh⟩ := hf
  obtain ⟨h', hfind⟩ := Option.isSome_iff_exists.mp
    (List.find?_isSome.mpr ⟨h, List.mem_range.mpr hlt, hh⟩)
  rw [F32.toHalf, hfind, Option.getD_some]
  exact ⟨List.mem_range.mp (List.mem_of_find?_eq_some hfind), List.find?_some hfind⟩

theorem Encodes.readF32 {f : F32} (hf : f.IsHalf) :
    Encodes JxlHeaders.readF32 (writeF32 f) f := by
  obtain ⟨hlt, hh⟩ := F32.toHalf_spec hf
  simp only [F32.halfOf, Bool.and_eq_true, bne_iff_ne, ne_eq, beq_iff_eq] at hh
  rw [writeF32, ← List.append_nil (natBits 16 _)]
  refine (Encodes.readBits hlt).bind ?_
  rw [if_neg hh.1, hh.2]
  exact Encodes.pure f

theorem readF32_all : readF32.All F32.IsHalf := by
  refine Prog.All.bind (readBits_all 16) fun h hlt => ?_
  split
  · trivial
  · next hn => exact ⟨h, hlt, by simpa [F32.halfOf] using hn⟩

/-! ## Names -/

theorem toNat_charOfNat_lt {x : Nat} (hx : x < 2 ^ 8) : (Char.ofNat x).toNat = x := by
  unfold Char.ofNat
  rw [dif_pos (by unfold Nat.isValidChar; omega)]
  rfl

def NameOk (s : String) : Prop :=
  s.length < 2 ^ 32 ∧ stringLengthCoder.Values (UInt32.ofNat s.length) ∧
    ∀ c ∈ s.data, c.toNat < 2 ^ 8

def writeString (s : String) : List Bool :=
  stringLengthCoder.write (UInt32.ofNat s.length) ++ s.data.flatMap fun c => natBits 8 c.toNat

theorem Encodes.readString {s : String} (h : NameOk s) :
    Encodes JxlHeaders.readString (writeString s) s := by
  obtain ⟨hlen, hc, hch⟩ := h
  have hv := @Encodes.readVector _ (do return Char.ofNat (← JxlHeaders.readBits 8))
    (fun c => natBits 8 c.toNat) s.data fun c hc' => by
      have := (Encodes.readBits (hch c hc')).bind_pure Char.ofNat
      rwa [Char.ofNat_toNat] at this
  have hn : (UInt32.ofNat s.length).toNat = s.data.length := u32_toNat_ofNat hlen
  refine (U32Coder.encodes_write hc).bind ?_
  simp only [hn]
  exact hv.bind_pure String.mk

theorem readString_all : readString.All NameOk := by
  have hchar : (do return Char.ofNat (← readBits 8) : Prog Char).All (·.toNat < 2 ^ 8) :=
    (readBits_all 8).bind fun _ hx => (toNat_charOfNat_lt hx).trans_lt hx
  refine (U32Coder.read_all _).bind fun len hlen => ?_
  refine (readVector_all hchar len.toNat).bind fun cs hcs => ?_
  have hl : (String.mk cs).length = len.toNat := hcs.1
  refine ⟨by rw [hl]; exact len.toNat_lt, by rwa [hl, u32_ofNat_toNat], hcs.2⟩

/-! ## Extensions -/

theorem u64_zero_and (x : UInt64) : 0 &&& x = 0 :=
  UInt64.ext (by show (0#64 &&& x.toBitVec).toNat = 0; simp)

theorem extensionSizes_zero (l : List Nat) (total : UInt64) :
    extensionSizes 0 l total = .pure total := by
  induction l generalizing total with
  | nil => rfl
  | cons i is ih => simpa [extensionSizes, u64_zero_and] using ih total

def Extensions.write (_ : Extensions) : List Bool := writeU64 0

theorem Extensions.encodes_write (e : Extensions) : Encodes Extensions.read e.write e := by
  have hskip : Encodes (skipBits 0) [] () := fun rest pos => by
    simp [skipBits, Prog.run_read, BitReader.read]
  rw [Extensions.write, ← List.append_nil (writeU64 0)]
  refine (Encodes.readU64 0).bind ?_
  show Encodes ((extensionSizes 0 (List.range 64) 0).bind fun total =>
    (skipBits total.toNat).bind fun _ => .pure {}) [] e
  rw [extensionSizes_zero]
  exact hskip.bind (Encodes.pure e)

end JxlHeaders
