import JxlHeaders.FieldsSound

/-!
# The TOC entry count

On an in-range header `numTocEntries` takes its ceiling divisions exactly and only its
products and sum modulo `2^32` (`numTocEntries_eq`). The chroma shift cancels out of the
DC-group count, and an uncropped frame always gets two entries.
-/

namespace JxlHeaders

/-! ## Ceiling division -/

def ceilDiv (a b : Nat) : Nat := (a + b - 1) / b

theorem ceilDiv_eq_div_add {a b : Nat} (hb : 0 < b) :
    ceilDiv a b = a / b + if 0 < a % b then 1 else 0 := by
  unfold ceilDiv
  rw [show a + b - 1 = a + (b - 1) by omega, Nat.add_div hb,
    Nat.div_eq_of_lt (show b - 1 < b by omega), Nat.mod_eq_of_lt (show b - 1 < b by omega)]
  by_cases h : 0 < a % b
  · simp [h, show b ≤ a % b + (b - 1) by omega]
  · simp [h, show ¬ b ≤ a % b + (b - 1) by omega]

theorem ceilDiv_zero (b : Nat) : ceilDiv 0 b = 0 := by
  unfold ceilDiv
  rcases Nat.eq_zero_or_pos b with rfl | hb
  · rfl
  · exact Nat.div_eq_of_lt (by omega)

theorem ceilDiv_le (a : Nat) {b : Nat} (hb : 0 < b) : ceilDiv a b ≤ a := by
  rw [ceilDiv_eq_div_add hb]
  rcases Nat.eq_zero_or_pos a with rfl | ha
  · simp
  · have : a / b < a ∨ (b = 1) := by
      rcases Nat.lt_or_ge 1 b with h | h
      · exact .inl (Nat.div_lt_self ha h)
      · exact .inr (by omega)
    rcases this with h | rfl
    · split <;> omega
    · simp [Nat.mod_one]

theorem ceilDiv_ceilDiv (x : Nat) {m n : Nat} (hm : 0 < m) (hn : 0 < n) :
    ceilDiv (ceilDiv x m) n = ceilDiv x (m * n) := by
  unfold ceilDiv
  have hmn : m ≤ m * n := Nat.le_mul_of_pos_right m hn
  have : (x + m - 1) / m + n - 1 = (x + m * n - 1) / m := by
    rw [show x + m * n - 1 = x + m - 1 + m * (n - 1) by rw [Nat.mul_sub_one]; omega,
      Nat.add_mul_div_left _ _ hm, Nat.add_sub_assoc hn]
  rw [this, Nat.div_div_eq_div_mul]

theorem ceilDiv_mul_right (a : Nat) {g p : Nat} (hg : 0 < g) (hp : 0 < p) :
    ceilDiv (a * p) (g * p) = ceilDiv a g := by
  unfold ceilDiv
  have hgp : p ≤ g * p := Nat.le_mul_of_pos_left p hg
  have e : p * (a + g - 1) = a * p + g * p - p := by
    rw [Nat.mul_sub_one, Nat.mul_add, Nat.mul_comm p a, Nat.mul_comm p g]
  rw [show a * p + g * p - 1 = p - 1 + p * (a + g - 1) by omega,
    Nat.mul_comm g p, ← Nat.div_div_eq_div_mul, Nat.add_mul_div_left _ _ hp,
    Nat.div_eq_of_lt (show p - 1 < p by omega), Nat.zero_add]

theorem dcGroups_eq (W : Nat) {s : Nat} (hs : s ≤ 1) (g : Nat) :
    ceilDiv (ceilDiv W (8 * 2 ^ s) * 2 ^ s) (128 * 2 ^ g) = ceilDiv W (8 * (128 * 2 ^ g)) := by
  have h2g : 0 < 2 ^ g := Nat.two_pow_pos g
  rcases Nat.le_one_iff_eq_zero_or_eq_one.mp hs with rfl | rfl
  · simp only [pow_zero, Nat.mul_one]
    exact ceilDiv_ceilDiv W (by omega) (by omega)
  · rw [show 128 * 2 ^ g = 64 * 2 ^ g * 2 ^ 1 by omega, ceilDiv_mul_right _ (by omega) (by omega),
      ceilDiv_ceilDiv W (by omega) (by omega)]
    congr 1
    omega

namespace FrameHeader

theorem divCeil_eq {a b : UInt32} (hb : b.toNat ≠ 0) :
    divCeil a b = some (UInt32.ofNat (ceilDiv a.toNat b.toNat)) := by
  have hb0 : 0 < b.toNat := Nat.pos_of_ne_zero hb
  have hlt : ceilDiv a.toNat b.toNat < 2 ^ 32 := Nat.lt_of_le_of_lt (ceilDiv_le _ hb0) a.toNat_lt
  simp only [divCeil, show b ≠ 0 from fun h => hb (by rw [h]; rfl), if_false, Option.some.injEq]
  apply UInt32.ext
  rw [u32_toNat_ofNat hlt]
  rw [ceilDiv_eq_div_add hb0] at hlt ⊢
  have hmod : (a % b).toNat = a.toNat % b.toNat := UInt32.toNat_mod a b
  split
  · next hr =>
    have hr' : 0 < a.toNat % b.toNat := by rw [← hmod]; exact hr
    rw [if_pos hr'] at hlt ⊢
    rw [UInt32.toNat_add, UInt32.toNat_div]
    exact Nat.mod_eq_of_lt hlt
  · next hr =>
    have hr' : ¬ 0 < a.toNat % b.toNat := by rw [← hmod]; exact hr
    rw [if_neg hr', UInt32.toNat_div]
    rfl

theorem shift_getElem? (table : List UInt32) (hlen : table.length = 4)
    (ht : ∀ x ∈ table, x.toNat ≤ 1) {c : UInt32} (hc : c ≤ 3) :
    ∃ s, table[c.toNat]? = some s ∧ s.toNat ≤ 1 := by
  have hc' : c.toNat < table.length := by
    rw [hlen]
    exact Nat.lt_succ_of_le hc
  exact ⟨_, List.getElem?_eq_getElem hc', ht _ (List.getElem_mem hc')⟩

theorem maxShifts_le : ∀ (l : List UInt32) (acc : UInt32 × UInt32),
    acc.1.toNat ≤ 1 → acc.2.toNat ≤ 1 → (∀ c ∈ l, c ≤ 3) →
    ∃ a b, l.foldlM (fun (maxhs, maxvs) ch => do
        let hs ← hShift[ch.toNat]?
        let vs ← vShift[ch.toNat]?
        pure (max maxhs hs, max maxvs vs)) acc = some (a, b) ∧ a.toNat ≤ 1 ∧ b.toNat ≤ 1
  | [], acc, h1, h2, _ => ⟨acc.1, acc.2, rfl, h1, h2⟩
  | c :: l, (x, y), h1, h2, hl => by
    obtain ⟨hs, hhs, hs1⟩ := shift_getElem? hShift rfl (by decide) (hl c (.head _))
    obtain ⟨vs, hvs, vs1⟩ := shift_getElem? vShift rfl (by decide) (hl c (.head _))
    have hmax : ∀ p q : UInt32, p.toNat ≤ 1 → q.toNat ≤ 1 → (max p q).toNat ≤ 1 := by
      intro p q hp hq
      show (if p ≤ q then q else p).toNat ≤ 1
      split <;> assumption
    simp only [List.foldlM_cons, hhs, hvs, Option.pure_def, Option.bind_eq_bind, Option.some_bind]
    exact maxShifts_le l _ (hmax x hs h1 hs1) (hmax y vs h2 vs1) fun c hc => hl c (.tail _ hc)

theorem maxShifts_some {l : List UInt32} (hl : ∀ c ∈ l, c ≤ 3) :
    ∃ a b, maxShifts l = some (a, b) ∧ a.toNat ≤ 1 ∧ b.toNat ≤ 1 :=
  maxShifts_le l (0, 0) (by decide) (by decide) hl

theorem groupDim_toNat {g : UInt32} (hg : g ≤ 3) :
    ((256 : UInt32) >>> 1 <<< g).toNat = 128 * 2 ^ g.toNat := by
  have hg' : g.toNat ≤ 3 := hg
  have : 2 ^ g.toNat ≤ 2 ^ 3 := Nat.pow_le_pow_right (by decide) hg'
  rw [u32_toNat_shiftLeft, u32_toNat_shiftRight, Nat.mod_eq_of_lt (show g.toNat < 32 by omega)]
  show 256 / 2 * 2 ^ g.toNat % 2 ^ 32 = _
  omega

theorem blockDim_toNat {s : UInt32} (hs : s.toNat ≤ 1) :
    ((8 : UInt32) <<< s).toNat = 8 * 2 ^ s.toNat := by
  rcases Nat.le_one_iff_eq_zero_or_eq_one.mp hs with h | h <;>
    simp [u32_toNat_shiftLeft, h]

theorem blocks_divCeil (W : UInt32) {s : UInt32} (hs : s.toNat ≤ 1) :
    divCeil W (8 <<< s) = some (UInt32.ofNat (ceilDiv W.toNat (8 * 2 ^ s.toNat))) := by
  rw [divCeil_eq (by rw [blockDim_toNat hs]; simp), blockDim_toNat hs]

theorem groups_divCeil (W : UInt32) {g : UInt32} (hg : g ≤ 3) :
    divCeil W ((256 : UInt32) >>> 1 <<< g) =
      some (UInt32.ofNat (ceilDiv W.toNat (128 * 2 ^ g.toNat))) := by
  rw [divCeil_eq (by rw [groupDim_toNat hg]; simp), groupDim_toNat hg]

theorem dcGroups_divCeil (W : UInt32) {s g : UInt32} (hs : s.toNat ≤ 1) (hg : g ≤ 3) :
    divCeil (UInt32.ofNat (ceilDiv W.toNat (8 * 2 ^ s.toNat)) <<< s) ((256 : UInt32) >>> 1 <<< g) =
      some (UInt32.ofNat (ceilDiv W.toNat (8 * (128 * 2 ^ g.toNat)))) := by
  have hc : ceilDiv W.toNat (8 * 2 ^ s.toNat) * 2 ^ s.toNat < 2 ^ 32 := by
    have := W.toNat_lt
    rcases Nat.le_one_iff_eq_zero_or_eq_one.mp hs with h | h <;> simp only [h, ceilDiv] <;> omega
  rw [divCeil_eq (by rw [groupDim_toNat hg]; simp), groupDim_toNat hg, u32_toNat_shiftLeft,
    u32_toNat_ofNat (Nat.lt_of_le_of_lt (Nat.le_mul_of_pos_right _ (Nat.two_pow_pos _)) hc),
    Nat.mod_eq_of_lt (show s.toNat < 32 by omega), Nat.mod_eq_of_lt hc, dcGroups_eq _ hs]

theorem numTocEntries_eq (h : FrameHeader) (hj : ∀ c ∈ h.jpegUpsampling.toList, c ≤ 3)
    (hg : h.groupSizeShift ≤ 3) :
    h.numTocEntries =
      let G := 128 * 2 ^ h.groupSizeShift.toNat
      let numGroups :=
        UInt32.ofNat (ceilDiv h.width.toNat G) * UInt32.ofNat (ceilDiv h.height.toNat G)
      let numDcGroups :=
        UInt32.ofNat (ceilDiv h.width.toNat (8 * G)) * UInt32.ofNat (ceilDiv h.height.toNat (8 * G))
      some (if numGroups == 1 && h.passes.numPasses == 1 then 1 else 2 + numDcGroups) := by
  obtain ⟨a, b, hm, ha, hb⟩ := maxShifts_some hj
  unfold numTocEntries
  simp only [hm, Option.bind_eq_bind, Option.some_bind, blocks_divCeil _ ha, blocks_divCeil _ hb,
    dcGroups_divCeil _ ha hg, dcGroups_divCeil _ hb hg]
  simp only [groups_divCeil _ hg, Option.some_bind]
  split <;> rfl

/-- Along each axis the DC-group count is `⌈W / (8 G)⌉` whatever the chroma shift. -/
theorem numTocEntries_chroma_invariant (h : FrameHeader) (j : Mathlib.Vector UInt32 3)
    (hg : h.groupSizeShift ≤ 3) (hh : ∀ c ∈ h.jpegUpsampling.toList, c ≤ 3)
    (hj : ∀ c ∈ j.toList, c ≤ 3) :
    { h with jpegUpsampling := j }.numTocEntries = h.numTocEntries ∧
      ∀ W s : Nat, s ≤ 1 → ceilDiv (ceilDiv W (8 * 2 ^ s) * 2 ^ s) (128 * 2 ^ h.groupSizeShift.toNat) =
        ceilDiv W (8 * (128 * 2 ^ h.groupSizeShift.toNat)) :=
  ⟨by rw [numTocEntries_eq { h with jpegUpsampling := j } hj hg, numTocEntries_eq h hh hg],
    fun W _ hs => dcGroups_eq W hs _⟩

/-- A 1000 × 600 crop in groups of 256 pixels: three TOC entries. -/
def crop1000x600 : FrameHeader :=
  { defaults ⟨true, 0, [], false, false, 1, 1⟩ with haveCrop := true, width := 1000, height := 600 }

theorem numTocEntries_chroma_invariant_crop :
    crop1000x600.numTocEntries = some 3 ∧
    { crop1000x600 with jpegUpsampling := ⟨[1, 2, 3], rfl⟩ }.numTocEntries =
        crop1000x600.numTocEntries ∧
      ∀ W s : Nat, s ≤ 1 → ceilDiv (ceilDiv W (8 * 2 ^ s) * 2 ^ s)
          (128 * 2 ^ crop1000x600.groupSizeShift.toNat) =
        ceilDiv W (8 * (128 * 2 ^ crop1000x600.groupSizeShift.toNat)) :=
  ⟨by decide, numTocEntries_chroma_invariant _ _ (by decide) (by decide) (by decide)⟩

/-! ## The count in unbounded naturals -/

def maxShiftNat (table entries : List UInt32) : Nat :=
  entries.foldl (fun m c => max m (table.getD c.toNat 0).toNat) 0

/-- The steps of `num_toc_entries` in unbounded naturals, with nothing wrapped. -/
def numTocEntriesNat (h : FrameHeader) : Nat :=
  let G := 128 * 2 ^ h.groupSizeShift.toNat
  let sh := maxShiftNat hShift h.jpegUpsampling.toList
  let sv := maxShiftNat vShift h.jpegUpsampling.toList
  if ceilDiv h.width.toNat G * ceilDiv h.height.toNat G = 1 ∧ h.passes.numPasses.toNat = 1 then 1
  else 2 + ceilDiv (ceilDiv h.width.toNat (8 * 2 ^ sh) * 2 ^ sh) G *
    ceilDiv (ceilDiv h.height.toNat (8 * 2 ^ sv) * 2 ^ sv) G

/-- `6700417 · 641 = 2^32 + 1` groups of 128 pixels, which the `u32` product wraps to 1:
one TOC entry where the count is 67841795. -/
theorem numTocEntries_wraps :
    ((read ⟨true, 0, [], false, false, 1, 1⟩).run (.start [false, false, false, true, false, false,
      false, false, false, false, false, false, true, false, false, false, false, false, false, false,
      false, false, false, false, false, false, false, false, false, false, false, false, false, true,
      true, false, false, false, false, false, false, false, true, true, true, true, false, true, true,
      true, false, false, true, true, true, true, false, false, false, true, true, false, false, true,
      true, true, true, false, false, false, false, false, false, false, true, true, true, true, false,
      true, true, true, true, false, false, false, false, false, false, false, false, false, false,
      false, false, false, false, false, false, true, false, false, false, true, false, false])).toOption =
      some ({ defaults ⟨true, 0, [], false, false, 1, 1⟩ with
        allDefault := false, encoding := .modular, groupSizeShift := 0, haveCrop := true,
        width := 857653376, height := 82048 }, ⟨[], 106⟩) ∧
    ceilDiv 857653376 128 * ceilDiv 82048 128 = 2 ^ 32 + 1 ∧
    ({ defaults ⟨true, 0, [], false, false, 1, 1⟩ with
        allDefault := false, encoding := .modular, groupSizeShift := 0, haveCrop := true,
        width := 857653376, height := 82048 } : FrameHeader).numTocEntries = some 1 ∧
    numTocEntriesNat { defaults ⟨true, 0, [], false, false, 1, 1⟩ with
        allDefault := false, encoding := .modular, groupSizeShift := 0, haveCrop := true,
        width := 857653376, height := 82048 } = 67841795 := by
  decide

/-- An uncropped header tiles the default 0 × 0 crop: no group at all, never a single one. -/
theorem numTocEntries_uncropped (ns : FrameHeaderNonserialized) {br br' : BitReader}
    {h : FrameHeader} (hr : (read ns).run br = .ok (h, br')) (hc : h.haveCrop = false) :
    h.numTocEntries = some 2 := by
  have hf := (read_all_of_readFields (readFields_valid ns)).run hr
  obtain ⟨-, -, hw, hh⟩ := ((read_all_of_readFields (readFields_defaults ns)).run hr).uncropped hc
  rw [numTocEntries_eq h hf.jpegUpsampling_le hf.groupSizeShift_le, hw, hh]
  simp [ceilDiv_zero]

theorem numTocEntries_uncropped_allDefault :
    (read ⟨true, 0, [], false, false, 1, 1⟩).run (.start [true]) =
      .ok (defaults ⟨true, 0, [], false, false, 1, 1⟩, ⟨[], 1⟩) ∧
    (defaults ⟨true, 0, [], false, false, 1, 1⟩).haveCrop = false ∧
    (defaults ⟨true, 0, [], false, false, 1, 1⟩).numTocEntries = some 2 :=
  have hr : (read ⟨true, 0, [], false, false, 1, 1⟩).run (.start [true]) =
      .ok (defaults ⟨true, 0, [], false, false, 1, 1⟩, ⟨[], 1⟩) := rfl
  ⟨hr, rfl, numTocEntries_uncropped _ hr rfl⟩

end FrameHeader

end JxlHeaders
