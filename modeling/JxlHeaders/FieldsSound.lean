import JxlHeaders.FrameHeader

/-!
# What the field decoding returns

Two invariants of every header `FrameHeader.readFields` returns, each proved by one bind
per field: value ranges and vector lengths (`FieldsValid`), and the defaults of absent
fields (`FieldsDefaults`).
-/

namespace JxlHeaders

theorem readDefaultedElement_length {α : Type} (cond : Bool) (len : Nat) (default : α)
    (read : Prog α) : (readDefaultedElement cond len default read).All (·.length = len) :=
  (readDefaultedElement_all (P := fun _ => True) (Prog.all_of_forall (fun _ => trivial) _)
    trivial).imp fun _ h => h.1

theorem bits_values_lt {n : Nat} {v : UInt32} (hn : n ≤ 32)
    (h : (U32Coder.direct (.bits n)).Values v) : v.toNat < 2 ^ n := by
  obtain ⟨x, hx, rfl⟩ := h
  rw [u32_toNat_ofNat (Nat.lt_of_lt_of_le hx (Nat.pow_le_pow_right (by decide) hn))]
  exact hx

theorem bits2_values {v : UInt32} (h : (U32Coder.direct (.bits 2)).Values v) : v ≤ 3 := by
  have := bits_values_lt (by decide) h
  rw [u32_le_iff]
  exact Nat.le_of_lt_succ this

/-! ## Passes -/

structure Passes.Valid (p : Passes) : Prop where
  numPasses_pos : 1 ≤ p.numPasses.toNat
  numPasses_le : p.numPasses.toNat ≤ 11
  shift_length : p.shift.length = p.numPasses.toNat - 1
  downsample_length : p.downsample.length = p.numDs.toNat
  lastPass_length : p.lastPass.length = p.numDs.toNat

theorem Passes.default_valid : Passes.default.Valid := ⟨by decide, by decide, rfl, rfl, rfl⟩

theorem numPasses_values {v : UInt32} (h : Passes.numPassesCoder.Values v) :
    1 ≤ v.toNat ∧ v.toNat ≤ 11 := by
  simp only [Passes.numPassesCoder, U32Coder.Values, U32.Values] at h
  rcases h with rfl | rfl | rfl | ⟨x, hx, rfl⟩
  · decide
  · decide
  · decide
  · rw [u32_toNat_ofNat_add (by simp [UInt32.size]; omega)]
    simp [UInt32.size]
    omega

theorem Passes.read_all_valid : Passes.read.All Passes.Valid := by
  refine (U32Coder.read_all _).bind fun numPasses hnp => ?_
  obtain ⟨h1, h11⟩ := numPasses_values hnp
  refine Prog.All.of_bind fun numDs => ?_
  refine (readDefaultedElement_length _ _ _ _).bind fun shift hs => ?_
  refine (readDefaultedElement_length _ _ _ _).bind fun downsample hd => ?_
  refine (readDefaultedElement_length _ _ _ _).bind fun lastPass hl => ?_
  refine ⟨h1, h11, ?_, hd, hl⟩
  rw [hs, UInt32.toNat_sub_of_le _ _ (by rw [u32_le_iff]; simpa using h1)]
  rfl

/-! ## Frame header -/

namespace FrameHeader

theorem upsamplingCoder_values {v : UInt32} (h : upsamplingCoder.Values v) : v ∈ [1, 2, 4, 8] := by
  simp only [upsamplingCoder, U32Coder.Values, U32.Values] at h
  simp only [List.mem_cons, List.mem_singleton, List.not_mem_nil, or_false]
  exact h

structure FieldsValid (ns : FrameHeaderNonserialized) (h : FrameHeader) : Prop where
  jpegUpsampling_le : ∀ c ∈ h.jpegUpsampling.toList, c ≤ 3
  upsampling_mem : h.upsampling ∈ [1, 2, 4, 8]
  ecUpsampling_length : h.ecUpsampling.length = ns.numExtraChannels.toNat
  ecUpsampling_mem : ∀ u ∈ h.ecUpsampling, u ∈ [1, 2, 4, 8]
  groupSizeShift_le : h.groupSizeShift ≤ 3
  passes_valid : h.passes.Valid
  ecBlendingInfo_length : h.ecBlendingInfo.length = ns.numExtraChannels.toNat

theorem readFields_valid (ns : FrameHeaderNonserialized) : (readFields ns).All (FieldsValid ns) := by
  refine .of_bind fun allDefault => .of_bind fun frameType => .of_bind fun encoding =>
    .of_bind fun flags => .of_bind fun doYCbCr => ?_
  refine (readDefaulted_all ((readArray_all (U32Coder.read_all _) 3).imp fun v hv c hc =>
    bits2_values (hv c hc)) (by decide)).bind fun jpegUpsampling hj => ?_
  refine (readDefaulted_all ((U32Coder.read_all _).imp fun _ => upsamplingCoder_values)
    (by decide)).bind fun upsampling hu => ?_
  refine (readDefaultedElement_all ((U32Coder.read_all _).imp fun _ => upsamplingCoder_values)
    (by decide)).bind fun ecUpsampling hec => ?_
  refine (readDefaulted_all ((U32Coder.read_all _).imp fun _ => bits2_values)
    (by decide)).bind fun groupSizeShift hg => ?_
  refine .of_bind fun xQmScale => .of_bind fun bQmScale => ?_
  refine (readDefaulted_all Passes.read_all_valid Passes.default_valid).bind fun passes hp => ?_
  refine .of_bind fun lfLevel => .of_bind fun haveCrop => .of_bind fun x0 => .of_bind fun y0 =>
    .of_bind fun width => .of_bind fun height => .of_bind fun blendingInfo => ?_
  refine (readDefaultedElement_length _ _ _ _).bind fun ecBlendingInfo hbl => ?_
  refine .of_bind fun duration => .of_bind fun timecode => .of_bind fun isLast =>
    .of_bind fun saveAsReference => .of_bind fun saveBeforeCt => .of_bind fun name =>
    .of_bind fun restorationFilter => .of_bind fun extensions => ?_
  exact ⟨hj, hu, hec.1, hec.2, hg, hp, hbl⟩

structure FieldsDefaults (ns : FrameHeaderNonserialized) (h : FrameHeader) : Prop where
  allDefault : h.allDefault = true → h = defaults ns
  uncropped : h.haveCrop = false → h.x0 = 0 ∧ h.y0 = 0 ∧ h.width = 0 ∧ h.height = 0
  lfFrame : h.frameType = .lfFrame → h.saveBeforeCt = false

theorem readFields_defaults (ns : FrameHeaderNonserialized) :
    (readFields ns).All (FieldsDefaults ns) := by
  refine .of_bind fun allDefault => ?_
  cases allDefault
  case true =>
    show FieldsDefaults ns (defaults ns)
    exact ⟨fun _ => rfl, fun _ => ⟨rfl, rfl, rfl, rfl⟩, nofun⟩
  -- `all_default` is false: follow the fields the later defaults depend on
  refine (readDefaulted_all_default _ _ _).bind fun frameType _ => ?_
  refine .of_bind fun encoding => .of_bind fun flags => .of_bind fun doYCbCr =>
    .of_bind fun jpegUpsampling => .of_bind fun upsampling => .of_bind fun ecUpsampling =>
    .of_bind fun groupSizeShift => .of_bind fun xQmScale => .of_bind fun bQmScale =>
    .of_bind fun passes => .of_bind fun lfLevel => ?_
  refine .of_bind fun haveCrop => ?_
  refine (readDefaulted_all_default _ _ _).bind fun x0 hx0 => ?_
  refine (readDefaulted_all_default _ _ _).bind fun y0 hy0 => ?_
  refine (readDefaulted_all_default _ _ _).bind fun width hw => ?_
  refine (readDefaulted_all_default _ _ _).bind fun height hh => ?_
  refine .of_bind fun blendingInfo => .of_bind fun ecBlendingInfo => .of_bind fun duration =>
    .of_bind fun timecode => .of_bind fun isLast => .of_bind fun saveAsReference => ?_
  refine (readDefaulted_all_default _ _ _).bind fun saveBeforeCt hsb => ?_
  refine .of_bind fun name => .of_bind fun restorationFilter => .of_bind fun extensions => ?_
  refine ⟨nofun, fun hc => ?_, fun hf => ?_⟩
  · subst hc
    exact ⟨hx0 rfl, hy0 rfl, hw rfl, hh rfl⟩
  · subst hf
    exact (hsb rfl).trans (by simp)

theorem read_all_of_readFields {Q : FrameHeader → Prop} {ns : FrameHeaderNonserialized}
    (hq : (readFields ns).All Q) : (read ns).All Q :=
  .of_bind fun _ => hq.bind fun _ hh => .of_bind fun _ => hh

end FrameHeader

end JxlHeaders
