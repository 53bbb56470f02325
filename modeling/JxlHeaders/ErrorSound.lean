import JxlHeaders.CheckSound
import JxlHeaders.CoderSound

/-!
# The failures of a header and a TOC decode

Which errors each decoder can raise, truncation aside, proved with `Prog.Fails` one
decoder at a time (`FrameHeader.read_error_cases`, `Toc.read_error_eq_truncation`).
-/

namespace JxlHeaders

def HeaderError : Error → Prop
  | .truncation => False
  | .invalidTag v tag =>
    (tag = "FrameType" ∧ 4 ≤ v ∧ v ≤ 81) ∨ (tag = "BlendingMode" ∧ 5 ≤ v ∧ v ≤ 6)
  | .floatNaNOrInf => True
  | .sizeOverflow => True
  | .invalidEcUpsampling upsampling _ _ => 1 < upsampling.toNat
  | .numPassesTooLarge numDs numPasses => numPasses.toNat ≤ numDs.toNat

section
variable (E : Error → Prop)

/-! ## Decoders that never fail -/

theorem U32.read_fails (u : U32) : u.read.Fails E := by
  cases u with
  | bits n => exact .of_bind (readBits_fails E n) fun _ => trivial
  | bitsOffset n off => exact .of_bind (readBits_fails E n) fun _ => trivial
  | val c => trivial

theorem U32Coder.read_fails (c : U32Coder) : c.read.Fails E := by
  cases c with
  | direct u => exact u.read_fails E
  | select u0 u1 u2 u3 => exact .of_bind (readBits_fails E 2) fun s => (U32Coder.pick _ _ _ _ s).read_fails E

theorem jumpToByteBoundary_fails : jumpToByteBoundary.Fails E := fun _ _ _ => trivial

theorem readBool_fails : readBool.Fails E := .of_bind (readBits_fails E 1) fun _ => trivial

theorem readU64Chunks_fails : ∀ (k : Nat) (result : UInt64), (readU64Chunks k result).Fails E
  | 0, _ => .of_bind (readBits_fails E 1) fun _ => by
      split
      · exact .of_bind (readBits_fails E 4) fun _ => trivial
      · trivial
  | k + 1, _ => .of_bind (readBits_fails E 1) fun _ => by
      split
      · exact .of_bind (readBits_fails E 8) fun _ => readU64Chunks_fails k _
      · trivial

theorem readU64_fails : readU64.Fails E := .of_bind (readBits_fails E 2) fun s => by
  match s with
  | 0 => trivial
  | 1 => exact .of_bind (readBits_fails E 4) fun _ => trivial
  | 2 => exact .of_bind (readBits_fails E 8) fun _ => trivial
  | _ + 3 => exact .of_bind (readBits_fails E 12) fun _ => readU64Chunks_fails E 6 _

theorem readI32_fails (c : U32Coder) : (readI32 c).Fails E :=
  .of_bind (c.read_fails E) fun _ => trivial

variable {E}

theorem readVector_fails {α : Type} {read : Prog α} (h : read.Fails E) :
    ∀ n, (readVector read n).Fails E
  | 0 => trivial
  | n + 1 => .of_bind h fun _ => .of_bind (readVector_fails h n) fun _ => trivial

theorem readArray_fails {α : Type} {read : Prog α} (h : read.Fails E) :
    ∀ n, (readArray read n).Fails E
  | 0 => trivial
  | n + 1 => .of_bind h fun _ => .of_bind (readArray_fails h n) fun _ => trivial

theorem readDefaulted_fails {α : Type} {cond : Bool} {default : α} {read : Prog α}
    (h : read.Fails E) : (readDefaulted cond default read).Fails E := by
  unfold readDefaulted; split
  · exact h
  · trivial

theorem readDefaultedElement_fails {α : Type} {cond : Bool} {len : Nat} {default : α}
    {read : Prog α} (h : read.Fails E) : (readDefaultedElement cond len default read).Fails E := by
  unfold readDefaultedElement; split
  · exact readVector_fails h len
  · trivial

variable (E)

theorem readString_fails : readString.Fails E := by
  refine .of_bind (U32Coder.read_fails E _) fun _ => .of_bind ?_ fun _ => trivial
  refine readVector_fails ?_ _
  exact .of_bind (readBits_fails E 8) fun _ => trivial

theorem Passes.read_fails : Passes.read.Fails E := by
  refine .of_bind (U32Coder.read_fails E _) fun _ => ?_
  refine .of_bind (readDefaulted_fails (U32Coder.read_fails E _)) fun _ => ?_
  refine .of_bind (readDefaultedElement_fails (U32Coder.read_fails E _)) fun _ => ?_
  refine .of_bind (readDefaultedElement_fails (U32Coder.read_fails E _)) fun _ => ?_
  exact .of_bind (readDefaultedElement_fails (U32Coder.read_fails E _)) fun _ => trivial

/-! ## Decoders that fail -/

theorem readEnum_fails {α : Type} {c : U32Coder} {fromU32 : UInt32 → Option α} {tag : String}
    (h : ∀ u, c.Values u → fromU32 u = none → E (.invalidTag u.toNat tag)) :
    (readEnum c fromU32 tag).Fails E :=
  Prog.Fails.bind (c.read_all) (c.read_fails E) fun u hu => by
    cases hf : fromU32 u with
    | none =>
      show (Prog.fail _).Fails E
      exact h u hu hf
    | some t => trivial

variable {E}

theorem readF32_fails (hE : E .floatNaNOrInf) : readF32.Fails E :=
  .of_bind (readBits_fails E 16) fun _ => by
    split
    · exact hE
    · trivial

theorem extensionSizes_fails (hE : E .sizeOverflow) (selector : UInt64) :
    ∀ (is : List Nat) (total : UInt64), (extensionSizes selector is total).Fails E
  | [], _ => trivial
  | i :: is, total => by
    unfold extensionSizes
    split
    · refine .of_bind (readU64_fails E) fun size => ?_
      split
      · exact extensionSizes_fails hE selector is _
      · exact hE
    · exact extensionSizes_fails hE selector is total

theorem Extensions.read_fails (hE : E .sizeOverflow) : Extensions.read.Fails E :=
  .of_bind (readU64_fails E) fun _ => .of_bind (extensionSizes_fails hE _ _ _) fun _ =>
    .of_bind (fun _ _ => trivial) fun _ => trivial

theorem RestorationFilter.read_fails (hF : E .floatNaNOrInf) (hS : E .sizeOverflow)
    (ns : RestorationFilterNonserialized) : (RestorationFilter.read ns).Fails E := by
  have f32 : ∀ {c : Bool} {d : F32}, (readDefaulted c d readF32).Fails E :=
    readDefaulted_fails (readF32_fails hF)
  refine .of_bind (readBool_fails E) fun _ => .of_bind (readDefaulted_fails (readBool_fails E))
    fun _ => .of_bind (readDefaulted_fails (readBool_fails E)) fun _ => ?_
  refine .of_bind f32 fun _ => .of_bind f32 fun _ => .of_bind f32 fun _ => .of_bind f32 fun _ =>
    .of_bind f32 fun _ => .of_bind f32 fun _ => ?_
  refine .of_bind (readDefaulted_fails (U32Coder.read_fails E _)) fun _ =>
    .of_bind (readDefaulted_fails (readBool_fails E)) fun _ =>
    .of_bind (readDefaulted_fails (readArray_fails (readF32_fails hF) 8)) fun _ =>
    .of_bind (readDefaulted_fails (readBool_fails E)) fun _ =>
    .of_bind (readDefaulted_fails (readArray_fails (readF32_fails hF) 3)) fun _ => ?_
  refine .of_bind f32 fun _ => .of_bind f32 fun _ =>
    .of_bind (readDefaulted_fails (readBool_fails E)) fun _ => ?_
  refine .of_bind f32 fun _ => .of_bind f32 fun _ => .of_bind f32 fun _ => .of_bind f32 fun _ =>
    .of_bind f32 fun _ => ?_
  exact .of_bind (readDefaulted_fails (Extensions.read_fails hS)) fun _ => trivial

end

/-! ## Tags -/

theorem enumCoder_values_le {u : UInt32} (h : enumCoder.Values u) : u.toNat ≤ 81 := by
  simp only [enumCoder, U32Coder.Values, U32.Values] at h
  rcases h with rfl | rfl | ⟨x, hx, rfl⟩ | ⟨x, hx, rfl⟩
  · decide
  · decide
  all_goals
    rw [u32_toNat_ofNat_add (by simp [UInt32.toNat_ofNat, UInt32.size]; omega)]
    simp [UInt32.toNat_ofNat, UInt32.size]
    omega

theorem FrameType.fromU32_eq_none {u : UInt32} (h : FrameType.fromU32 u = none) : 4 ≤ u.toNat := by
  refine Nat.le_of_not_lt fun hlt => ?_
  rcases (by omega : u.toNat = 0 ∨ u.toNat = 1 ∨ u.toNat = 2 ∨ u.toNat = 3) with
    h' | h' | h' | h' <;> simp [FrameType.fromU32, h'] at h

theorem BlendingMode.fromU32_eq_none {u : UInt32} (h : BlendingMode.fromU32 u = none) :
    5 ≤ u.toNat := by
  refine Nat.le_of_not_lt fun hlt => ?_
  rcases (by omega : u.toNat = 0 ∨ u.toNat = 1 ∨ u.toNat = 2 ∨ u.toNat = 3 ∨ u.toNat = 4) with
    h' | h' | h' | h' | h' <;> simp [BlendingMode.fromU32, h'] at h

theorem FrameType.read_fails : FrameType.read.Fails HeaderError :=
  readEnum_fails _ fun _ hu hn => .inl ⟨rfl, FrameType.fromU32_eq_none hn, enumCoder_values_le hu⟩

theorem Encoding.read_fails (E : Error → Prop) : Encoding.read.Fails E :=
  readEnum_fails _ fun u hu hn => by
    have h1 := bits_values_lt (by decide) hu
    rcases (by omega : u.toNat = 0 ∨ u.toNat = 1) with h' | h' <;>
      simp [Encoding.fromU32, h'] at hn

theorem BlendingMode.read_fails : BlendingMode.read.Fails HeaderError :=
  readEnum_fails _ fun u hu hn => by
    refine .inr ⟨rfl, BlendingMode.fromU32_eq_none hn, ?_⟩
    simp only [U32Coder.Values, U32.Values] at hu
    rcases hu with rfl | rfl | rfl | ⟨x, hx, rfl⟩
    · decide
    · decide
    · decide
    · rw [u32_toNat_ofNat_add (by simp [UInt32.toNat_ofNat, UInt32.size]; omega)]
      simp [UInt32.toNat_ofNat, UInt32.size]
      omega

theorem BlendingInfo.read_fails (ns : BlendingInfoNonserialized) :
    (BlendingInfo.read ns).Fails HeaderError :=
  .of_bind BlendingMode.read_fails fun _ =>
    .of_bind (readDefaulted_fails (U32Coder.read_fails _ _)) fun _ =>
    .of_bind (readDefaulted_fails (readBool_fails _)) fun _ =>
    .of_bind (readDefaulted_fails (U32Coder.read_fails _ _)) fun _ => trivial

namespace FrameHeader

theorem check_error {h : FrameHeader} {ns : FrameHeaderNonserialized} {e : Error}
    (hc : h.check ns = .error e) : HeaderError e := by
  rcases check_cases h ns with ⟨info, u, hup, -, hc'⟩ | ⟨-, hc'⟩ <;> rw [hc'] at hc
  · cases hc
    exact hup
  · split at hc
    · cases hc
      exact ‹h.passes.numDs ≥ h.passes.numPasses›
    · cases hc

theorem readFields_fails (ns : FrameHeaderNonserialized) : (readFields ns).Fails HeaderError := by
  have u32 : ∀ {c : Bool} {d : UInt32} (coder : U32Coder),
      (readDefaulted c d coder.read).Fails HeaderError := fun coder =>
    readDefaulted_fails (coder.read_fails _)
  have bool : ∀ {c d : Bool}, (readDefaulted c d readBool).Fails HeaderError :=
    readDefaulted_fails (readBool_fails _)
  refine .of_bind (readBool_fails _) fun _ => .of_bind (readDefaulted_fails FrameType.read_fails)
    fun _ => .of_bind (readDefaulted_fails (Encoding.read_fails _)) fun _ =>
    .of_bind (readDefaulted_fails (readU64_fails _)) fun _ => .of_bind bool fun _ => ?_
  refine .of_bind (readDefaulted_fails (readArray_fails (U32Coder.read_fails _ _) 3)) fun _ =>
    .of_bind (u32 _) fun _ => .of_bind (readDefaultedElement_fails (U32Coder.read_fails _ _))
    fun _ => .of_bind (u32 _) fun _ => .of_bind (u32 _) fun _ => .of_bind (u32 _) fun _ => ?_
  refine .of_bind (readDefaulted_fails (Passes.read_fails _)) fun _ => .of_bind (u32 _) fun _ =>
    .of_bind bool fun _ => .of_bind (readDefaulted_fails (readI32_fails _ _)) fun _ =>
    .of_bind (readDefaulted_fails (readI32_fails _ _)) fun _ => .of_bind (u32 _) fun _ =>
    .of_bind (u32 _) fun _ => ?_
  refine .of_bind (readDefaulted_fails (BlendingInfo.read_fails _)) fun _ =>
    .of_bind (readDefaultedElement_fails (BlendingInfo.read_fails _)) fun _ =>
    .of_bind (u32 _) fun _ => .of_bind (u32 _) fun _ => .of_bind bool fun _ =>
    .of_bind (u32 _) fun _ => .of_bind bool fun _ => ?_
  exact .of_bind (readDefaulted_fails (readString_fails _)) fun _ =>
    .of_bind (readDefaulted_fails (RestorationFilter.read_fails trivial trivial _)) fun _ =>
    .of_bind (readDefaulted_fails (Extensions.read_fails trivial)) fun _ => trivial

theorem read_error_cases (ns : FrameHeaderNonserialized) {br : BitReader} {e : Error}
    (hr : (read ns).run br = .error e) : e = .truncation ∨ HeaderError e := by
  refine Prog.Fails.run ?_ hr
  refine .of_bind (jumpToByteBoundary_fails _) fun _ =>
    .of_bind (readFields_fails ns) fun h => .of_bind ?_ fun _ => trivial
  exact liftExcept_fails fun _ => check_error

/-- The 7-bit stream `0 01 0100`: a `FrameType` code of 2 + 2 = 4, past the last one. -/
theorem read_error_frameType :
    (read ⟨true, 0, [], false, false, 1, 1⟩).run (.start [false, false, true, false, true, false,
      false]) = .error (.invalidTag 4 "FrameType") ∧
    HeaderError (.invalidTag 4 "FrameType") :=
  have hr : (read ⟨true, 0, [], false, false, 1, 1⟩).run (.start [false, false, true, false, true,
      false, false]) = .error (.invalidTag 4 "FrameType") := rfl
  ⟨hr, (read_error_cases _ hr).resolve_left nofun⟩

end FrameHeader

theorem Toc.read_error_eq_truncation (ns : TocNonserialized) {br : BitReader} {e : Error}
    (hr : (Toc.read ns).run br = .error e) : e = .truncation := by
  refine (Prog.Fails.run (E := fun _ => False) ?_ hr).resolve_right id
  exact .of_bind (readBool_fails _) fun _ => .of_bind (readDefaulted_fails trivial) fun _ =>
    .of_bind (readVector_fails (U32Coder.read_fails _ _) _) fun _ => trivial

theorem Toc.read_error_short :
    (Toc.read ⟨false, 1, []⟩).run (.start [false]) = .error .truncation ∧ Error.truncation = .truncation :=
  have hr : (Toc.read ⟨false, 1, []⟩).run (.start [false]) = .error .truncation := rfl
  ⟨hr, Toc.read_error_eq_truncation _ hr⟩

end JxlHeaders
