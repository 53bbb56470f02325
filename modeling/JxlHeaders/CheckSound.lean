import JxlHeaders.FieldsSound

/-!
# What the header validation decides

`FrameHeader.check` rejects the first extra channel that breaks the upsampling rule, and
otherwise a pass structure with `num_ds ≥ num_passes`. It runs the channel loop only for
a base factor above 1; on a decoded header nothing is lost by skipping it.
-/

namespace JxlHeaders

namespace FrameHeader

/-! ## The two outcomes of `check` -/

theorem check_of_rejected {h : FrameHeader} {ns : FrameHeaderNonserialized}
    {info : ExtraChannelInfo} {u : UInt32} (hup : h.upsampling > 1)
    (hf : (ns.extraChannelInfo.zip h.ecUpsampling).find? (ecUpsamplingRejected h.upsampling) =
      some (info, u)) :
    h.check ns = .error (.invalidEcUpsampling h.upsampling info.dimShift u) := by
  simp only [check, if_pos hup, hf]
  rfl

theorem check_of_accepted {h : FrameHeader} {ns : FrameHeaderNonserialized}
    (hf : h.upsampling > 1 →
      (ns.extraChannelInfo.zip h.ecUpsampling).find? (ecUpsamplingRejected h.upsampling) = none) :
    h.check ns = if h.passes.numDs ≥ h.passes.numPasses then
      .error (.numPassesTooLarge h.passes.numDs h.passes.numPasses) else .ok () := by
  unfold check
  by_cases hup : h.upsampling > 1
  · simp only [if_pos hup, hf hup]
    rfl
  · simp only [if_neg hup]
    rfl

theorem check_cases (h : FrameHeader) (ns : FrameHeaderNonserialized) :
    (∃ info u, h.upsampling > 1 ∧
      (ns.extraChannelInfo.zip h.ecUpsampling).find? (ecUpsamplingRejected h.upsampling) =
        some (info, u) ∧
      h.check ns = .error (.invalidEcUpsampling h.upsampling info.dimShift u)) ∨
    ((h.upsampling > 1 →
        (ns.extraChannelInfo.zip h.ecUpsampling).find? (ecUpsamplingRejected h.upsampling) = none) ∧
      h.check ns = if h.passes.numDs ≥ h.passes.numPasses then
        .error (.numPassesTooLarge h.passes.numDs h.passes.numPasses) else .ok ()) := by
  by_cases hf : h.upsampling > 1 →
      (ns.extraChannelInfo.zip h.ecUpsampling).find? (ecUpsamplingRejected h.upsampling) = none
  · exact .inr ⟨hf, check_of_accepted hf⟩
  · obtain ⟨hup, hne⟩ := Classical.not_imp.mp hf
    obtain ⟨⟨info, u⟩, hs⟩ := Option.ne_none_iff_exists'.mp hne
    exact .inl ⟨info, u, hup, hs, check_of_rejected hup hs⟩

theorem check_ok_iff {h : FrameHeader} {ns : FrameHeaderNonserialized} :
    h.check ns = .ok () ↔
      (h.upsampling > 1 →
        (ns.extraChannelInfo.zip h.ecUpsampling).find? (ecUpsamplingRejected h.upsampling) = none) ∧
      h.passes.numDs < h.passes.numPasses := by
  rcases check_cases h ns with ⟨info, u, hup, hs, hc⟩ | ⟨hf, hc⟩
  · rw [hc, hs]
    exact ⟨nofun, fun ⟨hf', _⟩ => nomatch hf' hup⟩
  · rw [hc]
    simp only [ge_iff_le, u32_le_iff, u32_lt_iff]
    split
    · exact ⟨nofun, fun ⟨_, hlt⟩ => by omega⟩
    · exact ⟨fun _ => ⟨hf, by omega⟩, fun _ => rfl⟩

/-! ## The channel test over the integers -/

def EcUpsamplingViolated (h : FrameHeader) (ns : FrameHeaderNonserialized) (i : Nat) : Prop :=
  ∃ info u, ns.extraChannelInfo[i]? = some info ∧ h.ecUpsampling[i]? = some u ∧
    (u.toNat * 2 ^ info.dimShift.toNat < h.upsampling.toNat ∨ 8 < u.toNat)

theorem upsampling_toNat_bounds {u : UInt32} (hu : u ∈ [1, 2, 4, 8]) :
    1 ≤ u.toNat ∧ u.toNat ≤ 8 := by
  simp only [List.mem_cons, List.mem_singleton, List.not_mem_nil, or_false] at hu
  rcases hu with rfl | rfl | rfl | rfl <;> decide

theorem ecUpsamplingRejected_iff {upsampling u : UInt32} {info : ExtraChannelInfo}
    (hu : u ∈ [1, 2, 4, 8]) (hd : info.dimShift ≤ 8) :
    ecUpsamplingRejected upsampling (info, u) = true ↔
      u.toNat * 2 ^ info.dimShift.toNat < upsampling.toNat ∨ 8 < u.toNat := by
  have hu8 := (upsampling_toNat_bounds hu).2
  have hd8 : info.dimShift.toNat ≤ 8 := hd
  have hlt : u.toNat * 2 ^ info.dimShift.toNat < 2 ^ 32 :=
    calc u.toNat * 2 ^ info.dimShift.toNat ≤ 8 * 2 ^ 8 :=
          Nat.mul_le_mul hu8 (Nat.pow_le_pow_right (by decide) hd8)
      _ < 2 ^ 32 := by decide
  simp only [ecUpsamplingRejected, Bool.or_eq_true, decide_eq_true_eq, u32_lt_iff,
    u32_toNat_shiftLeft, Nat.mod_eq_of_lt (show info.dimShift.toNat < 32 by omega),
    Nat.mod_eq_of_lt hlt]
  rfl

section Decoded

variable {ns : FrameHeaderNonserialized} {h : FrameHeader}

theorem violated_iff_rejected (hf : FieldsValid ns h)
    (hd : ∀ info ∈ ns.extraChannelInfo, info.dimShift ≤ 8) (i : Nat) :
    EcUpsamplingViolated h ns i ↔ ∃ c, (ns.extraChannelInfo.zip h.ecUpsampling)[i]? = some c ∧
      ecUpsamplingRejected h.upsampling c = true := by
  simp only [EcUpsamplingViolated, List.getElem?_zip_eq_some, Prod.exists, and_assoc]
  refine exists₂_congr fun info u => and_congr_right fun hi => and_congr_right fun hu => ?_
  exact (ecUpsamplingRejected_iff (hf.ecUpsampling_mem u (List.mem_iff_getElem?.mpr ⟨i, hu⟩))
    (hd info (List.mem_iff_getElem?.mpr ⟨i, hi⟩))).symm

theorem upsampling_gt_of_violated (hf : FieldsValid ns h) {i : Nat}
    (hv : EcUpsamplingViolated h ns i) : h.upsampling > 1 := by
  obtain ⟨info, u, -, hu, hv⟩ := hv
  obtain ⟨hu1, hu8⟩ := upsampling_toNat_bounds (hf.ecUpsampling_mem u (List.mem_iff_getElem?.mpr ⟨i, hu⟩))
  have : 1 ≤ u.toNat * 2 ^ info.dimShift.toNat := Nat.mul_le_mul hu1 Nat.one_le_two_pow
  show 1 < h.upsampling.toNat
  omega

theorem find_eq_none_of_no_violation (hf : FieldsValid ns h)
    (hd : ∀ info ∈ ns.extraChannelInfo, info.dimShift ≤ 8)
    (hno : ∀ i, ¬ EcUpsamplingViolated h ns i) :
    (ns.extraChannelInfo.zip h.ecUpsampling).find? (ecUpsamplingRejected h.upsampling) = none := by
  refine List.find?_eq_none.mpr fun c hc hr => ?_
  obtain ⟨i, hi⟩ := List.mem_iff_getElem?.mp hc
  exact hno i ((violated_iff_rejected hf hd i).mpr ⟨c, hi, hr⟩)

end Decoded

/-- `check` reports the least violating channel, if any, and otherwise fails exactly
when `num_ds ≥ num_passes`, although it skips the channels for a base factor of 1. -/
theorem check_reports_first_violation {ns : FrameHeaderNonserialized} {br br' : BitReader}
    {h : FrameHeader} (hr : (readFields ns).run br = .ok (h, br'))
    (hd : ∀ info ∈ ns.extraChannelInfo, info.dimShift ≤ 8) :
    (∀ i info u, ns.extraChannelInfo[i]? = some info → h.ecUpsampling[i]? = some u →
      (u.toNat * 2 ^ info.dimShift.toNat < h.upsampling.toNat ∨ 8 < u.toNat) →
      (∀ j < i, ¬ EcUpsamplingViolated h ns j) →
      h.check ns = .error (.invalidEcUpsampling h.upsampling info.dimShift u)) ∧
    ((∀ i, ¬ EcUpsamplingViolated h ns i) →
      h.check ns = if h.passes.numDs ≥ h.passes.numPasses then
        .error (.numPassesTooLarge h.passes.numDs h.passes.numPasses) else .ok ()) ∧
    (h.check ns = .ok () ↔
      (∀ i, ¬ EcUpsamplingViolated h ns i) ∧ h.passes.numDs < h.passes.numPasses) := by
  have hf := (readFields_valid ns).run hr
  refine ⟨fun i info u hinfo hu hv hfirst => ?_, fun hno => ?_, ?_⟩
  · -- the first violation is what `find` returns
    have hvi : EcUpsamplingViolated h ns i := ⟨info, u, hinfo, hu, hv⟩
    have hzi : (ns.extraChannelInfo.zip h.ecUpsampling)[i]? = some (info, u) :=
      List.getElem?_zip_eq_some.mpr ⟨hinfo, hu⟩
    obtain ⟨hlt, hget⟩ := List.getElem?_eq_some_iff.mp hzi
    refine check_of_rejected (upsampling_gt_of_violated hf hvi) ?_
    refine List.find?_eq_some_iff_getElem.mpr ⟨?_, i, hlt, hget, fun j hj => ?_⟩
    · obtain ⟨c, hc, hrc⟩ := (violated_iff_rejected hf hd i).mp hvi
      rw [hzi] at hc
      cases hc
      exact hrc
    · have hnj := hfirst j hj
      rw [violated_iff_rejected hf hd j] at hnj
      simpa using fun hr => hnj ⟨_, List.getElem?_eq_getElem (Nat.lt_trans hj hlt), hr⟩
  · exact check_of_accepted fun _ => find_eq_none_of_no_violation hf hd hno
  · rw [check_ok_iff]
    refine ⟨fun ⟨hfind, hp⟩ => ⟨fun i hv => ?_, hp⟩, fun ⟨hno, hp⟩ =>
      ⟨fun _ => find_eq_none_of_no_violation hf hd hno, hp⟩⟩
    obtain ⟨c, hc, hrc⟩ := (violated_iff_rejected hf hd i).mp hv
    exact List.find?_eq_none.mp (hfind (upsampling_gt_of_violated hf hv)) c
      (List.mem_iff_getElem?.mpr ⟨i, hc⟩) hrc

/-- A 30-bit header with base factor 2 and a channel of factor 1 and shift 0. -/
theorem check_reports_first_violation_ecUpsampling :
    (readFields ⟨true, 1, [⟨0⟩], false, false, 1, 1⟩).run (.start [false, false, false, false,
      false, false, true, false, false, false, false, false, false, false, false, false, false, false,
      false, false, false, false, false, true, false, false, false, true, false, false]) =
      .ok ({ defaults ⟨true, 1, [⟨0⟩], false, false, 1, 1⟩ with
        allDefault := false, upsampling := 2, xQmScale := 0, bQmScale := 0 }, ⟨[], 30⟩) ∧
    ({ defaults ⟨true, 1, [⟨0⟩], false, false, 1, 1⟩ with
        allDefault := false, upsampling := 2, xQmScale := 0, bQmScale := 0 } : FrameHeader).check
      ⟨true, 1, [⟨0⟩], false, false, 1, 1⟩ = .error (.invalidEcUpsampling 2 0 1) :=
  have hr : (readFields ⟨true, 1, [⟨0⟩], false, false, 1, 1⟩).run (.start [false, false, false,
      false, false, false, true, false, false, false, false, false, false, false, false, false, false,
      false, false, false, false, false, false, true, false, false, false, true, false, false]) =
      .ok ({ defaults ⟨true, 1, [⟨0⟩], false, false, 1, 1⟩ with
        allDefault := false, upsampling := 2, xQmScale := 0, bQmScale := 0 }, ⟨[], 30⟩) := rfl
  ⟨hr, (check_reports_first_violation hr (by decide)).1 0 ⟨0⟩ 1 rfl rfl (by decide)
    fun _ hj => absurd hj (Nat.not_lt_zero _)⟩

end FrameHeader

end JxlHeaders
