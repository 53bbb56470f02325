import JxlHeaders.DecodeSound

/-!
# Blending records and the fields of non-normal frames

Where `save_before_ct` is absent its default is always false, while the formula in the
comment above it is always true (`FrameHeader.saveBeforeCt_absent`).
-/

namespace JxlHeaders

/-- A full-frame `Add` record: the source selector after the mode bits is not read. -/
theorem blendingInfo_fullFrame_add :
    fullFrame false 0 0 0 0 1 1 = true ∧
    (BlendingInfo.read ⟨0, false, 0, 0, 0, 0, 1, 1⟩).run (.start [true, false, true, true]) =
      .ok (⟨.add, 0, false, 0⟩, ⟨[true, true], 2⟩) :=
  ⟨rfl, rfl⟩

namespace FrameHeader

/-- A 27-bit LF frame with one extra channel: its `Add` record is read from bits 21 and 22. -/
theorem ecBlendingInfo_lfFrame :
    (read ⟨true, 1, [⟨0⟩], false, false, 1, 1⟩).run (.start [false, true, false, false, false,
      false, false, false, false, false, false, false, false, false, false, false, false, false,
      false, false, true, false, false, false, true, false, false]) =
      .ok ({ defaults ⟨true, 1, [⟨0⟩], false, false, 1, 1⟩ with
        allDefault := false, frameType := .lfFrame, xQmScale := 0, bQmScale := 0, lfLevel := 1,
        isLast := false, ecBlendingInfo := [⟨.add, 0, false, 0⟩] }, ⟨[], 27⟩) :=
  rfl

/-! ## `save_before_ct` -/

/-- The default of `save_before_ct` as the comment above it words it. -/
def saveBeforeCtSpec (ns : FrameHeaderNonserialized) (h : FrameHeader) : Bool :=
  !(fullFrame h.haveCrop h.x0 h.y0 h.width h.height ns.imgWidth ns.imgHeight &&
    (h.frameType == .regularFrame || h.frameType == .skipProgressive) &&
    h.blendingInfo.mode == .replace && (h.duration == 0 || h.saveAsReference != 0) && !h.isLast)

theorem saveBeforeCt_absent (ns : FrameHeaderNonserialized) {br br' : BitReader}
    {h : FrameHeader} (hr : (read ns).run br = .ok (h, br'))
    (habs : h.allDefault = true ∨ h.frameType = .lfFrame) :
    h.saveBeforeCt = false ∧ saveBeforeCtSpec ns h = true := by
  have hd := (read_all_of_readFields (readFields_defaults ns)).run hr
  rcases habs with ha | hlf
  · rw [hd.allDefault ha]
    exact ⟨rfl, rfl⟩
  · exact ⟨hd.lfFrame hlf, by simp [saveBeforeCtSpec, hlf]⟩

theorem saveBeforeCt_absent_allDefault :
    (read ⟨true, 0, [], false, false, 1, 1⟩).run (.start [true]) =
      .ok (defaults ⟨true, 0, [], false, false, 1, 1⟩, ⟨[], 1⟩) ∧
    (defaults ⟨true, 0, [], false, false, 1, 1⟩).allDefault = true ∧
    (defaults ⟨true, 0, [], false, false, 1, 1⟩).saveBeforeCt = false ∧
    saveBeforeCtSpec ⟨true, 0, [], false, false, 1, 1⟩ (defaults ⟨true, 0, [], false, false, 1, 1⟩) =
      true :=
  have hr : (read ⟨true, 0, [], false, false, 1, 1⟩).run (.start [true]) =
      .ok (defaults ⟨true, 0, [], false, false, 1, 1⟩, ⟨[], 1⟩) := rfl
  ⟨hr, rfl, saveBeforeCt_absent _ hr (.inl rfl)⟩

end FrameHeader

end JxlHeaders
