import JxlHeaders.CheckSound
import JxlHeaders.TocSound

/-!
# What a decoded frame header satisfies

Every header `FrameHeader.read` returns is `Valid` (`FrameHeader.read_valid`); header and
TOC decoding obey the prefix laws (`read_prefixLaws`); a leading `all_default` bit yields
the defaults after one bit (`FrameHeader.read_allDefault`).
-/

namespace JxlHeaders

namespace FrameHeader

structure Valid (ns : FrameHeaderNonserialized) (h : FrameHeader) extends FieldsValid ns h :
    Prop where
  numDs_lt : h.passes.numDs < h.passes.numPasses
  check_ok : h.check ns = .ok ()
  numTocEntries_isSome : h.numTocEntries.isSome

theorem numTocEntries_isSome_of {h : FrameHeader} (hj : ∀ c ∈ h.jpegUpsampling.toList, c ≤ 3)
    (hg : h.groupSizeShift ≤ 3) : h.numTocEntries.isSome := by
  rw [numTocEntries_eq h hj hg]
  rfl

theorem read_all_valid (ns : FrameHeaderNonserialized) : (read ns).All (Valid ns) := by
  refine .of_bind fun _ => (readFields_valid ns).bind fun h hf => ?_
  refine (liftExcept_all (Q := fun _ => h.check ns = .ok ()) fun _ hc => hc).bind fun _ hc => ?_
  exact ⟨hf, (check_ok_iff.mp hc).2, hc,
    numTocEntries_isSome_of hf.jpegUpsampling_le hf.groupSizeShift_le⟩

theorem read_valid (ns : FrameHeaderNonserialized) {br br' : BitReader} {h : FrameHeader}
    (hr : (read ns).run br = .ok (h, br')) : Valid ns h :=
  (read_all_valid ns).run hr

/-- A 26-bit regular frame, every field on the wire at its default. -/
theorem read_valid_regular :
    (read ⟨true, 0, [], false, false, 1, 1⟩).run (.start [false, false, false, false, false,
      false, false, false, true, true, false, false, true, false, false, false, false, false,
      false, true, false, false, false, true, false, false]) =
      .ok ({ defaults ⟨true, 0, [], false, false, 1, 1⟩ with allDefault := false }, ⟨[], 26⟩) ∧
    Valid ⟨true, 0, [], false, false, 1, 1⟩
      { defaults ⟨true, 0, [], false, false, 1, 1⟩ with allDefault := false } :=
  have hr : (read ⟨true, 0, [], false, false, 1, 1⟩).run (.start [false, false, false, false,
      false, false, false, false, true, true, false, false, true, false, false, false, false,
      false, false, true, false, false, false, true, false, false]) =
      .ok ({ defaults ⟨true, 0, [], false, false, 1, 1⟩ with allDefault := false }, ⟨[], 26⟩) :=
    rfl
  ⟨hr, read_valid _ hr⟩

/-! ## The `all_default` shortcut -/

theorem readFields_allDefault (ns : FrameHeaderNonserialized) (rest : List Bool) (pos : Nat) :
    (readFields ns).run ⟨true :: rest, pos⟩ = .ok (defaults ns, ⟨rest, pos + 1⟩) := by
  rw [readFields, Prog.bind_eq, Prog.run_bind_ok (readBool_run true rest pos)]
  rfl

theorem read_allDefault (ns : FrameHeaderNonserialized) (pad rest : List Bool) (pos : Nat)
    (hpad : pad.length = (8 - pos % 8) % 8) :
    (read ns).run ⟨pad ++ true :: rest, pos⟩ = .ok (defaults ns, ⟨rest, pos + pad.length + 1⟩) := by
  rw [read, Prog.bind_eq, Prog.run_bind_ok (jumpToByteBoundary_run pad _ pos hpad), Prog.bind_eq,
    Prog.run_bind_ok (readFields_allDefault ns rest _)]
  rfl

theorem read_allDefault_unaligned :
    (5 : Nat) = (8 - 3 % 8) % 8 ∧
    (read ⟨false, 2, [⟨0⟩, ⟨1⟩], true, true, 640, 480⟩).run
        ⟨[false, false, false, false, false] ++ true :: [false, true], 3⟩ =
      .ok (defaults ⟨false, 2, [⟨0⟩, ⟨1⟩], true, true, 640, 480⟩, ⟨[false, true], 3 + 5 + 1⟩) :=
  ⟨rfl, read_allDefault _ [false, false, false, false, false] _ 3 rfl⟩

end FrameHeader

/-! ## Prefix laws -/

theorem read_prefixLaws (ns : FrameHeaderNonserialized) (tns : TocNonserialized) :
    PrefixLaws (FrameHeader.read ns) ∧ PrefixLaws (Toc.read tns) :=
  ⟨prefixLaws _, prefixLaws _⟩

end JxlHeaders
