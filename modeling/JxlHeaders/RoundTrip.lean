import JxlHeaders.CoderSound

/-!
# Writers, and decoding what they write

A writer for each coder, and the acceptance half of the round trip: every value a coder
can produce is decoded back from the writer's bits, whatever follows them (`Encodes`).
-/

namespace JxlHeaders

/-- `p` reads `bs`, followed by any bits, to `a`, consuming exactly `bs`. -/
def Encodes {α : Type} (p : Prog α) (bs : List Bool) (a : α) : Prop :=
  ∀ rest pos, p.run ⟨bs ++ rest, pos⟩ = .ok (a, ⟨rest, pos + bs.length⟩)

namespace Encodes

variable {α β : Type}

theorem pure (a : α) : Encodes (.pure a) [] a := fun _ _ => rfl

theorem bind {p : Prog α} {f : α → Prog β} {bs bs' : List Bool} {a : α} {b : β}
    (hp : Encodes p bs a) (hf : Encodes (f a) bs' b) : Encodes (p.bind f) (bs ++ bs') b := by
  intro rest pos
  rw [List.append_assoc, Prog.run_bind_ok (hp _ pos), hf rest _, List.length_append,
    Nat.add_assoc]

theorem readBits {n v : Nat} (hv : v < 2 ^ n) : Encodes (readBits n) (natBits n v) v := by
  intro rest pos
  rw [readBits_natBits, Nat.mod_eq_of_lt hv, natBits_length]

theorem readBool (b : Bool) : Encodes readBool [b] b := fun rest pos => readBool_run b rest pos

theorem bind_pure {p : Prog α} {bs : List Bool} {a : α} (hp : Encodes p bs a) (g : α → β) :
    Encodes (p.bind fun a => .pure (g a)) bs (g a) := by
  simpa using hp.bind (f := fun a => .pure (g a)) (Encodes.pure (g a))

theorem readVector {read : Prog α} {w : α → List Bool} :
    ∀ {l : List α}, (∀ a ∈ l, Encodes read (w a) a) →
      Encodes (JxlHeaders.readVector read l.length) (l.flatMap w) l
  | [], _ => Encodes.pure []
  | a :: l, h => by
    rw [List.flatMap_cons]
    exact (h a (List.mem_cons_self a l)).bind
      ((readVector fun b hb => h b (List.mem_cons_of_mem a hb)).bind_pure _)

theorem readArray {read : Prog α} {w : α → List Bool} :
    ∀ {n : Nat} {v : Mathlib.Vector α n}, (∀ a ∈ v.toList, Encodes read (w a) a) →
      Encodes (JxlHeaders.readArray read n) (v.toList.flatMap w) v
  | 0, ⟨[], _⟩, _ => Encodes.pure _
  | n + 1, ⟨a :: l, hl⟩, h => by
    have hv := readArray (n := n) (v := ⟨l, Nat.succ.inj hl⟩)
      fun b hb => h b (List.mem_cons_of_mem a hb)
    rw [Mathlib.Vector.toList_mk, List.flatMap_cons]
    exact (h a (List.mem_cons_self a l)).bind (hv.bind_pure _)

theorem readEnum {c : U32Coder} {fromU32 : UInt32 → Option α} {tag : String} {bs : List Bool}
    {u : UInt32} {t : α} (hc : Encodes c.read bs u) (ht : fromU32 u = some t) :
    Encodes (JxlHeaders.readEnum c fromU32 tag) bs t := by
  rw [← List.append_nil bs]
  refine hc.bind ?_
  simp only [ht]
  exact Encodes.pure t

end Encodes

/-! ## Fields under a condition -/

section Fields

variable {α : Type}

def FieldOk (cond : Bool) (default : α) (P : α → Prop) (a : α) : Prop :=
  if cond then P a else a = default

def SeqOk (cond : Bool) (len : Nat) (default : α) (P : α → Prop) (l : List α) : Prop :=
  if cond then l.length = len ∧ ∀ a ∈ l, P a else l = List.replicate len default

def writeDefaulted (cond : Bool) (w : α → List Bool) (a : α) : List Bool :=
  if cond then w a else []

def writeDefaultedElement (cond : Bool) (w : α → List Bool) (l : List α) : List Bool :=
  if cond then l.flatMap w else []

variable {cond : Bool} {default : α} {P : α → Prop} {read : Prog α} {w : α → List Bool}

theorem readDefaulted_fieldOk (h : read.All P) :
    (readDefaulted cond default read).All (FieldOk cond default P) := by
  cases cond
  · exact (rfl : default = default)
  · exact h

theorem readDefaultedElement_seqOk {len : Nat} (h : read.All P) :
    (readDefaultedElement cond len default read).All (SeqOk cond len default P) := by
  cases cond
  · exact (rfl : List.replicate len default = _)
  · exact readVector_all h len

theorem Encodes.readDefaulted {a : α} (hw : ∀ a, P a → Encodes read (w a) a)
    (h : FieldOk cond default P a) :
    Encodes (JxlHeaders.readDefaulted cond default read) (writeDefaulted cond w a) a := by
  cases cond
  · obtain rfl : a = default := h
    exact Encodes.pure a
  · exact hw a h

theorem Encodes.readDefaultedElement {len : Nat} {l : List α}
    (hw : ∀ a, P a → Encodes read (w a) a) (h : SeqOk cond len default P l) :
    Encodes (JxlHeaders.readDefaultedElement cond len default read)
      (writeDefaultedElement cond w l) l := by
  cases cond
  · obtain rfl : l = _ := h
    exact Encodes.pure _
  · obtain ⟨rfl, hP⟩ := h
    exact Encodes.readVector fun a ha => hw a (hP a ha)

end Fields

/-! ## Selector-coded integers -/

def U32.fits : U32 → UInt32 → Bool
  | .bits n, v => decide (v.toNat < 2 ^ n)
  | .bitsOffset n off, v => decide ((v - off).toNat < 2 ^ n)
  | .val c, v => v == c

def U32.write : U32 → UInt32 → List Bool
  | .bits n, v => natBits n v.toNat
  | .bitsOffset n off, v => natBits n (v - off).toNat
  | .val _, _ => []

theorem U32.fits_of_values {u : U32} {v : UInt32} (h : u.Values v) : u.fits v = true := by
  cases u with
  | bits n =>
    obtain ⟨x, hx, rfl⟩ := h
    simp only [U32.fits, decide_eq_true_eq, u32_toNat_ofNat_mod]
    exact Nat.lt_of_le_of_lt (Nat.mod_le x _) hx
  | bitsOffset n off =>
    obtain ⟨x, hx, rfl⟩ := h
    simp only [U32.fits, add_sub_cancel_right, decide_eq_true_eq, u32_toNat_ofNat_mod]
    exact Nat.lt_of_le_of_lt (Nat.mod_le x _) hx
  | val c =>
    simp only [U32.Values] at h
    simp [U32.fits, h]

theorem U32.values_of_fits {u : U32} {v : UInt32} (h : u.fits v = true) : u.Values v := by
  cases u with
  | bits n => exact ⟨v.toNat, by simpa [U32.fits] using h, (u32_ofNat_toNat v).symm⟩
  | bitsOffset n off =>
    exact ⟨(v - off).toNat, by simpa [U32.fits] using h, by rw [u32_ofNat_toNat, sub_add_cancel]⟩
  | val c => simpa [U32.fits] using h

def U32Coder.fits : U32Coder → UInt32 → Bool
  | .direct u, v => u.fits v
  | .select u0 u1 u2 u3, v => u0.fits v || u1.fits v || u2.fits v || u3.fits v

theorem U32Coder.values_iff_fits {c : U32Coder} {v : UInt32} : c.Values v ↔ c.fits v = true := by
  have h (u : U32) : u.Values v ↔ u.fits v = true := ⟨U32.fits_of_values, U32.values_of_fits⟩
  cases c with
  | direct u => exact h u
  | select u0 u1 u2 u3 => simp only [U32Coder.Values, U32Coder.fits, Bool.or_eq_true, h, or_assoc]

instance (c : U32Coder) (v : UInt32) : Decidable (c.Values v) :=
  decidable_of_iff _ U32Coder.values_iff_fits.symm

theorem U32.encodes_write {u : U32} {v : UInt32} (h : u.fits v = true) :
    Encodes u.read (u.write v) v := by
  cases u with
  | bits n =>
    have := (Encodes.readBits (v := v.toNat) (by simpa [U32.fits] using h)).bind_pure
      UInt32.ofNat
    rwa [u32_ofNat_toNat] at this
  | bitsOffset n off =>
    have := (Encodes.readBits (v := (v - off).toNat) (by simpa [U32.fits] using h)).bind_pure
      (UInt32.ofNat · + off)
    rwa [u32_ofNat_toNat, sub_add_cancel] at this
  | val c =>
    have hv : v = c := by simpa [U32.fits] using h
    subst hv
    exact Encodes.pure _

def U32Coder.write : U32Coder → UInt32 → List Bool
  | .direct u, v => u.write v
  | .select u0 u1 u2 u3, v =>
    if u0.fits v then natBits 2 0 ++ u0.write v
    else if u1.fits v then natBits 2 1 ++ u1.write v
    else if u2.fits v then natBits 2 2 ++ u2.write v
    else natBits 2 3 ++ u3.write v

theorem U32Coder.encodes_select (u0 u1 u2 u3 : U32) {s : Nat} (hs : s < 4) {v : UInt32}
    (h : (U32Coder.pick u0 u1 u2 u3 s).fits v = true) :
    Encodes (U32Coder.select u0 u1 u2 u3).read
      (natBits 2 s ++ (U32Coder.pick u0 u1 u2 u3 s).write v) v :=
  (Encodes.readBits (show s < 2 ^ 2 from hs)).bind (U32.encodes_write h)

theorem U32Coder.encodes_write {c : U32Coder} {v : UInt32} (h : c.Values v) :
    Encodes c.read (c.write v) v := by
  cases c with
  | direct u => exact U32.encodes_write (U32.fits_of_values h)
  | select u0 u1 u2 u3 =>
    simp only [U32Coder.write]
    split
    · exact U32Coder.encodes_select u0 u1 u2 u3 (s := 0) (by decide) ‹_›
    split
    · exact U32Coder.encodes_select u0 u1 u2 u3 (s := 1) (by decide) ‹_›
    split
    · exact U32Coder.encodes_select u0 u1 u2 u3 (s := 2) (by decide) ‹_›
    refine U32Coder.encodes_select u0 u1 u2 u3 (s := 3) (by decide) (U32.fits_of_values ?_)
    rcases h with h | h | h | h <;> first | exact h | exact absurd (U32.fits_of_values h) ‹_›

end JxlHeaders
