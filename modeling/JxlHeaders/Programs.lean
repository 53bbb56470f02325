import JxlHeaders.BitReader

/-!
# What every decoding program satisfies

A run depends only on the bits it reads, so appending bits keeps every success and
every format error; the prefix laws follow (`prefixLaws`). Invariants of decoded
records are proved with `Prog.All`, one bind at a time.
-/

namespace JxlHeaders

def BitReader.append (br : BitReader) (ext : List Bool) : BitReader := ⟨br.rest ++ ext, br.pos⟩

theorem BitReader.read_some {br br' : BitReader} {n v : Nat} (h : br.read n = some (v, br')) :
    n ≤ br.rest.length ∧ v = bitsValue (br.rest.take n) ∧ br' = ⟨br.rest.drop n, br.pos + n⟩ := by
  unfold BitReader.read at h
  split at h
  · cases h; exact ⟨‹_›, rfl, rfl⟩
  · cases h

theorem BitReader.read_none {br : BitReader} {n : Nat} (h : br.read n = none) :
    br.rest.length < n := by
  unfold BitReader.read at h
  split at h
  · cases h
  · omega

theorem BitReader.read_append {br br' : BitReader} {n v : Nat} (h : br.read n = some (v, br'))
    (ext : List Bool) : (br.append ext).read n = some (v, br'.append ext) := by
  obtain ⟨hn, rfl, rfl⟩ := BitReader.read_some h
  simp [BitReader.read, BitReader.append, List.take_append_of_le_length hn,
    List.drop_append_of_le_length hn, show n ≤ br.rest.length + ext.length by omega]

theorem bitsValue_take_lt {l : List Bool} {n : Nat} (hn : n ≤ l.length) :
    bitsValue (l.take n) < 2 ^ n := by
  simpa [List.length_take_of_le hn] using bitsValue_lt (l.take n)

namespace Prog

variable {α β : Type}

theorem run_read_inv {n : Nat} {k : Nat → Prog α} {br : BitReader}
    {r : Except Error (α × BitReader)} (h : (Prog.read n k).run br = r) :
    (n ≤ br.rest.length ∧
        (k (bitsValue (br.rest.take n))).run ⟨br.rest.drop n, br.pos + n⟩ = r) ∨
      (br.rest.length < n ∧ r = .error .truncation) := by
  rw [run_read, BitReader.read] at h
  by_cases hn : n ≤ br.rest.length
  · rw [if_pos hn] at h
    exact .inl ⟨hn, h⟩
  · rw [if_neg hn] at h
    exact .inr ⟨by omega, h.symm⟩

/-! ## Runs depend only on the bits they read -/

theorem run_ok_split (p : Prog α) {br br' : BitReader} {a : α} (h : p.run br = .ok (a, br')) :
    ∃ c, br.rest = c ++ br'.rest ∧ br'.pos = br.pos + c.length ∧
      ∀ r, p.run ⟨c ++ r, br.pos⟩ = .ok (a, ⟨r, br'.pos⟩) := by
  induction p generalizing br with
  | pure a' =>
    cases h
    exact ⟨[], rfl, rfl, fun r => rfl⟩
  | fail e => cases h
  | read n k ih =>
    obtain ⟨hn, h⟩ | ⟨-, ⟨⟩⟩ := run_read_inv h
    · obtain ⟨c, hc, hpos, hrun⟩ := ih _ h
      have hlen : (br.rest.take n).length = n := List.length_take_of_le hn
      refine ⟨br.rest.take n ++ c, ?_, ?_, fun r => ?_⟩
      · rw [List.append_assoc, ← hc, List.take_append_drop]
      · simp only [hpos, List.length_append, hlen]; omega
      · have hread' : BitReader.read ⟨br.rest.take n ++ c ++ r, br.pos⟩ n =
            some (bitsValue (br.rest.take n), ⟨c ++ r, br.pos + n⟩) := by
          simp [BitReader.read, List.append_assoc, List.take_append_of_le_length, hlen,
            List.drop_append_of_le_length]
        rw [run_read, hread']
        exact hrun r
  | tell k ih =>
    obtain ⟨c, hc, hpos, hrun⟩ := ih br.pos h
    exact ⟨c, hc, hpos, fun r => hrun r⟩

theorem run_ok_append (p : Prog α) {br br' : BitReader} {a : α} (h : p.run br = .ok (a, br'))
    (ext : List Bool) : p.run (br.append ext) = .ok (a, br'.append ext) := by
  obtain ⟨c, hc, -, hrun⟩ := p.run_ok_split h
  simpa [BitReader.append, hc] using hrun (br'.rest ++ ext)

theorem run_error_append (p : Prog α) {br : BitReader} {e : Error} (h : p.run br = .error e)
    (he : e ≠ .truncation) (ext : List Bool) : p.run (br.append ext) = .error e := by
  induction p generalizing br with
  | pure a => cases h
  | fail e' => exact h
  | read n k ih =>
    rw [run_read] at h ⊢
    split at h
    · rename_i v br₁ hread
      rw [BitReader.read_append hread]
      exact ih v h
    · cases h; exact absurd rfl he
  | tell k ih => exact ih br.pos h

end Prog

/-! ## Decoding a bit string and its prefixes -/

/-- A success on `b` after `n` bits is the same success on a prefix `q` holding those
bits and a truncation otherwise; a format error on either is kept on the other, or
truncated on `q`. -/
def PrefixLaws {α : Type} (p : Prog α) : Prop :=
  ∀ b q : List Bool, q <+: b →
    (∀ a br', p.run (.start b) = .ok (a, br') →
      (br'.pos ≤ q.length → p.run (.start q) = .ok (a, ⟨q.drop br'.pos, br'.pos⟩)) ∧
      (q.length < br'.pos → p.run (.start q) = .error .truncation)) ∧
    (∀ e, p.run (.start b) = .error e → e ≠ .truncation →
      p.run (.start q) = .error e ∨ p.run (.start q) = .error .truncation) ∧
    (∀ e, p.run (.start q) = .error e → e ≠ .truncation → p.run (.start b) = .error e)

theorem prefixLaws {α : Type} (p : Prog α) : PrefixLaws p := by
  rintro b q ⟨ext, rfl⟩
  have happ : BitReader.start (q ++ ext) = (BitReader.start q).append ext := rfl
  refine ⟨fun a br' hb => ⟨fun hle => ?_, fun hlt => ?_⟩, fun e hb he => ?_,
    fun e hq he => by rw [happ]; exact p.run_error_append hq he ext⟩
  · obtain ⟨c, hc, hpos, hrun⟩ := p.run_ok_split hb
    simp only [BitReader.start, Nat.zero_add] at hc hpos hrun
    obtain ⟨q₂, rfl⟩ : c <+: q :=
      List.prefix_of_prefix_length_le ⟨_, hc.symm⟩ (List.prefix_append q ext) (by omega)
    simpa [hpos] using hrun q₂
  · cases hq : p.run (.start q) with
    | error e =>
      by_cases he : e = .truncation
      · rw [he]
      · rw [happ, p.run_error_append hq he] at hb; cases hb
    | ok res =>
      obtain ⟨a', br''⟩ := res
      obtain ⟨c', hc', hpos', -⟩ := p.run_ok_split hq
      rw [happ, p.run_ok_append hq] at hb
      cases hb
      have := congrArg List.length hc'
      simp only [BitReader.start, BitReader.append, List.length_append, Nat.zero_add] at this hpos' hlt
      omega
  · cases hq : p.run (.start q) with
    | error e' =>
      by_cases he' : e' = .truncation
      · exact .inr (by rw [he'])
      · rw [happ, p.run_error_append hq he'] at hb
        exact .inl (by rw [hb])
    | ok res => rw [happ, p.run_ok_append hq] at hb; cases hb

/-! ## Every value a program returns -/

namespace Prog

variable {α β : Type}

def All (Q : α → Prop) : Prog α → Prop
  | .pure a => Q a
  | .fail _ => True
  | .read n k => ∀ v, v < 2 ^ n → (k v).All Q
  | .tell k => ∀ p, (k p).All Q

theorem All.run {Q : α → Prop} {p : Prog α} (hp : p.All Q) {br br' : BitReader} {a : α}
    (h : p.run br = .ok (a, br')) : Q a := by
  induction p generalizing br with
  | pure a' => cases h; exact hp
  | fail e => cases h
  | read n k ih =>
    obtain ⟨hn, h⟩ | ⟨-, ⟨⟩⟩ := run_read_inv h
    exact ih _ (hp _ (bitsValue_take_lt hn)) h
  | tell k ih => exact ih _ (hp _) h

theorem All.bind {P : α → Prop} {Q : β → Prop} {p : Prog α} {f : α → Prog β} (hp : p.All P)
    (hf : ∀ a, P a → (f a).All Q) : (p.bind f).All Q := by
  induction p with
  | pure a => exact hf a hp
  | fail e => trivial
  | read n k ih => exact fun v hv => ih v (hp v hv)
  | tell k ih => exact fun q => ih q (hp q)

theorem All.imp {P Q : α → Prop} {p : Prog α} (hp : p.All P) (h : ∀ a, P a → Q a) : p.All Q := by
  induction p with
  | pure a => exact h a hp
  | fail e => trivial
  | read n k ih => exact fun v hv => ih v (hp v hv)
  | tell k ih => exact fun q => ih q (hp q)

theorem All.and {P Q : α → Prop} {p : Prog α} (hP : p.All P) (hQ : p.All Q) :
    p.All fun a => P a ∧ Q a := by
  induction p with
  | pure a => exact ⟨hP, hQ⟩
  | fail e => trivial
  | read n k ih => exact fun v hv => ih v (hP v hv) (hQ v hv)
  | tell k ih => exact fun q => ih q (hP q) (hQ q)

theorem all_of_forall {Q : α → Prop} (h : ∀ a, Q a) : ∀ p : Prog α, p.All Q
  | .pure a => h a
  | .fail _ => trivial
  | .read _ k => fun v _ => all_of_forall h (k v)
  | .tell k => fun q => all_of_forall h (k q)

theorem All.of_bind {Q : β → Prop} {p : Prog α} {f : α → Prog β} (hf : ∀ a, (f a).All Q) :
    (p.bind f).All Q :=
  (all_of_forall (fun _ => trivial) p).bind (P := fun _ => True) fun a _ => hf a

/-! ## Every failure a program raises -/

def Fails (E : Error → Prop) : Prog α → Prop
  | .pure _ => True
  | .fail e => E e
  | .read n k => ∀ v, v < 2 ^ n → (k v).Fails E
  | .tell k => ∀ p, (k p).Fails E

theorem Fails.run {E : Error → Prop} {p : Prog α} (hp : p.Fails E) {br : BitReader} {e : Error}
    (h : p.run br = .error e) : e = .truncation ∨ E e := by
  induction p generalizing br with
  | pure a => cases h
  | fail e' => cases h; exact .inr hp
  | read n k ih =>
    obtain ⟨hn, h⟩ | ⟨-, h⟩ := run_read_inv h
    · exact ih _ (hp _ (bitsValue_take_lt hn)) h
    · cases h
      exact .inl rfl
  | tell k ih => exact ih _ (hp _) h

theorem Fails.bind {E : Error → Prop} {P : α → Prop} {p : Prog α} {f : α → Prog β}
    (hp : p.All P) (hpf : p.Fails E) (hf : ∀ a, P a → (f a).Fails E) : (p.bind f).Fails E := by
  induction p with
  | pure a => exact hf a hp
  | fail e => exact hpf
  | read n k ih => exact fun v hv => ih v (hp v hv) (hpf v hv)
  | tell k ih => exact fun q => ih q (hp q) (hpf q)

theorem Fails.of_bind {E : Error → Prop} {p : Prog α} {f : α → Prog β} (hpf : p.Fails E)
    (hf : ∀ a, (f a).Fails E) : (p.bind f).Fails E :=
  Fails.bind (P := fun _ => True) (all_of_forall (fun _ => trivial) p) hpf fun a _ => hf a

theorem Fails.mono {E E' : Error → Prop} {p : Prog α} (hp : p.Fails E) (h : ∀ e, E e → E' e) :
    p.Fails E' := by
  induction p with
  | pure a => trivial
  | fail e => exact h e hp
  | read n k ih => exact fun v hv => ih v (hp v hv)
  | tell k ih => exact fun q => ih q (hp q)

end Prog

theorem readBits_all (n : Nat) : (readBits n).All (· < 2 ^ n) := fun _ hv => hv

theorem liftExcept_all {α : Type} {Q : α → Prop} {x : Except Error α}
    (h : ∀ a, x = .ok a → Q a) : (liftExcept x).All Q := by
  cases x with
  | ok a => exact h a rfl
  | error e => trivial

theorem readBits_fails (E : Error → Prop) (n : Nat) : (readBits n).Fails E := fun _ _ => trivial

theorem liftExcept_fails {α : Type} {E : Error → Prop} {x : Except Error α}
    (h : ∀ e, x = .error e → E e) : (liftExcept x).Fails E := by
  cases x with
  | ok a => trivial
  | error e => exact h e rfl

end JxlHeaders
