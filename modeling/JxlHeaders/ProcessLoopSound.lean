import JxlHeaders.Cli

/-!
# The process loop

The loop `decode_jxl` runs around each `process` call ends as one of its calls ends on
its own (`processLoop_outcome`), and finishes when every call that asks for more input
consumes a byte (`processLoop_terminates`).
-/

namespace JxlHeaders.Cli

/-! ## Runs -/

namespace Run

variable {E α β : Type}

def Errs (P : Report E → Prop) (x : Run E α) : Prop := ∀ r, x = err r → P r

theorem errs_ok (P : Report E → Prop) (a : α) : (ok a : Run E α).Errs P := fun _ h => nomatch h

theorem errs_panic (P : Report E → Prop) : (panic : Run E α).Errs P := fun _ h => nomatch h

theorem Errs.bind {P : Report E → Prop} {x : Run E α} {f : α → Run E β} (hx : x.Errs P)
    (hf : ∀ a, x = ok a → (f a).Errs P) : (x >>= f).Errs P := by
  intro r h
  cases x with
  | ok a => exact hf a rfl r h
  | err e => exact (Run.err.inj h) ▸ hx e rfl
  | panic => cases h
  | outOfFuel => cases h

theorem bind_eq_ok {x : Run E α} {f : α → Run E β} {b : β} :
    (x >>= f) = ok b ↔ ∃ a, x = ok a ∧ f a = ok b := by
  cases x <;> simp

theorem bind_ne_outOfFuel {x : Run E α} {f : α → Run E β} (hx : x ≠ outOfFuel)
    (hf : ∀ a, x = ok a → f a ≠ outOfFuel) : (x >>= f) ≠ outOfFuel := by
  cases x with
  | ok a => exact hf a rfl
  | outOfFuel => exact absurd rfl hx
  | _ => simp

theorem bind_congr {x x' : Run E α} {f f' : α → Run E β} (h : (x >>= f) ≠ outOfFuel)
    (hx : x ≠ outOfFuel → x' = x) (hf : ∀ a, x = ok a → f a ≠ outOfFuel → f' a = f a) :
    (x' >>= f') = (x >>= f) := by
  cases x with
  | ok a => rw [hx (by simp)]; exact hf a rfl h
  | outOfFuel => exact absurd rfl h
  | _ => rw [hx (by simp)]; rfl

end Run

/-! ## The loop -/

section

variable {E D R : Type} (process : Process E D R)

theorem processLoop_succ_eq {fuel : Nat} {d : D} {input : List UInt8} :
    processLoop process (fuel + 1) d input =
      match process d input with
      | .error _ => .panic
      | .ok (.complete result, n) => .ok (result, input.drop n)
      | .ok (.needsMoreInput fallback, n) =>
        if (input.drop n).isEmpty then .err (.msg .sourceFileTruncated)
        else processLoop process fuel fallback (input.drop n) := rfl

theorem processLoop_ok {P : D → Prop}
    (hfb : ∀ d input fallback n, P d →
      process d input = .ok (.needsMoreInput fallback, n) → P fallback) :
    ∀ {fuel d input r rest}, P d → processLoop process fuel d input = .ok (r, rest) →
      ∃ d' input' n, P d' ∧ input'.length ≤ input.length ∧
        process d' input' = .ok (.complete r, n) ∧ rest = input'.drop n
  | 0, _, _, _, _, _, h => nomatch h
  | fuel + 1, d, input, r, rest, hd, h => by
    rw [processLoop_succ_eq] at h
    rcases hc : process d input with _ | ⟨_ | fallback, n⟩ <;> simp only [hc] at h
    · cases h
    · cases h
      exact ⟨d, input, _, hd, le_rfl, hc, rfl⟩
    · split_ifs at h
      obtain ⟨d', input', n', hd', hl, hc', hr⟩ :=
        processLoop_ok hfb (hfb d input fallback n hd hc) h
      exact ⟨d', input', n', hd', hl.trans (by simp), hc', hr⟩

theorem processLoop_ok_last {fuel : Nat} {d : D} {input rest : List UInt8} {r : R}
    (h : processLoop process fuel d input = .ok (r, rest)) :
    ∃ d' input' n, input'.length ≤ input.length ∧
      process d' input' = .ok (.complete r, n) ∧ rest = input'.drop n :=
  have ⟨d', input', n, _, h⟩ :=
    processLoop_ok process (P := fun _ => True) (fun _ _ _ _ _ _ => trivial) trivial h
  ⟨d', input', n, h⟩

theorem processLoop_rest_length {fuel : Nat} {d : D} {input rest : List UInt8} {r : R}
    (h : processLoop process fuel d input = .ok (r, rest)) : rest.length ≤ input.length := by
  obtain ⟨_, _, _, hl, -, rfl⟩ := processLoop_ok_last process h
  simp only [List.length_drop]
  omega

theorem processLoop_errs : ∀ (fuel : Nat) (d : D) (input : List UInt8),
    (processLoop process fuel d input).Errs (· = .msg .sourceFileTruncated)
  | 0, _, _ => fun _ h => nomatch h
  | fuel + 1, d, input => by
    rw [processLoop_succ_eq]
    rcases process d input with _ | ⟨_ | fallback, n⟩ <;> dsimp only
    · exact Run.errs_panic _
    · exact Run.errs_ok _ _
    · split_ifs
      · intro r h; cases h; rfl
      · exact processLoop_errs fuel fallback _

theorem processLoop_succ : ∀ {fuel : Nat} {d : D} {input : List UInt8},
    processLoop process fuel d input ≠ .outOfFuel →
      processLoop process (fuel + 1) d input = processLoop process fuel d input
  | 0, _, _, h => absurd rfl h
  | fuel + 1, d, input, h => by
    rw [processLoop_succ_eq] at h ⊢
    rw [processLoop_succ_eq]
    rcases hc : process d input with _ | ⟨_ | fallback, n⟩ <;> simp only [hc] at h ⊢
    split_ifs at h ⊢
    · rfl
    · exact processLoop_succ h

theorem processLoop_mono {fuel fuel' : Nat} {d : D} {input : List UInt8}
    (h : processLoop process fuel d input ≠ .outOfFuel) (hle : fuel ≤ fuel') :
    processLoop process fuel' d input = processLoop process fuel d input := by
  obtain ⟨k, rfl⟩ := Nat.exists_eq_add_of_le hle
  induction k with
  | zero => rfl
  | succ k ih =>
    rw [← Nat.add_assoc, processLoop_succ process (ih (by omega) ▸ h), ih (by omega)]

def Progress : Prop :=
  ∀ d input fallback n, process d input = .ok (.needsMoreInput fallback, n) →
    input.drop n ≠ [] → 0 < n

theorem processLoop_ne_outOfFuel (hp : Progress process) :
    ∀ {fuel : Nat} {d : D} {input : List UInt8}, input.length < fuel →
      processLoop process fuel d input ≠ .outOfFuel
  | 0, _, _, h => absurd h (Nat.not_lt_zero _)
  | fuel + 1, d, input, h => by
    rw [processLoop_succ_eq]
    rcases hc : process d input with _ | ⟨_ | fallback, n⟩
    · simp
    · simp
    · simp only
      split_ifs with he
      · simp
      · have hne : input.drop n ≠ [] := by simpa using he
        have := hp d input fallback n hc hne
        have hl := List.length_pos.mpr hne
        simp only [List.length_drop] at hl
        exact processLoop_ne_outOfFuel hp (by simp only [List.length_drop]; omega)

theorem processLoop_terminates (hp : Progress process) (d : D) (input : List UInt8) :
    ∃ r, r ≠ .outOfFuel ∧
      ∀ fuel, input.length < fuel → processLoop process fuel d input = r :=
  have h := processLoop_ne_outOfFuel process hp (Nat.lt_succ_self input.length) (d := d)
  ⟨_, h, fun _ hf => processLoop_mono process h hf⟩

/-- A decoder that asks for more input and consumes none of it never finishes the loop. -/
theorem processLoop_spins {d : D} {input : List UInt8}
    (h : process d input = .ok (.needsMoreInput d, 0)) (hne : input ≠ []) :
    ∀ fuel, processLoop process fuel d input = .outOfFuel
  | 0 => rfl
  | fuel + 1 => by
    rw [processLoop_succ_eq, h]
    simpa [hne] using processLoop_spins h hne fuel

/-! ## The calls of a loop -/

/-- The calls the loop makes: its first, and those after a call that asks for more
input and leaves some. -/
inductive Calls : D → List UInt8 → D → List UInt8 → Prop
  | first (d : D) (input : List UInt8) : Calls d input d input
  | next {d fallback d' : D} {input input' : List UInt8} {n : Nat} :
    process d input = .ok (.needsMoreInput fallback, n) → input.drop n ≠ [] →
      Calls fallback (input.drop n) d' input' → Calls d input d' input'

theorem processLoop_succ_error {fuel : Nat} {d : D} {input : List UInt8} {e : E}
    (hc : process d input = .error e) : processLoop process (fuel + 1) d input = .panic := by
  simp only [processLoop_succ_eq, hc]

theorem processLoop_succ_truncated {fuel : Nat} {d fallback : D} {input : List UInt8} {n : Nat}
    (hc : process d input = .ok (.needsMoreInput fallback, n)) (he : input.drop n = []) :
    processLoop process (fuel + 1) d input = .err (.msg .sourceFileTruncated) := by
  simp only [processLoop_succ_eq, hc, he, List.isEmpty_nil, if_true]

theorem processLoop_succ_continue {fuel : Nat} {d fallback : D} {input : List UInt8} {n : Nat}
    (hc : process d input = .ok (.needsMoreInput fallback, n)) (hne : input.drop n ≠ []) :
    processLoop process (fuel + 1) d input = processLoop process fuel fallback (input.drop n) := by
  simp only [processLoop_succ_eq, hc, List.isEmpty_iff, hne, if_false]

theorem processLoop_of_calls {d d' : D} {input input' : List UInt8}
    (hc : Calls process d input d' input') {fuel : Nat}
    (h : processLoop process fuel d input ≠ .outOfFuel) :
    ∃ fuel', processLoop process fuel d input = processLoop process (fuel' + 1) d' input' := by
  obtain _ | fuel := fuel
  · exact absurd rfl h
  induction hc generalizing fuel with
  | first => exact ⟨fuel, rfl⟩
  | next hc hne _ ih =>
    rw [processLoop_succ_continue process hc hne] at h ⊢
    obtain _ | fuel := fuel
    · exact absurd rfl h
    exact ih fuel h

/-- A finished loop ends as the last call it makes ends when run on its own. -/
theorem processLoop_last : ∀ {fuel : Nat} {d : D} {input : List UInt8},
    processLoop process fuel d input ≠ .outOfFuel →
      ∃ d' input', Calls process d input d' input' ∧
        processLoop process fuel d input = processLoop process 1 d' input'
  | 0, _, _, h => absurd rfl h
  | fuel + 1, d, input, h => by
    rcases hc : process d input with _ | ⟨_ | fallback, n⟩
    · exact ⟨d, input, .first d input, by simp only [processLoop_succ_eq, hc]⟩
    · exact ⟨d, input, .first d input, by simp only [processLoop_succ_eq, hc]⟩
    by_cases he : input.drop n = []
    · exact ⟨d, input, .first d input, by simp only [processLoop_succ_truncated process hc he]⟩
    · rw [processLoop_succ_continue process hc he] at h ⊢
      obtain ⟨d', input', hcs, e⟩ := processLoop_last h
      exact ⟨d', input', .next hc he hcs, e⟩

/-- A finished loop panics exactly when one of its calls fails, and reports `Source file
truncated` exactly when one asks for more input and leaves none. -/
theorem processLoop_outcome {fuel : Nat} {d : D} {input : List UInt8}
    (h : processLoop process fuel d input ≠ .outOfFuel) :
    (processLoop process fuel d input = .panic ↔
      ∃ d' input' e, Calls process d input d' input' ∧ process d' input' = .error e) ∧
    ∀ r, processLoop process fuel d input = .err r ↔
      r = .msg .sourceFileTruncated ∧ ∃ d' input' fallback n, Calls process d input d' input' ∧
        process d' input' = .ok (.needsMoreInput fallback, n) ∧ input'.drop n = [] := by
  obtain ⟨d', input', hcs, hlast⟩ := processLoop_last process h
  refine ⟨⟨fun hp => ?_, fun ⟨_, _, _, hcs', hc⟩ => ?_⟩, fun r => ⟨fun hr => ?_, ?_⟩⟩
  · rw [hlast, processLoop_succ_eq] at hp
    rcases hc : process d' input' with e | ⟨_ | _, n⟩ <;> simp only [hc, reduceCtorEq] at hp
    · exact ⟨d', input', e, hcs, hc⟩
    · split_ifs at hp
      exact nomatch hp
  · obtain ⟨_, hf⟩ := processLoop_of_calls process hcs' h
    rw [hf, processLoop_succ_error process hc]
  · rw [hlast, processLoop_succ_eq] at hr
    rcases hc : process d' input' with _ | ⟨_ | fallback, n⟩ <;>
      simp only [hc, reduceCtorEq] at hr
    split_ifs at hr with he
    · cases hr
      exact ⟨rfl, d', input', fallback, n, hcs, hc, by simpa using he⟩
    · exact nomatch hr
  · rintro ⟨rfl, _, _, _, _, hcs', hc, hn⟩
    obtain ⟨_, hf⟩ := processLoop_of_calls process hcs' h
    rw [hf, processLoop_succ_truncated process hc hn]

end

def byteProcess : Process Unit Unit Unit := fun _ input =>
  match input with
  | [] => .ok (.needsMoreInput (), 0)
  | b :: _ =>
    if b = 1 then .ok (.needsMoreInput (), 1)
    else if b = 2 then .error ()
    else .ok (.complete (), 1)

theorem byteProcess_progress : Progress byteProcess := by
  rintro _ (_ | ⟨b, _⟩) _ n h hne
  · cases h
    simp at hne
  · simp only [byteProcess] at h
    split_ifs at h <;> cases h
    exact Nat.one_pos

def idleProcess : Process Unit Unit Unit := fun _ _ => .ok (.needsMoreInput (), 0)

theorem processLoop_spins_idle :
    idleProcess () [0] = .ok (.needsMoreInput (), 0) ∧ processLoop idleProcess 64 () [0] = .outOfFuel :=
  ⟨rfl, processLoop_spins idleProcess rfl (List.cons_ne_nil _ _) 64⟩

theorem processLoop_terminates_bytes :
    Progress byteProcess ∧ ∃ r, r ≠ .outOfFuel ∧ ∀ fuel, ([1, 1, 0] : List UInt8).length < fuel →
      processLoop byteProcess fuel () [1, 1, 0] = r :=
  ⟨byteProcess_progress, processLoop_terminates byteProcess byteProcess_progress () [1, 1, 0]⟩

theorem processLoop_outcome_bytes :
    processLoop byteProcess 3 () [1, 2] ≠ .outOfFuel ∧
    (processLoop byteProcess 3 () [1, 2] = .panic ↔
      ∃ d' input' e, Calls byteProcess () [1, 2] d' input' ∧ byteProcess d' input' = .error e) ∧
    ∀ r, processLoop byteProcess 3 () [1, 2] = .err r ↔
      r = .msg .sourceFileTruncated ∧ ∃ d' input' fallback n,
        Calls byteProcess () [1, 2] d' input' ∧
        byteProcess d' input' = .ok (.needsMoreInput fallback, n) ∧ input'.drop n = [] :=
  have h : processLoop byteProcess 3 () [1, 2] ≠ .outOfFuel := fun h => nomatch h
  ⟨h, processLoop_outcome byteProcess h⟩

end JxlHeaders.Cli
