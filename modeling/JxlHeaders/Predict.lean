import Mathlib.Data.UInt

/-!
# Modular predictors

`predict.rs` names the fourteen predictors of the modular mode by their wire codes
(`#[repr(u8)]`), and converts a decoded `u32` to a predictor with `TryFrom<u32>`,
rejecting every code without a variant as `Error::InvalidPredictor`.
-/

namespace JxlHeaders

inductive Predictor where
  | zero
  | west
  | north
  | averageWestAndNorth
  | select
  | gradient
  | weighted
  | northEast
  | northWest
  | westWest
  | averageWestAndNorthWest
  | averageNorthAndNorthWest
  | averageNorthAndNorthEast
  | averageAll
  deriving DecidableEq, Repr

namespace Predictor

def toU32 : Predictor → UInt32
  | zero => 0
  | west => 1
  | north => 2
  | averageWestAndNorth => 3
  | select => 4
  | gradient => 5
  | weighted => 6
  | northEast => 7
  | northWest => 8
  | westWest => 9
  | averageWestAndNorthWest => 10
  | averageNorthAndNorthWest => 11
  | averageNorthAndNorthEast => 12
  | averageAll => 13

def fromU32 (u : UInt32) : Option Predictor :=
  match u.toNat with
  | 0 => some zero
  | 1 => some west
  | 2 => some north
  | 3 => some averageWestAndNorth
  | 4 => some select
  | 5 => some gradient
  | 6 => some weighted
  | 7 => some northEast
  | 8 => some northWest
  | 9 => some westWest
  | 10 => some averageWestAndNorthWest
  | 11 => some averageNorthAndNorthWest
  | 12 => some averageNorthAndNorthEast
  | 13 => some averageAll
  | _ => none

inductive Error where
  | invalidPredictor (value : UInt32)
  deriving DecidableEq, Repr

def tryFrom (value : UInt32) : Except Error Predictor :=
  match fromU32 value with
  | some p => .ok p
  | none => .error (.invalidPredictor value)

def numPredictors : UInt32 := averageAll.toU32 + 1

end Predictor

end JxlHeaders
