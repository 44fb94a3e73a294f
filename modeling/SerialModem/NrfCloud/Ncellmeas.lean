import Mathlib.Data.Nat.Notation

/-!
# Cells

The cells and neighbors of a measurement, and how many parameters of a
`%NCELLMEAS` notification belong to each.
-/

namespace SerialModem.NrfCloud

structure LteLcCell where
  id : Int
  mcc : Int
  mnc : Int
  tac : Int
  timingAdvance : Int
  timingAdvanceMeasTime : Int
  earfcn : Int
  physCellId : Int
  rsrp : Int
  rsrq : Int
  measurementTime : Int
  deriving DecidableEq

structure LteLcNcell where
  earfcn : Int
  physCellId : Int
  rsrp : Int
  rsrq : Int
  timeDiff : Int
  deriving DecidableEq

def lteLcCellEutranIdInvalid : Int := 4294967295

def lteLcCellEutranIdMax : Int := 268435455

def zeroCell : LteLcCell := ⟨0, 0, 0, 0, 0, 0, 0, 0, 0, 0, 0⟩

/-- `AT_NCELLMEAS_PRE_NCELLS_PARAMS_COUNT`. -/
def preNcellsParamsCount : Nat := 11

/-- `AT_NCELLMEAS_NCELLS_PARAMS_COUNT`. -/
def ncellsParamsCount : Nat := 5

/-- `AT_NCELLMEAS_GCI_CELL_PARAMS_COUNT`. -/
def gciCellParamsCount : Nat := 12

/-- The number of values of a `size_t`. -/
def sizeRange : Nat := 4294967296

def neighborcellCountGet (commas : Nat) : Nat :=
  if commas < preNcellsParamsCount then
    0
  else
    (commas - (preNcellsParamsCount - 1) + 1) / ncellsParamsCount

end SerialModem.NrfCloud
