import SerialModem.Ncellmeas.Plmn

/-!
# The array of GCI cells

Each pass of `parse_ncellmeas_gci` writes at most one cell, so an array with as
many cells as there are passes is long enough.
-/

namespace SerialModem.Ncellmeas

open Option

open NrfCloud (LteLcCell)

def LteLcCellsInfo.gciList (cells : LteLcCellsInfo) : List LteLcCell :=
  (cells.gciCells.getD []).take cells.gciCellsCount.toNat

structure GciLoop.HasRoom (size left : Nat) (loop : GciLoop) : Prop where
  array : ∃ array, loop.cells.gciCells = some array ∧ array.length = size
  count : loop.cells.gciCellsCount.toNat = loop.k
  room : loop.k + left ≤ size
  counted : loop.k + left < 256
  inside : loop.overrun = false

namespace GciLoop.HasRoom

variable {setting : Setting} {size left : Nat} {loop : GciLoop}

theorem fewer (hasRoom : loop.HasRoom size left) {fewer : Nat}
    (isFewer : fewer ≤ left) : loop.HasRoom size fewer := by
  have room := hasRoom.room
  have counted := hasRoom.counted
  exact ⟨hasRoom.array, hasRoom.count, by omega, by omega, hasRoom.inside⟩

theorem length_gciList (hasRoom : loop.HasRoom size left) :
    loop.cells.gciList.length = loop.cells.gciCellsCount.toNat := by
  obtain ⟨array, isArray, isSize⟩ := hasRoom.array
  have room := hasRoom.room
  rw [LteLcCellsInfo.gciList, isArray, getD_some, List.length_take, hasRoom.count, isSize]
  omega

theorem storeCell (hasRoom : loop.HasRoom size (left + 1)) (cell : LteLcCell) :
    (loop.storeCell cell).HasRoom size left ∧
      (loop.storeCell cell).cells.gciList = loop.cells.gciList ++ [cell] := by
  obtain ⟨array, isArray, isSize⟩ := hasRoom.array
  have room := hasRoom.room
  have counted := hasRoom.counted
  have inside : loop.k < array.length := by omega
  have next : (loop.cells.gciCellsCount + 1).toNat = loop.k + 1 := by
    rw [UInt8.toNat_add, hasRoom.count]
    exact Nat.mod_eq_of_lt (by rw [UInt8.toNat_one]; omega)
  constructor
  · refine ⟨⟨array.set loop.k cell, ?_, ?_⟩, next, ?_, ?_, ?_⟩
    · exact congrArg (Option.map (·.set loop.k cell)) isArray
    · rw [List.length_set, isSize]
    · show loop.k + 1 + left ≤ size
      omega
    · show loop.k + 1 + left < 256
      omega
    · show (loop.overrun || _) = false
      rw [hasRoom.inside, isArray]
      exact decide_eq_false (by rw [getD_some]; omega)
  · show ((loop.cells.gciCells.map (·.set loop.k cell)).getD []).take
        (loop.cells.gciCellsCount + 1).toNat = _
    rw [LteLcCellsInfo.gciList, next, isArray, hasRoom.count, map_some,
      getD_some, getD_some, List.take_add_one,
      List.take_set_of_le (Nat.le_refl _), List.getElem?_set_self inside]
    rfl

variable {before : List LteLcCell}

theorem storeCell_keeps (hasRoom : loop.HasRoom size (left + 1))
    (kept : before <+: loop.cells.gciList) (cell : LteLcCell) :
    (loop.storeCell cell).HasRoom size left ∧ before <+: (loop.storeCell cell).cells.gciList := by
  obtain ⟨hasRoom, stored⟩ := hasRoom.storeCell cell
  refine ⟨hasRoom, ?_⟩
  rw [stored]
  exact kept.trans (List.prefix_append _ _)

theorem pass (hasRoom : loop.HasRoom size (left + 1)) (kept : before <+: loop.cells.gciList) :
    PassEnds (fun loop => loop.HasRoom size 0 ∧ before <+: loop.cells.gciList)
      (fun loop => loop.HasRoom size left ∧ before <+: loop.cells.gciList)
      (gciPass setting loop) := by
  obtain ⟨field, isRead⟩ := loop.readPlmn_eq setting
  have stopped := hasRoom.fewer (Nat.zero_le _)
  have continued := hasRoom.fewer (Nat.le_succ left)
  refine gciPass_ends ⟨stopped, kept⟩ ?_ ?_ ?_
  · rw [isRead]
    exact ⟨⟨stopped.array, stopped.count, stopped.room, stopped.counted, stopped.inside⟩, kept⟩
  · intro cell ncellsCount
    rw [isRead]
    exact GciLoop.storeServing_ends
      ⟨⟨continued.array, continued.count, continued.room, continued.counted,
        continued.inside⟩, kept⟩
      ⟨⟨stopped.array, stopped.count, stopped.room, stopped.counted, stopped.inside⟩, kept⟩
      fun _ _ _ => ⟨⟨continued.array, continued.count, continued.room,
        continued.counted, continued.inside⟩, kept⟩
  · intro cell
    rw [isRead]
    refine storeCell_keeps ?_ ?_ cell
    · exact ⟨hasRoom.array, hasRoom.count, hasRoom.room, hasRoom.counted, hasRoom.inside⟩
    · exact kept

theorem run {paramCount : Nat} (hasRoom : loop.HasRoom size left)
    (kept : before <+: loop.cells.gciList) :
    (parseGciLoop setting paramCount left loop).2.HasRoom size 0 ∧
      before <+: (parseGciLoop setting paramCount left loop).2.cells.gciList :=
  parseGciLoop_invariant (fun left loop (holds :
        loop.HasRoom size left ∧ before <+: loop.cells.gciList) =>
          ⟨holds.1.fewer (Nat.zero_le _), holds.2⟩)
    (fun _ _ holds => holds.1.pass holds.2) left loop ⟨hasRoom, kept⟩

end GciLoop.HasRoom

end SerialModem.Ncellmeas
