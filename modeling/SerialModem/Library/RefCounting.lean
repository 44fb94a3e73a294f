import Mathlib.Data.List.Count
import Mathlib.Data.List.Nodup
import Mathlib.Data.List.Perm.Lattice
import Mathlib.Logic.Function.Basic

/-!
# Counted blocks of a pool

A block is taken out of the pool with a count of one, and goes back when the
count falls from one to zero.  The counts are right when there is one owner for
each: the list of the owners is not kept by the pool, but is what the counts
stand for.
-/

namespace SerialModem.Library

open List Function

universe u

variable {Block : Type u} [DecidableEq Block]

structure Pool (Block : Type u) where
  free : List Block
  refCounter : Block → Int

namespace Pool

def alloc (block : Block) (rest : List Block) (pool : Pool Block) : Pool Block where
  free := rest
  refCounter := update pool.refCounter block 1

def ref (block : Block) (pool : Pool Block) : Pool Block where
  free := pool.free
  refCounter :=
    update pool.refCounter block (pool.refCounter block + 1)

def unref (block : Block) (pool : Pool Block) : Pool Block where
  free := if pool.refCounter block = 1 then block :: pool.free else pool.free
  refCounter :=
    update pool.refCounter block (pool.refCounter block - 1)

theorem alloc_refCounter (block : Block) (rest : List Block)
    (pool : Pool Block) : (pool.alloc block rest).refCounter = update pool.refCounter block 1 := rfl

theorem ref_refCounter (block : Block) (pool : Pool Block) : (pool.ref block).refCounter =
      update pool.refCounter block (pool.refCounter block + 1) := rfl

theorem unref_refCounter (block : Block) (pool : Pool Block) : (pool.unref block).refCounter =
      update pool.refCounter block (pool.refCounter block - 1) := rfl

end Pool

structure Counted (isBlock : Block → Prop) (pool : Pool Block)
    (owners : List Block) : Prop where
  nodup : pool.free.Nodup
  free : ∀ block ∈ pool.free, isBlock block ∧ block ∉ owners
  owned : ∀ block ∈ owners, isBlock block
  counted : ∀ block, isBlock block → block ∉ pool.free →
    block ∈ owners ∧ pool.refCounter block = owners.count block

namespace Counted

variable {isBlock : Block → Prop} {pool : Pool Block} {owners others : List Block} {block : Block}

theorem perm (counted : Counted isBlock pool owners)
    (same : owners.Perm others) : Counted isBlock pool others where
  nodup := counted.nodup
  free block isFree := by
    rw [← same.mem_iff]
    exact counted.free block isFree
  owned block isOwned := counted.owned block (same.mem_iff.mpr isOwned)
  counted block known notFree := by
    rw [← same.mem_iff, ← same.count_eq]
    exact counted.counted block known notFree

theorem notFree_of_owned (counted : Counted isBlock pool owners)
    (isOwned : block ∈ owners) : block ∉ pool.free :=
  fun isFree => (counted.free block isFree).2 isOwned

theorem alloc {rest : List Block} (counted : Counted isBlock pool owners)
    (isFirst : pool.free = block :: rest) :
    Counted isBlock (pool.alloc block rest) (block :: owners) := by
  have nodup := counted.nodup
  rw [isFirst, nodup_cons] at nodup
  have wasFree : block ∈ pool.free := by
    rw [isFirst]
    exact mem_cons_self
  obtain ⟨known, notOwned⟩ := counted.free block wasFree
  refine ⟨nodup.2, ?_, ?_, ?_⟩
  · intro other isFree
    have isOther : other ≠ block := fun same => nodup.1 (same ▸ isFree)
    have free := counted.free other (by
      rw [isFirst]
      exact mem_cons_of_mem _ isFree)
    refine ⟨free.1, fun member => ?_⟩
    rcases mem_cons.mp member with same | isOwned
    · exact isOther same
    · exact free.2 isOwned
  · intro other isOwned
    rcases mem_cons.mp isOwned with rfl | isOld
    · exact known
    · exact counted.owned other isOld
  · intro other isKnown notFree
    by_cases same : other = block
    · subst same
      refine ⟨mem_cons_self, ?_⟩
      rw [Pool.alloc_refCounter, update_self, count_cons_self, count_eq_zero_of_not_mem notOwned]
      rfl
    · have old := counted.counted other isKnown (by
        rw [isFirst]
        exact fun member => (mem_cons.mp member).elim same notFree)
      refine ⟨mem_cons_of_mem _ old.1, ?_⟩
      rw [Pool.alloc_refCounter, update_of_ne same, count_cons_of_ne (Ne.symm same)]
      exact old.2

theorem ref (counted : Counted isBlock pool owners) (isOwned : block ∈ owners) :
    Counted isBlock (pool.ref block) (block :: owners) := by
  have notFree := counted.notFree_of_owned isOwned
  refine ⟨counted.nodup, ?_, ?_, ?_⟩
  · intro other isFree
    have free := counted.free other isFree
    refine ⟨free.1, fun member => ?_⟩
    rcases mem_cons.mp member with rfl | isOld
    · exact notFree isFree
    · exact free.2 isOld
  · intro other member
    rcases mem_cons.mp member with rfl | isOld
    · exact counted.owned other isOwned
    · exact counted.owned other isOld
  · intro other known otherNotFree
    have old := counted.counted other known otherNotFree
    refine ⟨mem_cons_of_mem _ old.1, ?_⟩
    by_cases same : other = block
    · subst same
      rw [Pool.ref_refCounter, update_self, count_cons_self, old.2]
      rfl
    · rw [Pool.ref_refCounter, update_of_ne same, count_cons_of_ne (Ne.symm same)]
      exact old.2

theorem unref (counted : Counted isBlock pool owners) (isOwned : block ∈ owners) :
    Counted isBlock (pool.unref block) (owners.erase block) := by
  have notFree := counted.notFree_of_owned isOwned
  have known := counted.owned block isOwned
  have count := (counted.counted block known notFree).2
  have positive := count_pos_iff.mpr isOwned
  have isLast : pool.refCounter block = 1 ↔ block ∉ owners.erase block := by
    rw [count, ← List.count_eq_zero, count_erase_self]
    omega
  refine ⟨?_, ?_, ?_, ?_⟩
  · rw [Pool.unref]
    dsimp only
    split
    · exact nodup_cons.mpr ⟨notFree, counted.nodup⟩
    · exact counted.nodup
  · intro other isFree
    rw [Pool.unref] at isFree
    dsimp only at isFree
    split at isFree
    · rename_i last
      rcases mem_cons.mp isFree with rfl | wasFree
      · exact ⟨known, isLast.mp last⟩
      · have free := counted.free other wasFree
        exact ⟨free.1, fun member => free.2 (mem_of_mem_erase member)⟩
    · have free := counted.free other isFree
      exact ⟨free.1, fun member => free.2 (mem_of_mem_erase member)⟩
  · intro other member
    exact counted.owned other (mem_of_mem_erase member)
  · intro other isKnown otherNotFree
    rw [Pool.unref] at otherNotFree
    dsimp only at otherNotFree
    by_cases same : other = block
    · subst same
      have notLast : pool.refCounter other ≠ 1 := by
        intro last
        rw [if_pos last] at otherNotFree
        exact otherNotFree mem_cons_self
      refine ⟨by_contra fun missing => notLast (isLast.mpr missing), ?_⟩
      rw [Pool.unref_refCounter, update_self, count, count_erase_self]
      omega
    · have wasNotFree : other ∉ pool.free := by
        split at otherNotFree
        · exact fun member => otherNotFree (mem_cons_of_mem _ member)
        · exact otherNotFree
      have old := counted.counted other isKnown wasNotFree
      refine ⟨(mem_erase_of_ne same).mpr old.1, ?_⟩
      rw [Pool.unref_refCounter, update_of_ne same, count_erase_of_ne same]
      exact old.2

theorem unref_of_perm (counted : Counted isBlock pool owners)
    (same : owners.Perm (block :: others)) :
    Counted isBlock (pool.unref block) others := by
  have first := (counted.perm same).unref mem_cons_self
  rw [erase_cons_head] at first
  exact first

theorem alloc_unref {rest : List Block} (counted : Counted isBlock pool owners)
    (isFirst : pool.free = block :: rest) :
    Counted isBlock ((pool.alloc block rest).unref block) owners :=
  (counted.alloc isFirst).unref_of_perm (List.Perm.refl _)

theorem ref_unref (counted : Counted isBlock pool owners) (isOwned : block ∈ owners) :
    Counted isBlock ((pool.ref block).unref block) owners :=
  (counted.ref isOwned).unref_of_perm (List.Perm.refl _)

end Counted

end SerialModem.Library
