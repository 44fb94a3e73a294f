import Mathlib.Data.List.Nodup
import Mathlib.Logic.Function.Basic

/-!
# Exclusive ownership of watched resources

Owners come and go, and each holds at most one resource.  A resource notifies
one watcher, which should be its owner.  The two records are updated one after
the other, so a watcher can be out of date; such a resource is marked stale.

`Sound` is what an implementation with these two records keeps up, and the
lemmas below say which single updates keep it.
-/

namespace SerialModem.Library

open List Function

universe u v

structure Ownership (Owner : Type u) (Resource : Type v) where
  live : List Owner
  holds : Owner → Option Resource
  watcher : Resource → Option Owner
  stale : Resource → Bool

namespace Ownership

variable {Owner : Type u} {Resource : Type v}

structure Sound (state : Ownership Owner Resource) : Prop where
  nodup : state.live.Nodup
  nonempty : state.live ≠ []
  exclusive : ∀ {first second resource},
    first ∈ state.live → second ∈ state.live →
    state.holds first = some resource → state.holds second = some resource →
    first = second
  watched : ∀ {resource owner}, state.watcher resource = some owner →
    owner ∈ state.live ∧ state.holds owner = some resource ∨ state.stale resource = true
  watches : ∀ {owner resource other}, owner ∈ state.live → state.holds owner = some resource →
    state.watcher resource = some other → other = owner

namespace Sound

variable {state after : Ownership Owner Resource}

theorem of_same (sound : Sound state) (live : after.live = state.live)
    (holds : ∀ owner, owner ∈ state.live → after.holds owner = state.holds owner)
    (watcher : after.watcher = state.watcher)
    (stale : ∀ resource, state.stale resource = true → after.stale resource = true) :
    Sound after where
  nodup := by
    rw [live]
    exact sound.nodup
  nonempty := by
    rw [live]
    exact sound.nonempty
  exclusive := by
    intro first second resource firstLive secondLive
    rw [live] at firstLive secondLive
    rw [holds first firstLive, holds second secondLive]
    exact sound.exclusive firstLive secondLive
  watched := by
    intro resource owner isWatcher
    rw [watcher] at isWatcher
    rcases sound.watched isWatcher with ⟨isLive, isHeld⟩ | isStale
    · refine .inl ⟨live ▸ isLive, ?_⟩
      rw [holds owner isLive]
      exact isHeld
    · exact .inr (stale resource isStale)
  watches := by
    intro owner resource other isLive
    rw [live] at isLive
    rw [holds owner isLive, watcher]
    exact sound.watches isLive

variable [DecidableEq Owner] [DecidableEq Resource]

omit [DecidableEq Owner] in
theorem detach (sound : Sound state) (resource : Resource) (stale : Resource → Bool)
    (kept : ∀ other, other ≠ resource → stale other = state.stale other) :
    Sound { state with
      watcher := update state.watcher resource none
      stale := stale } where
  nodup := sound.nodup
  nonempty := sound.nonempty
  exclusive := sound.exclusive
  watched := by
    intro other owner isWatcher
    by_cases equal : other = resource
    · subst equal
      simp at isWatcher
    · simp only [update_of_ne equal] at isWatcher
      simpa [kept other equal] using sound.watched isWatcher
  watches := by
    intro owner held other isLive isHeld isWatcher
    by_cases equal : held = resource
    · subst equal
      simp at isWatcher
    · simp only [update_of_ne equal] at isWatcher
      exact sound.watches isLive isHeld isWatcher

variable {owner : Owner} {resource : Resource}

omit [DecidableEq Resource] in
/-- An owner without a resource can take one that nobody holds and that nobody
else watches. -/
theorem take (sound : Sound state) (holdsNone : state.holds owner = none)
    (unheld : ∀ other, other ∈ state.live → state.holds other ≠ some resource)
    (unwatched : ∀ other, state.watcher resource = some other → other = owner) :
    Sound { state with
      holds := update state.holds owner (some resource) } where
  nodup := sound.nodup
  nonempty := sound.nonempty
  exclusive := by
    intro first second held firstLive secondLive firstHolds secondHolds
    by_cases isFirst : first = owner
    · by_cases isSecond : second = owner
      · rw [isFirst, isSecond]
      · simp only [isFirst, update_self, Option.some.injEq] at firstHolds
        simp only [update_of_ne isSecond] at secondHolds
        rw [← firstHolds] at secondHolds
        exact absurd secondHolds (unheld second secondLive)
    · simp only [update_of_ne isFirst] at firstHolds
      by_cases isSecond : second = owner
      · simp only [isSecond, update_self, Option.some.injEq] at secondHolds
        rw [← secondHolds] at firstHolds
        exact absurd firstHolds (unheld first firstLive)
      · simp only [update_of_ne isSecond] at secondHolds
        exact sound.exclusive firstLive secondLive firstHolds secondHolds
  watched := by
    intro other watching isWatcher
    rcases sound.watched isWatcher with ⟨isLive, isHeld⟩ | isStale
    · have different : watching ≠ owner := by
        rintro rfl
        rw [holdsNone] at isHeld
        cases isHeld
      exact .inl ⟨isLive, by simpa [different] using isHeld⟩
    · exact .inr isStale
  watches := by
    intro holder held other isLive isHeld isWatcher
    by_cases equal : holder = owner
    · simp only [equal, update_self, Option.some.injEq] at isHeld
      subst isHeld
      rw [equal]
      exact unwatched other isWatcher
    · simp only [update_of_ne equal] at isHeld
      exact sound.watches isLive isHeld isWatcher

omit [DecidableEq Owner] in
theorem watch (sound : Sound state) (live : owner ∈ state.live)
    (holds : state.holds owner = some resource)
    (stale : Resource → Bool)
    (kept : ∀ other, other ≠ resource → stale other = state.stale other) :
    Sound { state with
      watcher := update state.watcher resource (some owner)
      stale := stale } where
  nodup := sound.nodup
  nonempty := sound.nonempty
  exclusive := sound.exclusive
  watched := by
    intro other watching isWatcher
    by_cases equal : other = resource
    · simp only [equal, update_self, Option.some.injEq] at isWatcher
      rw [equal, ← isWatcher]
      exact .inl ⟨live, holds⟩
    · simp only [update_of_ne equal] at isWatcher
      simpa [kept other equal] using sound.watched isWatcher
  watches := by
    intro holder held other isLive isHeld isWatcher
    by_cases equal : held = resource
    · simp only [equal, update_self, Option.some.injEq] at isWatcher
      rw [equal] at isHeld
      rw [← isWatcher]
      exact sound.exclusive live isLive holds isHeld
    · simp only [update_of_ne equal] at isWatcher
      exact sound.watches isLive isHeld isWatcher

omit [DecidableEq Resource] in
theorem drop (sound : Sound state) (holds : state.holds owner = some resource)
    (left : state.stale resource = true ∨ state.watcher resource ≠ some owner) :
    Sound { state with holds := update state.holds owner none } where
  nodup := sound.nodup
  nonempty := sound.nonempty
  exclusive := by
    intro first second held firstLive secondLive firstHolds secondHolds
    have firstOther : first ≠ owner := by
      rintro rfl
      simp at firstHolds
    have secondOther : second ≠ owner := by
      rintro rfl
      simp at secondHolds
    simp only [update_of_ne firstOther] at firstHolds
    simp only [update_of_ne secondOther] at secondHolds
    exact sound.exclusive firstLive secondLive firstHolds secondHolds
  watched := by
    intro other watching isWatcher
    rcases sound.watched isWatcher with ⟨isLive, isHeld⟩ | isStale
    · by_cases equal : watching = owner
      · subst equal
        rw [holds, Option.some.injEq] at isHeld
        subst isHeld
        exact .inr (left.resolve_right fun unwatched => unwatched isWatcher)
      · exact .inl ⟨isLive, by simpa [equal] using isHeld⟩
    · exact .inr isStale
  watches := by
    intro holder held other isLive isHeld isWatcher
    have different : holder ≠ owner := by
      rintro rfl
      simp at isHeld
    simp only [update_of_ne different] at isHeld
    exact sound.watches isLive isHeld isWatcher

omit [DecidableEq Resource] in
theorem leave (sound : Sound state) (live : owner ∈ state.live) (others : state.live.length ≠ 1)
    (holdsNone : state.holds owner = none) :
    Sound { state with live := state.live.erase owner } where
  nodup := sound.nodup.erase owner
  nonempty := by
    have longer : 0 < state.live.length := length_pos_of_mem live
    have shorter := length_erase_of_mem live
    intro isEmpty
    change state.live.erase owner = [] at isEmpty
    rw [isEmpty, length_nil] at shorter
    omega
  exclusive := by
    intro first second held firstLive secondLive
    exact sound.exclusive (mem_of_mem_erase firstLive) (mem_of_mem_erase secondLive)
  watched := by
    intro other watching isWatcher
    rcases sound.watched isWatcher with ⟨isLive, isHeld⟩ | isStale
    · have different : watching ≠ owner := by
        rintro rfl
        rw [holdsNone] at isHeld
        cases isHeld
      exact .inl ⟨(mem_erase_of_ne different).mpr isLive, isHeld⟩
    · exact .inr isStale
  watches := by
    intro holder held other isLive
    exact sound.watches (mem_of_mem_erase isLive)

omit [DecidableEq Resource] in
theorem join (sound : Sound state) (fresh : owner ∉ state.live) :
    Sound { state with
      live := state.live ++ [owner]
      holds := update state.holds owner none } where
  nodup := List.Nodup.append sound.nodup (nodup_singleton owner) (disjoint_singleton.mpr fresh)
  nonempty := by simp
  exclusive := by
    intro first second held firstLive secondLive firstHolds secondHolds
    have old : ∀ {other}, other ∈ state.live ++ [owner] →
        update state.holds owner none other = some held →
        other ∈ state.live ∧ state.holds other = some held := by
      intro other isLive isHeld
      have different : other ≠ owner := by
        rintro rfl
        simp at isHeld
      rw [update_of_ne different] at isHeld
      exact ⟨by simpa [different] using isLive, isHeld⟩
    exact sound.exclusive (old firstLive firstHolds).1
      (old secondLive secondHolds).1 (old firstLive firstHolds).2
      (old secondLive secondHolds).2
  watched := by
    intro other watching isWatcher
    rcases sound.watched isWatcher with ⟨isLive, isHeld⟩ | isStale
    · have different : watching ≠ owner := fun equal =>
        fresh (equal ▸ isLive)
      exact .inl ⟨mem_append_left _ isLive, by simpa [different] using isHeld⟩
    · exact .inr isStale
  watches := by
    intro holder held other isLive isHeld isWatcher
    have different : holder ≠ owner := by
      rintro rfl
      simp at isHeld
    simp only [update_of_ne different] at isHeld
    exact sound.watches (by simpa [different] using isLive) isHeld isWatcher

end Sound

end Ownership

end SerialModem.Library
