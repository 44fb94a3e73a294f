import Mathlib.Data.List.Nodup
import Mathlib.Logic.Function.Basic

/-!
# Intrusive singly linked lists

The link of an intrusive list is a field of the item itself, so an item has one
link however many lists it was put in.  Several lists therefore share one map
of links, and an operation on one list can change what another one contains.

`Represents` is the discipline under which this does not happen: every list is
the chain of its content, and no item stands twice, in one list or in two.
-/

namespace SerialModem.Library

open List Function

universe u v

structure LinkedLists (Key : Type u) (Node : Type v) where
  next : Node → Option Node
  head : Key → Option Node
  tail : Key → Option Node

namespace LinkedLists

variable {Key : Type u} {Node : Type v}

def empty : LinkedLists Key Node where
  next _ := none
  head _ := none
  tail _ := none

variable [DecidableEq Key] [DecidableEq Node]

def initList (lists : LinkedLists Key Node) (key : Key) : LinkedLists Key Node :=
  { lists with
    head := update lists.head key none
    tail := update lists.tail key none }

def initNode (lists : LinkedLists Key Node) (node : Node) : LinkedLists Key Node :=
  { lists with next := update lists.next node none }

/-- Put an item at the end of a list.  Whether the list is empty is read off
its head, and the end is taken from its tail. -/
def append (lists : LinkedLists Key Node) (key : Key) (node : Node) : LinkedLists Key Node :=
  let next := update lists.next node none
  match lists.head key with
  | none =>
    { next := next
      head := update lists.head key (some node)
      tail := update lists.tail key (some node) }
  | some _ =>
    { next := (lists.tail key).elim next fun last =>
        update next last (some node)
      head := lists.head
      tail := update lists.tail key (some node) }

def get (lists : LinkedLists Key Node) (key : Key) : Option (Node × LinkedLists Key Node) :=
  (lists.head key).map fun node =>
    (node,
      { next := lists.next
        head := update lists.head key (lists.next node)
        tail :=
          if lists.tail key = some node then
            update lists.tail key (lists.next node)
          else
            lists.tail })

/-- Look for an item from a given place on; `none` when that takes more than
`fuel` links. -/
def findFrom (lists : LinkedLists Key Node) (node : Node) : Nat → Option Node → Option Bool
  | _, none => some false
  | 0, some _ => none
  | fuel + 1, some current =>
    if current = node then
      some true
    else
      lists.findFrom node fuel (lists.next current)

def find (lists : LinkedLists Key Node) (fuel : Nat) (key : Key) (node : Node) : Option Bool :=
  lists.findFrom node fuel (lists.head key)

/-- The items met from `start` on are exactly those of the list. -/
def Chain (next : Node → Option Node) : Option Node → List Node → Prop
  | start, [] => start = none
  | start, node :: rest => start = some node ∧ Chain next (next node) rest

inductive MetFrom (next : Node → Option Node) : Option Node → Node → Prop
  | here (node : Node) : MetFrom next (some node) node
  | later {node other : Node} : MetFrom next (next node) other → MetFrom next (some node) other

def Linked (lists : LinkedLists Key Node) (key : Key) (node : Node) : Prop :=
  MetFrom lists.next (lists.head key) node

omit [DecidableEq Node] in
theorem Chain.met_iff {next : Node → Option Node} {items : List Node} {start : Option Node}
    (chain : Chain next start items) (node : Node) :
    MetFrom next start node ↔ node ∈ items := by
  induction items generalizing start with
  | nil =>
    cases chain
    constructor
    · intro met
      cases met
    · intro member
      cases member
  | cons first rest ih =>
    obtain ⟨rfl, remaining⟩ := chain
    constructor
    · intro met
      cases met with
      | here => exact mem_cons_self ..
      | later further =>
        exact mem_cons_of_mem _ ((ih remaining).mp further)
    · intro member
      rcases mem_cons.mp member with rfl | inRest
      · exact MetFrom.here node
      · exact MetFrom.later ((ih remaining).mpr inRest)

omit [DecidableEq Node] in
theorem Chain.congr {next changed : Node → Option Node} {items : List Node} {start : Option Node}
    (chain : Chain next start items)
    (same : ∀ node, node ∈ items → changed node = next node) :
    Chain changed start items := by
  induction items generalizing start with
  | nil => exact chain
  | cons node rest ih =>
    obtain ⟨first, remaining⟩ := chain
    refine ⟨first, ?_⟩
    rw [same node (mem_cons_self ..)]
    exact ih remaining fun other member =>
      same other (mem_cons_of_mem _ member)

theorem Chain.append {next : Node → Option Node} {items : List Node} {start : Option Node}
    {last node : Node}
    (chain : Chain next start items)
    (ends : items.getLast? = some last)
    (nodup : items.Nodup)
    (fresh : node ∉ items) :
    Chain (update (update next node none) last (some node)) start (items ++ [node]) := by
  induction items generalizing start with
  | nil => cases ends
  | cons first rest ih =>
    obtain ⟨starts, remaining⟩ := chain
    have firstFresh : first ∉ rest := (nodup_cons.mp nodup).1
    have restNodup : rest.Nodup := (nodup_cons.mp nodup).2
    have nodeFresh : node ∉ rest := fun member =>
      fresh (mem_cons_of_mem _ member)
    have different : node ≠ first := fun equal =>
      fresh (equal ▸ mem_cons_self ..)
    refine ⟨starts, ?_⟩
    cases rest with
    | nil =>
      have isLast : first = last := by simpa using ends
      subst isLast
      simp [Chain, update_of_ne different]
    | cons second others =>
      have restEnds : (second :: others).getLast? = some last := by
        simpa using ends
      have lastMember : last ∈ second :: others :=
        mem_of_getLast? restEnds
      have notLast : first ≠ last := fun equal =>
        firstFresh (equal ▸ lastMember)
      rw [update_of_ne notLast, update_of_ne different.symm]
      exact ih remaining restEnds restNodup nodeFresh

omit [DecidableEq Key] in
theorem findFrom_eq {lists : LinkedLists Key Node} {items : List Node} (node : Node)
    {fuel : Nat} {start : Option Node}
    (chain : Chain lists.next start items)
    (enough : items.length ≤ fuel) :
    lists.findFrom node fuel start = some (decide (node ∈ items)) := by
  induction items generalizing fuel start with
  | nil =>
    cases chain
    simp [findFrom]
  | cons first rest ih =>
    obtain ⟨rfl, remaining⟩ := chain
    cases fuel with
    | zero => simp at enough
    | succ fuel =>
      have shorter : rest.length ≤ fuel := by simpa using enough
      rw [findFrom, ih remaining shorter]
      by_cases equal : first = node
      · simp [equal]
      · simp [equal, Ne.symm equal]

/-- Every list is the chain of its content, and no item stands twice. -/
structure Represents (lists : LinkedLists Key Node)
    (content : Key → List Node) : Prop where
  chain : ∀ key, Chain lists.next (lists.head key) (content key)
  tail : ∀ key, lists.tail key = (content key).getLast?
  nodup : ∀ key, (content key).Nodup
  once : ∀ {first second node}, node ∈ content first → node ∈ content second → first = second

omit [DecidableEq Key] [DecidableEq Node] in
theorem empty_represents : Represents (empty : LinkedLists Key Node) fun _ => [] where
  chain _ := rfl
  tail _ := rfl
  nodup _ := nodup_nil
  once member := by cases member

namespace Represents

variable {lists : LinkedLists Key Node} {content : Key → List Node}

omit [DecidableEq Key] [DecidableEq Node] in
theorem head (represents : Represents lists content) (key : Key) :
    lists.head key = (content key).head? := by
  have chain := represents.chain key
  cases items : content key with
  | nil =>
    rw [items] at chain
    exact chain
  | cons node rest =>
    rw [items] at chain
    exact chain.1

omit [DecidableEq Key] [DecidableEq Node] in
theorem linked_iff (represents : Represents lists content) (key : Key)
    (node : Node) : Linked lists key node ↔ node ∈ content key :=
  (represents.chain key).met_iff node

omit [DecidableEq Key] in
/-- A search with one link for each item gives an answer, and the right one. -/
theorem find (represents : Represents lists content) {fuel : Nat} {key : Key}
    (node : Node) (enough : (content key).length ≤ fuel) :
    lists.find fuel key node = some (decide (node ∈ content key)) :=
  findFrom_eq node (represents.chain key) enough

omit [DecidableEq Node] in
private theorem once_update (represents : Represents lists content) {key : Key} {items : List Node}
    (known : ∀ {other node}, node ∈ items → node ∈ content other → other = key)
    {first second : Key} {node : Node}
    (inFirst : node ∈ update content key items first)
    (inSecond : node ∈ update content key items second) :
    first = second := by
  by_cases firstKey : first = key
  · subst firstKey
    by_cases secondKey : second = first
    · exact secondKey.symm
    · rw [update_self] at inFirst
      rw [update_of_ne secondKey] at inSecond
      exact absurd (known inFirst inSecond) secondKey
  · rw [update_of_ne firstKey] at inFirst
    by_cases secondKey : second = key
    · subst secondKey
      rw [update_self] at inSecond
      exact known inSecond inFirst
    · rw [update_of_ne secondKey] at inSecond
      exact represents.once inFirst inSecond

theorem append (represents : Represents lists content) (key : Key)
    {node : Node} (fresh : ∀ other, node ∉ content other) :
    Represents (lists.append key node) (update content key (content key ++ [node])) := by
  have unlinked : ∀ other, Chain (update lists.next node none) (lists.head other)
        (content other) := by
    intro other
    apply (represents.chain other).congr
    intro linked member
    apply update_of_ne
    intro equal
    exact fresh other (equal ▸ member)
  have once : ∀ {first second found}, found ∈ update content key (content key ++ [node]) first →
      found ∈ update content key (content key ++ [node]) second →
      first = second := by
    apply represents.once_update
    intro other found member elsewhere
    rcases mem_append.mp member with old | new
    · exact represents.once elsewhere old
    · rw [mem_singleton.mp new] at elsewhere
      exact absurd elsewhere (fresh other)
  have nodup : ∀ other, (update content key (content key ++ [node]) other).Nodup := by
    intro other
    by_cases equal : other = key
    · subst equal
      rw [update_self]
      exact List.Nodup.append (represents.nodup other) (nodup_singleton node)
        (disjoint_singleton.mpr (fresh other))
    · rw [update_of_ne equal]
      exact represents.nodup other
  unfold LinkedLists.append
  cases starts : lists.head key with
  | none =>
    have isEmpty : content key = [] := by
      simpa [starts] using (represents.head key).symm
    refine ⟨?_, ?_, nodup, once⟩
    · intro other
      by_cases equal : other = key
      · subst equal
        simp [isEmpty, Chain]
      · simpa [equal] using unlinked other
    · intro other
      by_cases equal : other = key
      · subst equal
        simp
      · simp [equal, represents.tail]
  | some first =>
    have nonempty : content key ≠ [] := by
      intro isEmpty
      simp [represents.head, isEmpty] at starts
    obtain ⟨last, ends⟩ : ∃ last, (content key).getLast? = some last :=
      ⟨_, getLast?_eq_some_getLast nonempty⟩
    have lastMember : last ∈ content key := mem_of_getLast? ends
    dsimp only
    rw [represents.tail key, ends]
    refine ⟨?_, ?_, nodup, once⟩
    · intro other
      by_cases equal : other = key
      · subst equal
        rw [update_self]
        exact (represents.chain other).append ends (represents.nodup other) (fresh other)
      · rw [update_of_ne equal]
        apply (unlinked other).congr
        intro linked member
        apply update_of_ne
        intro isLast
        exact equal (represents.once (isLast ▸ member) lastMember)
    · intro other
      by_cases equal : other = key
      · subst equal
        simp
      · simp [equal, represents.tail]

theorem get (represents : Represents lists content) {key : Key}
    {node : Node} {rest : List Node} (items : content key = node :: rest) :
    ∃ taken, lists.get key = some (node, taken) ∧ Represents taken (update content key rest) := by
  have chain := represents.chain key
  rw [items] at chain
  obtain ⟨starts, remaining⟩ := chain
  have nodup := represents.nodup key
  rw [items] at nodup
  have fresh : node ∉ rest := (nodup_cons.mp nodup).1
  refine ⟨_, by rw [LinkedLists.get, starts]; rfl, ?_, ?_, ?_, ?_⟩
  · intro other
    by_cases equal : other = key
    · subst equal
      simpa using remaining
    · simpa [equal] using represents.chain other
  · intro other
    have ends := represents.tail key
    rw [items] at ends
    have single : (node :: rest).getLast? = some node ↔ rest = [] := by
      cases rest with
      | nil => simp
      | cons second others =>
        have lastFresh : (second :: others).getLast? ≠ some node :=
          fun isLast => fresh (mem_of_getLast? isLast)
        simpa using lastFresh
    by_cases equal : other = key
    · subst equal
      rw [update_self]
      dsimp only
      rw [ends]
      by_cases isEmpty : rest = []
      · subst isEmpty
        simpa [Chain] using remaining
      · rw [if_neg (fun isLast => isEmpty (single.mp isLast)), ends]
        cases rest with
        | nil => exact absurd rfl isEmpty
        | cons second others => simp
    · rw [update_of_ne equal]
      dsimp only
      split
      · rw [update_of_ne equal, represents.tail other]
      · exact represents.tail other
  · intro other
    by_cases equal : other = key
    · subst equal
      rw [update_self]
      exact (nodup_cons.mp nodup).2
    · rw [update_of_ne equal]
      exact represents.nodup other
  · apply represents.once_update
    intro other found member elsewhere
    apply represents.once elsewhere
    rw [items]
    exact mem_cons_of_mem _ member

theorem init (represents : Represents lists content) {key : Key}
    {node : Node} (isEmpty : content key = [])
    (fresh : ∀ other, node ∉ content other) :
    Represents ((lists.initList key).initNode node) content := by
  refine ⟨?_, ?_, represents.nodup, represents.once⟩
  · intro other
    have unlinked : Chain (update lists.next node none) (lists.head other) (content other) := by
      apply (represents.chain other).congr
      intro linked member
      apply update_of_ne
      intro equal
      exact fresh other (equal ▸ member)
    by_cases equal : other = key
    · subst equal
      simp [isEmpty, Chain, initList, initNode]
    · simpa [initList, initNode, equal] using unlinked
  · intro other
    by_cases equal : other = key
    · subst equal
      simp [isEmpty, initList, initNode]
    · simpa [initList, initNode, equal] using represents.tail other

end Represents

end LinkedLists

end SerialModem.Library
