import SerialModem.AtHost.Destruction

/-!
# The lists of idle work

`sm_at_host_queue_idle_work` looks for an item only in the list that it appends
to, and `sm_at_host_destroy` forgets the list of the context that it frees.
As long as an accepted item is linked nowhere else, and a freed context has an
empty list and no item of its own in another one, the lists are the chains of
what was accepted and not yet run.
-/

namespace SerialModem.AtHost

open Library List Function

variable {cfg : Config} {env : Environment}

/-- The items that `c` was given. -/
def acceptedItems (c : CtxId) (log : List IdleEvent) : List IdleItem :=
  log.filterMap fun event =>
    match event with
    | .accepted d item => if d = c then some item else none
    | .ran _ _ => none

/-- The items of `c` that have run. -/
def ranItems (c : CtxId) (log : List IdleEvent) : List IdleItem :=
  log.filterMap fun event =>
    match event with
    | .accepted _ _ => none
    | .ran d item => if d = c then some item else none

theorem acceptedItems_append (c : CtxId) (first second : List IdleEvent) :
    acceptedItems c (first ++ second) = acceptedItems c first ++ acceptedItems c second :=
  filterMap_append ..

theorem ranItems_append (c : CtxId) (first second : List IdleEvent) :
    ranItems c (first ++ second) = ranItems c first ++ ranItems c second :=
  filterMap_append ..

theorem acceptedItems_length (c : CtxId) (log : List IdleEvent) :
    (acceptedItems c log).length ≤ log.length :=
  length_filterMap_le ..

/-- The lists contain what was accepted and not yet run, and nothing of a
context that does not exist. -/
structure ItemsListed (machine : Machine)
    (content : CtxId → List IdleItem) : Prop where
  represents : machine.idle.Represents content
  ledger : ∀ c, acceptedItems c machine.idleLog = ranItems c machine.idleLog ++ content c
  deadList : ∀ c, c ∉ machine.host.instanceList → content c = []
  deadItem : ∀ c, c ∉ machine.host.instanceList → ∀ d, .pollIdle c ∉ content d

namespace ItemsListed

variable {machine after : Machine} {content : CtxId → List IdleItem}

/-- The lists stay, and every context that disappears leaves nothing. -/
theorem of_sameItems (listed : ItemsListed machine content) (same : SameItems machine after)
    (left : ∀ c, c ∈ machine.host.instanceList → c ∉ after.host.instanceList →
      content c = [] ∧ ∀ d, .pollIdle c ∉ content d) :
    ItemsListed after content where
  represents := by
    rw [same.idle]
    exact listed.represents
  ledger := by
    rw [same.idleLog]
    exact listed.ledger
  deadList c gone := by
    by_cases live : c ∈ machine.host.instanceList
    · exact (left c live gone).1
    · exact listed.deadList c live
  deadItem c gone := by
    by_cases live : c ∈ machine.host.instanceList
    · exact (left c live gone).2
    · exact listed.deadItem c live

/-- A new context starts with an empty list. -/
theorem allocated (listed : ItemsListed machine content) {c : CtxId}
    (fresh : c ∉ machine.host.instanceList)
    (live : ∀ d, d ∉ after.host.instanceList → d ∉ machine.host.instanceList)
    (idle : after.idle = (machine.idle.initList c).initNode (.pollIdle c))
    (idleLog : after.idleLog = machine.idleLog) :
    ItemsListed after content where
  represents := by
    rw [idle]
    exact listed.represents.init (listed.deadList c fresh) (listed.deadItem c fresh)
  ledger := by
    rw [idleLog]
    exact listed.ledger
  deadList d gone := listed.deadList d (live d gone)
  deadItem d gone := listed.deadItem d (live d gone)

theorem listed_length (listed : ItemsListed machine content) (c : CtxId) :
    (content c).length ≤ machine.idleLog.length := by
  have accepted := acceptedItems_length c machine.idleLog
  rw [listed.ledger c, length_append] at accepted
  omega

/-- The search of `sm_at_host_queue_idle_work` ends. -/
theorem find (listed : ItemsListed machine content) (c : CtxId) (item : IdleItem) :
    machine.idle.find machine.idleLog.length c item = some (decide (item ∈ content c)) :=
  listed.represents.find item (listed.listed_length c)

theorem linkIdleItem (listed : ItemsListed machine content) {c : CtxId}
    {item : IdleItem} (live : c ∈ machine.host.instanceList)
    (isItem : item.exists machine.host = true)
    (fresh : ∀ d, item ∉ content d) :
    ItemsListed (linkIdleItem c item machine) (update content c (content c ++ [item])) where
  represents := listed.represents.append c fresh
  ledger d := by
    change acceptedItems d (machine.idleLog ++ [.accepted c item]) =
      ranItems d (machine.idleLog ++ [.accepted c item]) ++ _
    rw [acceptedItems_append, ranItems_append, listed.ledger d]
    by_cases same : d = c
    · subst same
      simp [acceptedItems, ranItems]
    · simp [acceptedItems, ranItems, same, Ne.symm same]
  deadList d gone := by
    have different : d ≠ c := fun same => gone (same ▸ live)
    rw [update_of_ne different]
    exact listed.deadList d gone
  deadItem d gone e := by
    by_cases same : e = c
    · subst same
      rw [update_self, mem_append, mem_singleton]
      rintro (old | rfl)
      · exact listed.deadItem d gone e old
      · have alive : d ∈ machine.host.instanceList := by
          simpa [IdleItem.exists, smAtCtxCheck] using isItem
        exact gone alive
    · rw [update_of_ne same]
      exact listed.deadItem d gone e

theorem idleWorkStep (listed : ItemsListed machine content) (c : CtxId) :
    (content c = [] ∧ (idleWorkStep c machine).loop = .messages ∧
      ItemsListed (idleWorkStep c machine) content) ∨
    ∃ item rest, content c = item :: rest ∧ (idleWorkStep c machine).loop = machine.loop ∧
      (idleWorkStep c machine).idleLog = machine.idleLog ++ [.ran c item] ∧
      ItemsListed (idleWorkStep c machine) (update content c rest) := by
  cases items : content c with
  | nil =>
    have taken : machine.idle.get c = none := by
      rw [LinkedLists.get, listed.represents.head, items]
      rfl
    have ended : AtHost.idleWorkStep c machine = { machine with
        host := machine.host.setCurrentCtx none
        loop := .messages } := by
      simp only [AtHost.idleWorkStep, taken]
    rw [ended]
    exact .inl ⟨rfl, rfl, listed.of_sameItems ⟨rfl, rfl, rfl⟩ fun c live gone => absurd live gone⟩
  | cons item rest =>
    obtain ⟨idle, taken, represents⟩ := listed.represents.get items
    have run : AtHost.idleWorkStep c machine = { machine with
        idle := idle
        idleLog := machine.idleLog ++ [.ran c item] } := by
      simp only [AtHost.idleWorkStep, taken]
    rw [run]
    refine .inr ⟨item, rest, rfl, rfl, rfl, represents, fun d => ?_,
      fun d gone => ?_, fun d gone e => ?_⟩
    · change acceptedItems d (machine.idleLog ++ [.ran c item]) =
        ranItems d (machine.idleLog ++ [.ran c item]) ++ _
      rw [acceptedItems_append, ranItems_append, listed.ledger d]
      by_cases same : d = c
      · subst same
        simp [acceptedItems, ranItems, items]
      · simp [acceptedItems, ranItems, same, Ne.symm same]
    · by_cases same : d = c
      · subst same
        have empty := listed.deadList d gone
        rw [items] at empty
        cases empty
      · rw [update_of_ne same]
        exact listed.deadList d gone
    · by_cases same : e = c
      · subst same
        rw [update_self]
        intro member
        apply listed.deadItem d gone e
        rw [items]
        exact mem_cons_of_mem _ member
      · rw [update_of_ne same]
        exact listed.deadItem d gone e

end ItemsListed

/-- An item is only accepted when it is linked in no other list, and a context
is only freed when its list is empty and its own item is linked nowhere. -/
structure OrderlyItems (cfg : Config) (machine : Machine)
    (action : MachineAction) : Prop where
  apart : ∀ pipe item, action = .queueIdleWork pipe item →
    ∀ c, smAtHostGetCtxFrom pipe machine.host = some c →
    ∀ d, d ∈ machine.host.instanceList → d ≠ c → ¬machine.idle.Linked d item
  settled : ∀ c, destroyCall cfg machine action = some c →
    machine.idle.head c = none ∧ ∀ d, d ∈ machine.host.instanceList →
        ¬machine.idle.Linked d (.pollIdle c)

namespace ItemsListed

variable {machine after : Machine} {content : CtxId → List IdleItem}

theorem unlisted (listed : ItemsListed machine content) {item : IdleItem}
    (unlinked : ∀ d, d ∈ machine.host.instanceList →
      ¬machine.idle.Linked d item) (d : CtxId) : item ∉ content d := by
  by_cases live : d ∈ machine.host.instanceList
  · exact fun member => unlinked d live ((listed.represents.linked_iff d item).mpr member)
  · rw [listed.deadList d live]
    exact not_mem_nil

theorem queueIdleWork (listed : ItemsListed machine content)
    {pipe : Option PipeId} {item : IdleItem}
    (orderly : OrderlyItems cfg machine (.queueIdleWork pipe item))
    (isItem : item.exists machine.host = true)
    (executed : smAtHostQueueIdleWork pipe item machine = some after) :
    ∃ content, ItemsListed after content := by
  have notified : ∀ c, (notifyIfIdle c machine.host).instanceList = machine.host.instanceList := by
    intro c
    exact Rewires.instanceList id id (Rewires.notifyIfIdle c machine.host)
  rcases smAtHostQueueIdleWork_cases executed with
    rfl | ⟨c, found, isCtx, isFound, rfl⟩
  · exact ⟨content, listed⟩
  · have live := (smAtHostGetCtxFrom_some isCtx).1
    rw [listed.find c item, Option.some.injEq] at isFound
    by_cases member : item ∈ content c
    · refine ⟨content, ?_⟩
      rw [← isFound, if_pos (by simpa using member)]
      refine listed.of_sameItems ⟨rfl, rfl, rfl⟩ fun d isLive gone => ?_
      exact absurd ((notified c).symm ▸ isLive) gone
    · have fresh : ∀ d, item ∉ content d := by
        intro d
        by_cases same : d = c
        · rw [same]
          exact member
        · by_cases isLive : d ∈ machine.host.instanceList
          · exact fun listedThere =>
              orderly.apart pipe item rfl c isCtx d isLive same
                ((listed.represents.linked_iff d item).mpr listedThere)
          · rw [listed.deadList d isLive]
            exact not_mem_nil
      refine ⟨_, (?_ : ItemsListed _ (update content c (content c ++ [item])))⟩
      rw [← isFound, if_neg (by simpa using member)]
      refine (listed.linkIdleItem live isItem fresh).of_sameItems
        ⟨rfl, rfl, rfl⟩ fun d isLive gone => ?_
      exact absurd ((notified c).symm ▸ isLive) gone

theorem takeMessage (listed : ItemsListed machine content)
    {allocated : Option CtxId} {message : Message} {rest : List Message}
    (fresh : ∀ c, allocated = some c → c ∉ machine.host.instanceList)
    (left : ∀ c, c ∈ machine.host.instanceList →
      c ∉ (takeMessage cfg allocated message rest machine).host.instanceList →
      content c = [] ∧ ∀ d, .pollIdle c ∉ content d) :
    ItemsListed (takeMessage cfg allocated message rest machine) content := by
  let popped := machine.setHost (popMessage message rest machine.host)
  let handled := handlePipeEvent cfg allocated message popped
  have finished : SameItems handled (AtHost.takeMessage cfg allocated message rest machine) :=
    handleSmEvent_sameItems cfg (liveCtx message machine.host) message handled
  have contexts : (AtHost.takeMessage cfg allocated message rest
      machine).host.instanceList = handled.host.instanceList :=
    handleSmEvent_instanceList cfg (liveCtx message machine.host) message handled
  have same : SameItems machine handled →
      ItemsListed (AtHost.takeMessage cfg allocated message rest machine)
        content :=
    fun items => listed.of_sameItems (items.trans finished) left
  cases handlePipeEvent_creates cfg allocated message popped with
  | nothing _ items | reused c pipe _ _ _ _ _ items =>
    exact same ⟨items.idle, items.idleLog, items.createdAt⟩
  | allocated c pipe _ isNew isHost idle idleLog _ =>
    refine listed.allocated (fresh c isNew) (fun d gone live => ?_)
      (finished.idle.trans idle) (finished.idleLog.trans idleLog)
    apply gone
    rw [contexts, isHost]
    exact mem_append_left _ live

theorem machineStep {action : MachineAction} (listed : ItemsListed machine content)
    (single : SingleEvents machine.host)
    (orderly : OrderlyItems cfg machine action)
    (taken : machineStep cfg env action machine = some after) :
    ∃ content, ItemsListed after content := by
  have left : ∀ c, c ∈ machine.host.instanceList → c ∉ after.host.instanceList →
      content c = [] ∧ ∀ d, .pollIdle c ∉ content d := by
    intro c live gone
    obtain ⟨isDestroyed, _, _⟩ := machineStep_freed single taken live gone
    obtain ⟨empty, unlinked⟩ := orderly.settled c isDestroyed
    refine ⟨?_, listed.unlisted unlinked⟩
    simpa [empty] using (listed.represents.head c).symm
  by_cases isTaken : ∃ allocated, action = .takeMessage allocated
  · obtain ⟨allocated, rfl⟩ := isTaken
    cases machineStep_cases taken with
    | takeMessage _ message rest _ _ fresh =>
      exact ⟨content, listed.takeMessage fresh left⟩
    | nothing => exact ⟨content, listed⟩
  · by_cases isItem : action = .idleItem
    · subst isItem
      cases machineStep_cases taken with
      | idleItem c _ =>
        rcases listed.idleWorkStep c with
          ⟨_, _, kept⟩ | ⟨item, rest, _, _, _, kept⟩
        · exact ⟨content, kept⟩
        · exact ⟨_, kept⟩
      | nothing => exact ⟨content, listed⟩
    · by_cases isQueued : ∃ pipe item, action = .queueIdleWork pipe item
      · obtain ⟨pipe, item, rfl⟩ := isQueued
        cases machineStep_cases taken with
        | queueIdleWork _ _ _ isItem executed =>
          exact listed.queueIdleWork orderly isItem executed
        | nothing => exact ⟨content, listed⟩
      · have same := machineStep_sameItems taken
          (fun allocated equal => isTaken ⟨allocated, equal⟩) isItem
          (fun pipe item equal => isQueued ⟨pipe, item, equal⟩)
        exact ⟨content, listed.of_sameItems same left⟩

theorem booted (booted : Booted machine) : ItemsListed machine fun _ => [] where
  represents := by
    rw [booted.idle]
    exact LinkedLists.empty_represents
  ledger c := by
    rw [booted.idleLog]
    rfl
  deadList _ _ := rfl
  deadItem _ _ _ := not_mem_nil

end ItemsListed

/-- The lists of idle items stay lists. -/
theorem reachable_itemsListed {machine : Machine}
    (reachable : MachineReachableIf cfg env (OrderlyItems cfg) machine) :
    ∃ content, ItemsListed machine content := by
  induction reachable with
  | start booted => exact ⟨_, ItemsListed.booted booted⟩
  | next action earlier orderly taken ih =>
    obtain ⟨content, listed⟩ := ih
    exact listed.machineStep (reachable_singleEvents earlier) orderly taken

/-- In a run whose steps are orderly, the lists are the chains of the items
accepted and not yet run, in order and without sharing.  Every search ends, and
`idle_work` only ends when its list is empty. -/
theorem items_listed_until_run {machine : Machine}
    (reachable : MachineReachableIf cfg env (OrderlyItems cfg) machine) :
    ∃ content : CtxId → List IdleItem, machine.idle.Represents content ∧
      (∀ c, acceptedItems c machine.idleLog = ranItems c machine.idleLog ++ content c) ∧
      (∀ pipe item, (smAtHostQueueIdleWork pipe item machine).isSome = true) ∧
      ∀ c after, machine.loop = .idleWork c → machineStep cfg env .idleItem machine = some after →
        (∃ item rest, content c = item :: rest ∧ after.idleLog = machine.idleLog ++ [.ran c item] ∧
          after.loop = .idleWork c) ∨
        content c = [] := by
  obtain ⟨content, listed⟩ := reachable_itemsListed reachable
  refine ⟨content, listed.represents, listed.ledger, ?_, ?_⟩
  · intro pipe item
    unfold smAtHostQueueIdleWork
    split
    · rfl
    · rename_i c _
      rw [listed.find c item]
      rfl
  · intro c after inLoop taken
    have stepped : after = idleWorkStep c machine := by
      simpa [machineStep, inLoop] using taken.symm
    rw [stepped]
    rcases listed.idleWorkStep c with
      ⟨empty, _, _⟩ | ⟨item, rest, items, loop, log, _⟩
    · exact .inr empty
    · exact .inl ⟨item, rest, items, log, loop.trans inLoop⟩

/-- A check that implies `OrderlyItems`. -/
def itemsApart (cfg : Config) (machine : Machine) (action : MachineAction) : Bool :=
  (destroyCall cfg machine action).isNone &&
    match action with
    | .queueIdleWork pipe _ =>
      (smAtHostGetCtxFrom pipe machine.host).all fun c =>
        machine.host.instanceList.all fun d =>
          d == c || (machine.idle.head d).isNone
    | _ => true

theorem OrderlyItems.of_itemsApart {machine : Machine} {action : MachineAction}
    (checked : itemsApart cfg machine action = true) :
    OrderlyItems cfg machine action := by
  obtain ⟨noDestroy, apart⟩ := Bool.and_eq_true_iff.mp checked
  constructor
  · rintro pipe item rfl c isCtx d live different linked
    have others : ∀ e, e ∈ machine.host.instanceList → e = c ∨ machine.idle.head e = none := by
      simpa [isCtx] using apart
    have noHead := (others d live).resolve_left different
    rw [LinkedLists.Linked, noHead] at linked
    cases linked
  · intro c isDestroyed
    rw [isDestroyed] at noDestroy
    cases noDestroy

/-- Two items wait on the first context, and one of them has run. -/
theorem first_item_run : ∃ machine, MachineReachableIf plusConfig (sessionEnv 0 consumeAll)
        (OrderlyItems plusConfig) machine ∧
      ranItems 0 machine.idleLog = [.sendCb] ∧
      ∃ content : CtxId → List IdleItem,
        machine.idle.Represents content ∧ content 0 = [.pollIdle 0] := by
  obtain ⟨machine, reachable, seen⟩ := exists_machine_run_if plusConfig
    (sessionEnv 0 consumeAll) (OrderlyItems plusConfig)
    (itemsApart plusConfig)
    [.queueIdleWork (some 0) .sendCb, .queueIdleWork (some 0) (.pollIdle 0),
      .host .dispatch, .takeMessage none, .idleItem]
    (fun _ _ _ => OrderlyItems.of_itemsApart)
    (fun machine => machine.idleLog)
    [.accepted 0 .sendCb, .accepted 0 (.pollIdle 0), .ran 0 .sendCb]
    (by decide)
  obtain ⟨content, represents, ledger, _⟩ := items_listed_until_run reachable
  refine ⟨machine, reachable, ?_, content, represents, ?_⟩
  · rw [seen]
    decide
  · have balance := ledger 0
    rw [seen] at balance
    simpa [acceptedItems, ranItems] using balance.symm

/-- Sockets of two pipes finish a send one after the other.  The shared item is
linked in both lists, and the item behind it is lost. -/
theorem shared_item_splices_lists :
    ∃ machine, MachineReachableIf plusConfig (sessionEnv 0 consumeAll) (fun _ _ => True) machine ∧
      machine.idle.Linked 0 .sendCb ∧ machine.idle.Linked 1 .sendCb ∧
      .pollIdle 0 ∈ acceptedItems 0 machine.idleLog ∧
      ranItems 0 machine.idleLog = [] ∧
      ∀ c, c ∈ machine.host.instanceList → ¬machine.idle.Linked c (.pollIdle 0) := by
  obtain ⟨machine, reachable, seen⟩ := exists_machine_run plusConfig (sessionEnv 0 consumeAll)
    [.pipeOpened 1, .host .dispatch, .takeMessage (some 1), .endMessages,
      .queueIdleWork (some 0) .sendCb, .queueIdleWork (some 0) (.pollIdle 0),
      .queueIdleWork (some 1) .sendCb]
    (fun machine => (machine.host.instanceList, machine.idle.head 0,
      machine.idle.head 1, machine.idle.next .sendCb, machine.idleLog))
    ([0, 1], some .sendCb, some .sendCb, none, [.accepted 0 .sendCb,
      .accepted 0 (.pollIdle 0), .accepted 1 .sendCb]) (by decide)
  obtain ⟨contexts, first, second, ends, log⟩ := by
    simpa only [Prod.mk.injEq] using seen
  have alone : ∀ start, start = some IdleItem.sendCb →
      ¬LinkedLists.MetFrom machine.idle.next start (.pollIdle 0) := by
    intro start isStart met
    cases met with
    | here => cases isStart
    | later further =>
      cases isStart
      rw [ends] at further
      cases further
  refine ⟨machine, reachable, ?_, ?_, ?_, ?_, ?_⟩
  · rw [LinkedLists.Linked, first]
    exact LinkedLists.MetFrom.here _
  · rw [LinkedLists.Linked, second]
    exact LinkedLists.MetFrom.here _
  · rw [log]
    decide
  · rw [log]
    decide
  · intro c live
    rw [contexts] at live
    rcases mem_pair.mp live with rfl | rfl
    · exact alone _ first
    · exact alone _ second

end SerialModem.AtHost
