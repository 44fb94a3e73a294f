import SerialModem.AtHost.RawSession
import SerialModem.AtHost.StateInvariant

/-!
# Termination of the flush loops

`raw_send` looks up the served context once, and its loop ends with the ring of
that context empty.  `write_data_buf` looks it up once as well, but each of its
flushes does so again.  A handler that fails in a flush clears the served
context, and the next flush falls back to the URC context.  When that is
another one, nobody makes room in the full ring and the loop never ends.
-/

namespace SerialModem.AtHost

open Library List Option

variable {cfg : Config} {env : Environment} {c : CtxId} {before after host : Host}
  {content : List Byte}

theorem Confined.urcCtx (confined : Confined cfg c before after) :
    smAtHostGetUrcCtx cfg after = smAtHostGetUrcCtx cfg before := by
  apply smAtHostGetUrcCtx_of_atMode confined.frame.sameWiring
  intro d
  rw [inAtModeCtx, inAtModeCtx, smAtCtxCheck, smAtCtxCheck, confined.frame.instanceList]
  by_cases same : d = c
  · subst same
    rcases confined.outcome with kept | dropped
    · rw [kept.atMode]
    · obtain ⟨ring, result, _, data⟩ := dropped.data
      have notBefore : ((before.data d).atMode == .atCommandMode) = false :=
        beq_false_of_ne dropped.left
      rw [data, notBefore]
      rfl
  · rw [(confined.others d same).1]

theorem Confined.currentCtx (confined : Confined cfg c before after)
    (cleared : before.currentCtx = none) : after.currentCtx = none := by
  rcases confined.outcome with kept | dropped
  · exact kept.current.trans cleared
  · exact dropped.current

variable {flags : Flags}

theorem rawSend_size (ran : rawSend cfg env flags host = some after)
    (c : CtxId) : (after.data c).dataRb.size = (host.data c).dataRb.size := by
  cases served : smAtHostGetCurrent cfg host with
  | none => simp [rawSend, served] at ran
  | some e =>
    obtain ⟨result, returned, confined, _⟩ := rawSend_spec cfg env flags served
    rw [ran, some_inj] at returned
    subst returned
    by_cases same : c = e
    · subst same
      exact confined.size
    · rw [(confined.others c same).1]

theorem rawSend_noHandler (served : smAtHostGetCurrent cfg host = some c)
    (noHandler : (host.data c).handler = none)
    (ran : rawSend cfg env flags host = some after) : Kept c host after := by
  have recorded : Kept c host (host.record (.rawSend c flags)) :=
    Kept.record host c rfl (fun _ => rfl)
  simp only [rawSend, served] at ran
  exact recorded.trans (rawSendLoop_of_noHandler cfg flags _ _ _ after noHandler ran)

/-- No failure of a handler takes the flushes away from `c`: it is the URC
context itself, or it cannot drop out of data mode. -/
def KeepsFlushes (cfg : Config) (c : CtxId) (host : Host) : Prop :=
  smAtHostGetUrcCtx cfg host = some c ∨ (host.data c).handler = none ∨
    c ∉ host.instanceList ∨ (host.data c).atMode = .atCommandMode

theorem keepsFlushes_iff_of_kept (confined : Confined cfg c before after)
    (kept : Kept c before after) : KeepsFlushes cfg c after ↔ KeepsFlushes cfg c before := by
  unfold KeepsFlushes
  rw [confined.urcCtx, kept.handler, confined.frame.instanceList, kept.atMode]

theorem KeepsFlushes.rawSend (keeps : KeepsFlushes cfg c host)
    (served : smAtHostGetCurrent cfg host = some c)
    (ran : rawSend cfg env flags host = some after) :
    smAtHostGetCurrent cfg after = some c ∧ KeepsFlushes cfg c after := by
  obtain ⟨result, returned, confined, _⟩ := rawSend_spec cfg env flags served
  rw [ran, some_inj] at returned
  subst returned
  have ofKept (kept : Kept c host after) :
      smAtHostGetCurrent cfg after = some c ∧ KeepsFlushes cfg c after :=
    ⟨(confined.getCurrent_of_kept kept).trans served,
      (keepsFlushes_iff_of_kept confined kept).mpr keeps⟩
  rcases confined.outcome with kept | dropped
  · exact ofKept kept
  · rcases keeps with isUrc | noHandler | notLive | atMode
    · have stillUrc := confined.urcCtx.trans isUrc
      refine ⟨?_, .inl stillUrc⟩
      simp [smAtHostGetCurrent, dropped.current, stillUrc]
    · exact ofKept (rawSend_noHandler served noHandler ran)
    · exact absurd dropped.live notLive
    · exact absurd atMode dropped.left

/-- A run of the loop of `write_data_buf` that stores all of its input: bytes are
stored while there is room, and a full ring is emptied by one flush. -/
inductive Writes (cfg : Config) (env : Environment) (c : CtxId) :
    List Byte → (flushes : Nat) → (before after : Host) → Prop where
  | done (host : Host) : Writes cfg env c [] 0 host host
  | stores {content : List Byte} {flushes : Nat} {host after : Host}
      (room : 0 < (host.data c).dataRb.putCount content)
      (rest : Writes cfg env c (content.drop ((host.data c).dataRb.putCount content))
        flushes (storeBytes c content host) after) :
      Writes cfg env c content flushes host after
  | flushes {content : List Byte} {flushes : Nat} {host flushed after : Host}
      (full : (host.data c).dataRb.content.length = (host.data c).dataRb.size)
      (sent : rawSend cfg env ⟨true, false⟩ host = some flushed)
      (empty : (flushed.data c).dataRb.content = [])
      (rest : Writes cfg env c content flushes flushed after) :
      Writes cfg env c content (flushes + 1) host after

theorem storeBytes_content (c : CtxId) (content : List Byte) (host : Host) :
    ((storeBytes c content host).data c).dataRb.content = (host.data c).dataRb.content ++
        content.take ((host.data c).dataRb.putCount content) := by
  rw [storeBytes, Host.data_setData_self, RingBuffer.put_content]

theorem storeBytes_size (c : CtxId) (content : List Byte) (host : Host) :
    ((storeBytes c content host).data c).dataRb.size = (host.data c).dataRb.size := by
  rw [storeBytes, Host.data_setData_self]
  rfl

/-- Each flush has taken as many bytes as the ring holds, and what is left stands
in the ring. -/
theorem Writes.accounts {flushes : Nat} (writes : Writes cfg env c content flushes host after) :
    flushes * (host.data c).dataRb.size ≤ (host.data c).dataRb.content.length + content.length ∧
      (after.data c).dataRb.content = ((host.data c).dataRb.content ++ content).drop
        (flushes * (host.data c).dataRb.size) := by
  induction writes with
  | done host =>
    rw [Nat.zero_mul, append_nil]
    exact ⟨Nat.zero_le _, rfl⟩
  | @stores content flushes host after room rest ih =>
    obtain ⟨counted, isContent⟩ := ih
    rw [storeBytes_size] at counted isContent
    rw [storeBytes_content, append_assoc, take_append_drop] at isContent
    rw [storeBytes_content, length_append, Nat.add_assoc, ← length_append,
      take_append_drop] at counted
    exact ⟨counted, isContent⟩
  | @flushes content flushes host flushed after full sent empty rest ih =>
    obtain ⟨counted, isContent⟩ := ih
    rw [rawSend_size sent c, empty] at counted isContent
    rw [length_nil] at counted
    refine ⟨?_, ?_⟩
    · rw [Nat.succ_mul]
      omega
    · rw [isContent, nil_append, Nat.succ_mul, Nat.add_comm, ← full, drop_length_add_append]

/-- The loop of `write_data_buf` finds room for its input: at once, after one
flush, or because every flush is one of `c`. -/
def FindsRoom (cfg : Config) (c : CtxId) (content : List Byte) (host : Host) : Prop :=
  content.length ≤ (host.data c).dataRb.spaceGet ∨ (smAtHostGetCurrent cfg host = some c ∧
      (content.length ≤ (host.data c).dataRb.spaceGet + (host.data c).dataRb.size ∨
        KeepsFlushes cfg c host))

theorem FindsRoom.store (finds : FindsRoom cfg c content host) :
    FindsRoom cfg c (content.drop ((host.data c).dataRb.putCount content))
      (storeBytes c content host) := by
  have confined := storeBytes_confined cfg c content host
  have kept := storeBytes_kept c content host
  have space : ((storeBytes c content host).data c).dataRb.spaceGet =
      (host.data c).dataRb.spaceGet - (host.data c).dataRb.putCount content := by
    rw [RingBuffer.spaceGet, storeBytes_size, storeBytes_content, length_append,
      length_take, RingBuffer.putCount, RingBuffer.spaceGet]
    omega
  rw [FindsRoom, length_drop, space, storeBytes_size]
  unfold RingBuffer.putCount
  rcases finds with fits | ⟨served, fits | keeps⟩
  · left
    omega
  · right
    refine ⟨(confined.getCurrent_of_kept kept).trans served, Or.inl ?_⟩
    omega
  · right
    exact ⟨(confined.getCurrent_of_kept kept).trans served,
      .inr ((keepsFlushes_iff_of_kept confined kept).mpr keeps)⟩

theorem FindsRoom.flush (env : Environment) (finds : FindsRoom cfg c content host)
    (nonempty : content ≠ []) (noRoom : (host.data c).dataRb.spaceGet = 0) :
    ∃ flushed, rawSend cfg env ⟨true, false⟩ host = some flushed ∧
      (flushed.data c).dataRb.content = [] ∧ FindsRoom cfg c content flushed := by
  have positive := length_pos_iff.mpr nonempty
  rcases finds with fits | ⟨served, finds⟩
  · omega
  · obtain ⟨flushed, sent, _, empty⟩ := rawSend_spec cfg env ⟨true, false⟩ served
    refine ⟨flushed, sent, empty, ?_⟩
    rcases finds with fits | keeps
    · left
      rw [RingBuffer.spaceGet, rawSend_size sent c, empty, length_nil]
      omega
    · obtain ⟨stillServed, stillKeeps⟩ := keeps.rawSend served sent
      exact .inr ⟨stillServed, .inr stillKeeps⟩

/-- Each byte takes one store and one flush at most.  A ring with room owes no
flush before its next store. -/
theorem writeDataBufLoop_writes :
    ∀ (fuel : Nat) (content : List Byte) (host : Host), 0 < (host.data c).dataRb.size →
      FindsRoom cfg c content host →
      2 * content.length ≤ fuel + (host.data c).dataRb.putCount content →
      ∃ flushes after, writeDataBufLoop cfg env c fuel content host = some after ∧
        Writes cfg env c content flushes host after := by
  intro fuel
  induction fuel with
  | zero =>
    intro content host _ _ enough
    cases content with
    | nil => exact ⟨0, host, rfl, .done host⟩
    | cons byte rest =>
      rw [RingBuffer.putCount, length_cons] at enough
      omega
  | succ fuel ih =>
    intro content host allocated finds enough
    cases content with
    | nil => exact ⟨0, host, rfl, .done host⟩
    | cons byte rest =>
      rw [writeDataBufLoop]
      split
      · rename_i noRoom
        rw [RingBuffer.putCount, length_cons] at noRoom
        obtain ⟨flushed, sent, empty, findsNext⟩ :=
          finds.flush env (cons_ne_nil _ _) (by omega)
        have sameSize := rawSend_size sent c
        have room : 0 < (flushed.data c).dataRb.putCount (byte :: rest) := by
          rw [RingBuffer.putCount, RingBuffer.spaceGet, sameSize, empty]
          simp only [length_cons, length_nil]
          omega
        obtain ⟨flushes, after, ran, writes⟩ :=
          ih (byte :: rest) flushed (by rw [sameSize]; exact allocated) findsNext
            (by rw [RingBuffer.putCount] at enough; omega)
        rw [sent]
        refine ⟨flushes + 1, after, ran, .flushes ?_ sent empty writes⟩
        have fits := (host.data c).dataRb.content_le
        rw [RingBuffer.spaceGet] at noRoom
        omega
      · rename_i room
        obtain ⟨flushes, after, ran, writes⟩ :=
          ih _ (storeBytes c (byte :: rest) host)
            (by rw [storeBytes_size]; exact allocated) finds.store (by
              rw [length_drop]
              omega)
        exact ⟨flushes, after, ran, .stores (Nat.pos_of_ne_zero room) writes⟩

def NeverEnds (cfg : Config) (env : Environment) (c : CtxId) (content : List Byte)
    (host : Host) : Prop :=
  ∀ fuel, writeDataBufLoop cfg env c fuel content host = none

theorem NeverEnds.of_store (room : 0 < (host.data c).dataRb.putCount content)
    (later : NeverEnds cfg env c (content.drop ((host.data c).dataRb.putCount content))
      (storeBytes c content host)) : NeverEnds cfg env c content host := by
  intro fuel
  cases content with
  | nil => exact absurd room (by simp [RingBuffer.putCount])
  | cons byte rest =>
    cases fuel with
    | zero => rfl
    | succ fuel =>
      rw [writeDataBufLoop, if_neg (Nat.ne_of_gt room)]
      exact later fuel

theorem NeverEnds.of_flush {flushed : Host} (nonempty : content ≠ [])
    (noSpace : (host.data c).dataRb.spaceGet = 0)
    (sent : rawSend cfg env ⟨true, false⟩ host = some flushed)
    (later : NeverEnds cfg env c content flushed) : NeverEnds cfg env c content host := by
  intro fuel
  cases content with
  | nil => exact absurd rfl nonempty
  | cons byte rest =>
    cases fuel with
    | zero => rfl
    | succ fuel =>
      have noRoom : (host.data c).dataRb.putCount (byte :: rest) = 0 := by
        rw [RingBuffer.putCount, noSpace, Nat.min_zero]
      rw [writeDataBufLoop, if_pos noRoom, sent]
      exact later fuel

theorem spaceGet_storeBytes_of_long (long : (host.data c).dataRb.spaceGet ≤ content.length) :
    ((storeBytes c content host).data c).dataRb.spaceGet = 0 := by
  rw [RingBuffer.spaceGet, storeBytes_size, storeBytes_content, length_append,
    length_take, RingBuffer.putCount]
  unfold RingBuffer.spaceGet at long ⊢
  omega

/-- A full ring of a context that no flush reaches stays full. -/
theorem neverEnds_of_unreached (nonempty : content ≠ []) (cleared : host.currentCtx = none)
    (notUrc : smAtHostGetUrcCtx cfg host ≠ some c)
    (noSpace : (host.data c).dataRb.spaceGet = 0) : NeverEnds cfg env c content host := by
  intro fuel
  induction fuel generalizing host with
  | zero =>
    cases content with
    | nil => exact absurd rfl nonempty
    | cons byte rest => rfl
  | succ fuel ih =>
    cases content with
    | nil => exact absurd rfl nonempty
    | cons byte rest =>
      have noRoom : (host.data c).dataRb.putCount (byte :: rest) = 0 := by
        rw [RingBuffer.putCount, noSpace, Nat.min_zero]
      rw [writeDataBufLoop, if_pos noRoom]
      cases served : smAtHostGetCurrent cfg host with
      | none => simp only [rawSend, served]
      | some e =>
        have different : c ≠ e := by
          rintro rfl
          simp [smAtHostGetCurrent, cleared, notUrc] at served
        obtain ⟨flushed, sent, confined, _⟩ :=
          rawSend_spec cfg env ⟨true, false⟩ served
        rw [sent]
        refine ih (confined.currentCtx cleared) ?_ ?_
        · rw [confined.urcCtx]
          exact notUrc
        · rw [(confined.others c different).1]
          exact noSpace

/-- The flush of a full ring is refused.  The ring takes as much again, and the
rest waits for ever. -/
theorem neverEnds_of_refused (served : smAtHostGetCurrent cfg host = some c)
    (lost : ¬ KeepsFlushes cfg c host)
    (allocated : 0 < (host.data c).dataRb.size)
    (noSpace : (host.data c).dataRb.spaceGet = 0)
    (long : (host.data c).dataRb.size < content.length) :
    NeverEnds cfg (sessionEnv 0 refuseAll) c content host := by
  simp only [KeepsFlushes, not_or, not_not] at lost
  obtain ⟨notUrc, hasHandler, live, left⟩ := lost
  obtain ⟨handler, isHandler⟩ := ne_none_iff_exists'.mp hasHandler
  have filled : (host.data c).dataRb.content ≠ [] := by
    rw [RingBuffer.spaceGet] at noSpace
    exact ne_nil_of_length_pos (by omega)
  obtain ⟨flushed, sent, confined, empty⟩ :=
    rawSend_spec cfg (sessionEnv 0 refuseAll) ⟨true, false⟩ served
  have dropped : Dropped c host flushed := by
    obtain ⟨result, returned, _, dropped⟩ : ∃ result,
        rawSend cfg (sessionEnv 0 refuseAll) ⟨true, false⟩ host = some result ∧
          Confined cfg c host result ∧ Dropped c host result :=
      rawSend_refused _ served live left isHandler filled
        (fun _ _ _ => by simp [sessionEnv, refuseAll])
    rw [sent, some_inj] at returned
    rw [returned]
    exact dropped
  have space : (flushed.data c).dataRb.spaceGet = (host.data c).dataRb.size := by
    rw [RingBuffer.spaceGet, rawSend_size sent c, empty]
    exact Nat.sub_zero _
  have stored := storeBytes_confined cfg c content flushed
  refine .of_flush (ne_nil_of_length_pos (by omega)) noSpace sent
    (.of_store ?_ (neverEnds_of_unreached ?_ ?_ ?_ ?_))
  · rw [RingBuffer.putCount, space]
    omega
  · apply ne_nil_of_length_pos
    rw [length_drop, RingBuffer.putCount, space]
    omega
  · exact stored.currentCtx dropped.current
  · rw [stored.urcCtx, confined.urcCtx]
    exact notUrc
  · exact spaceGet_storeBytes_of_long (by omega)

theorem writeDataBuf_of_overrun (served : smAtHostGetCurrent cfg host = some c)
    (lost : ¬ KeepsFlushes cfg c host)
    (allocated : 0 < (host.data c).dataRb.size)
    (long : (host.data c).dataRb.spaceGet + (host.data c).dataRb.size < content.length) :
    writeDataBuf cfg (sessionEnv 0 refuseAll) content host = none := by
  obtain ⟨confined, kept, _⟩ := startWrite_spec cfg c content host
  obtain ⟨sameContent, sameSize⟩ := startWrite_ring c content host
  have sameSpace : ((startWrite c content host).data c).dataRb.spaceGet =
      (host.data c).dataRb.spaceGet := by
    rw [RingBuffer.spaceGet, sameContent, sameSize, RingBuffer.spaceGet]
  have stillServed := (confined.getCurrent_of_kept kept).trans served
  have stillLost := (not_congr (keepsFlushes_iff_of_kept confined kept)).mpr lost
  have neverEnds : NeverEnds cfg (sessionEnv 0 refuseAll) c content
      (startWrite c content host) := by
    by_cases noSpace : (host.data c).dataRb.spaceGet = 0
    · exact neverEnds_of_refused stillServed stillLost (by omega) (by omega) (by omega)
    · have stored := storeBytes_confined cfg c content (startWrite c content host)
      have storedKept := storeBytes_kept c content (startWrite c content host)
      refine .of_store ?_ (neverEnds_of_refused
        ((stored.getCurrent_of_kept storedKept).trans stillServed)
        ((not_congr (keepsFlushes_iff_of_kept stored storedKept)).mpr stillLost) ?_ ?_ ?_)
      · rw [RingBuffer.putCount, sameSpace]
        omega
      · rw [storeBytes_size, sameSize]
        exact allocated
      · exact spaceGet_storeBytes_of_long (by omega)
      · rw [storeBytes_size, length_drop, RingBuffer.putCount]
        omega
  rw [writeDataBuf_eq_loop cfg _ content served]
  exact neverEnds _

/-- `raw_send` returns with the ring of `c` empty. -/
def RawSendDrains (cfg : Config) (env : Environment) (c : CtxId) (host : Host) : Prop :=
  ∀ flags, ∃ after, rawSend cfg env flags host = some after ∧ (after.data c).dataRb.content = []

/-- `write_data_buf` returns with every byte stored.  A flush takes as many bytes
as the ring of `c` holds, and the last ones are left in the ring. -/
def WriteStores (cfg : Config) (env : Environment) (c : CtxId) (content : List Byte)
    (host : Host) : Prop :=
  ∃ flushes after, writeDataBuf cfg env content host = some after ∧
    Writes cfg env c content flushes (startWrite c content host) after ∧
    flushes * (host.data c).dataRb.size ≤ (host.data c).dataRb.content.length + content.length ∧
    (after.data c).dataRb.content = ((host.data c).dataRb.content ++ content).drop
      (flushes * (host.data c).dataRb.size)

/-- Whatever the data-mode handlers do, both loops end on the served context. -/
def FlushLoopsEnd (cfg : Config) (content : List Byte) (host : Host) : Prop :=
  ∃ c, smAtHostGetCurrent cfg host = some c ∧
    ∀ env, RawSendDrains cfg env c host ∧ WriteStores cfg env c content host

/-- The input is empty, or there is a ring and one flush of it is enough, or each
flush is one of the same context. -/
def FlushesSuffice (cfg : Config) (c : CtxId) (content : List Byte) (host : Host) : Prop :=
  content = [] ∨ (0 < (host.data c).dataRb.size ∧
    (content.length ≤ (host.data c).dataRb.spaceGet + (host.data c).dataRb.size ∨
      KeepsFlushes cfg c host))

theorem writeStores_of_suffice (served : smAtHostGetCurrent cfg host = some c)
    (enough : FlushesSuffice cfg c content host) : WriteStores cfg env c content host := by
  obtain ⟨confined, kept, _⟩ := startWrite_spec cfg c content host
  obtain ⟨sameContent, sameSize⟩ := startWrite_ring c content host
  obtain ⟨flushes, after, ran, writes⟩ : ∃ flushes after,
      writeDataBuf cfg env content host = some after ∧
        Writes cfg env c content flushes (startWrite c content host) after := by
    rw [writeDataBuf_eq_loop cfg env content served]
    rcases enough with rfl | ⟨allocated, finds⟩
    · exact ⟨0, _, rfl, .done _⟩
    · apply writeDataBufLoop_writes
      · rw [sameSize]
        exact allocated
      · right
        refine ⟨(confined.getCurrent_of_kept kept).trans served, ?_⟩
        rw [keepsFlushes_iff_of_kept confined kept, RingBuffer.spaceGet, sameContent, sameSize]
        exact finds
      · omega
  have accounts := writes.accounts
  rw [sameContent, sameSize] at accounts
  exact ⟨flushes, after, ran, writes, accounts⟩

/-- The loops of a flush and of a write end, whatever the handlers do, exactly if a context is
served and its flushes suffice. -/
theorem flushLoopsEnd_iff (cfg : Config) (content : List Byte) (host : Host) :
    FlushLoopsEnd cfg content host ↔
      ∃ c, smAtHostGetCurrent cfg host = some c ∧ FlushesSuffice cfg c content host := by
  constructor
  · rintro ⟨c, served, ends⟩
    refine ⟨c, served, ?_⟩
    obtain ⟨flushes, after, ran, _⟩ := (ends (sessionEnv 0 refuseAll)).2
    by_cases nonempty : content = []
    · exact .inl nonempty
    · by_contra short
      simp only [FlushesSuffice, nonempty, false_or, not_and_or, not_or, Nat.not_le] at short
      rcases Nat.eq_zero_or_pos (host.data c).dataRb.size with noRing | allocated
      · rw [writeDataBuf_of_noRing cfg _ served nonempty noRing] at ran
        cases ran
      · rcases short with noRing | ⟨long, lost⟩
        · exact noRing allocated
        · rw [writeDataBuf_of_overrun served lost allocated long] at ran
          cases ran
  · rintro ⟨c, served, enough⟩
    refine ⟨c, served, fun env => ⟨fun flags => ?_, writeStores_of_suffice served enough⟩⟩
    obtain ⟨after, ran, _, empty⟩ := rawSend_spec cfg env flags served
    exact ⟨after, ran, empty⟩

theorem not_flushLoopsEnd (neverReturns : writeDataBuf cfg env content host = none) :
    ¬ FlushLoopsEnd cfg content host := by
  rintro ⟨c, _, ends⟩
  obtain ⟨flushes, after, ran, _⟩ := (ends env).2
  rw [neverReturns] at ran
  cases ran

def fullRing (size : Nat) : RingBuffer Byte where
  size := size
  offset := 0
  content := replicate size 0
  offset_lt := id
  content_le := Nat.le_of_eq length_replicate

def fullRingData : DataState :=
  { openedData plusConfig 0 with
    dataRb := fullRing plusConfig.datamodeBufSize
    quitStrMatch := 1 }

/-- Data mode on the second CMUX channel, with the ring full and the first
character of the terminator just received.  URCs go to the first channel. -/
def fullRingHost : Host :=
  { freshHost [1, 2] with
    ctx := Function.update (freshHost [1, 2]).ctx 2 { Ctx.init (some 2) with data := fullRingData }
    currentCtx := some 2
    cmuxStarted := true
    cmuxDlci := some
    urcChannel := 1 }

theorem fullRingHost_data : fullRingHost.data 2 = fullRingData := rfl

theorem fullRingHost_served : smAtHostGetCurrent plusConfig fullRingHost = some 2 := rfl

theorem fullRing_space (size : Nat) : (fullRing size).spaceGet = 0 := by
  rw [RingBuffer.spaceGet, fullRing, length_replicate, Nat.sub_self]

theorem fullRingHost_lost : ¬ KeepsFlushes plusConfig 2 fullRingHost := by
  rintro (isUrc | noHandler | notLive | atMode)
  · cases isUrc
  · cases noHandler
  · exact notLive (by decide)
  · cases atMode

/-- Storing a byte takes a flush.  The handler refuses it, and the context of the
first channel is served from then on, which has no ring. -/
theorem fullRingHost_written : ∃ after,
    writeDataBuf plusConfig (sessionEnv 0 refuseAll) [43] fullRingHost = some after ∧
      smAtHostGetCurrent plusConfig after = some 1 ∧ (after.data 1).dataRb.size = 0 := by
  have size := plusConfig.datamodeBufSize_range
  have filled : (fullRingHost.data 2).dataRb.content.length =
      (fullRingHost.data 2).dataRb.size := length_replicate
  have isSize : (fullRingHost.data 2).dataRb.size = plusConfig.datamodeBufSize := rfl
  obtain ⟨confined, kept⟩ := firstWrite_spec plusConfig 2 [43] fullRingHost
  obtain ⟨result, refused, flushConfined, dropped⟩ : ∃ result,
      rawSend plusConfig (sessionEnv 0 refuseAll) ⟨true, false⟩
          (firstWrite 2 [43] fullRingHost) = some result ∧
        Confined plusConfig 2 (firstWrite 2 [43] fullRingHost) result ∧
        Dropped 2 (firstWrite 2 [43] fullRingHost) result := by
    apply rawSend_refused
    · exact (confined.getCurrent_of_kept kept).trans fullRingHost_served
    · rw [confined.frame.instanceList]
      decide
    · rw [kept.atMode]
      decide
    · rw [kept.handler]
      rfl
    · rw [firstWrite_content]
      exact append_ne_nil_of_left_ne_nil (ne_nil_of_length_pos (by omega)) _
    · exact fun _ _ _ => by simp [sessionEnv, refuseAll]
  rcases writeDataBuf_cases plusConfig (sessionEnv 0 refuseAll) fullRingHost_served
      (cons_ne_nil 43 []) (by rw [length_singleton]; omega) with
    ⟨fits, _⟩ | ⟨_, _, flushed, sent, ran⟩
  · rw [length_singleton] at fits
    omega
  · rw [refused, some_inj] at sent
    subst sent
    have stored := storeBytes_confined plusConfig 2
      ([43].drop (fullRingHost.data 2).dataRb.spaceGet) result
    have wholly := (confined.trans flushConfined).trans stored
    refine ⟨_, ran, ?_, ?_⟩
    · rw [smAtHostGetCurrent, stored.currentCtx dropped.current, wholly.urcCtx]
      rfl
    · rw [(wholly.others 1 (by decide)).1]
      rfl

/-- The character of the terminator turns out to be data.  The byte after it is
written to the context of the first channel, and `raw_rx_handler` never returns.
Nor does a write to a context with a ring that takes two flushes. -/
theorem flush_on_other_context :
    (∃ after, writeDataBuf plusConfig (sessionEnv 0 refuseAll) [43] fullRingHost = some after ∧
      ¬ FlushLoopsEnd plusConfig [98] after) ∧
    rawRxHandler plusConfig (sessionEnv 0 refuseAll) 2 98 fullRingHost = none ∧
    ¬ FlushLoopsEnd plusConfig (replicate 4097 98) fullRingHost := by
  obtain ⟨after, ran, served, noRing⟩ := fullRingHost_written
  refine ⟨⟨after, ran, ?_⟩, ?_, ?_⟩
  · exact not_flushLoopsEnd (writeDataBuf_of_noRing plusConfig (sessionEnv 0 refuseAll)
      served (cons_ne_nil 98 []) noRing)
  · have stillServed : smAtHostGetCurrent plusConfig (setQuitStrMatch 2 0 after) = some 1 :=
      (setQuitStrMatch_getCurrent 0 after).trans served
    have never : writeDataBuf plusConfig (sessionEnv 0 refuseAll) [98]
        (setQuitStrMatch 2 0 after) = none := by
      apply writeDataBuf_of_noRing plusConfig _ stillServed (cons_ne_nil 98 [])
      rw [setQuitStrMatch, Host.data_setData_of_ne _ _ (by decide)]
      exact noRing
    have matched : (fullRingHost.data 2).quitStrMatch = 1 := rfl
    have unlimited : (fullRingHost.data 2).dataLen = 0 := rfl
    have partialMatch : plusConfig.terminator.take (1 : UInt8).toNat = [43] := by decide
    rw [rawRxHandler_of_refused unlimited (by rw [matched]; decide)
      (by rw [matched]; decide), matched, partialMatch, ran, bind_some,
      rawRxUnmatched, if_neg (by decide)]
    exact never
  · apply not_flushLoopsEnd
    apply writeDataBuf_of_overrun fullRingHost_served fullRingHost_lost
    · exact datamodeBufSize_pos plusConfig
    · rw [length_replicate, fullRingHost_data, fullRingData, fullRing_space]
      decide

end SerialModem.AtHost
