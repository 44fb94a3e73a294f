import SerialModem.AtHost.MachineSteps

/-!
# A header and its payload

A header goes out on the context that is served, and the bytes that it
announces on the context of a pipe.  They are together on one channel exactly
when that context is the one that is served.
-/

namespace SerialModem.AtHost

open Library List

variable {cfg : Config}

def SentTogether (response : Response) (pieces : List (List Byte)) (events : History) : Prop :=
  ∃ c earlier later, events = earlier ++ .rspSend c response :: (pieces.map (.dataSend c) ++ later)

def Event.isPart : Event → Bool
  | .rspSend _ _ => true
  | .dataSend _ _ => true
  | _ => false

/-- What `flush_pipe_urcs` sends when a reply finds the context idle. -/
def flushed (cfg : Config) (c : CtxId) (host : Host) : History :=
  if isIdleCtx c host then (pendingUrcs cfg c host).map (.urcSent c) else []

theorem flushIfIdle_history (c : CtxId) (host : Host) :
    (flushIfIdle cfg c host).history = host.history ++ flushed cfg c host := by
  rw [flushIfIdle, flushed]
  split
  · rw [flushPipeUrcs_eq]
  · exact (append_nil _).symm

variable {c : CtxId} {host : Host}

theorem not_isPart_of_flushed {event : Event}
    (member : event ∈ flushed cfg c host) : event.isPart = false := by
  rw [flushed] at member
  split at member
  · obtain ⟨content, _, rfl⟩ := List.mem_map.mp member
    rfl
  · cases member

theorem flushed_flushIfIdle (c : CtxId) (host : Host) :
    flushed cfg c (flushIfIdle cfg c host) = [] := by
  rw [flushIfIdle]
  split
  · have flushes : Undisturbed cfg host (flushPipeUrcs cfg c host) :=
      flushPipeUrcs_undisturbed c host
    have sameUrcCtx : smAtHostGetUrcCtx cfg (flushPipeUrcs cfg c host) =
        smAtHostGetUrcCtx cfg host :=
      smAtHostGetUrcCtx_congr flushes.frame.sameWiring fun d => by rw [flushes.data d]
    have nothing : pendingUrcs cfg c (flushPipeUrcs cfg c host) = [] := by
      rw [pendingUrcs, sameUrcCtx, flushPipeUrcs_eq]
      by_cases ofUrcs : smAtHostGetUrcCtx cfg host = some c
      · simp [ofUrcs, Host.setCtx]
      · simp [ofUrcs, Host.setCtx]
    rw [flushed, nothing, map_nil, ite_self]
  · rename_i busy
    rw [flushed, if_neg busy]

theorem flushed_record (c : CtxId) (host : Host) (event : Event) :
    flushed cfg c (host.record event) = flushed cfg c host := by
  have sameUrcCtx : smAtHostGetUrcCtx cfg (host.record event) = smAtHostGetUrcCtx cfg host :=
    smAtHostGetUrcCtx_congr (Frame.record host event).sameWiring fun _ => rfl
  rw [flushed, flushed, pendingUrcs, pendingUrcs, sameUrcCtx]
  rfl

theorem flushed_of_sent (c : CtxId) (host : Host) (event : Event) :
    flushed cfg c ((flushIfIdle cfg c host).record event) = [] :=
  (flushed_record c _ event).trans (flushed_flushIfIdle c host)

theorem rspSend_history (response : Response) (serves : smAtHostGetCurrent cfg host = some c)
    (live : c ∈ host.instanceList) :
    (rspSend cfg response host).history = host.history ++ flushed cfg c host ++
        [.rspSend c response.truncated] := by
  have isLive : smAtCtxCheck c host = true :=
    contains_iff_mem.mpr live
  rw [rspSend, serves]
  dsimp only
  rw [if_pos isLive, Host.history_record, flushIfIdle_history]

variable {pipe : Option PipeId}

theorem dataSend_of_none (content : List Byte) (unserved : smAtHostGetCtxFrom pipe host = none) :
    dataSend cfg pipe content host = host := by
  rw [dataSend, sendTo, unserved]

theorem dataSend_of_some (content : List Byte) (found : smAtHostGetCtxFrom pipe host = some c) :
    dataSend cfg pipe content host = (flushIfIdle cfg c host).record (.dataSend c content) := by
  rw [dataSend, sendTo, found]

theorem Undisturbed.getCtxFrom {before after : Host}
    (undisturbed : Undisturbed cfg before after) (pipe : Option PipeId) :
    smAtHostGetCtxFrom pipe after = smAtHostGetCtxFrom pipe before := by
  cases pipe with
  | none => rfl
  | some pipe =>
    rw [smAtHostGetCtxFrom, smAtHostGetCtxFrom, undisturbed.frame.instanceList]
    simp only [undisturbed.frame.pipe]

variable (cfg) in
theorem performCall_getCtxFrom (call : HostCall) (pipe : Option PipeId) (host : Host) :
    smAtHostGetCtxFrom pipe (performCall cfg call host) = smAtHostGetCtxFrom pipe host :=
  (performCall_undisturbed call host).getCtxFrom pipe

def sendsPieces (pipe : Option PipeId) (pieces : List (List Byte)) : List HostCall :=
  pieces.map (.dataSend pipe)

variable {pieces : List (List Byte)}

theorem sendsPieces_history_of_flushed (found : smAtHostGetCtxFrom pipe host = some c)
    (nothing : flushed cfg c host = []) :
    (performCalls cfg (sendsPieces pipe pieces) host).history =
      host.history ++ pieces.map (.dataSend c) := by
  induction pieces generalizing host with
  | nil => exact (append_nil _).symm
  | cons piece rest ih =>
    have stillFound :=
      (performCall_getCtxFrom cfg (.dataSend pipe piece) pipe host).trans found
    rw [performCall, dataSend_of_some piece found] at stillFound
    have later := ih stillFound (flushed_of_sent c host _)
    rw [Host.history_record, flushIfIdle_history, nothing, append_nil, append_assoc] at later
    rw [sendsPieces, map_cons, performCalls, foldl_cons, performCall, dataSend_of_some piece found]
    exact later

theorem sendsPieces_history_of_none (pieces : List (List Byte))
    (unserved : smAtHostGetCtxFrom pipe host = none) :
    performCalls cfg (sendsPieces pipe pieces) host = host := by
  induction pieces with
  | nil => rfl
  | cons piece rest ih =>
    rw [sendsPieces, map_cons, performCalls, foldl_cons,
      performCall, dataSend_of_none piece unserved]
    exact ih

theorem sendsPieces_history (found : smAtHostGetCtxFrom pipe host = some c)
    (nonempty : pieces ≠ []) :
    (performCalls cfg (sendsPieces pipe pieces) host).history =
      host.history ++ flushed cfg c host ++ pieces.map (.dataSend c) := by
  cases pieces with
  | nil => exact absurd rfl nonempty
  | cons piece rest =>
    have stillFound :=
      (performCall_getCtxFrom cfg (.dataSend pipe piece) pipe host).trans found
    rw [performCall, dataSend_of_some piece found] at stillFound
    have later : (performCalls cfg (sendsPieces pipe rest)
        ((flushIfIdle cfg c host).record (.dataSend c piece))).history = _ :=
      sendsPieces_history_of_flushed stillFound (flushed_of_sent c host _)
    rw [Host.history_record, flushIfIdle_history, append_assoc _ [_], singleton_append] at later
    rw [sendsPieces, map_cons, performCalls, foldl_cons,
      performCall, dataSend_of_some piece found, map_cons]
    exact later

def repliesWith (response : Response) (pipe : Option PipeId)
    (pieces : List (List Byte)) : List HostCall :=
  .rspSend response :: sendsPieces pipe pieces

theorem filter_dataSends (c : CtxId) (pieces : List (List Byte)) :
    (pieces.map (Event.dataSend c)).filter Event.isPart = pieces.map (Event.dataSend c) := by
  apply filter_eq_self.mpr
  intro event member
  obtain ⟨piece, _, rfl⟩ := List.mem_map.mp member
  rfl

variable {response : Response}

/-- What else happens makes no difference. -/
theorem SentTogether.filter {events : History} (together : SentTogether response pieces events) :
    SentTogether response pieces (events.filter Event.isPart) := by
  obtain ⟨c, earlier, later, rfl⟩ := together
  refine ⟨c, earlier.filter Event.isPart, later.filter Event.isPart, ?_⟩
  rw [filter_append, filter_cons_of_pos (by rfl), filter_append, filter_dataSends]

theorem SentTogether.of_single {data : History}
    (onlyData : ∀ event ∈ data, ∀ d other, event ≠ .rspSend d other)
    (together : SentTogether response pieces (.rspSend c response :: data)) :
    pieces.map (.dataSend c) <+: data := by
  obtain ⟨d, earlier, later, split⟩ := together
  cases earlier with
  | nil =>
    injection split with isHeader isData
    cases isHeader
    exact ⟨later, isData.symm⟩
  | cons first rest =>
    injection split with _ isData
    refine absurd rfl (onlyData (.rspSend d response) ?_ d response)
    rw [isData]
    exact mem_append_right _ mem_cons_self

inductive RepliesSend (cfg : Config) (response : Response)
    (pipe : Option PipeId) (pieces : List (List Byte)) (host : Host) :
    History → Prop
  | unheaded {plain : History} (unserved : ∀ c, smAtHostGetCurrent cfg host = some c →
        c ∉ host.instanceList)
      (noHeader : ∀ event ∈ plain, ∀ d other, event ≠ .rspSend d other) :
      RepliesSend cfg response pipe pieces host plain
  | headerOnly {c : CtxId} (serves : smAtHostGetCurrent cfg host = some c)
      (unserved : smAtHostGetCtxFrom pipe host = none) :
      RepliesSend cfg response pipe pieces host
        (flushed cfg c host ++ [.rspSend c response.truncated])
  | both {c d : CtxId} {between : History} (serves : smAtHostGetCurrent cfg host = some c)
      (found : smAtHostGetCtxFrom pipe host = some d)
      (plain : ∀ event ∈ between, event.isPart = false)
      (same : c = d → between = []) :
      RepliesSend cfg response pipe pieces host
        (flushed cfg c host ++ [.rspSend c response.truncated] ++ between ++
          pieces.map (.dataSend d))

theorem rspSend_of_unserved (response : Response)
    (unserved : ∀ c, smAtHostGetCurrent cfg host = some c → c ∉ host.instanceList) :
    rspSend cfg response host = host := by
  rw [rspSend]
  split
  · rename_i c serves
    rw [if_neg]
    intro live
    exact unserved c serves (contains_iff_mem.mp live)
  · rfl

theorem ne_rspSend_of_data (event : Event)
    (member : event ∈ pieces.map (Event.dataSend c)) (d : CtxId)
    (other : Response) : event ≠ .rspSend d other := by
  obtain ⟨piece, _, rfl⟩ := List.mem_map.mp member
  exact nofun

theorem ne_rspSend_of_flushed_data (event : Event)
    (member : event ∈ flushed cfg c host ++ pieces.map (.dataSend c))
    (d : CtxId) (other : Response) : event ≠ .rspSend d other := by
  rcases mem_append.mp member with inFlush | inData
  · rintro rfl
    cases not_isPart_of_flushed inFlush
  · exact ne_rspSend_of_data event inData d other

variable (cfg) in
theorem repliesWith_sends (response : Response) (pipe : Option PipeId)
    (host : Host) (nonempty : pieces ≠ []) :
    ∃ sent, (performCalls cfg (repliesWith response pipe pieces)
        host).history = host.history ++ sent ∧
      RepliesSend cfg response pipe pieces host sent := by
  have calls : performCalls cfg (repliesWith response pipe pieces) host =
      performCalls cfg (sendsPieces pipe pieces) (rspSend cfg response host) := rfl
  have sameCtx :=
    performCall_getCtxFrom cfg (.rspSend response) pipe host
  rw [performCall] at sameCtx
  rw [calls]
  by_cases served : ∃ c, smAtHostGetCurrent cfg host = some c ∧ c ∈ host.instanceList
  · obtain ⟨c, serves, live⟩ := served
    have header := rspSend_history response serves live
    cases found : smAtHostGetCtxFrom pipe host with
    | none =>
      refine ⟨_, ?_, .headerOnly serves found⟩
      rw [sendsPieces_history_of_none pieces (sameCtx.trans found), header, append_assoc]
    | some d =>
      refine ⟨flushed cfg c host ++ [.rspSend c response.truncated] ++
        flushed cfg d (rspSend cfg response host) ++
          pieces.map (.dataSend d), ?_, .both serves found
        (fun _ => not_isPart_of_flushed) ?_⟩
      · rw [sendsPieces_history (sameCtx.trans found) nonempty, header]
        simp only [append_assoc]
      · rintro rfl
        have isLive : smAtCtxCheck c host = true :=
          contains_iff_mem.mpr live
        rw [rspSend, serves]
        dsimp only
        rw [if_pos isLive]
        exact flushed_of_sent c host _
  · have unserved : ∀ c, smAtHostGetCurrent cfg host = some c → c ∉ host.instanceList :=
      fun c serves live => served ⟨c, serves, live⟩
    rw [rspSend_of_unserved response unserved]
    cases found : smAtHostGetCtxFrom pipe host with
    | none =>
      refine ⟨[], ?_, .unheaded unserved fun _ member => by cases member⟩
      rw [sendsPieces_history_of_none pieces found, append_nil]
    | some d =>
      refine ⟨flushed cfg d host ++ pieces.map (.dataSend d), ?_,
        .unheaded unserved ne_rspSend_of_flushed_data⟩
      rw [sendsPieces_history found nonempty, append_assoc]

theorem repliesWith_together_iff {earlier sent later : History} (nonempty : pieces ≠ [])
    (plainEarlier : ∀ event ∈ earlier, event.isPart = false)
    (plainLater : ∀ event ∈ later, event.isPart = false)
    (isSent : (performCalls cfg (repliesWith response pipe pieces)
      host).history = host.history ++ sent) :
    SentTogether response.truncated pieces (earlier ++ sent ++ later) ↔
      ∃ c, smAtHostGetCurrent cfg host = some c ∧ smAtHostGetCtxFrom pipe host = some c := by
  obtain ⟨other, isOther, sends⟩ :=
    repliesWith_sends cfg response pipe host nonempty
  rw [isSent] at isOther
  have same := append_cancel_left isOther
  subst same
  have noParts : ∀ events : History, (∀ event ∈ events, event.isPart = false) →
      events.filter Event.isPart = [] := by
    intro events plain
    apply filter_eq_nil_iff.mpr
    intro event member isPart
    rw [plain event member] at isPart
    cases isPart
  have inside : (earlier ++ sent ++ later).filter Event.isPart = sent.filter Event.isPart := by
    rw [filter_append, filter_append, noParts earlier plainEarlier,
      noParts later plainLater, nil_append, append_nil]
  cases sends with
  | unheaded unserved noHeader =>
    constructor
    · intro together
      have parts := together.filter
      rw [inside] at parts
      obtain ⟨c, front, back, split⟩ := parts
      have member : Event.rspSend c response.truncated ∈ sent.filter Event.isPart := by
        rw [split]
        exact mem_append_right _ mem_cons_self
      exact absurd rfl (noHeader _ (mem_filter.mp member).1 c response.truncated)
    · rintro ⟨c, serves, found⟩
      exact absurd (smAtHostGetCtxFrom_some found).1 (unserved c serves)
  | @headerOnly c serves unserved =>
    constructor
    · intro together
      have parts := together.filter
      rw [inside, filter_append, noParts _ fun _ => not_isPart_of_flushed, nil_append] at parts
      have single : SentTogether response.truncated pieces [.rspSend c response.truncated] := parts
      have nothing := single.of_single fun _ member => by cases member
      exact absurd (map_eq_nil_iff.mp (prefix_nil.mp nothing)) nonempty
    · rintro ⟨other, _, found⟩
      rw [unserved] at found
      cases found
  | @both c d between serves found plain same =>
    constructor
    · intro together
      have parts := together.filter
      rw [inside, filter_append, filter_append,
        filter_append, noParts _ fun _ => not_isPart_of_flushed,
        noParts _ plain, append_nil, nil_append,
        filter_dataSends] at parts
      have single : SentTogether response.truncated pieces
          (.rspSend c response.truncated :: pieces.map (.dataSend d)) :=
        parts
      have isPrefix := single.of_single ne_rspSend_of_data
      obtain ⟨piece, rest, rfl⟩ := exists_cons_of_ne_nil nonempty
      rw [map_cons, map_cons, cons_prefix_cons] at isPrefix
      cases isPrefix.1
      exact ⟨c, serves, found⟩
    · rintro ⟨other, isCurrent, isFound⟩
      rw [serves] at isCurrent
      cases isCurrent
      rw [found] at isFound
      cases isFound
      rw [same rfl]
      refine ⟨c, earlier ++ flushed cfg c host, later, ?_⟩
      simp only [append_assoc, nil_append, cons_append]

end SerialModem.AtHost
