import LibcoRpc.Rpc.Wire
import LibcoRpc.Semantics.Machine
import LibcoRpc.Std.Decimal
import LibcoRpc.Std.OrdMap

/-!
# The connections of `ConnMgr`

Two maps: from the text of an address to the channel of its connection, and from the id of
a session to the text. `GetRpcChannel` fills both, `CloseSession` empties both, and the
service reports the end of a session at any later time, once or more, through
`OnSessionDestroy`. What `LLBC_Service::Connect` returns comes with the step. At the end
stands the destructor, which closes the sessions that are left.
-/

namespace LibcoRpc.Conn

open LibcoRpc.Std
open LibcoRpc.Rpc (Bytes)

/-- Address of an `RpcChannel`. -/
abbrev ChannelPtr := Nat

/-- What the table has done: returned a channel, or closed a session it knew. -/
inductive ConnEvent where
  | got (ip : Bytes) (port : Int) (channel : ChannelPtr)
  | closed (sessionId : Int)
deriving DecidableEq, Repr

/-- `ConnMgr`, as far as its connections go. -/
structure ConnMgr where
  addr2Channel : OrdMap Bytes ChannelPtr
  session2Addr : OrdMap Int Bytes
  /-- `sessionId_` of every channel that has been created. -/
  sessionId : ChannelPtr → Int
  channelCount : Nat
  /-- Every session id that `Connect` has returned. No code reads it. -/
  connected : List Int
  /-- What has happened, newest first. No code reads it. -/
  log : List ConnEvent

/-- A call of one of the entry points. -/
inductive ConnLabel where
  /-- `GetRpcChannel`, and what `Connect` returns if it is called. -/
  | getRpcChannel (ip : Bytes) (port : Int) (sessionId : Int)
  | closeSession (sessionId : Int)
  | onSessionDestroy (sessionId : Int)
deriving DecidableEq, Repr

/-- The text `ip:port`. -/
def addrText (ip : Bytes) (port : Int) : Bytes := ip ++ asciiByte ':' :: decimal port

theorem addrText_injective {ip ip' : Bytes} {port port' : Int}
    (same : addrText ip port = addrText ip' port') : ip = ip' ∧ port = port' := by
  have noColon : ∀ port, asciiByte ':' ∉ decimal port := by
    intro port member
    exact absurd (mem_decimal member) (by decide)
  obtain ⟨sameIp, samePort⟩ := split_at_last (noColon port) (noColon port') same
  exact ⟨sameIp, decimal_injective samePort⟩

namespace ConnMgr

def init : ConnMgr :=
  { addr2Channel := .empty, session2Addr := .empty, sessionId := fun _ => 0, channelCount := 0,
    connected := [], log := [] }

/-- A new `RpcChannel` for a session, entered under its address. -/
def openChannel (s : ConnMgr) (addr : Bytes) (sessionId : Int) : ConnMgr :=
  { s with
    session2Addr := s.session2Addr.emplace sessionId addr
    addr2Channel := s.addr2Channel.emplace addr s.channelCount
    sessionId := Function.update s.sessionId s.channelCount sessionId
    channelCount := s.channelCount + 1
    connected := sessionId :: s.connected }

/-- `ConnMgr::GetRpcChannel`: the channel it returns, and the table after it. -/
def getRpcChannel (s : ConnMgr) (ip : Bytes) (port : Int) (sessionId : Int) :
    Option ChannelPtr × ConnMgr :=
  let addr := addrText ip port
  match s.addr2Channel.find addr with
  | some channel => (some channel, s)
  | none =>
      if sessionId = 0 then (none, s)
      else
        let s := s.openChannel addr sessionId
        (s.addr2Channel.find addr, s)

/-- `ConnMgr::CloseSession`: whether the session was found, and the table after it. -/
def closeSession (s : ConnMgr) (sessionId : Int) : Bool × ConnMgr :=
  match s.session2Addr.find sessionId with
  | none => (false, s)
  | some addr =>
      (true,
        { s with
          addr2Channel := s.addr2Channel.erase addr
          session2Addr := s.session2Addr.erase sessionId })

/-- `CloseSession`, written down. -/
def close (s : ConnMgr) (sessionId : Int) : ConnMgr :=
  match s.closeSession sessionId with
  | (false, s) => s
  | (true, s) => { s with log := .closed sessionId :: s.log }

/-- One call, written down. -/
def next (s : ConnMgr) : ConnLabel → ConnMgr
  | .getRpcChannel ip port sessionId =>
      match s.getRpcChannel ip port sessionId with
      | (none, s) => s
      | (some channel, s) => { s with log := .got ip port channel :: s.log }
  | .closeSession sessionId => s.close sessionId
  -- `ConnComp::OnSessionDestroy` calls `CloseSession` and does nothing else.
  | .onSessionDestroy sessionId => s.close sessionId

end ConnMgr

/-- The table as a machine, which never faults. -/
def connMachine : Machine ConnMgr ConnLabel Empty where
  step s label := .ok (s.next label)

/-- Where `Connect` is called, it returns 0 or an id it has not returned before. -/
def FreshSession (s : ConnMgr) : ConnLabel → Prop
  | .getRpcChannel ip port sessionId =>
      s.addr2Channel.find (addrText ip port) = none → sessionId = 0 ∨ sessionId ∉ s.connected
  | _ => True

instance (s : ConnMgr) : (label : ConnLabel) → Decidable (FreshSession s label)
  | .getRpcChannel ip port sessionId =>
      inferInstanceAs (Decidable (s.addr2Channel.find (addrText ip port) = none →
        sessionId = 0 ∨ sessionId ∉ s.connected))
  | .closeSession _ => isTrue trivial
  | .onSessionDestroy _ => isTrue trivial

/-! ## What one call does -/

/-- Everything one call can do. -/
inductive ConnEffect (s : ConnMgr) : ConnLabel → ConnMgr → Prop where
  | found {ip : Bytes} {port sessionId : Int} {channel : ChannelPtr}
      (known : s.addr2Channel.find (addrText ip port) = some channel) :
      ConnEffect s (.getRpcChannel ip port sessionId)
        { s with log := .got ip port channel :: s.log }
  | failed {ip : Bytes} {port sessionId : Int}
      (unknown : s.addr2Channel.find (addrText ip port) = none) (isZero : sessionId = 0) :
      ConnEffect s (.getRpcChannel ip port sessionId) s
  | opened {ip : Bytes} {port sessionId : Int}
      (unknown : s.addr2Channel.find (addrText ip port) = none) (notZero : sessionId ≠ 0) :
      ConnEffect s (.getRpcChannel ip port sessionId)
        { s.openChannel (addrText ip port) sessionId with
          log := .got ip port s.channelCount :: s.log }
  | stray {label : ConnLabel} {sessionId : Int}
      (which : label = .closeSession sessionId ∨ label = .onSessionDestroy sessionId)
      (unknown : s.session2Addr.find sessionId = none) : ConnEffect s label s
  | closed {label : ConnLabel} {sessionId : Int} {addr : Bytes}
      (which : label = .closeSession sessionId ∨ label = .onSessionDestroy sessionId)
      (known : s.session2Addr.find sessionId = some addr) :
      ConnEffect s label
        { s with
          addr2Channel := s.addr2Channel.erase addr
          session2Addr := s.session2Addr.erase sessionId
          log := .closed sessionId :: s.log }

theorem close_effect (s : ConnMgr) {label : ConnLabel} {sessionId : Int}
    (which : label = .closeSession sessionId ∨ label = .onSessionDestroy sessionId) :
    ConnEffect s label (s.close sessionId) := by
  cases known : s.session2Addr.find sessionId with
  | none =>
      simp only [ConnMgr.close, ConnMgr.closeSession, known]
      exact .stray which known
  | some addr =>
      simp only [ConnMgr.close, ConnMgr.closeSession, known]
      exact .closed which known

theorem next_effect (s : ConnMgr) (label : ConnLabel) : ConnEffect s label (s.next label) := by
  cases label with
  | getRpcChannel ip port sessionId =>
      cases known : s.addr2Channel.find (addrText ip port) with
      | some channel =>
          simp only [ConnMgr.next, ConnMgr.getRpcChannel, known]
          exact .found known
      | none =>
          by_cases isZero : sessionId = 0
          · simp only [ConnMgr.next, ConnMgr.getRpcChannel, known, isZero, if_true]
            exact .failed known rfl
          · have entered : (s.openChannel (addrText ip port) sessionId).addr2Channel.find
                (addrText ip port) = some s.channelCount := by
              simp [ConnMgr.openChannel, OrdMap.find_emplace, known]
            simp only [ConnMgr.next, ConnMgr.getRpcChannel, known, isZero, if_false, entered]
            exact .opened known isZero
  | closeSession sessionId => exact close_effect s (.inl rfl)
  | onSessionDestroy sessionId => exact close_effect s (.inr rfl)

/-! ## Whole runs -/

/-- The two maps lead back to each other. -/
structure Inverse (s : ConnMgr) : Prop where
  toChannel : ∀ sessionId addr, s.session2Addr.find sessionId = some addr →
    ∃ channel, s.addr2Channel.find addr = some channel ∧ s.sessionId channel = sessionId
  toSession : ∀ addr channel, s.addr2Channel.find addr = some channel →
    s.session2Addr.find (s.sessionId channel) = some addr

/-- Every channel has a session of its own, which `Connect` has returned. -/
structure OwnSessions (s : ConnMgr) : Prop where
  created : ∀ addr channel, s.addr2Channel.find addr = some channel → channel < s.channelCount
  connected : ∀ channel, channel < s.channelCount → s.sessionId channel ∈ s.connected
  distinct : ∀ left right, left < s.channelCount → right < s.channelCount →
    s.sessionId left = s.sessionId right → left = right

/-- A channel that has been returned is in the table, under the address it was asked for,
until its session is closed, and never again after that. -/
def Current (s : ConnMgr) : Prop :=
  ∀ newer older ip port channel, s.log = newer ++ .got ip port channel :: older →
    channel < s.channelCount ∧
    (.closed (s.sessionId channel) ∉ newer →
      s.addr2Channel.find (addrText ip port) = some channel) ∧
    (.closed (s.sessionId channel) ∈ newer → ∀ addr, s.addr2Channel.find addr ≠ some channel)

/-- Of two calls that returned a channel, the later one returned the same if and only if it
named the same address and the session had not been closed in between. -/
def SameIff (s : ConnMgr) : Prop :=
  ∀ newer between older ip port channel ip' port' channel',
    s.log = newer ++ .got ip' port' channel' :: (between ++ .got ip port channel :: older) →
    (channel' = channel ↔
      ip' = ip ∧ port' = port ∧ .closed (s.sessionId channel) ∉ between)

/-- The table is consistent with itself and with what has happened. -/
structure Consistent (s : ConnMgr) : Prop where
  inverse : Inverse s
  own : OwnSessions s
  current : Current s
  sameIff : SameIff s

theorem Inverse.injective {s : ConnMgr} (inverse : Inverse s) {left right : Int} {addr : Bytes}
    (leftFound : s.session2Addr.find left = some addr)
    (rightFound : s.session2Addr.find right = some addr) : left = right := by
  obtain ⟨channel, found, isLeft⟩ := inverse.toChannel left addr leftFound
  obtain ⟨channel', found', isRight⟩ := inverse.toChannel right addr rightFound
  have same : channel = channel' := Option.some.inj (found.symm.trans found')
  rw [← isLeft, ← isRight, same]

theorem consistent_init : Consistent ConnMgr.init where
  inverse := ⟨fun _ _ found => (by cases found), fun _ _ found => (by cases found)⟩
  own :=
    ⟨fun _ _ found => (by cases found), fun _ created => absurd created (Nat.not_lt_zero _),
      fun _ _ created => absurd created (Nat.not_lt_zero _)⟩
  current newer _ _ _ _ log := by simp [ConnMgr.init] at log
  sameIff newer _ _ _ _ _ _ _ _ log := by simp [ConnMgr.init] at log

namespace Consistent

variable {s : ConnMgr} (consistent : Consistent s)

include consistent

/-- A session that is not in the table, and not in the past either. -/
theorem session_absent {sessionId : Int} (fresh : sessionId ∉ s.connected) :
    s.session2Addr.find sessionId = none := by
  cases known : s.session2Addr.find sessionId with
  | none => rfl
  | some addr =>
      obtain ⟨channel, found, isSession⟩ := consistent.inverse.toChannel sessionId addr known
      have connected := consistent.own.connected channel (consistent.own.created addr channel found)
      exact absurd (isSession ▸ connected) fresh

/-- `GetRpcChannel` returns the channel that is there. -/
theorem found {ip : Bytes} {port : Int} {channel : ChannelPtr}
    (known : s.addr2Channel.find (addrText ip port) = some channel) :
    Consistent { s with log := .got ip port channel :: s.log } where
  inverse := ⟨consistent.inverse.toChannel, consistent.inverse.toSession⟩
  own := ⟨consistent.own.created, consistent.own.connected, consistent.own.distinct⟩
  current newer older ip' port' channel' log := by
    cases newer with
    | nil =>
        cases log
        exact ⟨consistent.own.created _ _ known, fun _ => known, fun absurd_ => by cases absurd_⟩
    | cons event newer =>
        obtain ⟨rfl, earlier⟩ := List.cons.inj log
        obtain ⟨created, present, gone⟩ := consistent.current newer older ip' port' channel' earlier
        refine ⟨created, fun open_ => present ?_, fun closed => gone ?_⟩
        · exact fun member => open_ (List.mem_cons_of_mem _ member)
        · simpa using closed
  sameIff newer between older ip₁ port₁ channel₁ ip₂ port₂ channel₂ log := by
    cases newer with
    | cons event newer =>
        obtain ⟨rfl, earlier⟩ := List.cons.inj log
        exact consistent.sameIff newer between older _ _ _ _ _ _ earlier
    | nil =>
        obtain ⟨isGot, earlier⟩ := List.cons.inj log
        cases isGot
        obtain ⟨created, present, gone⟩ :=
          consistent.current between older ip₁ port₁ channel₁ earlier
        constructor
        · rintro rfl
          have open_ : ConnEvent.closed (s.sessionId channel) ∉ between :=
            fun closed => gone closed _ known
          have sameAddr : addrText ip port = addrText ip₁ port₁ := by
            have left := consistent.inverse.toSession _ _ known
            have right := consistent.inverse.toSession _ _ (present open_)
            exact Option.some.inj (left.symm.trans right)
          obtain ⟨sameIp, samePort⟩ := addrText_injective sameAddr
          exact ⟨sameIp, samePort, open_⟩
        · rintro ⟨rfl, rfl, open_⟩
          exact Option.some.inj (known.symm.trans (present open_))

omit consistent in
theorem find_opened {addr : Bytes} (unknown : s.addr2Channel.find addr = none) (sessionId : Int)
    (other : Bytes) :
    (s.openChannel addr sessionId).addr2Channel.find other =
      if other = addr then some s.channelCount else s.addr2Channel.find other := by
  simp [ConnMgr.openChannel, OrdMap.find_emplace, unknown]

theorem session_opened {sessionId : Int} (fresh : sessionId ∉ s.connected) (addr : Bytes)
    (other : Int) :
    (s.openChannel addr sessionId).session2Addr.find other =
      if other = sessionId then some addr else s.session2Addr.find other := by
  simp [ConnMgr.openChannel, OrdMap.find_emplace, consistent.session_absent fresh]

omit consistent in
theorem sessionId_opened {addr : Bytes} {sessionId : Int} {channel : ChannelPtr}
    (created : channel < s.channelCount) :
    (s.openChannel addr sessionId).sessionId channel = s.sessionId channel :=
  Function.update_of_ne (Nat.ne_of_lt created) _ _

omit consistent in
theorem sessionId_new {addr : Bytes} {sessionId : Int} :
    (s.openChannel addr sessionId).sessionId s.channelCount = sessionId :=
  Function.update_self ..

section

variable {addr : Bytes} {sessionId : Int} (unknown : s.addr2Channel.find addr = none)
  (fresh : sessionId ∉ s.connected)

include unknown fresh

theorem inverse_opened : Inverse (s.openChannel addr sessionId) := by
  constructor
  · intro other addr' found
    rw [consistent.session_opened fresh] at found
    split at found
    next same =>
      cases found
      exact ⟨s.channelCount, by rw [find_opened unknown, if_pos rfl], by rw [sessionId_new, same]⟩
    next =>
      obtain ⟨channel, known, isSession⟩ := consistent.inverse.toChannel other addr' found
      have otherAddr : addr' ≠ addr := by
        rintro rfl
        rw [unknown] at known
        cases known
      refine ⟨channel, by rw [find_opened unknown, if_neg otherAddr, known], ?_⟩
      rw [sessionId_opened (consistent.own.created addr' channel known), isSession]
  · intro addr' channel found
    rw [find_opened unknown] at found
    split at found
    next same =>
      cases found
      rw [sessionId_new, consistent.session_opened fresh, if_pos rfl, same]
    next =>
      have created := consistent.own.created addr' channel found
      have otherSession : s.sessionId channel ≠ sessionId := by
        rintro rfl
        exact fresh (consistent.own.connected channel created)
      rw [sessionId_opened created, consistent.session_opened fresh, if_neg otherSession]
      exact consistent.inverse.toSession addr' channel found

theorem ownSessions_opened : OwnSessions (s.openChannel addr sessionId) := by
  have isNew : ∀ {channel}, channel < s.channelCount →
      (s.openChannel addr sessionId).sessionId channel ≠ sessionId := by
    intro channel created same
    rw [sessionId_opened created] at same
    exact fresh (same ▸ consistent.own.connected channel created)
  constructor
  · intro addr' channel found
    rw [find_opened unknown] at found
    split at found
    · cases found
      exact Nat.lt_succ_self _
    · exact Nat.lt_succ_of_lt (consistent.own.created addr' channel found)
  · intro channel created
    rcases Nat.lt_succ_iff_lt_or_eq.mp created with before | rfl
    · rw [sessionId_opened before]
      exact List.mem_cons_of_mem _ (consistent.own.connected channel before)
    · rw [sessionId_new]
      exact List.mem_cons_self
  · intro left right createdLeft createdRight same
    rcases Nat.lt_succ_iff_lt_or_eq.mp createdLeft with beforeLeft | rfl <;>
      rcases Nat.lt_succ_iff_lt_or_eq.mp createdRight with beforeRight | rfl
    · rw [sessionId_opened beforeLeft, sessionId_opened beforeRight] at same
      exact consistent.own.distinct left right beforeLeft beforeRight same
    · rw [sessionId_new] at same
      exact absurd same (isNew beforeLeft)
    · rw [sessionId_new] at same
      exact absurd same.symm (isNew beforeRight)
    · rfl

end

/-- `GetRpcChannel` opens a channel that was not there. -/
theorem opened {ip : Bytes} {port sessionId : Int}
    (unknown : s.addr2Channel.find (addrText ip port) = none) (fresh : sessionId ∉ s.connected) :
    Consistent
      { s.openChannel (addrText ip port) sessionId with
        log := .got ip port s.channelCount :: s.log } where
  inverse :=
    have inverse := consistent.inverse_opened unknown fresh
    ⟨inverse.toChannel, inverse.toSession⟩
  own :=
    have own := consistent.ownSessions_opened unknown fresh
    ⟨own.created, own.connected, own.distinct⟩
  current newer older ip' port' channel' log := by
    cases newer with
    | nil =>
        cases log
        refine ⟨Nat.lt_succ_self _, fun _ => ?_, fun closed => by cases closed⟩
        exact (find_opened unknown sessionId _).trans (if_pos rfl)
    | cons event newer =>
        obtain ⟨rfl, earlier⟩ := List.cons.inj log
        obtain ⟨created, present, gone⟩ := consistent.current newer older ip' port' channel' earlier
        simp only [sessionId_opened created, List.mem_cons, reduceCtorEq, false_or]
        refine ⟨Nat.lt_succ_of_lt created, fun open_ => ?_, fun closed addr found => ?_⟩
        · have known := present open_
          have otherAddr : addrText ip' port' ≠ addrText ip port := by
            intro same
            rw [same, unknown] at known
            cases known
          rw [find_opened unknown, if_neg otherAddr, known]
        · rw [find_opened unknown] at found
          split at found
          · exact absurd (Option.some.inj found) (Nat.ne_of_gt created)
          · exact gone closed addr found
  sameIff newer between older ip₁ port₁ channel₁ ip₂ port₂ channel₂ log := by
    cases newer with
    | cons event newer =>
        obtain ⟨rfl, earlier⟩ := List.cons.inj log
        have created := consistent.current (newer ++ .got ip₂ port₂ channel₂ :: between) older
          ip₁ port₁ channel₁ (by simpa using earlier)
        simp only [sessionId_opened created.1]
        exact consistent.sameIff newer between older _ _ _ _ _ _ earlier
    | nil =>
        obtain ⟨isGot, earlier⟩ := List.cons.inj log
        cases isGot
        obtain ⟨created, present, -⟩ := consistent.current between older ip₁ port₁ channel₁ earlier
        simp only [sessionId_opened created]
        constructor
        · rintro rfl
          exact absurd created (Nat.lt_irrefl _)
        · rintro ⟨rfl, rfl, open_⟩
          have known := present open_
          rw [unknown] at known
          cases known

/-- `CloseSession` closes a session that it knows. -/
theorem closed {sessionId : Int} {addr : Bytes}
    (known : s.session2Addr.find sessionId = some addr) :
    Consistent
      { s with
        addr2Channel := s.addr2Channel.erase addr
        session2Addr := s.session2Addr.erase sessionId
        log := .closed sessionId :: s.log } := by
  have atAddr : ∀ {channel}, s.addr2Channel.find addr = some channel →
      s.sessionId channel = sessionId := by
    intro channel found
    obtain ⟨channel', found', isSession⟩ := consistent.inverse.toChannel sessionId addr known
    have same : channel = channel' := Option.some.inj (found.symm.trans found')
    rw [same, isSession]
  constructor
  case inverse =>
    constructor
    · intro other addr' found
      simp only [OrdMap.find_erase] at found ⊢
      split at found
      · cases found
      next different =>
        obtain ⟨channel, at_, isSession⟩ := consistent.inverse.toChannel other addr' found
        have otherAddr : addr' ≠ addr := by
          rintro rfl
          exact different (consistent.inverse.injective found known)
        exact ⟨channel, by rw [if_neg otherAddr, at_], isSession⟩
    · intro addr' channel found
      simp only [OrdMap.find_erase] at found ⊢
      split at found
      · cases found
      next different =>
        have back := consistent.inverse.toSession addr' channel found
        have otherSession : s.sessionId channel ≠ sessionId := by
          intro same
          rw [same, known] at back
          exact different (Option.some.inj back).symm
        rw [if_neg otherSession, back]
  case own =>
    refine ⟨fun addr' channel found => ?_, consistent.own.connected, consistent.own.distinct⟩
    simp only [OrdMap.find_erase] at found
    split at found
    · cases found
    · exact consistent.own.created addr' channel found
  case current =>
    intro newer older ip port channel log
    cases newer with
    | nil => cases log
    | cons event newer =>
        obtain ⟨rfl, earlier⟩ := List.cons.inj log
        obtain ⟨created, present, gone⟩ := consistent.current newer older ip port channel earlier
        simp only [OrdMap.find_erase, List.mem_cons, ConnEvent.closed.injEq, not_or]
        refine ⟨created, ?_, ?_⟩
        · rintro ⟨otherSession, open_⟩
          have found := present open_
          have otherAddr : addrText ip port ≠ addr := by
            intro same
            rw [same] at found
            exact otherSession (atAddr found)
          rw [if_neg otherAddr, found]
        · rintro closed addr' found
          split at found
          · cases found
          next different =>
            rcases closed with same | before
            · have back := consistent.inverse.toSession addr' channel found
              rw [same, known] at back
              exact different (Option.some.inj back).symm
            · exact gone before addr' found
  case sameIff =>
    intro newer between older ip port channel ip' port' channel' log
    cases newer with
    | nil => cases log
    | cons event newer =>
        obtain ⟨rfl, earlier⟩ := List.cons.inj log
        exact consistent.sameIff newer between older _ _ _ _ _ _ earlier

theorem step {label : ConnLabel} {s' : ConnMgr} (effect : ConnEffect s label s')
    (fresh : FreshSession s label) : Consistent s' := by
  cases effect with
  | found known => exact consistent.found known
  | failed => exact consistent
  | opened unknown notZero =>
      exact consistent.opened unknown ((fresh unknown).resolve_left notZero)
  | stray => exact consistent
  | closed _ known => exact consistent.closed known

end Consistent

theorem consistent_of_run {s : ConnMgr}
    (run : connMachine.Run FreshSession ConnMgr.init s) : Consistent s := by
  induction run with
  | start => exact consistent_init
  | step _ fresh taken consistent =>
      cases taken
      exact consistent.step (next_effect _ _) fresh

/-- The end of one session leaves the channel of every other one where it is. -/
theorem Consistent.kept {s : ConnMgr} (consistent : Consistent s) {sessionId : Int} {addr : Bytes}
    {channel : ChannelPtr} (found : s.addr2Channel.find addr = some channel)
    (other : s.sessionId channel ≠ sessionId) :
    (s.close sessionId).addr2Channel.find addr = some channel := by
  cases known : s.session2Addr.find sessionId with
  | none => simpa only [ConnMgr.close, ConnMgr.closeSession, known] using found
  | some ended =>
      have otherAddr : addr ≠ ended := by
        rintro rfl
        exact other (consistent.inverse.injective (consistent.inverse.toSession _ _ found) known)
      simpa only [ConnMgr.close, ConnMgr.closeSession, known, OrdMap.find_erase,
        if_neg otherAddr] using found

/-- However connections are asked for and sessions end, and however late or often the ends
are reported: the two maps are inverse to each other, two calls of `GetRpcChannel` return
the same channel exactly if they name the same address and its session was not closed in
between, a failed `Connect` changes nothing, and the end of one session leaves every other
channel where it is. -/
theorem connections_consistent {s : ConnMgr}
    (run : connMachine.Run FreshSession ConnMgr.init s) :
    (∀ left right addr, s.session2Addr.find left = some addr →
      s.session2Addr.find right = some addr → left = right) ∧
    (∀ addr, (∃ sessionId, s.session2Addr.find sessionId = some addr) ↔
      ∃ channel, s.addr2Channel.find addr = some channel) ∧
    (∀ sessionId addr channel, s.session2Addr.find sessionId = some addr →
      s.addr2Channel.find addr = some channel → s.sessionId channel = sessionId) ∧
    SameIff s ∧
    (∀ ip port, s.addr2Channel.find (addrText ip port) = none →
      s.getRpcChannel ip port 0 = (none, s) ∧ s.next (.getRpcChannel ip port 0) = s) ∧
    (∀ sessionId addr channel, s.addr2Channel.find addr = some channel →
      s.sessionId channel ≠ sessionId →
      (s.next (.onSessionDestroy sessionId)).addr2Channel.find addr = some channel ∧
      (s.next (.closeSession sessionId)).addr2Channel.find addr = some channel) := by
  have consistent := consistent_of_run run
  refine ⟨fun _ _ _ => consistent.inverse.injective, fun addr => ⟨?_, ?_⟩, ?_, consistent.sameIff,
    ?_, ?_⟩
  · rintro ⟨sessionId, known⟩
    obtain ⟨channel, found, -⟩ := consistent.inverse.toChannel sessionId addr known
    exact ⟨channel, found⟩
  · rintro ⟨channel, found⟩
    exact ⟨s.sessionId channel, consistent.inverse.toSession addr channel found⟩
  · intro sessionId addr channel known found
    exact consistent.inverse.injective (consistent.inverse.toSession addr channel found) known
  · intro ip port unknown
    simp [ConnMgr.next, ConnMgr.getRpcChannel, unknown]
  · intro sessionId addr channel found other
    exact ⟨consistent.kept found other, consistent.kept found other⟩

/-- A connection is opened, closed and opened again to the same address, and the end of its
first session is reported only then. -/
theorem late_destroy_harmless :
    let s := (connMachine.replay (fun s label => decide (FreshSession s label)) ConnMgr.init
      [.getRpcChannel [49] 80 5, .closeSession 5, .getRpcChannel [49] 80 6,
        .onSessionDestroy 7]).get (by decide +kernel)
    s.log = [.got [49] 80 1, .closed 5, .got [49] 80 0] ∧
      (s.next (.onSessionDestroy 5)).addr2Channel.find (addrText [49] 80) = some 1 :=
  ⟨by decide +kernel, ((connections_consistent (.of_replay
    (fun _ _ passes => of_decide_eq_true passes) (Option.some_get _).symm)).2.2.2.2.2
      5 (addrText [49] 80) 1 (by decide +kernel) (by decide +kernel)).1⟩

/-! ## Shutdown -/

/-- Why the destructor has no end. -/
inductive DestroyFault where
  /-- Its loop advances from an element that has been erased. -/
  | iteratorInvalid
deriving DecidableEq, Repr

/-- The loop of `ConnMgr::~ConnMgr` over the elements that are left, in the order in which
`session2Addr_` happens to hold them. The iterator is advanced after the body has run. -/
def ConnMgr.destroy (s : ConnMgr) : List Int → Except DestroyFault ConnMgr
  | [] => .ok s
  | sessionId :: rest =>
      let s := s.close sessionId
      if (s.session2Addr.find sessionId).isNone then .error .iteratorInvalid
      else s.destroy rest

/-- The destructor comes to its end, both maps are empty then, and each session has been
closed once. -/
def ClosesAll (s : ConnMgr) (order : List Int) : Prop :=
  ∃ s', s.destroy order = .ok s' ∧ s'.session2Addr.entries = [] ∧ s'.addr2Channel.entries = [] ∧
    s'.log = (order.map ConnEvent.closed).reverse ++ s.log

/-- Whether it knew the session or not, `CloseSession` leaves no element for it. -/
theorem close_erases (s : ConnMgr) (sessionId : Int) :
    (s.close sessionId).session2Addr.find sessionId = none := by
  cases known : s.session2Addr.find sessionId with
  | none => simp only [ConnMgr.close, ConnMgr.closeSession, known]
  | some addr =>
      simp only [ConnMgr.close, ConnMgr.closeSession, known, OrdMap.find_erase, if_true]

/-- With a session left, the loop advances from an erased element. -/
theorem destroy_cons (s : ConnMgr) (sessionId : Int) (rest : List Int) :
    s.destroy (sessionId :: rest) = .error .iteratorInvalid := by
  simp only [ConnMgr.destroy, close_erases, Option.isNone_none, if_true]

/-- In whatever order the map holds its sessions, the destructor closes them all if and only
if there is none. -/
theorem destructor_closes_all_iff (s : ConnMgr) {order : List Int}
    (enumerates : order.Perm (s.session2Addr.entries.map Prod.fst)) :
    ClosesAll s order ↔ s.session2Addr.entries = [] ∧ s.addr2Channel.entries = [] := by
  cases order with
  | nil =>
      have none : s.session2Addr.entries = [] := by simpa using enumerates
      constructor
      · rintro ⟨s', ends, sessions, channels, -⟩
        cases ends
        exact ⟨sessions, channels⟩
      · rintro ⟨-, channels⟩
        exact ⟨s, rfl, none, channels, rfl⟩
  | cons sessionId rest =>
      constructor
      · rintro ⟨s', ends, -⟩
        rw [destroy_cons] at ends
        cases ends
      · rintro ⟨sessions, -⟩
        rw [sessions] at enumerates
        simp at enumerates

/-- Without a connection the destructor has nothing to do. -/
theorem idle_destructor : ClosesAll ConnMgr.init [] :=
  (destructor_closes_all_iff ConnMgr.init (List.Perm.refl [])).mpr ⟨rfl, rfl⟩

/-- One connection is open when the manager is destroyed. -/
theorem open_session_destructor :
    let s := ConnMgr.init.next (.getRpcChannel [49] 80 5)
    [5].Perm (s.session2Addr.entries.map Prod.fst) ∧
      s.destroy [5] = .error .iteratorInvalid := by
  intro s
  exact ⟨List.Perm.refl [5], destroy_cons s 5 []⟩

end LibcoRpc.Conn
