/-
  The sessions of a user, as the summary and the statistics of the attendance count them.

  The summary searches forward from each clock-in to the first clock-out, whatever lies in between;
  the statistics keep one pending clock-in, which the next one replaces.
-/
import NovaLabs.Lib.Pairing
import NovaLabs.ManageHub.Attendance

namespace ManageHub

open Lib Soroban

/-! ## Data -/

structure DateRange where
  startTime : ℕ
  endTime : ℕ

structure SessionPair where
  clockInTime : ℕ
  clockOutTime : ℕ
  duration : ℕ
  deriving DecidableEq

structure AttendanceSummary where
  userId : Address
  dateRangeStart : ℕ
  dateRangeEnd : ℕ
  totalClockIns : ℕ
  totalClockOuts : ℕ
  totalDuration : ℕ
  averageSessionDuration : ℕ
  totalSessions : ℕ
  deriving DecidableEq

structure UserAttendanceStats where
  userId : Address
  totalSessions : ℕ
  totalDuration : ℕ
  averageDuration : ℕ
  firstClockIn : ℕ
  lastClockOut : ℕ
  totalDaysPresent : ℕ
  deriving DecidableEq

/-! ## Code -/

def getLogsForUser (userId : Address) : Fn (List AttendanceLog) := do
  return (← load (.attendanceLogsByUser userId)).getD []

def filterLogsByDateRange (logs : List AttendanceLog) (range : DateRange) : List AttendanceLog :=
  logs.filter fun log => range.startTime ≤ log.timestamp ∧ log.timestamp ≤ range.endTime

/-- What the loop of `getAttendanceSummary` has counted. -/
structure SummaryTotals where
  totalClockIns : ℕ
  totalClockOuts : ℕ
  totalDuration : ℕ
  sessions : List SessionPair

/-- The loop of `getAttendanceSummary`. -/
def summarize : List AttendanceLog → SummaryTotals → Fn SummaryTotals
  | [], totals => pure totals
  | log :: rest, totals =>
    match log.action with
    | .clockIn => do
      let totalClockIns ← checked 32 (totals.totalClockIns + 1)
      match rest.find? fun nextLog => nextLog.action = .clockOut with
      | some nextLog => do
        let duration ← checkedSub nextLog.timestamp log.timestamp
        let totalDuration ← checked 64 (totals.totalDuration + duration)
        let session := ⟨log.timestamp, nextLog.timestamp, duration⟩
        summarize rest
          { totals with totalClockIns, totalDuration, sessions := totals.sessions ++ [session] }
      | none => summarize rest { totals with totalClockIns }
    | .clockOut => do
      let totalClockOuts ← checked 32 (totals.totalClockOuts + 1)
      summarize rest { totals with totalClockOuts }

/-- The average of a sum over a number of sessions, or zero if there are none. -/
def averageOver (totalDuration totalSessions : ℕ) : ℕ :=
  if 0 < totalSessions then totalDuration / totalSessions else 0

def getAttendanceSummary (userId : Address) (range : DateRange) : Fn AttendanceSummary := do
  failIf (range.endTime < range.startTime) .invalidDateRange
  let logs ← getLogsForUser userId
  failIf (logs = []) .noAttendanceRecords
  let filteredLogs := filterLogsByDateRange logs range
  failIf (filteredLogs = []) .noAttendanceRecords
  let totals ← summarize filteredLogs ⟨0, 0, 0, []⟩
  let totalSessions := totals.sessions.length
  return { userId, dateRangeStart := range.startTime, dateRangeEnd := range.endTime,
           totalClockIns := totals.totalClockIns, totalClockOuts := totals.totalClockOuts,
           totalDuration := totals.totalDuration,
           averageSessionDuration := averageOver totals.totalDuration totalSessions, totalSessions }

/-- One round of the loop of `parseSessions`, on the sessions found and the pending clock-in. -/
def parseLog (found : List SessionPair × Option ℕ) (log : AttendanceLog) :
    Fn (List SessionPair × Option ℕ) :=
  match log.action with
  | .clockIn => pure (found.1, some log.timestamp)
  | .clockOut =>
    match found.2 with
    | some clockInTime => do
      let duration ← checkedSub log.timestamp clockInTime
      return (found.1 ++ [⟨clockInTime, log.timestamp, duration⟩], none)
    | none => pure found

def parseSessions (logs : List AttendanceLog) : Fn (List SessionPair) := do
  let found ← logs.foldlM parseLog ([], none)
  return found.1

/-- What the loop of `getUserStatistics` has counted. -/
structure StatisticsTotals where
  totalDuration : ℕ
  firstClockIn : ℕ
  lastClockOut : ℕ
  uniqueDays : List ℕ

/-- One round of the loop of `getUserStatistics`. -/
def countSession (totals : StatisticsTotals) (session : SessionPair) : Fn StatisticsTotals := do
  let totalDuration ← checked 64 (totals.totalDuration + session.duration)
  let day := session.clockInTime / 86400
  return { totalDuration
           firstClockIn :=
             if session.clockInTime < totals.firstClockIn then session.clockInTime
             else totals.firstClockIn
           lastClockOut :=
             if totals.lastClockOut < session.clockOutTime then session.clockOutTime
             else totals.lastClockOut
           uniqueDays :=
             if day ∈ totals.uniqueDays then totals.uniqueDays else totals.uniqueDays ++ [day] }

def getUserStatistics (userId : Address) (range : Option DateRange) : Fn UserAttendanceStats := do
  let logs ← getLogsForUser userId
  failIf (logs = []) .noAttendanceRecords
  let filteredLogs ←
    match range with
    | some range => do
      failIf (range.endTime < range.startTime) .invalidDateRange
      pure (filterLogsByDateRange logs range)
    | none => pure logs
  failIf (filteredLogs = []) .noAttendanceRecords
  let sessions ← parseSessions filteredLogs
  let totalSessions := sessions.length
  let totals ← sessions.foldlM countSession ⟨0, 2 ^ 64 - 1, 0, []⟩
  return { userId, totalSessions, totalDuration := totals.totalDuration,
           averageDuration := averageOver totals.totalDuration totalSessions,
           firstClockIn := totals.firstClockIn, lastClockOut := totals.lastClockOut,
           totalDaysPresent := totals.uniqueDays.length }

/-! ## Sessions as pairs of logs -/

/-- Whether a log opens a session. -/
def AttendanceLog.clocksIn (log : AttendanceLog) : Bool := log.action = .clockIn

/-- The session from one log to another. -/
def sessionOf (x : AttendanceLog × AttendanceLog) : SessionPair :=
  ⟨x.1.timestamp, x.2.timestamp, x.2.timestamp - x.1.timestamp⟩

/-- The logs that an optional date range leaves. -/
def State.logsIn (s : State) (userId : Address) (range : Option DateRange) : List AttendanceLog :=
  range.elim (s.logsOf userId) (filterLogsByDateRange (s.logsOf userId))

section
variable {s s' : State} {u : Address} {r : DateRange} {o : Option DateRange}
  {logs : List AttendanceLog} {log : AttendanceLog}

theorem clocksIn_eq_true : log.clocksIn = true ↔ log.action = .clockIn := by
  simp [AttendanceLog.clocksIn]

theorem clocksIn_eq_false : log.clocksIn = false ↔ log.action = .clockOut := by
  rcases h : log.action <;> simp [AttendanceLog.clocksIn, h]

theorem not_clocksIn_eq :
    (fun log : AttendanceLog => !log.clocksIn) = fun log => decide (log.action = .clockOut) := by
  funext log
  rcases h : log.action <;> simp [AttendanceLog.clocksIn, h]

theorem getLogsForUser_returns_bind {α : Type} {f : List AttendanceLog → Fn α} {a : α} :
    Returns (getLogsForUser u >>= f) s a s' ↔ Returns (f (s.logsOf u)) s a s' := by
  rw [getLogsForUser, bind_assoc, returns_load_bind, pure_bind]
  rfl

/-! ## The summary -/

/-- The summary's loop pairs each clock-in with the first clock-out after it. -/
theorem summarize_returns {totals totals' : SummaryTotals}
    (h : Returns (summarize logs totals) s totals' s') :
    totals'.sessions =
        totals.sessions ++ (firstLater AttendanceLog.clocksIn logs).map sessionOf ∧
      totals'.totalDuration = totals.totalDuration +
        ((firstLater AttendanceLog.clocksIn logs).map fun x => (sessionOf x).duration).sum := by
  induction logs generalizing s totals with
  | nil =>
    obtain ⟨rfl, -⟩ := returns_pure.1 h
    simp [firstLater]
  | cons log rest ih =>
    cases ha : log.action with
    | clockIn =>
      have hin := clocksIn_eq_true.2 ha
      simp only [summarize, ha, returns_checked_bind, ← not_clocksIn_eq] at h
      cases hf : rest.find? fun log => !log.clocksIn with
      | none =>
        rw [hf] at h
        rw [firstLater_cons_none hin hf]
        have ht := ih h.2
        exact ht
      | some nextLog =>
        simp only [hf, returns_checkedSub_bind, returns_checked_bind] at h
        obtain ⟨-, -, -, h⟩ := h
        obtain ⟨hsessions, hduration⟩ := ih h
        rw [firstLater_cons_some hin hf, hsessions, hduration]
        simp only [List.map_cons, List.sum_cons, List.append_assoc, List.singleton_append, sessionOf,
          add_assoc, and_self]
    | clockOut =>
      simp only [summarize, ha, returns_checked_bind] at h
      rw [firstLater_cons_closing (clocksIn_eq_false.2 ha)]
      have ht := ih h.2
      exact ht

/-- What the summary counts. -/
theorem getAttendanceSummary_returns {summary : AttendanceSummary}
    (h : Returns (getAttendanceSummary u r) s summary s') :
    summary.totalSessions =
        (firstLater AttendanceLog.clocksIn (s.logsIn u (some r))).length ∧
      summary.totalDuration = ((firstLater AttendanceLog.clocksIn (s.logsIn u (some r))).map
        fun x => (sessionOf x).duration).sum := by
  simp only [getAttendanceSummary, returns_failIf_bind, getLogsForUser_returns_bind] at h
  obtain ⟨-, -, -, h⟩ := h
  obtain ⟨totals, _, htotals, h⟩ := returns_bind.1 h
  obtain ⟨rfl, -⟩ := returns_pure.1 h
  obtain ⟨hsessions, hduration⟩ := summarize_returns htotals
  rw [List.nil_append] at hsessions
  rw [zero_add] at hduration
  refine ⟨?_, hduration⟩
  dsimp only
  rw [hsessions, List.length_map]
  rfl

/-! ## The statistics -/

/-- The loop of `parseSessions` pairs neighbours, the pending clock-in first. -/
theorem parseLog_foldlM {found r : List SessionPair × Option ℕ} {before : Option AttendanceLog}
    (hbefore : ∀ log ∈ before, log.clocksIn = true)
    (hp : found.2 = before.map AttendanceLog.timestamp)
    (h : Returns (logs.foldlM parseLog found) s r s') :
    r.1 = found.1 ++ (neighbours AttendanceLog.clocksIn (before.toList ++ logs)).map sessionOf ∧
      ∀ x ∈ neighbours AttendanceLog.clocksIn (before.toList ++ logs),
        x.1.timestamp ≤ x.2.timestamp := by
  induction logs generalizing s found before with
  | nil =>
    obtain ⟨rfl, -⟩ := returns_pure.1 h
    cases before <;> simp [neighbours]
  | cons log logs ih =>
    rw [List.foldlM_cons] at h
    obtain ⟨found', s₁, h₁, h₂⟩ := returns_bind.1 h
    cases ha : log.action with
    | clockIn =>
      have hin := clocksIn_eq_true.2 ha
      simp only [parseLog, ha, returns_pure] at h₁
      obtain ⟨rfl, -⟩ := h₁
      -- the log is the pending one now
      have hlog : ∀ log' ∈ some log, log'.clocksIn = true := by simpa using hin
      have ht := ih hlog rfl h₂
      cases before with
      | none => exact ht
      | some pending =>
        rw [Option.toList_some, List.singleton_append, neighbours_cons_opening hin]
        exact ht
    | clockOut =>
      have hout := clocksIn_eq_false.2 ha
      cases before with
      | none =>
        simp only [parseLog, ha, hp, Option.map_none, returns_pure] at h₁
        obtain ⟨rfl, -⟩ := h₁
        rw [Option.toList_none, List.nil_append, neighbours_cons_closing hout]
        exact ih hbefore hp h₂
      | some pending =>
        have hin := hbefore pending rfl
        simp only [parseLog, ha, hp, Option.map_some, returns_checkedSub_bind, returns_pure] at h₁
        obtain ⟨hle, rfl, -⟩ := h₁
        have hnone : ∀ log ∈ (none : Option AttendanceLog), log.clocksIn = true := by simp
        obtain ⟨hr, hall⟩ := ih hnone rfl h₂
        rw [Option.toList_some, List.singleton_append, neighbours_cons_pair hin hout]
        refine ⟨?_, List.forall_mem_cons.2 ⟨hle, hall⟩⟩
        rw [hr, List.append_assoc]
        rfl

/-- The sessions that `parseSessions` finds are those from neighbours to neighbours, none of which
    runs backwards. -/
theorem parseSessions_returns {sessions : List SessionPair} :
    Returns (parseSessions logs) s sessions s' →
      sessions = (neighbours AttendanceLog.clocksIn logs).map sessionOf ∧
        (∀ x ∈ neighbours AttendanceLog.clocksIn logs, x.1.timestamp ≤ x.2.timestamp) := by
  intro h
  obtain ⟨found, _, hfound, h⟩ := returns_bind.1 h
  obtain ⟨rfl, -⟩ := returns_pure.1 h
  have hnone : ∀ log ∈ (none : Option AttendanceLog), log.clocksIn = true := by simp
  obtain ⟨hr, hall⟩ := parseLog_foldlM hnone rfl hfound
  exact ⟨hr, hall⟩

/-- The days that are counted are at most as many as the sessions. -/
theorem countSession_foldlM {totals totals' : StatisticsTotals} {sessions : List SessionPair}
    (h : Returns (sessions.foldlM countSession totals) s totals' s') :
    totals'.totalDuration = totals.totalDuration + (sessions.map SessionPair.duration).sum ∧
      totals'.uniqueDays.length ≤ totals.uniqueDays.length + sessions.length := by
  induction sessions generalizing s totals with
  | nil =>
    obtain ⟨rfl, -⟩ := returns_pure.1 h
    simp
  | cons session sessions ih =>
    rw [List.foldlM_cons, countSession, bind_assoc, returns_checked_bind, pure_bind] at h
    obtain ⟨hduration, hdays⟩ := ih h.2
    refine ⟨by rw [hduration, List.map_cons, List.sum_cons, add_assoc], hdays.trans ?_⟩
    rw [List.length_cons]
    dsimp only
    split_ifs
    · omega
    · rw [List.length_append, List.length_singleton]
      omega

/-- Sessions one after the other fit between the first clock-in and the last clock-out. -/
theorem countSession_foldlM_fits {totals totals' : StatisticsTotals} {sessions : List SessionPair}
    (hvalid : ∀ x ∈ sessions, x.clockInTime + x.duration = x.clockOutTime)
    (hsorted : sessions.Pairwise fun x y => x.clockOutTime ≤ y.clockInTime)
    (hafter : ∀ x ∈ sessions, totals.lastClockOut ≤ x.clockInTime)
    (hfits : totals.firstClockIn + totals.totalDuration ≤ totals.lastClockOut ∨
      (totals.totalDuration = 0 ∧ sessions ≠ []))
    (h : Returns (sessions.foldlM countSession totals) s totals' s') :
    totals'.firstClockIn + totals'.totalDuration ≤ totals'.lastClockOut := by
  induction sessions generalizing s totals with
  | nil =>
    obtain ⟨rfl, -⟩ := returns_pure.1 h
    exact hfits.elim id fun h => absurd rfl h.2
  | cons x sessions ih =>
    rw [List.foldlM_cons, countSession, bind_assoc, returns_checked_bind, pure_bind] at h
    obtain ⟨hx, hvalid⟩ := List.forall_mem_cons.1 hvalid
    obtain ⟨hnext, hsorted⟩ := List.pairwise_cons.1 hsorted
    have hle := hafter x (.head _)
    have hlast : (if totals.lastClockOut < x.clockOutTime then x.clockOutTime
        else totals.lastClockOut) = x.clockOutTime := by split_ifs <;> omega
    have hfirst : (if x.clockInTime < totals.firstClockIn then x.clockInTime
        else totals.firstClockIn) ≤ x.clockInTime ∧ (if x.clockInTime < totals.firstClockIn then
          x.clockInTime else totals.firstClockIn) ≤ totals.firstClockIn := by
      split_ifs <;> omega
    refine ih hvalid hsorted ?_ (Or.inl ?_) h.2
    · dsimp only
      rw [hlast]
      exact hnext
    · dsimp only
      rw [hlast]
      rcases hfits with hfits | ⟨hzero, -⟩
      · omega
      · omega

instance {found : List SessionPair × Option ℕ} : Only [] (parseLog found log) := by
  unfold parseLog
  split
  · infer_instance
  · split <;> infer_instance

instance : Only [] (parseSessions logs) := by
  unfold parseSessions
  infer_instance

instance {totals : StatisticsTotals} {session : SessionPair} :
    Only [] (countSession totals session) := by
  unfold countSession
  infer_instance

/-- The statistics are those of the sessions in the optional date range. -/
theorem getUserStatistics_returns {stats : UserAttendanceStats}
    (h : Returns (getUserStatistics u o) s stats s') :
    ∃ sessions totals, Returns (parseSessions (s.logsIn u o)) s sessions s ∧
      Returns (sessions.foldlM countSession ⟨0, 2 ^ 64 - 1, 0, []⟩) s totals s ∧
      stats = ⟨u, sessions.length, totals.totalDuration,
        averageOver totals.totalDuration sessions.length, totals.firstClockIn, totals.lastClockOut,
        totals.uniqueDays.length⟩ := by
  rw [getUserStatistics, getLogsForUser_returns_bind, returns_failIf_bind] at h
  replace h := h.2
  have hlogs : Returns (do
      failIf (s.logsIn u o = []) .noAttendanceRecords
      let sessions ← parseSessions (s.logsIn u o)
      let totals ← sessions.foldlM countSession ⟨0, 2 ^ 64 - 1, 0, []⟩
      return ⟨u, sessions.length, totals.totalDuration,
        averageOver totals.totalDuration sessions.length, totals.firstClockIn, totals.lastClockOut,
        totals.uniqueDays.length⟩) s stats s' := by
    cases o with
    | none => exact h
    | some r =>
      dsimp only at h
      rw [returns_failIf_bind, pure_bind] at h
      exact h.2
  rw [returns_failIf_bind] at hlogs
  obtain ⟨sessions, hsessions, h⟩ := returns_reads_bind.1 hlogs.2
  obtain ⟨totals, htotals, h⟩ := returns_reads_bind.1 h
  exact ⟨sessions, totals, hsessions, htotals, (returns_pure.1 h).1⟩

/-! ## Agreement -/

theorem sum_duration_map (l : List (AttendanceLog × AttendanceLog)) :
    ((l.map sessionOf).map SessionPair.duration).sum =
      (l.map fun x => (sessionOf x).duration).sum := by
  rw [List.map_map]
  rfl

/-- **The summary and the statistics agree exactly if no clock-in that another one directly
    precedes is followed by a clock-out.** -/
theorem pairings_agree {summary : AttendanceSummary} {stats : UserAttendanceStats} {s'' : State}
    (h : Returns (getAttendanceSummary u r) s summary s')
    (h' : Returns (getUserStatistics u (some r)) s stats s'') :
    (summary.totalSessions = stats.totalSessions ∧ summary.totalDuration = stats.totalDuration) ↔
      Alternating AttendanceLog.clocksIn (filterLogsByDateRange (s.logsOf u) r) := by
  obtain ⟨hcount, hduration⟩ := getAttendanceSummary_returns h
  obtain ⟨sessions, totals, hsessions, htotals, rfl⟩ := getUserStatistics_returns h'
  obtain ⟨rfl, -⟩ := parseSessions_returns hsessions
  have hsum := (countSession_foldlM htotals).1
  rw [zero_add, sum_duration_map] at hsum
  rw [← firstLater_eq_neighbours]
  change _ ↔ firstLater _ (s.logsIn u (some r)) = neighbours _ (s.logsIn u (some r))
  constructor
  · rintro ⟨hlen, -⟩
    rw [hcount, List.length_map] at hlen
    exact (neighbours_sublist_firstLater.eq_of_length hlen.symm).symm
  · intro he
    rw [hcount, hduration, hsum, List.length_map, he]
    exact ⟨rfl, rfl⟩

/-- The user `⟨2⟩` clocks in, perhaps again, and out. -/
def clocks (actions : List AttendanceAction) : State :=
  ((actions.zipIdx.map fun x =>
    hubCall (10 * x.2) (.logAttendance x.2 ⟨2⟩ x.1 ∅)).foldl next start).state

theorem pairings_agree_twice : ∃ summary stats s' s'',
    Returns (getAttendanceSummary ⟨2⟩ ⟨0, 100⟩)
      (clocks [.clockIn, .clockOut, .clockIn, .clockOut]) summary s' ∧
    Returns (getUserStatistics ⟨2⟩ (some ⟨0, 100⟩))
      (clocks [.clockIn, .clockOut, .clockIn, .clockOut]) stats s'' ∧
    summary.totalSessions = stats.totalSessions ∧ summary.totalDuration = stats.totalDuration := by
  have h : Returns (getAttendanceSummary ⟨2⟩ ⟨0, 100⟩)
    (clocks [.clockIn, .clockOut, .clockIn, .clockOut]) ⟨⟨2⟩, 0, 100, 2, 2, 20, 10, 2⟩ _ := rfl
  have h' : Returns (getUserStatistics ⟨2⟩ (some ⟨0, 100⟩))
    (clocks [.clockIn, .clockOut, .clockIn, .clockOut]) ⟨⟨2⟩, 2, 20, 10, 0, 30, 1⟩ _ := rfl
  exact ⟨_, _, _, _, h, h', (pairings_agree h h').2 (firstLater_eq_neighbours.1 rfl)⟩

/-- Of two clock-ins and a clock-out the summary makes two sessions, the statistics one. -/
theorem pairings_disagree : ¬ ∀ (s : State) (u : Address) (r : DateRange) (summary stats s' s''),
    (s.logsOf u).Pairwise (fun a b => a.timestamp ≤ b.timestamp) →
    Returns (getAttendanceSummary u r) s summary s' →
    Returns (getUserStatistics u (some r)) s stats s'' →
      summary.totalSessions = stats.totalSessions ∧
        summary.totalDuration = stats.totalDuration := by
  intro h
  have hk := h (clocks [.clockIn, .clockIn, .clockOut]) ⟨2⟩ ⟨0, 100⟩
    ⟨⟨2⟩, 0, 100, 2, 1, 30, 15, 2⟩ ⟨⟨2⟩, 1, 10, 10, 10, 20, 1⟩ _ _ (by decide) rfl rfl
  exact absurd hk.1 (by decide)

end

/-! ## Soundness -/

section
variable {s s' : State} {u : Address} {o : Option DateRange} {logs : List AttendanceLog}

/-- What the statistics promise about the logs they are made from. -/
structure SoundStatistics (s : State) (logs : List AttendanceLog) (stats : UserAttendanceStats) :
    Prop where
  sessions : ∃ pairs : List (AttendanceLog × AttendanceLog),
    Returns (parseSessions logs) s (pairs.map sessionOf) s ∧
    stats.totalSessions = pairs.length ∧
    stats.totalDuration = (pairs.map fun x => (sessionOf x).duration).sum ∧
    (∀ x ∈ pairs, x.1.action = .clockIn ∧ x.2.action = .clockOut ∧
      ∃ l₁ l₂, logs = l₁ ++ x.1 :: x.2 :: l₂) ∧
    pairs.Pairwise fun x y => x.2.timestamp ≤ y.1.timestamp
  duration : stats.totalDuration ≤ stats.lastClockOut - stats.firstClockIn
  ordered : stats.firstClockIn ≤ stats.lastClockOut
  average : stats.averageDuration * stats.totalSessions ≤ stats.totalDuration
  days : stats.totalDaysPresent ≤ stats.totalSessions

theorem averageOver_mul_le (n m : ℕ) : averageOver n m * m ≤ n := by
  unfold averageOver
  split_ifs
  · exact Nat.div_mul_le_self n m
  · rw [zero_mul]
    exact Nat.zero_le _

theorem logsIn_sorted (hs : (s.logsOf u).Pairwise fun a b => a.timestamp ≤ b.timestamp) :
    (s.logsIn u o).Pairwise fun a b => a.timestamp ≤ b.timestamp := by
  cases o with
  | none => exact hs
  | some r => exact hs.filter _

/-- There are sessions exactly if some clock-in is followed by a clock-out. -/
theorem neighbours_clocksIn_ne_nil : neighbours AttendanceLog.clocksIn logs ≠ [] ↔
    ∃ a b, [a, b].Sublist logs ∧ a.action = .clockIn ∧ b.action = .clockOut := by
  rw [ne_eq, neighbours_eq_nil, List.pairwise_iff_forall_sublist]
  simp only [clocksIn_eq_true, not_forall, ← clocksIn_eq_false, Bool.eq_false_iff, ne_eq,
    exists_prop]

/-- **The statistics are sound exactly if some clock-in is followed by a clock-out.** -/
theorem statistics_sound {stats : UserAttendanceStats}
    (hs : (s.logsOf u).Pairwise fun a b => a.timestamp ≤ b.timestamp)
    (h : Returns (getUserStatistics u o) s stats s') :
    SoundStatistics s (s.logsIn u o) stats ↔
      ∃ a b, [a, b].Sublist (s.logsIn u o) ∧ a.action = .clockIn ∧ b.action = .clockOut := by
  obtain ⟨sessions, totals, hsessions, htotals, rfl⟩ := getUserStatistics_returns h
  obtain ⟨rfl, hforward⟩ := parseSessions_returns hsessions
  rw [← neighbours_clocksIn_ne_nil]
  constructor
  · -- without sessions the first clock-in and the last clock-out keep their initial values
    intro hsound hnil
    rw [hnil] at htotals
    obtain ⟨rfl, -⟩ := returns_pure.1 htotals
    have hle : 2 ^ 64 - 1 ≤ 0 := hsound.ordered
    exact absurd hle (by decide)
  · intro hne
    obtain ⟨hsum, hdays⟩ := countSession_foldlM htotals
    have hpairs : (neighbours AttendanceLog.clocksIn (s.logsIn u o)).Pairwise fun x y =>
        x.2.timestamp ≤ y.1.timestamp := neighbours_pairwise (logsIn_sorted hs)
    have hfits : totals.firstClockIn + totals.totalDuration ≤ totals.lastClockOut := by
      refine countSession_foldlM_fits ?_ ?_ (fun _ _ => Nat.zero_le _) (Or.inr ⟨rfl, ?_⟩) htotals
      · intro x hx
        obtain ⟨pair, hpair, rfl⟩ := List.mem_map.1 hx
        exact Nat.add_sub_of_le (hforward pair hpair)
      · exact List.pairwise_map.2 hpairs
      · exact fun he => hne (List.map_eq_nil_iff.1 he)
    rw [zero_add, sum_duration_map] at hsum
    refine ⟨⟨_, hsessions, List.length_map _, hsum, ?_, hpairs⟩, ?_, ?_, averageOver_mul_le _ _, ?_⟩
    · intro x hx
      obtain ⟨hin, hout, hadj⟩ := mem_neighbours.1 hx
      exact ⟨clocksIn_eq_true.1 hin, clocksIn_eq_false.1 hout, hadj⟩
    · exact Nat.le_sub_of_add_le' hfits
    · exact (Nat.le_add_right _ _).trans hfits
    · simpa using hdays

/-- Two sessions, and a clock-in that is still open. -/
theorem statistics_sound_open : SoundStatistics
    (clocks [.clockIn, .clockOut, .clockIn, .clockOut, .clockIn])
    ((clocks [.clockIn, .clockOut, .clockIn, .clockOut, .clockIn]).logsIn ⟨2⟩ none)
    ⟨⟨2⟩, 2, 20, 10, 0, 30, 1⟩ := by
  have h : Returns (getUserStatistics ⟨2⟩ none)
    (clocks [.clockIn, .clockOut, .clockIn, .clockOut, .clockIn]) ⟨⟨2⟩, 2, 20, 10, 0, 30, 1⟩ _ := rfl
  refine (statistics_sound (by decide) h).2 ?_
  exact ⟨_, _, ((List.nil_sublist _).cons_cons _).cons_cons _, rfl, rfl⟩

/-- The statistics of a user who has only clocked in. -/
theorem statistics_unsound : ¬ ∀ (s : State) (u : Address) (o : Option DateRange) (stats s'),
    (s.logsOf u).Pairwise (fun a b => a.timestamp ≤ b.timestamp) →
    Returns (getUserStatistics u o) s stats s' → SoundStatistics s (s.logsIn u o) stats := by
  intro h
  have hsound := h (clocks [.clockIn]) ⟨2⟩ none ⟨⟨2⟩, 0, 0, 0, 2 ^ 64 - 1, 0, 0⟩ _ (by decide) rfl
  exact absurd hsound.ordered (by decide)

end

end ManageHub
