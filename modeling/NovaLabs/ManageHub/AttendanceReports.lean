/-
  The reports that the attendance is made into, by the hour of the day and the day of the week.

  The two reports are one loop with two keys.  A report divides the logs of the date range among its
  rows, and a report about time that is past does not change any more.
-/
import NovaLabs.Lib.Tally
import NovaLabs.ManageHub.Sessions
import NovaLabs.Soroban.Stateless

namespace ManageHub

open Lib Soroban

/-! ## Data -/

inductive TimePeriod where
  | daily
  | weekly
  | monthly
  | custom
  deriving DecidableEq

structure AttendanceFrequency where
  period : TimePeriod
  periodStart : ℕ
  periodEnd : ℕ
  totalAttendances : ℕ
  uniqueUsers : ℕ
  averageDailyAttendance : ℕ
  deriving DecidableEq

structure PeakHourData where
  hour : ℕ
  attendanceCount : ℕ
  percentage : ℕ
  deriving DecidableEq

structure DayPattern where
  dayOfWeek : ℕ
  attendanceCount : ℕ
  percentage : ℕ
  deriving DecidableEq

/-! ## Code -/

def getTimeBasedAttendance (userId : Address) (_period : TimePeriod) (range : DateRange) :
    Fn (List AttendanceLog) := do
  failIf (range.endTime < range.startTime) .invalidDateRange
  let logs ← getLogsForUser userId
  let filteredLogs := filterLogsByDateRange logs range
  failIf (filteredLogs = []) .noAttendanceRecords
  return filteredLogs

def calculateAttendanceFrequency (userId : Address) (range : DateRange) :
    Fn AttendanceFrequency := do
  failIf (range.endTime < range.startTime) .invalidDateRange
  let logs ← getLogsForUser userId
  let filteredLogs := filterLogsByDateRange logs range
  failIf (filteredLogs = []) .noAttendanceRecords
  let totalAttendances := filteredLogs.length
  let daysInRange := (range.endTime - range.startTime) / 86400 + 1
  return { period := .custom, periodStart := range.startTime, periodEnd := range.endTime,
           totalAttendances, uniqueUsers := 1,
           averageDailyAttendance := totalAttendances / daysInRange }

/-- One round of the loop that counts the logs by `key`. -/
def countLog (key : AttendanceLog → ℕ) (counts : Store ℕ ℕ) (log : AttendanceLog) :
    Fn (Store ℕ ℕ) := do
  let count ← checked 32 ((counts.lookup (key log)).getD 0 + 1)
  return counts.insert (key log) count

/-- One round of the loop that builds the rows of a report. -/
def pushRow {α : Type} (counts : Store ℕ ℕ) (total : ℕ) (row : ℕ → ℕ → ℕ → α) (result : List α)
    (k : ℕ) : Fn (List α) :=
  match counts.lookup k with
  | some count => do
    let scaled ← checked 32 (count * 100)
    return result ++ [row k count (scaled / total)]
  | none => return result

/-- The report by `key`, a number below `size`. -/
def analyze {α : Type} (key : AttendanceLog → ℕ) (size : ℕ) (row : ℕ → ℕ → ℕ → α)
    (userId : Address) (range : DateRange) : Fn (List α) := do
  failIf (range.endTime < range.startTime) .invalidDateRange
  let logs ← getLogsForUser userId
  let filteredLogs := filterLogsByDateRange logs range
  failIf (filteredLogs = []) .noAttendanceRecords
  let counts ← filteredLogs.foldlM (countLog key) ∅
  (List.range size).foldlM (pushRow counts filteredLogs.length row) []

def AttendanceLog.hour (log : AttendanceLog) : ℕ := log.timestamp % 86400 / 3600

/-- The days count from a Thursday; 0 is Sunday. -/
def AttendanceLog.dayOfWeek (log : AttendanceLog) : ℕ := (log.timestamp / 86400 + 4) % 7

def analyzePeakHours : Address → DateRange → Fn (List PeakHourData) :=
  analyze AttendanceLog.hour 24 PeakHourData.mk

def analyzeDayPatterns : Address → DateRange → Fn (List DayPattern) :=
  analyze AttendanceLog.dayOfWeek 7 DayPattern.mk

def calculateAverageDailyAttendance (userId : Address) (range : DateRange) : Fn ℕ := do
  let frequency ← calculateAttendanceFrequency userId range
  return frequency.averageDailyAttendance

theorem hour_lt (log : AttendanceLog) : log.hour < 24 :=
  Nat.div_lt_of_lt_mul (Nat.mod_lt _ (by decide))

theorem dayOfWeek_lt (log : AttendanceLog) : log.dayOfWeek < 7 := Nat.mod_lt _ (by decide)

/-! ## What the reports return -/

section
variable {s s' : State} {u : Address} {r : DateRange} {logs : List AttendanceLog}
  {key : AttendanceLog → ℕ} {size : ℕ} {α : Type} {row : ℕ → ℕ → ℕ → α}

/-- The logs of a user in a date range. -/
def State.logsWithin (s : State) (userId : Address) (range : DateRange) : List AttendanceLog :=
  filterLogsByDateRange (s.logsOf userId) range

/-- A list of logs by `key`, with its counts and their percentages. -/
def rowsOf (key : AttendanceLog → ℕ) (size : ℕ) (row : ℕ → ℕ → ℕ → α)
    (logs : List AttendanceLog) : List α :=
  (occurring key logs size).map fun k =>
    row k (occurrences key logs k) (occurrences key logs k * 100 / logs.length)

/-- The counting goes through if the counts fit. -/
theorem countLog_foldlM {counts counts' : Store ℕ ℕ} :
    Returns (logs.foldlM (countLog key) counts) s counts' s' ↔
      (∀ log ∈ logs, (counts.lookup (key log)).getD 0 + occurrences key logs (key log) < 2 ^ 32) ∧
        counts' = logs.foldl (fun counts log => counts.bump (key log)) counts ∧ s' = s := by
  induction logs generalizing counts with
  | nil => simp [eq_comm]
  | cons log logs ih =>
    rw [List.foldlM_cons, countLog, bind_assoc, returns_checked_bind, pure_bind,
      show counts.insert (key log) _ = counts.bump (key log) from rfl, ih, ← and_assoc,
      List.foldl_cons, List.forall_mem_cons]
    refine and_congr_left fun _ => ?_
    simp only [lookup_bump_getD, occurrences_cons, if_true]
    have hcount (log' : AttendanceLog) : (counts.lookup (key log')).getD 0 +
        (if key log = key log' then 1 else 0) + occurrences key logs (key log') =
        (counts.lookup (key log')).getD 0 +
          (occurrences key logs (key log') + if key log = key log' then 1 else 0) := by omega
    simp only [hcount]
    refine and_congr_left fun hrest => ?_
    constructor
    · intro hlt
      -- the count of this log's key is the last one of it, or one that the rest still raises
      by_cases hpos : 0 < occurrences key logs (key log)
      · obtain ⟨log', hmem, he⟩ := occurrences_pos.1 hpos
        have hl := hrest log' hmem
        rwa [he, if_pos rfl] at hl
      · omega
    · intro hlt
      omega

theorem pushRow_returns {counts : Store ℕ ℕ} {total k : ℕ} {result result' : List α} :
    (∃ s', Returns (pushRow counts total row result k) s result' s') ↔
      (∀ count ∈ counts.lookup k, count * 100 < 2 ^ 32) ∧
        result' = result ++ ((counts.lookup k).map fun count =>
          row k count (count * 100 / total)).toList := by
  unfold pushRow
  cases counts.lookup k with
  | none => simp [eq_comm]
  | some count => simp [eq_comm]

theorem foldl_append_toList {β γ : Type} (f : β → Option γ) (l : List β) (result : List γ) :
    l.foldl (fun result k => result ++ (f k).toList) result = result ++ l.filterMap f := by
  induction l generalizing result with
  | nil => simp
  | cons k l ih =>
    rw [List.foldl_cons, ih, List.append_assoc, List.filterMap_cons]
    cases f k <;> rfl

/-- The rows of a report, from the counts. -/
theorem filterMap_tally :
    (List.range size).filterMap (fun k => ((tally key logs).lookup k).map fun count =>
      row k count (count * 100 / logs.length)) = rowsOf key size row logs := by
  rw [rowsOf, occurring, ← List.filterMap_eq_map, List.filterMap_filter]
  refine congrArg (List.filterMap · _) (funext fun k => ?_)
  rw [lookup_tally]
  by_cases hk : 0 < occurrences key logs k <;> simp [hk]

/-- The rows go through if a hundred times each count fits. -/
theorem pushRow_foldlM (hkey : ∀ log, key log < size) {total : ℕ} {report : List α} :
    (∃ s', Returns ((List.range size).foldlM (pushRow (tally key logs) total row) []) s report s') ↔
      (∀ k, occurrences key logs k * 100 < 2 ^ 32) ∧
        report = (List.range size).filterMap fun k => ((tally key logs).lookup k).map fun count =>
          row k count (count * 100 / total) := by
  rw [returns_foldlM (p := fun k => ∀ count ∈ (tally key logs).lookup k, count * 100 < 2 ^ 32)
    (h := fun result k => result ++ (((tally key logs).lookup k).map fun count =>
      row k count (count * 100 / total)).toList) fun _ _ _ _ => pushRow_returns,
    foldl_append_toList, List.nil_append]
  refine and_congr_left fun _ => ⟨fun h k => ?_, fun h k _ count hcount => ?_⟩
  · by_cases hpos : 0 < occurrences key logs k
    · obtain ⟨log, -, rfl⟩ := occurrences_pos.1 hpos
      exact h _ (List.mem_range.2 (hkey log)) _ (by rw [lookup_tally, if_pos hpos]; rfl)
    · omega
  · rw [lookup_tally] at hcount
    split_ifs at hcount
    · obtain rfl := Option.some.inj hcount
      exact h k
    · cases hcount

instance {counts : Store ℕ ℕ} {log : AttendanceLog} : Only [] (countLog key counts log) := by
  unfold countLog
  infer_instance

instance {counts : Store ℕ ℕ} {total k : ℕ} {result : List α} :
    Only [] (pushRow counts total row result k) := by
  unfold pushRow
  split <;> infer_instance

/-- A report is made if the date range is in order, there is a log in it, and a hundred times each
    count fits. -/
theorem analyze_returns (hkey : ∀ log, key log < size) {report : List α} :
    Returns (analyze key size row u r) s report s' ↔
      (r.startTime ≤ r.endTime ∧ s.logsWithin u r ≠ [] ∧
        ∀ k, occurrences key (s.logsWithin u r) k * 100 < 2 ^ 32) ∧
      report = rowsOf key size row (s.logsWithin u r) ∧ s' = s := by
  rw [analyze, returns_failIf_bind, getLogsForUser_returns_bind, returns_failIf_bind, Nat.not_lt,
    ← State.logsWithin, and_assoc, and_assoc]
  refine and_congr_right fun _ => and_congr_right fun _ => ?_
  rw [returns_reads_bind]
  simp only [countLog_foldlM, Finmap.lookup_empty, Option.getD_none, zero_add, and_true]
  constructor
  · rintro ⟨_, ⟨-, rfl⟩, h⟩
    obtain rfl := Only.eq_of_returns h
    obtain ⟨hfits, rfl⟩ := (pushRow_foldlM hkey).1 ⟨_, h⟩
    exact ⟨hfits, filterMap_tally, rfl⟩
  · rintro ⟨hfits, rfl, rfl⟩
    refine ⟨_, ⟨fun log _ => ?_, rfl⟩, ?_⟩
    · have hk := hfits (key log)
      omega
    · obtain ⟨s₁, h⟩ := (pushRow_foldlM (s := s') hkey).2 ⟨hfits, filterMap_tally.symm⟩
      obtain rfl := Only.eq_of_returns h
      exact h

/-! ## Agreement -/

/-- The rows of a report divide the logs by `key`: each is the number of the logs with its key, with
    its part of all of them in whole percent, and each log is in one. -/
structure Divides (key : AttendanceLog → ℕ) (size : ℕ) (logs : List AttendanceLog)
    (bucket count percentage : α → ℕ) (report : List α) : Prop where
  sorted : report.Pairwise fun x y => bucket x < bucket y
  rows : ∀ x ∈ report, bucket x < size ∧ 0 < count x ∧
    count x = (logs.filter fun log => key log = bucket x).length ∧
    percentage x = count x * 100 / logs.length
  complete : ∀ log ∈ logs, ∃ x ∈ report, bucket x = key log
  total : (report.map count).sum = logs.length
  percentages : (report.map percentage).sum ≤ 100 ∧
    100 < (report.map percentage).sum + report.length

theorem rowsOf_divides (hkey : ∀ log, key log < size) (hlogs : logs ≠ [])
    {bucket count percentage : α → ℕ} (hb : ∀ k n p, bucket (row k n p) = k)
    (hc : ∀ k n p, count (row k n p) = n) (hp : ∀ k n p, percentage (row k n p) = p) :
    Divides key size logs bucket count percentage (rowsOf key size row logs) := by
  have hkeys : ∀ log ∈ logs, key log < size := fun log _ => hkey log
  have hcounts : (rowsOf key size row logs).map count =
      (occurring key logs size).map (occurrences key logs) := by
    rw [rowsOf, List.map_map]
    exact List.map_congr_left fun k _ => hc k _ _
  have hpercentages : (rowsOf key size row logs).map percentage =
      shares logs.length ((occurring key logs size).map (occurrences key logs)) := by
    rw [rowsOf, shares, List.map_map, List.map_map]
    exact List.map_congr_left fun k _ => hp k _ _
  have hlength : (rowsOf key size row logs).length =
      ((occurring key logs size).map (occurrences key logs)).length := by
    rw [rowsOf, List.length_map, List.length_map]
  refine ⟨?_, fun x hx => ?_, fun log hlog => ?_, ?_, ?_⟩
  · rw [rowsOf, List.pairwise_map]
    exact occurring_sorted.imp fun h => by rwa [hb, hb]
  · obtain ⟨k, hk, rfl⟩ := List.mem_map.1 hx
    obtain ⟨hlt, hmem⟩ := mem_occurring.1 hk
    rw [hb, hc, hp]
    exact ⟨hlt, occurrences_pos.2 hmem, List.countP_eq_length_filter, rfl⟩
  · have hk : key log ∈ occurring key logs size := mem_occurring.2 ⟨hkey log, log, hlog, rfl⟩
    exact ⟨_, List.mem_map_of_mem hk, hb _ _ _⟩
  · rw [hcounts, sum_occurring hkeys]
  · rw [hpercentages, hlength]
    exact sum_shares (List.length_pos_of_ne_nil hlogs) (sum_occurring hkeys)

theorem summarize_counts {totals totals' : SummaryTotals}
    (h : Returns (summarize logs totals) s totals' s') :
    totals'.totalClockIns + totals'.totalClockOuts =
      totals.totalClockIns + totals.totalClockOuts + logs.length := by
  induction logs generalizing s totals with
  | nil =>
    obtain ⟨rfl, -⟩ := returns_pure.1 h
    rfl
  | cons log rest ih =>
    rw [List.length_cons]
    cases ha : log.action with
    | clockIn =>
      simp only [summarize, ha, returns_checked_bind] at h
      cases hf : rest.find? fun log => log.action = .clockOut with
      | none =>
        rw [hf] at h
        have ht := ih h.2
        dsimp only at ht
        omega
      | some nextLog =>
        simp only [hf, returns_checkedSub_bind, returns_checked_bind] at h
        have ht := ih h.2.2.2
        dsimp only at ht
        omega
    | clockOut =>
      simp only [summarize, ha, returns_checked_bind] at h
      have ht := ih h.2
      dsimp only at ht
      omega

theorem getAttendanceSummary_counts {summary : AttendanceSummary}
    (h : Returns (getAttendanceSummary u r) s summary s') :
    summary.totalClockIns + summary.totalClockOuts = (s.logsWithin u r).length := by
  simp only [getAttendanceSummary, returns_failIf_bind, getLogsForUser_returns_bind] at h
  obtain ⟨-, -, -, h⟩ := h
  obtain ⟨totals, _, htotals, h⟩ := returns_bind.1 h
  obtain ⟨rfl, -⟩ := returns_pure.1 h
  exact (summarize_counts htotals).trans (by rw [zero_add, zero_add]; rfl)

theorem getTimeBasedAttendance_returns {period : TimePeriod} {report : List AttendanceLog} :
    Returns (getTimeBasedAttendance u period r) s report s' ↔
      (r.startTime ≤ r.endTime ∧ s.logsWithin u r ≠ []) ∧ report = s.logsWithin u r ∧ s' = s := by
  rw [getTimeBasedAttendance, returns_failIf_bind, getLogsForUser_returns_bind,
    returns_failIf_bind, Nat.not_lt, and_assoc, returns_pure]
  exact Iff.rfl

theorem calculateAttendanceFrequency_returns {frequency : AttendanceFrequency} :
    Returns (calculateAttendanceFrequency u r) s frequency s' ↔
      (r.startTime ≤ r.endTime ∧ s.logsWithin u r ≠ []) ∧
      frequency = ⟨.custom, r.startTime, r.endTime, (s.logsWithin u r).length, 1,
        (s.logsWithin u r).length / ((r.endTime - r.startTime) / 86400 + 1)⟩ ∧ s' = s := by
  rw [calculateAttendanceFrequency, returns_failIf_bind, getLogsForUser_returns_bind,
    returns_failIf_bind, Nat.not_lt, and_assoc, returns_pure]
  exact Iff.rfl

/-- **The reports about a user and a date range agree: those by hour and by day divide the logs that
    the time-based one lists, and the frequency and the summary count the same ones.** -/
theorem reports_agree {period : TimePeriod} {listed : List AttendanceLog}
    {hours : List PeakHourData} {days : List DayPattern} {frequency : AttendanceFrequency}
    {summary : AttendanceSummary} {s₁ s₂ s₃ s₄ s₅ : State}
    (hl : Returns (getTimeBasedAttendance u period r) s listed s₁)
    (hh : Returns (analyzePeakHours u r) s hours s₂)
    (hd : Returns (analyzeDayPatterns u r) s days s₃)
    (hf : Returns (calculateAttendanceFrequency u r) s frequency s₄)
    (hs : Returns (getAttendanceSummary u r) s summary s₅) :
    Divides AttendanceLog.hour 24 listed PeakHourData.hour PeakHourData.attendanceCount
        PeakHourData.percentage hours ∧
      Divides AttendanceLog.dayOfWeek 7 listed DayPattern.dayOfWeek DayPattern.attendanceCount
        DayPattern.percentage days ∧
      frequency.totalAttendances = listed.length ∧
      summary.totalClockIns + summary.totalClockOuts = listed.length := by
  obtain ⟨⟨-, hne⟩, rfl, -⟩ := getTimeBasedAttendance_returns.1 hl
  obtain ⟨-, rfl, -⟩ := (analyze_returns hour_lt).1 hh
  obtain ⟨-, rfl, -⟩ := (analyze_returns dayOfWeek_lt).1 hd
  obtain ⟨-, rfl, -⟩ := calculateAttendanceFrequency_returns.1 hf
  exact ⟨rowsOf_divides hour_lt hne (fun _ _ _ => rfl) (fun _ _ _ => rfl) fun _ _ _ => rfl,
    rowsOf_divides dayOfWeek_lt hne (fun _ _ _ => rfl) (fun _ _ _ => rfl) fun _ _ _ => rfl, rfl,
    getAttendanceSummary_counts hs⟩

/-- Two visits of the user `⟨2⟩`, the second of which begins after the date range. -/
theorem reports_agree_visits : ∃ listed hours days,
    listed = (clocks [.clockIn, .clockOut, .clockIn]).logsWithin ⟨2⟩ ⟨0, 15⟩ ∧
      hours = [⟨0, 2, 100⟩] ∧ days = [⟨4, 2, 100⟩] ∧
      Divides AttendanceLog.hour 24 listed PeakHourData.hour PeakHourData.attendanceCount
        PeakHourData.percentage hours ∧
      Divides AttendanceLog.dayOfWeek 7 listed DayPattern.dayOfWeek DayPattern.attendanceCount
        DayPattern.percentage days ∧
      2 = listed.length ∧ 1 + 1 = listed.length := by
  have hl : Returns (getTimeBasedAttendance ⟨2⟩ .daily ⟨0, 15⟩)
    (clocks [.clockIn, .clockOut, .clockIn]) _ _ := rfl
  have hh : Returns (analyzePeakHours ⟨2⟩ ⟨0, 15⟩)
    (clocks [.clockIn, .clockOut, .clockIn]) [⟨0, 2, 100⟩] _ := rfl
  have hd : Returns (analyzeDayPatterns ⟨2⟩ ⟨0, 15⟩)
    (clocks [.clockIn, .clockOut, .clockIn]) [⟨4, 2, 100⟩] _ := rfl
  have hf : Returns (calculateAttendanceFrequency ⟨2⟩ ⟨0, 15⟩)
    (clocks [.clockIn, .clockOut, .clockIn]) ⟨.custom, 0, 15, 2, 1, 2⟩ _ := rfl
  have hs : Returns (getAttendanceSummary ⟨2⟩ ⟨0, 15⟩) (clocks [.clockIn, .clockOut, .clockIn])
    ⟨⟨2⟩, 0, 15, 1, 1, 10, 10, 1⟩ _ := rfl
  exact ⟨_, _, _, rfl, rfl, rfl, reports_agree hl hh hd hf hs⟩

end

/-! ## Reports about the past -/

section
variable {s s' : State} {u : Address} {r : DateRange} {α : Type} {logs logs' : List AttendanceLog}

/-- The reports of a user about a date range answer the same on two storages. -/
structure SameReports (userId : Address) (range : DateRange) (s s' : State) : Prop where
  summary : answer (getAttendanceSummary userId range) s' =
    answer (getAttendanceSummary userId range) s
  statistics : answer (getUserStatistics userId (some range)) s' =
    answer (getUserStatistics userId (some range)) s
  timeBased : ∀ period, answer (getTimeBasedAttendance userId period range) s' =
    answer (getTimeBasedAttendance userId period range) s
  frequency : answer (calculateAttendanceFrequency userId range) s' =
    answer (calculateAttendanceFrequency userId range) s
  average : answer (calculateAverageDailyAttendance userId range) s' =
    answer (calculateAverageDailyAttendance userId range) s
  peakHours : answer (analyzePeakHours userId range) s' = answer (analyzePeakHours userId range) s
  dayPatterns : answer (analyzeDayPatterns userId range) s' =
    answer (analyzeDayPatterns userId range) s

instance {totals : SummaryTotals} : Stateless (summarize logs totals) := by
  induction logs generalizing totals with
  | nil => exact inferInstanceAs (Stateless (pure totals))
  | cons log rest ih =>
    unfold summarize
    split
    · split <;> infer_instance
    · infer_instance

instance {found : List SessionPair × Option ℕ} {log : AttendanceLog} :
    Stateless (parseLog found log) := by
  unfold parseLog
  split
  · infer_instance
  · split <;> infer_instance

instance : Stateless (parseSessions logs) := by
  unfold parseSessions
  infer_instance

instance {totals : StatisticsTotals} {session : SessionPair} :
    Stateless (countSession totals session) := by
  unfold countSession
  infer_instance

instance {key : AttendanceLog → ℕ} {counts : Store ℕ ℕ} {log : AttendanceLog} :
    Stateless (countLog key counts log) := by
  unfold countLog
  infer_instance

instance {row : ℕ → ℕ → ℕ → α} {counts : Store ℕ ℕ} {total k : ℕ} {result : List α} :
    Stateless (pushRow counts total row result k) := by
  unfold pushRow
  split <;> infer_instance

/-- What is computed from the logs of a user alone answers the same where it does on their lists. -/
theorem answer_getLogsForUser_bind {f : List AttendanceLog → Fn α} [∀ logs, Stateless (f logs)]
    (h : f (s'.logsOf u) = f (s.logsOf u)) :
    answer (getLogsForUser u >>= f) s' = answer (getLogsForUser u >>= f) s := by
  have hexec (t : State) : answer (getLogsForUser u >>= f) t = answer (f (t.logsOf u)) t := rfl
  rw [hexec, hexec, h]
  exact answer_stateless

/-- The check for any logs at all says nothing that the check for logs in the date range does not. -/
theorem failIf_logs_bind {e : Error} {f : Unit → Fn α} :
    (failIf (logs = []) e >>= fun _ => failIf (filterLogsByDateRange logs r = []) e >>= f) =
      failIf (filterLogsByDateRange logs r = []) e >>= f := by
  by_cases h : logs = []
  · rw [failIf_bind_of_pos h, failIf_bind_of_pos (by rw [h]; rfl)]
  · rw [failIf_bind_of_neg h]

/-- Where the logs in the date range are the same, so are the reports. -/
theorem sameReports_of_logsWithin (hr : r.startTime ≤ r.endTime)
    (h : s'.logsWithin u r = s.logsWithin u r) : SameReports u r s s' := by
  unfold State.logsWithin at h
  have hrange {β : Type} {f : Unit → Fn β} :
      failIf (r.endTime < r.startTime) .invalidDateRange >>= f = f () :=
    failIf_bind_of_neg (Nat.not_lt.2 hr)
  have hanalyze {key : AttendanceLog → ℕ} {size : ℕ} {β : Type} {row : ℕ → ℕ → ℕ → β} :
      answer (analyze key size row u r) s' = answer (analyze key size row u r) s := by
    simp only [analyze, hrange]
    exact answer_getLogsForUser_bind (by rw [h])
  refine ⟨?_, ?_, fun period => ?_, ?_, ?_, hanalyze, hanalyze⟩
  · simp only [getAttendanceSummary, hrange, failIf_logs_bind]
    exact answer_getLogsForUser_bind (by rw [h])
  · simp only [getUserStatistics, hrange, pure_bind, failIf_logs_bind]
    exact answer_getLogsForUser_bind (by rw [h])
  · simp only [getTimeBasedAttendance, hrange]
    exact answer_getLogsForUser_bind (by rw [h])
  · simp only [calculateAttendanceFrequency, hrange]
    exact answer_getLogsForUser_bind (by rw [h])
  · simp only [calculateAverageDailyAttendance, calculateAttendanceFrequency, hrange, bind_assoc,
      pure_bind]
    exact answer_getLogsForUser_bind (by rw [h])

end

/-! ## Runs -/

section
variable {me : Address} {w w' : World} {i : Input me} {tr : List (Ev me)} {u : Address}
  {r : DateRange}

/-- A call logs the time it is made. -/
theorem log_timestamp {c : Call} {env : HubEnv me} {s : State} {log : AttendanceLog}
    (h : c.log env s = some log) : log.timestamp = env.now := by
  have hevent {o : Option Subscription} {user : Subscription → Address} {action id : String}
      (h : (o.map fun subscription => eventLog env (user subscription) action id) = some log) :
      log.timestamp = env.now := by
    obtain ⟨_, -, rfl⟩ := Option.map_eq_some_iff.1 h
    rfl
  cases c with
  | logAttendance | createSubscription | createSubscriptionWithTier =>
    obtain rfl := Option.some.inj h
    rfl
  | renewSubscription | pauseSubscription | pauseSubscriptionAdmin | resumeSubscription
  | resumeSubscriptionAdmin => exact hevent h
  | _ => cases h

/-- A call does not log anything in the past. -/
theorem Step.logsWithin_eq (h : Step w i w') (hpast : r.endTime < w.now) :
    w'.state.logsWithin u r = w.state.logsWithin u r := by
  unfold State.logsWithin
  by_cases hok : i.ok w = true
  swap
  · rw [h.state_eq_of_not_ok hok]
  rw [(h.sameLogs hok).lists]
  cases hlog : i.call.log i.env w.state with
  | none => rfl
  | some log =>
    have hlate : r.endTime < log.timestamp := by
      rw [log_timestamp hlog]
      exact hpast.trans_le h.clock
    rw [Option.elim_some, logged_logsOf]
    split_ifs
    · have hnone : [log].filter (fun log => decide
          (r.startTime ≤ log.timestamp ∧ log.timestamp ≤ r.endTime)) = [] := by simp [hlate]
      rw [filterLogsByDateRange, List.filter_append, hnone, List.append_nil]
      rfl
    · rfl

/-- **Reports about a date range that is past never change: whatever calls follow, each of them
    answers as before.** -/
theorem past_reports_stable (h : Run Step w tr w') (hr : r.startTime ≤ r.endTime)
    (hpast : r.endTime < w.now) : SameReports u r w.state w'.state := by
  have hkeep : w'.state.logsWithin u r = w.state.logsWithin u r ∧ w.now ≤ w'.now := by
    refine h.invariant' (P := fun w₁ => w₁.state.logsWithin u r = w.state.logsWithin u r ∧
      w.now ≤ w₁.now) (fun w₁ i w₂ ⟨hsame, hle⟩ hs => ?_) ⟨rfl, le_rfl⟩
    refine ⟨(hs.logsWithin_eq (hpast.trans_le hle)).trans hsame, ?_⟩
    rw [hs.now_eq]
    exact hle.trans hs.clock
  exact sameReports_of_logsWithin hr hkeep.1

/-- The reports about the first visit of `⟨2⟩` outlast the second. -/
theorem past_reports_stable_visits : SameReports ⟨2⟩ ⟨0, 25⟩
    ([hubCall 10 (.logAttendance 7 ⟨2⟩ .clockIn ∅), hubCall 20 (.logAttendance 8 ⟨2⟩ .clockOut ∅),
      hubCall 30 (.logAttendance 9 ⟨2⟩ .clockIn ∅)].foldl next start).state
    ([hubCall 40 (.logAttendance 7 ⟨2⟩ .clockOut ∅)].foldl next
      ([hubCall 10 (.logAttendance 7 ⟨2⟩ .clockIn ∅), hubCall 20 (.logAttendance 8 ⟨2⟩ .clockOut ∅),
        hubCall 30 (.logAttendance 9 ⟨2⟩ .clockIn ∅)].foldl next start)).state :=
  past_reports_stable (run_calls _ (by decide)) (by decide) (by decide)

end

end ManageHub
