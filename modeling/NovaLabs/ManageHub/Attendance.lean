/-
  The attendance logs over whole runs.

  The list of a user's logs only grows.  The record under an id is replaced by a later one with this
  id; the ids are chosen by the callers, and those of the events of subscriptions depend on nothing
  but the length of the subscription's id.
-/
import NovaLabs.ManageHub.SubscriptionCalls

namespace ManageHub

open Lib Soroban

variable {me : Address}

/-! ## Logs -/

/-- `get_logs_for_user`. -/
def State.logsOf (s : State) (user : Address) : List AttendanceLog :=
  (s.get (.attendanceLogsByUser user)).getD []

/-- The log that a call writes, where the storage is `s`. -/
def Call.log (env : HubEnv me) (s : State) : Call → Option AttendanceLog
  | .logAttendance id userId action details => some ⟨id, userId, action, env.now, details⟩
  | .createSubscription id user .. | .createSubscriptionWithTier id user .. =>
    some (eventLog env user "subscription_created" id)
  | .renewSubscription id .. => (s.get (.subscription id)).map fun subscription =>
    eventLog env (Subscription.user subscription) "subscription_renewed" id
  | .pauseSubscription id _ | .pauseSubscriptionAdmin id .. =>
    (s.get (.subscription id)).map fun subscription =>
      eventLog env (Subscription.user subscription) "subscription_paused" id
  | .resumeSubscription id | .resumeSubscriptionAdmin id _ =>
    (s.get (.subscription id)).map fun subscription =>
      eventLog env (Subscription.user subscription) "subscription_resumed" id
  | _ => none

/-- The storages have the same logs. -/
structure SameLogs (s s' : State) : Prop where
  records : ∀ id, s'.get (.attendanceLog id) = s.get (.attendanceLog id)
  lists : ∀ user, s'.logsOf user = s.logsOf user

section
variable {s s' s'' : State} {log : AttendanceLog} {id : TokenId} {user : Address} {k : DataKey}
  {v : Val k}

theorem SameLogs.refl : SameLogs s s := ⟨fun _ => rfl, fun _ => rfl⟩

theorem SameLogs.trans (h : SameLogs s s') (h' : SameLogs s' s'') : SameLogs s s'' :=
  ⟨fun id => (h'.records id).trans (h.records id), fun user => (h'.lists user).trans (h.lists user)⟩

theorem sameLogs_of_get
    (h : ∀ k : DataKey, k.kind = .attendanceLog ∨ k.kind = .attendanceLogsByUser →
      s'.get k = s.get k) : SameLogs s s' where
  records _ := h _ (Or.inl rfl)
  lists user := by rw [State.logsOf, h _ (Or.inr rfl), State.logsOf]

theorem sameLogs_put (h : k.kind ≠ .attendanceLog) (h' : k.kind ≠ .attendanceLogsByUser) :
    SameLogs s (s.put k v) :=
  sameLogs_of_get fun k' hk => get_put_ne fun he => by
    subst he
    exact hk.elim h h'

theorem logged_get_record : (s.logged log).get (.attendanceLog id) =
    if id = log.id then some log else s.get (.attendanceLog id) := by
  rw [State.logged, get_put_ne (by simp)]
  split_ifs with he
  · rw [he, get_put_self]
  · exact get_put_ne (by simpa using he)

theorem logged_logsOf : (s.logged log).logsOf user =
    if user = log.userId then s.logsOf user ++ [log] else s.logsOf user := by
  unfold State.logsOf State.logged
  split_ifs with he
  · rw [he, get_put_self, Option.getD_some]
  · rw [get_put_ne (by simpa using he), get_put_ne (by simp)]

theorem SameLogs.logged (h : SameLogs s s') : SameLogs (s.logged log) (s'.logged log) where
  records id := by rw [logged_get_record, logged_get_record, h.records]
  lists user := by rw [logged_logsOf, logged_logsOf, h.lists]

end

/-! ## Steps -/

section
variable {env : HubEnv me} {s s' : State} {u : Unit} {id : String} {w w' : World} {i : Input me}
  {subscription : Subscription} {actor : Address} {isAdmin : Bool} {tr : List (Ev me)}

/-- A call that goes through writes its log, and no other. -/
theorem Step.sameLogs (h : Step w i w') (hok : i.ok w = true) :
    SameLogs ((i.call.log i.env w.state).elim w.state w.state.logged) w'.state := by
  cases hc : i.call with
  | logAttendance =>
    obtain ⟨-, -, hp⟩ := logAttendance_returns.1 ((h.ok_iff_returns (by rw [hc]; rfl)).1 hok)
    rw [hp]
    exact .refl
  | createSubscription =>
    obtain ⟨_, -, hp⟩ := createSubscription_returns.1 ((h.ok_iff_returns (by rw [hc]; rfl)).1 hok)
    rw [hp]
    exact (sameLogs_put (by simp) (by simp)).logged
  | createSubscriptionWithTier =>
    obtain ⟨s₁, _, _, _, hcr, hp⟩ :=
      createSubscriptionWithTier_returns.1 ((h.ok_iff_returns (by rw [hc]; rfl)).1 hok)
    have hoff : SameOff [Kind.tierPromotion] w.state s₁ := Only.returns hcr.priced
    have hs₁ : SameLogs w.state s₁ := sameLogs_of_get fun k hk => hoff k (by
      intro hmem
      rw [show Kinded.kind k = k.kind from rfl, List.mem_singleton] at hmem
      rw [hmem] at hk
      simp at hk)
    rw [hp]
    exact ((hs₁.trans (sameLogs_put (by simp) (by simp))).trans
      (sameLogs_put (by simp) (by simp))).logged
  | renewSubscription =>
    obtain ⟨_, _, hren, hp⟩ :=
      renewSubscription_returns.1 ((h.ok_iff_returns (by rw [hc]; rfl)).1 hok)
    rw [hp, Call.log, hren.stored, State.renewed]
    split_ifs
    · exact (sameLogs_put (by simp) (by simp)).logged
    · exact ((sameLogs_put (by simp) (by simp)).trans (sameLogs_put (by simp) (by simp))).logged
  | pauseSubscription | pauseSubscriptionAdmin | resumeSubscription | resumeSubscriptionAdmin =>
    obtain ⟨_, _, hsus⟩ := h.suspends hok (by rw [hc]; rfl)
    rw [Call.log, hsus.stored, hsus.post]
    exact (sameLogs_put (by simp) (by simp)).logged
  | _ =>
    refine sameLogs_of_get fun k hk => h.frame ?_
    rw [hc]
    rcases hk with hk | hk <;> simp [hk]

end

/-! ## The law -/

/-- The records that have been stored are, and the lists of users have only been appended to. -/
structure LogsImmutable (tr : List (Ev me)) (w : World) : Prop where
  records : ∀ ev ∈ tr, ∀ id log, ev.pre.state.get (.attendanceLog id) = some log →
    w.state.get (.attendanceLog id) = some log
  lists : ∀ ev ∈ tr, ∀ user, ev.pre.state.logsOf user <+: w.state.logsOf user

/-- A call that goes through does not write its log in the place of another one. -/
def FreshLog (ev : Ev me) : Prop :=
  ev.inp.ok ev.pre = true → ∀ log log', ev.inp.call.log ev.inp.env ev.pre.state = some log →
    ev.pre.state.get (.attendanceLog log.id) = some log' → log' = log

section
variable {w w' : World} {i : Input me} {tr : List (Ev me)}

/-- The lists of logs grow, whatever the call. -/
theorem Step.logsOf_prefix (h : Step w i w') (user : Address) :
    w.state.logsOf user <+: w'.state.logsOf user := by
  by_cases hok : i.ok w = true
  swap
  · rw [h.state_eq_of_not_ok hok]
  rw [(h.sameLogs hok).lists]
  cases i.call.log i.env w.state with
  | none => exact List.prefix_rfl
  | some log =>
    rw [Option.elim_some, logged_logsOf]
    split_ifs
    · exact List.prefix_append _ _
    · exact List.prefix_rfl

/-- The records stay exactly if the call does not replace one. -/
theorem Step.records_iff (h : Step w i w') :
    (∀ id log, w.state.get (.attendanceLog id) = some log →
      w'.state.get (.attendanceLog id) = some log) ↔ FreshLog ⟨w, i, w'⟩ := by
  constructor
  · intro hkept hok log log' hlog hs
    have hs' := hkept log.id log' hs
    change i.call.log i.env w.state = some log at hlog
    rw [(h.sameLogs hok).records, hlog, Option.elim_some, logged_get_record, if_pos rfl] at hs'
    exact (Option.some.inj hs').symm
  · intro hfresh id log' hs
    by_cases hok : i.ok w = true
    swap
    · rwa [h.state_eq_of_not_ok hok]
    rw [(h.sameLogs hok).records]
    cases hlog : i.call.log i.env w.state with
    | none => exact hs
    | some log =>
      rw [Option.elim_some, logged_get_record]
      split_ifs with he
      · subst he
        rw [hfresh hok log log' hlog hs]
      · exact hs

/-- The step lemma: the logs stay as they are exactly if the call does not replace one. -/
theorem Step.logsImmutable (h : Step w i w') (hk : LogsImmutable tr w) :
    LogsImmutable (tr ++ [⟨w, i, w'⟩]) w' ↔ FreshLog ⟨w, i, w'⟩ := by
  rw [← h.records_iff]
  constructor
  · intro hk'
    exact hk'.records ⟨w, i, w'⟩ (List.mem_append_right _ (.head _))
  · intro hkept
    refine ⟨fun ev hev id log hs => ?_, fun ev hev user => ?_⟩
    · rcases List.mem_append.1 hev with hev | hev
      · exact hkept id log (hk.records ev hev id log hs)
      · obtain rfl := List.mem_singleton.1 hev
        exact hkept id log hs
    · rcases List.mem_append.1 hev with hev | hev
      · exact (hk.lists ev hev user).trans (h.logsOf_prefix user)
      · obtain rfl := List.mem_singleton.1 hev
        exact h.logsOf_prefix user

end

/-! ## Runs -/

/-- **The logs are immutable throughout a run exactly if no call writes one in the place of
    another.** -/
theorem logs_immutable_iff {w₀ w : World} {tr : List (Ev me)} (h : Run Step w₀ tr w) :
    (LogsImmutable tr w ∧ Along (fun tr ev => LogsImmutable tr ev.pre) tr) ↔
      ∀ ev ∈ tr, FreshLog ev := by
  rw [← along_iff_forall]
  exact Run.always_iff (fun _ _ _ hs hk => hs.logsImmutable hk) h
    ⟨fun _ hev => absurd hev List.not_mem_nil, fun _ hev => absurd hev List.not_mem_nil⟩

/-- Logs of `⟨2⟩` under two ids. -/
theorem logs_immutable_iff_apart :
    LogsImmutable (eventsFrom next start [hubCall 1 (.logAttendance 7 ⟨2⟩ .clockIn ∅),
        hubCall 2 (.logAttendance 8 ⟨2⟩ .clockOut ∅)])
      ([hubCall 1 (.logAttendance 7 ⟨2⟩ .clockIn ∅),
        hubCall 2 (.logAttendance 8 ⟨2⟩ .clockOut ∅)].foldl next start) := by
  refine ((logs_immutable_iff (run_calls _ (by decide))).2 ?_).1
  refine List.forall_mem_cons.2 ⟨fun _ log log' hlog hs => ?_,
    List.forall_mem_singleton.2 fun _ log log' hlog hs => ?_⟩
  all_goals
    cases hlog
    cases hs

/-- The log of the creation of the subscription of `⟨2⟩` is replaced by that of the one of `⟨3⟩`,
    whose id is as long. -/
theorem logs_replaced : ¬ ∀ (tr : List (Ev ⟨0⟩)) (w : World), Run Step start tr w →
    LogsImmutable tr w := by
  intro h
  have hk := h _ _ (run_calls ([hubCall 1 (.setUsdcContract ⟨1⟩ ⟨9⟩),
    hubCall 2 (.createSubscription "a" ⟨2⟩ ⟨9⟩ 100 1000)] ++
    [hubCall 3 (.createSubscription "b" ⟨3⟩ ⟨9⟩ 100 1000)]) (by decide))
  rw [eventsFrom_append] at hk
  have hs := hk.records _ (List.mem_append_right _ (.head _)) (generateEventId "a") _ rfl
  exact absurd (congrArg (Option.map AttendanceLog.userId) hs) (by decide)

end ManageHub
