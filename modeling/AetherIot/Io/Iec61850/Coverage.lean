import AetherIot.Io.Iec61850.Connecting
import AetherIot.Io.Iec61850.Storable

/-!
# Coverage and attribution of IEC 61850 points

A point whose number occurs in a configured dataset is never polled, whether or not the report
control block of that dataset could be enabled; and a report is matched by position against all
configured datasets.  In a completed cycle no point is dark, and every reported value goes to the
point of its own dataset, exactly if neither makes a difference.
-/

namespace AetherIot.Io.Iec61850

open Interaction

namespace Channel

theorem recordModel_keeps (channel : Channel) (probe : ModelProbe) (model : UInt8) :
    SameSetting channel (channel.recordModel probe model) := by
  rw [recordModel]
  split <;> exact ⟨rfl, rfl, rfl, rfl⟩

theorem settled_sameSetting (channel : Channel) : Settled (SameSetting channel) where
  next _ same := same.trans ⟨rfl, rfl, rfl, rfl⟩
  model after probe model same := same.trans (after.recordModel_keeps probe model)

variable {channel after : Channel} {trace : List (Exchange LinkReply)} {value : MmsValue} {now : Int}
  {entry : PointEntry} {collected : Collected} {failure : PointFailure}

theorem connect_keeps {outcome : Except GatewayError Unit}
    (run : channel.connect.Runs trace (.ok (after, outcome))) :
    SameSetting channel after := by
  rw [connect_eq] at run
  obtain ⟨reply, _, -, restRun⟩ := runs_send_bind.mp run
  cases reply with
  | error =>
    obtain ⟨-, same⟩ := restRun
    cases same
    exact ⟨rfl, rfl, rfl, rfl⟩
  | ok =>
    change (channel.attach >>= fun channel => pure (channel, Except.ok ())).Runs _ _ at restRun
    obtain ⟨_, _, _, -, attached, -, same⟩ := runs_bind.mp restRun
    cases same
    exact (channel.connecting_attach channel.settled_sameSetting ⟨rfl, rfl, rfl, rfl⟩).returns.runs attached

/-- What the reads of a cycle collect. -/
structure Reads (channel after : Channel) (entries : List PointEntry)
    (collected result : Collected) : Prop where
  failures : ∀ failure ∈ collected.failures, failure ∈ result.failures
  unskipped : ∀ failure ∈ result.failures,
    failure ∈ collected.failures ∨ failure.pointId ∉ channel.reportSkipSet
  answered : after.state = .connected → ∀ entry ∈ channel.polled entries,
    (∃ point ∈ result.batch, point.key = (entry.pointType, entry.id)) ∨
      ∃ failure ∈ result.failures, failure.pointId = entry.id

theorem collect_failures_subset (member : failure ∈ collected.failures) :
    failure ∈ (collect now entry collected value).failures := by
  cases value <;> simp [collect, Collected.add, Collected.fail, member]

theorem mem_collect_failures (member : failure ∈ (collect now entry collected value).failures) :
    failure ∈ collected.failures ∨ failure.pointId = entry.id := by
  cases value with
  | failure =>
    rcases List.mem_append.mp member with earlier | new
    · exact .inl earlier
    · exact .inr (List.mem_singleton.mp new ▸ rfl)
  | _ => exact .inl member

theorem collect_answers (now : Int) (entry : PointEntry) (collected : Collected)
    (value : MmsValue) :
    (∃ point ∈ (collect now entry collected value).batch, point.key = (entry.pointType, entry.id)) ∨
      ∃ failure ∈ (collect now entry collected value).failures, failure.pointId = entry.id := by
  cases value with
  | failure => exact .inr ⟨_, List.mem_append_right _ (List.mem_singleton_self _), rfl⟩
  | _ => exact .inl ⟨_, List.mem_append_right _ (List.mem_singleton_self _), rfl⟩

theorem reads_of_runs {entries : List PointEntry} {result : Collected}
    (run : (pollPoints now entries channel collected).Runs trace (.ok (after, result))) :
    Reads channel after entries collected result := by
  induction entries generalizing channel collected trace with
  | nil =>
    obtain ⟨-, same⟩ := run
    cases same
    exact ⟨fun _ => id, fun _ => .inl, fun _ entry member => by simp [polled] at member⟩
  | cons entry entries ih =>
    rcases pollPoints_cons_runs run with ⟨skipped, rest⟩ | ⟨unskipped, _, rest, rfl, outcome⟩
    · have polledRest : channel.polled (entry :: entries) = channel.polled entries :=
        List.filter_cons_of_neg (by simpa using skipped)
      obtain ⟨failures, apart, answered⟩ := ih rest
      exact ⟨failures, apart, polledRest ▸ answered⟩
    · have polledFirst : channel.polled (entry :: entries) = entry :: channel.polled entries :=
        List.filter_cons_of_pos (by simpa using unskipped)
      rcases outcome with ⟨value, -, later⟩ | ⟨_, -, rfl, rfl, rfl⟩
      · obtain ⟨failures, apart, answered⟩ := ih later
        have batch := (pollPoints_runs later).2.2
        refine ⟨fun failure member => failures failure (collect_failures_subset member),
          fun failure member => ?_, fun completes other member => ?_⟩
        · rcases apart failure member with earlier | fresh
          · refine (mem_collect_failures earlier).imp_right fun same => ?_
            rw [same]
            exact unskipped
          · exact .inr fresh
        · rw [polledFirst] at member
          rcases List.mem_cons.mp member with rfl | member
          · rcases collect_answers now other collected value with
              ⟨point, added, same⟩ | ⟨failure, added, same⟩
            · exact .inl ⟨point, batch ▸ List.mem_append_left _ added, same⟩
            · exact .inr ⟨failure, failures failure added, same⟩
          · exact answered completes other member
      · refine ⟨fun failure member => List.mem_append_left _ member, fun failure member => ?_,
          fun completes => ?_⟩
        · rcases List.mem_append.mp member with earlier | new
          · exact .inl earlier
          · exact .inr (List.mem_singleton.mp new ▸ unskipped)
        · cases completes

end Channel

open Channel

/-- The report control block was enabled in the exchanges of a connect, under its configured name or
with the suffix 01. -/
def Enabled (trace : List (Exchange LinkReply)) (report : ReportConfig) : Prop :=
  ∃ domain baseItem name invokeId, ∃ reply : Except GatewayError (List UInt8),
    splitRcbRef report.rcbRef = some (domain, baseItem) ∧
    name ∈ [baseItem, baseItem ++ "01"] ∧
    ⟨.transact invokeId (.writeSimple domain (name ++ "$" ++ "RptEna") true), reply⟩ ∈ trace ∧
    writeOutcome reply = .ok (.ok ())

variable {reply : Except GatewayError (List UInt8)}

theorem mem_requestReplies {trace : List (Exchange LinkReply)} {invokeId : UInt8}
    {service : Service} (exchanged : ⟨.transact invokeId service, reply⟩ ∈ trace) :
    reply ∈ requestReplies trace :=
  List.mem_filterMap.mpr ⟨⟨.transact invokeId service, reply⟩, exchanged, rfl⟩

structure Cycle (reports : List ReportConfig) (settings : List PointSetting) where
  start : Channel
  connected : Channel
  before : Channel
  after : Channel
  connectTrace : List (Exchange LinkReply)
  trace : List (Exchange LinkReply)
  now : Int
  result : StampedPoll
  begun : Channel.SameSetting (new reports settings) start
  connects : start.connect.Runs connectTrace (.ok (connected, .ok ()))
  kept : Channel.SameSetting connected before
  up : before.state = .connected
  polls : (before.pollOnce now).Runs trace (.ok (after, result))
  completes : after.state = .connected

/-- A value of a report and the point to which it is assigned. -/
structure Assignment where
  unit : Nat
  element : Nat
  entry : PointEntry
  value : MmsValue

namespace Cycle

variable {reports : List ReportConfig} {settings : List PointSetting}
  (cycle : Cycle reports settings)

/-- The values of one report, by the number of the report and of the element. -/
def unitAssignments (numbered : List UInt8 × Nat) : List Assignment :=
  match parseReport numbered.1 with
  | .ok (some report) => cycle.before.reportConfigs.flatMap fun config =>
    report.elementIndices.zipIdx.filterMap fun element =>
      (cycle.before.matchElement config.datasetMembers report element).map
        fun matched => ⟨numbered.2, element.1, matched.1, matched.2⟩
  | _ => []

/-- The values of the reports of the cycle. -/
def assignments : List Assignment :=
  (reportUnits cycle.trace).zipIdx.flatMap cycle.unitAssignments

/-- The point is in the dataset of a report control block that the association enabled. -/
def Subscribed (address : Address) : Prop :=
  ∃ report ∈ reports, address.path ∈ report.datasetMembers ∧ Enabled cycle.connectTrace report

/-- Every enabled telemetry or signal point is read, is reported as failed, or is subscribed to. -/
def Covered : Prop :=
  ∀ setting ∈ settings, ∀ address, setting.enabled = true → setting.address = some address →
    (setting.pointType = .telemetry ∨ setting.pointType = .signal) →
    (∃ point ∈ cycle.result.data, point.key = (setting.pointType, setting.id)) ∨
    (∃ failure ∈ cycle.result.failures, failure.pointId = setting.id) ∨
    cycle.Subscribed address

section

variable (sender : Nat → Option ReportConfig)

/-- Every value of a report goes to the point that the dataset of its sender has at its index. -/
def Attributed : Prop :=
  ∀ assignment ∈ cycle.assignments, ∃ report path, sender assignment.unit = some report ∧
    report.datasetMembers[assignment.element]? = some path ∧
    cycle.before.pathToPoint path = some assignment.entry

/-- Every enabled telemetry or signal point with a number that polling skips is subscribed to, or a
report of the cycle has a value for it. -/
def SkippedReported : Prop :=
  ∀ setting ∈ settings, ∀ address, setting.enabled = true → setting.address = some address →
    (setting.pointType = .telemetry ∨ setting.pointType = .signal) →
    setting.id ∈ (new reports settings).reportSkipSet →
    cycle.Subscribed address ∨ ∃ unit ∈ reportUnits cycle.trace,
      ∃ delivery ∈ (new reports settings).unitDeliveries unit,
        delivery.key = (setting.pointType, setting.id)

/-- Wherever a dataset has a configured point at the index of a reported value, the dataset of the
sender has the same point there. -/
def Unambiguous : Prop :=
  ∀ index unit report, (reportUnits cycle.trace)[index]? = some unit →
    parseReport unit = .ok (some report) → ∀ config ∈ reports,
    ∀ element ∈ report.elementIndices.zipIdx, ∀ entry value,
    (new reports settings).matchElement config.datasetMembers report element = some (entry, value) →
    ∃ sent path, sender index = some sent ∧ sent.datasetMembers[element.1]? = some path ∧
      (new reports settings).pathToPoint path = some entry

theorem sameSetting : Channel.SameSetting (new reports settings) cycle.before :=
  (cycle.begun.trans (connect_keeps cycle.connects)).trans cycle.kept

theorem exists_entry {setting : PointSetting} {address : Address} (enabled : setting.enabled = true)
    (located : setting.address = some address)
    (acquired : setting.pointType = .telemetry ∨ setting.pointType = .signal) :
    ∃ entry, pollEntry setting = some entry ∧ entry.pointType = setting.pointType ∧
      entry.id = setting.id := by
  rcases acquired with telemetry | signal
  · exact ⟨_, by simp only [pollEntry, enabled, located, telemetry]; rfl, telemetry.symm, rfl⟩
  · exact ⟨_, by simp only [pollEntry, enabled, located, signal]; rfl, signal.symm, rfl⟩

theorem entry_mem_of_mem_readDeliveries {entries : List PointEntry}
    {replies : List (Except GatewayError (List UInt8))} {delivery : Delivery}
    (member : delivery ∈ readDeliveries entries replies) : delivery.entry ∈ entries := by
  obtain ⟨⟨entry, _⟩, paired, delivered⟩ := List.mem_filterMap.mp member
  have same : delivery.entry = entry := by
    simp only [readDelivery] at delivered
    split at delivered
    · split at delivered
      · cases delivered
        rfl
      · cases delivered
    · cases delivered
  exact same ▸ (List.of_mem_zip paired).1

/-- A skipped point is in the batch only by a report, and never among the failures. -/
theorem reported_of_skipped {pointType : PointType} {id : UInt32}
    (skipped : id ∈ cycle.before.reportSkipSet) {point : StampedPoint}
    (member : point ∈ cycle.result.data) (same : point.key = (pointType, id)) :
    ∃ unit ∈ reportUnits cycle.trace, ∃ delivery ∈ cycle.before.unitDeliveries unit,
      delivery.key = (pointType, id) := by
  rw [pollOnce_batch cycle.polls] at member
  obtain ⟨delivery, delivered, rfl⟩ := List.mem_map.mp member
  rcases List.mem_append.mp delivered with read | reported
  · have unskipped := (List.mem_filter.mp (entry_mem_of_mem_readDeliveries read)).2
    have number : delivery.entry.id = id := congrArg Prod.snd same
    rw [number] at unskipped
    exact absurd skipped (by simpa using unskipped)
  · obtain ⟨unit, arrived, element⟩ := List.mem_flatMap.mp reported
    exact ⟨unit, arrived, delivery, element, same⟩

theorem covered_iff : cycle.Covered ↔ cycle.SkippedReported := by
  obtain ⟨_, _, _, _, _, _, reported, -, -, readRun, -,
    -, finished⟩ := pollOnce_parts cycle.up cycle.polls
  have reads := reads_of_runs readRun
  have same := cycle.sameSetting
  constructor
  · intro covered setting member address enabled located acquired skipped
    rw [← same.reportSkipSet] at skipped
    rcases covered setting member address enabled located acquired with
      ⟨point, stored, key⟩ | ⟨failure, failed, number⟩ | subscribed
    · obtain ⟨unit, arrived, delivery, delivered, key⟩ :=
        cycle.reported_of_skipped skipped stored key
      exact .inr ⟨unit, arrived, delivery, unitDeliveries_congr same unit ▸ delivered, key⟩
    · rw [finished] at failed
      rcases reads.unskipped failure failed with none_ | unskipped
      · cases none_
      · exact absurd skipped (number ▸ unskipped)
    · exact .inl subscribed
  · intro reported setting member address enabled located acquired
    by_cases skipped : setting.id ∈ (new reports settings).reportSkipSet
    · rcases reported setting member address enabled located acquired skipped with
        subscribed | ⟨unit, arrived, delivery, delivered, key⟩
      · exact .inr (.inr subscribed)
      · refine .inl ⟨delivery.point cycle.now, ?_, key⟩
        rw [pollOnce_batch cycle.polls]
        refine List.mem_map_of_mem (List.mem_append_right _ ?_)
        exact List.mem_flatMap.mpr
          ⟨unit, arrived, (unitDeliveries_congr same unit).symm ▸ delivered⟩
    · obtain ⟨entry, polls, kind, number⟩ := exists_entry enabled located acquired
      have polled : entry ∈ cycle.before.polled cycle.before.points := by
        refine List.mem_filter.mpr ⟨?_, ?_⟩
        · rw [same.points]
          exact List.mem_filterMap.mpr ⟨setting, member, polls⟩
        · rw [number, same.reportSkipSet]
          exact decide_eq_true skipped
      rcases reads.answered cycle.completes entry polled with
        ⟨point, stored, key⟩ | ⟨failure, failed, failedNumber⟩
      · refine .inl ⟨point, ?_, by rw [key, kind, number]⟩
        rw [finished]
        exact List.mem_append_left _ stored
      · refine .inr (.inl ⟨failure, ?_, failedNumber.trans number⟩)
        rw [finished]
        exact failed

theorem mem_assignments {assignment : Assignment} : assignment ∈ cycle.assignments ↔
    ∃ unit report config element, (reportUnits cycle.trace)[assignment.unit]? = some unit ∧
      parseReport unit = .ok (some report) ∧ config ∈ reports ∧
      element ∈ report.elementIndices.zipIdx ∧ element.1 = assignment.element ∧
      (new reports settings).matchElement config.datasetMembers report element =
        some (assignment.entry, assignment.value) := by
  have same := cycle.sameSetting
  have configs : cycle.before.reportConfigs = reports := same.reportConfigs
  have matches_ : ∀ members report element, cycle.before.matchElement members report element =
      (new reports settings).matchElement members report element := by
    intro _ report element
    rw [matchElement, same.pathToPoint, matchElement]
  constructor
  · intro member
    obtain ⟨⟨unit, index⟩, numbered, inner⟩ := List.mem_flatMap.mp member
    rw [unitAssignments] at inner
    split at inner
    · rename_i report parsed
      obtain ⟨config, configured, inner⟩ := List.mem_flatMap.mp inner
      obtain ⟨element, included, matched⟩ := List.mem_filterMap.mp inner
      rw [matches_] at matched
      obtain ⟨_, found, rfl⟩ := Option.map_eq_some_iff.mp matched
      exact ⟨unit, report, config, element, List.mk_mem_zipIdx_iff_getElem?.mp numbered, parsed,
        configs ▸ configured, included, rfl, found⟩
    · cases inner
  · rintro ⟨unit, _, config, element, arrived, parsed, configured, included, index, found⟩
    refine List.mem_flatMap.mpr ⟨(unit, assignment.unit),
      List.mk_mem_zipIdx_iff_getElem?.mpr arrived, ?_⟩
    simp only [unitAssignments, parsed, configs]
    refine List.mem_flatMap.mpr ⟨config, configured, List.mem_filterMap.mpr ⟨element, included, ?_⟩⟩
    rw [matches_, found, Option.map_some, index]

/-- The reported part of the batch consists of the assignments. -/
theorem data_eq_reads_append_assignments :
    ∃ reads, cycle.result.data.map (fun point => (point.key, point.value)) =
      reads ++ cycle.assignments.map fun assignment =>
        ((assignment.entry.pointType, assignment.entry.id),
          applyTransform (mmsToValue assignment.value) assignment.entry.transform) := by
  have units : ∀ numbered, (cycle.unitAssignments numbered).map (fun assignment =>
        ((assignment.entry.pointType, assignment.entry.id),
          applyTransform (mmsToValue assignment.value) assignment.entry.transform)) =
      ((cycle.before.unitDeliveries numbered.1).map (Delivery.point cycle.now)).map
        fun point => (point.key, point.value) := by
    intro numbered
    rw [unitAssignments, unitDeliveries]
    rcases parseReport numbered.1 with _ | _ | _
    · rfl
    · rfl
    · simp only [reportDeliveries, List.map_flatMap, List.map_filterMap, Option.map_map]
      rfl
  refine ⟨((readDeliveries (cycle.before.polled cycle.before.points)
    (requestReplies cycle.trace)).map (Delivery.point cycle.now)).map
      fun point => (point.key, point.value), ?_⟩
  have numbered : (reportUnits cycle.trace).zipIdx.flatMap (fun numbered =>
        ((cycle.before.unitDeliveries numbered.1).map (Delivery.point cycle.now)).map
          fun point => (point.key, point.value)) =
      (reportUnits cycle.trace).flatMap fun unit =>
        ((cycle.before.unitDeliveries unit).map (Delivery.point cycle.now)).map
          fun point => (point.key, point.value) := by
    conv_rhs => rw [← List.zipIdx_map_fst 0 (reportUnits cycle.trace), List.flatMap_map]
  rw [pollOnce_batch cycle.polls, deliveries, List.map_append, List.map_append]
  congr 1
  rw [assignments]
  simp only [List.map_flatMap]
  rw [List.flatMap_congr fun numbered _ => units numbered, numbered]

theorem attributed_iff : cycle.Attributed sender ↔ cycle.Unambiguous sender := by
  have paths : cycle.before.pathToPoint = (new reports settings).pathToPoint :=
    cycle.sameSetting.pathToPoint
  constructor
  · intro attributed index unit report arrived parsed config configured element included entry
      value found
    obtain ⟨sent, path, sender_, named, point⟩ := attributed ⟨index, element.1, entry, value⟩
      (cycle.mem_assignments.mpr
        ⟨unit, report, config, element, arrived, parsed, configured, included, rfl, found⟩)
    exact ⟨sent, path, sender_, named, paths ▸ point⟩
  · intro unambiguous _ member
    obtain ⟨unit, report, config, element, arrived, parsed, configured, included, index, found⟩ :=
      cycle.mem_assignments.mp member
    obtain ⟨sent, path, sender_, named, point⟩ := unambiguous _ unit report arrived parsed config
      configured element included _ _ found
    exact ⟨sent, path, sender_, index ▸ named, paths ▸ point⟩

end

end Cycle

/-- A response to a write with an access error. -/
def deniedResponse : List UInt8 := [0xA1, 0x08, 0x02, 0x01, 0x01, 0xA5, 0x03, 0x80, 0x01, 0x03]

def deniedError : GatewayError := .protocol
  "IEC 61850: write response: Protocol error: MMS Write data-access error code 3"

theorem writeOutcome_denied : writeOutcome (.ok deniedResponse) = .ok (.error deniedError) := by
  decide +kernel

theorem rcbWriteResult_denied : rcbWriteResult (.error deniedError) = .err deniedError := by
  decide +kernel

/-- A control block whose first write fails for another reason than its name is given up. -/
theorem subscribeReport_err {channel : Channel} {domain baseItem : String} {error : GatewayError}
    (returned : writeOutcome reply = .ok (.error error))
    (failed : rcbWriteResult (.error error) = .err error) :
    (channel.subscribeReport domain baseItem).Runs
      [⟨.transact channel.invokeId (.writeSimple domain (baseItem ++ "$" ++ "RptEna") true),
        reply⟩] (.ok channel.nextInvokeId.2) := by
  refine runs_bind.mpr ⟨_, [], (channel.nextInvokeId.2, .err error),
    (List.append_nil _).symm, ?_, rfl, rfl⟩
  refine runs_bind.mpr ⟨_, [], .error error, (List.append_nil _).symm, ?_, rfl, ?_⟩
  · exact runs_send_bind.mpr
      ⟨reply, [], rfl, runs_ofExcept.mpr ⟨rfl, returned.symm⟩⟩
  · rw [failed]

theorem denied_connects : (new breakerReports breakerSettings).connect.Runs
    [⟨.connect, .ok ()⟩, ⟨.transact 1
      (.writeSimple "LD" ("LLN0$BR$Events" ++ "$" ++ "RptEna") true), .ok deniedResponse⟩]
    (.ok (breakerChannel.nextInvokeId.2, .ok ())) := by
  refine ⟨.ok (), _, rfl, ?_⟩
  show (subscribeAll [("LD", "LLN0$BR$Events")] breakerChannel >>= fun channel =>
    pure (channel, Except.ok ())).Runs _ _
  refine runs_bind.mpr ⟨_, [], _, (List.append_nil _).symm, ?_, rfl, rfl⟩
  exact runs_bind.mpr ⟨_, [], _, (List.append_nil _).symm,
    subscribeReport_err writeOutcome_denied rcbWriteResult_denied, rfl, rfl⟩

end AetherIot.Io.Iec61850
