import AetherIot.Io.Iec61850.Channel

/-!
# Which batches of an IEC 61850 channel can be stored

The batch of a cycle consists of the values that the server answered to reads, followed by the values
of all reports that arrived.  The store accepts it exactly if all of these values are numbers and no
point occurs twice among them.
-/

namespace AetherIot.Io.Iec61850

/-- The replies to the requests of a run. -/
def requestReplies (trace : List (Exchange LinkReply)) : List (Except GatewayError (List UInt8)) :=
  trace.filterMap fun
    | ⟨.transact _ _, reply⟩ => some reply
    | _ => none

/-- The reports that a run collected. -/
def reportUnits (trace : List (Exchange LinkReply)) : List (List UInt8) :=
  trace.flatMap fun
    | ⟨.drainSocket, units⟩ => units
    | ⟨.takePendingReports, units⟩ => units
    | _ => []

/-- A value for a point, with the time that the source gave to it. -/
structure Delivery where
  entry : PointEntry
  value : MmsValue
  source : Option Int

def readDelivery (entry : PointEntry) (reply : Except GatewayError (List UInt8)) :
    Option Delivery :=
  match readOutcome reply with
  | .ok (.ok value) => if value.isOk then some ⟨entry, value, none⟩ else none
  | _ => none

/-- The values that the replies to reads of these points deliver. -/
def readDeliveries (entries : List PointEntry)
    (replies : List (Except GatewayError (List UInt8))) : List Delivery :=
  (entries.zip replies).filterMap fun pair => readDelivery pair.1 pair.2

namespace Delivery

def point (now : Int) (delivery : Delivery) : StampedPoint :=
  stampedPoint now delivery.entry delivery.value delivery.source

def key (delivery : Delivery) : PointType × UInt32 := (delivery.entry.pointType, delivery.entry.id)

/-- The value is a number, and the transform of the point leaves it finite. -/
def Numeric (delivery : Delivery) : Prop :=
  ∃ number, (applyTransform (mmsToValue delivery.value) delivery.entry.transform).asF64 =
    some number ∧ number.isFinite = true

theorem convertible_point {now : Int} {delivery : Delivery} :
    (delivery.point now).Convertible ↔ delivery.Numeric ∧ 0 ≤ delivery.source.getD now := by
  constructor
  · exact fun convertible => ⟨convertible.numeric, convertible.afterEpoch⟩
  · exact fun ⟨numeric, afterEpoch⟩ => ⟨delivery.entry.acquired, numeric, afterEpoch⟩

end Delivery

open Delivery

namespace Channel

variable (channel : Channel)

/-- The values that a report delivers, matched against every configured dataset. -/
def reportDeliveries (report : ParsedReport) : List Delivery :=
  channel.reportConfigs.flatMap fun config =>
    report.elementIndices.zipIdx.filterMap fun element =>
      (channel.matchElement config.datasetMembers report element).map fun (entry, value) =>
        ⟨entry, value, report.timestampMs.map Int.ofNat⟩

def unitDeliveries (unit : List UInt8) : List Delivery :=
  match parseReport unit with
  | .ok (some report) => channel.reportDeliveries report
  | _ => []

/-- Those of the points that a cycle reads. -/
def polled (entries : List PointEntry) : List PointEntry :=
  entries.filter fun entry => decide (entry.id ∉ channel.reportSkipSet)

/-- The values that the server delivered in a cycle: the answers to the reads in their order, and the
elements of the reports. -/
def deliveries (trace : List (Exchange LinkReply)) : List Delivery :=
  readDeliveries (channel.polled channel.points) (requestReplies trace) ++
    (reportUnits trace).flatMap channel.unitDeliveries

/-- All delivered values are numbers, they have times after the epoch, and no point has two. -/
structure Deliverable (now : Int) (trace : List (Exchange LinkReply)) :
    Prop where
  numeric : ∀ delivery ∈ channel.deliveries trace, delivery.Numeric
  afterEpoch : ∀ delivery ∈ channel.deliveries trace, 0 ≤ delivery.source.getD now
  single : ((channel.deliveries trace).map key).Nodup

structure SameSetting (before after : Channel) : Prop where
  points : after.points = before.points
  reportConfigs : after.reportConfigs = before.reportConfigs
  pathToPoint : after.pathToPoint = before.pathToPoint
  reportSkipSet : after.reportSkipSet = before.reportSkipSet

theorem reportPoints_eq (channel : Channel) (now : Int) (report : ParsedReport) :
    channel.reportPoints now report = (channel.reportDeliveries report).map (point now) := by
  simp only [reportPoints, reportDeliveries, List.map_flatMap, List.map_filterMap, Option.map_map]
  rfl

variable {channel after : Channel} {now : Int} {units : List (List UInt8)}
  {trace : List (Exchange LinkReply)} {entries : List PointEntry} {collected result : Collected}

theorem processReportPdus_eq {points : List StampedPoint}
    (processed : channel.processReportPdus now units = .ok points) :
    points = (units.flatMap channel.unitDeliveries).map (point now) := by
  induction units generalizing points with
  | nil =>
    cases processed
    rfl
  | cons unit units ih =>
    simp only [processReportPdus, Attempt.bind_eq_ok] at processed
    obtain ⟨report, parsed, _, rest, ⟨⟩⟩ := processed
    rw [List.flatMap_cons, List.map_append, ih rest]
    congr 1
    cases report with
    | none => simp [unitDeliveries, parsed]
    | some => simp [unitDeliveries, parsed, reportPoints_eq]

theorem readVariable_runs {invokeId : UInt8} {domain item : String}
    {outcome : Except GatewayError MmsValue}
    (run : (readVariable invokeId domain item).Runs trace (.ok outcome)) :
    ∃ reply : Except GatewayError (List UInt8),
      trace = [⟨.transact invokeId (.read domain item), reply⟩] ∧
        readOutcome reply = .ok outcome := by
  obtain ⟨reply, _, rfl, returned⟩ := Interaction.runs_send_bind.mp run
  obtain ⟨rfl, same⟩ := Interaction.runs_ofExcept.mp returned
  exact ⟨reply, rfl, same.symm⟩

/-- What a cycle collected before it continues with the rest of the points. -/
def collect (now : Int) (entry : PointEntry) (collected : Collected) : MmsValue → Collected
  | .failure code => collected.fail entry.id s!"MMS data-access error {code.toNat}"
  | value => collected.add (stampedPoint now entry value none)

/-- The first point of a cycle is skipped, is read, or ends the cycle. -/
theorem pollPoints_cons_runs {entry : PointEntry}
    (run : (pollPoints now (entry :: entries) channel collected).Runs trace (.ok (after, result))) :
    (entry.id ∈ channel.reportSkipSet ∧
      (pollPoints now entries channel collected).Runs trace (.ok (after, result))) ∨
    (entry.id ∉ channel.reportSkipSet ∧ ∃ (reply : Except GatewayError (List UInt8)) (rest : _),
      trace = ⟨.transact channel.invokeId (.read entry.domain entry.item), reply⟩ :: rest ∧
      ((∃ value, readOutcome reply = .ok (.ok value) ∧
        (pollPoints now entries channel.nextInvokeId.2 (collect now entry collected value)).Runs
          rest (.ok (after, result))) ∨
      (∃ error, readOutcome reply = .ok (.error error) ∧ rest = [] ∧
        after = channel.nextInvokeId.2.goDisconnected ∧
        result = collected.fail entry.id (transportFailure error)))) := by
  rw [pollPoints] at run
  by_cases skipped : entry.id ∈ channel.reportSkipSet
  · rw [if_pos skipped] at run
    exact .inl ⟨skipped, run⟩
  · rw [if_neg skipped] at run
    obtain ⟨_, rest, outcome, rfl, readRun, restRun⟩ := Interaction.runs_bind.mp run
    obtain ⟨reply, rfl, returned⟩ := readVariable_runs readRun
    refine .inr ⟨skipped, reply, rest, rfl, ?_⟩
    cases outcome with
    | ok value =>
      refine .inl ⟨value, returned, ?_⟩
      cases value <;> exact restRun
    | error error =>
      obtain ⟨rfl, same⟩ := restRun
      cases same
      exact .inr ⟨error, returned, rfl, rfl, rfl⟩

theorem collect_batch (now : Int) (entry : PointEntry) (collected : Collected) (value : MmsValue)
    {reply : Except GatewayError (List UInt8)} (returned : readOutcome reply = .ok (.ok value)) :
    (collect now entry collected value).batch =
      collected.batch ++ (readDelivery entry reply).toList.map (point now) := by
  simp only [readDelivery, returned]
  cases value <;> simp [collect, Collected.add, Collected.fail, MmsValue.isOk, point]

theorem SameSetting.refl (channel : Channel) : SameSetting channel channel := ⟨rfl, rfl, rfl, rfl⟩

theorem SameSetting.trans {first second third : Channel} (one : SameSetting first second)
    (two : SameSetting second third) : SameSetting first third :=
  ⟨two.points.trans one.points, two.reportConfigs.trans one.reportConfigs,
    two.pathToPoint.trans one.pathToPoint, two.reportSkipSet.trans one.reportSkipSet⟩

theorem readDeliveries_cons (entry : PointEntry) (entries : List PointEntry)
    (reply : Except GatewayError (List UInt8)) (replies : List (Except GatewayError (List UInt8))) :
    readDeliveries (entry :: entries) (reply :: replies) =
      (readDelivery entry reply).toList ++ readDeliveries entries replies := by
  rw [readDeliveries, List.zip_cons_cons, List.filterMap_cons]
  cases readDelivery entry reply <;> rfl

/-- What the reads of a cycle put into the batch. -/
theorem pollPoints_runs
    (run : (pollPoints now entries channel collected).Runs trace (.ok (after, result))) :
    SameSetting channel after ∧ reportUnits trace = [] ∧ result.batch = collected.batch ++
        (readDeliveries (channel.polled entries) (requestReplies trace)).map (point now) := by
  induction entries generalizing channel collected trace with
  | nil =>
    obtain ⟨rfl, same⟩ := run
    cases same
    exact ⟨.refl _, rfl, by simp [polled, readDeliveries]⟩
  | cons entry _ ih =>
    rcases pollPoints_cons_runs run with ⟨skipped, rest⟩ | ⟨unskipped, reply, rest, rfl, outcome⟩
    · rw [polled, List.filter_cons_of_neg (by simpa using skipped)]
      exact ih rest
    · have replies : requestReplies (⟨.transact channel.invokeId
          (.read entry.domain entry.item), reply⟩ :: rest) = reply :: requestReplies rest := rfl
      rw [polled, List.filter_cons_of_pos (by simpa using unskipped), replies,
        readDeliveries_cons, List.map_append]
      rcases outcome with ⟨value, returned, later⟩ | ⟨_, returned, rfl, rfl, rfl⟩
      · obtain ⟨same, noReports, batch⟩ := ih later
        refine ⟨⟨same.points, same.reportConfigs, same.pathToPoint, same.reportSkipSet⟩,
          noReports, ?_⟩
        rw [batch, collect_batch now entry collected value returned, List.append_assoc]
        rfl
      · refine ⟨⟨rfl, rfl, rfl, rfl⟩, rfl, ?_⟩
        simp [readDelivery, returned, requestReplies, readDeliveries, Collected.fail]

/-- Reports are collected by at most one exchange. -/
structure Collects (trace : List (Exchange LinkReply)) (units : List (List UInt8)) : Prop where
  reports : reportUnits trace = units
  noReplies : requestReplies trace = []

theorem collects_of_runs {source : Program (List (List UInt8))}
    (asks : ∀ trace units, source.Runs trace (.ok units) → Collects trace units)
    (run : (channel.collectReports source).Runs trace (.ok units)) : Collects trace units := by
  rw [collectReports] at run
  split at run
  · exact asks trace units run
  · obtain ⟨rfl, same⟩ := run
    cases same
    exact ⟨rfl, rfl⟩

theorem collects_drainSocket (trace : List (Exchange LinkReply)) (units : List (List UInt8))
    (run : drainSocket.Runs trace (.ok units)) : Collects trace units := by
  obtain ⟨_, _, rfl, rfl, same⟩ := run
  cases same
  exact ⟨by simp [reportUnits], rfl⟩

theorem collects_takePendingReports (trace : List (Exchange LinkReply)) (units : List (List UInt8))
    (run : takePendingReports.Runs trace (.ok units)) : Collects trace units := by
  obtain ⟨_, _, rfl, rfl, same⟩ := run
  cases same
  exact ⟨by simp [reportUnits], rfl⟩

theorem unitDeliveries_congr {before : Channel} (same : SameSetting before after)
    (unit : List UInt8) : after.unitDeliveries unit = before.unitDeliveries unit := by
  simp only [unitDeliveries, reportDeliveries, matchElement, same.reportConfigs, same.pathToPoint]

theorem pollOnce_parts {result : StampedPoll} (up : channel.state = .connected)
    (run : (channel.pollOnce now).Runs trace (.ok (after, result))) :
    ∃ drainTrace readTrace takeTrace drained pending collected reported,
      trace = drainTrace ++ (readTrace ++ takeTrace) ∧ Collects drainTrace drained ∧
      (pollPoints now channel.points channel ⟨[], []⟩).Runs readTrace (.ok (after, collected)) ∧
      Collects takeTrace pending ∧
      after.processReportPdus now (drained ++ pending) = .ok reported ∧
      result = ⟨collected.batch ++ reported, collected.failures⟩ := by
  rw [pollOnce, if_neg (not_not_intro up)] at run
  obtain ⟨drainTrace, _, drained, rfl, drainRun, pollingRun⟩ := Interaction.runs_bind.mp run
  obtain ⟨readTrace, _, ⟨_, collected⟩, rfl, readRun, takingRun⟩ :=
    Interaction.runs_bind.mp pollingRun
  obtain ⟨takeTrace, _, pending, rfl, takeRun, reportingRun⟩ := Interaction.runs_bind.mp takingRun
  obtain ⟨_, _, reported, rfl, reportRun, returned⟩ := Interaction.runs_bind.mp reportingRun
  obtain ⟨rfl, processed⟩ := Interaction.runs_ofExcept.mp reportRun
  obtain ⟨rfl, same⟩ := returned
  cases same
  exact ⟨drainTrace, readTrace, takeTrace, drained, pending, collected, reported, by simp,
    collects_of_runs collects_drainSocket drainRun, readRun, collects_of_runs collects_takePendingReports takeRun,
    processed.symm, rfl⟩

theorem requestReplies_append (first second : List (Exchange LinkReply)) :
    requestReplies (first ++ second) = requestReplies first ++ requestReplies second :=
  List.filterMap_append

theorem reportUnits_append (first second : List (Exchange LinkReply)) :
    reportUnits (first ++ second) = reportUnits first ++ reportUnits second :=
  List.flatMap_append

/-- The batch of a cycle is what the server delivered. -/
theorem pollOnce_batch {result : StampedPoll}
    (run : (channel.pollOnce now).Runs trace (.ok (after, result))) :
    result.data = (channel.deliveries trace).map (point now) := by
  by_cases up : channel.state = .connected
  · obtain ⟨drainTrace, readTrace, takeTrace, drained, pending, _, _, rfl, drains,
      readRun, takes, processed, rfl⟩ := pollOnce_parts up run
    obtain ⟨same, noReports, batch⟩ := pollPoints_runs readRun
    have replies : requestReplies (drainTrace ++ (readTrace ++ takeTrace)) =
        requestReplies readTrace := by
      rw [requestReplies_append, requestReplies_append, drains.noReplies, takes.noReplies,
        List.nil_append, List.append_nil]
    have units : reportUnits (drainTrace ++ (readTrace ++ takeTrace)) = drained ++ pending := by
      rw [reportUnits_append, reportUnits_append, drains.reports, noReports, takes.reports,
        List.nil_append]
    rw [deliveries, replies, units, List.map_append, processReportPdus_eq processed, batch,
      List.nil_append, List.flatMap_congr fun unit _ => unitDeliveries_congr same unit]
  · rw [pollOnce, if_pos up] at run
    obtain ⟨rfl, same⟩ := run
    cases same
    simp [deliveries, requestReplies, reportUnits, readDeliveries]

/-- The store accepts the batch of a cycle exactly if everything that the server delivered is numeric
and finite, is dated after the epoch, and is about pairwise different points. -/
theorem poll_batch_accepted_iff {channel after : Channel} {now : Int}
    {trace : List (Exchange LinkReply)} {result : StampedPoll} (channelId : UInt32)
    (run : (channel.pollOnce now).Runs trace (.ok (after, result))) :
    Accepted channelId result.data ↔ channel.Deliverable now trace := by
  rw [accepted_iff, pollOnce_batch run, List.forall_mem_map, List.map_map]
  constructor
  · rintro ⟨convertible, distinct⟩
    exact ⟨fun delivery member => (convertible_point.mp (convertible delivery member)).1,
      fun delivery member => (convertible_point.mp (convertible delivery member)).2,
      distinct⟩
  · rintro ⟨numeric, afterEpoch, distinct⟩
    exact ⟨fun delivery member => convertible_point.mpr
      ⟨numeric delivery member, afterEpoch delivery member⟩, distinct⟩

def breakerReports : List ReportConfig := [⟨"LD/LLN0$BR$Events", ["LD/XCBR1$ST$Pos$stVal"]⟩]

/-- A signal in the dataset of the report, and a telemetry point that is polled. -/
def breakerSettings : List PointSetting :=
  [⟨1, .signal, some ⟨"LD", "XCBR1$ST$Pos$stVal", 1⟩, ⟨1, 0, false⟩, true⟩,
    ⟨2, .telemetry, some ⟨"LD", "MMXU1$MX$A$f", 1⟩, ⟨1, 0, false⟩, true⟩]

def breakerChannel : Channel :=
  { Channel.new breakerReports breakerSettings with connected := true, state := .connected }

/-- A report that the first member of the dataset is true. -/
def breakerReport : List UInt8 :=
  [0xA3, 0x1A, 0xA0, 0x18, 0xA1, 0x05, 0x80, 0x03, 0x52, 0x50, 0x54, 0xA0, 0x0F,
    0x8A, 0x01, 0x72, 0x84, 0x03, 0x06, 0x00, 0x00, 0x84, 0x02, 0x07, 0x80, 0x83, 0x01, 0x01]

/-- A response with a float. -/
def currentResponse : List UInt8 :=
  [0xA1, 0x10, 0x02, 0x01, 0x01, 0xA4, 0x0B, 0xA1, 0x09, 0xA1, 0x07,
    0x87, 0x05, 0x08, 0xBD, 0xC6, 0xAF, 0x00]

/-- A cycle in which the given reports have arrived. -/
def breakerTrace (reports : List (List UInt8)) : List (Exchange LinkReply) :=
  [⟨.drainSocket, reports⟩, ⟨.transact 1 (.read "LD" "MMXU1$MX$A$f"), .ok currentResponse⟩,
    ⟨.takePendingReports, []⟩]

/-- Two reports about one member in a cycle: the store rejects the batch, the polled value in it
included. -/
theorem twice_reported_member_rejects : ∃ after result, (breakerChannel.pollOnce 0).Runs
        (breakerTrace [breakerReport, breakerReport]) (.ok (after, result)) ∧
      result.data.map StampedPoint.key = [(.telemetry, 2), (.signal, 1), (.signal, 1)] ∧
      ¬ Accepted 10 result.data := by
  refine ⟨_, _, ⟨_, _, rfl, Except.ok currentResponse, _, rfl, [], _, rfl, rfl, rfl⟩, rfl, ?_⟩
  intro accepted
  exact absurd (accepted_iff.mp accepted).2 (by decide)

/-- The cycle with one report. -/
theorem poll_batch_accepted_iff_breaker :
    ∃ after result, (breakerChannel.pollOnce 0).Runs (breakerTrace [breakerReport])
        (.ok (after, result)) ∧
      (Accepted 10 result.data ↔ breakerChannel.Deliverable 0 (breakerTrace [breakerReport])) := by
  have run : ∃ after result, (breakerChannel.pollOnce 0).Runs (breakerTrace [breakerReport])
      (.ok (after, result)) :=
    ⟨_, _, _, _, rfl, Except.ok currentResponse, _, rfl, [], _, rfl, rfl, rfl⟩
  obtain ⟨after, result, run⟩ := run
  exact ⟨after, result, run, poll_batch_accepted_iff 10 run⟩

end Channel

end AetherIot.Io.Iec61850
