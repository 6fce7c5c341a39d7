import AetherIot.Io.Iec104
import AetherIot.Io.OpcUa

/-!
# Points keep their address

The tables of the IEC 104 and OPC UA channels are over all points at once, so that the last point
with a number or an address hides the others.  Updates and commands reach the right point exactly
when the point that the tables find is the one they belong to.
-/

namespace AetherIot.Io

open OpcUa

/-- An IEC 104 channel publishes a batch of updates as the points they belong to exactly when the last
point at each address is read from there with an identical transform, and sends commands to points of
their own type exactly when the last point with each number is at the address of such a point.  An OPC
UA channel does so exactly when no later point has the number or the node of the point of an update,
and the node has a plain identifier. -/
theorem points_keep_address_iff {iec104 : Iec104.Config} {forms : OpcUa.IdentifierNotation}
    {opcUa : OpcUa.Config} (iec104WellFormed : AddressedPoint.WellFormed some iec104.points)
    (opcUaWellFormed : AddressedPoint.WellFormed (denotedNode forms) opcUa.points) :
    ((∀ now updates, (iec104.convertDataPoints now updates).map (·.stored) =
        iec104.publications updates ↔ ∀ update ∈ updates, iec104.Resolves update) ∧
      (∀ answer commands, iec104.Directs .control (iec104.writeControl answer commands) ↔
        ∀ command ∈ commands, iec104.ControlMatches command.1) ∧
      ∀ answer adjustments, iec104.Directs .adjustment (iec104.writeAdjustment answer adjustments) ↔
          ∀ command ∈ adjustments, iec104.AdjustmentMatches command.1) ∧
    (∀ now node variant status sourceTimestamp,
      (opcUa.published now node ⟨some variant, status, sourceTimestamp⟩).map (·.stored) =
        (AddressedPoint.publication (denotedNode forms) opcUa.points node
          (convertVariantToValue variant)).toList ↔
        opcUa.Resolves forms node (convertVariantToValue variant)) ∧
    (∀ answer commands, opcUa.Directs forms .control (opcUa.writeControl answer commands) ↔
      ∀ command ∈ commands, opcUa.ControlMatches forms command.1) ∧
    ∀ answer adjustments,
      opcUa.Directs forms .adjustment (opcUa.writeAdjustment answer adjustments) ↔
        ∀ command ∈ adjustments, opcUa.AdjustmentMatches forms command.1 := by
  refine ⟨⟨fun now updates => ?_, fun answer commands => ?_, fun answer adjustments => ?_⟩,
    fun now node variant status sourceTimestamp => ?_, fun answer commands => ?_,
    fun answer adjustments => ?_⟩
  · exact Iec104.Config.convertDataPoints_eq_iff iec104WellFormed
  · exact Iec104.Config.directs_writeControl_iff
  · exact Iec104.Config.directs_writeAdjustment_iff
  · exact OpcUa.Config.published_iff opcUaWellFormed
  · exact OpcUa.Config.directs_writeControl_iff
  · exact OpcUa.Config.directs_writeAdjustment_iff

def unchanged : TransformConfig := ⟨1.0, 0.0, false⟩

/-- A telemetry point, a control point and an adjustment point, all with the number 1. -/
def stationPoints {Address : Type} (telemetry control adjustment : Address) :
    List (AddressedPoint Address) :=
  [⟨1, .telemetry, telemetry, unchanged⟩, ⟨1, .control, control, unchanged⟩,
    ⟨1, .adjustment, adjustment, unchanged⟩]

def iec104Station : Iec104.Config := ⟨stationPoints 100 300 400⟩

def opcUaStation : OpcUa.Config := ⟨stationPoints ⟨"i=100", 2⟩ ⟨"i=300", 2⟩ ⟨"i=400", 2⟩⟩

/-- Globally unique identifiers and byte strings denote themselves. -/
def plainForms : OpcUa.IdentifierNotation := ⟨some, fun _ => some []⟩

/-- A single point of the object with an address. -/
def switchedOn (ioa : UInt32) : Iec104.Update := ⟨ioa, .single true, ⟨true, false⟩, none⟩

theorem wellFormed_iec104Station : AddressedPoint.WellFormed some iec104Station.points :=
  ⟨by decide, by decide, by decide⟩

theorem wellFormed_opcUaStation :
    AddressedPoint.WellFormed (denotedNode plainForms) opcUaStation.points :=
  ⟨by decide, by decide +kernel, by decide +kernel⟩

theorem last_iec104Station : AddressedPoint.last iec104Station.points 1 =
    some ⟨1, .adjustment, 400, unchanged⟩ := rfl

theorem denoted_telemetry : denotedNode plainForms ⟨"i=100", 2⟩ = some ⟨2, .numeric 100⟩ := by
  decide +kernel

theorem denoted_commands : denotedNode plainForms ⟨"i=300", 2⟩ = some ⟨2, .numeric 300⟩ ∧
    denotedNode plainForms ⟨"i=400", 2⟩ = some ⟨2, .numeric 400⟩ := by
  decide +kernel

/-- A control command for the number 1 goes to the object of the adjustment point, an object that is
not configured is published as telemetry, and the telemetry of the OPC UA server is published as an
adjustment. -/
theorem shared_numbers_misdirect : AddressedPoint.WellFormed some iec104Station.points ∧
    ¬ iec104Station.Directs .control (iec104Station.writeControl (fun _ => .ok ()) [(1, true)]) ∧
    (iec104Station.convertDataPoints 0 [switchedOn 7]).map (·.stored) ≠
      iec104Station.publications [switchedOn 7] ∧
    AddressedPoint.WellFormed (denotedNode plainForms) opcUaStation.points ∧
    (opcUaStation.published 0 ⟨2, .numeric 100⟩ ⟨some (.int32 7), none, none⟩).map (·.stored) ≠
      (AddressedPoint.publication (denotedNode plainForms) opcUaStation.points
        ⟨2, .numeric 100⟩ (.integer 7)).toList := by
  refine ⟨wellFormed_iec104Station, fun directs => ?_, fun same => ?_, wellFormed_opcUaStation,
    fun same => ?_⟩
  · have matched := Iec104.Config.directs_writeControl_iff.mp directs _ (List.mem_singleton_self _)
    obtain ⟨point, member, isControl, -, located⟩ := matched _ last_iec104Station
    simp only [iec104Station, stationPoints, List.mem_cons, List.not_mem_nil, or_false] at member
    rcases member with rfl | rfl | rfl
    · cases isControl
    · simp at located
    · cases isControl
  · obtain ⟨point, found, -⟩ := (Iec104.Config.convertDataPoints_eq_iff wellFormed_iec104Station).mp
      same _ (List.mem_singleton_self _)
    cases found
  · have resolves := (@OpcUa.Config.published_iff plainForms ⟨2, .numeric 100⟩ opcUaStation 0
      (.int32 7) none none wellFormed_opcUaStation).mp same
    have found : KeyedList.findLast? (fun point : OpcUa.Point =>
        denotedNode plainForms point.address = some ⟨2, .numeric 100⟩) opcUaStation.points =
        some ⟨1, .telemetry, ⟨"i=100", 2⟩, unchanged⟩ := by
      simp [KeyedList.findLast?, opcUaStation, stationPoints, denoted_telemetry, denoted_commands]
    obtain ⟨-, isLast, -⟩ := resolves.plain rfl _ found
    cases isLast

def opcUaMeter : OpcUa.Config := ⟨[⟨1, .telemetry, ⟨"i=100", 2⟩, unchanged⟩]⟩

theorem points_keep_address_on_separate_numbers :
    (iec104Station.convertDataPoints 0 [switchedOn 100]).map (·.stored) =
      iec104Station.publications [switchedOn 100] ∧
    (opcUaMeter.published 0 ⟨2, .numeric 100⟩ ⟨some (.int32 7), none, none⟩).map (·.stored) =
      (AddressedPoint.publication (denotedNode plainForms) opcUaMeter.points
        ⟨2, .numeric 100⟩ (.integer 7)).toList := by
  have wellFormed : AddressedPoint.WellFormed (denotedNode plainForms) opcUaMeter.points :=
    ⟨by decide, by decide +kernel, by decide +kernel⟩
  obtain ⟨⟨iec104, -⟩, opcUa, -⟩ := points_keep_address_iff wellFormed_iec104Station wellFormed
  refine ⟨(iec104 0 _).mpr fun update member => ?_,
    (opcUa 0 _ (.int32 7) none none).mpr ⟨fun _ point found => ?_, fun marked => ?_⟩⟩
  · rw [List.mem_singleton.mp member]
    exact ⟨⟨1, .telemetry, 100, unchanged⟩, rfl, rfl, rfl⟩
  · simp only [KeyedList.findLast?, opcUaMeter, List.reverse_singleton, List.find?_singleton,
      denoted_telemetry, decide_true, if_true, Option.some.injEq] at found
    subst found
    refine ⟨rfl, rfl, fun flag same => ?_⟩
    cases same
  · cases marked

end AetherIot.Io
