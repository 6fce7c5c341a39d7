import AetherIot.Io.Iec61850.Channel

/-!
# The framing layer under an IEC 61850 channel

The server's bytes arrive in pieces.  Each wait consumes what arrives before its deadline; a wait that
is cancelled within a frame loses the part that it has read.
-/

namespace AetherIot.Io.Iec61850

/-- The unit within the payload of a data frame. -/
def unwrapDataPdu (payload : List UInt8) : Option (List UInt8) := do
  let session ← List.dropPrefix? payload [0x02, 0xF0, 0x80]
  let presentation ← List.dropPrefix? session [0x01, 0x00, 0x01, 0x00]
  let (_, data) ← parseTlv presentation 0x61
  let (_, list) ← parseTlv data 0x30
  let value ← List.dropPrefix? list [0x02, 0x01, 0x03]
  let (_, unit) ← parseTlv value 0xA0
  return unit

/-- What reading a frame finds in the bytes that arrive before the deadline. -/
inductive Received where
  | complete (payload : List UInt8) (length : Nat)
  | invalid (message : String) (length : Nat)
  | starved
  deriving DecidableEq

def recvTpkt : List UInt8 → Received
  | version :: _ :: high :: low :: rest =>
    let total := high.toNat * 256 + low.toNat
    if version ≠ 0x03 then
      .invalid ("IEC 61850: invalid TPKT version byte 0x" ++ hexByte version) 4
    else if total < 4 then .invalid s!"IEC 61850: TPKT length {total} out of range" 4
    else if rest.length < total - 4 then .starved
    else .complete (rest.take (total - 4)) total
  | _ => .starved

/-- What reading a unit finds. -/
inductive ReceivedUnit where
  | unit (pdu : List UInt8) (length : Nat)
  | invalid (message : String) (length : Nat)
  | starved
  deriving DecidableEq

def recvMmsRaw (bytes : List UInt8) : ReceivedUnit :=
  match recvTpkt bytes with
  | .complete payload length =>
    match unwrapDataPdu payload with
    | some pdu => .unit pdu length
    | none => .invalid "IEC 61850: failed to unwrap MMS PDU from data frame" length
  | .invalid message length => .invalid message length
  | .starved => .starved

def isReport (pdu : List UInt8) : Bool := pdu.head? = some 0xA3

/-- The outcome of a wait, the bytes that it consumed and the reports that it put aside. -/
structure Receipt where
  outcome : Except GatewayError (List UInt8)
  consumed : Nat
  reports : List (List UInt8)

/-- Wait for a unit that is not a report.  A wait that starves has consumed everything and ends with
the given error. -/
def recvMms (ending : GatewayError) : Nat → List UInt8 → Receipt
  | 0, bytes => ⟨.error ending, bytes.length, []⟩
  | fuel + 1, bytes =>
    match recvMmsRaw bytes with
    | .starved => ⟨.error ending, bytes.length, []⟩
    | .invalid message length => ⟨.error (.protocol message), length, []⟩
    | .unit pdu length =>
      if isReport pdu then
        let rest := recvMms ending fuel (bytes.drop length)
        ⟨rest.outcome, length + rest.consumed, pdu :: rest.reports⟩
      else ⟨.ok pdu, length, []⟩

/-- Read reports until nothing more arrives in time.  Another unit is discarded and ends the wait. -/
def drainUnits : Nat → List UInt8 → Nat × List (List UInt8)
  | 0, bytes => (bytes.length, [])
  | fuel + 1, bytes =>
    match recvMmsRaw bytes with
    | .starved => (bytes.length, [])
    | .invalid _ length => (length, [])
    | .unit pdu length =>
      if isReport pdu then
        let rest := drainUnits fuel (bytes.drop length)
        (length + rest.1, pdu :: rest.2)
      else (length, [])

/-- A connection: all bytes that the server sends on it after the handshake, how many of them were
consumed, the reports put aside, and the number of requests sent. -/
structure Link where
  stream : List UInt8
  position : Nat
  pendingReports : List (List UInt8)
  sent : Nat
  deriving DecidableEq

/-- What happens while a request to the framing layer is served: the outcome of a connect, a failure
to send, how many bytes arrive before the deadline, and the error of a wait that starves. -/
structure Await where
  opened : Except GatewayError (List UInt8)
  sendError : Option GatewayError
  reach : Nat
  ending : GatewayError

namespace Link

/-- The bytes that arrive before the deadline. -/
def available (link : Link) (wait : Await) : List UInt8 :=
  (link.stream.drop link.position).take wait.reach

def receipt (link : Link) (wait : Await) : Receipt :=
  recvMms wait.ending ((link.available wait).length + 1) (link.available wait)

def drained (link : Link) (wait : Await) : Nat × List (List UInt8) :=
  drainUnits ((link.available wait).length + 1) (link.available wait)

def handle (wait : Await) (link : Link) : ∀ request : LinkRequest, LinkReply request × Link
  | .connect =>
    match wait.opened with
    | .ok stream => (.ok (), ⟨stream, 0, [], 0⟩)
    | .error error => (.error error, link)
  | .transact _ _ =>
    match wait.sendError with
    | some error => (.error error, { link with sent := link.sent + 1 })
    | none => ((link.receipt wait).outcome, { link with
        position := link.position + (link.receipt wait).consumed
        pendingReports := link.pendingReports ++ (link.receipt wait).reports
        sent := link.sent + 1 })
  | .drainSocket => (link.pendingReports ++ (link.drained wait).2, { link with
      position := link.position + (link.drained wait).1
      pendingReports := [] })
  | .takePendingReports => (link.pendingReports, { link with pendingReports := [] })

end Link

/-- The position is reached by reading whole frames from the start, among them this number of units
that are not reports. -/
inductive Reached (stream : List UInt8) : Nat → Nat → Prop
  | start : Reached stream 0 0
  | report {position responses length : Nat} {pdu : List UInt8}
      (before : Reached stream position responses)
      (received : recvMmsRaw (stream.drop position) = .unit pdu length)
      (kind : isReport pdu = true) : Reached stream (position + length) responses
  | response {position responses length : Nat} {pdu : List UInt8}
      (before : Reached stream position responses)
      (received : recvMmsRaw (stream.drop position) = .unit pdu length)
      (kind : isReport pdu = false) : Reached stream (position + length) (responses + 1)
  | garbage {position responses length : Nat} {payload : List UInt8}
      (before : Reached stream position responses)
      (received : recvTpkt (stream.drop position) = .complete payload length)
      (kind : unwrapDataPdu payload = none) : Reached stream (position + length) responses

variable {payload bytes pdu stream : List UInt8} {length reach fuel position responses : Nat}

/-- A frame lies within the bytes that were read, whatever follows them. -/
theorem recvTpkt_append {front : List UInt8} (received : recvTpkt front = .complete payload length)
    (back : List UInt8) :
    recvTpkt (front ++ back) = .complete payload length ∧ 4 ≤ length ∧ length ≤ front.length := by
  rcases front with _ | ⟨_, _ | ⟨_, _ | ⟨high, _ | ⟨low, rest⟩⟩⟩⟩
  · cases received
  · cases received
  · cases received
  · cases received
  · simp only [recvTpkt] at received
    split at received
    · cases received
    · rename_i current
      split at received
      · cases received
      · rename_i long
        split at received
        · cases received
        · rename_i whole
          cases received
          have room : high.toNat * 256 + low.toNat - 4 ≤ rest.length := by omega
          refine ⟨?_, by omega, ?_⟩
          · simp only [List.cons_append, recvTpkt]
            rw [if_neg current, if_neg long, if_neg (by rw [List.length_append]; omega),
              List.take_append_of_le_length room]
          · simp only [List.length_cons]
            omega

theorem recvTpkt_take (received : recvTpkt (bytes.take reach) = .complete payload length) :
    recvTpkt bytes = .complete payload length ∧ 4 ≤ length ∧
      length ≤ (bytes.take reach).length := by
  have extended := recvTpkt_append received (bytes.drop reach)
  rwa [List.take_append_drop] at extended

theorem unit_iff_complete : recvMmsRaw bytes = .unit pdu length ↔
      ∃ payload, recvTpkt bytes = .complete payload length ∧ unwrapDataPdu payload = some pdu := by
  rw [recvMmsRaw]
  cases received : recvTpkt bytes with
  | complete payload =>
    cases unwrapped : unwrapDataPdu payload with
    | none => simp [unwrapped]
    | some =>
      simp only [unwrapped, ReceivedUnit.unit.injEq, Received.complete.injEq]
      constructor
      · rintro ⟨rfl, rfl⟩
        exact ⟨payload, ⟨rfl, rfl⟩, unwrapped⟩
      · rintro ⟨_, ⟨rfl, rfl⟩, same⟩
        rw [unwrapped] at same
        exact ⟨Option.some.inj same, rfl⟩
  | invalid | starved => simp

theorem recvMmsRaw_take (received : recvMmsRaw (bytes.take reach) = .unit pdu length) :
    recvMmsRaw bytes = .unit pdu length ∧ 4 ≤ length ∧ length ≤ (bytes.take reach).length := by
  obtain ⟨payload, framed, unwrapped⟩ := unit_iff_complete.mp received
  obtain ⟨framed, least, within⟩ := recvTpkt_take framed
  exact ⟨unit_iff_complete.mpr ⟨payload, framed, unwrapped⟩, least, within⟩

/-- What is left of the bytes in reach after some of them. -/
theorem drop_available (stream : List UInt8) (position reach length : Nat) :
    ((stream.drop position).take reach).drop length =
      (stream.drop (position + length)).take (reach - length) := by
  rw [List.drop_take, List.drop_drop]

/-- A unit that a wait returns stands at a frame boundary, before which as many units that are no
reports stand as before the wait. -/
theorem recvMms_ok {ending : GatewayError} (reached : Reached stream position responses)
    (returned : (recvMms ending fuel ((stream.drop position).take reach)).outcome = .ok pdu) :
    ∃ boundary length, Reached stream boundary responses ∧
      recvMmsRaw (stream.drop boundary) = .unit pdu length ∧ isReport pdu = false ∧
      position + (recvMms ending fuel ((stream.drop position).take reach)).consumed =
        boundary + length := by
  induction fuel generalizing position reach with
  | zero => cases returned
  | succ _ ih =>
    rw [recvMms] at returned ⊢
    cases received : recvMmsRaw ((stream.drop position).take reach) with
    | starved | invalid => simp [received] at returned
    | unit unit length =>
      obtain ⟨whole, -, -⟩ := recvMmsRaw_take received
      simp only [received] at returned ⊢
      by_cases kind : isReport unit = true
      · rw [if_pos kind, drop_available] at returned ⊢
        obtain ⟨boundary, later, there, unitThere, response, consumed⟩ :=
          ih (reached.report whole kind) returned
        exact ⟨boundary, later, there, unitThere, response, by rw [← consumed, Nat.add_assoc]⟩
      · rw [if_neg kind] at returned ⊢
        cases returned
        exact ⟨position, length, reached, whole, by simpa using kind, rfl⟩

/-- The bytes begin with whole reports and a unit that is none. -/
inductive Leads : List UInt8 → Prop
  | response {bytes pdu : List UInt8} {length : Nat}
      (received : recvMmsRaw bytes = .unit pdu length) (kind : isReport pdu = false) : Leads bytes
  | report {bytes pdu : List UInt8} {length : Nat}
      (received : recvMmsRaw bytes = .unit pdu length) (kind : isReport pdu = true)
      (rest : Leads (bytes.drop length)) : Leads bytes

theorem recvMms_of_leads (leads : Leads bytes) (ending : GatewayError)
    (enough : bytes.length < fuel) :
    ∃ pdu, (recvMms ending fuel bytes).outcome = .ok pdu := by
  induction leads generalizing fuel with
  | response received kind =>
    obtain ⟨fuel, rfl⟩ := Nat.exists_eq_succ_of_ne_zero (Nat.ne_zero_of_lt enough)
    exact ⟨_, by rw [recvMms, received]; simp only [kind]; rfl⟩
  | @report bytes pdu length received kind rest ih =>
    obtain ⟨fuel, rfl⟩ := Nat.exists_eq_succ_of_ne_zero (Nat.ne_zero_of_lt enough)
    obtain ⟨_, framed, -⟩ := unit_iff_complete.mp received
    obtain ⟨-, _, _⟩ := recvTpkt_append framed []
    have rest : (bytes.drop length).length < fuel := by
      rw [List.length_drop]
      omega
    obtain ⟨pdu, returned⟩ := ih rest
    exact ⟨pdu, by rw [recvMms, received]; simp only [kind, if_true]; exact returned⟩

/-- The bytes are whole frames, none of which holds a unit that is no report. -/
inductive WholeReports : List UInt8 → Prop
  | nil : WholeReports []
  | report {bytes pdu : List UInt8} {length : Nat}
      (received : recvMmsRaw bytes = .unit pdu length) (kind : isReport pdu = true)
      (rest : WholeReports (bytes.drop length)) : WholeReports bytes
  | garbage {bytes payload : List UInt8} {length : Nat}
      (received : recvTpkt bytes = .complete payload length)
      (kind : unwrapDataPdu payload = none) (rest : WholeReports (bytes.drop length)) :
      WholeReports bytes

theorem reached_drainUnits (reached : Reached stream position responses)
    (whole : WholeReports ((stream.drop position).take reach))
    (enough : ((stream.drop position).take reach).length < fuel) :
    Reached stream (position + (drainUnits fuel ((stream.drop position).take reach)).1)
      responses := by
  induction fuel generalizing position reach with
  | zero => exact absurd enough (Nat.not_lt_zero _)
  | succ _ ih =>
    rw [drainUnits]
    generalize bytes : (stream.drop position).take reach = available at whole enough ⊢
    cases whole with
    | nil => exact reached
    | @report _ _ _ received kind rest =>
      rw [← bytes] at received rest
      obtain ⟨wholeUnit, _, _⟩ := recvMmsRaw_take received
      rw [drop_available] at rest
      have next := ih (reached.report wholeUnit kind) rest (by
        rw [← drop_available, List.length_drop]
        rw [← bytes] at enough
        omega)
      rw [← bytes, received]
      simp only [kind, if_true]
      rw [drop_available, ← Nat.add_assoc]
      exact next
    | @garbage _ _ length received kind =>
      rw [← bytes] at received
      have raw : recvMmsRaw ((stream.drop position).take reach) =
          .invalid "IEC 61850: failed to unwrap MMS PDU from data frame" length := by
        rw [recvMmsRaw, received]
        simp only [kind]
      rw [← bytes, raw]
      exact reached.garbage (recvTpkt_take received).1 kind

end AetherIot.Io.Iec61850
