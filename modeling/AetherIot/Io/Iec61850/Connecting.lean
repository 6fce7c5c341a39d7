import AetherIot.Io.Iec61850.Channel

/-!
# Connecting an IEC 61850 channel

After the handshake a channel reads the control models and enables its report control blocks.  What it
asks and what it returns is said once; other modules derive from that what connecting keeps.
-/

namespace AetherIot.Io.Iec61850

open Interaction

/-- Whether the service operates a control object. -/
def Service.operates : Service → Bool
  | .operate .. | .writeFloat .. => true
  | .read .. | .selectSbo .. | .selectSbow .. | .writeSimple .. => false

namespace Channel

/-- A program that operates nothing, goes on whatever the answers are, and returns a channel with the
property. -/
inductive Connecting (kept : Channel → Prop) : Program Channel → Prop
  | done {channel : Channel} (holds : kept channel) : Connecting kept (.done channel)
  | request {α : Type} {invokeId : UInt8} {service : Service}
      {decode : Except GatewayError (List UInt8) → Except Fault α} {next : α → Program Channel}
      (quiet : service.operates = false) (rest : ∀ value, Connecting kept (next value)) :
      Connecting kept
        ((doRequestRaw invokeId service >>= fun reply => ofExcept (decode reply)) >>= next)

/-- A property that neither a request nor a control model changes. -/
structure Settled (kept : Channel → Prop) : Prop where
  next : ∀ channel, kept channel → kept channel.nextInvokeId.2
  model : ∀ channel probe model, kept channel → kept (channel.recordModel probe model)

variable {kept : Channel → Prop} {channel : Channel} {program : Program Channel}

theorem Connecting.bind {next : Channel → Program Channel} (connecting : Connecting kept program)
    (rest : ∀ channel, kept channel → Connecting kept (next channel)) :
    Connecting kept (program >>= next) := by
  induction connecting with
  | done holds => exact rest _ holds
  | request quiet _ ih =>
    rw [bind_bind]
    exact .request quiet ih

theorem Connecting.returns (connecting : Connecting kept program) : program.Returns kept := by
  induction connecting with
  | done holds => exact holds
  | request _ _ ih => exact returns_bind ih

theorem connecting_tryRcbWriteBool {domain baseItem name : String} {value : Bool}
    {next : Channel × RcbWriteResult → Program Channel}
    (rest : ∀ written, Connecting kept (next (channel.nextInvokeId.2, written))) :
    Connecting kept (channel.tryRcbWriteBool domain baseItem name value >>= next) := by
  unfold tryRcbWriteBool
  rw [bind_bind]
  exact .request rfl fun _ => rest _

section

variable (settled : Settled kept) (holds : kept channel)

include settled holds

theorem connecting_detectModels (probes : List ModelProbe) :
    Connecting kept (detectModels probes channel) := by
  induction probes generalizing channel with
  | nil => exact .done holds
  | cons _ _ ih =>
    have next := settled.next _ holds
    refine .request rfl fun outcome => ?_
    cases outcome with
    | error => exact .done next
    | ok value =>
      cases value with
      | integer | unsigned => exact ih (settled.model _ _ _ next)
      | _ => exact ih next

theorem connecting_subscribeReport (domain baseItem : String) :
    Connecting kept (channel.subscribeReport domain baseItem) := by
  have interrogates {channel : Channel} (holds : kept channel) (base : String) :
      Connecting kept (channel.interrogate domain base) :=
    .request rfl fun _ => .done (settled.next _ holds)
  have next := settled.next _ holds
  refine connecting_tryRcbWriteBool fun written => ?_
  cases written with
  | ok => exact interrogates next baseItem
  | err => exact .done next
  | notFound =>
    have again := settled.next _ next
    refine connecting_tryRcbWriteBool fun written => ?_
    cases written with
    | ok => exact interrogates again _
    | notFound | err => exact .done again

theorem connecting_subscribeAll (blocks : List (String × String)) :
    Connecting kept (subscribeAll blocks channel) := by
  induction blocks generalizing channel with
  | nil => exact .done holds
  | cons _ _ ih =>
    exact (connecting_subscribeReport settled holds _ _).bind fun _ held => ih held

end

variable (channel)

/-- What connecting does after the handshake. -/
def attach : Program Channel :=
  { channel with connected := true, state := .connected }.detectCtrlModels >>= subscribeReports

/-- The answer to the attempt to connect. -/
def opened : Except GatewayError Unit → Program (Channel × Except GatewayError Unit)
  | .error error => .done ({ channel with state := .error }, .error error)
  | .ok () => channel.attach >>= fun channel => pure (channel, .ok ())

theorem connect_eq : channel.connect = tryConnect >>= channel.opened := by
  refine congrArg (tryConnect >>= ·) (funext fun reply => ?_)
  cases reply with
  | error => rfl
  | ok => exact (bind_bind ..).symm

theorem connecting_attach (settled : Settled kept)
    (opened : kept { channel with connected := true, state := .connected }) :
    Connecting kept channel.attach :=
  (connecting_detectModels settled opened _).bind fun _ held =>
    connecting_subscribeAll settled held _

end Channel

end AetherIot.Io.Iec61850
