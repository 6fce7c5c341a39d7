import AetherIot.Calc.StatefulFunctions
import AetherIot.CloudLink.ChallengeMemory
import AetherIot.CloudLink.IntegrationProgress
import AetherIot.CloudLink.MqttProgress
import AetherIot.CloudLink.PartitionLossless
import AetherIot.CloudLink.SessionRecovery
import AetherIot.CloudLink.SpoolAtomicity
import AetherIot.CloudLink.SpoolAuthority
import AetherIot.CloudLink.SpoolDurability
import AetherIot.Dataplane.DirtySlots
import AetherIot.Dataplane.SlotRecovery
import AetherIot.IntegrationControl.AtMostOnce
import AetherIot.IntegrationControl.LedgerRoundTrip
import AetherIot.Io.CanIdentity
import AetherIot.Io.CommandOrder
import AetherIot.Io.Dl645Codecs
import AetherIot.Io.Dl645Stream
import AetherIot.Io.Iec104Recovery
import AetherIot.Io.Iec61850.Coverage
import AetherIot.Io.Iec61850.Framing
import AetherIot.Io.Iec61850.OwnAnswers
import AetherIot.Io.MeterAnswers
import AetherIot.Io.ModbusAccounting
import AetherIot.Io.PointAddressing
import AetherIot.Io.PolledBatches
import AetherIot.Io.SunSpecDiscovery
import AetherIot.Outbox.Forwarder
import AetherIot.Outbox.RecordCodec
import AetherIot.Rules.CooldownMemory
import AetherIot.Rules.FailSafe
import AetherIot.Rules.RuleAvailability
import AetherIot.ShmBridge.ManifestLayout
import AetherIot.ShmBridge.TopologyCoherence
import AetherIot.Uplink.TaskProgress
