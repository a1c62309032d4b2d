import TelemetrySender.DefaultSource
import TelemetrySender.Endpoint.Report
import TelemetrySender.Endpoint.Target
import TelemetrySender.Exporter
import TelemetrySender.Sender.Run
import TelemetrySender.Settings
import TelemetrySender.Transport.Loopback
import TelemetrySender.Transport.Scripted
import TelemetrySender.Proofs.Policy
import TelemetrySender.Proofs.Turns
import TelemetrySender.Proofs.Latch
import TelemetrySender.Proofs.Conservation
import TelemetrySender.Proofs.Closing
import TelemetrySender.Proofs.SpanLines
import TelemetrySender.Proofs.Framing
import TelemetrySender.Proofs.Order
import TelemetrySender.Proofs.Signal
import TelemetrySender.Proofs.Separation
import TelemetrySender.Proofs.Shutdown
import TelemetrySender.Proofs.Published
import TelemetrySender.Proofs.Metering
import TelemetrySender.Proofs.Connections
import TelemetrySender.Proofs.Draining
import TelemetrySender.Proofs.Emissions
import TelemetrySender.Proofs.Voices
import TelemetrySender.Proofs.Notices
import TelemetrySender.Proofs.Timeless
import TelemetrySender.Proofs.Packing
import TelemetrySender.Proofs.Taking
import TelemetrySender.Proofs.Handling
import TelemetrySender.Proofs.Pruning
import TelemetrySender.Proofs.Reading
import TelemetrySender.Proofs.Retention
import TelemetrySender.Proofs.Sends
import TelemetrySender.Proofs.SpanLogRecords
import TelemetrySender.Proofs.Faults
import TelemetrySender.Proofs.LegalNames
import TelemetrySender.Proofs.ReportAddress
import TelemetrySender.Proofs.HostNames
import TelemetrySender.Proofs.Addresses
import TelemetrySender.Proofs.Arrival
