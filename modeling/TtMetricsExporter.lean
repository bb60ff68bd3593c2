import TtMetricsExporter.Staleness
import TtMetricsExporter.Tensix
import TtMetricsExporter.PyNumber
import TtMetricsExporter.Posix
import TtMetricsExporter.State
import TtMetricsExporter.Collector
import TtMetricsExporter.Prometheus
import TtMetricsExporter.Containment
import TtMetricsExporter.Isolation
import TtMetricsExporter.Generations
import TtMetricsExporter.Survival
import TtMetricsExporter.Duplicates
import TtMetricsExporter.Usage
import TtMetricsExporter.Readiness
import TtMetricsExporter.Numbers
import TtMetricsExporter.Schema
import TtMetricsExporter.Scripts
import TtMetricsExporter.FileNames
import TtMetricsExporter.Injection
import TtMetricsExporter.Provenance
import TtMetricsExporter.Connections
import TtMetricsExporter.Logging
import TtMetricsExporter.Balance
import TtMetricsExporter.LastSuccess
import TtMetricsExporter.KnownTotals
import TtMetricsExporter.Closing
import TtMetricsExporter.ReadBack
import TtMetricsExporter.LogRecords
import TtMetricsExporter.AtomicState
import TtMetricsExporter.EnumerationTies
import TtMetricsExporter.DocumentText
import TtMetricsExporter.LogStream
import TtMetricsExporter.RequestCounts
import TtMetricsExporter.Deadlines
import TtMetricsExporter.Reported
import TtMetricsExporter.Delivery
import TtMetricsExporter.Returning
