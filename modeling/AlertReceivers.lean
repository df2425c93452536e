import AlertReceivers.Block.Assignment
import AlertReceivers.File.Directory
import AlertReceivers.Main
import AlertReceivers.Proofs.Binding
import AlertReceivers.Proofs.Casing
import AlertReceivers.Proofs.Header
import AlertReceivers.Proofs.Collision
import AlertReceivers.Proofs.Validation
import AlertReceivers.Proofs.Written
import AlertReceivers.Proofs.Verdict
import AlertReceivers.Proofs.EntryOrder
import AlertReceivers.Proofs.Null
import AlertReceivers.Proofs.Assignment
import AlertReceivers.Proofs.Seed
import AlertReceivers.Proofs.Document
import AlertReceivers.Proofs.Walk
import AlertReceivers.Proofs.Composition
import AlertReceivers.Proofs.Grouping
import AlertReceivers.Proofs.Reload
import AlertReceivers.Proofs.Redaction
import AlertReceivers.Proofs.Supplied
import AlertReceivers.Proofs.Layering
import AlertReceivers.Proofs.FormatHistory
import AlertReceivers.Proofs.DefaultEntry
import AlertReceivers.Proofs.Misfiled
import AlertReceivers.Proofs.Quoting
import AlertReceivers.Proofs.Idle
import AlertReceivers.Proofs.Location
import AlertReceivers.Proofs.Guarantee
import AlertReceivers.Proofs.LastEntry
