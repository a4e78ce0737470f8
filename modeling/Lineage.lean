import Lineage.Main
import Lineage.Proofs.Browser.Confluence
import Lineage.Proofs.Browser.Line
import Lineage.Proofs.Browser.Loading
import Lineage.Proofs.Browser.Selection
import Lineage.Proofs.Browser.Settling
import Lineage.Proofs.Command.Agreement
import Lineage.Proofs.Command.Config
import Lineage.Proofs.Command.DefaultRef
import Lineage.Proofs.History.Walk
import Lineage.Proofs.Listing.Remark
import Lineage.Proofs.Transfer.Attempts
import Lineage.Proofs.Transfer.Payload
import Lineage.Proofs.Transfer.Steady
import Lineage.Proofs.Url.Object
import Lineage.Proofs.Command.ServerChange
import Lineage.Proofs.Browser.Rest
import Lineage.Proofs.Command.AffixListing
import Lineage.Proofs.Command.IdleLine
import Lineage.Proofs.Checkpoint.Reading
import Lineage.Proofs.Transfer.Schedule
import Lineage.Proofs.Browser.Tags
import Lineage.Proofs.Command.InForce
import Lineage.Proofs.RefSet.Listing
import Lineage.Proofs.History.Depth
import Lineage.Proofs.History.Tail
import Lineage.Proofs.Browser.Naming
import Lineage.Proofs.Url.NormalForm
import Lineage.Proofs.History.Record
import Lineage.Proofs.Listing.Abbreviation
import Lineage.Proofs.Listing.LineBreak
import Lineage.Proofs.Listing.EndNote
import Lineage.Proofs.Checkpoint.OneLine
import Lineage.Proofs.Transfer.Backoff
import Lineage.Proofs.Transfer.Range
import Lineage.Proofs.Time.Age
import Lineage.Proofs.Listing.Columns
