import RunTable.Failure.Codec
import RunTable.Main
import RunTable.View.Store
import RunTable.Proofs.Export.VisibleSheet
import RunTable.Proofs.Run.TableText
import RunTable.Proofs.Poll.Eviction
import RunTable.Proofs.Poll.Abandonment
import RunTable.Proofs.Poll.SteadyLoop
import RunTable.Proofs.Poll.RequestCalls
import RunTable.Proofs.View.IntegerOrder
import RunTable.Proofs.Storage.KeptDatabase
import RunTable.Proofs.Storage.Recency
import RunTable.Proofs.Command.Processes
import RunTable.Proofs.View.ConstantText
import RunTable.Proofs.View.VerbatimMatches
import RunTable.Proofs.View.SortNames
import RunTable.Proofs.View.HiddenUnion
import RunTable.Proofs.Command.ColumnEdits
import RunTable.Proofs.Run.Duration
import RunTable.Proofs.Export.TimestampText
import RunTable.Proofs.Export.DurationText
import RunTable.Proofs.Json.RecordFields
