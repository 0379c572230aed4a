import Columnar.Server.Script
import Columnar.Proofs.Client.Batches
import Columnar.Proofs.Client.ReadOnly
import Columnar.Proofs.Migration.Again
import Columnar.Proofs.Table.Framing
import Columnar.Proofs.Client.Aligned
import Columnar.Proofs.Client.Refused
import Columnar.Proofs.Client.Bytes
import Columnar.Proofs.Client.Cut
import Columnar.Proofs.Client.Restriction
import Columnar.Proofs.Client.Context
import Columnar.Proofs.Table.Unset
import Columnar.Proofs.Client.AdHoc
import Columnar.Proofs.Client.Slices
import Columnar.Proofs.Migration.Converges
import Columnar.Proofs.Placeholder.Twice
import Columnar.Proofs.Migration.Posted
import Columnar.Proofs.Client.FailedInit
import Columnar.Proofs.Tsv.Codec
import Columnar.Proofs.ServerError.Tag
import Columnar.Proofs.ServerError.Verbatim
import Columnar.Proofs.Client.Unsent
import Columnar.Proofs.Migration.Described
import Columnar.Proofs.ColumnType.Hint
import Columnar.Proofs.ColumnType.ReadBack
import Columnar.Proofs.Client.Reinsert
import Columnar.Proofs.Table.Hint
import Columnar.Proofs.Table.Pairs
import Columnar.Proofs.ColumnType.Opaque
import Columnar.Proofs.Placeholder.Segments
import Columnar.Proofs.Condition.Meaning
import Columnar.Proofs.Condition.Literals
import Columnar.Proofs.Table.Permuted
import Columnar.Proofs.Condition.Unknown
import Columnar.Proofs.Client.Malformed
import Columnar.Proofs.Client.Names
import Columnar.Proofs.Client.Layers
