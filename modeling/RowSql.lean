import RowSql.Definition
import RowSql.Json.Values
import RowSql.Row.Written
import RowSql.Unpack
import RowSql.Wire.Decode
import RowSql.Wire.Encode
import RowSql.Proofs.Catalog.Blocks
import RowSql.Proofs.Catalog.CreatedNames
import RowSql.Proofs.Cursor.Replay
import RowSql.Proofs.Cursor.Shown
import RowSql.Proofs.Cursor.Transparent
import RowSql.Proofs.Definition.Indexes
import RowSql.Proofs.Definition.ReadBack
import RowSql.Proofs.Json.Conversions
import RowSql.Proofs.Json.RoundTrip
import RowSql.Proofs.Layout.Columns
import RowSql.Proofs.Layout.ReadBack
import RowSql.Proofs.Name.Folding
import RowSql.Proofs.Name.Tables
import RowSql.Proofs.Query.Checks
import RowSql.Proofs.Query.Expressions
import RowSql.Proofs.Query.Markers
import RowSql.Proofs.Query.Names
import RowSql.Proofs.Query.Scope
import RowSql.Proofs.Query.Unambiguous
import RowSql.Proofs.Row.Construction
import RowSql.Proofs.Row.Writes
import RowSql.Proofs.Schema.Checks
import RowSql.Proofs.Unpack.ByKey
import RowSql.Proofs.Unpack.Joined
import RowSql.Proofs.Wire.Lossless
