import Recordset.Proofs.CursorAccounts
import Recordset.Proofs.CommandAccounts
import Recordset.Proofs.StatementReading
import Recordset.Proofs.StreamPulls
import Recordset.Record.Catalog
import Recordset.Record.Description
import Recordset.Session
import Recordset.Proofs.QueryRecords
import Recordset.Proofs.TermRefusal
import Recordset.Proofs.StreamLog
import Recordset.Proofs.SessionLog
import Recordset.Proofs.ObjectHistory
import Recordset.Proofs.ObjectIndependence
import Recordset.Proofs.RowDecoding
import Recordset.Proofs.StreamUses
import Recordset.Proofs.StreamSilence
import Recordset.Proofs.StreamReplay
import Recordset.Proofs.StreamCurrent
import Recordset.Proofs.AllowedMethods
import Recordset.Proofs.TransparentNodes
import Recordset.Proofs.RecordRoundTrip
import Recordset.Proofs.RowInsertions
import Recordset.Proofs.BoundValues
import Recordset.Proofs.CursorReading
import Recordset.Proofs.QuotedLiterals
import Recordset.Proofs.NearestDouble
import Recordset.Proofs.RealLiterals
import Recordset.Proofs.FruitlessCommands
import Recordset.Proofs.TermEquality
import Recordset.Proofs.RowEquality
import Recordset.Proofs.FieldCoercion
import Recordset.Proofs.SettingsSpelling
import Recordset.Proofs.DistinctColumns
import Recordset.Proofs.TypeDescriptions
import Recordset.Proofs.StreamHandles
