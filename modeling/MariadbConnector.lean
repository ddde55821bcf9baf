import MariadbConnector.Lib.CString
import MariadbConnector.Lib.Splice
import MariadbConnector.Lib.LittleEndian
import MariadbConnector.Lib.Decimal
import MariadbConnector.Lib.Utf8
import MariadbConnector.Lib.Sweep
import MariadbConnector.Lib.Frame
import MariadbConnector.Lib.ListCursor
import MariadbConnector.Lib.Fallible
import MariadbConnector.Parser.Basic
import MariadbConnector.Parser.Parse
import MariadbConnector.Parser.Scan
import MariadbConnector.Parser.Simulation
import MariadbConnector.Parser.Rewrite
import MariadbConnector.Parser.Plain
import MariadbConnector.Codecs.Types
import MariadbConnector.Codecs.Integer
import MariadbConnector.Codecs.Bulk
import MariadbConnector.Codecs.Temporal
import MariadbConnector.Codecs.Param
import MariadbConnector.Codecs.BulkSend
import MariadbConnector.Codecs.Delta
import MariadbConnector.Codecs.TimeText
import MariadbConnector.Codecs.Strtoull
import MariadbConnector.Codecs.Convert
import MariadbConnector.Codecs.Row
import MariadbConnector.Codecs.TextRow
import MariadbConnector.Cursor.Substitute
import MariadbConnector.Cursor.Execute
import MariadbConnector.Cursor.Callproc
import MariadbConnector.Cursor.Text
import MariadbConnector.Cursor.Protocol
import MariadbConnector.Cursor.Fetch
import MariadbConnector.Cursor.DataCursor
import MariadbConnector.Cursor.Members
import MariadbConnector.Pool.ConnectionPool
import MariadbConnector.Pool.Init
import MariadbConnector.Pool.Queue
import MariadbConnector.Pool.Close
import MariadbConnector.Connection.Tpc
import MariadbConnector.Connection.Xa
import MariadbConnector.Connection.StatusInfo
