import Aird.Python.Value
import Aird.Python.Unicode
import Aird.Python.Str
import Aird.Python.Codec
import Aird.Python.Utf8
import Aird.Python.Json
import Aird.Python.JsonRoundTrip
import Aird.Shares.Load
import Aird.Shares.Schemas
import Aird.FileIcon
import Aird.Constants
import Aird.Quic.Url
import Aird.Quic.Handler
import Aird.Quic.Task
import Aird.Quic.Run
import Aird.Quic.Redirect
import Aird.Quic.Request
