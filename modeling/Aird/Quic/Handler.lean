import Aird.Quic.Url
import Aird.Python.Str

/-! # The HTTP/3 handler

`AirdQuicHandler` (`aird/quic_server.py:37-214`): the table `self.streams`, the frames sent and the
`handle_request` tasks not yet run. A task runs to completion in one turn of the event loop, as every
coroutine it awaits is the handler's own; each send succeeds or raises as the connection decides. -/

namespace Aird.Quic

open Url

/-- The `HeadersReceived` event: its stream and its header list, pairs of byte strings. -/
structure HeadersReceived where
  streamId : Nat
  headers : List (Bytes × Bytes)
  deriving DecidableEq, Repr

/-- The HTTP/3 events `http_event_received` tells apart (lines 56, 58, 65), with the fields it
    reads. -/
inductive H3Event where
  | headersReceived (event : HeadersReceived)
  | dataReceived (streamId : Nat) (data : Bytes)
  | streamReset (streamId : Nat)
  deriving DecidableEq, Repr

/-- A frame the connection has sent for the handler. -/
inductive Frame where
  | headers (streamId : Nat) (headers : List (Bytes × Bytes))
  | data (streamId : Nat) (data : Bytes) (endStream : Bool)
  deriving DecidableEq, Repr

/-- The stream a frame is sent on. -/
def Frame.streamId : Frame → Nat
  | headers s _ => s
  | data s _ _ => s

/-- The dict `self.streams[stream_id]` (lines 90-95), with the `body` key `DataReceived` adds
    (lines 62-64). -/
structure StreamInfo where
  method : String
  path : String
  headers : Dict String String
  responseSent : Bool
  body : Option Bytes

/-- An exception a task raises: from `bytes.decode` on a header, from `self.streams[stream_id]`,
    or from a send. -/
inductive PyExc where
  | unicodeDecodeError (position : Nat)
  | keyError (key : Nat)
  | raised (message : String)
  deriving DecidableEq, Repr

/-- `str(e)`. A `UnicodeDecodeError` is raised outside every `try` and never formatted, so its
    text is left short. -/
def PyExc.str : PyExc → String
  | unicodeDecodeError position => "'utf-8' codec can't decode byte in position " ++ toString position
  | keyError key => toString key
  | raised message => message

/-- The `H3Connection`: the frames it has sent, and the outcomes of the coming sends, a message for
    a send that raises; once they run out, sends succeed. -/
structure H3Connection where
  sent : List Frame
  faults : List (Option String)

/-- The handler with the event loop's pending `handle_request` tasks. -/
structure Handler where
  http : H3Connection
  streams : Dict Nat StreamInfo
  tasks : List HeadersReceived

/-- A new connection's handler. -/
def Handler.init : Handler := ⟨⟨[], []⟩, ∅, []⟩

/-- The coroutines of the handler: exceptions over its state. -/
abbrev Async := ExceptT PyExc (StateM Handler)

/-- Running a coroutine from a state: its result or exception, and the state it leaves. -/
def Async.runOn {α : Type} (x : Async α) (h : Handler) : Except PyExc α × Handler := x.run.run h

section Run
variable {α β : Type}

@[simp] theorem runOn_pure (a : α) (h : Handler) : (pure a : Async α).runOn h = (.ok a, h) := rfl

@[simp] theorem runOn_throw (e : PyExc) (h : Handler) : (throw e : Async α).runOn h = (.error e, h) := rfl

@[simp] theorem runOn_get (h : Handler) : (get : Async Handler).runOn h = (.ok h, h) := rfl

@[simp] theorem runOn_set (h h' : Handler) : (set h' : Async Unit).runOn h = (.ok (), h') := rfl

@[simp] theorem runOn_modify (f : Handler → Handler) (h : Handler) :
    (modify f : Async Unit).runOn h = (.ok (), f h) := rfl

/-- A bind runs its continuation from where the first coroutine left off, unless that raised. -/
theorem runOn_bind (x : Async α) (f : α → Async β) (h : Handler) :
    (x >>= f).runOn h = match x.runOn h with
      | (.ok a, h') => (f a).runOn h'
      | (.error e, h') => (.error e, h') := by
  simp only [Async.runOn, ExceptT.run_bind, StateT.run_bind]
  rcases x.run.run h with ⟨a | a, h'⟩ <;> rfl

/-- `try … except Exception as e: …` runs the handler from the state the exception left. -/
theorem runOn_tryCatch (x : Async α) (c : PyExc → Async α) (h : Handler) :
    (tryCatch x c).runOn h = match x.runOn h with
      | (.ok a, h') => (.ok a, h')
      | (.error e, h') => (c e).runOn h' := by
  simp only [Async.runOn, tryCatch, tryCatchThe, MonadExcept.tryCatch, MonadExceptOf.tryCatch,
    ExceptT.tryCatch, ExceptT.run_mk, StateT.run_bind]
  rcases hx : x.run.run h with ⟨a | a, h'⟩ <;> erw [hx] <;> rfl

end Run

/-! ### Sends -/

/-- `self.http.send_headers(…)` or `self.http.send_data(…)`: the connection sends `frame`, or
    raises and sends nothing. -/
def send (frame : Frame) : Async Unit := do
  let h ← get
  match h.http.faults with
  | some message :: faults =>
    set { h with http := { h.http with faults := faults } }
    throw (.raised message)
  | _ => set { h with http := { sent := h.http.sent ++ [frame], faults := h.http.faults.drop 1 } }

/-- `self.http.send_headers(stream_id=stream_id, headers=headers)`. -/
def sendHeaders (streamId : Nat) (headers : List (Bytes × Bytes)) : Async Unit :=
  send (.headers streamId headers)

/-- `self.http.send_data(stream_id=stream_id, data=data, end_stream=end_stream)`. -/
def sendData (streamId : Nat) (data : Bytes) (endStream : Bool) : Async Unit :=
  send (.data streamId data endStream)

/-- `self.streams[stream_id]['response_sent'] = True`: a `KeyError` when the entry is gone. -/
def setResponseSent (streamId : Nat) : Async Unit := do
  let h ← get
  match h.streams.get? streamId with
  | some st => set { h with streams := h.streams.insert streamId { st with responseSent := true } }
  | none => throw (.keyError streamId)

/-! ### Responses

Every response the handler sends is the same three statements: `send_headers`, `send_data` with
`end_stream=True`, and `response_sent` set (lines 137-142, 170-172, 185-187, 200-202, 212-214).
They differ in the headers and body only, and `send_error_response` first checks the flag. -/

/-- A header of ASCII name and value, `(b"name", b"value")`. -/
def header (name value : String) : Bytes × Bytes := (Utf8.encode name, Utf8.encode value)

/-- `(b"server", b"Aird-QUIC/0.4.0")`. -/
def serverHeader : Bytes × Bytes := header "server" "Aird-QUIC/0.4.0"

/-- The three statements of a response. -/
def respond (streamId : Nat) (headers : List (Bytes × Bytes)) (body : Bytes) : Async Unit := do
  sendHeaders streamId headers
  sendData streamId body true
  setResponseSent streamId

/-- `send_error_response` (lines 189-202): nothing when the stream's `response_sent` is set. -/
def sendErrorResponse (streamId status : Nat) (message : String) : Async Unit := do
  let h ← get
  if ((h.streams.get? streamId).map (·.responseSent)).getD false then pure ()
  else
    respond streamId [header ":status" (toString status), header "content-type" "text/plain", serverHeader]
      (Utf8.encode message)

/-- `handle_file_request` (lines 121-145). -/
def handleFileRequest (streamId : Nat) (_method path : String) (_headers : Dict String String) :
    Async Unit :=
  tryCatch
    (respond streamId [header ":status" "200", header "content-type" "text/plain", serverHeader]
      (Utf8.encode ("QUIC file request: " ++ String.mk (path.data.drop 7) ++
        "\nThis is a placeholder response.")))
    fun e => sendErrorResponse streamId 500 e.str

/-- The page `handle_root_request` sends (lines 155-168). -/
def rootPage : String :=
  "\n" ++
  "        <!DOCTYPE html>\n" ++
  "        <html>\n" ++
  "        <head>\n" ++
  "            <title>Aird - QUIC Enabled</title>\n" ++
  "        </head>\n" ++
  "        <body>\n" ++
  "            <h1>🚀 Aird with QUIC Protocol Support</h1>\n" ++
  "            <p>You are connected via HTTP/3 over QUIC!</p>\n" ++
  "            <p><a href=\"/files/\">Browse Files</a></p>\n" ++
  "            <p><em>This is served over the QUIC protocol for enhanced performance.</em></p>\n" ++
  "        </body>\n" ++
  "        </html>\n" ++
  "        "

/-- `handle_root_request` (lines 147-172). -/
def handleRootRequest (streamId : Nat) : Async Unit :=
  respond streamId [header ":status" "200", header "content-type" "text/html", serverHeader]
    (Utf8.encode rootPage)

/-- `handle_static_request` (lines 174-187). -/
def handleStaticRequest (streamId : Nat) (path : String) : Async Unit :=
  respond streamId [header ":status" "404", header "content-type" "text/plain", serverHeader]
    (Utf8.encode ("Static file not found: " ++ path))

/-- `send_redirect_response` (lines 204-214). -/
def sendRedirectResponse (streamId : Nat) (location : String) : Async Unit :=
  respond streamId [header ":status" "302", (Utf8.encode "location", Utf8.encode location), serverHeader] []

/-! ### Requests -/

/-- What `route_request` does with a path (lines 108-116). -/
def routeRequest (streamId : Nat) (method path : String) (headers : Dict String String) :
    Async Unit :=
  tryCatch
    (if startswith path "/files/" then handleFileRequest streamId method path headers
    else if path = "/" then handleRootRequest streamId
    else if startswith path "/static/" || startswith path "/css/" || startswith path "/js/" then
      handleStaticRequest streamId path
    else sendRedirectResponse streamId ("http://localhost:8000" ++ path))
    fun e => sendErrorResponse streamId 500 e.str

/-- The method, path and headers `handle_request` reads from a header list. -/
structure Request where
  method : String
  path : String
  headers : Dict String String

/-- One header of the loop at lines 82-87. -/
def Request.add (r : Request) (name value : String) : Request :=
  if name = ":method" then { r with method := value }
  else if name = ":path" then { r with path := unquote value }
  else if !startswith name ":" then { r with headers := r.headers.insert name value }
  else r

/-- The loop over `event.headers` (lines 78-87): each name and value decoded as UTF-8, which
    raises `UnicodeDecodeError` on bytes that are no UTF-8. -/
def parseHeaders (r : Request) : List (Bytes × Bytes) → Except PyExc Request
  | [] => .ok r
  | (name, value) :: rest => do
    let nameStr ← (Utf8.decode name).mapError .unicodeDecodeError
    let valueStr ← (Utf8.decode value).mapError .unicodeDecodeError
    parseHeaders (r.add nameStr valueStr) rest

/-- `headers, method, path = {}, 'GET', '/'` (lines 74-76). -/
def Request.init : Request := ⟨"GET", "/", ∅⟩

/-- The entry `handle_request` stores for a request (lines 90-95). -/
def Request.entry (r : Request) : StreamInfo := ⟨r.method, r.path, r.headers, false, none⟩

/-- `handle_request` (lines 69-102): the headers are read outside the `try`. -/
def handleRequest (event : HeadersReceived) : Async Unit :=
  match parseHeaders .init event.headers with
  | .error e => throw e
  | .ok r => do
    modify fun h => { h with streams := h.streams.insert event.streamId r.entry }
    tryCatch (routeRequest event.streamId r.method r.path r.headers)
      fun e => sendErrorResponse event.streamId 500 e.str

/-- `http_event_received` (lines 54-67): a `HeadersReceived` spawns a task, a `DataReceived`
    appends to the body of a stream with an entry, a `StreamReset` drops the entry. -/
def httpEventReceived (h : Handler) : H3Event → Handler
  | .headersReceived event => { h with tasks := h.tasks ++ [event] }
  | .dataReceived streamId data =>
    match h.streams.get? streamId with
    | some st => { h with streams := h.streams.insert streamId { st with body := some (st.body.getD [] ++ data) } }
    | none => h
  | .streamReset streamId => { h with streams := h.streams.pop streamId }

/-- A turn of the event loop that runs the task of `event` to completion, the connection answering
    its sends with `faults`: the exception the task ends with, if any, and the state it leaves. -/
def runTask (event : HeadersReceived) (faults : List (Option String)) (h : Handler) :
    Except PyExc Unit × Handler :=
  (handleRequest event).runOn { h with http := { h.http with faults := faults } }

end Aird.Quic
