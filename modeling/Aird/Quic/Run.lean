import Aird.Quic.Task

/-! # Runs of the handler

`Reachable acts h`: the deliveries to `http_event_received` and the pending tasks run to completion
in `acts` lead from a new connection to `h`. Every reachable table refines `tracked`, the table as a
function of the history (`streams_tracked`), and every reachable `sent` is response attempts one
after another (`reachable_framed`). -/

namespace Aird.Quic

/-- A step of the handler's world: an event delivered to `http_event_received`, or a turn of the
    event loop running the pending task of `event`, the connection answering its sends with
    `faults`. -/
inductive Action where
  | deliver (event : H3Event)
  | run (event : HeadersReceived) (faults : List (Option String))
  deriving DecidableEq, Repr

/-- The state after an action; none when the task to run is not pending. -/
def step (h : Handler) : Action → Option Handler
  | .deliver event => some (httpEventReceived h event)
  | .run event faults =>
    if event ∈ h.tasks then some (runTask event faults { h with tasks := h.tasks.erase event }).2 else none

/-- The states a history of actions leads to from a new connection. -/
inductive Reachable : List Action → Handler → Prop
  | init : Reachable [] Handler.init
  | step {acts : List Action} {h h' : Handler} {a : Action} :
    Reachable acts h → step h a = some h' → Reachable (acts ++ [a]) h'

/-- The state after the actions `acts` from `h`. -/
def runFrom (h : Handler) : List Action → Option Handler
  | [] => some h
  | a :: acts => (step h a).bind (runFrom · acts)

theorem reachable_runFrom {acts : List Action} {h : Handler} (hr : Reachable acts h) (more : List Action)
    {h' : Handler} (e : runFrom h more = some h') : Reachable (acts ++ more) h' := by
  induction more generalizing acts h with
  | nil => cases e; simpa using hr
  | cons a more ih =>
    simp only [runFrom] at e
    cases ha : step h a with
    | none => rw [ha] at e; cases e
    | some h₁ =>
      rw [ha, Option.some_bind] at e
      simpa using ih (hr.step ha) e

/-- A history every task of which runs while pending reaches the state it computes. -/
theorem reachable_of_runFrom {acts : List Action} {h : Handler} (e : runFrom .init acts = some h) :
    Reachable acts h := by
  simpa using reachable_runFrom .init acts e

/-- What a step can do. -/
theorem step_cases {h h' : Handler} {a : Action} (e : step h a = some h') :
    (∃ event, a = .deliver event ∧ h' = httpEventReceived h event) ∨
    (∃ event faults, a = .run event faults ∧ event ∈ h.tasks ∧
      h' = (runTask event faults { h with tasks := h.tasks.erase event }).2) := by
  cases a with
  | deliver event => exact .inl ⟨event, rfl, (Option.some.inj e).symm⟩
  | run event faults =>
    simp only [step] at e
    split at e
    · exact .inr ⟨event, faults, rfl, ‹_›, (Option.some.inj e).symm⟩
    · cases e

/-! ### Answered responses -/

theorem answered_init : Answered .init := fun _ _ e => by cases e

@[simp] theorem httpEventReceived_http (h : Handler) (event : H3Event) :
    (httpEventReceived h event).http = h.http := by
  cases event with
  | dataReceived s data => simp only [httpEventReceived]; split <;> rfl
  | _ => rfl

theorem answered_httpEventReceived {h : Handler} (ha : Answered h) (event : H3Event) :
    Answered (httpEventReceived h event) := by
  intro s st hst hrs
  rw [httpEventReceived_http]
  cases event with
  | headersReceived event => exact ha s st hst hrs
  | dataReceived s' data =>
    simp only [httpEventReceived] at hst
    cases he : h.streams.get? s' with
    | none => rw [he] at hst; exact ha s st hst hrs
    | some st' =>
      rw [he, Dict.get?_insert] at hst
      split at hst
      · cases hst
        subst s
        exact ha s' st' he hrs
      · exact ha s st hst hrs
  | streamReset s' =>
    simp only [httpEventReceived, Dict.get?_pop] at hst
    split at hst
    · cases hst
    · exact ha s st hst hrs

theorem answered_runTask {h : Handler} (ha : Answered h) (event : HeadersReceived) (faults : List (Option String)) :
    Answered (runTask event faults h).2 := by
  cases hp : parseHeaders .init event.headers with
  | error e => rw [runTask_of_error hp]; exact ha
  | ok r => exact (runTask_of_ok hp faults h).answered (answered_store ha _ r)

/-- In every reachable state an entry whose `response_sent` is set had its response ended: a data
    frame with `end_stream=True` went out on its stream. -/
theorem reachable_answered {acts : List Action} {h : Handler} (hr : Reachable acts h) : Answered h := by
  induction hr with
  | init => exact answered_init
  | step _ hs ih =>
    rcases step_cases hs with ⟨event, -, rfl⟩ | ⟨event, faults, -, -, rfl⟩
    · exact answered_httpEventReceived ih event
    · exact answered_runTask (by exact ih) event faults

theorem answered_after_request :
    ∃ h, Reachable [.deliver (.headersReceived ⟨0, [header ":path" "/a"]⟩), .run ⟨0, [header ":path" "/a"]⟩ []] h ∧
      Answered h :=
  have hr := reachable_of_runFrom (show runFrom .init ([.deliver (.headersReceived ⟨0, [header ":path" "/a"]⟩),
    .run ⟨0, [header ":path" "/a"]⟩ []] : List Action) = some _ from rfl)
  ⟨_, hr, reachable_answered hr⟩

/-! ### Header blocks

With every send succeeding, each task sends at most one header block, on its own stream, and a task
runs once for each `HeadersReceived`: a stream gets no more header blocks than requests. -/

/-- A header block on stream `s`. -/
def Frame.isHeadersOn (s : Nat) : Frame → Bool
  | .headers s' _ => s' = s
  | .data .. => false

/-- The connection lets every send of the action succeed. -/
def Action.faultless : Action → Bool
  | .run _ faults => faults.isEmpty
  | .deliver _ => true

/-- A `HeadersReceived` on stream `s` delivered. -/
def Action.requests (s : Nat) : Action → Bool
  | .deliver (.headersReceived event) => event.streamId = s
  | _ => false

theorem countP_erase_of_mem {α : Type} [DecidableEq α] {p : α → Bool} {a : α} {l : List α} (h : a ∈ l) :
    l.countP p = (l.erase a).countP p + if p a then 1 else 0 := by
  rw [(List.perm_cons_erase h).countP_eq, List.countP_cons]

theorem runTask_nil_headers (event : HeadersReceived) (h : Handler) (s : Nat) :
    (runTask event [] h).2.http.sent.countP (Frame.isHeadersOn s) ≤
      h.http.sent.countP (Frame.isHeadersOn s) + if event.streamId = s then 1 else 0 := by
  cases hp : parseHeaders .init event.headers with
  | error e => rw [runTask_of_error hp]; exact Nat.le_add_right _ _
  | ok r =>
    obtain ⟨status, hs, body, -, hsent⟩ := runTask_nil_of_ok hp h
    rw [hsent]
    by_cases he : event.streamId = s <;> simp [Frame.isHeadersOn, he]

theorem runTask_tasks (event : HeadersReceived) (faults : List (Option String)) (h : Handler) :
    (runTask event faults h).2.tasks = h.tasks := by
  cases hp : parseHeaders .init event.headers with
  | error e => rw [runTask_of_error hp]; rfl
  | ok r => exact (runTask_of_ok hp faults h).tasks

theorem httpEventReceived_tasks (h : Handler) (event : H3Event) :
    (httpEventReceived h event).tasks = h.tasks ++ match event with
      | .headersReceived event => [event]
      | _ => [] := by
  cases event with
  | dataReceived s data => simp only [httpEventReceived]; split <;> simp
  | _ => simp [httpEventReceived]

/-- With every send succeeding, the header blocks sent on a stream and its pending tasks are no
    more than the `HeadersReceived` delivered on it. -/
theorem headers_and_tasks_le_requests {acts : List Action} {h : Handler} (hr : Reachable acts h)
    (hok : ∀ a ∈ acts, a.faultless) (s : Nat) :
    h.http.sent.countP (Frame.isHeadersOn s) + h.tasks.countP (fun t => t.streamId = s) ≤
      acts.countP (Action.requests s) := by
  induction hr with
  | init => simp [Handler.init]
  | @step acts h h' a hr' hs ih =>
    have ih := ih fun a ha => hok a (List.mem_append_left _ ha)
    rcases step_cases hs with ⟨event, rfl, rfl⟩ | ⟨event, faults, rfl, hmem, rfl⟩
    · rw [httpEventReceived_http, httpEventReceived_tasks, List.countP_append, List.countP_append]
      cases event with
      | headersReceived event =>
        by_cases he : event.streamId = s <;> simp [Action.requests, List.countP_singleton, he] <;> omega
      | _ => simpa [Action.requests] using ih
    · obtain rfl : faults = [] := List.isEmpty_iff.1 (hok (.run event faults) (by simp))
      have hrun := runTask_nil_headers event { h with tasks := h.tasks.erase event } s
      have herase := countP_erase_of_mem (p := fun t : HeadersReceived => decide (t.streamId = s)) hmem
      rw [runTask_tasks, List.countP_append]
      by_cases he : event.streamId = s <;> simp [he, Action.requests] at hrun herase ⊢ <;> omega

/-- With every send succeeding, a stream gets no more response header blocks than `HeadersReceived`
    were delivered on it: one request, at most one header block. -/
theorem header_blocks_le_requests {acts : List Action} {h : Handler} (hr : Reachable acts h)
    (hok : ∀ a ∈ acts, a.faultless) (s : Nat) :
    h.http.sent.countP (Frame.isHeadersOn s) ≤ acts.countP (Action.requests s) :=
  (Nat.le_add_right _ _).trans (headers_and_tasks_le_requests hr hok s)

theorem header_blocks_two_streams :
    ∃ h, Reachable [.deliver (.headersReceived ⟨0, [header ":path" "/a"]⟩),
        .deliver (.headersReceived ⟨4, [header ":path" "/"]⟩), .run ⟨4, [header ":path" "/"]⟩ [],
        .run ⟨0, [header ":path" "/a"]⟩ []] h ∧
      (∀ a ∈ ([.deliver (.headersReceived ⟨0, [header ":path" "/a"]⟩),
        .deliver (.headersReceived ⟨4, [header ":path" "/"]⟩), .run ⟨4, [header ":path" "/"]⟩ [],
        .run ⟨0, [header ":path" "/a"]⟩ []] : List Action), a.faultless) ∧
      h.http.sent.countP (Frame.isHeadersOn 0) ≤ ([.deliver (.headersReceived ⟨0, [header ":path" "/a"]⟩),
        .deliver (.headersReceived ⟨4, [header ":path" "/"]⟩), .run ⟨4, [header ":path" "/"]⟩ [],
        .run ⟨0, [header ":path" "/a"]⟩ []] : List Action).countP (Action.requests 0) :=
  have hr := reachable_of_runFrom (show runFrom .init ([.deliver (.headersReceived ⟨0, [header ":path" "/a"]⟩),
    .deliver (.headersReceived ⟨4, [header ":path" "/"]⟩), .run ⟨4, [header ":path" "/"]⟩ [],
    .run ⟨0, [header ":path" "/a"]⟩ []] : List Action) = some _ from rfl)
  have hok : ∀ a ∈ ([.deliver (.headersReceived ⟨0, [header ":path" "/a"]⟩),
      .deliver (.headersReceived ⟨4, [header ":path" "/"]⟩), .run ⟨4, [header ":path" "/"]⟩ [],
      .run ⟨0, [header ":path" "/a"]⟩ []] : List Action), a.faultless := by decide
  ⟨_, hr, hok, header_blocks_le_requests hr hok 0⟩

/-- A request for a file whose `send_data` raises after its header block went out: `response_sent`
    stays unset, and `send_error_response` sends a second header block on the stream. -/
theorem second_header_block_after_failed_data :
    ∃ h, Reachable [.deliver (.headersReceived ⟨0, [header ":path" "/files/a"]⟩),
        .run ⟨0, [header ":path" "/files/a"]⟩ [none, some "boom"]] h ∧
      h.http.sent = [.headers 0 [header ":status" "200", header "content-type" "text/plain", serverHeader],
        .headers 0 [header ":status" "500", header "content-type" "text/plain", serverHeader],
        .data 0 (Utf8.encode "boom") true] :=
  ⟨_, reachable_of_runFrom rfl, rfl⟩

/-! ### Frames go to requesting streams -/

theorem runTask_sent (event : HeadersReceived) (faults : List (Option String)) (h : Handler) :
    ∃ l, (runTask event faults h).2.http.sent = h.http.sent ++ l ∧ Framed l ∧
      ∀ f ∈ l, f.streamId = event.streamId := by
  cases hp : parseHeaders .init event.headers with
  | error e => exact ⟨[], by rw [runTask_of_error hp]; simp [Handler.withFaults], .nil, by simp⟩
  | ok r => exact (runTask_of_ok hp faults h).sent

/-- In every reachable state, every frame sent went to a stream on which a `HeadersReceived` was
    delivered, and every pending task is one delivered: no response goes to a stream that made no
    request. -/
theorem reachable_sent_requested {acts : List Action} {h : Handler} (hr : Reachable acts h) :
    (∀ f ∈ h.http.sent, ∃ event, Action.deliver (.headersReceived event) ∈ acts ∧ event.streamId = f.streamId) ∧
      ∀ t ∈ h.tasks, Action.deliver (.headersReceived t) ∈ acts := by
  induction hr with
  | init => exact ⟨fun f hf => (by cases hf), fun t ht => (by cases ht)⟩
  | @step acts h h' a hr' hs ih =>
    obtain ⟨hsent, htasks⟩ := ih
    have grow : ∀ b, b ∈ acts → b ∈ acts ++ [a] := fun b hb => List.mem_append_left _ hb
    rcases step_cases hs with ⟨event, rfl, rfl⟩ | ⟨event, faults, rfl, hmem, rfl⟩
    · refine ⟨fun f hf => ?_, fun t ht => ?_⟩
      · rw [httpEventReceived_http] at hf
        obtain ⟨ev, hev, he⟩ := hsent f hf
        exact ⟨ev, grow _ hev, he⟩
      · rw [httpEventReceived_tasks] at ht
        rcases List.mem_append.1 ht with ht | ht
        · exact grow _ (htasks t ht)
        · cases event <;> simp at ht
          subst ht
          simp
    · obtain ⟨l, hl, -, hon⟩ := runTask_sent event faults { h with tasks := h.tasks.erase event }
      refine ⟨fun f hf => ?_, fun t ht => ?_⟩
      · rw [hl] at hf
        rcases List.mem_append.1 hf with hf | hf
        · obtain ⟨ev, hev, he⟩ := hsent f hf
          exact ⟨ev, grow _ hev, he⟩
        · exact ⟨event, grow _ (htasks event hmem), (hon f hf).symm⟩
      · rw [runTask_tasks] at ht
        exact grow _ (htasks t (List.mem_of_mem_erase ht))

theorem sent_requested_after_request :
    ∃ h, Reachable [.deliver (.headersReceived ⟨0, [header ":path" "/a"]⟩), .run ⟨0, [header ":path" "/a"]⟩ []] h ∧
      (∀ f ∈ h.http.sent, ∃ event, Action.deliver (.headersReceived event) ∈
          ([.deliver (.headersReceived ⟨0, [header ":path" "/a"]⟩), .run ⟨0, [header ":path" "/a"]⟩ []] : List Action) ∧
          event.streamId = f.streamId) ∧
        ∀ t ∈ h.tasks, Action.deliver (.headersReceived t) ∈
          ([.deliver (.headersReceived ⟨0, [header ":path" "/a"]⟩), .run ⟨0, [header ":path" "/a"]⟩ []] : List Action) :=
  have hr := reachable_of_runFrom (show runFrom .init ([.deliver (.headersReceived ⟨0, [header ":path" "/a"]⟩),
    .run ⟨0, [header ":path" "/a"]⟩ []] : List Action) = some _ from rfl)
  ⟨_, hr, reachable_sent_requested hr⟩

/-! ### Framing

Every response is a header block led by `:status` and, unless `send_data` raised, a data frame
ending the stream right after it. A task sends its frames without giving way to another, so
whatever the connection raises, the frames sent are such attempts one after another. -/

/-- In every reachable state the frames sent are response attempts one after another: no data frame
    goes out but right after a header block on its stream, and every data frame ends its stream. -/
theorem reachable_framed {acts : List Action} {h : Handler} (hr : Reachable acts h) : Framed h.http.sent := by
  induction hr with
  | init => exact .nil
  | step _ hs ih =>
    rcases step_cases hs with ⟨event, -, rfl⟩ | ⟨event, faults, -, -, rfl⟩
    · rwa [httpEventReceived_http]
    · obtain ⟨l, hl, hfr, -⟩ := runTask_sent event faults _
      rw [hl]
      exact ih.append hfr

/-- A file response whose `send_data` raised, then the error response: two attempts. -/
theorem framed_after_failed_data :
    ∃ h, Reachable [.deliver (.headersReceived ⟨0, [header ":path" "/files/a"]⟩),
        .run ⟨0, [header ":path" "/files/a"]⟩ [none, some "boom"]] h ∧ Framed h.http.sent :=
  have hr := reachable_of_runFrom (show runFrom .init ([.deliver (.headersReceived ⟨0, [header ":path" "/files/a"]⟩),
    .run ⟨0, [header ":path" "/files/a"]⟩ [none, some "boom"]] : List Action) = some _ from rfl)
  ⟨_, hr, reachable_framed hr⟩

/-! ### The table as a function of the history -/

namespace Action

/-- The request of a task of stream `s` whose headers decode, which it stores as the entry. -/
def opened (s : Nat) : Action → Option Request
  | .run event _ => if event.streamId = s then (parseHeaders .init event.headers).toOption else none
  | .deliver _ => none

/-- The payload of a `DataReceived` on stream `s`. -/
def payload (s : Nat) : Action → Bytes
  | .deliver (.dataReceived s' data) => if s' = s then data else []
  | _ => []

/-- A `StreamReset` of stream `s`. -/
def resets (s : Nat) (a : Action) : Bool := a = .deliver (.streamReset s)

/-- The request and body of the entry of `s` after `a`, from those before: a task of `s` whose
    headers decode stores a fresh entry, a reset of `s` drops it, a `DataReceived` on `s` appends
    its payload. -/
def after (s : Nat) (e : Option (Request × Bytes)) (a : Action) : Option (Request × Bytes) :=
  match a.opened s with
  | some r => some (r, [])
  | none => if a.resets s then none else e.map fun p => (p.1, p.2 ++ a.payload s)

end Action

/-- The request and body of the entry of stream `s` after the history `acts`. -/
def tracked (acts : List Action) (s : Nat) : Option (Request × Bytes) := acts.foldl (Action.after s) none

theorem tracked_append_singleton (acts : List Action) (a : Action) (s : Nat) :
    tracked (acts ++ [a]) s = Action.after s (tracked acts s) a := by
  simp [tracked, List.foldl_append]

/-- An entry as `tracked` sees it, an absent body meaning an empty one. -/
def StreamInfo.view (st : StreamInfo) : Request × Bytes := (st.received.1, st.received.2.getD [])

theorem view_eq_of_received {o o' : Option StreamInfo}
    (e : o.map StreamInfo.received = o'.map StreamInfo.received) :
    o.map StreamInfo.view = o'.map StreamInfo.view := by
  have := congrArg (Option.map fun p : Request × Option Bytes => (p.1, p.2.getD [])) e
  simpa [Option.map_map, Function.comp_def, StreamInfo.view] using this

theorem after_of_opened_none {s : Nat} {a : Action} (ho : a.opened s = none) (hr : a.resets s = false)
    (hp : a.payload s = []) (e : Option (Request × Bytes)) : Action.after s e a = e := by
  simp [Action.after, ho, hr, hp]

theorem view_httpEventReceived (h : Handler) (event : H3Event) (s : Nat) :
    ((httpEventReceived h event).streams.get? s).map StreamInfo.view =
      Action.after s ((h.streams.get? s).map StreamInfo.view) (.deliver event) := by
  cases event with
  | headersReceived event =>
    rw [after_of_opened_none (a := .deliver (.headersReceived event)) rfl (by simp [Action.resets]) rfl]
    rfl
  | dataReceived s' data =>
    simp only [Action.after, Action.opened, Action.resets, Action.payload, httpEventReceived]
    by_cases hs : s' = s
    · subst hs
      cases he : h.streams.get? s' with
      | none => simp [he]
      | some st => simp [he, StreamInfo.view, StreamInfo.received]
    · cases he : h.streams.get? s' <;> simp [hs, Ne.symm hs, Function.comp_def]
  | streamReset s' =>
    simp only [Action.after, Action.opened, Action.resets, Action.payload, httpEventReceived,
      Dict.get?_pop]
    by_cases hs : s = s' <;> simp [hs, eq_comm, Function.comp_def]

theorem view_runTask (h : Handler) (event : HeadersReceived) (faults : List (Option String)) (s : Nat) :
    ((runTask event faults h).2.streams.get? s).map StreamInfo.view =
      Action.after s ((h.streams.get? s).map StreamInfo.view) (.run event faults) := by
  cases hp : parseHeaders .init event.headers with
  | error e =>
    rw [runTask_of_error hp, after_of_opened_none (a := .run event faults)
      (by simp [Action.opened, hp, Except.toOption]) (by simp [Action.resets]) rfl]
    rfl
  | ok r =>
    have hc := runTask_of_ok hp faults h
    by_cases hs : event.streamId = s
    · subst hs
      rw [view_eq_of_received hc.received]
      simp [Action.after, Action.opened, hp, Except.toOption, Handler.store, StreamInfo.view,
        StreamInfo.received, Request.entry]
    · rw [hc.others s (Ne.symm hs), after_of_opened_none (a := .run event faults)
        (by simp [Action.opened, hs]) (by simp [Action.resets]) rfl]
      simp [Handler.store, Handler.withFaults, Ne.symm hs]

/-- The stream table refines `tracked`: in every reachable state, each entry's request and body
    are those the history gives. -/
theorem streams_tracked {acts : List Action} {h : Handler} (hr : Reachable acts h) (s : Nat) :
    (h.streams.get? s).map StreamInfo.view = tracked acts s := by
  induction hr with
  | init => rfl
  | step _ hs ih =>
    rw [tracked_append_singleton, ← ih]
    rcases step_cases hs with ⟨event, rfl, rfl⟩ | ⟨event, faults, rfl, -, rfl⟩
    · exact view_httpEventReceived _ event s
    · exact view_runTask _ event faults s

/-- `tracked` in words: the entry of `s` is the request of the last task of `s` whose headers
    decoded, when no reset of `s` came after it, with the payloads delivered on `s` since. -/
theorem tracked_eq_some (acts : List Action) (s : Nat) (r : Request) (b : Bytes) :
    tracked acts s = some (r, b) ↔ ∃ pre a post, acts = pre ++ a :: post ∧ a.opened s = some r ∧
      (∀ x ∈ post, x.opened s = none ∧ x.resets s = false) ∧ b = (post.map (Action.payload s)).flatten := by
  induction acts using List.reverseRecOn generalizing r b with
  | nil => simp [tracked]
  | append_singleton acts x ih =>
    rw [tracked_append_singleton]
    constructor
    · intro e
      cases ho : x.opened s with
      | some r' =>
        simp only [Action.after, ho, Option.some.injEq, Prod.mk.injEq] at e
        obtain ⟨rfl, rfl⟩ := e
        exact ⟨acts, x, [], rfl, ho, by simp, rfl⟩
      | none =>
        cases hres : x.resets s
        · simp only [Action.after, ho, hres, Bool.false_eq_true, if_false] at e
          obtain ⟨⟨r₀, b₀⟩, h₀, he⟩ := Option.map_eq_some'.1 e
          simp only [Prod.mk.injEq] at he
          obtain ⟨rfl, rfl⟩ := he
          obtain ⟨pre, a, post, rfl, ha, hpost, rfl⟩ := (ih r₀ b₀).1 h₀
          refine ⟨pre, a, post ++ [x], by simp, ha, fun y hy => ?_, by simp⟩
          rcases List.mem_append.1 hy with hy | hy
          · exact hpost y hy
          · rw [List.mem_singleton.1 hy]; exact ⟨ho, hres⟩
        · simp [Action.after, ho, hres] at e
    · rintro ⟨pre, a, post, hacts, ha, hpost, rfl⟩
      rcases List.eq_nil_or_concat post with rfl | ⟨post', y, rfl⟩
      · obtain ⟨rfl, hx⟩ := List.append_inj' hacts rfl
        cases hx
        simp [Action.after, ha]
      · rw [List.concat_eq_append] at hacts hpost ⊢
        rw [← List.cons_append, ← List.append_assoc] at hacts
        obtain ⟨rfl, hx⟩ := List.append_inj' hacts rfl
        cases hx
        obtain ⟨ho, hres⟩ := hpost x (by simp)
        have := (ih r _).2 ⟨pre, a, post', rfl, ha, fun z hz => hpost z (by simp [hz]), rfl⟩
        simp [Action.after, ho, hres, this]

theorem foldl_after_isSome {s : Nat} :
    ∀ (post : List Action) (e : Option (Request × Bytes)), e.isSome → (∀ x ∈ post, x.resets s = false) →
      (post.foldl (Action.after s) e).isSome
  | [], _, he, _ => he
  | x :: post, e, he, hpost => by
    refine foldl_after_isSome post _ ?_ fun y hy => hpost y (List.mem_cons_of_mem _ hy)
    simp only [Action.after, hpost x (List.mem_cons_self _ _)]
    split
    · rfl
    · simpa using he

/-- In every reachable state, an entry holds the request of the last task of its stream whose
    headers decoded, and as its body the payloads of the `DataReceived` on the stream delivered after
    that task ran, with no reset of the stream since. -/
theorem entry_since_store {acts : List Action} {h : Handler} (hr : Reachable acts h) {s : Nat}
    {st : StreamInfo} (hst : h.streams.get? s = some st) :
    ∃ pre a post, acts = pre ++ a :: post ∧ a.opened s = some ⟨st.method, st.path, st.headers⟩ ∧
      (∀ x ∈ post, x.opened s = none ∧ x.resets s = false) ∧
      st.body.getD [] = (post.map (Action.payload s)).flatten :=
  (tracked_eq_some acts s _ _).1 (by rw [← streams_tracked hr s, hst]; rfl)

/-- A `DataReceived` delivered in the batch of its `HeadersReceived`, before the task ran: whatever
    the connection answers, the task stores an entry with an empty body. -/
theorem data_before_task_dropped (faults : List (Option String)) :
    ∃ h r, Reachable [.deliver (.headersReceived ⟨0, [header ":path" "/a"]⟩),
        .deliver (.dataReceived 0 (Utf8.encode "x")), .run ⟨0, [header ":path" "/a"]⟩ faults] h ∧
      (h.streams.get? 0).map StreamInfo.view = some (r, []) :=
  have hr := reachable_of_runFrom (show runFrom .init [.deliver (.headersReceived ⟨0, [header ":path" "/a"]⟩),
    .deliver (.dataReceived 0 (Utf8.encode "x")), .run ⟨0, [header ":path" "/a"]⟩ faults] = some _ from rfl)
  ⟨_, _, hr, (streams_tracked hr 0).trans rfl⟩

/-- In every reachable state, a stream has an entry exactly when a task of the stream whose headers
    decoded has run and no reset of the stream came after it: an entry outlives its response. -/
theorem entry_iff_store {acts : List Action} {h : Handler} (hr : Reachable acts h) (s : Nat) :
    (h.streams.get? s).isSome ↔
      ∃ pre a post, acts = pre ++ a :: post ∧ (a.opened s).isSome ∧ ∀ x ∈ post, x.resets s = false := by
  constructor
  · intro hs
    obtain ⟨st, hst⟩ := Option.isSome_iff_exists.1 hs
    obtain ⟨pre, a, post, hacts, ha, hpost, -⟩ := entry_since_store hr hst
    exact ⟨pre, a, post, hacts, by simp [ha], fun x hx => (hpost x hx).2⟩
  · rintro ⟨pre, a, post, rfl, ha, hpost⟩
    obtain ⟨r, hr'⟩ := Option.isSome_iff_exists.1 ha
    have key : (tracked (pre ++ a :: post) s).isSome := by
      rw [tracked, List.foldl_append, List.foldl_cons]
      exact foldl_after_isSome post _ (by simp [Action.after, hr']) hpost
    rw [← streams_tracked hr s] at key
    simpa using key

/-- A `StreamReset` delivered before the task of its request ran: whatever the connection answers,
    the task stores its entry after the reset, and the reset stream keeps it. -/
theorem reset_before_task_kept (faults : List (Option String)) :
    ∃ h, Reachable [.deliver (.headersReceived ⟨0, [header ":path" "/a"]⟩), .deliver (.streamReset 0),
        .run ⟨0, [header ":path" "/a"]⟩ faults] h ∧ (h.streams.get? 0).isSome :=
  have hr := reachable_of_runFrom (show runFrom .init [.deliver (.headersReceived ⟨0, [header ":path" "/a"]⟩),
    .deliver (.streamReset 0), .run ⟨0, [header ":path" "/a"]⟩ faults] = some _ from rfl)
  ⟨_, hr, (entry_iff_store hr 0).2 ⟨[_, _], _, [], rfl, rfl, by simp⟩⟩

/-- Ending a response removes nothing: a request answered in full keeps its entry. -/
example :
    ∃ h, Reachable [.deliver (.headersReceived ⟨0, [header ":path" "/a"]⟩), .run ⟨0, [header ":path" "/a"]⟩ []] h ∧
      (h.streams.get? 0).map (·.responseSent) = some true ∧
      h.http.sent = [.headers 0 [header ":status" "302", (Utf8.encode "location", Utf8.encode "http://localhost:8000/a"),
        serverHeader], .data 0 [] true] :=
  ⟨_, reachable_of_runFrom rfl, rfl, rfl⟩

end Aird.Quic
