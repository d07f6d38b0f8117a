import Aird.Quic.Handler
import Aird.Python.Utf8

/-! # What a request task does

A `handle_request` task reads the headers and stores its stream's entry; everything after that
sends response attempts on that stream only and changes no entry but its `response_sent`
(`Confined`), shown for each function from the functions it calls down to `respond`. With every
send succeeding, a task answers exactly when its headers are UTF-8 (`runTask_ok_iff`). -/

namespace Aird.Quic

/-! ### Sends and responses -/

theorem send_runOn (frame : Frame) (h : Handler) : (send frame).runOn h =
    match h.http.faults with
    | some message :: faults => (.error (.raised message), { h with http := { h.http with faults := faults } })
    | _ => (.ok (), { h with http := ⟨h.http.sent ++ [frame], h.http.faults.drop 1⟩ }) := by
  simp only [send, runOn_bind, runOn_get]
  rcases hf : h.http.faults with _ | ⟨_ | m, fs⟩ <;> simp only [hf, runOn_bind, runOn_set, runOn_throw]

theorem setResponseSent_runOn (s : Nat) (h : Handler) : (setResponseSent s).runOn h =
    match h.streams.get? s with
    | some st => (.ok (), { h with streams := h.streams.insert s { st with responseSent := true } })
    | none => (.error (.keyError s), h) := by
  simp only [setResponseSent, runOn_bind, runOn_get]
  cases h.streams.get? s <;> rfl

/-- The outcomes of a response: `send_headers` raises; `send_data` raises after the header block
    went out; or both frames go out and the flag is set, which raises `KeyError` when the entry is
    gone. -/
theorem respond_runOn (s : Nat) (hs : List (Bytes × Bytes)) (body : Bytes) (h : Handler) :
    (respond s hs body).runOn h =
      match h.http.faults with
      | some message :: faults => (.error (.raised message), { h with http := { h.http with faults := faults } })
      | faults =>
        match faults.drop 1 with
        | some message :: rest =>
          (.error (.raised message), { h with http := ⟨h.http.sent ++ [.headers s hs], rest⟩ })
        | rest =>
          (setResponseSent s).runOn
            { h with http := ⟨h.http.sent ++ [.headers s hs, .data s body true], rest.drop 1⟩ } := by
  simp only [respond, sendHeaders, sendData, runOn_bind, send_runOn]
  rcases hf : h.http.faults with _ | ⟨_ | m, _ | ⟨_ | m', fs⟩⟩ <;> simp [hf]

/-! ### The frame of a task -/

/-- The request and body of an entry: everything but its `response_sent`. -/
def StreamInfo.received (st : StreamInfo) : Request × Option Bytes := (⟨st.method, st.path, st.headers⟩, st.body)

/-- Every entry whose `response_sent` is set had its response ended: a data frame with
    `end_stream=True` went out on its stream. -/
def Answered (h : Handler) : Prop :=
  ∀ s st, h.streams.get? s = some st → st.responseSent = true → ∃ d, Frame.data s d true ∈ h.http.sent

/-- Frames that are response attempts one after another: a header block led by `:status`, alone
    (the `send_data` after it raised) or followed by a data frame on its stream that ends it. -/
inductive Framed : List Frame → Prop
  | nil : Framed []
  | headers {fs : List Frame} (s : Nat) (status : Bytes) (rest : List (Bytes × Bytes)) :
    Framed fs → Framed (fs ++ [.headers s ((Utf8.encode ":status", status) :: rest)])
  | answer {fs : List Frame} (s : Nat) (status : Bytes) (rest : List (Bytes × Bytes)) (body : Bytes) :
    Framed fs → Framed (fs ++ [.headers s ((Utf8.encode ":status", status) :: rest), .data s body true])

theorem Framed.append {fs gs : List Frame} (hf : Framed fs) (hg : Framed gs) : Framed (fs ++ gs) := by
  induction hg with
  | nil => rwa [List.append_nil]
  | headers s status rest _ ih => rw [← List.append_assoc]; exact ih.headers s status rest
  | answer s status rest body _ ih => rw [← List.append_assoc]; exact ih.answer s status rest body

/-- What code working on stream `s` may do between two states: send response attempts on `s`, and
    change the entry of `s` in its `response_sent` only, without setting a flag of an unanswered
    stream. -/
structure Confined (s : Nat) (h h' : Handler) : Prop where
  tasks : h'.tasks = h.tasks
  others : ∀ s', s' ≠ s → h'.streams.get? s' = h.streams.get? s'
  received : (h'.streams.get? s).map StreamInfo.received = (h.streams.get? s).map StreamInfo.received
  sent : ∃ fs, h'.http.sent = h.http.sent ++ fs ∧ Framed fs ∧ ∀ f ∈ fs, f.streamId = s
  answered : Answered h → Answered h'

namespace Confined
variable {s : Nat} {h₁ h₂ h₃ : Handler}

theorem refl (s : Nat) (h : Handler) : Confined s h h :=
  ⟨rfl, fun _ _ => rfl, rfl, ⟨[], by simp, .nil, by simp⟩, id⟩

theorem trans (a : Confined s h₁ h₂) (b : Confined s h₂ h₃) : Confined s h₁ h₃ := by
  obtain ⟨fs, hfs, hffr, hon⟩ := a.sent
  obtain ⟨gs, hgs, hgfr, hgon⟩ := b.sent
  refine ⟨b.tasks.trans a.tasks, fun s' hs' => (b.others s' hs').trans (a.others s' hs'),
    b.received.trans a.received, ⟨fs ++ gs, by rw [hgs, hfs, List.append_assoc], hffr.append hgfr, ?_⟩,
    b.answered ∘ a.answered⟩
  intro f hf
  rcases List.mem_append.1 hf with hf | hf
  exacts [hon f hf, hgon f hf]

theorem of_sent {l : List Frame} (hfr : Framed l) (hon : ∀ f ∈ l, f.streamId = s) (hst : h₂.streams = h₁.streams)
    (htasks : h₂.tasks = h₁.tasks) (hsent : h₂.http.sent = h₁.http.sent ++ l) : Confined s h₁ h₂ := by
  refine ⟨htasks, fun _ _ => by rw [hst], by rw [hst], ⟨l, hsent, hfr, hon⟩, fun ha s' st hst' hrs => ?_⟩
  obtain ⟨d, hd⟩ := ha s' st (hst ▸ hst') hrs
  exact ⟨d, hsent ▸ List.mem_append_left _ hd⟩

end Confined

/-- A coroutine keeps to stream `s` from every state. -/
def Confines {α : Type} (s : Nat) (x : Async α) : Prop := ∀ h, Confined s h (x.runOn h).2

namespace Confines
variable {α β : Type} {s : Nat}

theorem pure (a : α) : Confines s (Pure.pure a : Async α) := fun h => .refl s h

theorem bind {x : Async α} {f : α → Async β} (hx : Confines s x) (hf : ∀ a, Confines s (f a)) :
    Confines s (x >>= f) := by
  intro h
  rw [runOn_bind]
  have hxh := hx h
  rcases hr : x.runOn h with ⟨e | a, h'⟩ <;> rw [hr] at hxh
  · exact hxh
  · exact hxh.trans (hf a h')

theorem tryCatch {x : Async α} {c : PyExc → Async α} (hx : Confines s x) (hc : ∀ e, Confines s (c e)) :
    Confines s (tryCatch x c) := by
  intro h
  rw [runOn_tryCatch]
  have hxh := hx h
  rcases hr : x.runOn h with ⟨e | a, h'⟩ <;> rw [hr] at hxh
  · exact hxh.trans (hc e h')
  · exact hxh

theorem get_bind {f : Handler → Async β} (hf : ∀ h, Confines s (f h)) : Confines s (get >>= f) := by
  intro h
  rw [runOn_bind, runOn_get]
  exact hf h h

end Confines

theorem Confined.setResponseSent {s : Nat} {h : Handler} {d : Bytes} (hd : Frame.data s d true ∈ h.http.sent) :
    Confined s h ((setResponseSent s).runOn h).2 := by
  rw [setResponseSent_runOn]
  cases hst : h.streams.get? s with
  | none => exact .refl s h
  | some st =>
    refine ⟨rfl, fun s' hs' => by simp [hs'], by simp [hst, StreamInfo.received], ⟨[], by simp, .nil, by simp⟩,
      fun ha s' st' hst' hrs => ?_⟩
    by_cases hs' : s' = s
    · exact ⟨d, hs' ▸ hd⟩
    · simp only [Dict.get?_insert, hs', if_false] at hst'
      exact ha s' st' hst' hrs

/-- A response led by `:status` keeps to its stream: the flag is set only once the data frame
    ending the stream went out. -/
theorem confines_respond (s : Nat) (status : Bytes) (rest : List (Bytes × Bytes)) (body : Bytes) :
    Confines s (respond s ((Utf8.encode ":status", status) :: rest) body) := by
  intro h
  rw [respond_runOn]
  split
  · exact .of_sent (l := []) .nil (by simp) rfl rfl (by simp)
  · split
    · exact .of_sent (Framed.headers s status rest .nil) (by simp [Frame.streamId]) rfl rfl rfl
    · set h' : Handler := { h with http := ⟨h.http.sent ++ [.headers s _, .data s body true], _⟩ }
      have hsent : Confined s h h' := .of_sent (Framed.answer s status rest body .nil)
        (by simp [Frame.streamId]) rfl rfl rfl
      exact hsent.trans (.setResponseSent (d := body) (by simp [h']))

theorem confines_sendErrorResponse (s status : Nat) (message : String) :
    Confines s (sendErrorResponse s status message) := by
  refine Confines.get_bind fun h => ?_
  split
  · exact .pure ()
  · exact confines_respond _ _ _ _

theorem confines_routeRequest (s : Nat) (method path : String) (headers : Dict String String) :
    Confines s (routeRequest s method path headers) := by
  refine .tryCatch ?_ fun _ => confines_sendErrorResponse _ _ _
  split_ifs
  · exact .tryCatch (confines_respond _ _ _ _) fun _ => confines_sendErrorResponse _ _ _
  all_goals exact confines_respond _ _ _ _

/-! ### The task -/

/-- The state after `handle_request` stored the entry of `r` on stream `s`. -/
def Handler.store (h : Handler) (s : Nat) (r : Request) : Handler :=
  { h with streams := h.streams.insert s r.entry }

/-- The connection answering the coming sends with `faults`. -/
def Handler.withFaults (h : Handler) (faults : List (Option String)) : Handler :=
  { h with http := { h.http with faults := faults } }

theorem answered_store {h : Handler} (ha : Answered h) (s : Nat) (r : Request) : Answered (h.store s r) := by
  intro s' st hst hrs
  by_cases hs : s' = s
  · simp only [Handler.store, Dict.get?_insert, hs, if_true, Option.some.injEq] at hst
    subst hst
    cases hrs
  · exact ha s' st (by simpa [Handler.store, hs] using hst) hrs

/-- A task whose headers do not decode raises before it changes anything. -/
theorem runTask_of_error {ev : HeadersReceived} {e : PyExc} (he : parseHeaders .init ev.headers = .error e)
    (faults : List (Option String)) (h : Handler) : runTask ev faults h = (.error e, h.withFaults faults) := by
  simp only [runTask, handleRequest, he]
  rfl

/-- A task whose headers decode stores the entry, then keeps to its stream. -/
theorem runTask_of_ok {ev : HeadersReceived} {r : Request} (hr : parseHeaders .init ev.headers = .ok r)
    (faults : List (Option String)) (h : Handler) :
    Confined ev.streamId ((h.withFaults faults).store ev.streamId r) (runTask ev faults h).2 := by
  simp only [runTask, handleRequest, hr, runOn_bind, runOn_modify]
  exact Confines.tryCatch (confines_routeRequest _ _ _ _) (fun _ => confines_sendErrorResponse _ _ _) _

/-! ### Every send succeeding -/

theorem respond_runOn_of_nil {s : Nat} {h : Handler} {st : StreamInfo} (hf : h.http.faults = [])
    (hst : h.streams.get? s = some st) (hs : List (Bytes × Bytes)) (body : Bytes) :
    (respond s hs body).runOn h = (.ok (), { h with
      http := ⟨h.http.sent ++ [.headers s hs, .data s body true], []⟩,
      streams := h.streams.insert s { st with responseSent := true } }) := by
  simp [respond_runOn, hf, setResponseSent_runOn, hst]

/-- With every send succeeding, `route_request` answers a stream with an entry: one header block,
    its first header the `:status`, and one data frame ending the stream. -/
theorem routeRequest_answers {s : Nat} {h : Handler} {st : StreamInfo} (hf : h.http.faults = [])
    (hst : h.streams.get? s = some st) (method path : String) (headers : Dict String String) :
    ∃ status hs body, (routeRequest s method path headers).runOn h = (.ok (), { h with
      http := ⟨h.http.sent ++ [.headers s ((Utf8.encode ":status", status) :: hs), .data s body true], []⟩,
      streams := h.streams.insert s { st with responseSent := true } }) := by
  simp only [routeRequest, runOn_tryCatch]
  split_ifs
  · simp only [handleFileRequest, runOn_tryCatch, respond_runOn_of_nil hf hst]
    exact ⟨_, _, _, rfl⟩
  all_goals simp only [handleRootRequest, handleStaticRequest, sendRedirectResponse, respond_runOn_of_nil hf hst]
  all_goals exact ⟨_, _, _, rfl⟩

/-- Headers are read without an exception exactly when every name and value is UTF-8. -/
theorem parseHeaders_ok_iff (hs : List (Bytes × Bytes)) :
    ∀ r, (∃ r', parseHeaders r hs = .ok r') ↔ ∀ nv ∈ hs, (Utf8.decode nv.1).isOk ∧ (Utf8.decode nv.2).isOk := by
  induction hs with
  | nil => exact fun r => ⟨fun _ _ h => (by cases h), fun _ => ⟨r, rfl⟩⟩
  | cons nv hs ih =>
    intro r
    obtain ⟨name, value⟩ := nv
    cases hn : Utf8.decode name with
    | error e => simp [parseHeaders, hn, Except.isOk, Except.toBool]
    | ok n =>
      cases hv : Utf8.decode value with
      | error e => simp [parseHeaders, hn, hv, Except.isOk, Except.toBool]
      | ok v => simp [parseHeaders, hn, hv, Except.isOk, Except.toBool, ih (r.add n v)]

/-- A task whose headers decode, with every send succeeding, answers on its stream. -/
theorem runTask_nil_of_ok {ev : HeadersReceived} {r : Request} (hr : parseHeaders .init ev.headers = .ok r)
    (h : Handler) :
    ∃ status hs body, (runTask ev [] h).1 = .ok () ∧ (runTask ev [] h).2.http.sent =
      h.http.sent ++ [.headers ev.streamId ((Utf8.encode ":status", status) :: hs), .data ev.streamId body true] := by
  obtain ⟨status, hs, body, hroute⟩ := routeRequest_answers (s := ev.streamId)
    (h := (h.withFaults []).store ev.streamId r) rfl
    (show ((h.withFaults []).store ev.streamId r).streams.get? ev.streamId = some r.entry by simp [Handler.store])
    r.method r.path r.headers
  refine ⟨status, hs, body, ?_⟩
  simp only [runTask, handleRequest, hr, runOn_bind, runOn_modify, runOn_tryCatch]
  erw [hroute]
  exact ⟨rfl, rfl⟩

/-- A request whose header names and values are all UTF-8, with every send succeeding: the task
    raises nothing and answers with one header block, its first header the `:status`, and one data
    frame ending the stream, both on the request's stream. -/
theorem runTask_answers (ev : HeadersReceived) (h : Handler)
    (hdec : ∀ nv ∈ ev.headers, (Utf8.decode nv.1).isOk ∧ (Utf8.decode nv.2).isOk) :
    ∃ status hs body, (runTask ev [] h).1 = .ok () ∧ (runTask ev [] h).2.http.sent =
      h.http.sent ++ [.headers ev.streamId ((Utf8.encode ":status", status) :: hs), .data ev.streamId body true] :=
  ((parseHeaders_ok_iff ev.headers .init).2 hdec).elim fun _ hr => runTask_nil_of_ok hr h

theorem runTask_answers_slash_a :
    (∀ nv ∈ [header ":path" "/a"], (Utf8.decode nv.1).isOk ∧ (Utf8.decode nv.2).isOk) ∧
      ∃ status hs body, (runTask ⟨0, [header ":path" "/a"]⟩ [] Handler.init).1 = .ok () ∧
        (runTask ⟨0, [header ":path" "/a"]⟩ [] Handler.init).2.http.sent =
          Handler.init.http.sent ++ [.headers 0 ((Utf8.encode ":status", status) :: hs), .data 0 body true] :=
  ⟨by decide, runTask_answers _ _ (by decide)⟩

/-- A header name that is no UTF-8 ends the task with `UnicodeDecodeError` before anything is
    sent. -/
theorem runTask_undecodable_header :
    (runTask ⟨0, [([0xFF], [])]⟩ [] Handler.init).1 = .error (.unicodeDecodeError 0) ∧
      (runTask ⟨0, [([0xFF], [])]⟩ [] Handler.init).2.http.sent = [] :=
  ⟨rfl, rfl⟩

/-- Headers that are not all UTF-8 are read up to the first name or value that is not, whose
    `UnicodeDecodeError` ends the loop. -/
theorem parseHeaders_error :
    ∀ (hs : List (Bytes × Bytes)) (r : Request) (e : PyExc), parseHeaders r hs = .error e →
      ∃ pre nv post pos, hs = pre ++ nv :: post ∧
        (∀ nv' ∈ pre, (Utf8.decode nv'.1).isOk ∧ (Utf8.decode nv'.2).isOk) ∧
        (Utf8.decode nv.1 = .error pos ∨ (Utf8.decode nv.1).isOk ∧ Utf8.decode nv.2 = .error pos) ∧
        e = .unicodeDecodeError pos
  | [], _, _, h => by cases h
  | (name, value) :: rest, r, e, h => by
    cases hn : Utf8.decode name with
    | error pos =>
      simp only [parseHeaders, hn, Except.mapError_error, Except.error_bind, Except.error.injEq] at h
      exact ⟨[], _, rest, pos, rfl, by simp, .inl hn, h.symm⟩
    | ok n =>
      cases hv : Utf8.decode value with
      | error pos =>
        simp only [parseHeaders, hn, hv, Except.mapError_ok, Except.mapError_error, Except.ok_bind,
          Except.error_bind, Except.error.injEq] at h
        exact ⟨[], _, rest, pos, rfl, by simp, .inr ⟨by simp [hn, Except.isOk, Except.toBool], hv⟩, h.symm⟩
      | ok v =>
        simp only [parseHeaders, hn, hv, Except.mapError_ok, Except.ok_bind] at h
        obtain ⟨pre, nv, post, pos, rfl, hpre, hnv, rfl⟩ := parseHeaders_error rest _ e h
        refine ⟨(name, value) :: pre, nv, post, pos, rfl, ?_, hnv, rfl⟩
        rw [List.forall_mem_cons, hn, hv]
        exact ⟨⟨rfl, rfl⟩, hpre⟩

/-- With every send succeeding, a request's task ends without an exception exactly when each of its
    header names and values is the UTF-8 encoding of a text; otherwise it ends with the
    `UnicodeDecodeError` that lines 79-80 raise on the first name or value, in order, that is not. -/
theorem runTask_ok_iff (ev : HeadersReceived) (h : Handler) :
    ((runTask ev [] h).1 = .ok () ↔
      ∀ nv ∈ ev.headers, (∃ t, Utf8.encode t = nv.1) ∧ ∃ t, Utf8.encode t = nv.2) ∧
    ∀ e, (runTask ev [] h).1 = .error e → ∃ pre nv post pos, ev.headers = pre ++ nv :: post ∧
      (∀ nv' ∈ pre, (∃ t, Utf8.encode t = nv'.1) ∧ ∃ t, Utf8.encode t = nv'.2) ∧
      (Utf8.decode nv.1 = .error pos ∨ (∃ t, Utf8.encode t = nv.1) ∧ Utf8.decode nv.2 = .error pos) ∧
      e = .unicodeDecodeError pos := by
  simp only [← Utf8.isOk_decode_iff]
  cases hp : parseHeaders .init ev.headers with
  | error e' =>
    rw [runTask_of_error hp]
    refine ⟨⟨fun hok => (nomatch hok), fun hdec => ?_⟩, fun e herr => ?_⟩
    · obtain ⟨r, hr⟩ := (parseHeaders_ok_iff ev.headers .init).2 hdec
      exact nomatch hp.symm.trans hr
    · cases herr
      exact parseHeaders_error _ _ _ hp
  | ok r =>
    obtain ⟨_, _, _, hok, -⟩ := runTask_nil_of_ok hp h
    rw [hok]
    exact ⟨⟨fun _ => (parseHeaders_ok_iff ev.headers .init).1 ⟨r, hp⟩, fun _ => rfl⟩, fun e herr => nomatch herr⟩

end Aird.Quic
