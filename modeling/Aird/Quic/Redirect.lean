import Aird.Quic.Task

/-! # Redirects to the main server

`route_request` redirects every path it has no handler for to `http://localhost:8000` followed by
the path `unquote` decoded from `:path` (`aird/quic_server.py:85, 114-116`). A plain target is
forwarded as it is; a decoded escape can start a query, and a path that does not start with `/`
runs on into the `Location`'s authority. -/

namespace Aird.Quic

open Url

/-- The paths `route_request` redirects: none of `/files/`, `/`, `/static/`, `/css/`, `/js/`
    (lines 108-114). -/
def redirected (path : String) : Bool :=
  !startswith path "/files/" && path != "/" &&
    !(startswith path "/static/" || startswith path "/css/" || startswith path "/js/")

/-- With every send succeeding, a redirected path is answered with a 302 to the path on
    `localhost:8000` and an empty body ending the stream. -/
theorem routeRequest_redirect {s : Nat} {h : Handler} {st : StreamInfo} (hf : h.http.faults = [])
    (hst : h.streams.get? s = some st) (method path : String) (headers : Dict String String)
    (hr : redirected path = true) :
    (routeRequest s method path headers).runOn h = (.ok (), { h with
      http := ⟨h.http.sent ++ [.headers s [header ":status" "302",
        (Utf8.encode "location", Utf8.encode ("http://localhost:8000" ++ path)), serverHeader], .data s [] true], []⟩,
      streams := h.streams.insert s { st with responseSent := true } }) := by
  simp only [routeRequest, runOn_tryCatch]
  split_ifs with h₁ h₂ h₃
  · simp [redirected, h₁] at hr
  · simp [redirected, h₂] at hr
  · simp [redirected, h₃] at hr
  · simp only [sendRedirectResponse, respond_runOn_of_nil hf hst]

theorem unquote_of_no_percent {p : String} (hp : '%' ∉ p.data) : unquote p = p := if_neg hp

/-! ### Splitting a URI -/

theorem spanUntil_append {stops pre : List Char} (hpre : ∀ c ∈ pre, c ∉ stops) (cs : List Char) :
    spanUntil stops (pre ++ cs) = (pre ++ (spanUntil stops cs).1, (spanUntil stops cs).2) := by
  have hp : ∀ c ∈ pre, decide (c ∉ stops) = true := fun c hc => decide_eq_true (hpre c hc)
  simp only [spanUntil, List.takeWhile_append_of_pos hp, List.dropWhile_append_of_pos hp]

theorem spanUntil_stop {stops : List Char} {c : Char} (hc : c ∈ stops) (cs : List Char) :
    spanUntil stops (c :: cs) = ([], c :: cs) := by
  simp [spanUntil, hc]

theorem spanUntil_of_forall {stops cs : List Char} (hcs : ∀ c ∈ cs, c ∉ stops) : spanUntil stops cs = (cs, []) := by
  simpa [spanUntil] using spanUntil_append hcs []

theorem splitScheme_http (rest : List Char) : splitScheme (['h', 't', 't', 'p'] ++ ':' :: rest) = (some "http", rest) := by
  rw [splitScheme, spanUntil_append (by decide), spanUntil_stop (by decide)]
  rfl

theorem splitAuthority_localhost_append (cs : List Char) :
    splitAuthority ('/' :: '/' :: (['l', 'o', 'c', 'a', 'l', 'h', 'o', 's', 't', ':', '8', '0', '0', '0'] ++ cs)) =
      (some ("localhost:8000" ++ ⟨(spanUntil ['/', '?', '#'] cs).1⟩), (spanUntil ['/', '?', '#'] cs).2) := by
  rw [splitAuthority, spanUntil_append (by decide)]
  rfl

theorem splitAuthority_localhost (cs : List Char) :
    splitAuthority ('/' :: '/' :: (['l', 'o', 'c', 'a', 'l', 'h', 'o', 's', 't', ':', '8', '0', '0', '0'] ++ '/' :: cs)) =
      (some "localhost:8000", '/' :: cs) := by
  rw [splitAuthority, spanUntil_append (by decide), spanUntil_stop (by decide)]
  rfl

/-- The path and query of a URI whose rest after the authority is `cs`, of characters the URI grammar
    allows and with no dot segment in its path, give back `cs` as the target. -/
theorem target_of_plain (cs : List Char) (hchars : ∀ c ∈ '/' :: cs, uriChar c)
    (hdots : NoDotSegments (spanUntil ['?', '#'] ('/' :: cs)).1) :
    let path := (spanUntil ['?', '#'] ('/' :: cs)).1
    let query := (splitQuery (spanUntil ['?', '#'] ('/' :: cs)).2)
    query.2 = [] ∧ (Uri.target ⟨some "http", some "localhost:8000", String.mk path, query.1, none⟩) = ⟨'/' :: cs⟩ := by
  intro path query
  have hsplit : path ++ (spanUntil ['?', '#'] ('/' :: cs)).2 = '/' :: cs := List.takeWhile_append_dropWhile _ _
  have hp : path = '/' :: (spanUntil ['?', '#'] cs).1 :=
    congrArg Prod.fst (@spanUntil_append ['?', '#'] ['/'] (by decide) cs)
  have hin : ∀ c ∈ path ++ (spanUntil ['?', '#'] ('/' :: cs)).2, uriChar c := fun c hc => hchars c (hsplit ▸ hc)
  have hpath : ∀ c ∈ (spanUntil ['?', '#'] cs).1, uriChar c :=
    fun c hc => hin c (List.mem_append_left _ (hp ▸ List.mem_cons_of_mem _ hc))
  have htarget := Uri.target_plain (some "http") (some "localhost:8000") _ query.1 none (hp ▸ hdots) hpath
  rw [← hp] at htarget
  cases hrest : (spanUntil ['?', '#'] ('/' :: cs)).2 with
  | nil =>
    rw [hrest, List.append_nil] at hsplit
    have hq : query = (none, []) := by simp only [query, hrest, splitQuery]
    rw [hq] at htarget ⊢
    exact ⟨rfl, (htarget (by simp)).trans (by simp [hsplit])⟩
  | cons c rest =>
    have hc : c = '?' ∨ c = '#' := or_iff_not_imp_left.2 (by simpa using dropWhile_eq_cons hrest)
    rw [hrest] at hsplit hin
    have hrest' : ∀ d ∈ c :: rest, uriChar d := fun d hd => hin d (List.mem_append_right _ hd)
    obtain rfl : c = '?' := hc.resolve_right fun e => absurd (e ▸ hrest' c (List.mem_cons_self _ _)) (by decide)
    have hspan : spanUntil ['#'] rest = (rest, []) := spanUntil_of_forall fun d hd hmem =>
      absurd (hrest' d (List.mem_cons_of_mem _ hd)) (List.mem_singleton.1 hmem ▸ by decide)
    have hq : query = (some ⟨rest⟩, []) := by simp only [query, hrest, splitQuery, hspan]
    rw [hq] at htarget ⊢
    refine ⟨rfl, (htarget fun q hq d hd => ?_).trans (by simp [← hsplit])⟩
    cases hq
    exact hrest' d (List.mem_cons_of_mem _ hd)

/-- A URI on `localhost:8000` whose target starts with `/`, holds only characters the URI grammar
    allows and has no dot segment in its path: a client following it asks the main server for that
    target. -/
theorem parseUri_localhost (cs : List Char) (hchars : ∀ c ∈ '/' :: cs, uriChar c)
    (hdots : NoDotSegments (spanUntil ['?', '#'] ('/' :: cs)).1) :
    (parseUri ("http://localhost:8000" ++ ⟨'/' :: cs⟩)).authority = some "localhost:8000" ∧
      (parseUri ("http://localhost:8000" ++ ⟨'/' :: cs⟩)).fragment = none ∧
      (parseUri ("http://localhost:8000" ++ ⟨'/' :: cs⟩)).target = ⟨'/' :: cs⟩ := by
  have hdata : ("http://localhost:8000" ++ ⟨'/' :: cs⟩ : String).data = ['h', 't', 't', 'p'] ++ ':' :: '/' :: '/' ::
      (['l', 'o', 'c', 'a', 'l', 'h', 'o', 's', 't', ':', '8', '0', '0', '0'] ++ '/' :: cs) := rfl
  obtain ⟨hq, ht⟩ := target_of_plain cs hchars hdots
  simp only [parseUri, hdata, splitScheme_http, splitAuthority_localhost]
  exact ⟨trivial, by rw [hq], ht⟩

theorem parseUri_localhost_authority (cs : List Char) :
    (parseUri ("http://localhost:8000" ++ ⟨cs⟩)).authority =
      some ("localhost:8000" ++ ⟨(spanUntil ['/', '?', '#'] cs).1⟩) := by
  have hdata : ("http://localhost:8000" ++ ⟨cs⟩ : String).data = ['h', 't', 't', 'p'] ++ ':' :: '/' :: '/' ::
      (['l', 'o', 'c', 'a', 'l', 'h', 'o', 's', 't', ':', '8', '0', '0', '0'] ++ cs) := rfl
  simp only [parseUri, hdata, splitScheme_http, splitAuthority_localhost_append]

/-! ### What the redirect forwards -/

/-- A target that starts with `/`, holds only characters the URI grammar allows but `%`, has no dot
    segment in its path, and that `route_request` redirects: with every send succeeding, the
    `Location` names the authority `localhost:8000` and no fragment, and a client following it asks
    the main server for the same target. -/
theorem redirect_forwards_plain_target {s : Nat} {h : Handler} {st : StreamInfo} (hf : h.http.faults = [])
    (hst : h.streams.get? s = some st) (method : String) (headers : Dict String String) (p : String)
    (hslash : p.data.head? = some '/') (hchars : ∀ c ∈ p.data, uriChar c ∧ c ≠ '%')
    (hdots : NoDotSegments (spanUntil ['?', '#'] p.data).1) (hr : redirected p = true) :
    ∃ location, (routeRequest s method (unquote p) headers).runOn h = (.ok (), { h with
      http := ⟨h.http.sent ++ [.headers s [header ":status" "302", (Utf8.encode "location", Utf8.encode location),
        serverHeader], .data s [] true], []⟩,
      streams := h.streams.insert s { st with responseSent := true } }) ∧
      (parseUri location).authority = some "localhost:8000" ∧ (parseUri location).fragment = none ∧
      (parseUri location).target = p := by
  obtain ⟨_ | ⟨c, cs⟩⟩ := p
  · cases hslash
  · obtain rfl : c = '/' := by simpa using hslash
    rw [unquote_of_no_percent fun h => (hchars '%' h).2 rfl]
    exact ⟨_, routeRequest_redirect hf hst method _ headers hr,
      parseUri_localhost cs (fun c hc => (hchars c hc).1) hdots⟩

theorem redirect_forwards_slash_a :
    (Handler.init.store 0 .init).http.faults = [] ∧ (Handler.init.store 0 .init).streams.get? 0 = some Request.init.entry ∧
      "/a/b?x=1".data.head? = some '/' ∧ (∀ c ∈ "/a/b?x=1".data, uriChar c ∧ c ≠ '%') ∧
      NoDotSegments (spanUntil ['?', '#'] "/a/b?x=1".data).1 ∧ redirected "/a/b?x=1" = true ∧
      ∃ location, (routeRequest 0 "GET" (unquote "/a/b?x=1") ∅).runOn (Handler.init.store 0 .init) = (.ok (),
        { Handler.init.store 0 .init with
          http := ⟨(Handler.init.store 0 .init).http.sent ++ [.headers 0 [header ":status" "302",
            (Utf8.encode "location", Utf8.encode location), serverHeader], .data 0 [] true], []⟩,
          streams := (Handler.init.store 0 .init).streams.insert 0 { Request.init.entry with responseSent := true } }) ∧
        (parseUri location).authority = some "localhost:8000" ∧ (parseUri location).fragment = none ∧
        (parseUri location).target = "/a/b?x=1" :=
  ⟨rfl, rfl, rfl, by decide, by decide, rfl,
    redirect_forwards_plain_target (s := 0) (h := Handler.init.store 0 .init) rfl
      (show (Handler.init.store 0 .init).streams.get? 0 = some Request.init.entry from rfl)
      "GET" ∅ "/a/b?x=1" rfl (by decide) (by decide) rfl⟩

/-- The target `/a%3Fb`, the path `/a?b` with no query, is redirected to the path `/a` with the
    query `b`: the main server sees another path and a query the client never sent. -/
theorem redirect_decodes_escaped_query :
    (runTask ⟨0, [header ":path" "/a%3Fb"]⟩ [] Handler.init).2.http.sent =
      [.headers 0 [header ":status" "302", (Utf8.encode "location", Utf8.encode "http://localhost:8000/a?b"),
        serverHeader], .data 0 [] true] ∧
      partitionTarget (parseUri "http://localhost:8000/a?b").target = ("/a", "b") ∧
      partitionTarget "/a%3Fb" = ("/a%3Fb", "") ∧ unquote "/a%3Fb" = "/a?b" := by
  decide

/-- Whatever path `route_request` redirects, with every send succeeding, the `Location`'s authority
    is `localhost:8000` followed by the path up to its first `/`, `?` or `#`: a path that starts with
    none of them carries its first segment into the authority. -/
theorem redirect_location_authority {s : Nat} {h : Handler} {st : StreamInfo} (hf : h.http.faults = [])
    (hst : h.streams.get? s = some st) (method : String) (headers : Dict String String) (path : String)
    (hr : redirected path = true) :
    ∃ location, (routeRequest s method path headers).runOn h = (.ok (), { h with
      http := ⟨h.http.sent ++ [.headers s [header ":status" "302", (Utf8.encode "location", Utf8.encode location),
        serverHeader], .data s [] true], []⟩,
      streams := h.streams.insert s { st with responseSent := true } }) ∧
      (parseUri location).authority = some ("localhost:8000" ++ ⟨(spanUntil ['/', '?', '#'] path.data).1⟩) :=
  ⟨_, routeRequest_redirect hf hst method path headers hr, parseUri_localhost_authority path.data⟩

/-- The target `%40evil.example/` is decoded to `@evil.example/`, and the redirect names the
    authority `localhost:8000@evil.example`: the user `localhost:8000` on the host `evil.example`. -/
theorem redirect_location_userinfo :
    (Handler.init.store 0 .init).http.faults = [] ∧
      (Handler.init.store 0 .init).streams.get? 0 = some Request.init.entry ∧
      redirected (unquote "%40evil.example/") = true ∧
      "localhost:8000" ++ ⟨(spanUntil ['/', '?', '#'] (unquote "%40evil.example/").data).1⟩ =
        "localhost:8000@evil.example" ∧
      ∃ location, (routeRequest 0 "GET" (unquote "%40evil.example/") ∅).runOn (Handler.init.store 0 .init) =
        (.ok (), { Handler.init.store 0 .init with
          http := ⟨(Handler.init.store 0 .init).http.sent ++ [.headers 0 [header ":status" "302",
            (Utf8.encode "location", Utf8.encode location), serverHeader], .data 0 [] true], []⟩,
          streams := (Handler.init.store 0 .init).streams.insert 0 { Request.init.entry with responseSent := true } }) ∧
        (parseUri location).authority =
          some ("localhost:8000" ++ ⟨(spanUntil ['/', '?', '#'] (unquote "%40evil.example/").data).1⟩) :=
  ⟨rfl, rfl, by decide, by decide,
    redirect_location_authority (s := 0) (h := Handler.init.store 0 .init) rfl
      (show (Handler.init.store 0 .init).streams.get? 0 = some Request.init.entry from rfl)
      "GET" ∅ (unquote "%40evil.example/") (by decide)⟩

end Aird.Quic
