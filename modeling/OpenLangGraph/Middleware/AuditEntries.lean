import OpenLangGraph.Foundation.Coroutine
import OpenLangGraph.Middleware.Audit

/-!
# The audit entries of a request

How `AuditMiddleware.__call__` of `middleware/audit.py` runs the application and records the
request, with `insert` of `services/audit_outbox_service.py`, which writes the entry.

## Scope

The application and the statement that writes an entry are coroutines of any kind: they may await as
often as they like, and an exception may be thrown into them at each await. A message of the
application goes through `send_wrapper`, which passes it on as it is. The fields of an entry that
do not depend on how the request ends are in `Middleware.Audit`. `_extract_user_info` and what else
`_log_audit` reads of the scope catch what they raise, and do not await.

## Two entries

The first call of `_log_audit` is inside of the `try` whose handlers call it again. It catches every
`Exception`, so only a cancellation gets from it to a handler: a request that the application has
answered is then recorded a second time, as one that the client has aborted.

## Main definitions

* `insert`, `logAudit`, `call`
* `OneEntry`, `isAccounted`

## Main results

* `logAudit_run` — the audit step
* `oneEntry_iff` — when a request has its one entry
-/

open PyString

namespace OpenLangGraph

namespace AuditEntries

open AuditMiddleware (AuditedRequest Ending)
open Coroutine (Raised Resumption Progress ofExcept ret raise emit)

/-! ### Requests and responses -/

structure Scope where
  type : String
  path : Option Str

/-- `EXCLUDED_PATHS` -/
def excludedPaths : List Str :=
  ["/health", "/health/", "/docs", "/docs/", "/redoc", "/redoc/", "/openapi.json", "/metrics",
    "/metrics/", "/favicon.ico"].map String.toList

/-- `EXCLUDED_PREFIXES` -/
def excludedPrefixes : List Str := ["/static/", "/_next/"].map String.toList

/-- `_should_skip` -/
def shouldSkip (path : Str) : Bool :=
  path ∈ excludedPaths || excludedPrefixes.any (·.isPrefixOf path)

/-- An HTTP request whose path is not excluded. -/
def Scope.isAudited (scope : Scope) : Bool :=
  scope.type = "http" && !shouldSkip (scope.path.getD "/".toList)

/-- What the application sends. -/
inductive Message
  /-- `http.response.start`, with the headers as text -/
  | start (status : Option ℤ) (headers : List (Str × Str))
  /-- `http.response.body` -/
  | body (bytes : List UInt8)
  | other

/-- What `send_wrapper` keeps of a response. -/
structure Response where
  /-- `status_code`, once `response_started` -/
  status : Option ℤ
  isStreaming : Bool
  bytesSent : ℕ

def Response.none : Response := ⟨.none, false, 0⟩

/-- A header by which a response is an event stream. -/
def isEventStream (header : Str × Str) : Bool :=
  header.1 = "content-type".toList && decide ("text/event-stream".toList <:+: header.2)

/-- `send_wrapper` -/
def sendWrapper (response : Response) : Message → Response
  | .start status headers =>
    { response with
      status := some (status.getD 0)
      isStreaming := response.isStreaming || headers.any isEventStream }
  | .body bytes => { response with bytesSent := response.bytesSent + bytes.length }
  | .other => response

def responseOf (messages : List Message) : Response := messages.foldl sendWrapper .none

/-- What a payload says about how the request has ended. -/
structure Entry where
  statusCode : ℤ
  isStreaming : Bool
  bytesSent : ℕ
  errorClass : Option String
  errorMessage : Option String
deriving DecidableEq

/-- What the middleware does. -/
inductive Event
  /-- it calls `send` -/
  | sent (message : Message)
  /-- it starts `audit_outbox_service.insert` -/
  | insert (entry : Entry)

/-- What is not under the control of the middleware. -/
structure Environment (ι ε : Type) where
  /-- `type(e).__name__` -/
  className : ε → String
  /-- `str(e)`, which calls a method of the exception -/
  str : ε → Except (Raised ε) String
  /-- `_sanitize_exception_message` -/
  sanitize : String → String
  timeoutError : ε
  /-- `db_manager.get_engine()` -/
  getEngine : Entry → Except ε Unit
  /-- `_do_insert` -/
  doInsert : Entry → Coroutine ι Empty ε Unit
  /-- the id of the row -/
  entryId : Entry → String

variable {ι ε : Type} (env : Environment ι ε)

/-! ### The audit step -/

/-- `insert` -/
def insert (entry : Entry) : Coroutine ι Event ε (Option String) :=
  (emit (.insert entry)).bind fun _ =>
    ((ofExcept ((env.getEngine entry).mapError .exception)).bind fun _ =>
      (((env.doInsert entry).mapEvents Empty.elim).waitFor env.timeoutError).bind fun _ =>
        ret (some (env.entryId entry))).recover
      -- `except TimeoutError` and `except Exception`
      fun _ => none

/-- `_log_audit` -/
def logAudit (entry : Entry) : Coroutine ι Event ε Unit :=
  (((insert env entry).waitFor env.timeoutError).bind fun _ => ret ()).recover
    -- `except TimeoutError` and `except Exception`
    fun _ => ()

/-- The entry of a request that the application has completed. -/
def completed (response : Response) : Entry :=
  ⟨response.status.getD 0, response.isStreaming, response.bytesSent, none, none⟩

/-- The entry of a request that was cancelled. -/
def cancelled (response : Response) : Entry :=
  ⟨499, response.isStreaming, response.bytesSent, some "CancelledError",
    some "Client closed connection"⟩

/-- The entry of a request that failed with an exception and its message. -/
def failed (response : Response) (e : ε) (message : String) : Entry :=
  ⟨response.status.getD 500, response.isStreaming, response.bytesSent, some (env.className e),
    some (env.sanitize message)⟩

/-- The handlers of `__call__`. -/
def onError (response : Response) : Raised ε → Coroutine ι Event ε Unit
  | .exception e =>
    match env.str e with
    | .ok message =>
      (logAudit env (failed env response e message)).bind fun _ => raise (.exception e)
    | .error e' => raise e'
  -- neither handler
  | .fatal e => raise (.fatal e)
  -- `except asyncio.CancelledError`, whoever asked for the cancellation
  | e => (logAudit env (cancelled response)).bind fun _ => raise e

/-- The `try` statement of `__call__`, once the application has ended. -/
def finish (response : Response) (ending : Except (Raised ε) Unit) : Coroutine ι Event ε Unit :=
  ((ofExcept ending).bind fun _ => logAudit env (completed response)).tryCatch
    (onError env response)

/-- `__call__` -/
def call (scope : Scope) (app : Coroutine ι Message ε Unit) : Coroutine ι Event ε Unit :=
  if scope.type ≠ "http" then app.mapEvents .sent
  else if shouldSkip (scope.path.getD "/".toList) then app.mapEvents .sent
  -- what `send_wrapper` has kept is read when the application has ended
  else (app.settle.mapEvents .sent).bind fun (ending, messages) =>
    finish env (responseOf messages) ending

/-! ### What is thrown into the audit step -/

/-- What the database does with an entry, without timers. -/
def write (entry : Entry) : Coroutine ι Event ε Unit :=
  (ofExcept ((env.getEngine entry).mapError .exception)).bind fun _ =>
    (env.doInsert entry).mapEvents Empty.elim

/-- What becomes of the ending of a statement under the two timers: only what is neither an
`Exception` nor a cancellation of one of them. -/
def logged : Except (Raised ε) Unit → Except (Raised ε) Unit
  | .error .cancelled => .error .cancelled
  | .error (.expired (depth + 2)) => .error (.expired depth)
  | .error (.fatal e) => .error (.fatal e)
  | _ => .ok ()

variable {env} {entry : Entry} {resumptions : List (Resumption ι ε)}

@[simp] theorem events_write : (write env entry resumptions).events = [] := by
  rw [write]
  cases env.getEngine entry with
  | error e => rfl
  | ok =>
    show List.map Empty.elim (env.doInsert entry resumptions).events = []
    rw [List.map_eq_nil_iff, List.eq_nil_iff_forall_not_mem]
    exact fun event => event.elim

theorem write_eq (h : env.getEngine entry = .ok ()) :
    write env entry = (env.doInsert entry).mapEvents Empty.elim := by
  rw [write, h]
  exact Coroutine.bind_ok _ _

/-- What `insert` makes of the ending of its statement. -/
def inserted (env : Environment ι ε) (entry : Entry) (r : Except (Raised ε) Unit) :
    Except (Raised ε) (Option String) :=
  Coroutine.recovered (fun _ => none)
    ((r.mapError (Coroutine.underTimer env.timeoutError)).bind fun _ =>
      .ok (some (env.entryId entry)))

theorem insert_run :
    insert env entry resumptions =
      ⟨[.insert entry],
        (write env entry resumptions).ending.map fun (r, rest) =>
          (inserted env entry r, rest)⟩ := by
  rw [insert, Coroutine.bind, Coroutine.andThen_emit]
  dsimp only
  rw [Coroutine.recover_eq, Coroutine.mapEnding_run]
  cases hengine : env.getEngine entry with
  | error e =>
    rw [write, hengine]
    rfl
  | ok =>
    rw [← write_eq hengine, Except.mapError, Coroutine.bind_ok, ret, Coroutine.bind_ofExcept_eq,
      Coroutine.waitFor_eq, Coroutine.mapEnding_mapEnding, Coroutine.mapEnding_run, events_write,
      Option.map_map]
    rfl

/-- The two timers and the two handlers. -/
theorem recovered_inserted (r : Except (Raised ε) Unit) :
    Coroutine.recovered (fun _ => ()) (((inserted env entry r).mapError
      (Coroutine.underTimer env.timeoutError)).bind fun _ => .ok ()) = logged r := by
  rcases r with (_ | _ | _ | _) | _
  case error.expired depth =>
    rcases depth with _ | _ | depth <;> rfl
  all_goals rfl

/-- **The audit step** starts one insert. It ends with what is thrown into it, if that is neither an
`Exception` nor a cancellation of its own timers. -/
theorem logAudit_run :
    logAudit env entry resumptions =
      ⟨[.insert entry],
        (write env entry resumptions).ending.map fun (r, rest) => (logged r, rest)⟩ := by
  rw [logAudit, Coroutine.recover_eq, ret, Coroutine.bind_ofExcept_eq, Coroutine.waitFor_eq,
    Coroutine.mapEnding_mapEnding, Coroutine.mapEnding_mapEnding, Coroutine.mapEnding_run,
    insert_run, Option.map_map]
  congr 2
  funext ⟨r, rest⟩
  exact congrArg (fun r => (r, rest)) (recovered_inserted r)

theorem logAudit_of_suspended (h : (write env entry resumptions).ending = none) :
    logAudit env entry resumptions = ⟨[.insert entry], none⟩ := by
  rw [logAudit_run, h]
  rfl

theorem logAudit_of_ended {written : Except (Raised ε) Unit} {rest : List (Resumption ι ε)}
    (h : (write env entry resumptions).ending = some (written, rest)) :
    logAudit env entry resumptions = ⟨[.insert entry], some (logged written, rest)⟩ := by
  rw [logAudit_run, h]
  rfl

/-- How a request ends whose application ends in the one way, and the statement in the other. -/
def through (ending written : Except (Raised ε) Unit) : Except (Raised ε) Unit :=
  (logged written).bind fun _ => ending

theorem logAudit_raise_run (e : Raised ε) :
    ((logAudit env entry).bind fun _ => raise e) resumptions =
      ⟨[.insert entry], (write env entry resumptions).ending.map fun (written, rest) =>
        (through (.error e) written, rest)⟩ := by
  rw [raise, Coroutine.bind_ofExcept_eq, Coroutine.mapEnding_run, logAudit_run, Option.map_map]
  rfl

/-! ### The end of a request -/

variable (env) in
/-- The entry that the middleware makes of how the application has ended. -/
def entryOf (response : Response) : Except (Raised ε) Unit → Option Entry
  | .ok () => some (completed response)
  | .error (.exception e) => (env.str e).toOption.map (failed env response e)
  | .error (.fatal _) => none
  | .error _ => some (cancelled response)

variable {response : Response} {e : Raised ε}

variable (env) in
/-- How the request ends, as the payload has it. -/
def endingOf : Except (Raised ε) Unit → Option Ending
  | .ok () => some .completed
  | .error (.exception e) =>
    (env.str e).toOption.map fun message => .raised (env.className e) (env.sanitize message)
  | .error (.fatal _) => none
  | .error _ => some .cancelled

/-- What the payload of a request says about how it has ended. -/
def Entry.ofRequest (r : AuditedRequest) : Entry :=
  ⟨r.statusCode, r.isStreaming, r.bytesSent, r.errorClass, r.errorMessage⟩

/-- The entry is that of the payload. -/
theorem entryOf_eq_ofRequest {r : AuditedRequest} {ending : Except (Raised ε) Unit}
    (hresponse : response = ⟨r.status, r.isStreaming, r.bytesSent⟩)
    (hending : endingOf env ending = some r.ending) :
    entryOf env response ending = some (.ofRequest r) := by
  rw [Entry.ofRequest, AuditedRequest.statusCode, AuditedRequest.errorClass,
    AuditedRequest.errorMessage, hresponse]
  rcases ending with (_ | _ | e | _) | _
  case error.exception =>
    rw [endingOf] at hending
    obtain ⟨message, hmessage, hending⟩ := Option.map_eq_some_iff.mp hending
    rw [entryOf, hmessage, ← hending]
    rfl
  case error.fatal => cases hending
  all_goals
    rw [← Option.some.inj hending]
    rfl

theorem onError_of_some (h : entryOf env response (.error e) = some entry) :
    onError env response e = (logAudit env entry).bind fun _ => raise e := by
  cases e with
  | exception e =>
    rw [entryOf] at h
    rw [onError]
    cases hstr : env.str e with
    | error e' =>
      rw [hstr] at h
      cases h
    | ok message =>
      rw [hstr] at h
      obtain rfl := Option.some.inj h
      rfl
  | fatal e => cases h
  | cancelled | expired =>
    obtain rfl := Option.some.inj h
    rfl

theorem onError_of_none (h : entryOf env response (.error e) = none) :
    ∃ e', onError env response e = raise e' := by
  cases e with
  | exception e =>
    rw [entryOf] at h
    cases hstr : env.str e with
    | error e' => exact ⟨e', by rw [onError, hstr]⟩
    | ok message =>
      rw [hstr] at h
      cases h
  | fatal e => exact ⟨.fatal e, rfl⟩
  | cancelled | expired => cases h

/-- A statement that was cancelled, and not by a timer of the audit step. -/
def isCancelled : Except (Raised ε) Unit → Bool
  | .error .cancelled => true
  | .error (.expired (_ + 2)) => true
  | _ => false

theorem logged_of_not_isCancelled {written : Except (Raised ε) Unit}
    (h : isCancelled written = false) :
    logged written = .ok () ∨ ∃ e, logged written = .error (.fatal e) := by
  rcases written with (_ | _ | _ | e) | _
  case error.cancelled => cases h
  case error.expired depth =>
    rcases depth with _ | _ | depth
    · exact .inl rfl
    · exact .inl rfl
    · cases h
  case error.fatal => exact .inr ⟨e, rfl⟩
  all_goals exact .inl rfl

/-- A cancellation is taken for one of the request. -/
theorem entryOf_logged (env : Environment ι ε) (response : Response)
    {written : Except (Raised ε) Unit} (h : isCancelled written = true) :
    ∃ e, logged written = .error e ∧
      entryOf env response (.error e) = some (cancelled response) := by
  rcases written with (_ | _ | _ | _) | _
  case error.cancelled => exact ⟨.cancelled, rfl, rfl⟩
  case error.expired depth =>
    rcases depth with _ | _ | depth
    · cases h
    · cases h
    · exact ⟨.expired depth, rfl, rfl⟩
  all_goals cases h

theorem finish_error : finish env response (.error e) = onError env response e := by
  rw [finish, Coroutine.bind_error]
  exact Coroutine.andThen_ofExcept _

theorem finish_ok :
    finish env response (.ok ()) =
      (logAudit env (completed response)).tryCatch (onError env response) := by
  rw [finish, Coroutine.bind_ok]

/-- **A request that ends with one entry**: its application has ended in a way for which there is
one, and the statement that follows a response is not cancelled. -/
theorem finish_run {ending : Except (Raised ε) Unit}
    (hentry : entryOf env response ending = some entry)
    (hwritten : ending = .ok () →
      (write env entry resumptions).ending.any (fun written => isCancelled written.1) = false) :
    finish env response ending resumptions =
      ⟨[.insert entry], (write env entry resumptions).ending.map fun (written, rest) =>
        (through ending written, rest)⟩ := by
  cases ending with
  | error e => rw [finish_error, onError_of_some hentry, logAudit_raise_run]
  | ok =>
    obtain rfl := Option.some.inj hentry
    rw [finish_ok, Coroutine.tryCatch]
    cases hending : (write env (completed response) resumptions).ending with
    | none =>
      rw [Coroutine.andThen_of_suspended (logAudit_of_suspended hending)]
      rfl
    | some p =>
      obtain ⟨written, rest⟩ := p
      have hnot : isCancelled written = false := by
        simpa only [hending, Option.any_some] using hwritten rfl
      rw [Coroutine.andThen_of_ended (logAudit_of_ended hending)]
      show _ = Progress.mk _ (some ((logged written).bind fun _ => .ok (), rest))
      obtain hlogged | ⟨e, hlogged⟩ := logged_of_not_isCancelled hnot
      · rw [hlogged]
        rfl
      -- what is fatal passes the handlers
      · rw [hlogged]
        rfl

/-- **Two entries**: a request that is cancelled while its response is recorded is recorded
again. -/
theorem events_finish_of_isCancelled {written : Except (Raised ε) Unit}
    {rest : List (Resumption ι ε)}
    (hending : (write env (completed response) resumptions).ending = some (written, rest))
    (hwritten : isCancelled written = true) :
    (finish env response (.ok ()) resumptions).events =
      [.insert (completed response), .insert (cancelled response)] := by
  obtain ⟨e, hlogged, hentry⟩ := entryOf_logged env response hwritten
  rw [finish_ok, Coroutine.tryCatch, Coroutine.andThen_of_ended (logAudit_of_ended hending),
    hlogged]
  dsimp only
  rw [onError_of_some hentry, logAudit_raise_run]
  rfl

theorem finish_of_none {ending : Except (Raised ε) Unit} (h : entryOf env response ending = none) :
    ∃ e, finish env response ending = raise e := by
  cases ending with
  | ok => cases h
  | error e =>
    rw [finish_error]
    exact onError_of_none h

/-! ### One entry -/

/-- The entries whose insert has been started. -/
def entriesOf (events : List Event) : List Entry :=
  events.filterMap fun
    | .insert entry => some entry
    | .sent _ => none

/-- The messages that have been passed on. -/
def messagesOf (events : List Event) : List Message :=
  events.filterMap fun
    | .sent message => some message
    | .insert _ => none

variable (env) in
/-- How a request ends: as the application has ended, or with what was thrown into the audit step
that follows. It is `none` before that. -/
def outcome (app : Coroutine ι Message ε Unit) (resumptions : List (Resumption ι ε)) :
    Option (Except (Raised ε) Unit) :=
  (app resumptions).ending.bind fun (ending, rest) =>
    match entryOf env (responseOf (app resumptions).events) ending with
    | none => some ending
    | some entry =>
      (write env entry rest).ending.map fun (written, _) => through ending written

/-- A request never has more than one entry. When it has ended it has one, and its `outcome`. The
response is that of the application. -/
structure OneEntry (env : Environment ι ε) (scope : Scope) (app : Coroutine ι Message ε Unit)
    (resumptions : List (Resumption ι ε)) : Prop where
  length_le : (entriesOf (call env scope app resumptions).events).length ≤ 1
  ended : ∀ ending rest, (call env scope app resumptions).ending = some (ending, rest) →
    (entriesOf (call env scope app resumptions).events).length = 1 ∧
      outcome env app resumptions = some ending
  messages : messagesOf (call env scope app resumptions).events = (app resumptions).events

variable (env) in
/-- If the application returns, the statement that writes the entry of the response is not
cancelled. If it raises, it raises a cancellation or an `Exception` that has a text. -/
def isAccounted (app : Coroutine ι Message ε Unit) (resumptions : List (Resumption ι ε)) : Bool :=
  match (app resumptions).ending with
  | none => true
  | some (.ok (), rest) =>
    !(write env (completed (responseOf (app resumptions).events)) rest).ending.any
      fun written => isCancelled written.1
  | some (.error (.exception e), _) => (env.str e).isOk
  | some (.error (.fatal _), _) => false
  | some (.error _, _) => true

variable {scope : Scope} {app : Coroutine ι Message ε Unit} {messages : List Message}
variable {ending : Except (Raised ε) Unit} {rest : List (Resumption ι ε)}

theorem entriesOf_sent_append (messages : List Message) (events : List Event) :
    entriesOf (messages.map .sent ++ events) = entriesOf events := by
  induction messages with
  | nil => rfl
  | cons message messages ih => exact ih

theorem messagesOf_sent_append (messages : List Message) (events : List Event) :
    messagesOf (messages.map .sent ++ events) = messages ++ messagesOf events := by
  induction messages with
  | nil => rfl
  | cons message messages ih => exact congrArg (message :: ·) ih

theorem call_eq (h : scope.isAudited = true) :
    call env scope app = (app.settle.mapEvents .sent).bind fun (ending, messages) =>
      finish env (responseOf messages) ending := by
  rw [Scope.isAudited, Bool.and_eq_true_iff, decide_eq_true_eq, Bool.not_eq_true'] at h
  rw [call, if_neg (not_not_intro h.1), h.2]
  exact if_neg Bool.false_ne_true

variable (env) in
theorem call_of_suspended (h : scope.isAudited = true) (happ : app resumptions = ⟨messages, none⟩) :
    call env scope app resumptions = ⟨messages.map .sent, none⟩ := by
  have hsettle : app.settle.mapEvents .sent resumptions = ⟨messages.map Event.sent, none⟩ := by
    rw [Coroutine.mapEvents, Coroutine.settle, happ]
    rfl
  rw [call_eq h, Coroutine.bind, Coroutine.andThen_of_suspended hsettle]

variable (env) in
theorem call_of_ended (h : scope.isAudited = true)
    (happ : app resumptions = ⟨messages, some (ending, rest)⟩) :
    call env scope app resumptions =
      ⟨messages.map .sent ++ (finish env (responseOf messages) ending rest).events,
        (finish env (responseOf messages) ending rest).ending⟩ := by
  have hsettle : app.settle.mapEvents .sent resumptions =
      ⟨messages.map Event.sent, some (.ok (ending, messages), rest)⟩ := by
    rw [Coroutine.mapEvents, Coroutine.settle, happ]
    rfl
  rw [call_eq h, Coroutine.bind, Coroutine.andThen_of_ended hsettle]

/-- The application has not ended. -/
theorem oneEntry_of_suspended (h : scope.isAudited = true)
    (happ : app resumptions = ⟨messages, none⟩) : OneEntry env scope app resumptions := by
  have hcall := call_of_suspended env h happ
  have hentries := entriesOf_sent_append messages []
  have hmessages := messagesOf_sent_append messages []
  rw [List.append_nil] at hentries hmessages
  refine ⟨?_, ?_, ?_⟩
  · rw [hcall, hentries]
    exact Nat.zero_le 1
  · intro ending rest hended
    rw [hcall] at hended
    cases hended
  · rw [hcall, hmessages, happ]
    exact List.append_nil messages

/-- There is an entry for how the application has ended, and the request ends with it. -/
theorem oneEntry_of_run (h : scope.isAudited = true)
    (happ : app resumptions = ⟨messages, some (ending, rest)⟩)
    (hentry : entryOf env (responseOf messages) ending = some entry)
    (hwritten : ending = .ok () →
      (write env entry rest).ending.any (fun written => isCancelled written.1) = false) :
    OneEntry env scope app resumptions := by
  have hcall := call_of_ended env h happ
  rw [finish_run hentry hwritten] at hcall
  refine ⟨?_, ?_, ?_⟩
  · rw [hcall, entriesOf_sent_append]
    exact Nat.le_refl 1
  · intro ending' rest' hended
    rw [hcall] at hended ⊢
    refine ⟨by rw [entriesOf_sent_append]; rfl, ?_⟩
    obtain ⟨⟨written, rest''⟩, hwrite, hthrough⟩ := Option.map_eq_some_iff.mp hended
    rw [outcome, happ, Option.bind_some]
    dsimp only
    rw [hentry]
    dsimp only
    rw [hwrite]
    exact congrArg (fun p => some p.1) hthrough
  · rw [hcall, messagesOf_sent_append, happ]
    exact List.append_nil messages

/-- There is no entry for how the application has ended. -/
theorem not_oneEntry_of_none (h : scope.isAudited = true)
    (happ : app resumptions = ⟨messages, some (ending, rest)⟩)
    (hentry : entryOf env (responseOf messages) ending = none) :
    ¬ OneEntry env scope app resumptions := by
  intro hone
  obtain ⟨e, hfinish⟩ := finish_of_none hentry
  have hcall := call_of_ended env h happ
  rw [hfinish] at hcall
  have hlength := (hone.ended (.error e) rest (by rw [hcall]; rfl)).1
  rw [hcall, entriesOf_sent_append] at hlength
  cases hlength

theorem not_oneEntry_of_isCancelled {written : Except (Raised ε) Unit}
    {rest' : List (Resumption ι ε)} (h : scope.isAudited = true)
    (happ : app resumptions = ⟨messages, some (.ok (), rest)⟩)
    (hending : (write env (completed (responseOf messages)) rest).ending = some (written, rest'))
    (hwritten : isCancelled written = true) : ¬ OneEntry env scope app resumptions := by
  intro hone
  have hlength := hone.length_le
  rw [call_of_ended env h happ, entriesOf_sent_append,
    events_finish_of_isCancelled hending hwritten] at hlength
  exact absurd hlength (show ¬ 2 ≤ 1 by omega)

theorem isAccounted_of_none (happ : app resumptions = ⟨messages, some (ending, rest)⟩)
    (hentry : entryOf env (responseOf messages) ending = none) :
    isAccounted env app resumptions = false := by
  rw [isAccounted, happ]
  rcases ending with (_ | _ | e | _) | _
  case error.exception =>
    rw [entryOf] at hentry
    dsimp only
    cases hstr : env.str e with
    | error => rfl
    | ok =>
      rw [hstr] at hentry
      cases hentry
  case error.fatal => rfl
  all_goals cases hentry

theorem isAccounted_of_some (happ : app resumptions = ⟨messages, some (ending, rest)⟩)
    (hentry : entryOf env (responseOf messages) ending = some entry) :
    isAccounted env app resumptions = true ↔ (ending = .ok () →
      (write env entry rest).ending.any (fun written => isCancelled written.1) = false) := by
  rw [isAccounted, happ]
  rcases ending with (_ | _ | e | _) | _
  case ok =>
    obtain rfl := Option.some.inj hentry
    dsimp only
    rw [Bool.not_eq_true']
    exact ⟨fun h _ => h, fun h => h rfl⟩
  case error.exception =>
    rw [entryOf] at hentry
    dsimp only
    cases hstr : env.str e with
    | error =>
      rw [hstr] at hentry
      cases hentry
    | ok => exact ⟨fun _ => nofun, fun _ => rfl⟩
  case error.fatal => cases hentry
  all_goals exact ⟨fun _ => nofun, fun _ => rfl⟩

/-- **When a request has its one entry**, at every point of its handling. -/
theorem oneEntry_iff (h : scope.isAudited = true) :
    OneEntry env scope app resumptions ↔ isAccounted env app resumptions = true := by
  rcases happ : app resumptions with ⟨messages, _ | ⟨ending, rest⟩⟩
  · rw [isAccounted, happ]
    exact ⟨fun _ => rfl, fun _ => oneEntry_of_suspended h happ⟩
  cases hentry : entryOf env (responseOf messages) ending with
  | none =>
    rw [isAccounted_of_none happ hentry]
    exact ⟨fun hone => absurd hone (not_oneEntry_of_none h happ hentry), fun h => by cases h⟩
  | some entry =>
    rw [isAccounted_of_some happ hentry]
    refine ⟨?_, oneEntry_of_run h happ hentry⟩
    rintro hone rfl
    obtain rfl := Option.some.inj hentry
    by_contra hany
    rw [Bool.not_eq_false, Option.any_eq_true] at hany
    obtain ⟨⟨written, rest'⟩, hending, hwritten⟩ := hany
    exact not_oneEntry_of_isCancelled h happ hending hwritten hone

/-! ### A response that is recorded twice -/

/-- A database whose statement awaits once. -/
def oneAwait : Environment Unit String where
  className := id
  str := .ok
  sanitize := id
  timeoutError := "TimeoutError"
  getEngine _ := .ok ()
  doInsert _ := .await
  entryId _ := "id"

def listRuns : Scope := ⟨"http", some "/runs".toList⟩

/-- An application that answers at once. -/
def answers : Coroutine Unit Message String Unit := emit (.start (some 200) [])

/-- The client goes away while the entry of its response is written. -/
def clientGone : List (Resumption Unit String) := [.error .cancelled, .ok ()]

theorem oneEntry_iff_clientGone :
    OneEntry oneAwait listRuns answers clientGone ↔
      isAccounted oneAwait answers clientGone = true :=
  oneEntry_iff (by decide)

/-- **A response that is recorded twice**, with the status 200 and as a request that the client has
aborted. -/
theorem recorded_twice :
    listRuns.isAudited = true ∧
      (entriesOf (call oneAwait listRuns answers clientGone).events).map Entry.statusCode =
        [200, 499] ∧
      ¬ OneEntry oneAwait listRuns answers clientGone :=
  ⟨by decide, by decide, fun h => absurd h.length_le (by decide)⟩

end AuditEntries

end OpenLangGraph
