import Mathlib.Data.List.Sort
import OpenLangGraph.Foundation.RelyGuarantee
import OpenLangGraph.Services.AssistantService

/-!
# Requests for assistants at the same time

The endpoints of `api/assistants.py`, and the startup of a server that makes sure of the default
assistants, as programs that interleave at their statements. A transaction of theirs has one write,
which its commit makes visible.

## What a request finds

An endpoint looks for the assistant that it is about, and goes on by its id. Between two statements
others may update, delete and create what they like. An update adds a version to the history of the
assistant and only then writes its row, in two transactions; a creation does so the other way round.

## The default assistants

A server derives the id of the default assistant of a graph from the name of the graph, and inserts
those that it does not find, all in one transaction. What a client may choose is the id of an
assistant, too.

## Scope

The conditions and the page of a search are arbitrary. The three endpoints that load the graph of an
assistant answer with the assistant. The cache of assistants is left out, whose errors are
swallowed, and so are the times of creation.

## Main definitions

* `AssistantStore` — the tables, and a record of what has been written and answered
* `AssistantStatement.apply` — the statements
* `AssistantCall.program` — the endpoints and the startup
-/

namespace OpenLangGraph

namespace AssistantRequests

open PyString AssistantService

variable {ν : Type}

/-! ### The store -/

/-- A user of the server. -/
structure Caller where
  identity : Str
  orgId : Option Str

/-- The owner of the default assistants. -/
def systemUser : Str := "system".toList

/-- What an endpoint returns. -/
inductive AssistantAnswer (ν : Type)
  | assistants (rows : List (AssistantService.Assistant ν))
  | versions (assistantId : Str) (rows : List (AssistantVersion ν))
  | count (count : ℕ)
  | graph (a : AssistantService.Assistant ν)
  | deleted

/-- The tables. The rest is a record: the rows as they were created, the versions and who has
written them, what was deleted by whom, the graphs of the servers that have started, and what has
been answered to whom. -/
structure AssistantStore (ν : Type) where
  tables : AssistantTables ν
  created : List (AssistantService.Assistant ν)
  written : List (Str × AssistantVersion ν)
  deleted : List (Str × Str)
  startups : List (List Str)
  answered : List (Caller × AssistantAnswer ν)

/-- Before anything has happened. -/
def AssistantStore.initial : AssistantStore ν where
  tables := .empty
  created := []
  written := []
  deleted := []
  startups := []
  answered := []

inductive AssistantStatement (ν : Type)
  | insertAssistant (a : AssistantService.Assistant ν)
  | insertVersion (userId : Str) (v : AssistantVersion ν)
  /-- `update(AssistantORM)`, with the columns of a version -/
  | updateAssistant (userId : Str) (v : AssistantVersion ν) (now : ℕ)
  | deleteAssistant (userId assistantId : Str)
  /-- the commit of a startup -/
  | insertDefaults (graphs : List Str) (rows : List (AssistantService.Assistant ν))
  | answer (user : Caller) (a : AssistantAnswer ν)

inductive RequestError
  | httpException (statusCode : ℕ) (detail : Str)
  /-- another exception -/
  | raised (name : String)

/-- An error of the service. -/
def RequestError.ofAssistant : AssistantError → RequestError
  | .httpException statusCode detail => .httpException statusCode detail
  | .validationError => .raised "ValidationError"

section

variable [DecidableEq ν]

/-- All rows, or none. -/
def insertAll (t : AssistantTables ν) :
    List (AssistantService.Assistant ν) → Option (AssistantTables ν)
  | [] => some t
  | a :: rows => (t.insertAssistant a).bind fun t => insertAll t rows

/-- What a constraint refuses. -/
def orIntegrityError {α : Type} : Option α → Except RequestError α
  | none => .error (.raised "IntegrityError")
  | some a => .ok a

def AssistantStatement.apply :
    AssistantStatement ν → AssistantStore ν → Except RequestError (AssistantStore ν)
  | .insertAssistant a, s => (orIntegrityError (s.tables.insertAssistant a)).map fun tables =>
    { s with tables, created := s.created ++ [a] }
  | .insertVersion userId v, s => (orIntegrityError (s.tables.insertVersion v)).map fun tables =>
    { s with tables, written := s.written ++ [(userId, v)] }
  | .updateAssistant userId v now, s =>
    (orIntegrityError (s.tables.updateAssistant v.assistantId userId v now)).map fun tables =>
      { s with tables }
  | .deleteAssistant userId assistantId, s => .ok
    { s with
      tables := s.tables.deleteAssistant assistantId
      deleted := s.deleted ++ [(userId, assistantId)] }
  | .insertDefaults graphs rows, s => (orIntegrityError (insertAll s.tables rows)).map fun tables =>
    { s with tables, created := s.created ++ rows, startups := s.startups ++ [graphs] }
  | .answer user a, s => .ok { s with answered := s.answered ++ [(user, a)] }

end

/-! ### The queries -/

/-- `_build_access_filter` -/
def buildAccessFilter (user : Caller) (includeSystem : Bool) (a : AssistantService.Assistant ν) :
    Bool :=
  a.userId = user.identity || user.orgId.any (a.orgId = some ·) ||
    includeSystem && a.userId = systemUser

/-- `AssistantSearchRequest`: the conditions, and the page that the database returns. -/
structure AssistantQuery (ν : Type) where
  holds : AssistantService.Assistant ν → Bool
  page : List (AssistantService.Assistant ν) → List (AssistantService.Assistant ν)
  page_subset : ∀ rows, page rows ⊆ rows

/-- The query of an endpoint for its assistant. -/
def lookUp (assistantId : Str) (condition : AssistantService.Assistant ν → Bool)
    (s : AssistantStore ν) : Except RequestError (AssistantService.Assistant ν) :=
  match (s.tables.assistants.find? assistantId).filter condition with
  | none => .error (.ofAssistant (notFound assistantId))
  | some a => .ok a

/-- Whether the user owns the assistant. -/
def isOwn (user : Caller) (a : AssistantService.Assistant ν) : Bool := a.userId = user.identity

/-- `session.refresh` -/
def refresh (assistantId : Str) (s : AssistantStore ν) :
    Except RequestError (AssistantService.Assistant ν) :=
  match s.tables.assistants.find? assistantId with
  | none => .error (.raised "InvalidRequestError")
  | some a => .ok a

/-- The row after it was written. -/
def reload (assistantId : Str) (user : Caller) (s : AssistantStore ν) :
    Except RequestError (AssistantService.Assistant ν) :=
  match (s.tables.assistants.find? assistantId).filter (isOwn user) with
  | none => .error (.ofAssistant (notReloaded assistantId))
  | some a => .ok a

/-- The version of a rollback. -/
def lookUpVersion (assistantId : Str) (version : ℤ) (s : AssistantStore ν) :
    Except RequestError (AssistantVersion ν) :=
  match s.tables.versions.find? (assistantId, version) with
  | none => .error (.ofAssistant (versionNotFound assistantId version))
  | some v => .ok v

/-- The history of an assistant, the latest version first. -/
def historyOf (assistantId : Str) (s : AssistantStore ν) :
    Except RequestError (List (AssistantVersion ν)) :=
  match (s.tables.versions.rows.filter (·.assistantId = assistantId)).insertionSort
    fun v w => w.version ≤ v.version with
  | [] => .error (.httpException 404
      ("No versions found for Assistant '".toList ++ assistantId ++ "'".toList))
  | v :: rest => .ok (v :: rest)

/-! ### The endpoints -/

section

variable [DecidableEq ν] (setting : Setting ν) (uuid5 : Str → Str)

/-- The response has the name of the assistant where the version has none, and an empty context
where it has none. -/
def shownVersion (a : AssistantService.Assistant ν) (v : AssistantVersion ν) : AssistantVersion ν :=
  { v with
    name := if v.name = [] then a.name else v.name
    context := some (v.context.getD setting.emptyObject) }

/-- What `_ensure_default_assistants` creates for a graph. -/
def defaultAssistant (now : ℕ) (graphId : Str) : AssistantService.Assistant ν where
  assistantId := uuid5 graphId
  name := graphId
  description := some ("Default assistant for graph '".toList ++ graphId ++ "'".toList)
  graphId
  config := setting.emptyObject
  context := some setting.emptyObject
  userId := systemUser
  orgId := none
  version := 1
  metadata := setting.emptyObject
  updatedAt := now

/-- A request, or the startup of a server. -/
inductive AssistantCall (ν : Type)
  /-- with the id that `uuid4` returns -/
  | createAssistant (user : Caller) (request : AssistantCreate ν) (uuid : Str) (now : ℕ)
  | listAssistants (user : Caller)
  | searchAssistants (user : Caller) (query : AssistantQuery ν)
  | countAssistants (user : Caller) (query : AssistantQuery ν)
  | getAssistant (user : Caller) (assistantId : Str)
  | updateAssistant (user : Caller) (assistantId : Str) (request : AssistantUpdate ν) (now : ℕ)
  | deleteAssistant (user : Caller) (assistantId : Str)
  | setAssistantLatest (user : Caller) (assistantId : Str) (version : ℤ) (now : ℕ)
  | listAssistantVersions (user : Caller) (assistantId : Str)
  /-- `get_assistant_schemas`, `get_assistant_graph` and `get_assistant_subgraphs` -/
  | getAssistantGraph (user : Caller) (assistantId : Str)
  /-- of a server with these graphs -/
  | startup (graphs : List Str) (now : ℕ)

namespace AssistantCall

open Program

abbrev AssistantProgram (ν : Type) := Program (AssistantStore ν) (AssistantStatement ν) RequestError

/-- The user whose request it is. -/
def user? : AssistantCall ν → Option Caller
  | .createAssistant user _ _ _ => some user
  | .listAssistants user => some user
  | .searchAssistants user _ => some user
  | .countAssistants user _ => some user
  | .getAssistant user _ => some user
  | .updateAssistant user _ _ _ => some user
  | .deleteAssistant user _ => some user
  | .setAssistantLatest user _ _ _ => some user
  | .listAssistantVersions user _ => some user
  | .getAssistantGraph user _ => some user
  | .startup _ _ => none

/-- The end of an endpoint. -/
def reply (user : Caller) (a : AssistantAnswer ν) : AssistantProgram ν :=
  .write (.answer user a) (.ended (.ok ()))

/-- The end of an endpoint that returns assistants. -/
def respond (user : Caller) (rows : List (AssistantService.Assistant ν)) : AssistantProgram ν :=
  match rows.mapM toPydantic with
  | .error e => .ended (.error (.ofAssistant e))
  | .ok rows => reply user (.assistants rows)

/-- `create_assistant`, after the checks -/
def addAssistant (user : Caller) (ifExists : Option Str) (a : AssistantService.Assistant ν) :
    AssistantProgram ν :=
  .select fun s =>
    match s.tables.existing? a with
    | some existing =>
      if ifExists = some doNothing then respond user [existing]
      else .ended (.error (.ofAssistant (alreadyExists a.assistantId)))
    | none =>
      .write (.insertAssistant a) <|
      .read (refresh a.assistantId) fun row =>
      .write (.insertVersion user.identity a.firstVersion) <|
      respond user [row]

/-- `update_assistant`, after the version is known -/
def writeVersion (user : Caller) (v : AssistantVersion ν) (now : ℕ) : AssistantProgram ν :=
  .write (.insertVersion user.identity v) <|
  .write (.updateAssistant user.identity v now) <|
  .read (reload v.assistantId user) fun a =>
  respond user [a]

/-- `_ensure_default_assistants`, with the rows that are to be inserted. A query finds these, too:
they have been flushed. -/
def ensureDefaultAssistants (graphs : List Str) (now : ℕ) :
    List Str → List (AssistantService.Assistant ν) → AssistantProgram ν
  | [], rows => .write (.insertDefaults graphs rows) (.ended (.ok ()))
  | graphId :: rest, rows => .select fun s =>
    if (s.tables.assistants.find? (uuid5 graphId)).isSome ||
        rows.any (·.assistantId = uuid5 graphId) then
      ensureDefaultAssistants graphs now rest rows
    else
      ensureDefaultAssistants graphs now rest (rows ++ [defaultAssistant setting uuid5 now graphId])

def program : AssistantCall ν → AssistantProgram ν
  | .createAssistant user request uuid now =>
    match newAssistant setting request user.identity user.orgId uuid now with
    | .error e => .ended (.error (.ofAssistant e))
    | .ok a => addAssistant user request.ifExists a
  | .listAssistants user =>
    .select fun s => respond user (s.tables.assistants.rows.filter (buildAccessFilter user false))
  | .searchAssistants user query =>
    .select fun s => respond user (query.page
      (s.tables.assistants.rows.filter fun a => buildAccessFilter user false a && query.holds a))
  | .countAssistants user query =>
    .select fun s => reply user (.count (s.tables.assistants.rows.countP fun a =>
      buildAccessFilter user false a && query.holds a))
  | .getAssistant user assistantId =>
    .read (lookUp assistantId (buildAccessFilter user true)) fun a => respond user [a]
  | .updateAssistant user assistantId request now =>
    match updatedContext setting request with
    | .error e => .ended (.error (.ofAssistant e))
    | .ok (config, context) =>
      .read (lookUp assistantId (isOwn user)) fun a =>
      .select fun s => writeVersion user
        (newVersion setting request config context a (s.tables.maxVersion assistantId)) now
  | .deleteAssistant user assistantId =>
    .read (lookUp assistantId (isOwn user)) fun _ =>
    .write (.deleteAssistant user.identity assistantId) <|
    reply user .deleted
  | .setAssistantLatest user assistantId version now =>
    .read (lookUp assistantId (isOwn user)) fun _ =>
    .read (lookUpVersion assistantId version) fun v =>
    .write (.updateAssistant user.identity v now) <|
    .read (reload assistantId user) fun a =>
    respond user [a]
  | .listAssistantVersions user assistantId =>
    .read (lookUp assistantId (buildAccessFilter user false)) fun a =>
    .read (historyOf assistantId) fun rows =>
    reply user (.versions assistantId (rows.map (shownVersion setting a)))
  | .getAssistantGraph user assistantId =>
    .read (lookUp assistantId (buildAccessFilter user true)) fun a => reply user (.graph a)
  | .startup graphs now => ensureDefaultAssistants setting uuid5 graphs now graphs []

end AssistantCall

end

end AssistantRequests

end OpenLangGraph
