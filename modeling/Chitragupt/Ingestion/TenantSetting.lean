import Chitragupt.Ingestion.Outcome
import Chitragupt.Lib.Machine
import Chitragupt.Lib.Settings

/-!
# The tenant of a statement

The repository sends its statements over pooled connections in autocommit mode, so each
call of `execute`, `executemany` or `fetch` is a transaction of its own.  The tenant that
`SET LOCAL` sets is gone before the next one starts, and no statement is ever executed
under a tenant.
-/

namespace Chitragupt

open Machines (Machine)

/-! ## The repository -/

inductive SqlVerb where
  | select
  | insert
  | update
  deriving DecidableEq

/-- The tables whose rows belong to a tenant. -/
inductive TenantTable where
  | documents
  | documentChunks
  | costLog
  deriving DecidableEq

structure SqlStatement where
  verb : SqlVerb
  table : TenantTable
  deriving DecidableEq

abbrev SqlCommand : Type := Settings.Command String String SqlStatement

/-- One call of `execute`, `executemany` or `fetch` in autocommit mode. -/
abbrev SqlTransaction : Type := List SqlCommand

inductive RepositoryMethod where
  | createDocument (row : DocumentRow)
  | updateDocumentStatus (documentId : Uuid) (status : DocumentStatus)
      (tokenCount : Option Nat) (errorMessage : Option String)
  | getByHash (fileHash : String) (projectId : Uuid)
  | insertChunks (chunks : List ChunkRow)
  | hybridSearch (queryEmbedding : Embedding) (bm25Tokens : List (Text × ExactFloat))
      (projectId : Uuid) (denseWeight sparseWeight : ExactFloat) (topK : Int)
  | logCost (sessionId : Uuid) (llmFeature modelId : String) (costUsd : ExactFloat)
      (budgetStage : String) (inputTokens outputTokens : Int)

/-- A call on behalf of a workspace. -/
structure RepositoryCall where
  workspaceId : Uuid
  method : RepositoryMethod

def tenantSetting : String := "app.tenant_id"

section Repository

variable [Runtime]

/-- `SET LOCAL app.tenant_id`. -/
def RepositoryCall.setTenant (call : RepositoryCall) : SqlCommand :=
  .setLocal tenantSetting (Runtime.hyphenated call.workspaceId)

/-- What a call sends, in order. -/
def RepositoryCall.transactions (call : RepositoryCall) : List SqlTransaction :=
  match call.method with
  | .createDocument _ => [[call.setTenant], [.statement ⟨.insert, .documents⟩]]
  | .updateDocumentStatus _ _ _ _ => [[.statement ⟨.update, .documents⟩]]
  | .getByHash _ _ => [[.statement ⟨.select, .documents⟩]]
  | .insertChunks [] => []
  | .insertChunks chunks =>
      [[call.setTenant], chunks.map fun _ => .statement ⟨.insert, .documentChunks⟩]
  | .hybridSearch _ _ _ _ _ _ => [[call.setTenant], [.statement ⟨.select, .documentChunks⟩]]
  | .logCost _ _ _ _ _ _ _ => [[.statement ⟨.insert, .costLog⟩]]

/-- A statement as it was executed: for which call, and under which tenant. -/
structure Execution where
  call : RepositoryCall
  statement : SqlStatement
  tenant : Option String

/-- The statement was executed under the tenant of its caller. -/
def Execution.UnderCaller (execution : Execution) : Prop :=
  execution.tenant = some (Runtime.hyphenated execution.call.workspaceId)

omit [Runtime] in
/-- One transaction of a call on a connection with these settings. -/
def RepositoryCall.execute (call : RepositoryCall) (settings : String → Option String)
    (transaction : SqlTransaction) : List Execution :=
  (Settings.observed settings transaction).map fun (statement, settings) =>
    { call, statement, tenant := settings tenantSetting }

end Repository

/-! ## The pool -/

/-- The settings that `init_pool` asks for. -/
def serverSettings : List (String × String) := [("application_name", "chitragupt-orchestration")]

structure Connection where
  settings : String → Option String
  running : Option (RepositoryCall × List SqlTransaction)

/-- A connection as the pool opens it and as `RESET ALL` leaves it. -/
def Connection.idle : Connection where
  settings name := serverSettings.lookup name
  running := none

/-- A pool of at least one connection. -/
abbrev Pool (spare : Nat) : Type := Fin (spare + 1) → Connection

def Pool.initial (spare : Nat) : Pool spare := fun _ => .idle

/-- A call gets a connection, sends its next transaction, or gives the connection back,
which it also does when it is interrupted. -/
inductive PoolEvent (spare : Nat) where
  | acquire (connection : Fin (spare + 1)) (call : RepositoryCall)
  | execute (connection : Fin (spare + 1))
  | release (connection : Fin (spare + 1))

/-- The call that an event starts. -/
def PoolEvent.call {spare : Nat} : PoolEvent spare → Option RepositoryCall
  | .acquire _ call => some call
  | .execute _ => none
  | .release _ => none

section Pool

variable [Runtime]

def poolMachine (spare : Nat) : Machine (Pool spare) (PoolEvent spare) (List Execution) where
  step pool
    | .acquire connection call =>
        match (pool connection).running with
        | none =>
            (Function.update pool connection
              { pool connection with running := some (call, call.transactions) }, [])
        | some _ => (pool, [])
    | .execute connection =>
        match (pool connection).running with
        | some (call, transaction :: rest) =>
            (Function.update pool connection
              { pool connection with running := some (call, rest) },
              call.execute (pool connection).settings transaction)
        | some (_, []) => (pool, [])
        | none => (pool, [])
    | .release connection => (Function.update pool connection .idle, [])

/-- The statements that are executed in a run, in order. -/
def executions {spare : Nat} (pool : Pool spare) (events : List (PoolEvent spare)) :
    List Execution :=
  ((poolMachine spare).trace pool events).flatMap (·.output)

/-- Every statement of these calls is executed under the tenant of its caller, over a pool of
this size and in whatever order the calls take turns. -/
def TenantSafe (spare : Nat) (calls : List RepositoryCall) : Prop :=
  ∀ events, events.filterMap PoolEvent.call = calls →
    ∀ execution ∈ executions (.initial spare) events, execution.UnderCaller

/-! ## What a statement is executed under -/

section Tenant

variable {call : RepositoryCall} {settings : String → Option String}

/-- No transaction of a call has both a setting and a statement. -/
theorem tenant_of_execute {transaction : SqlTransaction}
    (sent : transaction ∈ call.transactions) :
    ∀ execution ∈ call.execute settings transaction,
      execution.call = call ∧ execution.tenant = settings tenantSetting := by
  have observed : ∀ entry ∈ Settings.observed settings transaction,
      entry.2 tenantSetting = settings tenantSetting := by
    by_cases setting : transaction = [call.setTenant]
    · subst setting
      exact List.forall_mem_nil _
    · apply Settings.eq_of_mem_observed
      intro value set
      rcases call with ⟨workspaceId, method⟩
      cases method with
      | createDocument | hybridSearch =>
          rcases List.mem_pair.mp sent with rfl | rfl
          · exact setting rfl
          · cases List.mem_singleton.mp set
      | updateDocumentStatus | getByHash | logCost =>
          rcases List.mem_singleton.mp sent with rfl
          cases List.mem_singleton.mp set
      | insertChunks chunks =>
          cases chunks with
          | nil => cases sent
          | cons chunk chunks =>
              rcases List.mem_pair.mp sent with rfl | rfl
              · exact setting rfl
              · rcases List.mem_map.mp set with ⟨row, _, same⟩
                cases same
  intro execution member
  rcases List.mem_map.mp member with ⟨entry, there, rfl⟩
  exact ⟨rfl, observed entry there⟩

omit [Runtime] in
/-- The pool opens its connections without a tenant. -/
theorem tenant_idle : Connection.idle.settings tenantSetting = none := by decide

end Tenant

/-! ## Runs of the pool -/

section Runs

variable {spare : Nat} {calls : List RepositoryCall} {pool : Pool spare}

/-- Every connection has the settings it was opened with, and what it has left to send comes
from one of the calls. -/
structure Serving (calls : List RepositoryCall) (pool : Pool spare) : Prop where
  settings : ∀ connection, (pool connection).settings = Connection.idle.settings
  running : ∀ connection call rest, (pool connection).running = some (call, rest) →
    call ∈ calls ∧ rest ⊆ call.transactions

theorem serving_initial : Serving calls (.initial spare) where
  settings _ := rfl
  running := nofun

theorem serving_update (serving : Serving calls pool) (changed : Fin (spare + 1))
    {running : Option (RepositoryCall × List SqlTransaction)}
    (from_calls : ∀ call rest, running = some (call, rest) →
      call ∈ calls ∧ rest ⊆ call.transactions) :
    Serving calls
      (Function.update pool changed { settings := Connection.idle.settings, running }) := by
  constructor
  · intro connection
    by_cases same : connection = changed
    · rw [same, Function.update_self]
    · rw [Function.update_of_ne same]
      exact serving.settings connection
  · intro connection call rest found
    by_cases same : connection = changed
    · rw [same, Function.update_self] at found
      exact from_calls call rest found
    · rw [Function.update_of_ne same] at found
      exact serving.running connection call rest found

/-- What one event executes comes from one of the calls and has no tenant. -/
theorem executed_of_serving (serving : Serving calls pool) (event : PoolEvent spare) :
    ∀ execution ∈ (poolMachine spare).reply pool event,
      execution.call ∈ calls ∧ execution.call.transactions ≠ [] ∧ execution.tenant = none := by
  intro execution member
  cases event with
  | acquire connection call =>
      rw [Machine.reply, poolMachine] at member
      dsimp only at member
      split at member <;> cases member
  | release connection => cases member
  | execute connection =>
      rw [Machine.reply, poolMachine] at member
      dsimp only at member
      cases found : (pool connection).running with
      | none =>
          rw [found] at member
          cases member
      | some running =>
          rcases running with ⟨call, rest⟩
          rw [found] at member
          cases rest with
          | nil => cases member
          | cons transaction rest =>
              rcases serving.running connection call _ found with ⟨listed, sent⟩
              have first := sent List.mem_cons_self
              rcases tenant_of_execute first execution member with ⟨rfl, tenant⟩
              refine ⟨listed, List.ne_nil_of_mem first, ?_⟩
              rw [tenant, serving.settings, tenant_idle]

theorem stable_serving (calls : List RepositoryCall) :
    (poolMachine spare).Stable (fun _ event => ∀ call, event.call = some call → call ∈ calls)
      (Serving calls) := by
  intro pool event started serving
  cases event with
  | acquire connection call =>
      rw [Machine.next, poolMachine]
      dsimp only
      split
      · rw [serving.settings connection]
        apply serving_update serving
        intro other rest same
        cases same
        exact ⟨started call rfl, List.Subset.refl _⟩
      · exact serving
  | release connection => exact serving_update serving connection nofun
  | execute connection =>
      rw [Machine.next, poolMachine]
      dsimp only
      cases found : (pool connection).running with
      | none => exact serving
      | some running =>
          rcases running with ⟨call, rest⟩
          cases rest with
          | nil => exact serving
          | cons transaction rest =>
              dsimp only
              rw [serving.settings connection]
              apply serving_update serving
              intro other left same
              cases same
              rcases serving.running connection call _ found with ⟨listed, sent⟩
              exact ⟨listed, List.Subset.trans (List.subset_cons_self _ _) sent⟩

/-- In every run no statement is executed under a tenant, and each belongs to one of the
calls that were started. -/
theorem executed_of_run (events : List (PoolEvent spare)) :
    ∀ execution ∈ executions (.initial spare) events,
      execution.call ∈ events.filterMap PoolEvent.call ∧
        execution.call.transactions ≠ [] ∧ execution.tenant = none := by
  intro execution member
  rcases List.mem_flatMap.mp member with ⟨happened, traced, output⟩
  have guarded : (poolMachine spare).Meets
      (fun _ event => ∀ call, event.call = some call → call ∈ events.filterMap PoolEvent.call)
      (.initial spare) events := by
    apply Machine.meets_of_forall
    intro event listed call same
    exact List.mem_filterMap.mpr ⟨event, listed, same⟩
  have serving := ((stable_serving _).around guarded serving_initial happened traced).1
  rcases (poolMachine spare).mem_trace.mp traced with ⟨earlier, input, later, _, rfl⟩
  exact executed_of_serving serving input execution output

/-! ## Calls one after the other -/

theorem executions_cons (event : PoolEvent spare) (events : List (PoolEvent spare)) :
    executions pool (event :: events) = (poolMachine spare).reply pool event ++
      executions ((poolMachine spare).next pool event) events := rfl

theorem executions_append (earlier later : List (PoolEvent spare)) :
    executions pool (earlier ++ later) =
      executions pool earlier ++ executions ((poolMachine spare).run pool earlier) later := by
  rw [executions, Machine.trace_append, List.flatMap_append]
  rfl

/-- A call alone on its connection, from start to end. -/
def PoolEvent.whole (connection : Fin (spare + 1)) (call : RepositoryCall) :
    List (PoolEvent spare) :=
  .acquire connection call ::
    (List.replicate call.transactions.length (.execute connection) ++ [.release connection])

/-- All that a call executes on a fresh connection. -/
def RepositoryCall.executions (call : RepositoryCall) : List Execution :=
  call.transactions.flatMap (call.execute Connection.idle.settings)

/-- A call that is served sends all that it has left. -/
theorem run_executes (connection : Fin (spare + 1)) (call : RepositoryCall)
    (rest : List SqlTransaction) {settings : String → Option String}
    (running : pool connection = { settings, running := some (call, rest) }) :
    (poolMachine spare).run pool (List.replicate rest.length (.execute connection)) =
        Function.update pool connection { settings, running := some (call, []) } ∧
      executions pool (List.replicate rest.length (.execute connection)) =
        rest.flatMap (call.execute settings) := by
  induction rest generalizing pool with
  | nil =>
      refine ⟨?_, rfl⟩
      rw [← running, Function.update_eq_self]
      rfl
  | cons transaction rest ih =>
      have sent : (poolMachine spare).step pool (.execute connection) =
          (Function.update pool connection { settings, running := some (call, rest) },
            call.execute settings transaction) := by
        simp only [poolMachine, running]
      rw [List.length_cons, List.replicate_succ, Machine.run_cons, executions_cons, Machine.next,
        Machine.reply, sent]
      rcases ih (Function.update_self connection _ pool) with ⟨ran, executed⟩
      rw [ran, executed, Function.update_idem, List.flatMap_cons]
      exact ⟨rfl, rfl⟩

/-- A whole call leaves the pool as it found it. -/
theorem run_whole (connection : Fin (spare + 1)) (call : RepositoryCall)
    (idle : pool connection = .idle) :
    (poolMachine spare).run pool (PoolEvent.whole connection call) = pool ∧
      executions pool (PoolEvent.whole connection call) = call.executions := by
  have acquired : (poolMachine spare).step pool (.acquire connection call) =
      (Function.update pool connection
        { settings := Connection.idle.settings
          running := some (call, call.transactions) }, []) := by
    simp only [poolMachine, idle]
    rfl
  rw [PoolEvent.whole, Machine.run_cons, executions_cons, Machine.next, Machine.reply, acquired,
    Machine.run_append, executions_append]
  rcases run_executes connection call call.transactions (Function.update_self connection _ pool)
    with ⟨ran, executed⟩
  rw [ran, executed, Function.update_idem]
  constructor
  · change Function.update (Function.update pool connection _) connection Connection.idle = pool
    rw [Function.update_idem, ← idle, Function.update_eq_self]
  · exact List.append_nil _

/-- Whole calls in sequence execute what each of them executes. -/
theorem executions_wholes (connection : Fin (spare + 1)) (calls : List RepositoryCall)
    (idle : pool connection = .idle) :
    executions pool (calls.flatMap (PoolEvent.whole connection)) =
      calls.flatMap RepositoryCall.executions := by
  induction calls with
  | nil => rfl
  | cons call calls ih =>
      rcases run_whole connection call idle with ⟨ran, executed⟩
      rw [List.flatMap_cons, executions_append, ran, executed, ih, List.flatMap_cons]

theorem calls_wholes (connection : Fin (spare + 1)) (calls : List RepositoryCall) :
    (calls.flatMap (PoolEvent.whole connection)).filterMap PoolEvent.call = calls := by
  induction calls with
  | nil => rfl
  | cons call calls ih =>
      have executes : (List.replicate call.transactions.length
          (PoolEvent.execute connection)).filterMap PoolEvent.call = [] := by
        apply List.filterMap_eq_nil_iff.mpr
        intro event member
        rw [List.eq_of_mem_replicate member]
        rfl
      rw [List.flatMap_cons, List.filterMap_append, ih, PoolEvent.whole, List.filterMap_cons,
        List.filterMap_append, executes]
      rfl

/-- A call that sends something executes a statement. -/
theorem executions_ne_nil {call : RepositoryCall} (sends : call.transactions ≠ []) :
    call.executions ≠ [] := by
  rcases call with ⟨workspaceId, method⟩
  cases method with
  | insertChunks chunks =>
      cases chunks with
      | nil => exact absurd rfl sends
      | cons chunk chunks => exact List.cons_ne_nil _ _
  | createDocument | updateDocumentStatus | getByHash | hybridSearch | logCost =>
      exact List.cons_ne_nil _ _

/-- Only the insertion of no chunks sends nothing. -/
theorem transactions_eq_nil {call : RepositoryCall} :
    call.transactions = [] ↔ call.method = .insertChunks [] := by
  rcases call with ⟨workspaceId, method⟩
  cases method with
  | insertChunks chunks => cases chunks <;> simp [RepositoryCall.transactions]
  | createDocument | updateDocumentStatus | getByHash | hybridSearch | logCost =>
      simp [RepositoryCall.transactions]

end Runs

/-- Calls are executed under their tenants exactly when none of them executes anything: each
inserts an empty list of chunks. -/
theorem tenantSafe_iff (spare : Nat) (calls : List RepositoryCall) :
    TenantSafe spare calls ↔ ∀ call ∈ calls, call.method = .insertChunks [] := by
  constructor
  · intro safe call listed
    apply transactions_eq_nil.mp
    by_contra sends
    rcases List.exists_mem_of_ne_nil _ (executions_ne_nil sends) with ⟨execution, executed⟩
    -- The calls one after the other on the first connection.
    let events := calls.flatMap (PoolEvent.whole (0 : Fin (spare + 1)))
    have happens : execution ∈ executions (.initial spare) events := by
      rw [executions_wholes 0 calls rfl]
      exact List.mem_flatMap.mpr ⟨call, listed, executed⟩
    have own : execution.tenant = some _ := safe events (calls_wholes 0 calls) execution happens
    rw [(executed_of_run events execution happens).2.2] at own
    cases own
  · intro empty events started execution happens
    rcases executed_of_run events execution happens with ⟨listed, sends, _⟩
    rw [started] at listed
    exact absurd (transactions_eq_nil.mpr (empty execution.call listed)) sends

end Pool

/-! ### One document -/

section Sample

attribute [local instance] referenceRuntime

def sampleCall : RepositoryCall where
  workspaceId := sampleDocument.workspaceId
  method := .createDocument sampleDocument

/-- The tenant that `create_document` sets is gone when its document is inserted. -/
theorem not_tenantSafe_of_sampleCall : ¬∀ spare calls, TenantSafe spare calls := by
  intro all
  have safe := all 0 [sampleCall] [.acquire 0 sampleCall, .execute 0, .execute 0] rfl
  have executed : executions (.initial 0) [.acquire 0 sampleCall, .execute 0, .execute 0] =
      [{ call := sampleCall, statement := ⟨.insert, .documents⟩, tenant := none }] := rfl
  rw [executed] at safe
  have own := safe _ (List.mem_singleton_self _)
  cases own

end Sample

end Chitragupt
