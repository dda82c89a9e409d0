import CedraIndexer.HashMap

/-!
# The persisted store and the connection to it

Three extractors look up, in the current-state tables, context that an earlier batch wrote: the
creator of a collection table, the delegation pool of a vote-delegation table and of an inactive
share table, and whether a delegated voter already exists. Each lookup is one `SELECT ... LIMIT 1`
(`Statement`), answered with a row or an error.

A connection is modelled by what it will answer: `reply i s` is the database's reply to the
`i`-th statement issued on it, so a connection can fail transiently at any attempt, and the table
may change between attempts, as another batch's writer commits. `Conn.ofDatabase` is the
connection to a fixed store whose faults are given. Every statement, and every sleep between
retries, is recorded in `trace`.
-/

namespace CedraIndexer

/-- `CurrentCollectionDataQuery`: a `current_collection_datas` row as read back. -/
structure CurrentCollectionDataQuery where
  collectionDataIdHash : String
  creatorAddress : String
  collectionName : String
  description : String
  metadataUri : String
  supply : BigDecimal
  maximum : BigDecimal
  maximumMutable : Bool
  uriMutable : Bool
  descriptionMutable : Bool
  lastTransactionVersion : Int
  insertedAt : NaiveDateTime
  tableHandle : String
  lastTransactionTimestamp : NaiveDateTime
  deriving DecidableEq, Repr

/-- `CurrentDelegatedVoterQuery`: a `current_delegated_voter` row as read back. -/
structure CurrentDelegatedVoterQuery where
  delegationPoolAddress : String
  delegatorAddress : String
  tableHandle : Option String
  voter : Option String
  pendingVoter : Option String
  lastTransactionVersion : Int
  lastTransactionTimestamp : NaiveDateTime
  insertedAt : NaiveDateTime
  deriving DecidableEq, Repr

/-- `CurrentDelegatorBalanceQuery`: a `current_delegator_balances` row as read back. -/
structure CurrentDelegatorBalanceQuery where
  delegatorAddress : String
  poolAddress : String
  poolType : String
  tableHandle : String
  lastTransactionVersion : Int
  insertedAt : NaiveDateTime
  shares : BigDecimal
  parentTableHandle : String
  deriving DecidableEq, Repr

/-- The four lookups the extractors issue against the current-state tables. -/
inductive Statement where
  /-- `CurrentCollectionDataQuery::get_by_table_handle`. -/
  | collectionDataByTableHandle (tableHandle : String)
  /-- `CurrentDelegatedVoterQuery::get_by_table_handle`. -/
  | delegatedVoterByTableHandle (tableHandle : String)
  /-- `CurrentDelegatedVoterQuery::get_by_pk`. -/
  | delegatedVoterByPk (delegatorAddress delegationPoolAddress : String)
  /-- `CurrentDelegatorBalanceQuery::get_by_inactive_share_handle`. -/
  | delegatorBalanceByInactiveShareHandle (tableHandle : String)
  deriving DecidableEq, Repr

/-- The row type a statement returns. -/
def Statement.Row : Statement → Type
  | .collectionDataByTableHandle _ => CurrentCollectionDataQuery
  | .delegatedVoterByTableHandle _ => CurrentDelegatedVoterQuery
  | .delegatedVoterByPk _ _ => CurrentDelegatedVoterQuery
  | .delegatorBalanceByInactiveShareHandle _ => CurrentDelegatorBalanceQuery

/-- `diesel::result::Error`, as far as the callers tell errors apart: they do not. -/
inductive QueryError where
  | notFound
  | transient
  deriving DecidableEq, Repr

/-- What a lookup does that can be observed outside it. -/
inductive Effect where
  | query (s : Statement)
  | sleep (ms : UInt64)
  deriving DecidableEq, Repr

/-- A database connection, by the replies it will give and what was done on it so far. -/
structure Conn where
  reply : Nat → (s : Statement) → Except QueryError s.Row
  issued : Nat
  trace : List Effect

namespace Conn

/-- `.first::<Self>(conn).await`: the next reply, recorded as issued. -/
def first (conn : Conn) (s : Statement) : Except QueryError s.Row × Conn :=
  (conn.reply conn.issued s,
    { conn with issued := conn.issued + 1, trace := conn.trace ++ [.query s] })

/-- `tokio::time::sleep(Duration::from_millis(ms)).await`. -/
def sleep (conn : Conn) (ms : UInt64) : Conn := { conn with trace := conn.trace ++ [.sleep ms] }

@[simp] theorem first_fst (conn : Conn) (s : Statement) :
    (conn.first s).1 = conn.reply conn.issued s := rfl

@[simp] theorem first_reply (conn : Conn) (s : Statement) :
    (conn.first s).2.reply = conn.reply := rfl

@[simp] theorem first_issued (conn : Conn) (s : Statement) :
    (conn.first s).2.issued = conn.issued + 1 := rfl

@[simp] theorem first_trace (conn : Conn) (s : Statement) :
    (conn.first s).2.trace = conn.trace ++ [.query s] := rfl

@[simp] theorem sleep_reply (conn : Conn) (ms : UInt64) : (conn.sleep ms).reply = conn.reply := rfl

@[simp] theorem sleep_issued (conn : Conn) (ms : UInt64) :
    (conn.sleep ms).issued = conn.issued := rfl

@[simp] theorem sleep_trace (conn : Conn) (ms : UInt64) :
    (conn.sleep ms).trace = conn.trace ++ [.sleep ms] := rfl

/-- The replies still to come: `upcoming s j` answers the `j`-th next statement. -/
def upcoming (conn : Conn) (s : Statement) (j : Nat) : Except QueryError s.Row :=
  conn.reply (conn.issued + j) s

end Conn

/-- The persisted current-state tables, each keyed by its primary key. -/
structure Database where
  currentCollectionDatas : AHashMap String CurrentCollectionDataQuery
  currentDelegatedVoter : AHashMap (String × String) CurrentDelegatedVoterQuery
  currentDelegatorBalances : AHashMap (String × String × String) CurrentDelegatorBalanceQuery

/-- The store before any batch. -/
def Database.empty : Database := ⟨.empty, .empty, .empty⟩

/-- `first` on a healthy database: the first row passing the statement's filter. -/
def Database.first (db : Database) : (s : Statement) → Except QueryError s.Row
  | .collectionDataByTableHandle h =>
    match db.currentCollectionDatas.values.find? (·.tableHandle = h) with
    | some row => .ok row
    | none => .error .notFound
  | .delegatedVoterByTableHandle h =>
    match db.currentDelegatedVoter.values.find? (·.tableHandle = some h) with
    | some row => .ok row
    | none => .error .notFound
  | .delegatedVoterByPk d p =>
    match db.currentDelegatedVoter.values.find?
        (fun row => row.delegatorAddress = d ∧ row.delegationPoolAddress = p) with
    | some row => .ok row
    | none => .error .notFound
  | .delegatorBalanceByInactiveShareHandle h =>
    match db.currentDelegatorBalances.values.find? (·.parentTableHandle = h) with
    | some row => .ok row
    | none => .error .notFound

/-- A fresh connection to `db` that fails transiently exactly at the attempts in `faults`. -/
def Conn.ofDatabase (db : Database) (faults : Nat → Bool) : Conn where
  reply i s := if faults i then .error .transient else db.first s
  issued := 0
  trace := []

end CedraIndexer
