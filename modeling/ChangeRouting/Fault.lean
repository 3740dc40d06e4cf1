/-!
# ChangeRouting.Fault

Everything that can go wrong, each fault named for its cause.

* `Fault.kind` sorts causes into the kinds an operator is told about; the kind decides whether the
  next cycle may succeed (`isRetryable`) and whether the configuration is to blame
  (`isMisconfiguration`).
* `Fault.detail` is the text of the cause, `Fault.message` the whole line an operator reads.

Collaborators outside this library, such as script engines, report their own texts; each kind they
can use has a constructor that carries one.
-/

namespace ChangeRouting

/-- What an operator is told about a fault before its details. -/
inductive FaultKind
  /-- The configuration was read and is not acceptable. -/
  | configuration
  /-- The configuration text could not be read. -/
  | document
  /-- The visibility platform failed. -/
  | database
  /-- The routing store failed. -/
  | store
  /-- A payload is not a list of nullable texts. -/
  | payload
  /-- A router expression is not acceptable. -/
  | expression
  /-- A router failed on a change. -/
  | router
  /-- A script failed on a change. -/
  | script
  /-- The reader delivered nothing in time. -/
  | stalled
  /-- The reader failed. -/
  | reader
  /-- A file could not be read or written. -/
  | file
  /-- An assumption of this library does not hold. -/
  | internal
  deriving DecidableEq, Repr

/-- Why a statement against the store failed. -/
inductive StatementFault
  /-- The table is not in the store. -/
  | noSuchTable (table : String)
  /-- The table has no such column. -/
  | noSuchColumn (name : String)
  /-- The text of the statement is not acceptable. -/
  | malformed (near : String)
  /-- A row with this key is already in the table. -/
  | duplicateKey (table : String)
  /-- A column holds a value that cannot be read as what the column stands for. -/
  | unreadable (column : String) (value : String)
  /-- The table has used up its ids. -/
  | idsExhausted (table : String)
  deriving DecidableEq, Repr

/-- The text of a failed statement. -/
def StatementFault.text : StatementFault → String
  | noSuchTable table => s!"no such table: {table}"
  | noSuchColumn name => s!"no such column: {name}"
  | malformed near => s!"malformed statement near '{near}'"
  | duplicateKey table => s!"duplicate key in {table}"
  | unreadable column value => s!"unreadable value '{value}' in {column}"
  | idsExhausted table => s!"{table} has no ids left"

/-- What went wrong. -/
inductive Fault
  /-- A configuration is refused for a reason a collaborator gives. -/
  | configurationReport (text : String)
  | emptyNodeId
  | emptyGroupId
  | emptyStorePath
  | missingPlatformHost
  | zeroWindow
  | emptyChannelId
  | duplicateChannel (channel : String)
  | zeroBatchSize (channel : String)
  | zeroChannelWindow (channel : String)
  | emptyRouterId
  | duplicateRouter (router : String)
  | unknownChannel (trigger channel : String)
  | unknownRouter (trigger router : String)
  | unknownRouterType (router type : String)
  | subselectWithoutExpression (router : String)
  | scriptRouterWithoutScript (router : String)
  /-- A router's expression was refused when the router was set up. -/
  | rejectedRouter (router : String) (cause : Fault)
  /-- The configuration text is not a document, or not of the expected shape. -/
  | document (text : String)
  | database (text : String)
  | unknownEventCode (code : String)
  | unknownGapStatus (code : String)
  | unknownBatchStatus (code : String)
  | statement (cause : StatementFault)
  /-- A store fails for a reason a collaborator gives. -/
  | storeReport (text : String)
  | payload (text : String)
  | columnWithoutOperator (line : String)
  | columnWithoutName (line : String)
  | emptyColumnExpression
  | lookupWithoutEquals (line : String)
  | lookupSettingMissing (setting : String)
  | lookupSettingInvalid (setting value : String)
  /-- An expression is refused for a reason a collaborator gives. -/
  | expressionReport (text : String)
  | router (router reason : String)
  | script (text : String)
  | stalled (channel : String) (waited : Nat)
  | reader (text : String)
  | file (text : String)
  /-- A setting is greater than what can be worked with. -/
  | excessiveSetting (setting : String)
  | internal (text : String)
  deriving DecidableEq, Repr

namespace Fault

/-- The kind of a fault. -/
def kind : Fault → FaultKind
  | configurationReport _ | emptyNodeId | emptyGroupId | emptyStorePath | missingPlatformHost
  | zeroWindow | emptyChannelId | duplicateChannel _ | zeroBatchSize _ | zeroChannelWindow _
  | emptyRouterId | duplicateRouter _ | unknownChannel .. | unknownRouter .. | unknownRouterType ..
  | subselectWithoutExpression _ | scriptRouterWithoutScript _ | rejectedRouter .. => .configuration
  | document _ => .document
  | database _ => .database
  | unknownEventCode _ | unknownGapStatus _ | unknownBatchStatus _ | statement _
  | storeReport _ => .store
  | payload _ => .payload
  | columnWithoutOperator _ | columnWithoutName _ | emptyColumnExpression | lookupWithoutEquals _
  | lookupSettingMissing _ | lookupSettingInvalid .. | expressionReport _ => .expression
  | router .. => .router
  | script _ => .script
  | stalled .. => .stalled
  | reader _ => .reader
  | file _ => .file
  | excessiveSetting _ | internal _ => .internal

end Fault

/-- The words that stand before the detail of a fault of this kind. -/
def FaultKind.lead : FaultKind → String
  | configuration => "Configuration error: "
  | document => "Invalid configuration file: "
  | database => "Database error: "
  | store => "Store error: "
  | payload => "Serialization error: "
  | expression => "Invalid router expression: "
  | router => "Router "
  | script => "Script evaluation failed: "
  | stalled => "Reader for channel "
  | reader => "Reader error: "
  | file => "I/O error: "
  | internal => "Internal error: "

namespace Fault

/-- The text of the cause.  A refused router quotes the whole message of what refused it. -/
def detail : Fault → String
  | configurationReport text | document text | database text | storeReport text | payload text
  | expressionReport text | script text | reader text | file text | internal text => text
  | emptyNodeId => "node.id cannot be empty"
  | emptyGroupId => "node.group_id cannot be empty"
  | emptyStorePath => "database.path cannot be empty"
  | missingPlatformHost => "platform.host is required for the mariadb platform"
  | zeroWindow => "routing.peek_ahead_window must be > 0"
  | emptyChannelId => "channel id cannot be empty"
  | duplicateChannel channel => s!"duplicate channel '{channel}'"
  | zeroBatchSize channel => s!"channel '{channel}': max_batch_size must be > 0"
  | zeroChannelWindow channel => s!"channel '{channel}': peek_ahead_window must be > 0"
  | emptyRouterId => "router id cannot be empty"
  | duplicateRouter id => s!"duplicate router '{id}'"
  | unknownChannel trigger channel => s!"trigger '{trigger}' references unknown channel '{channel}'"
  | unknownRouter trigger id => s!"trigger '{trigger}' references unknown router '{id}'"
  | unknownRouterType id type => s!"Router '{id}' has unknown type '{type}'"
  | subselectWithoutExpression id => s!"Router '{id}': subselect router needs an expression"
  | scriptRouterWithoutScript id => s!"Router '{id}': script router needs a script"
  | rejectedRouter id cause => s!"Router '{id}': " ++ cause.kind.lead ++ cause.detail
  | unknownEventCode code => s!"Unknown event type code '{code}'"
  | unknownGapStatus code => s!"Unknown gap status '{code}'"
  | unknownBatchStatus code => s!"Unknown batch status '{code}'"
  | statement cause => cause.text
  | columnWithoutOperator line => s!"column match expression '{line}' has no '=' or '!='"
  | columnWithoutName line => s!"column match expression '{line}' has no column"
  | emptyColumnExpression => "column match router has an empty expression"
  | lookupWithoutEquals line => s!"lookup table setting '{line}' has no '='"
  | lookupSettingMissing setting => s!"lookup table router needs {setting}"
  | lookupSettingInvalid setting value => s!"{setting} '{value}' is not a valid identifier"
  | router id reason => s!"{id} failed: {reason}"
  | excessiveSetting setting => s!"{setting} is too large"
  | stalled channel waited => s!"{channel} stalled: no data within {waited} ms"

/-- The whole line an operator reads. -/
def message (fault : Fault) : String := fault.kind.lead ++ fault.detail

/-- Whether the same work may succeed on the next cycle. -/
def isRetryable (fault : Fault) : Bool :=
  match fault.kind with
  | .database | .store | .reader | .stalled | .file => true
  | _ => false

/-- Whether the configuration is to blame. -/
def isMisconfiguration (fault : Fault) : Bool :=
  match fault.kind with
  | .configuration | .document | .expression => true
  | _ => false

end Fault

end ChangeRouting
