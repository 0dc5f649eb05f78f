import Collector.Text.Quoted
import Collector.Text.Decimal

/-!
# What can go wrong

One type of causes for each layer of the collector, from data that `harvest-model` cannot
use up to a `harvest-service` that will not start, each with the one function that words
it, and one that names its kind: a cause inside another one adds its own kind after a dot.
-/

namespace Collector

/-! ## Data -/

/-- Why settings, a record or a stored blob cannot be used. -/
inductive DataError where
  /-- A setting that must be there is missing. -/
  | missingKey (key : String)
  /-- A setting that must be there is blank. -/
  | emptyKey (key : String)
  /-- A setting has a value of the wrong form. -/
  | invalidValue (key reason : String)
  /-- A source record lacks a string field. -/
  | missingField (name : String)
  /-- A source record is not an object. -/
  | notAnObject
  /-- A blob is not the JSON text it should be. -/
  | undecodable
  deriving DecidableEq, Repr

/-- The wording of a `DataError`. -/
def DataError.message : DataError → String
  | missingKey key => "required key is missing: " ++ key
  | emptyKey key => "required key is empty: " ++ key
  | invalidValue key reason => "invalid value for " ++ key ++ ": " ++ reason
  | missingField name => "record is missing field: " ++ name
  | notAnObject => "record is not an object"
  | undecodable => "decode failed"

/-- The name of the kind of a `DataError`. -/
def DataError.kind : DataError → String
  | missingKey _ => "MissingKey"
  | emptyKey _ => "EmptyKey"
  | invalidValue _ _ => "InvalidValue"
  | missingField _ => "MissingField"
  | notAnObject => "NotAnObject"
  | undecodable => "Decode"

/-! ## External clients -/

/-- Why a broker, a coordination service, a checkpoint store or a writer
refused. -/
inductive ClientError where
  /-- The client was closed before. -/
  | closed
  /-- No connection could be made. -/
  | connect (reason : String)
  /-- The request was made and failed. -/
  | request (reason : String)
  /-- The thing asked for does not exist. -/
  | notFound (what : String)
  /-- The thing to be created exists. -/
  | alreadyExists (what : String)
  deriving DecidableEq, Repr

/-- The wording of a `ClientError`. -/
def ClientError.message : ClientError → String
  | closed => "client is closed"
  | connect reason => "failed to connect: " ++ reason
  | request reason => "request failed: " ++ reason
  | notFound what => "not found: " ++ what
  | alreadyExists what => "already exists: " ++ what

/-- The name of the kind of a `ClientError`. -/
def ClientError.kind : ClientError → String
  | closed => "Closed"
  | connect _ => "Connect"
  | request _ => "Request"
  | notFound _ => "NotFound"
  | alreadyExists _ => "AlreadyExists"

/-! ## Collection -/

/-- Why a cursor cannot be moved on. -/
inductive CursorError where
  /-- The timestamp is not of the template's form. -/
  | unreadable (timestamp : String)
  /-- The timestamp is the last one there is. -/
  | overflow (timestamp : String)
  deriving DecidableEq, Repr

/-- The wording of a `CursorError`. -/
def CursorError.message : CursorError → String
  | unreadable timestamp => "failed to parse timestamp " ++ Text.quoted timestamp
  | overflow timestamp => "timestamp " ++ Text.quoted timestamp ++ " cannot be advanced"

/-- The name of the kind of a `CursorError`. -/
def CursorError.kind : CursorError → String
  | unreadable _ => "Parse"
  | overflow _ => "Overflow"

/-- Why one poll of a source failed. -/
inductive PollError where
  /-- The poll settings cannot be used. -/
  | settings (cause : DataError)
  /-- The source did not answer. -/
  | transport
  /-- The source answered with a status that means failure. -/
  | status (code : Nat) (url : String)
  /-- The body announced as compressed is not. -/
  | decompress
  /-- The body is not JSON. -/
  | unparsable
  /-- The source reported an error of its own. -/
  | rejected (reason : String)
  /-- The cursor could not be moved on. -/
  | cursor (cause : CursorError)
  /-- The checkpoint could not be encoded. -/
  | encode (cause : DataError)
  /-- The checkpoint store refused. -/
  | checkpoint (cause : ClientError)
  /-- The writer refused. -/
  | write (cause : ClientError)
  deriving DecidableEq, Repr

/-- The wording of a `PollError`. -/
def PollError.message : PollError → String
  | settings cause => "invalid poll config: " ++ cause.message
  | transport => "http request failed"
  | status code url => "unexpected status " ++ Decimal.ofNat code ++ " from " ++ url
  | decompress => "failed to decompress response"
  | unparsable => "failed to parse response"
  | rejected reason => "source reported error: " ++ reason
  | cursor cause => "cursor error: " ++ cause.message
  | encode cause => "failed to encode checkpoint: " ++ cause.message
  | checkpoint cause => "checkpoint store failed: " ++ cause.message
  | write cause => "downstream write failed: " ++ cause.message

/-- The name of the kind of a `PollError`, with that of its cause. -/
def PollError.kind : PollError → String
  | settings cause => "Config." ++ cause.kind
  | transport => "Transport"
  | status _ _ => "Status"
  | decompress => "Decompress"
  | unparsable => "Parse"
  | rejected _ => "Rejected"
  | cursor cause => "Cursor." ++ cause.kind
  | encode cause => "Encode." ++ cause.kind
  | checkpoint cause => "Checkpoint." ++ cause.kind
  | write cause => "Write." ++ cause.kind

/-! ## Jobs -/

/-- Why a job could not be built or run. -/
inductive JobError where
  /-- No builder serves the application. -/
  | unknownApp (app : String)
  /-- The task's settings cannot be used. -/
  | invalidTask (cause : DataError)
  /-- The builder has released what its jobs share. -/
  | builderClosed (builder : String)
  /-- An external client refused. -/
  | client (cause : ClientError)
  /-- The name of this host is unknown. -/
  | host (reason : String)
  /-- A poll failed. -/
  | collect (cause : PollError)
  deriving DecidableEq, Repr

/-- The wording of a `JobError`. -/
def JobError.message : JobError → String
  | unknownApp app => "no job builder registered for app: " ++ app
  | invalidTask cause => "invalid task config: " ++ cause.message
  | builderClosed builder => "job builder " ++ builder ++ " has released its clients"
  | client cause => "client error: " ++ cause.message
  | host reason => "failed to resolve host name: " ++ reason
  | collect cause => "collection failed: " ++ cause.message

/-- The name of the kind of a `JobError`, with that of its cause. -/
def JobError.kind : JobError → String
  | unknownApp _ => "UnknownApp"
  | invalidTask cause => "InvalidConfig." ++ cause.kind
  | builderClosed _ => "BuilderClosed"
  | client cause => "Client." ++ cause.kind
  | host _ => "Host"
  | collect cause => "Collect." ++ cause.kind

/-- A failed poll as a failed job: unusable settings are the task's fault. -/
def PollError.toJobError : PollError → JobError
  | settings cause => .invalidTask cause
  | cause => .collect cause

/-! ## Loops -/

/-- How a supervised loop ends if it does not end well. -/
inductive Exit where
  /-- An attempt took longer than allowed. -/
  | timeout (seconds : Nat)
  /-- A failure that a restart cannot mend. -/
  | fatal (reason : String)
  /-- A failure that a restart may mend. -/
  | fail (reason : String)
  /-- The loop was told to end before it began, or while it waited to be
  restarted. -/
  | canceled
  deriving DecidableEq, Repr

namespace Exit

/-- The wording of an `Exit`. -/
def message : Exit → String
  | timeout seconds => "timed out after " ++ Decimal.ofNat seconds ++ "s"
  | fatal reason => "fatal error (no retry): " ++ reason
  | fail reason => "execution failed: " ++ reason
  | canceled => "context canceled"

/-- The name of the kind of an `Exit`. -/
def kind : Exit → String
  | timeout _ => "Timeout"
  | fatal _ => "Fatal"
  | fail _ => "Fail"
  | canceled => "Canceled"

/-- Whether a restart may help. -/
def retryable : Exit → Bool
  | timeout _ => true
  | fail _ => true
  | _ => false

/-- The exit of a loop that a client refused: a closed client stays closed, any
other refusal may pass. -/
def ofClient (reason : String) : ClientError → Exit
  | .closed => fatal reason
  | _ => fail reason

end Exit

/-! ## Heartbeats and the service -/

/-- Why a heartbeat cannot be sent. -/
inductive HeartbeatError where
  /-- The reporter's settings cannot be used. -/
  | invalidConfig (reason : String)
  /-- The heartbeat could not be encoded. -/
  | encode (cause : DataError)
  /-- The client it goes to refused. -/
  | publish (cause : ClientError)
  deriving DecidableEq, Repr

/-- The wording of a `HeartbeatError`. -/
def HeartbeatError.message : HeartbeatError → String
  | invalidConfig reason => "invalid heartbeat config: " ++ reason
  | encode cause => "failed to encode heartbeat: " ++ cause.message
  | publish cause => "failed to publish heartbeat: " ++ cause.message

/-- The name of the kind of a `HeartbeatError`, with that of its cause. -/
def HeartbeatError.kind : HeartbeatError → String
  | invalidConfig _ => "InvalidConfig"
  | encode cause => "Encode." ++ cause.kind
  | publish cause => "Publish." ++ cause.kind

/-- Why the service cannot be built or started. -/
inductive ServiceError where
  /-- The settings cannot be used. -/
  | invalidConfig (reason : String)
  /-- The name of this host is unknown. -/
  | host (cause : JobError)
  /-- An external client refused. -/
  | client (cause : ClientError)
  /-- The task topic has nothing to listen to. -/
  | noPartitions (topic : String)
  /-- The reporter cannot be set up. -/
  | heartbeat (cause : HeartbeatError)
  /-- The service was stopped before. -/
  | closed
  deriving DecidableEq, Repr

/-- The wording of a `ServiceError`. -/
def ServiceError.message : ServiceError → String
  | invalidConfig reason => "invalid service config: " ++ reason
  | host cause => "failed to resolve host: " ++ cause.message
  | client cause => "client error: " ++ cause.message
  | noPartitions topic => "topic " ++ topic ++ " has no partitions"
  | heartbeat cause => "heartbeat: " ++ cause.message
  | closed => "service was stopped and cannot be restarted"

/-- The name of the kind of a `ServiceError`, with that of its cause. -/
def ServiceError.kind : ServiceError → String
  | invalidConfig _ => "InvalidConfig"
  | host cause => "Host." ++ cause.kind
  | client cause => "Client." ++ cause.kind
  | noPartitions _ => "NoPartitions"
  | heartbeat cause => "Heartbeat." ++ cause.kind
  | closed => "Closed"

/-! ## Logging -/

/-- Why the log cannot be set up. -/
inductive LogError where
  /-- No output format has this name. -/
  | invalidFormat (name : String)
  /-- The journal is not available. -/
  | journaldNotSupported
  /-- The log was set up before. -/
  | alreadyInitialized
  /-- The log could not be set up. -/
  | initializationFailed (reason : String)
  /-- The filter is not a list of directives. -/
  | invalidFilter (text : String)
  deriving DecidableEq, Repr

/-- The wording of a `LogError`. -/
def LogError.message : LogError → String
  | invalidFormat name => "invalid logger format: " ++ name ++ " (expected: text|json|journald)"
  | journaldNotSupported =>
    "journald is not supported on this platform or the feature is disabled"
  | alreadyInitialized => "logger has already been initialized"
  | initializationFailed reason => "failed to initialize logger: " ++ reason
  | invalidFilter text => "invalid log filter: " ++ text

/-- The name of the kind of a `LogError`. -/
def LogError.kind : LogError → String
  | invalidFormat _ => "InvalidFormat"
  | journaldNotSupported => "JournaldNotSupported"
  | alreadyInitialized => "AlreadyInitialized"
  | initializationFailed _ => "InitializationFailed"
  | invalidFilter _ => "InvalidLogLevel"

end Collector
