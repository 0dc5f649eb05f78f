/-!
# Names that all parts agree on

The names of `harvest-model`: keys of task settings and of meta information, topics of the
broker, and the place where heartbeats are kept.
-/

namespace Collector.Setting

/-- The application of a task, which selects the builder of its job. -/
def app : String := "App"

/-- The identity of a task, under which its job is kept. -/
def taskKey : String := "TaskConfigKey"

/-- The host that an envelope of tasks is meant for. -/
def host : String := "Host"

/-- The base address of a source. -/
def serverUrl : String := "ServerURL"

/-- The user name for a source. -/
def username : String := "Username"

/-- The password for a source. -/
def password : String := "Password"

/-- The table of a source to read. -/
def endpoint : String := "Endpoint"

/-- The record field that orders a feed. -/
def timestampField : String := "TimestampField"

/-- The cursor of a task that has no checkpoint. -/
def nextRecordTime : String := "NextRecordTime"

/-- The number of records asked for at once. -/
def recordCount : String := "RecordCount"

/-- The record field that identifies a record. -/
def idField : String := "IdField"

/-- The identifying field of sources that do not name one. -/
def defaultIdField : String := "sys_id"

/-- The key under which a topic writer tells its own key. -/
def writerKey : String := "Key"

/-- The topic of task definitions. -/
def tasksTopic : String := "Tasks"

/-- The topic of heartbeats. -/
def statsTopic : String := "TaskStats"

/-- The path under which heartbeat nodes are created. -/
def heartbeatRoot : String := "/harvest/heartbeats"

/-- The variable that overrides the log filter. -/
def logFilterVariable : String := "HARVEST_LOG"

/-- The variable that overrides the log format. -/
def logFormatVariable : String := "HARVEST_LOG_FORMAT"

end Collector.Setting
