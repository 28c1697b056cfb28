import LeaderRouting.Text.Quoted

/-! How a remote call failed: a code and a message. -/

namespace LeaderRouting

inductive StatusCode
  | ok | cancelled | unknown | invalidArgument | deadlineExceeded | notFound | alreadyExists
  | permissionDenied | resourceExhausted | failedPrecondition | aborted | outOfRange
  | unimplemented | internal | unavailable | dataLoss | unauthenticated
  deriving DecidableEq, Repr

namespace StatusCode

def name : StatusCode → String
  | ok => "Ok"
  | cancelled => "Cancelled"
  | unknown => "Unknown"
  | invalidArgument => "InvalidArgument"
  | deadlineExceeded => "DeadlineExceeded"
  | notFound => "NotFound"
  | alreadyExists => "AlreadyExists"
  | permissionDenied => "PermissionDenied"
  | resourceExhausted => "ResourceExhausted"
  | failedPrecondition => "FailedPrecondition"
  | aborted => "Aborted"
  | outOfRange => "OutOfRange"
  | unimplemented => "Unimplemented"
  | internal => "Internal"
  | unavailable => "Unavailable"
  | dataLoss => "DataLoss"
  | unauthenticated => "Unauthenticated"

def all : List StatusCode :=
  [ok, cancelled, unknown, invalidArgument, deadlineExceeded, notFound, alreadyExists,
    permissionDenied, resourceExhausted, failedPrecondition, aborted, outOfRange, unimplemented,
    internal, unavailable, dataLoss, unauthenticated]

def named? (name : String) : Option StatusCode :=
  all.find? (·.name = name)

end StatusCode

structure Status where
  code : StatusCode
  message : String
  deriving DecidableEq, Repr

namespace Status

def text (s : Status) : String :=
  "status: " ++ s.code.name ++ ", message: " ++ Text.quoted s.message
    ++ ", details: [], metadata: MetadataMap \x7b headers: \x7b\x7d \x7d"

/-- The status as a record; an empty message is left out. -/
def record (s : Status) : String :=
  "Status \x7b code: " ++ s.code.name
    ++ (if s.message = "" then "" else ", message: " ++ Text.quoted s.message) ++ " \x7d"

end Status

end LeaderRouting
