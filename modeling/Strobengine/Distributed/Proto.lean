import Mathlib.Data.Rat.Defs

/-!
# Control-plane and telemetry messages

The messages of `load_test_controller.proto`, restricted to the fields that are read. An unknown
wire value is the `unspecified` constructor. The telemetry messages take the type of their 64-bit
counters as a parameter.
-/

namespace Strobengine.Distributed.Proto

inductive WorkerState where
  | unspecified
  | ready
  | running
  | draining
  | error
  | unregistered
  deriving DecidableEq, Repr

inductive CommandType where
  | unspecified
  | start
  | stop
  | abort
  deriving DecidableEq, Repr

inductive CommandStatus where
  | unspecified
  | acknowledged
  | completed
  | failed
  | rejected
  deriving DecidableEq, Repr

inductive ErrorClass where
  | unspecified
  | timeout
  | connectionRefused
  | connectionReset
  | dnsFailure
  | tlsError
  | http4xx
  | http5xx
  | protocolError
  | payloadError
  | other
  deriving DecidableEq, Repr

structure TargetEndpoint where
  url : String
  deriving DecidableEq, Repr

structure Header where
  name : String
  value : String
  deriving DecidableEq, Repr

structure PayloadTemplate where
  contentType : String := ""
  body : List UInt8 := []
  deriving DecidableEq, Repr

/-- `google.protobuf.Duration`; both parts are signed on the wire. -/
structure Duration where
  seconds : Int
  nanos : Int
  deriving DecidableEq, Repr

structure TestConfiguration where
  testRunId : String := ""
  targets : List TargetEndpoint := []
  duration : Option Duration := none
  virtualUsers : Nat := 0
  requestTimeoutMs : Nat := 0
  headers : List Header := []
  payloads : List PayloadTemplate := []
  httpMethod : String := ""
  deriving DecidableEq, Repr

structure CommandRequest where
  command : CommandType
  commandId : String
  testRunId : String
  config : Option TestConfiguration := none
  deriving DecidableEq, Repr

structure CommandResponse where
  commandId : String
  workerId : String
  status : CommandStatus
  errorMessage : String
  deriving DecidableEq, Repr

structure RegisterWorkerRequest where
  workerId : String
  maxConcurrencyVus : Nat
  deriving DecidableEq, Repr

structure ErrorBreakdown (Count : Type) where
  errorClass : Int
  count : Count
  detail : String
  deriving DecidableEq, Repr

structure LatencySummary (Count : Type) where
  p50Ms : ℚ := 0
  p90Ms : ℚ := 0
  p95Ms : ℚ := 0
  p99Ms : ℚ := 0
  minMs : ℚ := 0
  maxMs : ℚ := 0
  meanMs : ℚ := 0
  stdDevMs : ℚ := 0
  sampleCount : Count
  bucketCounts : List Count
  deriving DecidableEq, Repr

structure MetricBatch (Count : Type) where
  workerId : String
  testRunId : String
  batchId : String
  windowStartUnixMs : Int
  windowDurationMs : Nat
  totalRequests : Count
  successCount : Count
  failureCount : Count
  bytesReceived : Count
  bytesSent : Count
  activeVus : Nat
  latency : Option (LatencySummary Count)
  errors : List (ErrorBreakdown Count)
  requestsPerSecond : ℚ
  deriving DecidableEq, Repr

namespace ErrorClass

def toWire : ErrorClass → Int
  | .unspecified => 0
  | .timeout => 1
  | .connectionRefused => 2
  | .connectionReset => 3
  | .dnsFailure => 4
  | .tlsError => 5
  | .http4xx => 6
  | .http5xx => 7
  | .protocolError => 8
  | .payloadError => 9
  | .other => 10

def ofWire? : Int → Option ErrorClass
  | 0 => some .unspecified
  | 1 => some .timeout
  | 2 => some .connectionRefused
  | 3 => some .connectionReset
  | 4 => some .dnsFailure
  | 5 => some .tlsError
  | 6 => some .http4xx
  | 7 => some .http5xx
  | 8 => some .protocolError
  | 9 => some .payloadError
  | 10 => some .other
  | _ => none

def debugName : ErrorClass → String
  | .unspecified => "Unspecified"
  | .timeout => "Timeout"
  | .connectionRefused => "ConnectionRefused"
  | .connectionReset => "ConnectionReset"
  | .dnsFailure => "DnsFailure"
  | .tlsError => "TlsError"
  | .http4xx => "Http4xx"
  | .http5xx => "Http5xx"
  | .protocolError => "ProtocolError"
  | .payloadError => "PayloadError"
  | .other => "Other"

theorem toWire_of_ofWire?
    {wire : Int} {errorClass : ErrorClass} (known : ofWire? wire = some errorClass) :
    errorClass.toWire = wire := by
  unfold ofWire? at known
  split at known <;> cases known <;> rfl

theorem debugName_injective : Function.Injective debugName := by
  intro first second same
  cases first <;> cases second <;> first | rfl | exact absurd same (by decide)

end ErrorClass

/-! ## Sequences of commands -/

def lastStarted (commands : List CommandRequest) : Option String :=
  commands.foldl
    (fun started command =>
      if command.command = .start then some command.testRunId else started) none

theorem lastStarted_concat (commands : List CommandRequest) (command : CommandRequest) :
    lastStarted (commands ++ [command]) =
      if command.command = .start then
        some command.testRunId
      else
        lastStarted commands := by
  rw [lastStarted, List.foldl_append]
  rfl

/-- The command fits behind the earlier ones: a START has a run id, and any other command
is for the run that was started last, if one was. -/
def InOrder (earlier : List CommandRequest) (command : CommandRequest) : Prop :=
  if command.command = .start then
    command.testRunId ≠ ""
  else
    ∀ runId ∈ lastStarted earlier, runId = command.testRunId

end Strobengine.Distributed.Proto
