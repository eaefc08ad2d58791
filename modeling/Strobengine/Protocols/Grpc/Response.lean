import Strobengine.Metrics.Request
import Strobengine.Rust.Bytes

/-!
# Statuses of gRPC responses

The raw HTTP/2 engine takes the `grpc-status` from the trailers, else from the head, else takes it
for zero. A status that is there and malformed counts as none at all.
-/

namespace Strobengine.Protocols.Grpc

open Metrics Rust

/-- `http::HeaderMap`, with lower-case names. -/
abbrev HeaderMap := List (String × List UInt8)

def HeaderMap.value (headers : HeaderMap) (name : String) : Option (List UInt8) :=
  (headers.find? (fun header => header.1 = name)).map Prod.snd

/-- `HeaderValue::to_str`: only visible ASCII, blanks and tabs make a text. -/
def headerText (value : List UInt8) : Option String :=
  if value.all (fun byte => (32 ≤ byte && byte < 127) || byte == 9) then
    some (String.ofList (value.map (fun byte => Char.ofNat byte.toNat)))
  else
    none

def parseU16 (text : String) : Option Nat :=
  (parseUsize text).filter (fun value => value < 2 ^ 16)

def statusNumber (value : List UInt8) : Option Nat :=
  (headerText value).bind parseU16

def grpcStatusFrom (headers : Option HeaderMap) : Option Nat :=
  (headers.bind (HeaderMap.value · "grpc-status")).bind statusNumber

/-- Trailers win, then the head, then `0`; trailers that fail give no status. -/
def resolveGrpcStatus (trailers : Except Unit (Option HeaderMap)) (head : HeaderMap) : Option Nat :=
  match trailers with
  | .ok trailers => some (((grpcStatusFrom trailers).or (grpcStatusFrom (some head))).getD 0)
  | .error _ => none

structure Response where
  status : Nat
  head : HeaderMap
  /-- The pieces of the body; nothing for one that fails. -/
  data : List (Option (List UInt8))
  trailers : Except Unit (Option HeaderMap)

def readBody (body : List UInt8) : List (Option (List UInt8)) → Option (List UInt8)
  | [] => some body
  | some data :: rest => readBody (body ++ data) rest
  | none :: _ => none

def readResponse (response : Response) : Option (Nat × Nat) :=
  if response.status ≠ 200 then
    some (2, 0)
  else do
    let body ← readBody [] response.data
    let grpcStatus ← resolveGrpcStatus response.trailers response.head
    return (grpcStatus, if 5 ≤ body.length then fromBeBytes ((body.drop 1).take 4) else 0)

def grpcToHttpStatus : Nat → Nat
  | 0 => 200
  | 1 => 499
  | 2 => 500
  | 3 => 400
  | 4 => 504
  | 5 => 404
  | 6 => 409
  | 7 => 403
  | 8 => 429
  | 9 => 412
  | 10 => 409
  | 11 => 416
  | 12 => 501
  | 13 => 500
  | 14 => 503
  | 15 => 500
  | 16 => 401
  | _ => 500

structure SentRequest where
  latencyMicros : Nat
  fault : Option ChaosFault
  connUs : Nat
  reused : Bool
  sample : GrpcSample

def SentRequest.finish (request : SentRequest) : Option (Nat × Nat) → RequestMetric
  | none => RequestMetric.error request.latencyMicros request.fault
  | some (grpcStatus, bodyLen) =>
    { latencyMicros := request.latencyMicros
      chaosFault := request.fault
      statusCode := grpcToHttpStatus grpcStatus
      bytesReceived := bodyLen
      connection :=
        { connectionLatencyUs := if 0 < request.connUs then some request.connUs else none
          isSocketReused := request.reused }
      protocol := some (.grpc request.sample) }

theorem isError_finish_eq_false_iff (request : SentRequest) (grpcStatus bodyLen : Nat) :
    (request.finish (some (grpcStatus, bodyLen))).isError = false ↔ grpcStatus = 0 := by
  have statuses :
      (grpcToHttpStatus grpcStatus = 0 ∨ 400 ≤ grpcToHttpStatus grpcStatus) ↔ grpcStatus ≠ 0 := by
    unfold grpcToHttpStatus
    split <;> simp_all
  simp only [SentRequest.finish, RequestMetric.isError, statuses]
  split
  · rename_i failed
    simpa using failed
  · rename_i succeeded
    simpa using succeeded

namespace Response

variable {response : Response} {trailers : Option HeaderMap}

structure ReadToEnd (response : Response) (trailers : Option HeaderMap) : Prop where
  status : response.status = 200
  data : none ∉ response.data
  trailers : response.trailers = .ok trailers

def decisive (head : HeaderMap) (trailers : Option HeaderMap) : Option (List UInt8) :=
  (trailers.bind (HeaderMap.value · "grpc-status")).or (head.value "grpc-status")

/-- There is no status, or the one that takes precedence is the number zero. -/
def MaySucceed (head : HeaderMap) (trailers : Option HeaderMap) : Prop :=
  ∀ value ∈ decisive head trailers, statusNumber value = some 0

/-- The status that takes precedence is a number, or the head has one that is not zero. -/
def WellFormed (head : HeaderMap) (trailers : Option HeaderMap) : Prop :=
  (∀ value ∈ decisive head trailers, statusNumber value ≠ none) ∨
    ∃ number ∈ grpcStatusFrom (some head), number ≠ 0

theorem exists_readBody {data : List (Option (List UInt8))} (arrived : none ∉ data)
    (before : List UInt8) : ∃ body, readBody before data = some body := by
  induction data generalizing before with
  | nil => exact ⟨before, rfl⟩
  | cons piece rest ih =>
    rw [List.mem_cons, not_or] at arrived
    cases piece with
    | none => exact absurd rfl arrived.1
    | some bytes => exact ih arrived.2 (before ++ bytes)

theorem exists_readResponse (ended : response.ReadToEnd trailers) :
    ∃ messageLen,
      readResponse response =
        some
          (((grpcStatusFrom trailers).or (grpcStatusFrom (some response.head))).getD 0,
            messageLen) := by
  obtain ⟨body, read⟩ := exists_readBody ended.data []
  simp [readResponse, ended.status, ended.trailers, read, resolveGrpcStatus]

theorem status_eq_zero_imp_iff (head : HeaderMap) (trailers : Option HeaderMap) :
    (((grpcStatusFrom trailers).or (grpcStatusFrom (some head))).getD 0 = 0 →
        MaySucceed head trailers) ↔
      WellFormed head trailers := by
  unfold MaySucceed WellFormed decisive grpcStatusFrom
  rw [Option.bind_some]
  cases trailers.bind (HeaderMap.value · "grpc-status") with
  | none =>
    cases head.value "grpc-status" with
    | none => simp
    | some value => cases number : statusNumber value <;> simp [number]
  | some value =>
    cases number : statusNumber value with
    | none => cases (head.value "grpc-status").bind statusNumber <;> simp [number]
    | some => simp [number]

/-- A response that is read to its end is reported as a success only if its status allows it,
exactly when that status is well formed. -/
theorem success_only_if_allowed_iff
    (request : SentRequest) (response : Response) (trailers : Option HeaderMap)
    (ended : response.ReadToEnd trailers) :
    ((request.finish (readResponse response)).isError = false → MaySucceed response.head trailers) ↔
      WellFormed response.head trailers := by
  obtain ⟨messageLen, read⟩ := exists_readResponse ended
  rw [read, isError_finish_eq_false_iff]
  exact status_eq_zero_imp_iff response.head trailers

def statusOnly (head : HeaderMap) (trailers : Option HeaderMap) : Response :=
  { status := 200, head, data := [], trailers := .ok trailers }

theorem success_only_if_allowed_iff_sample :
    ∃ response trailers, response.ReadToEnd trailers ∧
      ∀ request : SentRequest,
        (request.finish (readResponse response)).isError = false →
          MaySucceed response.head trailers := by
  have ended :
      (statusOnly [("grpc-status", [48])] (some [("grpc-status", [49, 51])])).ReadToEnd
        (some [("grpc-status", [49, 51])]) :=
    ⟨rfl, List.not_mem_nil, rfl⟩
  refine ⟨_, _, ended, fun request => ?_⟩
  exact (success_only_if_allowed_iff request _ _ ended).mpr (Or.inl (by decide))

/-- Trailers with the status `-1` are reported as a success. -/
theorem malformed_status_succeeds :
    (∀ request : SentRequest, (request.finish
        (readResponse (statusOnly [] (some [("grpc-status", [45, 49])])))).isError = false) ∧
      ¬ MaySucceed [] (some [("grpc-status", [45, 49])]) := by
  constructor
  · exact fun request => (isError_finish_eq_false_iff request _ 0).mpr rfl
  · exact fun allowed => absurd (allowed [45, 49] rfl) (by decide)

end Response

end Strobengine.Protocols.Grpc
