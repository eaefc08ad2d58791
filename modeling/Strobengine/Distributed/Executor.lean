import Strobengine.Distributed.State
import Strobengine.Rust.Text

/-!
# Execution plans

`ExecutionPlan::from_proto` turns the `TestConfiguration` of a START command into the
plan that the virtual users run. Parsing of methods and headers is done by the `http`
crate and is a parameter.
-/

namespace Strobengine.Distributed

/-- The parsers of the `http` crate: the normalised value, or the text of the error. -/
structure HttpRules where
  methodFromBytes : String → Except String String
  headerNameFromBytes : String → Except String String
  headerValueFromStr : String → Except String String

def HttpRules.accepting : HttpRules :=
  { methodFromBytes := .ok, headerNameFromBytes := .ok, headerValueFromStr := .ok }

/-- A resolved description of one distributed test run. Times are in milliseconds,
the run duration in nanoseconds. -/
structure ExecutionPlan where
  targets : List String
  method : String
  body : Option (List UInt8)
  headers : List (String × String)
  timeoutMs : Nat
  virtualUsers : Nat
  duration : Option Nat
  targetsNonempty : targets ≠ []
  virtualUsersPositive : 0 < virtualUsers
  deriving DecidableEq

namespace ExecutionPlan

/-- The target of the iteration with the given index, `targets[index % targets.len()]`. -/
def target (plan : ExecutionPlan) (index : Nat) : String :=
  plan.targets.get
    ⟨index % plan.targets.length, Nat.mod_lt index (List.length_pos_iff.mpr plan.targetsNonempty)⟩

def resolveTargets (targets : List Proto.TargetEndpoint) : List String :=
  (targets.map (fun target => Rust.trim target.url)).filter (fun url => url ≠ "")

def resolveMethod (http : HttpRules) (method : String) : Except WorkerError String :=
  if Rust.trim method = "" then
    .ok "GET"
  else
    match http.methodFromBytes (Rust.trim method) with
    | .ok parsed => .ok parsed
    | .error reason => .error (.config ("invalid HTTP method: " ++ reason))

def resolveHeader (http : HttpRules) (header : Proto.Header) :
    Except WorkerError (String × String) :=
  match http.headerNameFromBytes (Rust.trim header.name) with
  | .error reason => .error (.config ("invalid header name: " ++ reason))
  | .ok name =>
    match http.headerValueFromStr header.value with
    | .error reason => .error (.config ("invalid header value: " ++ reason))
    | .ok value => .ok (name, value)

def resolveHeaders (http : HttpRules) :
    List Proto.Header → Except WorkerError (List (String × String))
  | [] => .ok []
  | header :: rest =>
    match resolveHeader http header with
    | .error reason => .error reason
    | .ok parsed =>
      match resolveHeaders http rest with
      | .error reason => .error reason
      | .ok remaining => .ok (parsed :: remaining)

/-- The content type of the chosen payload is added when no header sets one. -/
def withContentType (http : HttpRules) (headers : List (String × String))
    (payload : Proto.PayloadTemplate) : List (String × String) :=
  if payload.contentType = "" ∨ headers.any (fun header => header.1 == "content-type") then
    headers
  else
    match http.headerValueFromStr payload.contentType with
    | .ok value => headers ++ [("content-type", value)]
    | .error _ => headers ++ [("content-type", "application/octet-stream")]

/-- The number of virtual users: at least one, at most the worker's ceiling. -/
def resolveVirtualUsers (virtualUsers maxVus : Nat) : Nat :=
  let requestedVus := max virtualUsers 1
  let ceiling := if maxVus = 0 then requestedVus else maxVus
  max (min requestedVus ceiling) 1

def resolveDuration (duration : Option Proto.Duration) : Option Nat :=
  duration.bind (fun wire =>
    let secs := (max wire.seconds 0).toNat
    let nanos := (max wire.nanos 0).toNat
    if secs = 0 ∧ nanos = 0 then none else some (secs * 1000000000 + nanos))

theorem resolveVirtualUsers_pos (virtualUsers maxVus : Nat) :
    0 < resolveVirtualUsers virtualUsers maxVus := by
  unfold resolveVirtualUsers
  exact Nat.lt_of_lt_of_le Nat.zero_lt_one (Nat.le_max_right _ 1)

def fromProto (http : HttpRules) (config : Proto.TestConfiguration)
    (maxVus defaultTimeoutMs : Nat) :
    Except WorkerError ExecutionPlan :=
  if empty : resolveTargets config.targets = [] then
    .error (.config "test configuration has no target endpoints")
  else
    match resolveMethod http config.httpMethod with
    | .error reason => .error reason
    | .ok method =>
      match resolveHeaders http config.headers with
      | .error reason => .error reason
      | .ok headers =>
        let payload := config.payloads.find? (fun template => !template.body.isEmpty)
        .ok
          { targets := resolveTargets config.targets
            method
            body := payload.map Proto.PayloadTemplate.body
            headers :=
              match payload with
              | none => headers
              | some template => withContentType http headers template
            timeoutMs :=
              if 0 < config.requestTimeoutMs then config.requestTimeoutMs
              else defaultTimeoutMs
            virtualUsers := resolveVirtualUsers config.virtualUsers maxVus
            duration := resolveDuration config.duration
            targetsNonempty := empty
            virtualUsersPositive :=
              resolveVirtualUsers_pos config.virtualUsers maxVus }

end ExecutionPlan

end Strobengine.Distributed
