import Mathlib.Data.String.Basic

/-!
# Request paths of the gRPC engines

`ProtoSchema::new` looks the method up under its bare name; the engines put the configured texts
into the path of their requests. The descriptors are those of the compiled `.proto` file.
-/

namespace Strobengine.Protocols.Grpc

structure MethodDescriptor where
  name : String
  /-- The full name of the message that the method takes. -/
  input : String
  deriving DecidableEq, Repr

structure ServiceDescriptor where
  name : String
  fullName : String
  methods : List MethodDescriptor
  deriving DecidableEq, Repr

structure DescriptorPool where
  services : List ServiceDescriptor
  messages : List String
  deriving DecidableEq, Repr

inductive ProtoError where
  | serviceNotFound (service : String)
  | methodNotFound (method : String)
  | messageNotFound (message : String)
  deriving DecidableEq, Repr

structure ProtoSchema where
  pool : DescriptorPool
  serviceName : String
  methodName : String
  messageName : String
  deriving DecidableEq, Repr

/-- Strip leading slashes and service prefixes:
`method.trim_start_matches('/').split('/').next_back()`. -/
def cleanMethod (method : String) : String :=
  let parts := (method.toList.dropWhile (fun character => character == '/')).splitOn '/'
  (parts.getLast?.map String.ofList).getD method

namespace ProtoSchema

/-- `ProtoSchema::new` once the file is compiled: an exact match of the full name wins, then
the short names are searched. -/
def new (pool : DescriptorPool) (service method : String) : Except ProtoError ProtoSchema :=
  let exact := pool.services.find? (fun descriptor => descriptor.fullName = service)
  let short :=
    pool.services.find? (fun descriptor =>
      descriptor.name.endsWith ("." ++ service) || descriptor.name = service)
  match exact.or short with
  | none => .error (.serviceNotFound service)
  | some serviceDesc =>
    match
      serviceDesc.methods.find? (fun descriptor => descriptor.name = cleanMethod method)
    with
    | none => .error (.methodNotFound (cleanMethod method))
    | some methodDesc =>
      if methodDesc.input ∈ pool.messages then
        .ok
          { pool
            serviceName := serviceDesc.name
            methodName := cleanMethod method
            messageName := methodDesc.input }
      else
        .error (.messageNotFound methodDesc.input)

def grpcPath (schema : ProtoSchema) : String :=
  "/" ++ schema.serviceName ++ "/" ++ schema.methodName

theorem methodName_of_new {pool : DescriptorPool} {service method : String} {schema : ProtoSchema}
    (accepted : new pool service method = .ok schema) :
    schema.methodName = cleanMethod method ∧
      ∃ descriptor ∈ pool.services,
        schema.serviceName = descriptor.name ∧
          ∃ found ∈ descriptor.methods, found.name = cleanMethod method := by
  unfold new at accepted
  dsimp only at accepted
  split at accepted
  · cases accepted
  · rename_i serviceDesc located
    split at accepted
    · cases accepted
    · rename_i methodDesc found
      split at accepted
      · cases accepted
        have known : serviceDesc ∈ pool.services := by
          rcases Option.or_eq_some_iff.mp located with exact | ⟨_, short⟩
          · exact List.mem_of_find?_eq_some exact
          · exact List.mem_of_find?_eq_some short
        have named : methodDesc.name = cleanMethod method := by
          simpa using List.find?_some found
        exact ⟨rfl, serviceDesc, known, rfl, methodDesc, List.mem_of_find?_eq_some found, named⟩
      · cases accepted

end ProtoSchema

structure GrpcEngine where
  service : String
  method : String
  deriving DecidableEq, Repr

def GrpcEngine.new (service method : Option String) : GrpcEngine :=
  { service := service.getD "", method := method.getD "" }

def GrpcEngine.path (engine : GrpcEngine) : String :=
  "/" ++ engine.service ++ "/" ++ engine.method

structure GrpcH2Engine where
  service : String
  method : String
  deriving DecidableEq, Repr

def GrpcH2Engine.new (service method : Option String) : GrpcH2Engine :=
  { service := service.getD "", method := method.getD "" }

/-- The path of a request, `format!("/{}{}", self.service, self.method)`. -/
def GrpcH2Engine.path (engine : GrpcH2Engine) : String :=
  "/" ++ engine.service ++ engine.method

/-- The path of a gRPC request: a slash, the service, a slash and the bare method. -/
def barePath (service method : String) : String :=
  "/" ++ service ++ "/" ++ cleanMethod method

/-! ## Where the paths are right -/

theorem GrpcEngine.path_eq_barePath_iff (engine : GrpcEngine) :
    engine.path = barePath engine.service engine.method ↔
      engine.method = cleanMethod engine.method := by
  unfold GrpcEngine.path barePath
  exact String.append_right_inj _

theorem GrpcH2Engine.path_eq_barePath_iff (engine : GrpcH2Engine) :
    engine.path = barePath engine.service engine.method ↔
      engine.method = "/" ++ cleanMethod engine.method := by
  unfold GrpcH2Engine.path barePath
  have grouped :
      "/" ++ engine.service ++ "/" ++ cleanMethod engine.method =
        "/" ++ engine.service ++ ("/" ++ cleanMethod engine.method) :=
    String.append_assoc
  rw [grouped]
  exact String.append_right_inj _

/-- No method is right for both engines: the one would need it bare, the other behind a
slash. -/
theorem request_paths_never_agree (service method : Option String) :
    ¬ ((GrpcH2Engine.new service method).path = (GrpcEngine.new service method).path ∧
        (GrpcEngine.new service method).path = barePath (service.getD "") (method.getD "")) := by
  rintro ⟨same, bare⟩
  have plain := (GrpcEngine.path_eq_barePath_iff (GrpcEngine.new service method)).mp bare
  have slashed :=
    (GrpcH2Engine.path_eq_barePath_iff (GrpcH2Engine.new service method)).mp (same.trans bare)
  have texts : method.getD "" = "/" ++ method.getD "" := by
    calc
      method.getD "" = "/" ++ cleanMethod (method.getD "") := slashed
      _ = "/" ++ method.getD "" := congrArg ("/" ++ ·) plain.symm
  have lengths := congrArg String.length texts
  rw [String.length_append] at lengths
  have slash : "/".length = 1 := rfl
  omega

/-- The documented names: the raw HTTP/2 engine leaves out the slash between them, and the
slash that would make up for it is doubled by the other engine. -/
theorem request_paths_differ_sample :
    (GrpcH2Engine.new (some "helloworld.Greeter") (some "SayHello")).path =
        "/helloworld.GreeterSayHello" ∧
      (GrpcEngine.new (some "helloworld.Greeter") (some "SayHello")).path =
        "/helloworld.Greeter/SayHello" ∧
      (GrpcH2Engine.new (some "helloworld.Greeter") (some "SayHello")).path ≠
        barePath "helloworld.Greeter" "SayHello" ∧
      (GrpcEngine.new (some "helloworld.Greeter") (some "/SayHello")).path =
        "/helloworld.Greeter//SayHello" ∧
      (GrpcEngine.new (some "helloworld.Greeter") (some "/SayHello")).path ≠
        barePath "helloworld.Greeter" "/SayHello" := by
  decide +kernel

end Strobengine.Protocols.Grpc
