import GenerationGateway.Library.Text
import GenerationGateway.Store.Schema

/-!
# Errors of upstream calls

An error value, as far as the classifiers of the workers look into it. After a failed
submission they decide whether the provider has definitely rejected the request, or
whether a generation may have been created.
-/

namespace GenerationGateway

open Text

/-- An item of a GraphQL error: the number under `statusCode` and the printed `code` of its
extensions. -/
structure GraphQLErrorItem where
  statusCode : Option ℚ
  code : String

inductive ErrorKind
  /-- `leonardo.HTTPError`, `adobe.HTTPError` and `creativefabrica.HTTPError`. -/
  | http (provider : ProviderID) (status : ℤ)
  /-- `leonardo.GraphQLError` with two of its extensions. -/
  | graphQL (statusCode : Option ℚ) (code : String)
  /-- `creativefabrica.GraphQLError`. -/
  | creativeFabricaGraphQL (items : List GraphQLErrorItem)
  /-- `creativefabrica.RPCError`. -/
  | creativeFabricaRPC (status : ℤ) (code message : String)
  | plain

structure GoError where
  kind : ErrorKind
  text : String

def GoError.new (text : String) : GoError := ⟨.plain, text⟩

def upstreamHTTPStatus (err : GoError) : Option ℤ :=
  match err.kind with
  | .http _ status => some status
  | .creativeFabricaRPC status _ _ => if 0 < status then some status else none
  | _ => none

def serverFault (status : ℤ) : Bool := status = 408 || 500 ≤ status

/-- The codes that prove a rejection by Leonardo. -/
def rejectedCodes : List String :=
  ["RATE_LIMIT_EXCEEDED", "BAD_USER_INPUT", "FORBIDDEN", "UNAUTHENTICATED"]

def creativeFabricaRejectedCodes : List String :=
  ["RATE_LIMITED", "RATE_LIMIT_EXCEEDED", "RESOURCE_EXHAUSTED", "BAD_USER_INPUT",
    "INVALID_ARGUMENT", "FORBIDDEN", "UNAUTHENTICATED", "UNAUTHORIZED", "PERMISSION_DENIED"]

def GraphQLErrorItem.listed (item : GraphQLErrorItem) : Bool :=
  creativeFabricaRejectedCodes.contains (toUpper (trimSpace item.code))

/-- Once a mutation starts, transport, decode, empty-response and GraphQL failures do
not prove that the generation was rejected. -/
def submissionUncertain (err : GoError) : Bool :=
  match upstreamHTTPStatus err with
  | some status => serverFault status
  | none =>
    match err.kind with
    | .graphQL statusCode code =>
      !(statusCode.any fun s => 400 ≤ s && s < 500) && !rejectedCodes.contains (toUpper code)
    | .creativeFabricaGraphQL items => !items.any GraphQLErrorItem.listed
    | .creativeFabricaRPC status code message =>
      !(400 ≤ status && status < 500 && status ≠ 408) &&
        !contains (toUpper (code ++ " " ++ message)) "RATE_LIMIT" &&
        !contains (toUpper (code ++ " " ++ message)) "RESOURCE_EXHAUSTED"
    | _ => true

def adobeSubmissionUncertain (err : GoError) : Bool :=
  match err.kind with
  | .http .adobe status => serverFault status
  | _ => true

/-- The classifier of the provider's worker. -/
def ProviderID.uncertain : ProviderID → GoError → Bool
  | adobe => adobeSubmissionUncertain
  | _ => submissionUncertain

end GenerationGateway
