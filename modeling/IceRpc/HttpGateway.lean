/-
Module: IceRpc.HttpGateway
Purpose: The request side of the HTTP gateway (`ice-rpc/src/http_gateway.rs`): the check of
  the origin, the parsing of a query string and its conversion to the JSON arguments of a
  method, and the cache of the JSON views of the services.
Trusted boundary: human-reviewed spec; reading a text as a finite `f64` and printing it as
  a JSON number is a parameter
Main exports: allowedOriginDomain, isOriginAllowed, parseQueryString, percentDecode,
  parseScalar, paramsToJson, HttpGatewayState, HttpGatewayState.step
-/
import IceRpc.Json
import IceRpc.Lib.Utf8
import Mathlib.Algebra.Group.Int.Defs
import Mathlib.Data.List.Sort

namespace IceRpc

open Lib

/-! ### The origin of a request -/

/-- `allowed_origin_domain`, from the value of `ICE_HTTP_ALLOWED_ORIGIN`. -/
def allowedOriginDomain (allowedOrigin : Option String) : String :=
  (allowedOrigin.filter fun value => !value.isEmpty).getD "my-domain.com"

/-- `str::strip_prefix`. -/
def stripStart : List Char → List Char → Option (List Char)
  | [], text => some text
  | char :: start, other :: text => if char = other then stripStart start text else none
  | _ :: _, [] => none

/-- `split(separator).next().unwrap_or("")`. -/
def firstPart (separator : Char) (text : List Char) : List Char :=
  (text.splitOn separator).headD []

/-- The host of an origin. -/
def hostOf (origin : List Char) : List Char :=
  let rest := ((stripStart "https://".toList origin).or
    (stripStart "http://".toList origin)).getD origin
  firstPart '/' (firstPart ':' rest)

/-- `is_origin_allowed`. -/
def isOriginAllowed (allowedOrigin : Option String) (origin : String) : Bool :=
  let allowed := (allowedOriginDomain allowedOrigin).toList
  let host := hostOf origin.toList
  if host.isEmpty then false
  else host == allowed || ('.' :: allowed).isSuffixOf host

/-! ### Query strings -/

/-- `hex_value`, the table of `parse_correlation_id` again. -/
def hexValue (byte : UInt8) : Option UInt8 := hexDigit byte

/-- The loop of `percent_decode`, over the bytes not read yet. -/
def percentBytes : List UInt8 → List UInt8
  | [] => []
  | 43 :: rest => 32 :: percentBytes rest
  | 37 :: high :: low :: rest =>
      match hexValue high, hexValue low with
      | some high, some low => (high <<< 4 ||| low) :: percentBytes rest
      | _, _ => 37 :: high :: low :: percentBytes rest
  | byte :: rest => byte :: percentBytes rest

/-- `percent_decode`. -/
def percentDecode (text : List Char) : String :=
  String.ofList (fromUtf8Lossy (percentBytes (utf8 text)))

/-- The parameters of a request, a `HashMap` whose order nothing depends on. -/
abbrev Params := Std.ExtTreeMap String String

/-- `pair.split_once('=')`, a pair without `=` being a key with no value. -/
def splitPair (pair : List Char) : List Char × List Char :=
  match pair.dropWhile (· ≠ '=') with
  | _ :: value => (pair.takeWhile (· ≠ '='), value)
  | [] => (pair, [])

/-- One round of the loop of `parse_query_string`. -/
def insertPair (params : Params) (pair : List Char) : Params :=
  params.insert (percentDecode (splitPair pair).1) (percentDecode (splitPair pair).2)

/-- `parse_query_string`. -/
def parseQueryString (querystring : String) : Params :=
  if querystring.isEmpty then ∅
  else (querystring.toList.splitOn '&').foldl insertPair ∅

/-! ### Arguments -/

/-- The value of decimal digits. -/
def decimal (digits : List Char) : Nat :=
  digits.foldl (fun value digit => 10 * value + (digit.toNat - 48)) 0

/-- `str::parse::<i64>`: a sign and at least one digit, within the range. -/
def parseI64 (text : List Char) : Option Int :=
  let (negative, digits) : Bool × List Char :=
    match text with
    | '-' :: digits => (true, digits)
    | '+' :: digits => (false, digits)
    | digits => (false, digits)
  if digits.isEmpty || !digits.all Char.isDigit then none
  else
    let value : Int := if negative then -(decimal digits : Int) else decimal digits
    if -(2 ^ 63) ≤ value ∧ value < 2 ^ 63 then some value else none

/-- `str::eq_ignore_ascii_case`. -/
def eqIgnoreAsciiCase (text other : String) : Bool :=
  text.toList.map Char.toLower == other.toList.map Char.toLower

section Arguments

-- the JSON number of a text that `str::parse::<f64>` reads as a finite number
variable (finiteF64 : String → Option String)

/-- `parse_scalar`. -/
def parseScalar (text : String) : Json :=
  if text.isEmpty then .string ""
  else if eqIgnoreAsciiCase text "true" then .bool true
  else if eqIgnoreAsciiCase text "false" then .bool false
  else if eqIgnoreAsciiCase text "null" || eqIgnoreAsciiCase text "none" then .null
  else
    match parseI64 text.toList with
    | some number => .number (toString number)
    | none =>
        match finiteF64 text with
        | some number => .number number
        | none => .string text

/-- `params_to_json`: nothing, one bare value, or an object whose fields a
`serde_json::Map` keeps in the order of their keys. -/
def paramsToJson (params : Params) : Json :=
  match params.toList with
  | [] => .null
  | [(_, value)] => parseScalar finiteF64 value
  | fields => .object (fields.map fun (key, value) => (key, parseScalar finiteF64 value))

end Arguments

/-! ### The views of the services -/

/-- Where a call of `get_or_create` is, between its lock sections. -/
inductive ViewPhase where
  | started
  | missed
  | built (view : Nat)
  | returned (answer : Option Nat)
deriving Repr, DecidableEq

/-- One call, for a service by its name. -/
structure ViewCall where
  service : String
  phase : ViewPhase
deriving Repr, DecidableEq

/-- `HttpGatewayState`: the services that have a factory and the cache of their JSON views,
a view being known by its address; with the calls in progress and the next free address. -/
structure HttpGatewayState where
  factories : List String
  cache : String → Option Nat
  calls : List ViewCall
  nextAddress : Nat

/-- The sections of the calls, in any interleaving. -/
inductive ViewAction where
  | call (service : String)
  | readCache (index : Nat)
  | create (index : Nat)
  | writeCache (index : Nat)
deriving Repr, DecidableEq

namespace HttpGatewayState

/-- `HttpGatewayState::new`. -/
def new (factories : List String) : HttpGatewayState where
  factories := factories
  cache _ := none
  calls := []
  nextAddress := 0

/-- The call goes on to another phase. -/
def setPhase (gateway : HttpGatewayState) (index : Nat) (call : ViewCall) (phase : ViewPhase) :
    HttpGatewayState :=
  { gateway with calls := gateway.calls.set index { call with phase := phase } }

/-- One section of `get_or_create`, and the lookup and call of the factory between them. -/
def step (gateway : HttpGatewayState) : ViewAction → Option HttpGatewayState
  | .call service =>
      some { gateway with
        calls := gateway.calls ++ [{ service := service, phase := .started }] }
  | .readCache index => do
      let call ← gateway.calls[index]?
      match call.phase with
      | .started =>
          match gateway.cache call.service with
          | some view => some (gateway.setPhase index call (.returned (some view)))
          | none => some (gateway.setPhase index call .missed)
      | _ => none
  | .create index => do
      let call ← gateway.calls[index]?
      match call.phase with
      | .missed =>
          if gateway.factories.contains call.service then
            some { gateway.setPhase index call (.built gateway.nextAddress) with
              nextAddress := gateway.nextAddress + 1 }
          else
            some (gateway.setPhase index call (.returned none))
      | _ => none
  | .writeCache index => do
      let call ← gateway.calls[index]?
      match call.phase with
      | .built view =>
          some { gateway.setPhase index call (.returned (some view)) with
            cache := Function.update gateway.cache call.service
              (some ((gateway.cache call.service).getD view)) }
      | _ => none

end HttpGatewayState

end IceRpc
