/-
Module: IceRpc.Proofs.ProtocolVersion
Purpose: When a sample of another protocol version is judged by that version alone.
  The check of `handle_request` stands behind the dispatch on the kind and the
  lookup of the service, so it decides exactly for requests to a known service and
  for Cancels that name no call left to cancel.
Trusted boundary: none
Main exports: JudgedByProtocol, Provider.reject_answers, judged_by_protocol_iff
-/
import IceRpc.Proofs.InFlight

namespace IceRpc

variable {T E F : Type}

/-- The sample runs no handler, fires no token, and a request is answered with
exactly one `ProtocolMismatch`. -/
def JudgedByProtocol (rkyv : Rkyv T E)
    (table : UInt32 → Option (ServiceDispatcher F)) (provider : Provider F)
    (outcome : PublishOutcome) (header : RpcHeader) (payload : Bytes) : Prop :=
  let after := provider.handleRequest rkyv table outcome header payload
  after.tasks = provider.tasks ∧ after.oneway = provider.oneway ∧
    after.cancelled = provider.cancelled ∧
    (header.eventKind = .request → ∃ frame message,
      after.hub.responses = provider.hub.responses ++ [frame] ∧
      frame.header.eventKind = .rpcError ∧
      frame.header.correlationId = header.correlationId ∧
      rkyv.decodeRpc frame.payload = .ok (.protocolMismatch message))

/-! ### Rejections and Cancels -/

/-- A rejection publishes one response, which reads back as its error. -/
theorem Provider.reject_answers {rkyv : Rkyv T E} (roundTrips : rkyv.RoundTrips)
    (encodesRpc : ∀ err, (rkyv.encodeRpc err).isSome) (provider : Provider F)
    (outcome : PublishOutcome) (header : RpcHeader) (err : RpcError) :
    ∃ frame, (provider.reject rkyv outcome header err).hub.responses =
        provider.hub.responses ++ [frame] ∧
      frame.header.eventKind = .rpcError ∧
      frame.header.correlationId = header.correlationId ∧
      rkyv.decodeRpc frame.payload = .ok err := by
  obtain ⟨bytes, encoded⟩ := Option.isSome_iff_exists.mp (encodesRpc err)
  refine ⟨⟨(RpcHeader.responseFrom header .rpcError header.serviceVersion
    outcome.now).withSeq provider.hub.seq, bytes⟩, ?_, ?_, ?_, ?_⟩
  · simp [Provider.reject, emitRpcError, encoded, ResponseHub.emitter,
      ResponseHub.publish]
  · simp
  · simp
  · exact roundTrips.rpc err bytes encoded

/-- A Cancel changes no flag exactly when it finds none left to set. -/
theorem Provider.cancel_keeps_iff (provider : Provider F) (cid : CorrelationId) :
    (provider.cancel cid).1.cancelled = provider.cancelled ↔
      ∀ token, provider.inFlight cid = some token →
        provider.cancelled token = true := by
  unfold Provider.cancel
  cases inFlight : provider.inFlight cid with
  | none => simp
  | some fired =>
      simp only
      constructor
      · intro unchanged token isToken
        cases isToken
        have atFired := congrFun unchanged fired
        rw [Function.update_self] at atFired
        exact atFired.symm
      · intro already
        have isTrue := already fired rfl
        rw [← isTrue]
        exact Function.update_eq_self fired provider.cancelled

theorem classify_foreign {dispatcher : ServiceDispatcher F} {header : RpcHeader}
    (foreign : header.protocolVersion ≠ protocolVersion) :
    RequestRejection.classify dispatcher header =
      some (.protocol header.protocolVersion) := by
  simp [RequestRejection.classify, foreign]

/-! ### The routing of a foreign sample -/

theorem judged_request_iff {rkyv : Rkyv T E} (roundTrips : rkyv.RoundTrips)
    (encodesRpc : ∀ err, (rkyv.encodeRpc err).isSome)
    {table : UInt32 → Option (ServiceDispatcher F)} {provider : Provider F}
    {outcome : PublishOutcome} {header : RpcHeader} {payload : Bytes}
    (foreign : header.protocolVersion ≠ protocolVersion)
    (isRequest : header.eventKind = .request) :
    JudgedByProtocol rkyv table provider outcome header payload ↔
      (table header.serviceId).isSome = true := by
  unfold JudgedByProtocol
  simp only [Provider.handleRequest, isRequest]
  cases found : table header.serviceId with
  | none =>
      -- The service is unknown: the answer says so, not that the protocol differs.
      obtain ⟨answer, published, -, -, decoded⟩ := provider.reject_answers roundTrips
        encodesRpc outcome header (.unknownService (hexId header.serviceId))
      simp only [Option.isSome_none, Bool.false_eq_true, iff_false]
      rintro ⟨-, -, -, answered⟩
      obtain ⟨frame, message, same, -, -, mismatch⟩ := answered trivial
      rw [published] at same
      have sameFrame : answer = frame := by simpa using same
      rw [sameFrame, mismatch] at decoded
      cases decoded
  | some dispatcher =>
      obtain ⟨answer, published, isRpcError, own, decoded⟩ := provider.reject_answers
        roundTrips encodesRpc outcome header
        (RequestRejection.protocol header.protocolVersion).rpcError
      simp only [classify_foreign foreign, Option.isSome_some, iff_true]
      exact ⟨rfl, rfl, rfl, fun _ => ⟨answer, _, published, isRpcError, own, decoded⟩⟩

theorem judged_cancel_iff {rkyv : Rkyv T E}
    {table : UInt32 → Option (ServiceDispatcher F)} {provider : Provider F}
    {outcome : PublishOutcome} {header : RpcHeader} {payload : Bytes}
    (isCancel : header.eventKind = .cancel) :
    JudgedByProtocol rkyv table provider outcome header payload ↔
      ∀ token, provider.inFlight header.correlationId = some token →
        provider.cancelled token = true := by
  rw [← provider.cancel_keeps_iff header.correlationId]
  unfold JudgedByProtocol
  simp only [Provider.handleRequest, isCancel]
  have frame := provider.cancel_frame header.correlationId
  have sameTasks := congrArg Provider.tasks frame
  have sameOneway := congrArg Provider.oneway frame
  constructor
  · rintro ⟨-, -, sameFlags, -⟩
    exact sameFlags
  · intro sameFlags
    exact ⟨sameTasks, sameOneway, sameFlags, fun isRequest => by cases isRequest⟩

/-- A sample of another protocol version is judged by that version alone exactly
when a request names a service of the table and a Cancel names no call whose token
is still unfired. -/
theorem judged_by_protocol_iff (rkyv : Rkyv T E) (roundTrips : rkyv.RoundTrips)
    (encodesRpc : ∀ err, (rkyv.encodeRpc err).isSome)
    (table : UInt32 → Option (ServiceDispatcher F)) (provider : Provider F)
    (outcome : PublishOutcome) (header : RpcHeader) (payload : Bytes)
    (foreign : header.protocolVersion ≠ protocolVersion) :
    JudgedByProtocol rkyv table provider outcome header payload ↔
      (header.eventKind = .request → (table header.serviceId).isSome = true) ∧
      (header.eventKind = .cancel →
        ∀ token, provider.inFlight header.correlationId = some token →
          provider.cancelled token = true) := by
  cases kind : header.eventKind with
  | request =>
      rw [judged_request_iff roundTrips encodesRpc foreign kind]
      simp
  | cancel =>
      rw [judged_cancel_iff kind]
      simp
  | next => simp [JudgedByProtocol, Provider.handleRequest, kind]
  | complete => simp [JudgedByProtocol, Provider.handleRequest, kind]
  | error => simp [JudgedByProtocol, Provider.handleRequest, kind]
  | rpcError => simp [JudgedByProtocol, Provider.handleRequest, kind]

/-- A request of protocol version 1, for the call of `byte` on the service `id`. -/
def foreignRequest (byte : UInt8) (id : UInt32) : RpcHeader :=
  { RpcHeader.request (Vector.replicate 16 byte) 1 id 3 0 with protocolVersion := 1 }

/-- The Cancel of that request. -/
def foreignCancel (byte : UInt8) : RpcHeader :=
  { RpcHeader.cancelFrom (foreignRequest byte 2) 0 with protocolVersion := 1 }

/-- A request of another protocol version to a known service is answered with the
mismatch. -/
theorem judged_by_protocol_known_service :
    JudgedByProtocol plainCodec echoTable .new { now := 0, delivered := true }
      (foreignRequest 1 2) [] := by
  apply (judged_by_protocol_iff plainCodec plainCodec_roundTrips plainCodec_total.rpc
    echoTable .new { now := 0, delivered := true } (foreignRequest 1 2) []
    (by decide)).mpr
  exact ⟨fun _ => rfl, fun isCancel => by cases isCancel⟩

/-- A request of another protocol version to an unknown service is answered with
`UnknownService`, and a Cancel of another protocol version fires the token of the
call it names. -/
theorem misjudged_foreign_samples :
    ((foreignRequest 1 5).protocolVersion ≠ protocolVersion ∧
      (((Provider.new : Provider Unit).handleRequest plainCodec echoTable
        { now := 0, delivered := true } (foreignRequest 1 5) []).hub.responses.map
          fun frame => plainCodec.decodeRpc frame.payload) =
        [.ok (.unknownService "0x00000005")] ∧
      ¬ JudgedByProtocol plainCodec echoTable .new { now := 0, delivered := true }
        (foreignRequest 1 5) []) ∧
    ((foreignCancel 1).protocolVersion ≠ protocolVersion ∧
      ∃ provider, Lib.run (Provider.step plainCodec echoTable) .new
          [requestSample 1 1, .beginPoll 0, .pollHandler 0 false, .pollToken 0] =
            some provider ∧
        provider.cancelled 0 = false ∧
        (provider.handleRequest plainCodec echoTable { now := 0, delivered := true }
          (foreignCancel 1) []).cancelled 0 = true ∧
        ¬ JudgedByProtocol plainCodec echoTable provider
          { now := 0, delivered := true } (foreignCancel 1) []) := by
  refine ⟨⟨by decide, rfl, ?_⟩, by decide, _, rfl, rfl, rfl, ?_⟩
  · rintro ⟨-, -, -, answered⟩
    obtain ⟨frame, message, published, -, -, decoded⟩ := answered rfl
    cases published
    cases decoded
  · rintro ⟨-, -, sameFlags, -⟩
    cases congrFun sameFlags 0

end IceRpc
