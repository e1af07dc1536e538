import PandaGen.Kernel.Session
import PandaGen.Kernel.SyscallJson

/-!
# The syscall client is transparent
-/

namespace PandaGen.Kernel

open Lib Storage Proc SyscallServer SyscallCodec Option

/-! ## A request and its response -/

def RoundTrips (α : Type) [SerdeJson α] : Prop := ∀ a : α, ∃ bytes, toVec a = some bytes ∧ fromSlice bytes = some a

theorem SyscallError.toKernelError_ofKernelError (error) : (ofKernelError error).toKernelError = error := by
  cases error <;> rfl

variable {α : Type}

theorem mapError_ofKernelError (r : Except KernelError α) :
    (r.mapError SyscallError.ofKernelError).mapError SyscallError.toKernelError = r := by
  cases r with
  | ok => rfl
  | error error => exact congrArg Except.error (SyscallError.toKernelError_ofKernelError error)

namespace SyscallCodec

theorem decode_of_encode [SerdeDisplay α] (hserde : RoundTrips α) (codec : SyscallCodec)
    (action : String) (id : MessageId) (a : α) : ∃ payload,
      codec.encode action id a = .ok (.new id codec.serviceId action syscallSchemaVersion payload) ∧
      ∀ message : MessageEnvelope, message.action = action → message.schemaVersion = syscallSchemaVersion →
        message.payload = payload → decode action message = .ok a := by
  obtain ⟨payload, hto, hfrom⟩ := hserde a
  refine ⟨payload, by rw [encode, hto], ?_⟩
  intro message haction hschema hpayload
  rw [decode, if_neg (fun h => h haction), hschema, hpayload, hfrom]
  rfl

end SyscallCodec

theorem answer_of_call {K ε : Type} {k} {m' : Proc (LoopbackTransport K) ε α} {m : Proc K ε α} (f)
    (h : m'.call (.new k) = (m.call k).map fun (r, k') => (r, .new k')) :
    KernelApi.answer (.new k) m' f = (KernelApi.answer k m f).map fun (r, k') => (r, .new k') := by
  rw [KernelApi.answer, KernelApi.answer, h, map_map, map_map]
  rfl

section

variable {K : Type} [SerdeDisplay SyscallRequest] [SerdeDisplay SyscallResponse]
  {kernel : KernelApi K} {serverCodec clientCodec : SyscallCodec}
  {responseId : MessageId} {ids : RequestIds} {k : K}

open LoopbackTransport SyscallClient

theorem handleMessage_call (hresponse : RoundTrips SyscallResponse) {message request}
    (hdecode : decodeRequest message = .ok request) :
    ∃ envelope, (∀ payload, decodeResponse (envelope payload) = .ok ⟨request.requestId, payload⟩) ∧
      (handleMessage kernel serverCodec responseId message).call k =
        ((dispatch kernel request.payload).call k).map fun (r, k') => (r.map envelope, k') := by
  have hencode : ∀ payload, ∃ envelope,
      serverCodec.encodeResponse responseId ⟨request.requestId, payload⟩ message.id = .ok envelope ∧
        decodeResponse envelope = .ok ⟨request.requestId, payload⟩ := by
    intro payload
    obtain ⟨bytes, hencode, hdecode⟩ := decode_of_encode hresponse serverCodec syscallResponseAction
      responseId ⟨request.requestId, payload⟩
    rw [encodeResponse, hencode]
    exact ⟨_, rfl, hdecode _ rfl rfl rfl⟩
  choose envelope hencode hresponse using hencode
  refine ⟨envelope, hresponse, ?_⟩
  rw [handleMessage, call_bind, call_ofExcept, hdecode]
  dsimp only [Except.mapError]
  rw [call_bind]
  rcases (dispatch kernel request.payload).call k with _ | ⟨_ | payload, k'⟩
  · rfl
  · rfl
  · dsimp only
    rw [call_ofExcept, hencode]
    rfl

section

variable (hrequest : RoundTrips SyscallRequest) (hresponse : RoundTrips SyscallResponse)
include hrequest hresponse

theorem roundTrip_call (payload : SyscallRequestPayload) :
    (roundTrip (transport kernel serverCodec responseId) clientCodec ids payload).call (.new k) =
      ((dispatch kernel payload).call k).map fun (r, k') =>
        (r.map fun response => ⟨ids.request, response⟩, .new k') := by
  obtain ⟨bytes, hencode, hdecode⟩ := decode_of_encode hrequest clientCodec syscallRequestAction
    ids.message ⟨ids.request, payload⟩
  obtain ⟨envelope, hresponse, hhandle⟩ := handleMessage_call hresponse (hdecode (.new ids.message
    clientCodec.serviceId syscallRequestAction syscallSchemaVersion bytes) rfl rfl rfl)
  rw [roundTrip, call_bind, call_ofExcept, encodeRequest, hencode]
  dsimp only [Except.mapError]
  rw [call_bind, transport, call_bind, call_zoom, new, hhandle]
  rcases (dispatch kernel payload).call k with _ | ⟨_ | response, k'⟩
  · rfl
  · rfl
  · have hreceive : ((transport kernel serverCodec responseId).receive none).call ⟨k', some (envelope response)⟩ =
        some (.ok (envelope response), ⟨k', none⟩) := rfl
    dsimp only [map_some, Except.map]
    change ((transport kernel serverCodec responseId).receive none >>= _).call ⟨k', some (envelope response)⟩ = _
    rw [call_bind, hreceive]
    dsimp only
    rw [call_bind, call_ofExcept, hresponse]
    dsimp only [Except.mapError]
    rw [failIf, if_neg (fun h => h rfl)]
    rfl

theorem request_call {payload} {m : Proc K KernelError α} {into f}
    (hdispatch : dispatch kernel payload = respond into m)
    (hf : ∀ result, f (into result) = some result) :
    (request (transport kernel serverCodec responseId) clientCodec ids payload f).call (.new k) =
      (m.call k).map fun (r, k') => (r, .new k') := by
  rw [request, call_bind, roundTrip_call hrequest hresponse, hdispatch, respond, call_map, call_attempt]
  rcases m.call k with _ | ⟨r, k'⟩
  · rfl
  · dsimp only [map_some, Except.map]
    rw [call_ofExcept, extract, hf]
    dsimp only
    rw [mapError_ofKernelError]

theorem perform_client (call) : (api (transport kernel serverCodec responseId) clientCodec ids).perform (.new k) call =
      (kernel.perform k call).map fun (r, k') => (r, .new k') := by
  cases call with
  | now =>
    apply answer_of_call
    change (now (transport kernel serverCodec responseId) clientCodec ids).call (.new k) = _
    rw [now, call_bind, call_attempt, roundTrip_call hrequest hresponse, dispatch, call_map, call_mapErr]
    rcases kernel.now.call k with _ | ⟨error | instant, k'⟩
    · rfl
    · exact error.elim
    · rfl
  | _ => exact answer_of_call _ (request_call hrequest hresponse rfl fun _ => rfl)

end

end

structure LoopbackDraws (D : Type) where
  kernel : D
  request : RequestIds
  response : MessageId

def loopback {K D : Type} [SerdeDisplay SyscallRequest] [SerdeDisplay SyscallResponse]
    (kernel : D → KernelApi K) (serverCodec clientCodec : SyscallCodec)
    (draws : LoopbackDraws D) : KernelApi (LoopbackTransport K) :=
  SyscallClient.api (LoopbackTransport.transport (kernel draws.kernel) serverCodec draws.response) clientCodec
    draws.request

/-- Every sequence of calls has the same results through the client as directly, up to the same panic if there is
one, and leaves the kernel in the same state. -/
theorem client_transparent {K D : Type} [SerdeDisplay SyscallRequest] [SerdeDisplay SyscallResponse]
    (hrequest : RoundTrips SyscallRequest) (hresponse : RoundTrips SyscallResponse) (kernel : D → KernelApi K)
    (serverCodec clientCodec : SyscallCodec) (k : K) (calls : List (LoopbackDraws D × ApiCall)) :
    (KernelApi.machine (loopback kernel serverCodec clientCodec)).answers (.new k) calls =
      ((KernelApi.machine kernel).answers k (calls.map fun (draws, call) => (draws.kernel, call))).map id
        (Option.map .new) :=
  Machine.answers_of_step (fun _ (_, call) => perform_client hrequest hresponse call) k calls

def greeting : MessageEnvelope := .new ⟨4⟩ ⟨5⟩ "greet" ⟨1, 0⟩ [104, 105]

def greetingCalls : List (LoopbackDraws SimulatedKernel.Draws × ApiCall) :=
  [.createChannel, .sendMessage ⟨8⟩ greeting, .receiveMessage ⟨8⟩ none, .receiveMessage ⟨8⟩ none].map fun call =>
    (⟨⟨⟨⟨8⟩, ⟨8⟩, ⟨8⟩⟩, ⟨8⟩, .listed⟩, ⟨⟨6⟩, ⟨7⟩⟩, ⟨9⟩⟩, call)

theorem client_transparent_greeting : ∃ k' : SimulatedKernel,
    (KernelApi.machine (loopback SimulatedKernel.api ⟨⟨5⟩⟩ ⟨⟨5⟩⟩)).answers (.new (Setup.boot .default)) greetingCalls =
      ([.channel (.ok ⟨8⟩), .done (.ok ()), .message (.ok greeting), .message (.error .timeout)], some (.new k')) := by
  have hdirect : (fun r => decide (r.1 = [.channel (.ok ⟨8⟩), .done (.ok ()), .message (.ok greeting),
      .message (.error .timeout)]) && r.2.isSome) ((KernelApi.machine SimulatedKernel.api).answers
      (Setup.boot .default) (greetingCalls.map fun (draws, call) => (draws.kernel, call))) = true := by
    decide +kernel
  rw [Bool.and_eq_true, decide_eq_true_iff, Option.isSome_iff_exists] at hdirect
  obtain ⟨hresults, k', hstate⟩ := hdirect
  refine ⟨k', ?_⟩
  rw [client_transparent (fun _ => ⟨_, rfl, LawfulSerdeJson.fromSlice_toVec rfl⟩)
    (fun _ => ⟨_, rfl, LawfulSerdeJson.fromSlice_toVec rfl⟩), Prod.map, hresults, hstate]
  rfl

end PandaGen.Kernel
