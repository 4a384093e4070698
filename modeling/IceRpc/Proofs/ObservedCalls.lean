/-
Module: IceRpc.Proofs.ObservedCalls
Purpose: Calls as the observer sees them, where each stands while its samples are
  drained, and what the observer shows of it: its entry in the table, the responses it
  has deferred, its share of the gauge and of the latencies.
Trusted boundary: none
Main exports: ObservedCall, Observes, Standing, Monitor.Shows, Monitor.Moved,
  Monitor.Shows.move, Monitor.Shows.replayAll
-/
import IceRpc.Lib.Ending
import IceRpc.Lib.Run
import IceRpc.Lib.Table
import IceRpc.Monitor.Collector

namespace IceRpc

open Function (update update_eq_self update_of_ne update_self)

open Lib

/-! ### Calls and their samples -/

/-- A call as the observer can see it: one request, and responses of which only the
last is terminal, none stamped before the request. -/
structure ObservedCall where
  channel : String
  request : RpcHeader
  responses : List (String × RpcHeader)
  isRequest : request.eventKind = .request
  sameCall : ∀ response ∈ responses, response.2.correlationId = request.correlationId
  ends : EndsOnce (fun response => response.2.eventKind.isTerminal) responses
  notBefore : ∀ response ∈ responses, request.timestampNs ≤ response.2.timestampNs

namespace ObservedCall

variable (names : MethodNames) (call : ObservedCall)

def cid : CorrelationId := call.request.correlationId

/-- The key of the call's latency histogram. -/
def methodKey : String × UInt32 × String :=
  (call.channel, call.request.serviceId, methodOf names call.request)

/-- The key of the call's gauge. -/
def serviceKey : String × UInt32 :=
  (call.channel, call.request.serviceId)

/-- First response timestamp minus request timestamp. -/
def latencyNs : Nat :=
  match call.responses with
  | [] => 0
  | first :: _ => first.2.timestampNs.toNat - call.request.timestampNs.toNat

theorem responses_ne_nil (call : ObservedCall) : call.responses ≠ [] := by
  intro empty
  have ends := call.ends
  rw [empty] at ends
  exact not_endsOnce_nil ends

end ObservedCall

/-- The key of a response counter. -/
def responseKey (response : String × RpcHeader) : String × UInt32 × String :=
  (response.1, response.2.serviceId, response.2.eventKind.label)

namespace MonitorAction

/-- The sample of the request direction that is drained. -/
def requestSample : MonitorAction → Option (String × RpcHeader)
  | .request channel header .. => some (channel, header)
  | _ => none

/-- The sample of the response direction that is drained. -/
def responseSample : MonitorAction → Option (String × RpcHeader)
  | .response channel header .. => some (channel, header)
  | _ => none

/-- The drained response of one call. -/
def responseOf (cid : CorrelationId) (action : MonitorAction) :
    Option (String × RpcHeader) :=
  action.responseSample.filter fun response => response.2.correlationId = cid

end MonitorAction

/-- What is drained are the samples of the calls, each direction in some order that
keeps the responses of every call in theirs. -/
structure Observes (calls : List ObservedCall) (actions : List MonitorAction) : Prop where
  distinct : (calls.map ObservedCall.cid).Nodup
  requests : (actions.filterMap MonitorAction.requestSample).Perm
    (calls.map fun call => (call.channel, call.request))
  responses : (actions.filterMap MonitorAction.responseSample).Perm
    (calls.flatMap ObservedCall.responses)
  inOrder : ∀ call ∈ calls,
    actions.filterMap (MonitorAction.responseOf call.cid) = call.responses

/-! ### Where a call stands -/

/-- Where a call stands: whether its request was drained, the responses accounted
for, and those still deferred. -/
structure Standing where
  asked : Bool
  done : List (String × RpcHeader)
  waiting : List (String × RpcHeader)

/-- Nothing of the call was drained yet. -/
def Standing.unseen : Standing := { asked := false, done := [], waiting := [] }

namespace ObservedCall

variable (names : MethodNames) (call : ObservedCall) (view : Standing)

/-- The call is in the observer's table. -/
def isTracked : Bool :=
  view.asked && decide (view.done.length ≠ call.responses.length)

/-- The call's part in the gauge. -/
def flightShare : List (String × UInt32) :=
  if call.isTracked view then [call.serviceKey] else []

/-- The call's part in the latency histograms. -/
def latencyShare : List ((String × UInt32 × String) × Nat) :=
  if view.done.isEmpty then [] else [(call.methodKey names, call.latencyNs)]

/-- The request that is still to be drained. -/
def requestShare : List (String × RpcHeader) :=
  if view.asked then [] else [(call.channel, call.request)]

/-- The entry of the call in the table of calls in flight. -/
def Tracks (entry : Option PendingCall) : Prop :=
  if call.isTracked view then
    ∃ bytes started, entry = some
      { channel := call.channel
        serviceId := call.request.serviceId
        method := methodOf names call.request
        requestTsNs := call.request.timestampNs
        requestBytes := bytes
        firstResponseSeen := !view.done.isEmpty
        started := started }
  else entry = none

end ObservedCall

/-- The entry of a call among the deferred responses. -/
def Standing.Holds (view : Standing) (entry : Option DeferredResponses) : Prop :=
  if view.waiting.isEmpty then entry = none
  else ∃ channel since, entry = some
    { channel := channel, samples := view.waiting.map Prod.snd, since := since }

theorem Standing.holds_of_settled {view : Standing} {entry : Option DeferredResponses}
    (settled : view.waiting = []) : view.Holds entry ↔ entry = none := by
  rw [Standing.Holds, settled]
  rfl

theorem Standing.holds_of_waiting {view : Standing} {entry : Option DeferredResponses}
    (waits : view.waiting ≠ []) :
    view.Holds entry ↔ ∃ channel since, entry = some
      { channel := channel, samples := view.waiting.map Prod.snd, since := since } := by
  rw [Standing.Holds, if_neg]
  rwa [List.isEmpty_iff]

/-- What all calls together contribute. -/
def bag {β : Type} (share : ObservedCall → Standing → List β) (calls : List ObservedCall)
    (views : CorrelationId → Standing) : List β :=
  calls.flatMap fun call => share call (views call.cid)

/-- The observations of one histogram. -/
def ofKey {κ : Type} [DecidableEq κ] (key : κ) (observations : List (κ × Nat)) : List Nat :=
  (observations.filter fun observation => observation.1 = key).map Prod.snd

theorem ofKey_append {κ : Type} [DecidableEq κ] (key : κ) (first second : List (κ × Nat)) :
    ofKey key (first ++ second) = ofKey key first ++ ofKey key second := by
  simp [ofKey]

theorem ofKey_perm {κ : Type} [DecidableEq κ] (key : κ) {first second : List (κ × Nat)}
    (perm : first.Perm second) : (ofKey key first).Perm (ofKey key second) :=
  (perm.filter _).map _

namespace Monitor

/-- The observer shows where the calls stand. -/
structure Shows (names : MethodNames) (calls : List ObservedCall)
    (views : CorrelationId → Standing) (monitor : Monitor) : Prop where
  sound : ∀ call ∈ calls, ((views call.cid).asked = false → (views call.cid).done = []) ∧
    ((views call.cid).waiting ≠ [] → (views call.cid).done = [])
  tracked : ∀ call ∈ calls,
    call.Tracks names (views call.cid) (monitor.correlate.entries.lookup call.cid)
  held : ∀ call ∈ calls,
    (views call.cid).Holds (monitor.deferred.lookup call.cid)
  strange : ∀ cid, cid ∉ calls.map ObservedCall.cid → monitor.deferred.lookup cid = none
  inflight : ∀ key, monitor.metrics.inflight key =
    ((bag ObservedCall.flightShare calls views).count key : Nat)
  latency : ∀ key, (monitor.metrics.latency key).Perm
    (ofKey key (bag (ObservedCall.latencyShare names) calls views))
  matched : ∀ channel, monitor.metrics.unmatched channel = 0
  adopted : ∀ channel, monitor.metrics.orphan channel = 0
  inTime : monitor.metrics.clockSkew = 0

theorem bag_unseen {β : Type} (share : ObservedCall → Standing → List β)
    (calls : List ObservedCall) (nothing : ∀ call ∈ calls, share call .unseen = []) :
    bag share calls (fun _ => .unseen) = [] := by
  apply List.flatMap_eq_nil_iff.mpr
  exact nothing

theorem shows_new (names : MethodNames) (calls : List ObservedCall) (max ttl : Nat) :
    Shows names calls (fun _ => .unseen) (new max ttl) := by
  refine ⟨fun _ _ => ⟨fun _ => rfl, fun _ => rfl⟩, fun _ _ => rfl, fun _ _ => rfl,
    fun _ _ => rfl, ?_, ?_, fun _ => rfl, fun _ => rfl, rfl⟩
  · intro key
    rw [bag_unseen _ _ fun _ _ => rfl]
    rfl
  · intro key
    rw [bag_unseen _ _ fun _ _ => rfl]
    exact List.Perm.refl _

/-! ### One call moves on -/

section

variable {names : MethodNames} {calls : List ObservedCall}
  {views : CorrelationId → Standing} {monitor next : Monitor} {call : ObservedCall}

/-- What the observer owes when one call goes from one standing to another. -/
structure Moved (names : MethodNames) (call : ObservedCall) (before after : Standing)
    (monitor next : Monitor) : Prop where
  sound : (after.asked = false → after.done = []) ∧ (after.waiting ≠ [] → after.done = [])
  tracked : call.Tracks names after (next.correlate.entries.lookup call.cid)
  others : ∀ cid ≠ call.cid,
    next.correlate.entries.lookup cid = monitor.correlate.entries.lookup cid
  held : after.Holds (next.deferred.lookup call.cid)
  othersHeld : ∀ cid ≠ call.cid, next.deferred.lookup cid = monitor.deferred.lookup cid
  inflight : ∀ key, next.metrics.inflight key + ((call.flightShare before).count key : Nat) =
    monitor.metrics.inflight key + ((call.flightShare after).count key : Nat)
  latency : ∀ key, (next.metrics.latency key ++ ofKey key (call.latencyShare names before)).Perm
    (monitor.metrics.latency key ++ ofKey key (call.latencyShare names after))
  matched : next.metrics.unmatched = monitor.metrics.unmatched
  adopted : next.metrics.orphan = monitor.metrics.orphan
  inTime : next.metrics.clockSkew = monitor.metrics.clockSkew

/-- A call that moves on leaves the others as they are. -/
theorem Shows.move (shows : Shows names calls views monitor)
    (distinct : (calls.map ObservedCall.cid).Nodup) (listed : call ∈ calls)
    {after : Standing} (moved : Moved names call (views call.cid) after monitor next) :
    Shows names calls (update views call.cid after) next := by
  constructor
  · exact forall_mem_update
      (fun _ (view : Standing) =>
        (view.asked = false → view.done = []) ∧ (view.waiting ≠ [] → view.done = []))
      distinct listed moved.sound fun other member _ => shows.sound other member
  · apply forall_mem_update
      (fun (other : ObservedCall) view =>
        other.Tracks names view (next.correlate.entries.lookup other.cid))
      distinct listed moved.tracked
    intro other member different
    rw [moved.others _ different]
    exact shows.tracked other member
  · apply forall_mem_update
      (fun (other : ObservedCall) (view : Standing) => view.Holds (next.deferred.lookup other.cid))
      distinct listed moved.held
    intro other member different
    rw [moved.othersHeld _ different]
    exact shows.held other member
  · intro cid unknown
    have different : cid ≠ call.cid := by
      rintro rfl
      exact unknown (List.mem_map_of_mem listed)
    rw [moved.othersHeld _ different]
    exact shows.strange cid unknown
  · intro key
    have total := (flatMap_update_perm ObservedCall.flightShare ObservedCall.cid views
      distinct listed after).count_eq key
    rw [List.count_append, List.count_append] at total
    have change := moved.inflight key
    have now := shows.inflight key
    simp only [bag] at now ⊢
    omega
  · intro key
    have total := ofKey_perm key (flatMap_update_perm (ObservedCall.latencyShare names)
      ObservedCall.cid views distinct listed after)
    rw [ofKey_append, ofKey_append] at total
    have change := (moved.latency key).trans ((shows.latency key).append_right _)
    exact (List.perm_append_right_iff _).mp (change.trans total.symm)
  · rw [moved.matched]
    exact shows.matched
  · rw [moved.adopted]
    exact shows.adopted
  · rw [moved.inTime]
    exact shows.inTime

/-! ### A response is accounted for -/

/-- The response after those already seen is terminal exactly if it is the last. -/
theorem terminal_iff {done : List (String × RpcHeader)}
    {response : String × RpcHeader} (seen : done ++ [response] <+: call.responses) :
    response.2.eventKind.isTerminal = true ↔
      (done ++ [response]).length = call.responses.length := by
  obtain ⟨rest, split⟩ := seen
  have ends := call.ends
  rw [← split] at ends ⊢
  rcases List.eq_nil_or_concat rest with rfl | ⟨middle, last, rfl⟩
  · rw [List.append_nil] at ends ⊢
    exact iff_of_true (endsOnce_snoc.mp ends).2 rfl
  · rw [List.concat_eq_append, ← List.append_assoc] at ends
    have unended := (endsOnce_snoc.mp ends).1
    have going := unended_singleton.mp (unended_append.mp (unended_append.mp unended).1).2
    refine iff_of_false ?_ ?_
    · rw [going]
      exact Bool.false_ne_true
    · simp

theorem first_response {response : String × RpcHeader}
    (seen : [response] <+: call.responses) :
    call.request.timestampNs ≤ response.2.timestampNs ∧
      call.latencyNs =
        response.2.timestampNs.toNat - call.request.timestampNs.toNat := by
  obtain ⟨rest, split⟩ := seen
  have listed : response ∈ call.responses := by
    rw [← split]
    exact List.mem_append_left _ (List.mem_singleton_self _)
  refine ⟨call.notBefore response listed, ?_⟩
  rw [ObservedCall.latencyNs, ← split]
  rfl

/-- A call of which not every response is accounted for is in the table, once its
request is known. -/
theorem isTracked_of_prefix {view : Standing} {rest : List (String × RpcHeader)}
    (asked : view.asked = true) (more : rest ≠ [])
    (seen : view.done ++ rest <+: call.responses) : call.isTracked view = true := by
  have longer := List.length_pos_iff.mpr more
  have within := seen.length_le
  rw [List.length_append] at within
  simp only [ObservedCall.isTracked, asked, Bool.true_and, decide_eq_true_eq]
  omega

/-- The entry of such a call. -/
theorem Shows.entry (shows : Shows names calls views monitor) (listed : call ∈ calls)
    (isTracked : call.isTracked (views call.cid) = true) :
    ∃ pending, monitor.correlate.entries.lookup call.cid = some pending := by
  have tracked := shows.tracked call listed
  rw [ObservedCall.Tracks, if_pos isTracked] at tracked
  obtain ⟨bytes, started, entry⟩ := tracked
  exact ⟨_, entry⟩

/-- What a response of a tracked call does to the counters, when the clock is right:
its latency is observed if it is the first, and the call is no longer in flight if it
is terminal. -/
theorem completeResponse_metrics (monitor : Monitor) (header : RpcHeader)
    (call : PendingCall)
    (inTime : call.firstResponseSeen = false → call.requestTsNs ≤ header.timestampNs) :
    (monitor.completeResponse header call).metrics =
      { monitor.metrics with
        latency :=
          if call.firstResponseSeen then monitor.metrics.latency
          else update monitor.metrics.latency
            (call.channel, call.serviceId, call.method)
            (monitor.metrics.latency (call.channel, call.serviceId, call.method) ++
              [header.timestampNs.toNat - call.requestTsNs.toNat])
        inflight :=
          if header.eventKind.isTerminal then
            update monitor.metrics.inflight (call.channel, call.serviceId)
              (monitor.metrics.inflight (call.channel, call.serviceId) + -1)
          else monitor.metrics.inflight } := by
  unfold completeResponse
  cases seen : call.firstResponseSeen with
  | true => cases header.eventKind.isTerminal <;> rfl
  | false =>
      simp only [Bool.false_eq_true, if_false, inTime seen, if_true]
      cases header.eventKind.isTerminal <;> rfl

/-- The gauge of a call that is accounted for. -/
theorem inflight_share (gauge : String × UInt32 → Int) (call : ObservedCall)
    (terminal : Bool) (key : String × UInt32) :
    (if terminal then update gauge call.serviceKey (gauge call.serviceKey + -1)
      else gauge) key + ([call.serviceKey].count key : Nat) =
      gauge key + ((if terminal then [] else [call.serviceKey]).count key : Nat) := by
  cases terminal with
  | false => rfl
  | true =>
      by_cases same : key = call.serviceKey
      · subst same
        simp only [if_true, update_self, List.count_singleton_self,
          List.count_nil]
        omega
      · simp [update_of_ne same, Ne.symm same]

/-- The histogram of a call whose first response is accounted for. -/
theorem latency_share (histogram : String × UInt32 × String → List Nat)
    (own key : String × UInt32 × String) (nanos : Nat) :
    (update histogram own (histogram own ++ [nanos])) key =
      histogram key ++ ofKey key [(own, nanos)] := by
  by_cases same : key = own
  · subst same
    simp [ofKey]
  · simp [ofKey, update_of_ne same, Ne.symm same]

theorem onResponse_of_lookup {table : Correlate} {cid : CorrelationId}
    {call : PendingCall} (terminal : Bool) (found : table.entries.lookup cid = some call) :
    table.onResponse cid terminal =
      (.matched call,
        { table with
          entries :=
            if terminal then table.entries.erase cid
            else table.entries.insert cid { call with firstResponseSeen := true } }) := by
  rw [Correlate.onResponse, found]
  cases terminal <;> rfl

/-- With its next response accounted for, a call is in the table unless that response
is terminal. -/
theorem isTracked_after {view : Standing} {response : String × RpcHeader}
    (asked : view.asked = true)
    (seen : view.done ++ [response] <+: call.responses) :
    call.isTracked { view with done := view.done ++ [response] } =
      !response.2.eventKind.isTerminal := by
  have isLast := terminal_iff seen
  rw [ObservedCall.isTracked, asked, Bool.true_and, Bool.eq_iff_iff, decide_eq_true_iff,
    Bool.not_eq_true', ← Bool.not_eq_true]
  exact (not_congr isLast).symm

@[simp] theorem completeResponse_correlate (monitor : Monitor) (header : RpcHeader)
    (call : PendingCall) :
    (monitor.completeResponse header call).correlate = monitor.correlate := rfl

@[simp] theorem completeResponse_deferred (monitor : Monitor) (header : RpcHeader)
    (call : PendingCall) :
    (monitor.completeResponse header call).deferred = monitor.deferred := rfl

/-- A response of a tracked call that has none deferred is accounted for. -/
theorem replaySample_moved {view : Standing} {response : String × RpcHeader}
    (asked : view.asked = true) (settled : view.waiting = [])
    (seen : view.done ++ [response] <+: call.responses)
    (tracked : call.Tracks names view (monitor.correlate.entries.lookup call.cid))
    (held : view.Holds (monitor.deferred.lookup call.cid)) :
    Moved names call view { view with done := view.done ++ [response] } monitor
      (replaySample call.cid monitor response.2) := by
  have isTracked := isTracked_of_prefix asked (List.cons_ne_nil _ _) seen
  have stays := isTracked_after asked seen
  rw [ObservedCall.Tracks, if_pos isTracked] at tracked
  obtain ⟨bytes, started, entry⟩ := tracked
  have inTime : (!view.done.isEmpty) = false →
      call.request.timestampNs ≤ response.2.timestampNs := by
    intro nothing
    have first : view.done = [] := by simpa using nothing
    rw [first] at seen
    exact (first_response seen).1
  unfold replaySample
  simp only [onResponse_of_lookup _ entry]
  constructor
  · refine ⟨?_, fun waits => absurd settled waits⟩
    intro unasked
    rw [asked] at unasked
    cases unasked
  · rw [completeResponse_correlate, ObservedCall.Tracks, stays]
    cases response.2.eventKind.isTerminal with
    | true => exact AList.lookup_erase ..
    | false => exact ⟨bytes, started, by simp [AList.lookup_insert]⟩
  · intro cid different
    rw [completeResponse_correlate]
    cases response.2.eventKind.isTerminal with
    | true => exact AList.lookup_erase_ne different
    | false => exact AList.lookup_insert_ne different
  · exact held
  · exact fun _ _ => rfl
  · intro key
    rw [completeResponse_metrics _ _ _ inTime]
    have share := inflight_share monitor.metrics.inflight call
      response.2.eventKind.isTerminal key
    rw [ObservedCall.flightShare, ObservedCall.flightShare, if_pos isTracked, stays]
    cases terminal : response.2.eventKind.isTerminal <;> rw [terminal] at share <;>
      exact share
  · intro key
    rw [completeResponse_metrics _ _ _ inTime]
    cases nothing : view.done.isEmpty with
    | true =>
        -- the first response: its latency is what the call contributes from now on
        have first : view.done = [] := List.isEmpty_iff.mp nothing
        rw [first, List.nil_append] at seen
        have share := latency_share monitor.metrics.latency (call.methodKey names) key
          call.latencyNs
        rw [ObservedCall.latencyShare, ObservedCall.latencyShare, first]
        simp only [List.isEmpty_nil, if_true, List.nil_append, ofKey, List.filter_nil,
          List.map_nil, List.append_nil]
        rw [(first_response seen).2] at share ⊢
        exact List.Perm.of_eq share
    | false =>
        rw [ObservedCall.latencyShare, ObservedCall.latencyShare, nothing]
        simp
  · rw [completeResponse_metrics _ _ _ inTime]
  · rw [completeResponse_metrics _ _ _ inTime]
  · rw [completeResponse_metrics _ _ _ inTime]

/-! ### A deferred stream is replayed -/

theorem Shows.replaySample (shows : Shows names calls views monitor)
    (distinct : (calls.map ObservedCall.cid).Nodup) (listed : call ∈ calls)
    (asked : (views call.cid).asked = true)
    (settled : (views call.cid).waiting = []) {response : String × RpcHeader}
    (seen : (views call.cid).done ++ [response] <+: call.responses) :
    Shows names calls
      (update views call.cid
        { views call.cid with done := (views call.cid).done ++ [response] })
      (monitor.replaySample call.cid response.2) :=
  shows.move distinct listed (replaySample_moved asked settled seen
    (shows.tracked call listed) (shows.held call listed))

/-- The samples of a stream are accounted for one after the other. -/
theorem Shows.replaySamples (shows : Shows names calls views monitor)
    (distinct : (calls.map ObservedCall.cid).Nodup) (listed : call ∈ calls)
    (asked : (views call.cid).asked = true)
    (settled : (views call.cid).waiting = []) {samples : List (String × RpcHeader)}
    (seen : (views call.cid).done ++ samples <+: call.responses) :
    Shows names calls
      (update views call.cid
        { views call.cid with done := (views call.cid).done ++ samples })
      ((samples.map Prod.snd).foldl (Monitor.replaySample call.cid) monitor) := by
  induction samples generalizing views monitor with
  | nil => simpa using shows
  | cons response rest ih =>
      have seenFirst : (views call.cid).done ++ [response] <+: call.responses := by
        refine List.IsPrefix.trans ⟨rest, ?_⟩ seen
        simp
      have next := shows.replaySample distinct listed asked settled seenFirst
      have later := ih next (by simpa using asked) (by simpa using settled)
        (by simpa using seen)
      simpa using later

/-- A call with its deferred responses replayed, if its request is known. -/
def settle (view : Standing) : Standing :=
  if view.asked then { view with done := view.done ++ view.waiting, waiting := [] }
  else view

theorem settle_of_settled {view : Standing} (settled : view.waiting = []) :
    settle view = view := by
  cases view
  cases settled
  simp [settle]

/-- The deferred responses leave the buffer, to be replayed. -/
theorem Shows.release (shows : Shows names calls views monitor)
    (distinct : (calls.map ObservedCall.cid).Nodup) (listed : call ∈ calls) :
    Shows names calls
      (update views call.cid { views call.cid with waiting := [] })
      { monitor with deferred := monitor.deferred.erase call.cid } := by
  apply shows.move distinct listed
  constructor
  · exact ⟨(shows.sound call listed).1, fun waits => absurd rfl waits⟩
  · exact shows.tracked call listed
  · exact fun _ _ => rfl
  · exact AList.lookup_erase ..
  · exact fun _ different => AList.lookup_erase_ne different
  · exact fun _ => rfl
  · exact fun _ => List.Perm.refl _
  · rfl
  · rfl
  · rfl

theorem Shows.replay (shows : Shows names calls views monitor)
    (distinct : (calls.map ObservedCall.cid).Nodup) (listed : call ∈ calls)
    (asked : (views call.cid).asked = true)
    (seen : (views call.cid).done ++ (views call.cid).waiting <+: call.responses) :
    Shows names calls (update views call.cid (settle (views call.cid)))
      (monitor.replay call.cid) := by
  have holds := shows.held call listed
  unfold Monitor.replay
  by_cases nothing : (views call.cid).waiting = []
  · rw [(Standing.holds_of_settled nothing).mp holds, settle_of_settled nothing,
      update_eq_self]
    exact shows
  · obtain ⟨channel, since, entry⟩ := (Standing.holds_of_waiting nothing).mp holds
    have released := shows.release distinct listed
    have inHand : (update views call.cid
        { views call.cid with waiting := [] } call.cid).done ++ (views call.cid).waiting <+:
        call.responses := by
      simpa using seen
    have replayed := released.replaySamples distinct listed (by simpa using asked)
      (by simp) inHand
    simpa [entry, settle, asked] using replayed

@[simp] theorem settle_asked (view : Standing) : (settle view).asked = view.asked := by
  cases asked : view.asked <;> simp [settle, asked]

theorem settle_seen (view : Standing) :
    (settle view).done ++ (settle view).waiting = view.done ++ view.waiting := by
  cases asked : view.asked <;> simp [settle, asked]

theorem settle_waiting {view : Standing} (asked : view.asked = true) :
    (settle view).waiting = [] := by
  rw [settle, if_pos asked]

theorem settle_settle (view : Standing) : settle (settle view) = settle view := by
  cases asked : view.asked with
  | true => exact settle_of_settled (settle_waiting asked)
  | false => simp [settle, asked]

/-- The calls with these ids are settled. -/
def settleAll (order : List CorrelationId) (views : CorrelationId → Standing)
    (cid : CorrelationId) : Standing :=
  if cid ∈ order then settle (views cid) else views cid

theorem settleAll_cons (cid : CorrelationId) (order : List CorrelationId)
    (views : CorrelationId → Standing) :
    settleAll (cid :: order) views =
      settleAll order (update views cid (settle (views cid))) := by
  funext other
  unfold settleAll
  by_cases same : other = cid
  · subst same
    simp [settle_settle]
  · simp [same]

/-- Replaying settles the calls whose requests are known, in whatever order. -/
theorem Shows.replayAll {order : List CorrelationId}
    (shows : Shows names calls views monitor)
    (distinct : (calls.map ObservedCall.cid).Nodup)
    (known : ∀ cid ∈ order, ∃ call ∈ calls, call.cid = cid ∧ (views cid).asked = true)
    (seen : ∀ call ∈ calls,
      (views call.cid).done ++ (views call.cid).waiting <+: call.responses) :
    Shows names calls (settleAll order views) (order.foldl Monitor.replay monitor) := by
  induction order generalizing views monitor with
  | nil => exact shows
  | cons cid order ih =>
      obtain ⟨call, listed, rfl, asked⟩ := known cid (List.mem_cons_self ..)
      rw [settleAll_cons, List.foldl_cons]
      refine ih (shows.replay distinct listed asked (seen call listed)) ?_ ?_
      · intro other member
        obtain ⟨second, listedSecond, rfl, askedSecond⟩ :=
          known other (List.mem_cons_of_mem _ member)
        refine ⟨second, listedSecond, rfl, ?_⟩
        by_cases same : second.cid = call.cid
        · rw [same, update_self, settle_asked]
          exact asked
        · rw [update_of_ne same]
          exact askedSecond
      · apply forall_mem_update
          (fun (second : ObservedCall) (view : Standing) =>
            view.done ++ view.waiting <+: second.responses)
          distinct listed
        · rw [settle_seen]
          exact seen call listed
        · exact fun second listedSecond _ => seen second listedSecond

end

/-! ### The buffer while it is resolved -/

theorem replaySample_deferred (cid : CorrelationId) (monitor : Monitor)
    (header : RpcHeader) :
    (replaySample cid monitor header).deferred = monitor.deferred := by
  unfold replaySample
  split <;> rfl

/-- What is deferred after a replay was deferred before. -/
theorem lookup_of_replay {monitor : Monitor} {cid other : CorrelationId}
    {entry : DeferredResponses}
    (found : (monitor.replay cid).deferred.lookup other = some entry) :
    monitor.deferred.lookup other = some entry := by
  unfold replay at found
  split at found
  · exact found
  · rw [foldl_keeps Monitor.deferred (replaySample_deferred cid)] at found
    by_cases same : other = cid
    · subst same
      rw [AList.lookup_erase] at found
      cases found
    · rw [AList.lookup_erase_ne same] at found
      exact found

theorem lookup_of_replayAll {order : List CorrelationId} {monitor : Monitor}
    {cid : CorrelationId} {entry : DeferredResponses}
    (found : (order.foldl replay monitor).deferred.lookup cid = some entry) :
    monitor.deferred.lookup cid = some entry := by
  induction order generalizing monitor with
  | nil => exact found
  | cons first order ih => exact lookup_of_replay (ih found)

theorem retain_of_all {V : Type} {map : CidMap V} {keep : CorrelationId → V → Bool}
    (all : ∀ cid value, map.lookup cid = some value → keep cid value = true) :
    map.retain keep = map := by
  apply AList.ext
  apply List.filter_eq_self.mpr
  intro entry listed
  exact all entry.1 entry.2 (AList.mem_lookup_iff.mpr listed)

theorem filter_entries_of_none {V : Type} {map : CidMap V} {test : CorrelationId → V → Bool}
    (none_ : ∀ cid value, map.lookup cid = some value → test cid value = false) :
    map.entries.filter (fun entry => test entry.1 entry.2) = [] := by
  apply List.filter_eq_nil_iff.mpr
  intro entry listed
  rw [none_ entry.1 entry.2 (AList.mem_lookup_iff.mpr listed)]
  exact Bool.false_ne_true

theorem expireDeferred_of_none {monitor : Monitor} {now : Nat}
    (fresh : ∀ cid entry, monitor.deferred.lookup cid = some entry →
      isExpired now entry = false) : monitor.expireDeferred now = monitor := by
  unfold expireDeferred
  rw [filter_entries_of_none fresh, retain_of_all]
  · rfl
  · intro cid entry found
    rw [fresh cid entry found]
    rfl

/-- A sweep that finds no call too old changes nothing. -/
theorem sweep_of_none {monitor : Monitor} {now : CorrelationId → Nat}
    (young : ∀ cid call, monitor.correlate.entries.lookup cid = some call →
      now cid - call.started < monitor.correlate.ttl) : monitor.sweep now = monitor := by
  have keeps : ∀ cid call, monitor.correlate.entries.lookup cid = some call →
      decide (monitor.correlate.ttl ≤ now cid - call.started) = false := by
    intro cid call found
    exact decide_eq_false (Nat.not_le.mpr (young cid call found))
  simp only [sweep, Correlate.sweep]
  rw [filter_entries_of_none keeps, retain_of_all]
  · rfl
  · intro cid call found
    rw [keeps cid call found]
    rfl

end Monitor

end IceRpc
