/-
Module: IceRpc.Proofs.OneProxy
Purpose: Concurrent lookups of one service, in the locator and in the HTTP gateway: all
  answers are the cached instance exactly if no call inserts after another has.
Trusted boundary: none
Main exports: Locator.slot, LocatorInv, Locator.lateWrite, HttpGatewayState.slot, ViewInv,
  HttpGatewayState.lateWrite, one_proxy_per_service_iff
-/
import IceRpc.HttpGateway
import IceRpc.Lib.LazySlot
import IceRpc.Lib.Table
import IceRpc.Locator

namespace IceRpc

open Lib

/-! ### The locator -/

/-- The phases of a lookup as the cache sees them. -/
def GetPhase.slot : GetPhase → SlotPhase Instance
  | .started | .unregistered => .looking
  | .missed => .missed
  | .built proxy => .built proxy
  | .returned answer => .returned answer

namespace Locator

/-- The cache entry of one service, and the calls for it. -/
def slot (service : ServiceType) (locator : Locator) : Slot Instance :=
  slotOf GetCall.service (fun call => call.phase.slot) service (locator.lazyCache service.name)
    locator.calls

/-- Actions that leave the service unregistered and its name to its own type. -/
def allows (service : ServiceType) : LocatorAction → Bool
  | .register other => decide (other.name ≠ service.name)
  | .call _ other => decide (other.name = service.name → other = service)
  | _ => true

/-- A call for the service enters its write section, and a proxy is cached already. -/
def lateWrite (service : ServiceType) (locator : Locator) : LocatorAction → Bool
  | .writeCache index =>
      match locator.calls[index]? with
      | some call => call.service = service && (locator.lazyCache service.name).isSome
      | none => false
  | _ => false

end Locator

/-- A service that is not registered: its proxies are of its type, and no address is used
twice. -/
structure LocatorInv (service : ServiceType) (locator : Locator) : Prop where
  unregistered : locator.entries service.name = none
  ownName : ∀ call ∈ locator.calls, call.service.name = service.name → call.service = service
  cached : ∀ found, locator.lazyCache service.name = some found →
    found.typeId = service.typeId ∧ found.address < locator.nextAddress
  built : ∀ call ∈ locator.calls, ∀ proxy, call.phase.slot = .built proxy →
    proxy.typeId = call.service.typeId ∧ proxy.address < locator.nextAddress

section Locators

variable {service : ServiceType} {locator : Locator} {index : Nat} {call : GetCall}

/-- A call goes on without a new proxy. -/
theorem LocatorInv.setPhase (inv : LocatorInv service locator)
    (found : locator.calls[index]? = some call) {phase : GetPhase}
    (fine : ∀ proxy, phase.slot = .built proxy →
      proxy.typeId = call.service.typeId ∧ proxy.address < locator.nextAddress) :
    LocatorInv service (locator.setPhase index call phase) where
  unregistered := inv.unregistered
  ownName := forall_mem_set inv.ownName (inv.ownName call (List.mem_of_getElem? found))
  cached := inv.cached
  built := forall_mem_set inv.built fine

/-- Addresses are given out in order. -/
theorem LocatorInv.allocate (inv : LocatorInv service locator) :
    LocatorInv service { locator with nextAddress := locator.nextAddress + 1 } where
  unregistered := inv.unregistered
  ownName := inv.ownName
  cached found isCached := by
    obtain ⟨type, used⟩ := inv.cached found isCached
    exact ⟨type, Nat.lt_succ_of_lt used⟩
  built other member proxy isBuilt := by
    obtain ⟨type, used⟩ := inv.built other member proxy isBuilt
    exact ⟨type, Nat.lt_succ_of_lt used⟩

/-- What a section can do. -/
inductive Locator.Steps (locator : Locator) : LocatorAction → Locator → Prop where
  | register (service : ServiceType) :
      Steps locator (.register service)
        { locator with
          entries := Function.update locator.entries service.name
            (some { typeId := service.typeId, address := locator.nextAddress })
          nextAddress := locator.nextAddress + 1 }
  | call (blocking : Bool) (service : ServiceType) :
      Steps locator (.call blocking service)
        { locator with
          calls := locator.calls ++
            [{ blocking := blocking, service := service, phase := .started }] }
  | registered {index : Nat} {call : GetCall} {entry : Instance} :
      locator.calls[index]? = some call → call.phase = .started →
      locator.entries call.service.name = some entry →
      Steps locator (.readEntries index)
        (locator.setPhase index call (.returned (entry.downcast call.service)))
  | unregistered {index : Nat} {call : GetCall} :
      locator.calls[index]? = some call → call.phase = .started →
      Steps locator (.readEntries index) (locator.setPhase index call .unregistered)
  | hit {index : Nat} {call : GetCall} {cached : Instance} :
      locator.calls[index]? = some call → call.phase = .unregistered →
      locator.lazyCache call.service.name = some cached →
      Steps locator (.readCache index)
        (locator.setPhase index call (.returned (cached.downcast call.service)))
  | miss {index : Nat} {call : GetCall} :
      locator.calls[index]? = some call → call.phase = .unregistered →
      locator.lazyCache call.service.name = none →
      Steps locator (.readCache index) (locator.setPhase index call .missed)
  | build {index : Nat} {call : GetCall} :
      locator.calls[index]? = some call → call.phase = .missed →
      Steps locator (.consumeProxy index)
        { locator.setPhase index call (.built
            { typeId := call.service.typeId, address := locator.nextAddress }) with
          nextAddress := locator.nextAddress + 1 }
  | write {index : Nat} {call : GetCall} {proxy : Instance} :
      locator.calls[index]? = some call → call.phase = .built proxy →
      Steps locator (.writeCache index)
        { locator.setPhase index call (.returned (some proxy)) with
          lazyCache := Function.update locator.lazyCache call.service.name
            (some ((locator.lazyCache call.service.name).getD proxy)) }

theorem Locator.steps_of_step {next : Locator} {action : LocatorAction}
    (performed : locator.step action = some next) : locator.Steps action next := by
  cases action with
  | register service =>
      cases performed
      exact .register service
  | call blocking service =>
      cases performed
      exact .call blocking service
  | readEntries index =>
      obtain ⟨call, found, rest⟩ := Option.bind_eq_some_iff.mp performed
      split at rest
      · rename_i here
        split at rest
        · cases rest
          exact .registered found here ‹_›
        · cases rest
          exact .unregistered found here
      · cases rest
  | readCache index =>
      obtain ⟨call, found, rest⟩ := Option.bind_eq_some_iff.mp performed
      split at rest
      · rename_i here
        split at rest
        · cases rest
          exact .hit found here ‹_›
        · cases rest
          exact .miss found here ‹_›
      · cases rest
  | consumeProxy index =>
      obtain ⟨call, found, rest⟩ := Option.bind_eq_some_iff.mp performed
      split at rest
      · rename_i here
        cases rest
        exact .build found here
      · cases rest
  | writeCache index =>
      obtain ⟨call, found, rest⟩ := Option.bind_eq_some_iff.mp performed
      split at rest
      · rename_i here
        cases rest
        exact .write found here
      · cases rest

/-- Every allowed section keeps the invariant. -/
theorem LocatorInv.kept {next : Locator} {action : LocatorAction}
    (inv : LocatorInv service locator) (allowed : Locator.allows service action = true)
    (performed : locator.step action = some next) : LocatorInv service next := by
  cases Locator.steps_of_step performed with
  | register other =>
      have differ : service.name ≠ other.name := (of_decide_eq_true allowed).symm
      refine ⟨?_, inv.ownName, inv.allocate.cached, inv.allocate.built⟩
      exact (Function.update_of_ne differ _ _).trans inv.unregistered
  | call blocking other =>
      have own := of_decide_eq_true allowed
      exact ⟨inv.unregistered,
        List.forall_mem_append.mpr ⟨inv.ownName, List.forall_mem_singleton.mpr own⟩, inv.cached,
        List.forall_mem_append.mpr ⟨inv.built, List.forall_mem_singleton.mpr nofun⟩⟩
  | registered found _ _ => exact inv.setPhase found nofun
  | unregistered found _ => exact inv.setPhase found nofun
  | hit found _ _ => exact inv.setPhase found nofun
  | miss found _ _ => exact inv.setPhase found nofun
  | build found _ =>
      apply inv.allocate.setPhase found
      rintro proxy same
      cases same
      exact ⟨rfl, Nat.lt_succ_self _⟩
  | @write index call proxy found here =>
      have answered : LocatorInv service (locator.setPhase index call (.returned (some proxy))) :=
        inv.setPhase found nofun
      refine ⟨answered.unregistered, answered.ownName, ?_, answered.built⟩
      intro cached isCached
      rcases update_getD_cases isCached with ⟨name, rfl⟩ | before
      · have member := List.mem_of_getElem? found
        rw [← inv.ownName call member name.symm]
        exact inv.built call member cached (here ▸ rfl)
      · exact inv.cached cached before

/-- Every allowed section is a move of the service's entry. -/
theorem LocatorInv.moved {next : Locator} {action : LocatorAction}
    (inv : LocatorInv service locator) (performed : locator.step action = some next) :
    SlotMove (locator.slot service) (locator.lateWrite service action) (next.slot service) := by
  cases Locator.steps_of_step performed with
  | register other => exact SlotMove.idle _
  | call blocking other => exact slotMove_snoc rfl
  | @registered index call entry found here registered =>
      have other : call.service ≠ service := by
        rintro rfl
        rw [inv.unregistered] at registered
        cases registered
      exact slotMove_same found (phaseFor_other other rfl)
  | unregistered found here => exact slotMove_same found (by simp [phaseFor, here, GetPhase.slot])
  | @hit index call cached found here isCached =>
      refine slotMove_hit found rfl (here ▸ rfl) ?_
      rintro rfl
      have type := (inv.cached cached isCached).1
      exact ⟨cached, congrArg SlotPhase.returned (if_pos type), isCached⟩
  | miss found here empty =>
      refine slotMove_miss found rfl (here ▸ rfl) rfl ?_
      rintro rfl
      exact empty
  | build found here =>
      -- the address is new, so the proxy is neither cached nor built by another call
      refine slotMove_build found rfl (here ▸ rfl) rfl ?_ ?_
      · intro isCached
        exact Nat.lt_irrefl _ (inv.cached _ isCached).2
      · intro one member isBuilt
        exact Nat.lt_irrefl _ (inv.built one member _ isBuilt).2
  | @write index call proxy found here =>
      have flag : locator.lateWrite service (.writeCache index) =
          (call.service = service && (locator.lazyCache service.name).isSome) := by
        simp only [Locator.lateWrite, found]
      rw [flag]
      refine slotMove_write found rfl (here ▸ rfl) rfl ?_ ?_
      · rintro rfl
        exact Function.update_self ..
      · intro differ
        exact Function.update_of_ne (fun same =>
          differ (inv.ownName call (List.mem_of_getElem? found) same.symm)) ..

/-- Every lookup of the service that has answered gave the cached proxy, which every later
one finds. -/
def Locator.OneProxy (service : ServiceType) (locator : Locator) : Prop :=
  ∀ (index : Nat) (call : GetCall) (answer : Option Instance),
    locator.calls[index]? = some call → call.service = service →
    call.phase = .returned answer →
    ∃ proxy, answer = some proxy ∧ locator.lazyCache service.name = some proxy

theorem GetPhase.slot_eq_returned {phase : GetPhase} {answer : Option Instance} :
    phase.slot = .returned answer ↔ phase = .returned answer := by
  cases phase <;> simp [GetPhase.slot]

theorem Locator.oneProxy_iff : locator.OneProxy service ↔ SlotAgrees (locator.slot service) := by
  simp only [Locator.slot, slotAgrees_slotOf, GetPhase.slot_eq_returned]
  rfl

/-- All lookups of a service that is never registered answer with the cached proxy exactly
if none of them enters its write section after another has inserted. -/
theorem Locator.agrees_iff (service : ServiceType) {actions : List LocatorAction}
    {final : Locator} (allowed : ∀ action ∈ actions, Locator.allows service action = true)
    (performed : run Locator.step .new actions = some final) :
    final.OneProxy service ↔
      StepsMeet Locator.step (fun locator action => locator.lateWrite service action = false)
        .new actions := by
  rw [Locator.oneProxy_iff]
  apply slot_agrees_iff (LocatorInv service) (Locator.slot service) (Locator.lateWrite service)
    (Locator.allows service)
  · intro locator action next inv may step
    exact inv.kept may step
  · intro locator action next inv _ step
    exact inv.moved step
  · exact ⟨rfl, nofun, nofun, nofun⟩
  · intro call
    rfl
  · exact allowed
  · exact performed

end Locators

/-! ### The gateway -/

/-- The phases of a call as the cache sees them. -/
def ViewPhase.slot : ViewPhase → SlotPhase Nat
  | .started => .looking
  | .missed => .missed
  | .built view => .built view
  | .returned answer => .returned answer

namespace HttpGatewayState

/-- The cache entry of one service, and the calls for it. -/
def slot (service : String) (gateway : HttpGatewayState) : Slot Nat :=
  slotOf ViewCall.service (fun call => call.phase.slot) service (gateway.cache service)
    gateway.calls

/-- A call for the service enters its write section, and a view is cached already. -/
def lateWrite (service : String) (gateway : HttpGatewayState) : ViewAction → Bool
  | .writeCache index =>
      match gateway.calls[index]? with
      | some call => call.service = service && (gateway.cache service).isSome
      | none => false
  | _ => false

end HttpGatewayState

/-- A service that is exposed, and no address used twice. -/
structure ViewInv (service : String) (gateway : HttpGatewayState) : Prop where
  exposed : gateway.factories.contains service = true
  cached : ∀ view, gateway.cache service = some view → view < gateway.nextAddress
  built : ∀ call ∈ gateway.calls, ∀ view, call.phase.slot = .built view →
    view < gateway.nextAddress

section Gateways

variable {service : String} {gateway : HttpGatewayState} {index : Nat} {call : ViewCall}

theorem ViewInv.setPhase (inv : ViewInv service gateway) {phase : ViewPhase}
    (fine : ∀ view, phase.slot = .built view → view < gateway.nextAddress) :
    ViewInv service (gateway.setPhase index call phase) where
  exposed := inv.exposed
  cached := inv.cached
  built := forall_mem_set inv.built fine

theorem ViewInv.allocate (inv : ViewInv service gateway) :
    ViewInv service { gateway with nextAddress := gateway.nextAddress + 1 } where
  exposed := inv.exposed
  cached view isCached := Nat.lt_succ_of_lt (inv.cached view isCached)
  built other member view isBuilt := Nat.lt_succ_of_lt (inv.built other member view isBuilt)

/-- What a section can do. -/
inductive HttpGatewayState.Steps (gateway : HttpGatewayState) :
    ViewAction → HttpGatewayState → Prop where
  | call (service : String) :
      Steps gateway (.call service)
        { gateway with
          calls := gateway.calls ++ [{ service := service, phase := .started }] }
  | hit {index : Nat} {call : ViewCall} {view : Nat} :
      gateway.calls[index]? = some call → call.phase = .started →
      gateway.cache call.service = some view →
      Steps gateway (.readCache index) (gateway.setPhase index call (.returned (some view)))
  | miss {index : Nat} {call : ViewCall} :
      gateway.calls[index]? = some call → call.phase = .started →
      gateway.cache call.service = none →
      Steps gateway (.readCache index) (gateway.setPhase index call .missed)
  | unknown {index : Nat} {call : ViewCall} :
      gateway.calls[index]? = some call → gateway.factories.contains call.service = false →
      Steps gateway (.create index) (gateway.setPhase index call (.returned none))
  | build {index : Nat} {call : ViewCall} :
      gateway.calls[index]? = some call → call.phase = .missed →
      Steps gateway (.create index)
        { gateway.setPhase index call (.built gateway.nextAddress) with
          nextAddress := gateway.nextAddress + 1 }
  | write {index : Nat} {call : ViewCall} {view : Nat} :
      gateway.calls[index]? = some call → call.phase = .built view →
      Steps gateway (.writeCache index)
        { gateway.setPhase index call (.returned (some view)) with
          cache := Function.update gateway.cache call.service
            (some ((gateway.cache call.service).getD view)) }

theorem HttpGatewayState.steps_of_step {next : HttpGatewayState} {action : ViewAction}
    (performed : gateway.step action = some next) : gateway.Steps action next := by
  cases action with
  | call service =>
      cases performed
      exact .call service
  | readCache index =>
      obtain ⟨call, found, rest⟩ := Option.bind_eq_some_iff.mp performed
      split at rest
      · rename_i here
        split at rest
        · cases rest
          exact .hit found here ‹_›
        · cases rest
          exact .miss found here ‹_›
      · cases rest
  | create index =>
      obtain ⟨call, found, rest⟩ := Option.bind_eq_some_iff.mp performed
      split at rest
      · rename_i here
        split at rest
        · cases rest
          exact .build found here
        · rename_i hidden
          cases rest
          exact .unknown found (Bool.eq_false_of_not_eq_true hidden)
      · cases rest
  | writeCache index =>
      obtain ⟨call, found, rest⟩ := Option.bind_eq_some_iff.mp performed
      split at rest
      · rename_i here
        cases rest
        exact .write found here
      · cases rest

/-- Every section keeps the invariant. -/
theorem ViewInv.kept {next : HttpGatewayState} {action : ViewAction}
    (inv : ViewInv service gateway) (performed : gateway.step action = some next) :
    ViewInv service next := by
  cases HttpGatewayState.steps_of_step performed with
  | call other =>
      exact ⟨inv.exposed, inv.cached,
        List.forall_mem_append.mpr ⟨inv.built, List.forall_mem_singleton.mpr nofun⟩⟩
  | hit _ _ _ => exact inv.setPhase nofun
  | miss _ _ _ => exact inv.setPhase nofun
  | unknown _ _ => exact inv.setPhase nofun
  | build _ _ =>
      apply inv.allocate.setPhase
      rintro view same
      cases same
      exact Nat.lt_succ_self _
  | @write index call view found here =>
      have answered : ViewInv service (gateway.setPhase index call (.returned (some view))) :=
        inv.setPhase nofun
      refine ⟨answered.exposed, ?_, answered.built⟩
      intro cached isCached
      rcases update_getD_cases isCached with ⟨-, rfl⟩ | before
      · exact inv.built call (List.mem_of_getElem? found) cached (here ▸ rfl)
      · exact inv.cached cached before

/-- Every section is a move of the service's entry. -/
theorem ViewInv.moved {next : HttpGatewayState} {action : ViewAction}
    (inv : ViewInv service gateway) (performed : gateway.step action = some next) :
    SlotMove (gateway.slot service) (gateway.lateWrite service action) (next.slot service) := by
  cases HttpGatewayState.steps_of_step performed with
  | call other => exact slotMove_snoc rfl
  | hit found here isCached =>
      refine slotMove_hit found rfl (here ▸ rfl) ?_
      rintro rfl
      exact ⟨_, rfl, isCached⟩
  | miss found here empty =>
      refine slotMove_miss found rfl (here ▸ rfl) rfl ?_
      rintro rfl
      exact empty
  | @unknown index call found hidden =>
      have other : call.service ≠ service := by
        rintro rfl
        rw [inv.exposed] at hidden
        cases hidden
      exact slotMove_same found (phaseFor_other other rfl)
  | build found here =>
      refine slotMove_build found rfl (here ▸ rfl) rfl ?_ ?_
      · intro isCached
        exact Nat.lt_irrefl _ (inv.cached _ isCached)
      · intro one member isBuilt
        exact Nat.lt_irrefl _ (inv.built one member _ isBuilt)
  | @write index call view found here =>
      have flag : gateway.lateWrite service (.writeCache index) =
          (call.service = service && (gateway.cache service).isSome) := by
        simp only [HttpGatewayState.lateWrite, found]
      rw [flag]
      refine slotMove_write found rfl (here ▸ rfl) rfl ?_ ?_
      · rintro rfl
        exact Function.update_self ..
      · intro differ
        exact Function.update_of_ne (Ne.symm differ) ..

/-- Every call for the service that has answered gave the cached view, which every later one
finds. -/
def HttpGatewayState.OneView (service : String) (gateway : HttpGatewayState) : Prop :=
  ∀ (index : Nat) (call : ViewCall) (answer : Option Nat),
    gateway.calls[index]? = some call → call.service = service →
    call.phase = .returned answer →
    ∃ view, answer = some view ∧ gateway.cache service = some view

theorem ViewPhase.slot_eq_returned {phase : ViewPhase} {answer : Option Nat} :
    phase.slot = .returned answer ↔ phase = .returned answer := by
  cases phase <;> simp [ViewPhase.slot]

theorem HttpGatewayState.oneView_iff :
    gateway.OneView service ↔ SlotAgrees (gateway.slot service) := by
  simp only [HttpGatewayState.slot, slotAgrees_slotOf, ViewPhase.slot_eq_returned]
  rfl

/-- All calls for an exposed service answer with the cached view exactly if none of them
enters its write section after another has inserted. -/
theorem HttpGatewayState.agrees_iff {factories : List String}
    (exposed : factories.contains service = true) {actions : List ViewAction}
    {final : HttpGatewayState}
    (performed : run HttpGatewayState.step (.new factories) actions = some final) :
    final.OneView service ↔
      StepsMeet HttpGatewayState.step
        (fun gateway action => gateway.lateWrite service action = false)
        (.new factories) actions := by
  rw [HttpGatewayState.oneView_iff]
  apply slot_agrees_iff (ViewInv service) (HttpGatewayState.slot service)
    (HttpGatewayState.lateWrite service) (fun _ => true)
  · intro gateway action next inv _ step
    exact inv.kept step
  · intro gateway action next inv _ step
    exact inv.moved step
  · exact ⟨exposed, nofun, nofun⟩
  · intro call
    rfl
  · intro action _
    rfl
  · exact performed

end Gateways

/-! ### Both -/

/-- In every run, all lookups of a service that is never registered answer with one proxy,
and all calls for an exposed service with one view, exactly if no write section of such a
call is entered after another call has inserted. -/
theorem one_proxy_per_service_iff (service : ServiceType) (factories : List String)
    (exposed : String) (hasFactory : factories.contains exposed = true) :
    (∀ actions final, (∀ action ∈ actions, Locator.allows service action = true) →
      run Locator.step .new actions = some final →
      (final.OneProxy service ↔
        StepsMeet Locator.step (fun locator action => locator.lateWrite service action = false)
          .new actions)) ∧
    (∀ actions final, run HttpGatewayState.step (.new factories) actions = some final →
      (final.OneView exposed ↔
        StepsMeet HttpGatewayState.step
          (fun gateway action => gateway.lateWrite exposed action = false)
          (.new factories) actions)) := by
  constructor
  · intro actions final allowed performed
    exact Locator.agrees_iff service allowed performed
  · intro actions final performed
    exact HttpGatewayState.agrees_iff hasFactory performed

/-- Two lookups and two calls, the second of which begin to read when the first have
inserted. -/
theorem one_instance_for_two_calls :
    let config : ServiceType := { name := "Config", typeId := 7 }
    let proxy : Instance := { typeId := 7, address := 0 }
    let lookups : List LocatorAction :=
      [.call false config, .call true config, .readEntries 0, .readCache 0, .consumeProxy 0,
        .writeCache 0, .readEntries 1, .readCache 1]
    let calls : List ViewAction :=
      [.call "Config", .call "Config", .readCache 0, .create 0, .writeCache 0, .readCache 1]
    ["Config"].contains "Config" = true ∧
    (∃ final, run Locator.step .new lookups = some final ∧ final.OneProxy config ∧
      final.calls.map GetCall.phase = [.returned (some proxy), .returned (some proxy)]) ∧
    (∃ final, run HttpGatewayState.step (.new ["Config"]) calls = some final ∧
      final.OneView "Config" ∧
      final.calls.map ViewCall.phase = [.returned (some 0), .returned (some 0)]) := by
  intro config proxy lookups calls
  obtain ⟨proxies, views⟩ := one_proxy_per_service_iff config ["Config"] "Config" (by decide)
  refine ⟨by decide, ⟨_, rfl, (proxies lookups _ (by decide) rfl).mpr ?_, rfl⟩,
    ⟨_, rfl, (views calls _ rfl).mpr ?_, rfl⟩⟩
  · iterate 8 refine stepsMeet_cons rfl rfl ?_
    trivial
  · iterate 6 refine stepsMeet_cons rfl rfl ?_
    trivial

/-- Two calls that both find the caches empty answer with two different instances. -/
theorem two_calls_two_proxies :
    let config : ServiceType := { name := "Config", typeId := 7 }
    ((run Locator.step .new
        [.call false config, .call true config, .readEntries 0, .readEntries 1, .readCache 0,
          .readCache 1, .consumeProxy 0, .consumeProxy 1, .writeCache 0, .writeCache 1]).map
      fun locator => (locator.calls.map GetCall.phase, locator.lazyCache "Config")) =
      some ([.returned (some { typeId := 7, address := 0 }),
        .returned (some { typeId := 7, address := 1 })],
        some { typeId := 7, address := 0 }) ∧
    ((run HttpGatewayState.step (.new ["Config"])
        [.call "Config", .call "Config", .readCache 0, .readCache 1, .create 0, .create 1,
          .writeCache 0, .writeCache 1]).map
      fun gateway => (gateway.calls.map ViewCall.phase, gateway.cache "Config")) =
      some ([.returned (some 0), .returned (some 1)], some 0) := by
  decide

end IceRpc
