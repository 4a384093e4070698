/-
Module: IceRpc.Proofs.MonitorLedger
Purpose: What becomes of every response sample the observer drains: it is matched to a
  tracked call, held among the deferred ones or counted as an orphan; and the two exits
  by which it leaves the books without being counted.
Trusted boundary: none
Main exports: Fate, Monitor.fates, Monitor.Accounts, Monitor.step_accounts,
  Monitor.run_accounts, responses_conserved
-/
import Mathlib.Algebra.BigOperators.Group.Finset.Basic
import IceRpc.Proofs.MonitorTraffic

namespace IceRpc

open Lib

/-! ### The fate of a sample -/

/-- What becomes of a response sample that is no longer held. -/
inductive Fate where
  /-- Matched to a tracked call; the call as the table had it. -/
  | matched (call : PendingCall) (header : RpcHeader)
  /-- Counted as an orphan response of a channel. -/
  | orphaned (channel : String) (header : RpcHeader)
  /-- Discarded, and counted nowhere. -/
  | discarded (header : RpcHeader)
deriving Repr, DecidableEq

namespace Fate

def header : Fate → RpcHeader
  | .matched _ header => header
  | .orphaned _ header => header
  | .discarded header => header

/-- The sample that was matched. -/
def matchedSample : Fate → Option RpcHeader
  | .matched _ header => some header
  | _ => none

/-- The sample that was counted as an orphan. -/
def orphanSample : Fate → Option RpcHeader
  | .orphaned _ header => some header
  | _ => none

/-- The channel whose counter an orphan response went to. -/
def orphanChannel : Fate → Option String
  | .orphaned channel _ => some channel
  | _ => none

def isDiscarded : Fate → Bool
  | .discarded _ => true
  | _ => false

end Fate

namespace Monitor

variable {monitor next : Monitor} {names : MethodNames} {cid : CorrelationId} {now : Nat}
  {oldest : Option CorrelationId}

/-- All samples of an entry are counted as orphans. -/
def orphanFates (entry : DeferredResponses) : List Fate :=
  entry.samples.map (.orphaned entry.channel)

section

variable (monitor : Monitor)

/-- The fates `dropDeferred` decides. -/
def dropFates (cid : CorrelationId) : List Fate :=
  match monitor.deferred.lookup cid with
  | none => []
  | some entry => orphanFates entry

/-- The fates `boundDeferred` decides. -/
def boundFates (oldest : Option CorrelationId) : List Fate :=
  if maxDeferred ≤ monitor.deferred.len then
    match oldest with
    | none => []
    | some old => monitor.dropFates old
  else []

/-- The fates `holdResponse` decides: beyond the limit of a stream, its samples are
orphans and the new one is gone. -/
def holdFates (header : RpcHeader) : List Fate :=
  match monitor.deferred.lookup header.correlationId with
  | none => []
  | some entry =>
      if maxDeferredSamples ≤ entry.samples.length then
        orphanFates entry ++ [.discarded header]
      else []

/-- The fates `deferResponse` decides. -/
def deferFates (header : RpcHeader) (oldest : Option CorrelationId) : List Fate :=
  match monitor.boundDeferred oldest with
  | none => []
  | some bounded => monitor.boundFates oldest ++ bounded.holdFates header

/-- The fates `onResponse` decides. -/
def responseFates (channel : String) (header : RpcHeader) (oldest : Option CorrelationId) :
    List Fate :=
  match monitor.correlate.entries.lookup header.correlationId with
  | some call => [.matched call header]
  | none => (monitor.counted channel header).deferFates header oldest

/-- The fates the replay of one stream decides: what the table no longer knows is
gone. -/
def sampleFates (cid : CorrelationId) : Correlate → List RpcHeader → List Fate
  | _, [] => []
  | table, header :: samples =>
      match table.onResponse cid header.eventKind.isTerminal with
      | (.matched call, table) => .matched call header :: sampleFates cid table samples
      | (.unknown, table) => .discarded header :: sampleFates cid table samples

/-- The fates `replay` decides. -/
def replayFates (cid : CorrelationId) : List Fate :=
  match monitor.deferred.lookup cid with
  | none => []
  | some entry => sampleFates cid monitor.correlate entry.samples

/-- The fates the replays of several streams decide. -/
def replayAllFates : Monitor → List CorrelationId → List Fate
  | _, [] => []
  | monitor, cid :: order => monitor.replayFates cid ++ replayAllFates (monitor.replay cid) order

/-- The fates `expireDeferred` decides. -/
def expireFates (now : Nat) : List Fate :=
  ((values monitor.deferred).filter (isExpired now)).flatMap orphanFates

/-- The fates `resolveDeferred` decides. -/
def resolveFates (order : List CorrelationId) (now : Nat) : List Fate :=
  if monitor.deferred.entries.isEmpty then []
  else monitor.replayAllFates order ++ (order.foldl replay monitor).expireFates now

/-- The fates a step decides. -/
def fates : MonitorAction → List Fate
  | .request .. => []
  | .response channel header _ oldest => monitor.responseFates channel header oldest
  | .resolveDeferred order now => monitor.resolveFates order now
  | .sweep _ => []

/-! ### The books -/

/-- The samples held among the deferred ones. -/
def held : List RpcHeader :=
  (values monitor.deferred).flatMap DeferredResponses.samples

/-- The channels the deferred samples would be counted on. -/
def heldChannels : List String :=
  (values monitor.deferred).map DeferredResponses.channel

end

/-- From one state of the observer to another, with some samples drained and some fates
decided: every sample is where it was, or has one fate, and every orphan is counted once
on a channel of a drained sample. -/
structure Accounts (monitor next : Monitor) (drained : List (String × RpcHeader))
    (written : List Fate) : Prop where
  samples : (written.map Fate.header ++ next.held).Perm
    (monitor.held ++ drained.map Prod.snd)
  orphans : ∀ channel, next.metrics.orphan channel =
    monitor.metrics.orphan channel + (written.filterMap Fate.orphanChannel).count channel
  channels : written.filterMap Fate.orphanChannel ++ next.heldChannels ⊆
    monitor.heldChannels ++ drained.map Prod.fst

namespace Accounts

variable {monitor middle next : Monitor} {drained more : List (String × RpcHeader)}
  {written later : List Fate}

/-- What changes neither the deferred samples nor the orphan counters decides nothing. -/
theorem of_same (deferred : next.deferred = monitor.deferred)
    (orphan : next.metrics.orphan = monitor.metrics.orphan) :
    Accounts monitor next [] [] := by
  constructor
  · simp [held, deferred]
  · simp [orphan]
  · simp [heldChannels, deferred]

theorem trans (first : Accounts monitor middle drained written)
    (second : Accounts middle next more later) :
    Accounts monitor next (drained ++ more) (written ++ later) := by
  constructor
  · rw [List.map_append, List.map_append, List.append_assoc]
    calc (written.map Fate.header ++ (later.map Fate.header ++ next.held)).Perm
          (written.map Fate.header ++ (middle.held ++ more.map Prod.snd)) :=
            second.samples.append_left _
      _ = (written.map Fate.header ++ middle.held) ++ more.map Prod.snd :=
            (List.append_assoc ..).symm
      _ |>.Perm ((monitor.held ++ drained.map Prod.snd) ++ more.map Prod.snd) :=
            first.samples.append_right _
      _ = monitor.held ++ (drained.map Prod.snd ++ more.map Prod.snd) :=
            List.append_assoc ..
  · intro channel
    rw [second.orphans, first.orphans, List.filterMap_append, List.count_append]
    omega
  · rw [List.filterMap_append, List.map_append, List.append_assoc]
    intro channel listed
    have before := @first.channels channel
    have after := @second.channels channel
    simp only [List.mem_append] at listed before after ⊢
    tauto

/-- A sample that is drained and gone is in the books only as such. -/
theorem discard (before : Accounts monitor next drained written) (channel : String)
    (header : RpcHeader) :
    Accounts monitor next (drained ++ [(channel, header)])
      (written ++ [.discarded header]) := by
  constructor
  · rw [List.map_append, List.map_append, List.append_assoc (written.map Fate.header),
      ← List.append_assoc monitor.held]
    refine (List.perm_append_comm.append_left _).trans ?_
    rw [← List.append_assoc]
    exact before.samples.append_right _
  · intro channel
    rw [List.filterMap_append, List.filterMap_cons_none rfl, List.filterMap_nil,
      List.append_nil]
    exact before.orphans channel
  · rw [List.filterMap_append, List.filterMap_cons_none rfl, List.filterMap_nil,
      List.append_nil, List.map_append, ← List.append_assoc]
    exact List.Subset.trans before.channels (List.subset_append_left ..)

end Accounts

section Functions

variable {monitor next : Monitor} {cid : CorrelationId} {entry : DeferredResponses}

theorem orphanFates_header (entry : DeferredResponses) :
    (orphanFates entry).map Fate.header = entry.samples := by
  rw [orphanFates, List.map_map]
  exact List.map_id' entry.samples

theorem orphanFates_channel (entry : DeferredResponses) :
    (orphanFates entry).filterMap Fate.orphanChannel =
      List.replicate entry.samples.length entry.channel := by
  rw [orphanFates, List.filterMap_map]
  induction entry.samples with
  | nil => rfl
  | cons header samples ih => exact congrArg (entry.channel :: ·) ih

theorem onOrphanResponses_orphan (metrics : Metrics) (channel own : String) (count : Nat) :
    (metrics.onOrphanResponses own count).orphan channel =
      metrics.orphan channel + (List.replicate count own).count channel := by
  by_cases same : channel = own
  · subst same
    simp [Metrics.onOrphanResponses]
  · simp [Metrics.onOrphanResponses, Function.update_of_ne same, List.count_replicate,
      Ne.symm same]

/-- The samples of an id that is held. -/
theorem held_perm_of_lookup (found : monitor.deferred.lookup cid = some entry) :
    monitor.held.Perm
      (entry.samples ++ { monitor with deferred := monitor.deferred.erase cid }.held) :=
  (values_perm_of_some found).flatMap_right DeferredResponses.samples

theorem heldChannels_perm_of_lookup (found : monitor.deferred.lookup cid = some entry) :
    monitor.heldChannels.Perm
      (entry.channel ::
        { monitor with deferred := monitor.deferred.erase cid }.heldChannels) :=
  (values_perm_of_some found).map DeferredResponses.channel

theorem dropDeferred_accounts (monitor : Monitor) (cid : CorrelationId) :
    Accounts monitor (monitor.dropDeferred cid) [] (monitor.dropFates cid) := by
  unfold dropDeferred dropFates
  cases found : monitor.deferred.lookup cid with
  | none => exact .of_same rfl rfl
  | some entry =>
      constructor
      · rw [orphanFates_header, List.map_nil, List.append_nil]
        exact (held_perm_of_lookup found).symm
      · intro channel
        rw [orphanFates_channel]
        exact onOrphanResponses_orphan ..
      · intro channel listed
        rw [orphanFates_channel, List.mem_append] at listed
        rw [List.map_nil, List.append_nil, (heldChannels_perm_of_lookup found).mem_iff]
        rcases listed with own | other
        · rw [List.eq_of_mem_replicate own]
          exact List.mem_cons_self
        · exact List.mem_cons_of_mem _ other

theorem boundDeferred_accounts (bounded : monitor.boundDeferred oldest = some next) :
    Accounts monitor next [] (monitor.boundFates oldest) := by
  unfold boundDeferred at bounded
  unfold boundFates
  split at bounded
  · rename_i full
    rw [if_pos full]
    split at bounded
    · cases oldest with
      | none =>
          cases bounded
          exact .of_same rfl rfl
      | some old =>
          cases bounded
          exact dropDeferred_accounts monitor old
    · cases bounded
  · rename_i room
    cases bounded
    rw [if_neg room]
    exact .of_same rfl rfl

/-- A sample is held, in an entry of its own or with those of its stream that came
before, or its stream is given up and it is gone. -/
theorem holdResponse_accounts (monitor : Monitor) (channel : String) (header : RpcHeader)
    (now : Nat) :
    Accounts monitor (monitor.holdResponse channel header now) [(channel, header)]
      (monitor.holdFates header) := by
  cases found : monitor.deferred.lookup header.correlationId with
  | none =>
      have fresh := erase_of_lookup_none found
      simp only [holdResponse, holdFates, found]
      constructor
      · simp only [List.map_nil, List.nil_append, held, values_insert, fresh,
          List.flatMap_cons, List.map_cons]
        exact List.perm_append_comm
      · exact fun _ => rfl
      · simp only [List.filterMap_nil, List.nil_append, heldChannels, values_insert, fresh,
          List.map_cons, List.map_nil]
        exact (List.perm_append_singleton channel _).symm.subset
  | some entry =>
      by_cases full : maxDeferredSamples ≤ entry.samples.length
      · -- the stream is at its limit: one more sample is drained and nowhere counted
        have dropped := dropDeferred_accounts monitor header.correlationId
        simp only [dropFates, found] at dropped
        simp only [holdResponse, holdFates, found, full, if_true]
        exact dropped.discard channel header
      · simp only [holdResponse, holdFates, found, full, if_false]
        constructor
        · simp only [List.map_nil, List.nil_append, held, values_insert, List.flatMap_cons,
            List.map_cons]
          have before := held_perm_of_lookup found
          simp only [held] at before
          refine List.Perm.trans ?_ (before.symm.append_right _)
          rw [List.append_assoc, List.append_assoc]
          exact List.perm_append_comm.append_left _
        · exact fun _ => rfl
        · simp only [List.filterMap_nil, List.nil_append, heldChannels, values_insert,
            List.map_cons]
          have before := (heldChannels_perm_of_lookup found).symm
          exact List.Subset.trans before.subset (List.subset_append_left ..)

theorem deferResponse_accounts {channel : String} {header : RpcHeader}
    (performed : monitor.deferResponse channel header now oldest = some next) :
    Accounts monitor next [(channel, header)] (monitor.deferFates header oldest) := by
  unfold deferResponse at performed
  unfold deferFates
  cases bound : monitor.boundDeferred oldest with
  | none =>
      rw [bound] at performed
      cases performed
  | some bounded =>
      rw [bound] at performed
      cases performed
      exact (boundDeferred_accounts bound).trans (holdResponse_accounts ..)

/-! ### Replays -/

theorem sampleFates_of_tracked {table : Correlate} {call : PendingCall} (header : RpcHeader)
    (samples : List RpcHeader) (found : table.entries.lookup cid = some call) :
    sampleFates cid table (header :: samples) =
      .matched call header ::
        sampleFates cid (table.onResponse cid header.eventKind.isTerminal).2 samples := by
  simp only [sampleFates, onResponse_of_lookup _ found]

theorem sampleFates_of_untracked {table : Correlate} (samples : List RpcHeader)
    (unknown : table.entries.lookup cid = none) :
    sampleFates cid table samples = samples.map .discarded := by
  induction samples with
  | nil => rfl
  | cons header samples ih =>
      simp only [sampleFates, Correlate.onResponse, unknown, ih, List.map_cons]

/-- Every sample of a replayed stream has a fate, and none is counted as an orphan. -/
theorem sampleFates_samples (cid : CorrelationId) (table : Correlate)
    (samples : List RpcHeader) :
    (sampleFates cid table samples).map Fate.header = samples ∧
      (sampleFates cid table samples).filterMap Fate.orphanChannel = [] := by
  induction samples generalizing table with
  | nil => exact ⟨rfl, rfl⟩
  | cons header samples ih =>
      unfold sampleFates
      split
      · rename_i later _
        exact ⟨congrArg (header :: ·) (ih later).1, (ih later).2⟩
      · rename_i later _
        exact ⟨congrArg (header :: ·) (ih later).1, (ih later).2⟩

theorem replaySample_orphan (cid : CorrelationId) (monitor : Monitor)
    (header : RpcHeader) :
    (replaySample cid monitor header).metrics.orphan = monitor.metrics.orphan := by
  unfold replaySample completeResponse
  split
  · dsimp only
    split_ifs <;> rfl
  · rfl

theorem replay_accounts (monitor : Monitor) (cid : CorrelationId) :
    Accounts monitor (monitor.replay cid) [] (monitor.replayFates cid) := by
  unfold replay replayFates
  cases found : monitor.deferred.lookup cid with
  | none => exact .of_same rfl rfl
  | some entry =>
      obtain ⟨headers, noOrphan⟩ := sampleFates_samples cid monitor.correlate entry.samples
      have deferred := foldl_keeps Monitor.deferred (replaySample_deferred cid)
        entry.samples { monitor with deferred := monitor.deferred.erase cid }
      have orphan := foldl_keeps (fun monitor : Monitor => monitor.metrics.orphan)
        (replaySample_orphan cid) entry.samples
        { monitor with deferred := monitor.deferred.erase cid }
      constructor
      · simp only [headers, held, deferred, List.map_nil, List.append_nil]
        exact (held_perm_of_lookup found).symm
      · intro channel
        simp only [orphan, noOrphan, List.count_nil, Nat.add_zero]
      · simp only [noOrphan, heldChannels, deferred, List.nil_append, List.map_nil,
          List.append_nil]
        have before := heldChannels_perm_of_lookup found
        exact List.Subset.trans (List.subset_cons_self ..) before.symm.subset

theorem replayAll_accounts (monitor : Monitor) (order : List CorrelationId) :
    Accounts monitor (order.foldl replay monitor) [] (monitor.replayAllFates order) := by
  induction order generalizing monitor with
  | nil => exact .of_same rfl rfl
  | cons cid order ih => exact (replay_accounts monitor cid).trans (ih (monitor.replay cid))

/-! ### Expiry -/

theorem values_retain {V : Type} (map : CidMap V) (keep : V → Bool) :
    values (map.retain fun _ value => keep value) = (values map).filter keep := by
  simp only [values, CidMap.retain, List.filter_map, Function.comp_def]

theorem values_filter {V : Type} (map : CidMap V) (test : V → Bool) :
    (map.entries.filter fun entry => test entry.2).map Sigma.snd =
      (values map).filter test := by
  simp only [values, List.filter_map, Function.comp_def]

/-- Entries given up together are counted as if one after the other. -/
theorem foldl_onOrphanResponses (entries : List DeferredResponses) (metrics : Metrics)
    (channel : String) :
    (entries.foldl
      (fun metrics entry => metrics.onOrphanResponses entry.channel entry.samples.length)
      metrics).orphan channel =
      metrics.orphan channel +
        ((entries.flatMap orphanFates).filterMap Fate.orphanChannel).count channel := by
  induction entries generalizing metrics with
  | nil => rfl
  | cons entry entries ih =>
      rw [List.foldl_cons, ih, onOrphanResponses_orphan, List.flatMap_cons,
        List.filterMap_append, List.count_append, orphanFates_channel]
      omega

theorem expireDeferred_accounts (monitor : Monitor) (now : Nat) :
    Accounts monitor (monitor.expireDeferred now) [] (monitor.expireFates now) := by
  have split := List.filter_append_perm (isExpired now) (values monitor.deferred)
  constructor
  · simp only [expireFates, held, expireDeferred, values_retain, List.map_flatMap,
      orphanFates_header, List.map_nil, List.append_nil]
    rw [← List.flatMap_append]
    exact split.flatMap_right _
  · intro channel
    simp only [expireDeferred, expireFates, values_filter]
    exact foldl_onOrphanResponses ..
  · simp only [expireFates, heldChannels, expireDeferred, values_retain, List.map_nil,
      List.append_nil]
    intro channel listed
    rw [List.mem_append, List.mem_filterMap] at listed
    rcases listed with ⟨fate, orphaned, on⟩ | kept
    · obtain ⟨entry, expired, sample⟩ := List.mem_flatMap.mp orphaned
      obtain ⟨header, -, rfl⟩ := List.mem_map.mp sample
      cases on
      exact List.mem_map_of_mem (List.mem_of_mem_filter expired)
    · obtain ⟨entry, fresh, rfl⟩ := List.mem_map.mp kept
      exact List.mem_map_of_mem (List.mem_of_mem_filter fresh)

end Functions

/-! ### Steps and runs -/

theorem giveUp_orphan (metrics : Metrics) (call : PendingCall) :
    (giveUp metrics call).orphan = metrics.orphan := rfl

/-- A request decides no fate. -/
theorem onRequest_accounts {channel : String} {header : RpcHeader} {payloadLen : Nat}
    (performed : monitor.onRequest names channel header payloadLen now oldest = some next) :
    Accounts monitor next [] [] := by
  unfold onRequest at performed
  split at performed
  · cases performed
    exact .of_same rfl rfl
  · obtain ⟨inserted, -, rfl⟩ := Option.map_eq_some_iff.mp performed
    exact .of_same rfl (foldl_keeps Metrics.orphan giveUp_orphan ..)

theorem onResponse_accounts {channel : String} {header : RpcHeader}
    (performed : monitor.onResponse channel header now oldest = some next) :
    Accounts monitor next [(channel, header)]
      (monitor.responseFates channel header oldest) := by
  have sameBooks : Accounts monitor (monitor.counted channel header) [] [] :=
    .of_same rfl rfl
  unfold responseFates
  cases found : monitor.correlate.entries.lookup header.correlationId with
  | none =>
      rw [onResponse_of_untracked now oldest found] at performed
      exact sameBooks.trans (deferResponse_accounts performed)
  | some call =>
      rw [onResponse_of_tracked now oldest found] at performed
      cases performed
      have deferred := replaySample_deferred header.correlationId
        (monitor.counted channel header) header
      have orphan := replaySample_orphan header.correlationId
        (monitor.counted channel header) header
      constructor
      · simp only [held, deferred, List.map_cons, List.map_nil]
        exact List.perm_append_comm
      · exact congrFun orphan
      · simp only [heldChannels, deferred]
        exact List.subset_append_left ..

theorem resolveDeferred_accounts {order : List CorrelationId}
    (performed : monitor.resolveDeferred order now = some next) :
    Accounts monitor next [] (monitor.resolveFates order now) := by
  unfold resolveDeferred at performed
  unfold resolveFates
  split_ifs at performed with nothing permuted
  · cases performed
    rw [if_pos nothing]
    exact .of_same rfl rfl
  · cases performed
    rw [if_neg nothing]
    exact (replayAll_accounts monitor order).trans (expireDeferred_accounts ..)

/-- The sample a step drains from the response direction, if any. -/
def drained (action : MonitorAction) : List (String × RpcHeader) :=
  action.responseSample.toList

/-- Every step keeps the books. -/
theorem step_accounts {action : MonitorAction} (performed : monitor.step names action = some next) :
    Accounts monitor next (drained action) (monitor.fates action) := by
  cases action with
  | request channel header payloadLen now oldest => exact onRequest_accounts performed
  | response channel header now oldest => exact onResponse_accounts performed
  | resolveDeferred order now =>
      exact resolveDeferred_accounts performed
  | sweep now =>
      cases performed
      exact .of_same rfl (foldl_keeps Metrics.orphan giveUp_orphan ..)

/-- All that a run of the observer wrote down. -/
def written (names : MethodNames) (max ttl : Nat) (actions : List MonitorAction) :
    List Fate :=
  trail (Monitor.step names) fates (new max ttl) actions

/-- Every run keeps the books. -/
theorem run_accounts {max ttl : Nat} {actions : List MonitorAction} {final : Monitor}
    (performed : run (Monitor.step names) (new max ttl) actions = some final) :
    Accounts (new max ttl) final (actions.filterMap MonitorAction.responseSample)
      (written names max ttl actions) := by
  refine run_trail_invariant fates (fun past trace monitor =>
    Accounts (new max ttl) monitor (past.filterMap MonitorAction.responseSample) trace)
    (.of_same rfl rfl) ?_ performed
  intro past trace monitor action next accounts moved
  have step := accounts.trans (step_accounts moved)
  rw [List.filterMap_append]
  have one : [action].filterMap MonitorAction.responseSample = drained action := by
    cases sample : action.responseSample <;> simp [drained, sample]
  rw [one]
  exact step

/-! ### Samples that leave the books -/

/-- The step discards no sample: a response finds its call tracked or room in its
stream, and a stream is replayed that has no terminal before its last sample. -/
def CountsAll (monitor : Monitor) : MonitorAction → Prop
  | .response channel header _ oldest =>
      monitor.correlate.contains header.correlationId = false →
        ∀ bounded entry, (monitor.counted channel header).boundDeferred oldest = some bounded →
          bounded.deferred.lookup header.correlationId = some entry →
          entry.samples.length < maxDeferredSamples
  | .resolveDeferred .. =>
      ∀ cid ∈ monitor.ready, ∀ entry, monitor.deferred.lookup cid = some entry →
        ∀ header ∈ entry.samples.dropLast, header.eventKind.isTerminal = false
  | _ => True

/-- No fate of the list is to be discarded. -/
def NoneDiscarded (fates : List Fate) : Prop := ∀ fate ∈ fates, fate.isDiscarded = false

theorem noneDiscarded_nil : NoneDiscarded [] := nofun

theorem noneDiscarded_append {first second : List Fate} :
    NoneDiscarded (first ++ second) ↔ NoneDiscarded first ∧ NoneDiscarded second :=
  List.forall_mem_append

theorem noneDiscarded_orphanFates (entry : DeferredResponses) :
    NoneDiscarded (orphanFates entry) := by
  intro fate listed
  obtain ⟨header, -, rfl⟩ := List.mem_map.mp listed
  rfl

theorem noneDiscarded_boundFates (monitor : Monitor) (oldest : Option CorrelationId) :
    NoneDiscarded (monitor.boundFates oldest) := by
  unfold boundFates dropFates
  repeat' split
  all_goals first | exact noneDiscarded_nil | exact noneDiscarded_orphanFates _

theorem noneDiscarded_holdFates_iff (monitor : Monitor) (header : RpcHeader) :
    NoneDiscarded (monitor.holdFates header) ↔
      ∀ entry, monitor.deferred.lookup header.correlationId = some entry →
        entry.samples.length < maxDeferredSamples := by
  unfold holdFates
  cases found : monitor.deferred.lookup header.correlationId with
  | none => exact iff_of_true nofun nofun
  | some entry =>
      simp only [Option.some.injEq, forall_eq']
      split
      · rename_i full
        refine iff_of_false ?_ (Nat.not_lt.mpr full)
        intro none_
        have gone := none_ (.discarded header)
          (List.mem_append_right _ (List.mem_singleton_self _))
        cases gone
      · rename_i room
        exact iff_of_true nofun (Nat.not_le.mp room)

theorem noneDiscarded_responseFates_iff (monitor : Monitor) (channel : String)
    (header : RpcHeader) (now : Nat) (oldest : Option CorrelationId) :
    NoneDiscarded (monitor.responseFates channel header oldest) ↔
      monitor.CountsAll (.response channel header now oldest) := by
  cases found : monitor.correlate.entries.lookup header.correlationId with
  | some call =>
      simp only [responseFates, CountsAll, Correlate.contains, found]
      refine iff_of_true ?_ nofun
      intro fate listed
      cases List.mem_singleton.mp listed
      rfl
  | none =>
      simp only [responseFates, CountsAll, Correlate.contains, found, Option.isSome_none,
        forall_const, deferFates]
      cases (monitor.counted channel header).boundDeferred oldest with
      | none => exact iff_of_true noneDiscarded_nil nofun
      | some bounded =>
          simp only [noneDiscarded_append, noneDiscarded_boundFates, true_and,
            noneDiscarded_holdFates_iff, Option.some.injEq]
          constructor
          · rintro room _ entry rfl
            exact room entry
          · intro room entry
            exact room bounded entry rfl

/-- A stream is replayed without a loss exactly if its call is not closed before its
last sample. -/
theorem noneDiscarded_sampleFates_iff {table : Correlate} {call : PendingCall}
    (samples : List RpcHeader) (found : table.entries.lookup cid = some call) :
    NoneDiscarded (sampleFates cid table samples) ↔
      ∀ header ∈ samples.dropLast, header.eventKind.isTerminal = false := by
  induction samples generalizing table call with
  | nil => exact iff_of_true nofun nofun
  | cons header samples ih =>
      rw [sampleFates_of_tracked header samples found, onResponse_of_lookup _ found]
      have headCounted : NoneDiscarded [.matched call header] := by
        intro fate listed
        cases List.mem_singleton.mp listed
        rfl
      rw [← List.singleton_append, noneDiscarded_append, and_iff_right headCounted]
      cases samples with
      | nil => exact iff_of_true nofun nofun
      | cons second rest =>
          rw [List.dropLast_cons_cons, List.forall_mem_cons]
          cases ends : header.eventKind.isTerminal with
          | true =>
              -- the call is closed here, so the next sample is discarded
              rw [sampleFates_of_untracked _ (AList.lookup_erase ..)]
              refine iff_of_false ?_ (fun all => Bool.noConfusion all.1)
              intro none_
              cases none_ (.discarded second) List.mem_cons_self
          | false =>
              rw [ih (AList.lookup_insert ..), and_iff_right rfl]

/-! ### Replays of one id and of the others -/

/-- What the books say of an id. -/
def SameEntry (monitor next : Monitor) (cid : CorrelationId) : Prop :=
  next.deferred.lookup cid = monitor.deferred.lookup cid ∧
    next.correlate.entries.lookup cid = monitor.correlate.entries.lookup cid

theorem onResponse_frame {other : CorrelationId} (different : other ≠ cid) (table : Correlate)
    (terminal : Bool) :
    (table.onResponse cid terminal).2.entries.lookup other = table.entries.lookup other := by
  unfold Correlate.onResponse
  split
  · rfl
  · split
    · exact AList.lookup_erase_ne different
    · exact AList.lookup_insert_ne different

theorem replaySample_frame {other : CorrelationId} (different : other ≠ cid) (monitor : Monitor)
    (header : RpcHeader) :
    (replaySample cid monitor header).correlate.entries.lookup other =
      monitor.correlate.entries.lookup other := by
  have frame := onResponse_frame different monitor.correlate header.eventKind.isTerminal
  unfold replaySample
  split
  · rename_i answered
    rw [answered] at frame
    exact frame
  · rename_i answered
    rw [answered] at frame
    exact frame

/-- A replay leaves the other ids as they are. -/
theorem replay_frame {other : CorrelationId} (different : other ≠ cid) (monitor : Monitor) :
    SameEntry monitor (monitor.replay cid) other := by
  unfold replay
  split
  · exact ⟨rfl, rfl⟩
  · rename_i entry _
    constructor
    · rw [foldl_keeps Monitor.deferred (replaySample_deferred cid)]
      exact AList.lookup_erase_ne different
    · exact foldl_keeps (fun monitor : Monitor => monitor.correlate.entries.lookup other)
        (replaySample_frame different) ..

/-- The deferred stream of an id has no terminal before its last sample. -/
def EndsLast (monitor : Monitor) (cid : CorrelationId) : Prop :=
  ∀ entry, monitor.deferred.lookup cid = some entry →
    ∀ header ∈ entry.samples.dropLast, header.eventKind.isTerminal = false

theorem noneDiscarded_replayFates_iff (tracked : monitor.correlate.contains cid = true) :
    NoneDiscarded (monitor.replayFates cid) ↔ monitor.EndsLast cid := by
  obtain ⟨call, known⟩ := Option.isSome_iff_exists.mp tracked
  unfold replayFates EndsLast
  cases monitor.deferred.lookup cid with
  | none => exact iff_of_true noneDiscarded_nil nofun
  | some entry =>
      simp only [Option.some.injEq, forall_eq']
      exact noneDiscarded_sampleFates_iff entry.samples known

theorem noneDiscarded_replayAllFates_iff {order : List CorrelationId} (distinct : order.Nodup)
    (tracked : ∀ cid ∈ order, monitor.correlate.contains cid = true) :
    NoneDiscarded (monitor.replayAllFates order) ↔
      ∀ cid ∈ order, monitor.EndsLast cid := by
  induction order generalizing monitor with
  | nil => exact iff_of_true noneDiscarded_nil nofun
  | cons cid order ih =>
      obtain ⟨fresh, rest⟩ := List.nodup_cons.mp distinct
      -- the ids that follow are other ids, which this replay leaves alone
      have frame : ∀ other ∈ order, SameEntry monitor (monitor.replay cid) other := by
        intro other listed
        apply replay_frame
        rintro rfl
        exact fresh listed
      have trackedRest : ∀ other ∈ order,
          (monitor.replay cid).correlate.contains other = true := by
        intro other listed
        rw [Correlate.contains, (frame other listed).2]
        exact tracked other (List.mem_cons_of_mem _ listed)
      have sameStreams : (∀ other ∈ order, (monitor.replay cid).EndsLast other) ↔
          ∀ other ∈ order, monitor.EndsLast other := by
        apply forall₂_congr
        intro other listed
        rw [EndsLast, EndsLast, (frame other listed).1]
      rw [replayAllFates, noneDiscarded_append, List.forall_mem_cons, ih rest trackedRest,
        noneDiscarded_replayFates_iff (tracked cid List.mem_cons_self), sameStreams]

theorem noneDiscarded_expireFates (monitor : Monitor) (now : Nat) :
    NoneDiscarded (monitor.expireFates now) := by
  intro fate listed
  obtain ⟨entry, -, own⟩ := List.mem_flatMap.mp listed
  exact noneDiscarded_orphanFates entry fate own

theorem ready_nodup (monitor : Monitor) : monitor.ready.Nodup :=
  monitor.deferred.keys_nodup.filter _

theorem ready_eq_nil_of_isEmpty (nothing : monitor.deferred.entries.isEmpty = true) :
    monitor.ready = [] := by
  have none_ := List.isEmpty_iff.mp nothing
  simp [ready, AList.keys, none_]

theorem noneDiscarded_resolveFates_iff {order : List CorrelationId}
    (performed : monitor.resolveDeferred order now = some next) :
    NoneDiscarded (monitor.resolveFates order now) ↔
      monitor.CountsAll (.resolveDeferred order now) := by
  unfold resolveDeferred at performed
  unfold resolveFates CountsAll
  split_ifs at performed with nothing permuted
  · rw [if_pos nothing, ready_eq_nil_of_isEmpty nothing]
    exact iff_of_true noneDiscarded_nil nofun
  · have tracked : ∀ cid ∈ order, monitor.correlate.contains cid = true := by
      intro cid listed
      exact (List.mem_filter.mp (permuted.mem_iff.mp listed)).2
    have expired := noneDiscarded_expireFates (order.foldl replay monitor) now
    rw [if_neg nothing, noneDiscarded_append, and_iff_left expired,
      noneDiscarded_replayAllFates_iff (permuted.nodup_iff.mpr monitor.ready_nodup) tracked]
    simp only [permuted.mem_iff, EndsLast]

/-- A step discards nothing exactly if it meets the condition. -/
theorem noneDiscarded_fates_iff {action : MonitorAction}
    (performed : monitor.step names action = some next) :
    NoneDiscarded (monitor.fates action) ↔ monitor.CountsAll action := by
  cases action with
  | request channel header payloadLen now oldest => exact iff_of_true noneDiscarded_nil trivial
  | response channel header now oldest =>
      exact noneDiscarded_responseFates_iff monitor channel header now oldest
  | resolveDeferred order now => exact noneDiscarded_resolveFates_iff performed
  | sweep now => exact iff_of_true noneDiscarded_nil trivial

end Monitor

/-! ### Conservation -/

/-- The samples that were matched. -/
def matchedSamples (fates : List Fate) : List RpcHeader := fates.filterMap Fate.matchedSample

/-- The samples that were counted as orphans. -/
def orphanSamples (fates : List Fate) : List RpcHeader := fates.filterMap Fate.orphanSample

theorem matched_append_orphans_perm {fates : List Fate}
    (counted : Monitor.NoneDiscarded fates) :
    (matchedSamples fates ++ orphanSamples fates).Perm (fates.map Fate.header) := by
  induction fates with
  | nil => exact List.Perm.refl _
  | cons fate fates ih =>
      obtain ⟨first, rest⟩ := List.forall_mem_cons.mp counted
      cases fate with
      | matched call header => exact (ih rest).cons header
      | orphaned channel header =>
          exact List.perm_middle.trans ((ih rest).cons header)
      | discarded header => cases first

theorem fates_length (fates : List Fate) :
    (matchedSamples fates).length + (orphanSamples fates).length +
      fates.countP Fate.isDiscarded = fates.length := by
  induction fates with
  | nil => rfl
  | cons fate fates ih =>
      cases fate <;>
        simp only [matchedSamples, orphanSamples, List.filterMap_cons, Fate.matchedSample,
          Fate.orphanSample, Fate.isDiscarded, List.countP_cons, List.length_cons,
          Bool.false_eq_true, if_true, if_false] at ih ⊢ <;>
        omega

theorem orphanChannels_length (fates : List Fate) :
    (fates.filterMap Fate.orphanChannel).length = (orphanSamples fates).length := by
  induction fates with
  | nil => rfl
  | cons fate fates ih =>
      cases fate with
      | matched call header => exact ih
      | orphaned channel header => exact congrArg (· + 1) ih
      | discarded header => exact ih

/-- Every response drained so far is matched to a tracked call, held or counted once as
an orphan, and the three numbers add up, the orphan counters of the channels that were
drained taken together. -/
structure Conserved (names : MethodNames) (max ttl : Nat) (actions : List MonitorAction)
    (final : Monitor) : Prop where
  states : (matchedSamples (Monitor.written names max ttl actions) ++ final.held ++
      orphanSamples (Monitor.written names max ttl actions)).Perm
    ((actions.filterMap MonitorAction.responseSample).map Prod.snd)
  orphans : ∀ channel, final.metrics.orphan channel =
    ((Monitor.written names max ttl actions).filterMap Fate.orphanChannel).count channel
  balance : (matchedSamples (Monitor.written names max ttl actions)).length +
      final.held.length +
      ∑ channel ∈ ((actions.filterMap MonitorAction.responseSample).map Prod.fst).toFinset,
        final.metrics.orphan channel =
    (actions.filterMap MonitorAction.responseSample).length

/-- The orphan counters of the drained channels, taken together. -/
theorem sum_orphans {names : MethodNames} {max ttl : Nat} {actions : List MonitorAction}
    {final : Monitor}
    (performed : run (Monitor.step names) (Monitor.new max ttl) actions = some final) :
    ∑ channel ∈ ((actions.filterMap MonitorAction.responseSample).map Prod.fst).toFinset,
        final.metrics.orphan channel =
      (orphanSamples (Monitor.written names max ttl actions)).length := by
  have accounts := Monitor.run_accounts performed
  have among : ∀ channel ∈ ((Monitor.written names max ttl actions).filterMap
      Fate.orphanChannel : Multiset String),
      channel ∈ ((actions.filterMap MonitorAction.responseSample).map Prod.fst).toFinset := by
    intro channel listed
    rw [List.mem_toFinset]
    exact accounts.channels (List.mem_append_left _ (Multiset.mem_coe.mp listed))
  rw [← orphanChannels_length, ← Multiset.coe_card, ← Multiset.sum_count_eq_card among]
  apply Finset.sum_congr rfl
  intro channel _
  rw [accounts.orphans channel, Multiset.coe_count]
  exact Nat.zero_add _

/-- Conservation holds exactly if nothing was discarded. -/
theorem conserved_iff_noneDiscarded {names : MethodNames} {max ttl : Nat}
    {actions : List MonitorAction} {final : Monitor}
    (performed : run (Monitor.step names) (Monitor.new max ttl) actions = some final) :
    Conserved names max ttl actions final ↔
      Monitor.NoneDiscarded (Monitor.written names max ttl actions) := by
  have accounts := Monitor.run_accounts performed
  have everySample := accounts.samples
  constructor
  · intro conserved
    have lengths := conserved.states.length_eq.trans everySample.length_eq.symm
    have all := fates_length (Monitor.written names max ttl actions)
    simp only [List.length_append, List.length_map] at lengths
    have none_ : (Monitor.written names max ttl actions).countP Fate.isDiscarded = 0 := by
      omega
    intro fate listed
    exact Bool.eq_false_iff.mpr (List.countP_eq_zero.mp none_ fate listed)
  · intro counted
    have split := matched_append_orphans_perm counted
    have states : (matchedSamples (Monitor.written names max ttl actions) ++ final.held ++
        orphanSamples (Monitor.written names max ttl actions)).Perm
        ((actions.filterMap MonitorAction.responseSample).map Prod.snd) := by
      rw [List.append_assoc]
      refine (List.perm_append_comm.append_left _).trans ?_
      rw [← List.append_assoc]
      exact (split.append_right _).trans everySample
    refine ⟨states, fun channel => ?_, ?_⟩
    · rw [accounts.orphans channel]
      exact Nat.zero_add _
    · have total := states.length_eq
      simp only [List.length_append, List.length_map] at total
      rw [sum_orphans performed]
      exact total

/-- **Conservation of responses.** After every run of the observer, each response that
was drained is matched, held or counted once as an orphan, and the three add up,
exactly if every response that was drained found its call tracked or room in its
stream, and every stream that was replayed had no terminal before its last sample. -/
theorem responses_conserved_iff (names : MethodNames) (max ttl : Nat)
    (actions : List MonitorAction) (final : Monitor)
    (performed : run (Monitor.step names) (Monitor.new max ttl) actions = some final) :
    Conserved names max ttl actions final ↔
      StepsMeet (Monitor.step names) Monitor.CountsAll (Monitor.new max ttl) actions := by
  rw [conserved_iff_noneDiscarded performed]
  unfold Monitor.NoneDiscarded Monitor.written
  rw [forall_mem_trail_iff Monitor.fates (fun fate => fate.isDiscarded = false) performed]
  exact stepsMeet_congr (fun _ _ _ moved => Monitor.noneDiscarded_fates_iff moved) performed

/-- A request that is drained after its responses. -/
def lateRequest : RpcHeader := .request (Vector.replicate 16 7) 1 2 1 10

/-- A response to it. -/
def earlySample (kind : EventKind) : RpcHeader := .responseFrom lateRequest kind 1 15

/-- A value and an end are drained before the request, then the stream is replayed. -/
def replayedStream : List MonitorAction :=
  [.response "Svc" (earlySample .next) 0 none, .response "Svc" (earlySample .complete) 0 none,
    .request "Svc" lateRequest 0 0 none, .resolveDeferred [lateRequest.correlationId] 0]

/-- The same with an end in place of the value. -/
def replayedTwoEnds : List MonitorAction :=
  [.response "Svc" (earlySample .complete) 0 none,
    .response "Svc" (earlySample .complete) 0 none,
    .request "Svc" lateRequest 0 0 none, .resolveDeferred [lateRequest.correlationId] 0]

theorem responses_conserved_replayed :
    ∃ final, run (Monitor.step fun _ _ => some "ping") (.new 8 100) replayedStream =
        some final ∧
      Conserved (fun _ _ => some "ping") 8 100 replayedStream final := by
  obtain ⟨final, performed⟩ : ∃ final, run (Monitor.step fun _ _ => some "ping")
      (.new 8 100) replayedStream = some final := ⟨_, rfl⟩
  refine ⟨final, performed,
    (responses_conserved_iff _ 8 100 replayedStream final performed).mpr ?_⟩
  refine ⟨fun _ _ entry bounded found => ?_, ?_⟩
  · cases bounded
    cases found
  rintro _ ⟨⟩
  refine ⟨fun _ _ entry bounded found => ?_, ?_⟩
  · cases bounded
    cases found
    decide
  rintro _ ⟨⟩
  refine ⟨trivial, ?_⟩
  rintro _ ⟨⟩
  refine ⟨?_, fun _ _ => trivial⟩
  intro cid listed entry found
  cases List.mem_singleton.mp listed
  cases found
  decide

/-- The first end closes the call while the stream is replayed, and the second end is
neither matched nor held nor counted. -/
theorem responses_lost_in_replay :
    ∃ final, run (Monitor.step fun _ _ => some "ping") (.new 8 100) replayedTwoEnds =
        some final ∧
      (replayedTwoEnds.filterMap MonitorAction.responseSample).length = 2 ∧
      (matchedSamples (Monitor.written (fun _ _ => some "ping") 8 100
        replayedTwoEnds)).length = 1 ∧
      final.held = [] ∧ (∀ channel, final.metrics.orphan channel = 0) ∧
      ¬ Conserved (fun _ _ => some "ping") 8 100 replayedTwoEnds final := by
  refine ⟨_, rfl, rfl, by decide, by decide, fun _ => rfl, ?_⟩
  intro conserved
  have lengths := conserved.states.length_eq
  revert lengths
  decide

end IceRpc
