/-
Module: IceRpc.Proofs.ChannelCourse
Purpose: How far the answer of every request has got.  For every id the desk of a
  provider is idle, rejects the request, or serves it with one task whose samples are,
  in order, those taken by a subscriber and the one under publication; every move of
  the desk keeps that.
Trusted boundary: none
Main exports: own, Desk.Course, Desk.course_moves, Rkyv.Solid, Framed.solid
-/
import IceRpc.Proofs.AnsweredToEnd
import IceRpc.Proofs.ChannelDesk

namespace IceRpc

open Function (update update_of_ne update_self)

variable {T E : Type}

/-- The samples of one call. -/
def own (cid : CorrelationId) (frames : List Frame) : List Frame :=
  frames.filter fun frame => frame.header.correlationId = cid

def Frame.sample (frame : Frame) : Sample := ⟨frame.header.eventKind, frame.payload⟩

def Publication.sample (publication : Publication) : Sample :=
  ⟨publication.header.eventKind, publication.payload⟩

/-! ### One turn of a loop -/

namespace Answering

variable {rkyv : Rkyv T E} {serving : Answering T E}

/-- A turn that emits frames one wire event more, and the loop goes on. -/
theorem turn_emits {sample : Sample}
    (emitted : (serving.turn rkyv).responding.sink = some sample) :
    (serving.turn rkyv).responding.outcome = none ∧
      (serving.turn rkyv).responding.samples =
        serving.responding.samples ++ [sample] ∧
      serving.responding.outcome = none := by
  unfold turn at emitted ⊢
  by_cases running : serving.responding.outcome = none
  · rcases serving.ready.turn_cases rkyv handOver running with
      ⟨-, turned⟩ | ⟨-, turned⟩ | ⟨wire, -, -, turned⟩ |
        ⟨wire, kind, bytes, -, framed, turned⟩
    all_goals rw [turned] at emitted ⊢
    · cases emitted
    · cases emitted
    · cases emitted
    · cases emitted
      exact ⟨rfl, rfl, running⟩
  · have returned : serving.ready.outcome ≠ none := running
    rw [Responding.turn_of_returned _ _ returned] at emitted
    cases emitted

/-- A turn that does not emit adds no sample; a loop that stopped on a refusal stays
as it is. -/
theorem turn_silent (silent : (serving.turn rkyv).responding.sink = none) :
    (serving.turn rkyv).responding.samples = serving.responding.samples ∧
      ((serving.turn rkyv).responding.outcome ≠ some .refused →
        serving.responding.outcome ≠ some .refused) := by
  unfold turn at silent ⊢
  by_cases running : serving.responding.outcome = none
  · rcases serving.ready.turn_cases rkyv handOver running with
      ⟨-, turned⟩ | ⟨-, turned⟩ | ⟨wire, -, -, turned⟩ |
        ⟨wire, kind, bytes, -, framed, turned⟩
    all_goals rw [turned] at silent ⊢
    · exact ⟨rfl, fun _ => by simp [running]⟩
    · exact ⟨rfl, fun _ => by simp [running]⟩
    · exact ⟨rfl, fun _ => by simp [running]⟩
    · cases silent
  · have returned : serving.ready.outcome ≠ none := running
    rw [Responding.turn_of_returned _ _ returned]
    exact ⟨rfl, id⟩

theorem turn_accounts {events sent : List (Event T E)}
    (accounts : serving.responding.Accounts rkyv events sent) :
    ∃ sentAfter, (serving.turn rkyv).responding.Accounts rkyv events sentAfter := by
  have ready : serving.ready.Accounts rkyv events sent :=
    ⟨accounts.framed, accounts.balance, accounts.exhausted, accounts.unencodable⟩
  exact Responding.turn_accounts handOver ready

/-- A loop whose publication failed keeps its account. -/
theorem refused_accounts {events sent : List (Event T E)}
    (accounts : serving.responding.Accounts rkyv events sent)
    (running : serving.responding.outcome = none) :
    serving.refused.responding.Accounts rkyv events sent where
  framed := accounts.framed
  balance _ := accounts.balance (by simp [running])
  exhausted returned := by cases returned
  unencodable returned := by cases returned

end Answering

/-! ### How far an answer has got -/

/-- The sample of a publication, if it is one of this call. -/
def samplesOf (cid : CorrelationId) : Option Publication → List Sample
  | some publication =>
      if publication.header.correlationId = cid then [publication.sample] else []
  | none => []

@[simp] theorem samplesOf_none (cid : CorrelationId) : samplesOf cid none = [] := rfl

theorem samplesOf_own {cid : CorrelationId} {publication : Publication}
    (isCid : publication.header.correlationId = cid) :
    samplesOf cid (some publication) = [publication.sample] := by
  simp [samplesOf, isCid]

theorem samplesOf_other {cid : CorrelationId} {publication : Publication}
    (other : publication.header.correlationId ≠ cid) :
    samplesOf cid (some publication) = [] := by
  simp [samplesOf, other]

@[simp] theorem own_append (cid : CorrelationId) (frames more : List Frame) :
    own cid (frames ++ more) = own cid frames ++ own cid more :=
  List.filter_append ..

/-- The samples under publication, where one publication takes the place of another. -/
theorem samplesOf_update {cid : CorrelationId} {outbox : Option TokenId → Option Publication}
    {owner : Option TokenId} {publication : Option Publication}
    (same : samplesOf cid publication = samplesOf cid (outbox owner)) (other : Option TokenId) :
    samplesOf cid (update outbox owner publication other) =
      samplesOf cid (outbox other) := by
  rcases eq_or_ne other owner with rfl | different
  · rw [update_self, same]
  · rw [update_of_ne different]

/-- Nothing is encoded to no bytes at all. -/
structure Rkyv.Solid (rkyv : Rkyv T E) : Prop where
  wire : ∀ wire, rkyv.encodeWire wire ≠ some []
  rpc : ∀ err, rkyv.encodeRpc err ≠ some []

theorem Framed.solid {rkyv : Rkyv T E} (codec : rkyv.Solid) {samples : List Sample}
    {sent : List (Event T E)} (framed : Framed rkyv samples sent) :
    ∀ sample ∈ samples, sample.payload ≠ [] := by
  induction framed with
  | nil => simp
  | @snoc samples sent wire consumed kind bytes before stands framed ih =>
      refine List.forall_mem_append.mpr ⟨ih, List.forall_mem_singleton.mpr ?_⟩
      rintro rfl
      cases wire with
      | rpcError err => exact codec.rpc err (congrArg Prod.snd framed)
      | _ => exact codec.wire _ (congrArg Prod.snd framed)

/-- A bare error is framed like the event it stands for. -/
theorem framed_rpcError {rkyv : Rkyv T E} {err : RpcError} {bytes : Bytes}
    (encoded : rkyv.encodeRpc err = some bytes) :
    Framed rkyv [⟨.rpcError, bytes⟩] [.error (.technical err)] :=
  Framed.nil.snoc (.single (.error (.technical err))) (by
    simp [frame, WireEvent.ofEvent, encoded])

namespace Desk

section

variable (rkyv : Rkyv T E) (table : Services T E) (desk : Desk T E) (cid : CorrelationId)

/-- The samples of a call that some subscriber took. -/
def logged : List Sample :=
  (own cid desk.log).map Frame.sample

/-- The sample of a call that this thread is publishing. -/
def pending (owner : Option TokenId) : List Sample :=
  samplesOf cid (desk.outbox owner)

/-- Nothing was done for this id, or nothing is to be answered. -/
structure Idle : Prop where
  silent : desk.logged cid = []
  nobody : ∀ token handling, desk.role token ≠ some (cid, handling)
  nothing : ∀ owner, desk.pending cid owner = []

/-- The request was taken up, under this id. -/
structure TakenUp (frames : List Frame) (cid : CorrelationId) (request : Frame) : Prop where
  handled : request ∈ frames
  isRequest : request.header.eventKind = .request
  isCid : request.header.correlationId = cid

/-- One thread publishes the answer of a request, and got as far as `samples` at most. -/
structure Answers (request : Frame) (owner : Option TokenId) (samples : List Sample) : Prop where
  taken : TakenUp desk.handled cid request
  nothing : ∀ other, other ≠ owner → desk.pending cid other = []
  within : desk.logged cid ++ desk.pending cid owner <+: samples

/-- The request reaches no method, and the dispatch thread says so. -/
structure Rejected (request : Frame) (err : RpcError) (bytes : Bytes) : Prop where
  answers : desk.Answers cid request none [⟨.rpcError, bytes⟩]
  answered : answer table request = [.error (.technical err)]
  encoded : rkyv.encodeRpc err = some bytes
  nobody : ∀ token handling, desk.role token ≠ some (cid, handling)

/-- A task serves the request, and `sent` are the events behind its samples. -/
structure Served (request : Frame) (token : TokenId) (handling : Handling T E)
    (serving : Answering T E) (sent : List (Event T E)) : Prop where
  answers : desk.Answers cid request (some token) serving.responding.samples
  answered : answer table request = handling.events.map Event.onWire
  role : desk.role token = some (cid, handling)
  alone : ∀ other found, desk.role other = some (cid, found) → other = token
  works : desk.serving token = some serving
  isCid : serving.request.correlationId = cid
  accounts : serving.responding.Accounts rkyv handling.events sent
  busy : ∀ publication, desk.outbox (some token) = some publication →
    publication.header.correlationId = cid ∧ serving.responding.outcome = none
  exactly : serving.responding.outcome ≠ some .refused →
    desk.logged cid ++ desk.pending cid (some token) = serving.responding.samples

/-- How far the answer under an id has got. -/
inductive Course : Prop where
  | idle (idle : desk.Idle cid)
  | rejected {request : Frame} {err : RpcError} {bytes : Bytes}
      (rejected : desk.Rejected rkyv table cid request err bytes)
  | served {request : Frame} {token : TokenId} {handling : Handling T E}
      {serving : Answering T E} {sent : List (Event T E)}
      (served : desk.Served rkyv table cid request token handling serving sent)

end

section Course

variable {rkyv : Rkyv T E} {table : Services T E} {desk next : Desk T E}
  {cid : CorrelationId} {token : TokenId} {handling : Handling T E} {request : Frame}
  {owner : Option TokenId} {publication : Publication} {samples : List Sample}

/-- A move that does not concern an id.  What a move leaves alone holds by computation. -/
structure Elsewhere (cid : CorrelationId) (desk next : Desk T E) : Prop where
  handled : ∀ frame ∈ desk.handled, frame ∈ next.handled := by exact fun _ member => member
  role : ∀ token handling, next.role token = some (cid, handling) ↔
    desk.role token = some (cid, handling) := by exact fun _ _ => Iff.rfl
  serving : ∀ token handling, desk.role token = some (cid, handling) →
    next.serving token = desk.serving token := by exact fun _ _ _ => rfl
  busy : ∀ token handling, desk.role token = some (cid, handling) →
    ∀ publication, next.outbox (some token) = some publication →
      ∃ before, desk.outbox (some token) = some before ∧
        before.header = publication.header := by
      exact fun _ _ _ publication found => ⟨publication, found, rfl⟩
  logged : next.logged cid = desk.logged cid := by exact rfl
  pending : ∀ owner, next.pending cid owner = desk.pending cid owner := by exact fun _ => rfl

theorem Answers.elsewhere (answers : desk.Answers cid request owner samples)
    (apart : Elsewhere cid desk next) : next.Answers cid request owner samples where
  taken := ⟨apart.handled request answers.taken.handled, answers.taken.isRequest,
    answers.taken.isCid⟩
  nothing other different := (apart.pending other).trans (answers.nothing other different)
  within := by
    rw [apart.logged, apart.pending]
    exact answers.within

theorem Course.elsewhere (course : desk.Course rkyv table cid)
    (apart : Elsewhere cid desk next) : next.Course rkyv table cid := by
  have nobody : (∀ token handling, desk.role token ≠ some (cid, handling)) →
      ∀ token handling, next.role token ≠ some (cid, handling) :=
    fun none token handling isRole => none token handling ((apart.role token handling).mp isRole)
  cases course with
  | idle idle =>
      exact .idle ⟨apart.logged.trans idle.silent, nobody idle.nobody,
        fun owner => (apart.pending owner).trans (idle.nothing owner)⟩
  | rejected rejected =>
      exact .rejected ⟨rejected.answers.elsewhere apart, rejected.answered, rejected.encoded,
        nobody rejected.nobody⟩
  | served served =>
      refine .served ⟨served.answers.elsewhere apart, served.answered,
        (apart.role ..).mpr served.role, ?_,
        (apart.serving _ _ served.role).trans served.works, served.isCid, served.accounts,
        ?_, ?_⟩
      · intro other found isRole
        exact served.alone other found ((apart.role other found).mp isRole)
      · intro publication isPublication
        obtain ⟨before, wasThere, same⟩ :=
          apart.busy _ _ served.role publication isPublication
        rw [← same]
        exact served.busy before wasThere
      · rw [apart.logged, apart.pending]
        exact served.exactly

/-- A task with this role serves the call of its id. -/
theorem Course.served_of_role (course : desk.Course rkyv table cid)
    (isRole : desk.role token = some (cid, handling)) :
    ∃ request serving sent,
      desk.Served rkyv table cid request token handling serving sent := by
  cases course with
  | idle idle => exact absurd isRole (idle.nobody token handling)
  | rejected rejected => exact absurd isRole (rejected.nobody token handling)
  | served served =>
      obtain rfl := served.alone token handling isRole
      cases served.role.symm.trans isRole
      exact ⟨_, _, _, served⟩

/-- An id none of whose requests was taken up is idle. -/
theorem Course.idle_of_unseen (course : desk.Course rkyv table cid)
    (isCid : request.header.correlationId = cid) (unseen : desk.Unseen request) :
    desk.Idle cid := by
  have notTaken : ∀ {taken owner samples}, desk.Answers cid taken owner samples → False :=
    fun answers => unseen _ answers.taken.handled (answers.taken.isCid.trans isCid.symm)
  cases course with
  | idle idle => exact idle
  | rejected rejected => exact (notTaken rejected.answers).elim
  | served served => exact (notTaken served.answers).elim

/-- The thread that publishes a sample of this call is the one that answers it. -/
theorem Course.publisher_cases (course : desk.Course rkyv table cid)
    (current : desk.outbox owner = some publication)
    (isCid : publication.header.correlationId = cid) :
    (owner = none ∧ ∃ request err bytes,
      desk.Rejected rkyv table cid request err bytes) ∨
    ∃ token request handling serving sent, owner = some token ∧
      desk.Served rkyv table cid request token handling serving sent := by
  have busy : desk.pending cid owner ≠ [] := by
    rw [pending, current, samplesOf_own isCid]
    simp
  cases course with
  | idle idle => exact absurd (idle.nothing owner) busy
  | rejected rejected =>
      refine Or.inl ⟨?_, _, _, _, rejected⟩
      by_contra other
      exact busy (rejected.answers.nothing owner other)
  | @served request token handling serving sent served =>
      refine Or.inr ⟨token, request, handling, serving, sent, ?_, served⟩
      by_contra other
      exact busy (served.answers.nothing owner other)

/-! #### The moves -/

theorem mem_push {frames : List Frame} (frame : Frame) :
    ∀ other ∈ frames, other ∈ frames ++ [frame] :=
  fun _ member => List.mem_append_left _ member

theorem taken_push {frames : List Frame} (isRequest : request.header.eventKind = .request)
    (isCid : request.header.correlationId = cid) : TakenUp (frames ++ [request]) cid request :=
  ⟨List.mem_append_right _ (List.mem_singleton.mpr rfl), isRequest, isCid⟩

theorem course_hire (course : desk.Course rkyv table cid) (fresh : desk.Fresh)
    (isRequest : request.header.eventKind = .request) (unseen : desk.Unseen request)
    (answered : answer table request = handling.events.map Event.onWire) :
    ({ desk with
        nextToken := desk.nextToken + 1
        role := update desk.role desk.nextToken
          (some (request.header.correlationId, handling))
        serving := update desk.serving desk.nextToken
          (some (.start request.header handling))
        handled := desk.handled ++ [request] } : Desk T E).Course rkyv table cid := by
  obtain ⟨free, empty⟩ := fresh _ (Nat.le_refl _)
  by_cases isCid : request.header.correlationId = cid
  · subst isCid
    have idle := course.idle_of_unseen rfl unseen
    have nothingYet : desk.logged request.header.correlationId ++
        desk.pending request.header.correlationId (some desk.nextToken) = [] := by
      rw [idle.silent, idle.nothing]
      rfl
    refine .served ⟨⟨taken_push isRequest rfl, fun other _ => idle.nothing other, ?_⟩, answered,
      update_self .., ?_, update_self .., rfl,
      Responding.accounts_start .., ?_, fun _ => nothingYet⟩
    · exact nothingYet ▸ List.nil_prefix
    · intro other found isRole
      rcases Lib.update_some_cases isRole with ⟨same, -⟩ | ⟨-, before⟩
      · exact same
      · exact absurd before (idle.nobody other found)
    · intro publication isPublication
      cases empty.symm.trans isPublication
  · refine course.elsewhere { handled := mem_push request, role := ?_, serving := ?_ }
    · intro other found
      rcases eq_or_ne other desk.nextToken with rfl | different
      · simp [free, isCid]
      · simp only [update_of_ne different]
    · intro other found isRole
      have different : other ≠ desk.nextToken := by
        rintro rfl
        cases free.symm.trans isRole
      exact update_of_ne different ..

theorem course_reject {err : RpcError} {bytes : Bytes} {header : RpcHeader}
    (course : desk.Course rkyv table cid)
    (isRequest : request.header.eventKind = .request) (unseen : desk.Unseen request)
    (answered : answer table request = [.error (.technical err)])
    (encoded : rkyv.encodeRpc err = some bytes) (empty : desk.outbox none = none)
    (isHeader : header.correlationId = request.header.correlationId)
    (isKind : header.eventKind = .rpcError) :
    ({ desk with
        outbox := update desk.outbox none (some (.ofFrame ⟨header, bytes⟩))
        handled := desk.handled ++ [request] } : Desk T E).Course rkyv table cid := by
  by_cases isCid : request.header.correlationId = cid
  · have idle := course.idle_of_unseen isCid unseen
    have own : samplesOf cid (some (.ofFrame ⟨header, bytes⟩)) = [⟨.rpcError, bytes⟩] := by
      rw [samplesOf_own (isHeader.trans isCid), ← isKind]
      rfl
    refine .rejected ⟨⟨taken_push isRequest isCid, ?_, ?_⟩, answered, encoded, idle.nobody⟩
    · intro other different
      simp only [pending, update_of_ne different]
      exact idle.nothing other
    · have silent : (IceRpc.own cid desk.log).map Frame.sample = [] := idle.silent
      simp only [pending, logged, update_self, own, silent]
      exact List.prefix_refl _
  · refine course.elsewhere { handled := mem_push request, busy := ?_, pending := ?_ }
    · intro token handling _ publication isPublication
      simp only [update_of_ne (Option.some_ne_none token)] at isPublication
      exact ⟨publication, isPublication, rfl⟩
    · refine samplesOf_update ?_
      rw [empty, samplesOf_other fun same => isCid (isHeader.symm.trans same)]
      rfl

theorem course_emit {serving : Answering T E} {sample : Sample} {header : RpcHeader}
    {role : CorrelationId × Handling T E}
    (every : ∀ cid, desk.Course rkyv table cid) (current : desk.role token = some role)
    (works : desk.serving token = some serving) (empty : desk.outbox (some token) = none)
    (emitted : (serving.turn rkyv).responding.sink = some sample)
    (isHeader : header.correlationId = serving.request.correlationId)
    (isKind : header.eventKind = sample.kind) :
    ({ desk with
        serving := update desk.serving token (some (serving.turn rkyv))
        outbox := update desk.outbox (some token)
          (some (.ofFrame ⟨header, sample.payload⟩)) } : Desk T E).Course rkyv table cid := by
  obtain ⟨mine, handling⟩ := role
  obtain ⟨request, found, sent, served⟩ := (every mine).served_of_role current
  cases served.works.symm.trans works
  have isMine : header.correlationId = mine := isHeader.trans served.isCid
  by_cases same : mine = cid
  · subst same
    obtain ⟨goesOn, samples, running⟩ := Answering.turn_emits emitted
    obtain ⟨sentAfter, accounts⟩ := Answering.turn_accounts served.accounts
    have exactly : (own mine desk.log).map Frame.sample ++
        samplesOf mine (some (.ofFrame ⟨header, sample.payload⟩)) =
          (serving.turn rkyv).responding.samples := by
      have soFar := served.exactly (by simp [running])
      rw [pending, empty, samplesOf_none, List.append_nil] at soFar
      rw [samples, ← soFar, samplesOf_own isMine, Publication.sample, Publication.ofFrame]
      simp only [isKind]
      rfl
    refine .served ⟨⟨served.answers.taken, ?_, ?_⟩, served.answered, served.role, served.alone,
      update_self .., served.isCid, accounts, ?_, ?_⟩
    · intro owner different
      simp only [pending, update_of_ne different]
      exact served.answers.nothing owner different
    · simp only [pending, logged, update_self, exactly]
      exact List.prefix_refl _
    · intro publication isPublication
      simp only [update_self, Option.some.injEq] at isPublication
      subst isPublication
      exact ⟨isMine, goesOn⟩
    · intro _
      simp only [pending, logged, update_self, exactly]
  · have notMine : ∀ other found, desk.role other = some (cid, found) → other ≠ token := by
      rintro other found isRole rfl
      cases current.symm.trans isRole
      exact same rfl
    refine (every cid).elsewhere { serving := ?_, busy := ?_, pending := ?_ }
    · intro other found isRole
      exact update_of_ne (notMine other found isRole) ..
    · intro other found isRole publication isPublication
      have different : some other ≠ some token := by
        simpa using notMine other found isRole
      simp only [update_of_ne different] at isPublication
      exact ⟨publication, isPublication, rfl⟩
    · refine samplesOf_update ?_
      rw [empty, samplesOf_other fun isCid => same (isMine.symm.trans isCid)]
      rfl

theorem course_rest {serving : Answering T E} (course : desk.Course rkyv table cid)
    (works : desk.serving token = some serving) (empty : desk.outbox (some token) = none)
    (silent : (serving.turn rkyv).responding.sink = none) :
    ({ desk with
        serving := update desk.serving token (some (serving.turn rkyv)) } :
      Desk T E).Course rkyv table cid := by
  by_cases mine : ∃ handling, desk.role token = some (cid, handling)
  · obtain ⟨handling, isRole⟩ := mine
    obtain ⟨request, found, sent, served⟩ := course.served_of_role isRole
    cases served.works.symm.trans works
    obtain ⟨sentAfter, accounts⟩ := Answering.turn_accounts served.accounts
    obtain ⟨samples, notRefused⟩ := Answering.turn_silent silent
    refine .served ⟨⟨served.answers.taken, served.answers.nothing, ?_⟩, served.answered,
      served.role, served.alone, update_self .., served.isCid, accounts, ?_, ?_⟩
    · rw [samples]
      exact served.answers.within
    · intro publication isPublication
      cases empty.symm.trans isPublication
    · intro going
      rw [samples]
      exact served.exactly (notRefused going)
  · refine course.elsewhere { serving := ?_ }
    intro other found isRole
    have different : other ≠ token := by
      rintro rfl
      exact mine ⟨found, isRole⟩
    exact update_of_ne different ..

theorem course_retry (course : desk.Course rkyv table cid) (attempts : Nat)
    (current : desk.outbox owner = some publication) :
    ({ desk with
        outbox := update desk.outbox owner
          (some { publication with attempts := attempts }) } :
      Desk T E).Course rkyv table cid := by
  refine course.elsewhere { busy := ?_, pending := samplesOf_update (by rw [current]; rfl) }
  intro other found isRole changed isChanged
  rcases Lib.update_some_cases isChanged with ⟨rfl, rfl⟩ | ⟨-, before⟩
  · exact ⟨publication, current, rfl⟩
  · exact ⟨changed, before, rfl⟩

/-- A publication that ends leaves nothing under way for this call. -/
theorem Answers.nothing_after (answers : desk.Answers cid request owner samples)
    (other : Option TokenId) :
    samplesOf cid (update desk.outbox owner none other) = [] := by
  rcases eq_or_ne other owner with rfl | different
  · rw [update_self]
    rfl
  · rw [update_of_ne different]
    exact answers.nothing other different

/-- A sample that is taken moves from the outbox to the log. -/
theorem Answers.deliver (answers : desk.Answers cid request owner samples)
    (solid : ∀ sample ∈ samples, sample.payload ≠ [])
    (current : desk.outbox owner = some publication)
    (isCid : publication.header.correlationId = cid) :
    (own cid (desk.log ++ [.sent publication.header publication.payload])).map Frame.sample ++
        samplesOf cid (update desk.outbox owner none owner) =
      desk.logged cid ++ desk.pending cid owner := by
  have handed : desk.pending cid owner = [publication.sample] := by
    rw [pending, current, samplesOf_own isCid]
  have full : publication.payload ≠ [] := by
    refine solid publication.sample (answers.within.subset ?_)
    rw [handed]
    exact List.mem_append_right _ (List.mem_singleton.mpr rfl)
  rw [answers.nothing_after, handed, logged, own_append]
  simp [own, Frame.sent, isCid, Frame.sample, Publication.sample, full]

theorem course_deliver (codec : rkyv.Solid) (course : desk.Course rkyv table cid)
    (current : desk.outbox owner = some publication) :
    ({ desk with
        outbox := update desk.outbox owner none
        log := desk.log ++ [.sent publication.header publication.payload] } :
      Desk T E).Course rkyv table cid := by
  by_cases isCid : publication.header.correlationId = cid
  · rcases course.publisher_cases current isCid with
      ⟨rfl, request, err, bytes, rejected⟩ |
        ⟨token, request, handling, serving, sent, rfl, served⟩
    · have moved := rejected.answers.deliver
        ((framed_rpcError rejected.encoded).solid codec) current isCid
      exact .rejected ⟨⟨rejected.answers.taken, fun _ _ => rejected.answers.nothing_after _,
        moved ▸ rejected.answers.within⟩, rejected.answered, rejected.encoded, rejected.nobody⟩
    · have moved := served.answers.deliver (served.accounts.framed.solid codec) current isCid
      refine .served ⟨⟨served.answers.taken, fun _ _ => served.answers.nothing_after _,
        moved ▸ served.answers.within⟩, served.answered, served.role, served.alone,
        served.works, served.isCid, served.accounts, ?_,
        fun going => moved.trans (served.exactly going)⟩
      intro found isFound
      exact served.busy found (Lib.update_none_cases isFound).2
  · refine course.elsewhere { busy := ?_, logged := ?_, pending := ?_ }
    · intro other found isRole changed isChanged
      exact ⟨changed, (Lib.update_none_cases isChanged).2, rfl⟩
    · simp [logged, own, Frame.sent, isCid]
    · refine samplesOf_update ?_
      rw [current, samplesOf_other isCid]
      rfl

theorem course_fail (course : desk.Course rkyv table cid)
    (current : desk.outbox owner = some publication) :
    ({ desk with
        outbox := update desk.outbox owner none
        serving := Answering.refuse desk.serving owner } : Desk T E).Course rkyv table cid := by
  by_cases isCid : publication.header.correlationId = cid
  · have fewer : ∀ {request samples}, desk.Answers cid request owner samples →
        desk.logged cid ++ samplesOf cid (update desk.outbox owner none owner) <+:
          samples := by
      intro request samples answers
      rw [answers.nothing_after, List.append_nil]
      exact (List.prefix_append _ _).trans answers.within
    rcases course.publisher_cases current isCid with
      ⟨rfl, request, err, bytes, rejected⟩ |
        ⟨token, request, handling, serving, sent, rfl, served⟩
    · exact .rejected ⟨⟨rejected.answers.taken, fun _ _ => rejected.answers.nothing_after _,
        fewer rejected.answers⟩, rejected.answered, rejected.encoded, rejected.nobody⟩
    · obtain ⟨-, running⟩ := served.busy publication current
      have stopped : Answering.refuse desk.serving (some token) token = some serving.refused := by
        simp [Answering.refuse, served.works]
      have within : _ <+: serving.refused.responding.samples := fewer served.answers
      refine .served ⟨⟨served.answers.taken, fun _ _ => served.answers.nothing_after _,
        within⟩, served.answered, served.role, served.alone, stopped,
        served.isCid, Answering.refused_accounts served.accounts running, ?_,
        fun going => absurd rfl going⟩
      intro found isFound
      simp only [update_self] at isFound
      cases isFound
  · have notMine : ∀ other found, desk.role other = some (cid, found) →
        some other ≠ owner := by
      rintro other found isRole rfl
      obtain ⟨request, serving, sent, served⟩ := course.served_of_role isRole
      exact isCid (served.busy publication current).1
    refine course.elsewhere { serving := ?_, busy := ?_, pending := ?_ }
    · intro other found isRole
      cases owner with
      | none => rfl
      | some token =>
          have different : other ≠ token := by
            simpa using notMine other found isRole
          exact update_of_ne different ..
    · intro other found isRole changed isChanged
      exact ⟨changed, (Lib.update_none_cases isChanged).2, rfl⟩
    · refine samplesOf_update ?_
      rw [current, samplesOf_other isCid]
      rfl

/-- Every move keeps how far every answer has got. -/
theorem course_moves (codec : rkyv.Solid) (move : desk.Moves rkyv table next)
    (fresh : desk.Fresh) (every : ∀ cid, desk.Course rkyv table cid) (cid : CorrelationId) :
    next.Course rkyv table cid := by
  cases move with
  | pass frame => exact (every cid).elsewhere { handled := mem_push frame }
  | hire isRequest unseen answered =>
      exact course_hire (every cid) fresh isRequest unseen answered
  | reject isRequest unseen answered encoded empty isCid isKind =>
      exact course_reject (every cid) isRequest unseen answered encoded empty isCid isKind
  | emit current works empty emitted isCid isKind =>
      exact course_emit every current works empty emitted isCid isKind
  | rest works empty silent => exact course_rest (every cid) works empty silent
  | retry attempts current => exact course_retry (every cid) attempts current
  | deliver current => exact course_deliver codec (every cid) current
  | fail current => exact course_fail (every cid) current

end Course

end Desk

end IceRpc
