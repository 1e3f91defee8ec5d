import Depot.Fetch.Download
import Depot.Http.Client
import Depot.Proofs.Files

/-!
# Faults that no attempt has

A download may fail because there is no schedule for its attempts. No attempt fails with this fault,
whatever the files, the clock and the network do: not a request, not a body that breaks off, not a
file operation. So a download whose settings make a schedule never fails with it.

## Main definitions

* `Yields` : what is true of every result of a computation.
* `Scheduled` : a result that is no fault of a schedule.

## Main results

* `yields_retrying` : a session yields what each of its attempts yields.
* `HttpClient.yields_get`, `HttpClient.yields_getObject` : the answers of the transports.
* `yields_download` : a download whose settings make a schedule.
-/

namespace Depot

/-! ### Results of computations -/

section Yields

variable {σ α β : Type} {P : α → Prop} {Q : β → Prop}

/-- Every result of a computation has a property, whatever state it starts from. -/
def Yields (x : StateM σ α) (P : α → Prop) : Prop :=
  ∀ s, P (x s).1

theorem yields_pure {a : α} (h : P a) : Yields (pure a : StateM σ α) P :=
  fun _ => h

theorem Yields.bind {x : StateM σ α} {f : α → StateM σ β} (hx : Yields x P)
    (hf : ∀ a, P a → Yields (f a) Q) : Yields (x >>= f) Q :=
  fun s => hf _ (hx s) _

/-- A computation whose first step may have any result. -/
theorem yields_bind {x : StateM σ α} {f : α → StateM σ β} (hf : ∀ a, Yields (f a) Q) :
    Yields (x >>= f) Q :=
  fun _ => hf _ _

theorem Yields.map {x : StateM σ α} {f : α → β} (hx : Yields x fun a => Q (f a)) :
    Yields (f <$> x) Q :=
  fun s => hx s

end Yields

/-- A result is no fault of a schedule. -/
def Scheduled {α : Type} (r : Except FetchFault α) : Prop :=
  ∀ fault, r ≠ .error (.schedule fault)

/-- An answer is no fault of a schedule, and its body does not break off in one. -/
structure Reply.Scheduled (r : Except FetchFault Reply) : Prop where
  answer : Depot.Scheduled r
  body : ∀ tag body, r = .ok (.modified tag body) → ∀ fault, body.fault ≠ some (.schedule fault)

section Scheduled

variable {α β : Type}

theorem scheduled_ok (a : α) : Scheduled (.ok a) :=
  nofun

theorem scheduled_error {fault : FetchFault} (h : ∀ cause, fault ≠ .schedule cause) :
    Scheduled (.error fault : Except FetchFault α) :=
  fun cause heq => h cause (Except.error.inj heq)

theorem Scheduled.error {fault : FetchFault} (h : Scheduled (.error fault : Except FetchFault α)) :
    Scheduled (.error fault : Except FetchFault β) :=
  fun cause heq => h cause (by rw [Except.error.inj heq])

theorem Reply.Scheduled.of_error {fault : FetchFault}
    (h : Depot.Scheduled (.error fault : Except FetchFault β)) :
    Reply.Scheduled (.error fault) :=
  ⟨h.error, nofun⟩

/-- A computation that goes on with the value of its first step, or fails as the first step does. -/
theorem Yields.andThen {σ : Type} {x : StateM σ (Except FetchFault α)}
    {f : Except FetchFault α → StateM σ (Except FetchFault β)} (hx : Yields x Scheduled)
    (herror : ∀ fault, f (.error fault) = pure (.error fault))
    (hok : ∀ a, Yields (f (.ok a)) Scheduled) : Yields (x >>= f) Scheduled := by
  refine hx.bind fun r hscheduled => ?_
  cases r with
  | ok a => exact hok a
  | error fault => exact herror fault ▸ yields_pure hscheduled.error

end Scheduled

/-! ### Attempts -/

section Attempts

variable {σ : Type} [FileStore (StateM σ)]

theorem yields_handOn (destination : Path) (bytes : Bytes) :
    Yields (handOn destination bytes : StateM σ _) Scheduled := by
  unfold handOn
  split
  · exact yields_pure (scheduled_ok _)
  · refine yields_bind fun appended => ?_
    cases appended with
    | ok _ => exact yields_pure (scheduled_ok _)
    | error fault => exact yields_pure (scheduled_error nofun)

theorem yields_takeChunk (destination : Path) (pending chunk : Bytes) :
    Yields (takeChunk destination pending chunk : StateM σ _) Scheduled := by
  have hroom : Yields (if writeBuffer < pending.length + chunk.length then
      handOn destination pending else pure (.ok ()) : StateM σ _) Scheduled := by
    split
    · exact yields_handOn destination pending
    · exact yields_pure (scheduled_ok _)
  refine hroom.andThen (fun _ => rfl) fun _ => ?_
  dsimp only
  split
  · exact yields_pure (scheduled_ok _)
  · exact (yields_handOn destination chunk).andThen (fun _ => rfl)
      fun _ => yields_pure (scheduled_ok _)

/-- Writing chunks fails with a file operation, or in the way in which the body breaks off. -/
theorem yields_writeChunks (destination : Path) {broken : Option FetchFault}
    (hbroken : ∀ fault, broken ≠ some (.schedule fault)) (pending : Bytes) (chunks : List Bytes) :
    Yields (writeChunks destination broken pending chunks : StateM σ _) Scheduled := by
  induction chunks generalizing pending with
  | nil =>
    cases broken with
    | none => exact yields_handOn destination pending
    | some fault => exact yields_pure (scheduled_error fun cause h => hbroken cause (by rw [h]))
  | cons chunk rest ih =>
    exact (yields_takeChunk destination pending chunk).andThen (fun _ => rfl)
      fun pending => ih pending

theorem yields_replaceTag (destination : Path) (tag : Option String) :
    Yields (replaceTag destination tag : StateM σ _) Scheduled := by
  cases tag with
  | none => exact yields_bind fun _ => yields_pure (scheduled_ok _)
  | some tag =>
    refine yields_bind fun written => ?_
    cases written with
    | ok _ => exact yields_pure (scheduled_ok _)
    | error fault => exact yields_pure (scheduled_error nofun)

theorem yields_writeBody (destination : Path) (tag : Option String) {body : Body}
    (hbody : ∀ fault, body.fault ≠ some (.schedule fault)) :
    Yields (writeBody destination tag body : StateM σ _) Scheduled := by
  refine (yields_replaceTag destination tag).andThen (fun _ => rfl) fun _ => ?_
  refine yields_bind fun created => ?_
  cases created with
  | error fault => exact yields_pure (scheduled_error nofun)
  | ok _ => exact yields_writeChunks destination hbody [] body.chunks

/-- **An attempt does not fail with a fault of a schedule,** if its request does not. -/
theorem yields_conditionalFetch (destination : Path)
    {request : Option String → StateM σ (Except FetchFault Reply)}
    (hrequest : ∀ tag, Yields (request tag) Reply.Scheduled) :
    Yields (conditionalFetch destination request) Scheduled := by
  refine yields_bind fun tag => (hrequest tag).bind fun answer hanswer => ?_
  cases answer with
  | error fault => exact yields_bind fun _ => yields_pure hanswer.answer.error
  | ok reply =>
    cases reply with
    | notModified => exact yields_pure (scheduled_ok _)
    | modified tag body =>
      refine (yields_writeBody destination tag (hanswer.body tag body rfl)).bind
        fun written hscheduled => ?_
      cases written with
      | ok _ => exact yields_pure (scheduled_ok _)
      | error fault => exact yields_bind fun _ => yields_pure hscheduled.error

end Attempts

/-! ### Sessions -/

section Sessions

variable {σ α : Type} [Clock (StateM σ)] {P : Except FetchFault α → Prop}

theorem yields_retryFrom (s : Schedule) {attempt : StateM σ (Except FetchFault α)}
    (h : Yields attempt P) (left : Nat) :
    ∀ retry waited, Yields (retryFrom s attempt retry waited left) P := by
  induction left with
  | zero => exact fun _ _ => h
  | succ left ih =>
    intro retry waited
    refine h.bind fun outcome houtcome => ?_
    cases outcome with
    | ok a => exact yields_pure houtcome
    | error fault =>
      dsimp only
      split
      · exact yields_pure houtcome
      · refine yields_bind fun draw => ?_
        split
        · exact yields_pure houtcome
        · exact yields_bind fun _ => ih _ _

/-- **A session yields what each of its attempts yields.** -/
theorem yields_retrying (s : Schedule) {attempt : StateM σ (Except FetchFault α)}
    (h : Yields attempt P) : Yields (retrying s attempt) P :=
  yields_retryFrom s h s.maxRetries 0 0

end Sessions

/-! ### Downloads -/

section Downloads

variable {σ : Type} [FileStore (StateM σ)] [Clock (StateM σ)] [Transports (StateM σ)]
  (hurl : ∀ url tag, Yields (Transports.getUrl url tag : StateM σ _) Reply.Scheduled)
  (hobject : ∀ location tag,
    Yields (Transports.getObject location tag : StateM σ _) Reply.Scheduled)

include hurl hobject

theorem yields_fetchRemote {settings : FetchSettings} {s : Schedule}
    (hs : Schedule.make? settings.initialInterval settings.maxRetries = .ok s) (url : String)
    (destination : Path) :
    Yields (fetchRemote settings url destination : StateM σ _) Scheduled := by
  have hover : Yields (fetchUrl s url destination : StateM σ _) Scheduled :=
    yields_retrying s (yields_conditionalFetch destination (hurl url))
  unfold fetchRemote
  rw [hs]
  dsimp only
  split
  · exact hover
  · next location _ =>
    have hstored : Yields (fetchObject s location destination : StateM σ _) Scheduled :=
      yields_retrying s (yields_conditionalFetch destination (hobject location))
    refine hstored.bind fun fetched hscheduled => ?_
    cases fetched with
    | ok updated => exact yields_pure hscheduled
    | error fault => exact hover

omit [Clock (StateM σ)] [Transports (StateM σ)] hurl hobject in
theorem yields_verified (checksums : Dict String) (path : Path) (updated : Bool) :
    Yields (verified checksums path updated : StateM σ _) Scheduled := by
  refine yields_bind fun checked => ?_
  cases checked with
  | ok verification => exact yields_pure (scheduled_ok _)
  | error fault => exact yields_pure (scheduled_error nofun)

/-- **A download whose settings make a schedule does not fail for want of one,** if the transports
do not answer with such a fault. -/
theorem yields_download {settings : FetchSettings} {s : Schedule}
    (hs : Schedule.make? settings.initialInterval settings.maxRetries = .ok s)
    (request : FetchRequest) :
    Yields (download settings request : StateM σ _) Scheduled := by
  refine yields_bind fun made => ?_
  cases made with
  | error fault => exact yields_pure (scheduled_error nofun)
  | ok _ =>
    refine yields_bind fun found => ?_
    cases found with
    | some path => exact yields_verified request.checksums path false
    | none =>
      exact (yields_fetchRemote hurl hobject hs request.source _).andThen (fun _ => rfl)
        fun updated => yields_verified request.checksums _ updated

end Downloads

/-! ### Requests over HTTP -/

namespace HttpClient

theorem scheduled_of_nextOf {asked : String} {first current : Url} {answer : NetworkAnswer}
    {outcome : Except FetchFault HttpResponse}
    (h : nextOf asked first current answer = .done outcome) : Scheduled outcome := by
  unfold nextOf at h
  split at h
  · cases h
    exact scheduled_error nofun
  · cases h
    exact scheduled_error nofun
  · split at h
    · cases h
      exact scheduled_ok _
    · split at h
      · cases h
      · cases h
        exact scheduled_error nofun

theorem scheduled_replyOf (asked : String) (r : HttpResponse) :
    Reply.Scheduled (replyOf asked r) := by
  unfold replyOf
  split
  · exact ⟨scheduled_ok _, nofun⟩
  split
  · refine ⟨scheduled_ok _, fun tag body h fault hfault => ?_⟩
    cases h
    simp only [bodyOf] at hfault
    split at hfault
    · cases hfault
    · cases hfault
  · exact ⟨scheduled_error nofun, nofun⟩

theorem scheduled_bind_replyOf {r : Except FetchFault HttpResponse} (h : Scheduled r)
    (asked : String) : Reply.Scheduled (r.bind (replyOf asked)) := by
  cases r with
  | ok response => exact scheduled_replyOf asked response
  | error fault => exact .of_error h

variable {σ : Type} [Network (StateM σ)]

theorem yields_follow (asked : String) (first : Url) (tag : Option String) (left : Nat) :
    ∀ current, Yields (follow asked first tag left current : StateM σ _) Scheduled := by
  induction left with
  | zero =>
    refine fun current => yields_bind fun answer => ?_
    split
    · next hnext => exact yields_pure (scheduled_of_nextOf hnext)
    · exact yields_pure (scheduled_error nofun)
  | succ left ih =>
    refine fun current => yields_bind fun answer => ?_
    split
    · next hnext => exact yields_pure (scheduled_of_nextOf hnext)
    · exact ih _

theorem yields_send (asked : String) (tag : Option String) :
    Yields (send asked tag : StateM σ _) Scheduled := by
  unfold send
  split
  · exact yields_pure (scheduled_error nofun)
  split
  · exact yields_pure (scheduled_error nofun)
  split
  · exact yields_pure (scheduled_error nofun)
  dsimp only
  split
  · exact yields_pure (scheduled_error nofun)
  · exact yields_follow _ _ _ _ _

/-- **Asking for a URL does not fail with a fault of a schedule.** -/
theorem yields_get (asked : String) (tag : Option String) :
    Yields (get asked tag : StateM σ _) Reply.Scheduled := by
  unfold get
  split
  · exact yields_pure ⟨scheduled_error nofun, nofun⟩
  · exact (yields_send asked tag).bind fun r hr => yields_pure (scheduled_bind_replyOf hr asked)

/-- **Asking for an object does not fail with a fault of a schedule,** in neither region. -/
theorem yields_getObject (endpoint : Option String) (location : Option ObjectLocation)
    (tag : Option String) :
    Yields (getObject endpoint location tag : StateM σ _) Reply.Scheduled := by
  unfold getObject
  split
  · exact yields_pure ⟨scheduled_error nofun, nofun⟩
  · next l _ =>
    refine (yields_send _ tag).bind fun first hfirst => ?_
    cases first with
    | error fault => exact yields_pure (.of_error hfirst)
    | ok r =>
      dsimp only
      split
      · exact yields_pure (scheduled_replyOf _ r)
      · exact (yields_send _ tag).bind fun r hr => yields_pure (scheduled_bind_replyOf hr _)

end HttpClient

end Depot
