import Depot.Http.Client
import Depot.Proofs.Files

/-!
# The requests of a client

What a client asks a network for, whatever the network answers: the requests for one URL form a
chain, in which every request but the first one asks for the URL that the response before it
redirects to. An object is asked for in at most two such chains, one in its own region and one in
the region that the first answer names.

## Main definitions

* `RecordedNetwork` : a network that answers from a list and writes down every exchange.
* `HttpClient.Chain` : the exchanges that a request for a URL leads to.
* `HttpClient.AsksIn` : the regions in which an object is asked for.

## Main results

* `HttpClient.follow_cases`, `HttpClient.send_cases` : a request for a URL is a chain.
* `HttpClient.getObject_cases` : a request for an object is made of chains.
-/

namespace Depot

/-- A request and what became of it. -/
structure Exchange where
  request : HttpRequest
  answer : NetworkAnswer
  deriving DecidableEq, Repr

/-- A network that answers from a list and then falls silent, and the exchanges so far. -/
structure RecordedNetwork where
  answers : List NetworkAnswer
  exchanges : List Exchange
  deriving DecidableEq, Repr

namespace RecordedNetwork

/-- What becomes of the next request. -/
def next (n : RecordedNetwork) : NetworkAnswer :=
  n.answers.headD .silent

/-- The network after a request. -/
def record (n : RecordedNetwork) (r : HttpRequest) : RecordedNetwork :=
  ⟨n.answers.tail, n.exchanges ++ [⟨r, n.next⟩]⟩

instance : Network (StateM RecordedNetwork) where
  send r n := (n.next, n.record r)

theorem mem_of_next {n : RecordedNetwork} {r : HttpResponse} (h : n.next = .response r) :
    .response r ∈ n.answers := by
  unfold next at h
  cases hanswers : n.answers with
  | nil =>
    rw [hanswers] at h
    cases h
  | cons answer rest =>
    rw [hanswers, List.headD_cons] at h
    exact h ▸ List.mem_cons_self

theorem mem_answers_of_record {n : RecordedNetwork} {r : HttpRequest} {answer : NetworkAnswer}
    (h : answer ∈ (n.record r).answers) : answer ∈ n.answers :=
  List.mem_of_mem_tail h

end RecordedNetwork

namespace HttpClient

/-- The exchanges that a request for a URL leads to: each further request asks for the URL that
the response before it redirects to. -/
inductive Chain (tag : Option String) : Url → List Exchange → Prop
  | last (u : Url) (answer : NetworkAnswer) : Chain tag u [⟨⟨u, tag⟩, answer⟩]
  | redirect {u next : Url} {r : HttpResponse} {rest : List Exchange}
      (h : redirectTarget? u r = some next) (hrest : Chain tag next rest) :
      Chain tag u (⟨⟨u, tag⟩, .response r⟩ :: rest)

/-! ### One request after another -/

theorem nextOf_eq_redirect {asked : String} {first current next : Url} {answer : NetworkAnswer}
    (h : nextOf asked first current answer = .redirect next) :
    ∃ r, answer = .response r ∧ redirectTarget? current r = some next := by
  unfold nextOf at h
  split at h
  · cases h
  · cases h
  · next r =>
    split at h
    · cases h
    · next target htarget =>
      split at h
      · cases h
        exact ⟨r, rfl, htarget⟩
      · cases h

theorem nextOf_eq_ok {asked : String} {first current : Url} {answer : NetworkAnswer}
    {r : HttpResponse} (h : nextOf asked first current answer = .done (.ok r)) :
    answer = .response r := by
  unfold nextOf at h
  split at h
  · cases h
  · cases h
  · split at h
    · cases h
      rfl
    · split at h <;> cases h

variable {asked : String} {first : Url} {tag : Option String} {n n' : RecordedNetwork}

/-- **What follows a request is a chain,** and the response that is returned is an answer of the
network. -/
theorem follow_cases {left : Nat} {current : Url} {outcome : Except FetchFault HttpResponse}
    (h : (follow asked first tag left current : StateM RecordedNetwork _) n = (outcome, n')) :
    ∃ chain, Chain tag current chain ∧ n'.exchanges = n.exchanges ++ chain ∧
      ∀ r, outcome = .ok r → .response r ∈ n.answers := by
  induction left generalizing current n with
  | zero =>
    unfold follow at h
    obtain ⟨answer, n₁, hsend, h⟩ := bind_eq_iff.1 h
    obtain ⟨rfl, rfl⟩ := Prod.mk.inj hsend
    refine ⟨[⟨⟨current, tag⟩, n.next⟩], .last current n.next, ?_⟩
    cases hnext : nextOf asked first current n.next with
    | done result =>
      simp only [hnext] at h
      obtain ⟨rfl, rfl⟩ := pure_eq_iff.1 h
      exact ⟨rfl, fun r hr => RecordedNetwork.mem_of_next (nextOf_eq_ok (hr ▸ hnext))⟩
    | redirect next =>
      simp only [hnext] at h
      obtain ⟨rfl, rfl⟩ := pure_eq_iff.1 h
      exact ⟨rfl, fun r hr => by cases hr⟩
  | succ left ih =>
    unfold follow at h
    obtain ⟨answer, n₁, hsend, h⟩ := bind_eq_iff.1 h
    obtain ⟨rfl, rfl⟩ := Prod.mk.inj hsend
    cases hnext : nextOf asked first current n.next with
    | done result =>
      simp only [hnext] at h
      obtain ⟨rfl, rfl⟩ := pure_eq_iff.1 h
      exact ⟨[⟨⟨current, tag⟩, n.next⟩], .last current n.next, rfl,
        fun r hr => RecordedNetwork.mem_of_next (nextOf_eq_ok (hr ▸ hnext))⟩
    | redirect next =>
      simp only [hnext] at h
      obtain ⟨r, hr, htarget⟩ := nextOf_eq_redirect hnext
      obtain ⟨chain, hchain, hexchanges, hok⟩ := ih h
      refine ⟨⟨⟨current, tag⟩, n.next⟩ :: chain, hr ▸ .redirect htarget hchain, ?_, ?_⟩
      · rw [hexchanges]
        simp [RecordedNetwork.record]
      · exact fun r hr => RecordedNetwork.mem_answers_of_record (hok r hr)

/-- **A request for the URL that a text denotes** is a chain from that URL, or is not made at all.
-/
theorem send_cases {outcome : Except FetchFault HttpResponse}
    (h : (send asked tag : StateM RecordedNetwork _) n = (outcome, n')) :
    (n' = n ∧ ∀ r, outcome ≠ .ok r) ∨
      ∃ u chain, Url.parse? asked = some u ∧ Chain tag (withoutSentUser u) chain ∧
        n'.exchanges = n.exchanges ++ chain ∧ ∀ r, outcome = .ok r → .response r ∈ n.answers := by
  have hrefused : ∀ {fault : FetchFault},
      (pure (.error fault) : StateM RecordedNetwork (Except FetchFault HttpResponse)) n =
        (outcome, n') →
      n' = n ∧ ∀ r, outcome ≠ .ok r := by
    intro fault h
    obtain ⟨rfl, rfl⟩ := pure_eq_iff.1 h
    exact ⟨rfl, fun r hr => by cases hr⟩
  unfold send at h
  cases hu : Url.parse? asked with
  | none =>
    simp only [hu] at h
    exact .inl (hrefused h)
  | some u =>
    simp only [hu] at h
    split at h
    · exact .inl (hrefused h)
    · split at h
      · exact .inl (hrefused h)
      · split at h
        · exact .inl (hrefused h)
        · obtain ⟨chain, hchain, hexchanges, hok⟩ := follow_cases h
          exact .inr ⟨u, chain, rfl, hchain, hexchanges, hok⟩

/-- The regions in which an object is asked for: its own, and one that an answer moves it to. -/
def AsksIn (l : ObjectLocation) (answers : List NetworkAnswer) (region : String) : Prop :=
  region = l.region ∨ ∃ r, .response r ∈ answers ∧ redirectRegion? r l.region = some region

/-- The chains, one or none, of a request for the URL that a text denotes. -/
theorem exists_chains_of_send {outcome : Except FetchFault HttpResponse}
    (h : (send asked tag : StateM RecordedNetwork _) n = (outcome, n')) :
    ∃ chains : List (List Exchange), n'.exchanges = n.exchanges ++ chains.flatten ∧
      ∀ chain ∈ chains, ∃ u, Url.parse? asked = some u ∧ Chain tag (withoutSentUser u) chain := by
  rcases send_cases h with ⟨rfl, -⟩ | ⟨u, chain, hu, hchain, hexchanges, -⟩
  · exact ⟨[], by simp, by simp⟩
  · exact ⟨[chain], by simpa using hexchanges, by simpa using ⟨u, hu, hchain⟩⟩

/-- **A request for an object is made of chains** from the URLs that the object has in the regions
in which it is asked for. -/
theorem getObject_cases {endpoint : Option String} {l : ObjectLocation}
    {outcome : Except FetchFault Reply}
    (h : (getObject endpoint (some l) tag : StateM RecordedNetwork _) n = (outcome, n')) :
    ∃ chains : List (List Exchange), n'.exchanges = n.exchanges ++ chains.flatten ∧
      ∀ chain ∈ chains, ∃ region u, AsksIn l n.answers region ∧
        Url.parse? (objectUrl endpoint l.bucket l.key region) = some u ∧
        Chain tag (withoutSentUser u) chain := by
  unfold getObject at h
  cases hcomplete : (some l).filter ObjectLocation.isComplete with
  | none =>
    simp only [hcomplete] at h
    obtain ⟨-, rfl⟩ := pure_eq_iff.1 h
    exact ⟨[], by simp, by simp⟩
  | some l' =>
    obtain ⟨hl, -⟩ := Option.filter_eq_some_iff.1 hcomplete
    obtain rfl := Option.some.inj hl
    simp only [hcomplete] at h
    obtain ⟨result, n₁, hsend, h⟩ := bind_eq_iff.1 h
    obtain ⟨chains, hexchanges, hchains⟩ := exists_chains_of_send hsend
    have hown : ∀ chain ∈ chains, ∃ region u, AsksIn l n.answers region ∧
        Url.parse? (objectUrl endpoint l.bucket l.key region) = some u ∧
        Chain tag (withoutSentUser u) chain := fun chain hmem =>
      ⟨l.region, (hchains chain hmem).imp fun u hu => ⟨.inl rfl, hu⟩⟩
    cases result with
    | error fault =>
      obtain ⟨-, rfl⟩ := pure_eq_iff.1 h
      exact ⟨chains, hexchanges, hown⟩
    | ok r =>
      cases hredirect : redirectRegion? r l.region with
      | none =>
        simp only [hredirect] at h
        obtain ⟨-, rfl⟩ := pure_eq_iff.1 h
        exact ⟨chains, hexchanges, hown⟩
      | some region =>
        simp only [hredirect] at h
        obtain ⟨result, n₂, hagain, h⟩ := bind_eq_iff.1 h
        obtain ⟨-, rfl⟩ := pure_eq_iff.1 h
        obtain ⟨more, hmore, hmoved⟩ := exists_chains_of_send hagain
        have hr : NetworkAnswer.response r ∈ n.answers := by
          rcases send_cases hsend with ⟨-, hnone⟩ | ⟨_, _, _, _, _, hok⟩
          · exact absurd rfl (hnone r)
          · exact hok r rfl
        refine ⟨chains ++ more, ?_, ?_⟩
        · rw [hmore, hexchanges, List.flatten_append, List.append_assoc]
        rw [List.forall_mem_append]
        exact ⟨hown, fun chain hmem =>
          ⟨region, (hmoved chain hmem).imp fun u hu => ⟨.inr ⟨r, hr, hredirect⟩, hu⟩⟩⟩

end HttpClient

end Depot
