import BlobDepot.Transfer.Presigned

/-!
# Requests and answers that are followed

A client that sends a request may be answered with the name of another place, and asks there then.
A server receives one request for each answer that is followed and one more at most. Those after the
first bring no body, as long as the first one has a length if it brings one.
-/
namespace BlobDepot

/-! ## Requests that a server receives -/

/-- What becomes of a server that receives so many requests at most, all of a kind. -/
structure Exchange.Grows (kind : Request → Prop) (count : Nat) (x y : Exchange) : Prop where
  reply : y.reply = x.reply
  connections : x.connections ≤ y.connections
  requests : ∃ sent, y.requests = x.requests ++ sent ∧ sent.length ≤ count ∧ ∀ r ∈ sent, kind r

namespace Exchange.Grows

variable {kind kind' : Request → Prop} {count more : Nat} {x y z : Exchange} {r : Request}

theorem refl (kind : Request → Prop) (x : Exchange) : x.Grows kind 0 x :=
  ⟨rfl, Nat.le_refl _, [], (List.append_nil _).symm, Nat.le_refl _, nofun⟩

theorem connect (kind : Request → Prop) (x : Exchange) : x.Grows kind 0 x.connect :=
  ⟨rfl, Nat.le_succ _, [], (List.append_nil _).symm, Nat.le_refl _, nofun⟩

theorem receive (h : kind r) (x : Exchange) : x.Grows kind 1 (x.receive r) :=
  ⟨rfl, Nat.le_succ _, [r], rfl, Nat.le_refl _, List.forall_mem_singleton.2 h⟩

theorem mono (h : x.Grows kind count y) (hcount : count ≤ more)
    (hkind : ∀ r, kind r → kind' r) : x.Grows kind' more y := by
  obtain ⟨hreply, hconnections, sent, heq, hlength, hsent⟩ := h
  exact ⟨hreply, hconnections, sent, heq, Nat.le_trans hlength hcount,
    fun r hr => hkind r (hsent r hr)⟩

theorem trans (h : x.Grows kind count y) (h' : y.Grows kind more z) :
    x.Grows kind (count + more) z := by
  obtain ⟨hreply, hconnections, sent, heq, hlength, hsent⟩ := h
  obtain ⟨hreply', hconnections', sent', heq', hlength', hsent'⟩ := h'
  refine ⟨hreply'.trans hreply, Nat.le_trans hconnections hconnections', sent ++ sent', ?_, ?_,
    List.forall_mem_append.2 ⟨hsent, hsent'⟩⟩
  · rw [heq', heq, List.append_assoc]
  · rw [List.length_append]
    exact Nat.add_le_add hlength hlength'

end Exchange.Grows

/-! ## Answers that are followed -/

/-- A request that asks for a target and brings nothing. -/
structure Request.IsPlain (r : Request) : Prop where
  verb : r.verb = "GET"
  length : r.length = none
  body : r.body = []

theorem Request.isPlain_of_redirected {r r' : Request} {status : Nat} {target : String}
    (hr : r.length = none → r.IsPlain) (h : r.redirected status target = some r') :
    r'.IsPlain := by
  simp only [redirected] at h
  split at h
  · cases h
    exact ⟨rfl, rfl, rfl⟩
  split at h
  · next hstatus =>
    cases h
    simp only [Bool.and_eq_true, Option.isNone_iff_eq_none] at hstatus
    have hplain := hr hstatus.2
    exact ⟨hplain.verb, hplain.length, hplain.body⟩
  · cases h

namespace Client

variable {client : Client} {operation : String} {hops n status : Nat} {url url' : Url}
  {r r' : Request} {location : Option String} {x y z : Exchange} {s u : Scene Exchange}
  {response : Response}

theorem isPlain_of_next (hr : r.length = none → r.IsPlain)
    (h : client.next url r status location = some (url', r')) : r'.IsPlain := by
  simp only [next, Option.bind_eq_bind, Option.bind_eq_some_iff, Option.pure_def,
    Option.some.injEq, Prod.mk.injEq] at h
  obtain ⟨_, -, _, -, _, hredirected, -, rfl⟩ := h
  exact Request.isPlain_of_redirected hr hredirected

/-- So many answers in a row were followed, from a request to a URL on. -/
inductive Follows (client : Client) : Nat → Url → Request → Exchange → Url → Request → Exchange →
    Prop where
  | here (url : Url) (r : Request) (x : Exchange) : Follows client 0 url r x url r x
  | next {n status : Nat} {url url' url'' : Url} {r r' r'' : Request} {x y : Exchange}
      {body : List UInt8} {declared : Option Nat} {location : Option String}
      (hreply : x.reply x.connections = .answer status body declared location)
      (hnext : client.next url r status location = some (url', r'))
      (h : Follows client n url' r' (x.receive r) url'' r'' y) :
      Follows client (n + 1) url r x url'' r'' y

/-- What sending a request does to a scene, and what it comes to if it succeeds: the last answer of
those that were followed. -/
structure Sends (client : Client) (hops : Nat) (url : Url) (r : Request) (s : Scene Exchange)
    (w : Ending (Except OperationError Response) × Scene Exchange) : Prop where
  scene : ∃ n url' r' x, n ≤ hops ∧ client.Follows n url r s.world url' r' x ∧
    (w.2 = { s with world := x } ∨ w.2 = { s with world := x.connect } ∨
      w.2 = { s with world := x.receive r' })
  answer (response : Response) : w.1 = .ready (.ok response) →
    ∃ n url' r' x status body declared location, n ≤ hops ∧
      client.Follows n url r s.world url' r' x ∧
        x.reply x.connections = .answer status body declared location ∧
          response = Reply.response status body declared ∧ w.2 = { s with world := x.receive r' }

theorem Follows.grows (h : client.Follows n url r x url' r' y) (hr : r.length = none → r.IsPlain) :
    x.Grows (fun q => q = r ∨ q.IsPlain) n y ∧ (r' = r ∨ r'.IsPlain) := by
  induction h with
  | here url r x => exact ⟨.refl _ x, .inl rfl⟩
  | @next n status url url' url'' r r' r'' x y body declared location hreply hnext h ih =>
    have hplain : r'.IsPlain := isPlain_of_next hr hnext
    obtain ⟨hgrows, hlast⟩ := ih fun _ => hplain
    have hkind : ∀ q, q = r' ∨ q.IsPlain → q = r ∨ q.IsPlain :=
      fun q hq => .inr (hq.elim (fun heq => heq ▸ hplain) id)
    have hfirst : x.Grows (fun q => q = r ∨ q.IsPlain) 1 (x.receive r) := .receive (.inl rfl) x
    refine ⟨(hfirst.trans (hgrows.mono (Nat.le_refl _) hkind)).mono ?_ fun _ => id, hkind _ hlast⟩
    exact Nat.le_of_eq (Nat.add_comm 1 n)

theorem Follows.file_eq (h : client.Follows n url r x url' r' y) : y.file = x.file := by
  induction h with
  | here => rfl
  | next hreply hnext h ih => exact ih

/-- Nothing is followed where the first answer leads nowhere. -/
theorem Follows.eq_of_next (h : client.Follows n url r x url' r' y)
    (hnone : ∀ k status body declared location,
      x.reply k = .answer status body declared location →
        client.next url r status location = none) :
    y = x ∧ r' = r := by
  cases h with
  | here => exact ⟨rfl, rfl⟩
  | next hreply hnext h =>
    rw [hnone _ _ _ _ _ hreply] at hnext
    cases hnext

theorem Sends.next {body : List UInt8} {declared : Option Nat}
    {w : Ending (Except OperationError Response) × Scene Exchange}
    (hreply : s.world.reply s.world.connections = .answer status body declared location)
    (hnext : client.next url r status location = some (url', r'))
    (h : client.Sends hops url' r' (received r s) w) : client.Sends (hops + 1) url r s w := by
  obtain ⟨⟨n, url₁, r₁, x, hn, hfollows, hscene⟩, hanswer⟩ := h
  refine ⟨⟨n + 1, url₁, r₁, x, Nat.succ_le_succ hn, .next hreply hnext hfollows, hscene⟩,
    fun response hresponse => ?_⟩
  obtain ⟨m, url₂, r₂, y, status, body, declared, location, hm, hfollows, hlast⟩ :=
    hanswer response hresponse
  exact ⟨m + 1, url₂, r₂, y, status, body, declared, location, Nat.succ_le_succ hm,
    .next hreply hnext hfollows, hlast⟩

/-- Sending that comes to an end at once without an answer. -/
theorem Sends.of_first {w : Ending (Except OperationError Response) × Scene Exchange}
    (hscene : w.2 = s ∨ w.2 = connected s ∨ w.2 = received r s)
    (hending : ∀ response, w.1 ≠ .ready (.ok response)) : client.Sends hops url r s w :=
  ⟨⟨0, url, r, s.world, Nat.zero_le _, .here .., hscene⟩,
    fun response h => absurd h (hending response)⟩

theorem Sends.of_last {body : List UInt8} {declared : Option Nat}
    (hreply : s.world.reply s.world.connections = .answer status body declared location) :
    client.Sends hops url r s
      (.ready (.ok (Reply.response status body declared)), received r s) where
  scene := ⟨0, url, r, s.world, Nat.zero_le _, .here .., .inr (.inr rfl)⟩
  answer _ h := by
    cases h
    exact ⟨0, url, r, s.world, status, body, declared, location, Nat.zero_le _, .here .., hreply,
      rfl, rfl⟩

/-- Sending ends with the first answer, or without any, or goes on where the answer leads. -/
theorem send_cases (client : Client) (operation : String) (hops : Nat) (url : Url) (r : Request)
    (s : Scene Exchange) :
    (((client.send operation hops url r s).2 = s ∨
        (client.send operation hops url r s).2 = connected s ∨
          (client.send operation hops url r s).2 = received r s) ∧
      ∀ response, (client.send operation hops url r s).1 ≠ .ready (.ok response)) ∨
      ∃ status body declared location,
        s.world.reply s.world.connections = .answer status body declared location ∧
          (client.send operation hops url r s =
              (.ready (.ok (Reply.response status body declared)), received r s) ∨
            ∃ url' r' more, client.next url r status location = some (url', r') ∧
              hops = more + 1 ∧ client.send operation hops url r s =
                client.send operation more url' r' (received r s)) := by
  obtain ⟨w, hw⟩ : ∃ w, client.send operation hops url r s = w := ⟨_, rfl⟩
  rw [hw]
  unfold send at hw
  cases hsend : url.canBeSent with
  | false =>
    simp only [hsend] at hw
    exact .inl (hw ▸ ⟨.inl rfl, nofun⟩)
  | true =>
    cases hreply : s.world.reply s.world.connections with
    | refuse =>
      simp only [hsend, hreply] at hw
      exact .inl (hw ▸ ⟨.inr (.inl rfl), nofun⟩)
    | answer status body declared location =>
      cases hanswer : Reply.isAnswer status declared with
      | false =>
        simp only [hsend, hreply, hanswer] at hw
        exact .inl (hw ▸ ⟨.inr (.inr rfl), nofun⟩)
      | true =>
        simp only [hsend, hreply, hanswer] at hw
        cases hnext : client.next url r status location with
        | none =>
          simp only [hnext] at hw
          exact .inr ⟨status, body, declared, location, rfl, .inl hw.symm⟩
        | some asked =>
          cases hops with
          | zero =>
            simp only [hnext] at hw
            exact .inl (hw ▸ ⟨.inr (.inr rfl), nofun⟩)
          | succ more =>
            simp only [hnext] at hw
            exact .inr ⟨status, body, declared, location, rfl,
              .inr ⟨asked.1, asked.2, more, hnext, rfl, hw.symm⟩⟩
    | _ =>
      simp only [hsend, hreply] at hw
      exact .inl (hw ▸ ⟨.inr (.inr rfl), nofun⟩)

theorem sends_send (client : Client) (operation : String) (hops : Nat) (url : Url) (r : Request)
    (s : Scene Exchange) : client.Sends hops url r s (client.send operation hops url r s) := by
  -- an answer that is followed leaves one answer less to follow
  induction hops generalizing url r s with
  | zero =>
    rcases client.send_cases operation 0 url r s with
      hfirst | ⟨status, body, declared, location, hreply, hlast | ⟨_, _, _, -, hzero, -⟩⟩
    · exact .of_first hfirst.1 hfirst.2
    · exact hlast ▸ .of_last hreply
    · cases hzero
  | succ hops ih =>
    rcases client.send_cases operation (hops + 1) url r s with
      hfirst | ⟨status, body, declared, location, hreply,
        hlast | ⟨url', r', more, hnext, heq, hmore⟩⟩
    · exact .of_first hfirst.1 hfirst.2
    · exact hlast ▸ .of_last hreply
    · cases heq
      exact hmore ▸ (ih url' r' (received r s)).next hreply hnext

end Client

end BlobDepot
