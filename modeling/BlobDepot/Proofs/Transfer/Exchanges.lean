import BlobDepot.Proofs.Transfer.Course
import BlobDepot.Proofs.Transfer.Redirects

/-!
# What a transfer does to a server and a file

An attempt connects or not, and the server then receives the request of the attempt or not, and
those that its answers call for. Only an answer of success to a download changes the file. Over a
run this adds up: where no answer sends the client elsewhere the server receives one request at most
for each attempt, all of them alike, and the file is left alone as long as no answer is one of
success.
-/
namespace BlobDepot

/-! ## Answers -/

namespace Reply

variable {status : ℕ} {body : List UInt8} {declared : Option ℕ}

def IsSuccess : Reply → Prop
  | .answer status _ _ _ => isSuccess status = true
  | _ => False

/-- The body of an answer as status and length delimit it, if it arrives to its end. -/
def delimited (status : ℕ) (body : List UInt8) (declared : Option ℕ) : Option (List UInt8) :=
  if status = 204 then some []
  else
    match declared with
    | none => some body
    | some n => if n ≤ body.length then some (body.take n) else none

theorem hasNoBody_of_isSuccess (h : isSuccess status = true) :
    hasNoBody status = decide (status = 204) := by
  simp only [isSuccess, Bool.and_eq_true, decide_eq_true_eq] at h
  have hswitch : status ≠ 101 := by omega
  have hsame : status ≠ 304 := by omega
  simp [hasNoBody, hswitch, hsame]

/-- The bytes that arrive of an answer of success are its body, if it is complete. -/
theorem delimited_of_isComplete (h : isSuccess status = true)
    (hbody : (bodyOf status body declared).isComplete = true) :
    delimited status body declared = some (bodyOf status body declared).bytes := by
  simp only [bodyOf, hasNoBody_of_isSuccess h, decide_eq_true_eq] at hbody ⊢
  by_cases hempty : status = 204
  · simp [delimited, hempty, Body.bytes]
  · cases declared with
    | none => simp [delimited, hempty, Body.bytes]
    | some n =>
      by_cases hle : n ≤ body.length
      · simp [delimited, hempty, hle, Body.bytes]
      · simp [hempty, hle, Body.isComplete] at hbody

end Reply

/-! ## Files -/

/-- A file once it has taken some bytes, if it takes any. A device keeps none. -/
def LocalFile.holding (f : LocalFile) (data : List UInt8) : LocalFile :=
  if f = .device then .device else .present data

theorem LocalFile.eq_holding_of_write {f g : LocalFile} {data : List UInt8}
    (h : f.write data = .ok g) : g = f.holding data := by
  cases f <;> cases h <;> rfl

theorem LocalFile.holding_eq_device_iff {f : LocalFile} {data : List UInt8} :
    f.holding data = .device ↔ f = .device := by
  by_cases h : f = .device
  · simp [holding, h]
  · simp [holding, h]

inductive Direction where
  | upload
  | download
  deriving DecidableEq, Repr

namespace Transfer

variable {t : Transfer} {d : Direction} {r : Request} {response : Response} {limit : Span}
  {count more : ℕ} {x y z : Exchange} {s u : Scene Exchange}

/-! ## Attempts -/

def operation (t : Transfer) : Direction → Operation Exchange Nat
  | .upload => t.upload
  | .download => t.download

theorem start_operation (t : Transfer) (d : Direction) : (t.operation d).start = id := by
  cases d <;> rfl

/-- The request of an attempt. An upload has none if the file cannot be read. -/
def request? (t : Transfer) : Direction → LocalFile → Option Request
  | .upload, file => file.read.toOption.map t.putRequest
  | .download, _ => some t.getRequest

theorem isPlain_of_request? {file : LocalFile} (h : t.request? d file = some r)
    (hlength : r.length = none) : r.IsPlain := by
  cases d with
  | upload =>
    obtain ⟨data, -, rfl⟩ := Option.map_eq_some_iff.1 h
    cases hlength
  | download =>
    cases h
    exact ⟨rfl, rfl, rfl⟩

/-- No answer of the servers sends the client elsewhere. -/
def StaysPut (t : Transfer) (d : Direction) (x : Exchange) : Prop :=
  ∀ r, t.request? d x.file = some r → ∀ k status body declared location,
    x.reply k = .answer status body declared location →
      t.client.next t.url r status location = none

/-- A request as an attempt makes it, or one without a body that an answer calls for. -/
def Asks (t : Transfer) (d : Direction) (file : LocalFile) (r : Request) : Prop :=
  t.request? d file = some r ∨ r.IsPlain

/-- A connection that the request of an attempt brought about, directly or through answers that were
followed. -/
def Leads (t : Transfer) (d : Direction) (x y : Exchange) (r : Request) : Prop :=
  ∃ n own url, n ≤ t.client.hops ∧ t.request? d x.file = some own ∧
    t.client.Follows n t.url own x url r y

namespace Leads

theorem grows (h : t.Leads d x y r) : x.Grows (t.Asks d x.file) t.client.hops y := by
  obtain ⟨n, own, url, hn, hown, hfollows⟩ := h
  refine (hfollows.grows (isPlain_of_request? hown)).1.mono hn fun q hq => hq.imp_left ?_
  rintro rfl
  exact hown

theorem asks (h : t.Leads d x y r) : t.Asks d x.file r := by
  obtain ⟨n, own, url, hn, hown, hfollows⟩ := h
  refine (hfollows.grows (isPlain_of_request? hown)).2.imp_left ?_
  rintro rfl
  exact hown

theorem file_eq (h : t.Leads d x y r) : y.file = x.file := by
  obtain ⟨n, own, url, hn, hown, hfollows⟩ := h
  exact hfollows.file_eq

theorem eq_of_staysPut (h : t.Leads d x y r) (hstay : t.StaysPut d x) :
    y = x ∧ t.request? d x.file = some r := by
  obtain ⟨n, own, url, hn, hown, hfollows⟩ := h
  obtain ⟨rfl, rfl⟩ := hfollows.eq_of_next (hstay own hown)
  exact ⟨rfl, hown⟩

end Leads

/-- What an attempt does to a server and a file. -/
inductive Step (t : Transfer) (d : Direction) (x : Exchange) : Exchange → Prop where
  | stays : Step t d x x
  | connects : Step t d x x.connect
  | leads {y : Exchange} {r : Request} (h : t.Leads d x y r) : Step t d x y
  | leadsOn {y : Exchange} {r : Request} (h : t.Leads d x y r) : Step t d x y.connect
  | sends {y : Exchange} {r : Request} (h : t.Leads d x y r) : Step t d x (y.receive r)
  | fetches {y : Exchange} {r : Request} {data : List UInt8} (hd : d = .download)
      (h : t.Leads d x y r) (hreply : (y.reply y.connections).IsSuccess) :
      Step t d x { y.receive r with file := y.file.holding data }

theorem send_step (t : Transfer) (d : Direction) (operation : String) (s : Scene Exchange) :
    t.Step d s.world (t.send operation (t.request? d s.world.file) s).2.world := by
  cases hr : t.request? d s.world.file with
  | none =>
    cases hsend : t.url.canBeSent with
    | false => simpa [send, hsend] using Step.stays
    | true => simpa [send, hsend, connected] using Step.connects
  | some own =>
    obtain ⟨⟨n, url, r, x, hn, hfollows, hscene⟩, -⟩ :=
      t.client.sends_send operation t.client.hops t.url own s
    have hleads : t.Leads d s.world x r := ⟨n, own, url, hn, hr, hfollows⟩
    have hworld : t.send operation (some own) s =
        t.client.send operation t.client.hops t.url own s := rfl
    rw [hworld]
    rcases hscene with hscene | hscene | hscene
    · exact hscene ▸ .leads hleads
    · exact hscene ▸ .leadsOn hleads
    · exact hscene ▸ .sends hleads

theorem send_eq_ok {operation : String}
    (h : t.send operation (t.request? d s.world.file) s = (.ready (.ok response), u)) :
    ∃ x r status body declared location, t.Leads d s.world x r ∧
      x.reply x.connections = .answer status body declared location ∧
        response = Reply.response status body declared ∧ u = { s with world := x.receive r } := by
  cases hr : t.request? d s.world.file with
  | none =>
    rw [hr] at h
    cases hsend : t.url.canBeSent <;> simp only [send, hsend] at h <;> cases h
  | some own =>
    obtain ⟨-, hanswer⟩ := t.client.sends_send operation t.client.hops t.url own s
    have hworld : t.client.send operation t.client.hops t.url own s =
        (.ready (.ok response), u) := by
      rw [hr] at h
      exact h
    rw [hworld] at hanswer
    obtain ⟨n, url, r, x, status, body, declared, location, hn, hfollows, hlast⟩ :=
      hanswer response rfl
    exact ⟨x, r, status, body, declared, location, ⟨n, own, url, hn, hr, hfollows⟩, hlast⟩

/-- Connecting sends the request of the attempt, unless the file of an upload cannot be opened. -/
theorem connect_eq (t : Transfer) (d : Direction) (s : Scene Exchange) :
    (t.operation d).connect s =
        t.send (t.operation d).description (t.request? d s.world.file) s ∨
      d = .upload ∧ ∃ fault, s.world.file.opens = .error fault ∧
        (t.operation d).connect s = (.ready (.error (t.fileFailure t.uploadName fault)), s) := by
  cases d with
  | download => exact .inl rfl
  | upload =>
    cases hopen : s.world.file.opens with
    | error fault => exact .inr ⟨rfl, fault, rfl, by simp [Transfer.operation, upload, hopen]⟩
    | ok _ => exact .inl (by simp [Transfer.operation, upload, hopen, request?])

theorem connect_eq_ok (h : (t.operation d).connect s = (.ready (.ok response), u)) :
    ∃ x r status body declared location, t.Leads d s.world x r ∧
      x.reply x.connections = .answer status body declared location ∧
        response = Reply.response status body declared ∧ u = { s with world := x.receive r } := by
  rcases t.connect_eq d s with hsend | ⟨-, fault, -, hfault⟩
  · rw [hsend] at h
    exact send_eq_ok h
  · rw [hfault] at h
    cases h

theorem connect_step (t : Transfer) (d : Direction) (s : Scene Exchange) :
    t.Step d s.world ((t.operation d).connect s).2.world := by
  rcases t.connect_eq d s with hsend | ⟨-, fault, -, hfault⟩
  · rw [hsend]
    exact t.send_step d _ s
  · rw [hfault]
    exact .stays

/-- A download that was answered with success writes what arrives of the body, if the file takes
it. -/
theorem world_onSuccess_download (t : Transfer) (response : Response) (s : Scene Exchange) :
    (t.download.onSuccess response s).2.world = s.world ∨
      (t.download.onSuccess response s).2.world =
        { s.world with file := s.world.file.holding response.body.bytes } := by
  cases hwrite : s.world.file.write response.body.bytes with
  | error fault => exact .inl (by simp [download, hwrite])
  | ok file =>
    refine .inr ?_
    rw [← LocalFile.eq_holding_of_write hwrite]
    simp only [download, hwrite]
    split <;> rfl

theorem work_step (t : Transfer) (d : Direction) (s : Scene Exchange) :
    t.Step d s.world ((t.operation d).work s).2.world := by
  have hconnect := t.connect_step d s
  rcases hc : (t.operation d).connect s with ⟨(e | response) | _ | _, u⟩
  case ready.ok =>
    rw [hc] at hconnect
    cases hsuccess : isSuccess response.status with
    | false => simpa [Operation.work, hc, hsuccess] using hconnect
    | true =>
      have hwork : (t.operation d).work s = (t.operation d).onSuccess response u := by
        simp [Operation.work, hc, hsuccess]
      rw [hwork]
      cases d with
      | upload => exact hconnect
      | download =>
        obtain ⟨x, r, status, body, declared, location, hleads, hreply, rfl, rfl⟩ :=
          connect_eq_ok hc
        have hanswered : (x.reply x.connections).IsSuccess := hreply ▸ hsuccess
        rcases t.world_onSuccess_download (Reply.response status body declared)
          { s with world := x.receive r } with hworld | hworld
        · exact hworld ▸ hconnect
        · exact hworld ▸ .fetches rfl hleads hanswered
  all_goals simpa [Operation.work, hc] using hconnect

theorem attempt_step (t : Transfer) (d : Direction) (limit : Span) (s : Scene Exchange) :
    t.Step d s.world ((t.operation d).attempt limit s).2.world := by
  rw [Operation.attempt_eq, start_operation]
  split
  · exact .stays
  split
  · exact .stays
  · exact t.work_step d s

/-! ## Runs -/

structure Course (t : Transfer) (d : Direction) (count : ℕ) (x y : Exchange) : Prop where
  grows : x.Grows (t.Asks d x.file) (count * (t.client.hops + 1)) y
  staysPut : t.StaysPut d x → x.Grows (fun r => t.request? d x.file = some r) count y
  file : (d = .download →
    ∀ k, x.connections ≤ k → k < y.connections → ¬ (x.reply k).IsSuccess) → y.file = x.file
  device : y.file = .device ↔ x.file = .device

theorem Course.refl (t : Transfer) (d : Direction) (x : Exchange) : t.Course d 0 x x where
  grows := (Exchange.Grows.refl _ x).mono (Nat.zero_le _) fun _ => id
  staysPut _ := .refl _ x
  file _ := rfl
  device := Iff.rfl

/-- An attempt that leaves the file alone. -/
theorem Course.of_file_eq (hgrows : x.Grows (t.Asks d x.file) (t.client.hops + 1) y)
    (hstay : t.StaysPut d x → x.Grows (fun r => t.request? d x.file = some r) 1 y)
    (hfile : y.file = x.file) : t.Course d 1 x y where
  grows := hgrows.mono (Nat.le_of_eq (Nat.one_mul _).symm) fun _ => id
  staysPut := hstay
  file _ := hfile
  device := by rw [hfile]

theorem Leads.grows_receive (h : t.Leads d x y r) :
    x.Grows (t.Asks d x.file) (t.client.hops + 1) (y.receive r) ∧
      (t.StaysPut d x → x.Grows (fun r => t.request? d x.file = some r) 1 (y.receive r)) := by
  refine ⟨h.grows.trans (.receive h.asks y), fun hstay => ?_⟩
  obtain ⟨rfl, hown⟩ := h.eq_of_staysPut hstay
  exact .receive hown y

theorem Step.course (h : t.Step d x y) : t.Course d 1 x y := by
  cases h with
  | stays =>
    exact .of_file_eq ((Exchange.Grows.refl _ x).mono (Nat.zero_le _) fun _ => id)
      (fun _ => (Exchange.Grows.refl _ x).mono (Nat.zero_le _) fun _ => id) rfl
  | connects =>
    exact .of_file_eq ((Exchange.Grows.connect _ x).mono (Nat.zero_le _) fun _ => id)
      (fun _ => (Exchange.Grows.connect _ x).mono (Nat.zero_le _) fun _ => id) rfl
  | leads h =>
    refine .of_file_eq (h.grows.mono (Nat.le_succ _) fun _ => id) (fun hstay => ?_) h.file_eq
    obtain ⟨rfl, -⟩ := h.eq_of_staysPut hstay
    exact (Exchange.Grows.refl _ _).mono (Nat.zero_le _) fun _ => id
  | @leadsOn y r h =>
    refine .of_file_eq ((h.grows.trans (.connect _ y)).mono (Nat.le_succ _) fun _ => id)
      (fun hstay => ?_) h.file_eq
    obtain ⟨rfl, -⟩ := h.eq_of_staysPut hstay
    exact (Exchange.Grows.connect _ _).mono (Nat.zero_le _) fun _ => id
  | sends h => exact .of_file_eq h.grows_receive.1 h.grows_receive.2 h.file_eq
  | @fetches y r data hd h hreply =>
    obtain ⟨hgrows, hstay⟩ := h.grows_receive
    refine ⟨⟨hgrows.reply, hgrows.connections, ?_⟩, fun hput => ?_, fun hnone => ?_, ?_⟩
    · rw [Nat.one_mul]
      exact hgrows.requests
    · exact ⟨(hstay hput).reply, (hstay hput).connections, (hstay hput).requests⟩
    · have hsuccess : (x.reply y.connections).IsSuccess := h.grows.reply ▸ hreply
      exact absurd hsuccess (hnone hd _ h.grows.connections (Nat.lt_succ_self _))
    · rw [← h.file_eq]
      exact LocalFile.holding_eq_device_iff

theorem Course.request?_eq (h : t.Course d count x y) :
    t.request? d y.file = t.request? d x.file := by
  cases d with
  | upload => rw [h.file nofun]
  | download => rfl

theorem Course.staysPut_iff (h : t.Course d count x y) :
    t.StaysPut d y ↔ t.StaysPut d x := by
  rw [StaysPut, StaysPut, h.request?_eq, h.grows.reply]

theorem Course.trans (h : t.Course d count x y) (h' : t.Course d more y z) :
    t.Course d (count + more) x z where
  grows := by
    have hasks : t.Asks d y.file = t.Asks d x.file := by
      funext r
      rw [Asks, Asks, h.request?_eq]
    rw [Nat.add_mul]
    exact h.grows.trans (hasks ▸ h'.grows)
  staysPut hstay := by
    have hrest := h'.staysPut (h.staysPut_iff.2 hstay)
    rw [h.request?_eq] at hrest
    exact (h.staysPut hstay).trans hrest
  file hnone := by
    have hconnections := h.grows.connections
    have hconnections' := h'.grows.connections
    rw [h'.file, h.file]
    · exact fun hd k hk hlt => hnone hd k hk (by omega)
    · intro hd k hk hlt
      rw [h.grows.reply]
      exact hnone hd k (by omega) hlt
  device := h'.device.trans h.device

/-- What an attempt connects to after others. -/
theorem Course.leads (h : t.Course d count x y) (hleads : t.Leads d y z r) :
    z.reply = x.reply ∧ x.connections ≤ z.connections ∧
      (t.StaysPut d x → t.request? d x.file = some r) := by
  refine ⟨hleads.grows.reply.trans h.grows.reply,
    Nat.le_trans h.grows.connections hleads.grows.connections, fun hstay => ?_⟩
  rw [← h.request?_eq]
  exact (hleads.eq_of_staysPut (h.staysPut_iff.2 hstay)).2

theorem course_of_reaches (h : (t.operation d).Reaches count x y) : t.Course d count x y := by
  induction h with
  | here x => exact .refl t d x
  | @attempt limit count s y _ ih =>
    rw [Nat.add_comm]
    exact (t.attempt_step d limit s).course.trans ih

theorem course_run {sink : Listener Exchange} (hsink : sink.KeepsWorld) (t : Transfer)
    (d : Direction) (policy : Policy) (clock : Clock) (s : Scene Exchange) :
    t.Course d ((t.operation d).run policy clock sink s).connects s.world
      ((t.operation d).run policy clock sink s).scene.world :=
  course_of_reaches ((t.operation d).reaches_run policy clock hsink s)

/-- The requests of a run are those of its attempts and those that are followed, and there are only
so many for each attempt in the budget. -/
theorem requests_run {sink : Listener Exchange} (hsink : sink.KeepsWorld) (t : Transfer)
    (d : Direction) (policy : Policy) (clock : Clock) (s : Scene Exchange) :
    ∃ sent, ((t.operation d).run policy clock sink s).scene.world.requests =
        s.world.requests ++ sent ∧
      sent.length ≤ policy.attempts.toNat * (t.client.hops + 1) ∧
      (∀ r ∈ sent, t.Asks d s.world.file r) ∧
      (t.StaysPut d s.world → sent.length ≤ policy.attempts.toNat ∧
        ∀ r ∈ sent, t.request? d s.world.file = some r) := by
  have hcourse := course_run hsink t d policy clock s
  have hconnects : ((t.operation d).run policy clock sink s).connects ≤ policy.attempts.toNat :=
    Operation.connects_run_le _ _ _ _ _
  obtain ⟨sent, heq, hlength, hsent⟩ := hcourse.grows.requests
  refine ⟨sent, heq, Nat.le_trans hlength (Nat.mul_le_mul_right _ hconnects), hsent,
    fun hstay => ?_⟩
  obtain ⟨own, heq', hlength', hown⟩ := (hcourse.staysPut hstay).requests
  obtain rfl : sent = own := List.append_cancel_left (heq.symm.trans heq')
  exact ⟨Nat.le_trans hlength' hconnects, hown⟩

end Transfer
end BlobDepot
