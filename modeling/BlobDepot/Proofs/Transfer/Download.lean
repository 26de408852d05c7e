import BlobDepot.Proofs.Transfer.Exchanges

/-!
# The file that a download leaves

A download writes its file afresh after every answer of success, so nothing of what earlier attempts
or earlier times have left there remains when it succeeds. Without an answer of success the file is
never touched.
-/
namespace BlobDepot.Transfer

variable {t : Transfer} {limit : Span} {n : ℕ} {response : Response} {s u : Scene Exchange}

theorem onSuccess_download_ok (h : t.download.onSuccess response s = (.ready (.ok n), u)) :
    response.body.isComplete = true ∧ n = response.body.bytes.length ∧
      u.world = { s.world with file := s.world.file.holding response.body.bytes } := by
  cases hwrite : s.world.file.write response.body.bytes with
  | error fault =>
    simp only [download, hwrite] at h
    cases h
  | ok file =>
    cases hcomplete : response.body.isComplete with
    | false =>
      simp only [download, hwrite, hcomplete] at h
      cases h
    | true =>
      simp only [download, hwrite, hcomplete] at h
      cases h
      rw [← LocalFile.eq_holding_of_write hwrite]
      exact ⟨rfl, rfl, rfl⟩

/-- An attempt to download that succeeds was answered with success and a complete body at last, and
has written that body. -/
theorem attempt_download_ok (h : t.download.attempt limit s = (.ok n, u)) :
    ∃ x r status body declared location data, t.Leads .download s.world x r ∧
      x.reply x.connections = .answer status body declared location ∧
        isSuccess status = true ∧ Reply.delimited status body declared = some data ∧
          n = data.length ∧ u.world = { x.receive r with file := x.file.holding data } := by
  obtain ⟨response, v, hconnect, hsuccess, hwritten⟩ :=
    Operation.work_eq_ok (Operation.attempt_eq_ok h)
  have hanswer : (t.operation .download).connect s = (.ready (.ok response), v) := hconnect
  obtain ⟨x, r, status, body, declared, location, hleads, hreply, rfl, rfl⟩ :=
    connect_eq_ok hanswer
  obtain ⟨hcomplete, hn, hworld⟩ := onSuccess_download_ok hwritten
  exact ⟨x, r, status, body, declared, location, _, hleads, hreply, hsuccess,
    Reply.delimited_of_isComplete hsuccess hcomplete, hn, hworld⟩

/-- A download leaves the right file. If it succeeds, then the reply to its last request was one of
success with a complete body, and the file holds this body and nothing else, unless it is a device,
which holds nothing. If no reply of the run was one of success, the file is as before. Where no
answer sends the client elsewhere, all requests of the run fetch the same target, and there are no
more of them than attempts in the budget; requests to other places bring nothing either, and each
attempt makes only so many. -/
theorem download_leaves_body {sink : Listener Exchange} (hsink : sink.KeepsWorld) (t : Transfer)
    (policy : Policy) (clock : Clock) (s : Scene Exchange) :
    let run := t.download.run policy clock sink s
    let stays := ∀ k status body declared location,
      s.world.reply k = .answer status body declared location →
        t.client.next t.url ⟨"GET", t.url.target, none, []⟩ status location = none
    (∀ n, run.result = .ok n →
      ∃ (x : Exchange) (r : Request) (status : ℕ) (body : List UInt8) (declared : Option ℕ)
          (location : Option String) (data : List UInt8),
        x.reply = s.world.reply ∧ s.world.connections ≤ x.connections ∧
          x.reply x.connections = .answer status body declared location ∧
            isSuccess status = true ∧ Reply.delimited status body declared = some data ∧
              n = data.length ∧ run.scene.world = { x.receive r with
                file := if s.world.file = .device then .device else .present data } ∧
                (stays → r = ⟨"GET", t.url.target, none, []⟩)) ∧
      ((∀ k, s.world.connections ≤ k → k < run.scene.world.connections →
        ¬ (s.world.reply k).IsSuccess) → run.scene.world.file = s.world.file) ∧
      ∃ sent, run.scene.world.requests = s.world.requests ++ sent ∧
        sent.length ≤ policy.attempts.toNat * (t.client.hops + 1) ∧
          (∀ r ∈ sent, r.verb = "GET" ∧ r.length = none ∧ r.body = []) ∧
            (stays → sent.length ≤ policy.attempts.toNat ∧
              ∀ r ∈ sent, r = ⟨"GET", t.url.target, none, []⟩) := by
  intro run stays
  have hcourse : t.Course .download run.connects s.world run.scene.world :=
    course_run hsink t .download policy clock s
  have hstays : stays → t.StaysPut .download s.world := by
    rintro h r hr
    cases hr
    exact h
  refine ⟨fun n hn => ?_, fun hnone => hcourse.file fun _ => hnone, ?_⟩
  · obtain ⟨limit, count, u, v, hreaches, hattempt, hworld⟩ :=
      Operation.exists_last_attempt hsink hn
    have hbefore : t.Course .download count s.world u.world := course_of_reaches hreaches
    obtain ⟨x, r, status, body, declared, location, data, hleads, hreply, hsuccess, hdata, hlength,
      hv⟩ := attempt_download_ok hattempt
    obtain ⟨hreplies, hconnections, hown⟩ := hbefore.leads hleads
    refine ⟨x, r, status, body, declared, location, data, hreplies, hconnections, hreply, hsuccess,
      hdata, hlength, ?_, fun h => (Option.some.inj (hown (hstays h))).symm⟩
    rw [hworld, hv, LocalFile.holding, hleads.file_eq]
    simp only [hbefore.device]
  · obtain ⟨sent, heq, hlength, hsent, hown⟩ := requests_run hsink t .download policy clock s
    refine ⟨sent, heq, hlength, fun r hr => ?_, fun h => ?_⟩
    · rcases hsent r hr with hfirst | hplain
      · cases hfirst
        exact ⟨rfl, rfl, rfl⟩
      · exact ⟨hplain.verb, hplain.length, hplain.body⟩
    · obtain ⟨hle, hown⟩ := hown (hstays h)
      exact ⟨hle, fun r hr => (Option.some.inj (hown r hr)).symm⟩

/-- An answer that is cut short leaves a file behind, and a shorter body takes its place. -/
theorem download_leaves_body_after_broken_body :
    let t : Transfer :=
      { url := { scheme := "http", authority := some { host := "localhost" }, path := "/x" }
        path := "x.bin" }
    let replies := Reply.ofList [.answer 200 [1, 2, 3] (some 5), .answer 200 [9, 9] (some 1)]
    let s : Scene Exchange := ⟨{ reply := replies, file := .present [7, 7, 7, 7] }, false, false⟩
    let run := t.download.run {} {} {} s
    run.result = .ok 1 ∧ ∃ data, data.length = 1 ∧ run.scene.world.file = .present data := by
  intro t replies s run
  have hsink : Listener.KeepsWorld ({} : Listener Exchange) := ⟨fun _ _ => rfl, fun _ => rfl⟩
  have hresult : run.result = .ok 1 := by
    simp only [run, s, replies, t]
    decide +kernel
  obtain ⟨x, r, status, body, declared, location, data, -, -, -, -, -, hlength, hworld, -⟩ :=
    (download_leaves_body hsink t {} {} s).1 1 hresult
  refine ⟨hresult, data, hlength.symm, ?_⟩
  rw [hworld]
  rfl

end BlobDepot.Transfer
