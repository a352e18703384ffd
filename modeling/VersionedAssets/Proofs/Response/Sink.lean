import VersionedAssets.Proofs.Actions
import VersionedAssets.Response.Sink

/-! # Writing an open response

What each operation does to a response that is not committed and owns no stream. All of them
succeed, and none of them touches a stream.
-/

namespace VersionedAssets.Sink

open Actions

theorem checkOpen_of_open {sink : Sink} (hopen : sink.response.committed = false) :
    checkOpen sink = (.ok (), sink) := by
  simp [checkOpen, bind_apply, hopen]

theorem checkOpen_of_committed {sink : Sink} (hcommitted : sink.response.committed = true) :
    checkOpen sink = (.error .committed, sink) := by
  simp [checkOpen, bind_apply, hcommitted]

theorem release_of_no_stream {sink : Sink} (hnone : sink.response.stream = none) :
    release sink = (.ok (), sink) := by
  simp [release, bind_apply, hnone]

theorem setStatus_of_open {sink : Sink} (hopen : sink.response.committed = false)
    (status : Status) :
    setStatus status sink =
      (.ok (), { sink with response := { sink.response with status } }) := by
  rw [setStatus, bind_of_ok (checkOpen_of_open hopen)]
  rfl

theorem setHeader_of_open {sink : Sink} (hopen : sink.response.committed = false)
    (name value : String) :
    setHeader name value sink =
      (.ok (), { sink with response := sink.response.assignHeader name value }) := by
  rw [setHeader, bind_of_ok (checkOpen_of_open hopen)]
  rfl

theorem attach_of_open {sink : Sink} (hopen : sink.response.committed = false)
    (hnone : sink.response.stream = none) (number : Nat) :
    attach number sink =
      (.ok (),
        { sink with response := { sink.response with stream := some number, body := [] } }) := by
  rw [attach, bind_of_ok (checkOpen_of_open hopen), bind_of_ok (release_of_no_stream hnone)]
  rfl

/-- The response that a download is written into. -/
def downloadOf (response : Response) (filename : String) (number : Nat) : Response :=
  let named := { response with stream := some number, body := [], filename := some filename }
  let typed := if (named.header? "Content-Type").isSome then named
    else named.assignHeader "Content-Type" (MediaTypes.downloadType filename)
  typed.assignHeader "Content-Disposition" (Response.disposition filename)

section Download

variable (response : Response) (filename : String) (number : Nat)

@[simp] theorem downloadOf_committed :
    (downloadOf response filename number).committed = response.committed := by
  unfold downloadOf
  dsimp only
  split <;> rfl

@[simp] theorem downloadOf_status :
    (downloadOf response filename number).status = response.status := by
  unfold downloadOf
  dsimp only
  split <;> rfl

@[simp] theorem downloadOf_stream :
    (downloadOf response filename number).stream = some number := by
  unfold downloadOf
  dsimp only
  split <;> rfl

@[simp] theorem downloadOf_filename :
    (downloadOf response filename number).filename = some filename := by
  unfold downloadOf
  dsimp only
  split <;> rfl

/-- The type of a download is written unless there is one. -/
theorem downloadOf_headers {response : Response}
    (htype : response.header? "Content-Type" = none) (filename : String) (number : Nat) :
    (downloadOf response filename number).headers =
      (response.headers.put "Content-Type" (MediaTypes.downloadType filename)).put
        "Content-Disposition" (Response.disposition filename) := by
  have hnamed : ({ response with stream := some number, body := [], filename := some filename } :
      Response).header? "Content-Type" = none := htype
  simp [downloadOf, hnamed, Response.assignHeader]

end Download

theorem attachFile_of_open {sink : Sink} (hopen : sink.response.committed = false)
    (hnone : sink.response.stream = none) (filename : String) (number : Nat) :
    attachFile filename number sink =
      (.ok (), { sink with response := downloadOf sink.response filename number }) := by
  rw [attachFile, bind_of_ok (attach_of_open hopen hnone number)]
  rfl

/-- The response with what a commit does to it when it owns no stream. -/
def committedOf (response : Response) : Response :=
  { response with
    body := if response.status.allowsBody then response.body else []
    committed := true }

theorem commit_of_open {sink : Sink} (hopen : sink.response.committed = false)
    (hnone : sink.response.stream = none ∨ sink.response.status.allowsBody = true) :
    commit sink = (.ok (), { sink with response := committedOf sink.response }) := by
  rw [commit, bind_of_ok (checkOpen_of_open hopen), bind_of_ok (get_apply sink)]
  cases hbody : sink.response.status.allowsBody with
  | true => simp [committedOf, modifyResponse, hbody]
  | false =>
      have hstream := hnone.resolve_right (by simp [hbody])
      simp [committedOf, bind_apply, release_of_no_stream hstream, modifyResponse, hbody]

theorem commit_of_committed {sink : Sink} (hcommitted : sink.response.committed = true) :
    commit sink = (.error .committed, sink) := by
  rw [commit, bind_of_error (checkOpen_of_committed hcommitted)]

end VersionedAssets.Sink
