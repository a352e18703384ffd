import VersionedAssets.Proofs.Response.Draining

/-! # The body that was written last

Bytes and a stream are two fields of a response, and a reader looks at the stream first. Attaching a
stream takes the place of whatever was there before, and the stream before is closed. Setting bytes
leaves an attached stream where it is, so that the bytes are read only if there is none, or if it
holds the same.
-/

namespace VersionedAssets

open Actions

/-- A steady stream that can be asked for chunks of the size. -/
structure Stream.Gives (stream : Stream) (size : Int) : Prop where
  steady : stream.IsSteady
  sized : stream.source.sizeFault? size = none

namespace Sink

/-- The stream that the response has. -/
def attached? (sink : Sink) : Option Stream :=
  sink.response.stream.bind fun number => sink.streams[number]?

/-- The response is open, it has no other stream than one that can be read to its end, and those
that it had are closed. -/
structure Writable (earlier : Nat → Prop) (size : Int) (sink : Sink) : Prop where
  isOpen : sink.response.committed = false
  owned : ∀ number, sink.response.stream = some number →
    ∃ stream, sink.streams[number]? = some stream ∧ stream.Gives size
  closed : ∀ number stream, earlier number → sink.response.stream ≠ some number →
    sink.streams[number]? = some stream → stream.isClosed = true

/-- The response has the stream with the number, or the stream is opened later. -/
def Handles (sink : Sink) (number : Nat) : Prop :=
  sink.response.stream = some number ∨ sink.streams.length ≤ number

/-- A reader of the body is given the content without a fault, in whatever chunks, and afterwards the
streams that the response had are closed. -/
def Yields (earlier : Nat → Prop) (size : Int) (sink : Sink) (content : Bytes) : Prop :=
  ∃ pieces after, (Reader.fresh size).drain sink = (pieces, none, .finished, after) ∧
    pieces.flatten = content ∧
    ∀ number stream, earlier number → after.streams[number]? = some stream → stream.isClosed = true

section

variable {sink : Sink} {earlier : Nat → Prop} {size : Int} {stream : Stream} {number : Nat}

theorem Yields.unique {content other : Bytes} (hyields : sink.Yields earlier size content)
    (hother : sink.Yields earlier size other) : content = other := by
  obtain ⟨pieces, after, hdrain, rfl, -⟩ := hyields
  obtain ⟨pieces', after', hdrain', rfl, -⟩ := hother
  cases hdrain.symm.trans hdrain'
  rfl

theorem Yields.iff_eq {content other : Bytes} (hyields : sink.Yields earlier size content) :
    sink.Yields earlier size other ↔ content = other :=
  ⟨hyields.unique, fun hsame => hsame ▸ hyields⟩

/-- When a closed stream is in the place of the one that the response had, those that it had are all
closed. -/
theorem Writable.closed_set (hwritable : sink.Writable earlier size) {owned : Nat} {last : Stream}
    (hattached : sink.response.stream = some owned) (hlast : last.isClosed = true) :
    ∀ number stream, earlier number → (sink.streams.set owned last)[number]? = some stream →
      stream.isClosed = true := by
  intro number stream hearlier hstream
  rw [List.getElem?_set] at hstream
  split at hstream
  next =>
    obtain ⟨-, hsame⟩ := Option.ite_none_right_eq_some.mp hstream
    obtain rfl := Option.some.inj hsame
    exact hlast
  next hne =>
    refine hwritable.closed number stream hearlier (fun hother => hne ?_) hstream
    exact Option.some.inj (hattached.symm.trans hother)

/-- A reader gives the stream of the response, or its bytes if it has none. -/
theorem Writable.yields (hwritable : sink.Writable earlier size) (hsize : size ≠ 0) :
    sink.Yields earlier size ((sink.attached?.map (·.rest)).getD sink.response.body) := by
  cases hattached : sink.response.stream with
  | none =>
      have hnone : sink.attached? = none := by simp [attached?, hattached]
      have hunowned (number : Nat) : sink.response.stream ≠ some number := by simp [hattached]
      rw [hnone, Option.map_none, Option.getD_none]
      refine ⟨_, sink, Reader.drain_of_no_stream hattached size, ?_, fun number stream hearlier =>
        hwritable.closed number stream hearlier (hunowned number)⟩
      cases hbody : sink.response.body with
      | nil => rfl
      | cons => simp
  | some number =>
      obtain ⟨stream, hstream, hsteady, hsized⟩ := hwritable.owned number hattached
      have hsome : sink.attached? = some stream := by simp [attached?, hattached, hstream]
      -- a negative size asks for everything at once
      obtain ⟨k, hpos, hk⟩ : ∃ k : Nat, 0 < k ∧ (size = k ∨ size < 0 ∧ stream.rest.length ≤ k) := by
        rcases Int.lt_or_gt_of_ne hsize with hneg | hpos
        · exact ⟨stream.rest.length + 1, by omega, .inr ⟨hneg, by omega⟩⟩
        · exact ⟨size.toNat, by omega, .inl (by omega)⟩
      obtain ⟨pieces, after, hdrain, hcut, last, hlast, rfl⟩ :=
        Reader.drain_of_steady hattached hstream hsteady hsized hpos hk
      rw [hsome, Option.map_some, Option.getD_some]
      exact ⟨pieces, _, hdrain, hcut.flatten_eq, hwritable.closed_set hattached hlast⟩

/-! ## Taking a stream -/

theorem attach_fst (hopen : sink.response.committed = false) (number : Nat) :
    (attach number sink).1 = (release sink).1 := by
  rw [attach, bind_of_ok (checkOpen_of_open hopen), bind_apply]
  rcases release sink with ⟨_ | _, after⟩ <;> rfl

theorem attachFile_fst (filename : String) (number : Nat) (sink : Sink) :
    (attachFile filename number sink).1 = (attach number sink).1 := by
  rw [attachFile, bind_apply]
  rcases attach number sink with ⟨_ | _, after⟩ <;> rfl

theorem Takes.of_ok {run : Except Fault Unit × Sink} (htakes : sink.Takes number run)
    (hok : run.1 = .ok ()) :
    ∃ headers filename, run =
      (.ok (),
        { response := { sink.response with stream := some number, body := [], headers, filename }
          streams := (release sink).2.streams }) := by
  cases htakes with
  | refused => cases hok
  | stuck => cases hok
  | taken headers filename => exact ⟨headers, filename, rfl⟩

theorem getElem?_concat_of_ne {streams : List Stream} (hne : number ≠ streams.length) :
    (streams ++ [stream])[number]? = streams[number]? := by
  rcases Nat.lt_or_gt_of_ne hne with hlt | hgt
  · exact List.getElem?_append_left hlt
  · rw [List.getElem?_eq_none (Nat.le_of_lt hgt), List.getElem?_eq_none]
    rw [List.length_append, List.length_singleton]
    exact hgt

/-- When another stream is added and the one before is released, the new one is as it came. -/
theorem Writable.release_adding (hwritable : sink.Writable earlier size) (stream : Stream) :
    (release (sink.adding stream)).1 = .ok () ∧
      (release (sink.adding stream)).2.streams[sink.streams.length]? = some stream ∧
      ∀ number kept, earlier number → number ≠ sink.streams.length →
        (release (sink.adding stream)).2.streams[number]? = some kept → kept.isClosed = true := by
  cases hattached : sink.response.stream with
  | none =>
      have hnone : (sink.adding stream).response.stream = none := hattached
      rw [release_of_no_stream hnone]
      refine ⟨rfl, List.getElem?_concat_length, fun number kept hearlier hne hkept => ?_⟩
      rw [adding, getElem?_concat_of_ne hne] at hkept
      exact hwritable.closed number kept hearlier (by simp [hattached]) hkept
  | some owned =>
      obtain ⟨before, hbefore, hsteady, -⟩ := hwritable.owned owned hattached
      have hlt := (List.getElem?_eq_some_iff.mp hbefore).1
      have howner : (sink.adding stream).response.stream = some owned := hattached
      have hadded : (sink.adding stream).streams[owned]? = some before :=
        (List.getElem?_append_left hlt).trans hbefore
      have hfreed : ((sink.adding stream).freed owned before).streams =
          sink.streams.set owned before.closed ++ [stream] := List.set_append_left owned _ hlt
      have hlength : sink.streams.length = (sink.streams.set owned before.closed).length :=
        List.length_set.symm
      rw [release_of_owned howner hadded, Stream.close_fst_of_closes hsteady.closes, hfreed]
      refine ⟨rfl, ?_, fun number kept hearlier hne hkept => ?_⟩
      · rw [hlength]
        exact List.getElem?_concat_length
      · rw [getElem?_concat_of_ne (hlength ▸ hne)] at hkept
        exact hwritable.closed_set hattached rfl number kept hearlier hkept

end

end Sink

/-! ## Writing -/

namespace Delivery

open Sink

/-- The operation writes the status, a header or the body, and a stream that it hands over gives
chunks of the size. -/
def Operation.Writes (size : Int) (operation : Operation) : Prop :=
  operation.IsPlain ∨ ∃ stream, operation.given? = some stream ∧ stream.Gives size

/-- The content that the operation makes the body. -/
def Operation.content? : Operation → Option Bytes
  | .setBody body => some body
  | operation => operation.given?.map (·.rest)

/-- The stream that is given last, or the one that the response has before. -/
def givenLast (delivery : Delivery) (operations : List Operation) : Option Stream :=
  operations.foldl (fun last operation => operation.given?.or last) delivery.sink.attached?

section

variable {delivery : Delivery} {earlier : Nat → Prop} {size : Int} {operation : Operation}
  {stream : Stream}

theorem given?_of_isPlain (hplain : operation.IsPlain) : operation.given? = none := by
  cases operation with
  | attach => exact hplain.elim
  | attachFile => exact hplain.elim
  | _ => rfl

theorem perform_of_given_writable (hwritable : delivery.sink.Writable earlier size)
    (hgiven : operation.given? = some stream) :
    ∃ headers filename, (delivery.perform operation).2.sink =
      { response :=
          { delivery.sink.response with
            stream := some delivery.sink.streams.length, body := [], headers, filename }
        streams := (release (delivery.sink.adding stream)).2.streams } := by
  have hadded : (delivery.sink.adding stream).response.committed = false := hwritable.isOpen
  have hattached := attach_fst hadded delivery.sink.streams.length
  rw [(hwritable.release_adding stream).1] at hattached
  cases operation with
  | attach given =>
      obtain rfl : given = stream := Option.some.inj hgiven
      obtain ⟨headers, filename, hrun⟩ := (takes_attach _ _).of_ok hattached
      exact ⟨headers, filename, congrArg Prod.snd hrun⟩
  | attachFile filename given =>
      obtain rfl : given = stream := Option.some.inj hgiven
      rw [← attachFile_fst filename] at hattached
      obtain ⟨headers, filename', hrun⟩ := (takes_attachFile filename _ _).of_ok hattached
      exact ⟨headers, filename', congrArg Prod.snd hrun⟩
  | _ => cases hgiven

/-- A response can be written on, and has the stream that was given last. -/
theorem writable_perform (hwritable : delivery.sink.Writable earlier size)
    (hwrites : operation.Writes size) :
    (delivery.perform operation).2.sink.Writable earlier size ∧
      (delivery.perform operation).2.sink.attached? =
        operation.given?.or delivery.sink.attached? := by
  rcases hwrites with hplain | ⟨stream, hgiven, hgives⟩
  · obtain ⟨⟨status, headers, body, hsink⟩, -⟩ := delivery.rewrites_perform hplain
    rw [hsink, given?_of_isPlain hplain, Option.none_or]
    exact ⟨⟨hwritable.isOpen, hwritable.owned, hwritable.closed⟩, rfl⟩
  · obtain ⟨headers, filename, hsink⟩ := perform_of_given_writable hwritable hgiven
    obtain ⟨-, hnew, hclosed⟩ := hwritable.release_adding stream
    rw [hsink, hgiven, Option.some_or]
    refine ⟨⟨hwritable.isOpen, fun number howned => ?_, fun number kept hearlier hne => ?_⟩, hnew⟩
    · obtain rfl := Option.some.inj howned
      exact ⟨stream, hnew, hgives⟩
    · exact hclosed number kept hearlier fun hsame => hne (congrArg some hsame.symm)

/-- Nothing but a body that is written changes the bytes. -/
theorem body_perform (hwritable : delivery.sink.Writable earlier size)
    (hwrites : operation.Writes size) (hnone : operation.content? = none) :
    (delivery.perform operation).2.sink.response.body = delivery.sink.response.body := by
  rcases hwrites with hplain | ⟨stream, hgiven, -⟩
  · cases operation with
    | setStatus code =>
        have hcode : (setStatusCode code delivery.sink).2.response.body =
            delivery.sink.response.body := by
          rw [setStatusCode, bind_of_ok (checkOpen_of_open hwritable.isOpen)]
          cases statusOf code <;> rfl
        exact hcode
    | setHeader name value =>
        have hheader : (setHeader name value delivery.sink).2.response.body =
            delivery.sink.response.body := by rw [setHeader_of_open hwritable.isOpen]; rfl
        exact hheader
    | assignHeader => rfl
    | setBody body => cases hnone
    | _ => exact hplain.elim
  · cases operation with
    | attach => cases hnone
    | attachFile => cases hnone
    | _ => cases hgiven

theorem body_perform_setBody (hwritable : delivery.sink.Writable earlier size) (body : Bytes) :
    (delivery.perform (.setBody body)).2.sink.response.body = body := by
  have hbody : (setBody body delivery.sink).2.response.body = body := by
    rw [setBody, bind_of_ok (checkOpen_of_open hwritable.isOpen)]
    rfl
  exact hbody

/-! ## Runs -/

variable {operations : List Operation}

theorem writable_performAll (hwritable : delivery.sink.Writable earlier size)
    (hwrites : ∀ operation ∈ operations, operation.Writes size) :
    (delivery.performAll operations).sink.Writable earlier size ∧
      (delivery.performAll operations).sink.attached? = delivery.givenLast operations := by
  induction operations generalizing delivery with
  | nil => exact ⟨hwritable, rfl⟩
  | cons operation rest ih =>
      obtain ⟨hfirst, hrest⟩ := List.forall_mem_cons.mp hwrites
      obtain ⟨hafter, hattached⟩ := writable_perform hwritable hfirst
      obtain ⟨hend, hlast⟩ := ih hafter hrest
      refine ⟨hend, ?_⟩
      rw [givenLast, hattached] at hlast
      exact hlast

theorem body_performAll (hwritable : delivery.sink.Writable earlier size)
    (hwrites : ∀ operation ∈ operations, operation.Writes size)
    (hnone : ∀ operation ∈ operations, operation.content? = none) :
    (delivery.performAll operations).sink.response.body = delivery.sink.response.body := by
  induction operations generalizing delivery with
  | nil => rfl
  | cons operation rest ih =>
      obtain ⟨hfirst, hrest⟩ := List.forall_mem_cons.mp hwrites
      obtain ⟨hfirst', hrest'⟩ := List.forall_mem_cons.mp hnone
      have hafter := (writable_perform hwritable hfirst).1
      exact (ih hafter hrest hrest').trans (body_perform hwritable hfirst hfirst')

theorem content?_of_given? (hgiven : operation.given? = some stream) :
    operation.content? = some stream.rest := by
  cases operation with
  | attach | attachFile =>
      obtain rfl := Option.some.inj hgiven
      rfl
  | _ => cases hgiven

theorem given?_of_content? (hnone : operation.content? = none) : operation.given? = none := by
  cases operation with
  | attach => cases hnone
  | attachFile => cases hnone
  | _ => rfl

theorem givenLast_append_of_silent {rest : List Operation}
    (hnone : ∀ operation ∈ rest, operation.content? = none) :
    delivery.givenLast (operations ++ rest) = delivery.givenLast operations := by
  rw [givenLast, List.foldl_append, ← givenLast]
  induction rest with
  | nil => rfl
  | cons operation rest ih =>
      obtain ⟨hfirst, hrest⟩ := List.forall_mem_cons.mp hnone
      rw [List.foldl_cons, given?_of_content? hfirst, Option.none_or]
      exact ih hrest

/-- What a body of bytes comes to when a stream may be attached. -/
theorem body_eq_of_last {before rest : List Operation} {content : Bytes}
    (hwritable : delivery.sink.Writable earlier size)
    (hwrites : ∀ next ∈ before ++ operation :: rest, next.Writes size)
    (hcontent : operation.content? = some content) (hgiven : operation.given? = none)
    (hrest : ∀ next ∈ rest, next.content? = none) :
    (delivery.performAll (before ++ operation :: rest)).sink.response.body = content := by
  obtain ⟨hbefore, hafter⟩ := List.forall_mem_append.mp hwrites
  obtain ⟨hlast, hsilent⟩ := List.forall_mem_cons.mp hafter
  have hmiddle := (writable_performAll hwritable hbefore).1
  rw [performAll_append]
  refine (body_performAll (writable_perform hmiddle hlast).1 hsilent hrest).trans ?_
  cases operation with
  | setBody body =>
      obtain rfl : body = content := Option.some.inj hcontent
      exact body_perform_setBody hmiddle body
  | attach => cases hgiven
  | attachFile => cases hgiven
  | _ => cases hcontent

/-- The content of a stream that was given, or else of the one before, is the content that is written
unless the latter is bytes that differ from that of the stream before. -/
theorem getD_rest_eq_iff {last : Option Stream} {content : Bytes}
    (hcontent : operation.content? = some content) :
    ((operation.given?.or last).map (·.rest)).getD content = content ↔
      operation.given? = none → ∀ stream, last = some stream → stream.rest = content := by
  cases hgiven : operation.given? with
  | some stream =>
      rw [content?_of_given? hgiven] at hcontent
      exact iff_of_true (Option.some.inj hcontent) nofun
  | none =>
      cases last with
      | none => exact iff_of_true rfl nofun
      | some stream => simp

end

/-- After a run of writes the stream that the response has is the only open one of those that it had
or was given. A reader gives the content that was written last, unless that is bytes and there is a
stream with another content. -/
theorem yields_last_iff {delivery : Delivery} {size : Int} {operation : Operation}
    {before rest : List Operation} {content : Bytes} (hsize : size ≠ 0)
    (hopen : delivery.sink.response.committed = false)
    (howned : ∀ number, delivery.sink.response.stream = some number →
      ∃ stream, delivery.sink.streams[number]? = some stream ∧ stream.Gives size)
    (hwrites : ∀ next ∈ before ++ operation :: rest, next.Writes size)
    (hcontent : operation.content? = some content)
    (hrest : ∀ next ∈ rest, next.content? = none) :
    let earlier := delivery.sink.Handles
    let written := (delivery.performAll (before ++ operation :: rest)).sink
    let shadow := operation.given?.or (delivery.givenLast before)
    written.Writable earlier size ∧ written.attached? = shadow ∧
      written.Yields earlier size ((shadow.map (·.rest)).getD content) ∧
      (written.Yields earlier size content ↔
        operation.given? = none → ∀ stream, delivery.givenLast before = some stream →
          stream.rest = content) := by
  intro earlier written shadow
  have hstart : delivery.sink.Writable earlier size := by
    refine ⟨hopen, howned, fun number stream hhandles hne hstream => ?_⟩
    have hlt := (List.getElem?_eq_some_iff.mp hstream).1
    exact absurd hlt (Nat.not_lt.mpr (hhandles.resolve_left hne))
  obtain ⟨hwritable, hattached⟩ := writable_performAll hstart hwrites
  have hlast : delivery.givenLast (before ++ operation :: rest) = shadow := by
    rw [List.append_cons, givenLast_append_of_silent hrest, givenLast, List.foldl_append]
    rfl
  rw [hlast] at hattached
  have hyields : written.Yields earlier size ((shadow.map (·.rest)).getD content) := by
    have hread := hwritable.yields hsize
    rw [hattached] at hread
    cases hgiven : operation.given? with
    | some stream =>
        simp only [shadow, hgiven, Option.some_or, Option.map_some, Option.getD_some] at hread ⊢
        exact hread
    | none =>
        rw [body_eq_of_last hstart hwrites hcontent hgiven hrest] at hread
        exact hread
  exact ⟨hwritable, hattached, hyields, hyields.iff_eq.trans (getD_rest_eq_iff hcontent)⟩

/-- A download takes the place of a script and of the bytes that were set after it. -/
theorem yields_last_iff_download :
    let script : Stream := { rest := [97, 98, 99] }
    let archive : Stream := { rest := [121, 122], source := .file }
    let before : List Operation := [.attach script, .setBody [120], .setHeader "Vary" "Accept"]
    let written := (performAll {} (before ++ .attachFile "b.zip" archive :: [.setStatus 404])).sink
    givenLast {} before = some script ∧ written.attached? = some archive ∧
      written.Yields (Sink.Handles {}) Reader.defaultSize [121, 122] := by
  intro script archive before written
  have hgives : ∀ stream ∈ [script, archive], stream.Gives Reader.defaultSize := by
    rintro stream (_ | ⟨_, _ | ⟨_, ⟨⟩⟩⟩)
    · exact ⟨⟨rfl, rfl, rfl⟩, by decide⟩
    · exact ⟨⟨rfl, rfl, rfl⟩, by decide⟩
  have hlast := @yields_last_iff {} Reader.defaultSize (.attachFile "b.zip" archive) before
    [.setStatus 404] [121, 122] (by decide) rfl nofun ?_ rfl ?_
  · exact ⟨rfl, hlast.2.1, hlast.2.2.1⟩
  · simp [before, Operation.Writes, Operation.IsPlain, Operation.given?, hgives]
  · simp [Operation.content?, Operation.given?]

/-- Bytes that are set after a stream was attached are not what a reader is given. -/
theorem not_yields_last :
    let script : Stream := { rest := [97, 98, 99] }
    ¬ (performAll {} [.attach script, .setBody [120]]).sink.Yields (Sink.Handles {})
      Reader.defaultSize [120] := by
  rintro script ⟨pieces, after, hdrain, hflatten, -⟩
  have hpieces : pieces = [[97, 98, 99]] := (congrArg Prod.fst hdrain).symm.trans (by decide)
  rw [hpieces] at hflatten
  cases hflatten

end Delivery

end VersionedAssets
