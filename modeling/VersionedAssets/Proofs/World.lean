import VersionedAssets.Proofs.Actions
import VersionedAssets.World

/-! # What actions leave of the world

Records go to the journal and change nothing else. Only asking a store leaves an enquiry, so an
action that is put together from other parts leaves none.
-/

namespace VersionedAssets

open Actions

namespace World

theorem note_eq (world : World) (record : Record) :
    ∃ journal, world.note record = { world with journal } := by
  unfold note
  split
  · exact ⟨world.journal, rfl⟩
  · exact ⟨_, rfl⟩

theorem noteAll_eq (world : World) (records : List Record) :
    ∃ journal, world.noteAll records = { world with journal } := by
  induction records generalizing world with
  | nil => exact ⟨world.journal, rfl⟩
  | cons record rest ih =>
      obtain ⟨journal, hnote⟩ := world.note_eq record
      obtain ⟨journal', hrest⟩ := ih (world.note record)
      refine ⟨journal', ?_⟩
      rw [noteAll, List.foldl_cons]
      change noteAll (world.note record) rest = _
      rw [hrest, hnote]

theorem noteAll_append (world : World) (earlier later : List Record) :
    world.noteAll (earlier ++ later) = (world.noteAll earlier).noteAll later := List.foldl_append

/-- The records that are not below the threshold are kept. -/
theorem journal_noteAll (world : World) (records : List Record) :
    (world.noteAll records).journal =
      world.journal ++ records.filter fun record => world.threshold ≤ record.level := by
  induction records generalizing world with
  | nil => exact (List.append_nil _).symm
  | cons record rest ih =>
      rw [noteAll, List.foldl_cons]
      by_cases hkept : world.threshold ≤ record.level
      · have hnote : world.note record = { world with journal := world.journal ++ [record] } :=
          if_neg (Int.not_lt.mpr hkept)
        have hafter := ih { world with journal := world.journal ++ [record] }
        rw [List.append_assoc, List.singleton_append] at hafter
        rwa [hnote, List.filter_cons, if_pos (by simpa using hkept)]
      · have hnote : world.note record = world := if_pos (Int.not_le.mp hkept)
        rw [hnote, List.filter_cons, if_neg (by simpa using hkept)]
        exact ih world

/-- Records are written at any time. -/
theorem noteAll_withClock (world : World) (clock : List Float) (records : List Record) :
    noteAll { world with clock } records = { world.noteAll records with clock } := by
  induction records generalizing world with
  | nil => rfl
  | cons record rest ih =>
      have hnote : note { world with clock } record = { world.note record with clock } := by
        unfold note
        split <;> rfl
      rw [noteAll, noteAll, List.foldl_cons, List.foldl_cons, hnote]
      exact ih (world.note record)

/-- The second world differs from the first only in what was written down or counted, and in the
streams that were opened. -/
structure Extends (before after : World) (opened : List Stream) : Prop where
  host_eq : after.host = before.host
  now_eq : after.now = before.now
  streams_eq : after.streams = before.streams ++ opened

namespace Extends

variable {first second third : World} {opened : List Stream}

theorem refl (world : World) : world.Extends world [] := ⟨rfl, rfl, (List.append_nil _).symm⟩

theorem note (world : World) (record : Record) : world.Extends (world.note record) [] := by
  obtain ⟨journal, hnote⟩ := world.note_eq record
  rw [hnote]
  exact ⟨rfl, rfl, (List.append_nil _).symm⟩

theorem trans {more : List Stream} (hbefore : first.Extends second opened)
    (hafter : second.Extends third more) : first.Extends third (opened ++ more) := by
  refine ⟨hafter.host_eq.trans hbefore.host_eq, hafter.now_eq.trans hbefore.now_eq, ?_⟩
  rw [hafter.streams_eq, hbefore.streams_eq, List.append_assoc]

theorem before (hbefore : first.Extends second []) (hafter : second.Extends third opened) :
    first.Extends third opened := hbefore.trans hafter

theorem after (hbefore : first.Extends second opened) (hafter : second.Extends third []) :
    first.Extends third opened := by simpa using hbefore.trans hafter

end Extends

/-- The second world differs from the first only in these records, as far as they are kept, and in
what is left of the clock. -/
def Emits (before after : World) (records : List Record) : Prop :=
  ∃ clock, after = { before.noteAll records with clock }

namespace Emits

variable {first second third : World} {earlier later : List Record}

theorem readClock (world : World) : world.Emits world.readClock.2 [] := by
  unfold World.readClock
  split <;> exact ⟨_, rfl⟩

theorem note (world : World) (record : Record) : world.Emits (world.note record) [record] :=
  ⟨_, rfl⟩

theorem trans (hearlier : first.Emits second earlier) (hlater : second.Emits third later) :
    first.Emits third (earlier ++ later) := by
  obtain ⟨clock, rfl⟩ := hearlier
  obtain ⟨clock', rfl⟩ := hlater
  refine ⟨clock', ?_⟩
  rw [noteAll_withClock, noteAll_append]

theorem journal_eq (hemits : first.Emits second earlier) :
    second.journal =
      first.journal ++ earlier.filter fun record => first.threshold ≤ record.level := by
  obtain ⟨clock, rfl⟩ := hemits
  exact journal_noteAll first earlier

theorem extends_nil (hemits : first.Emits second earlier) : first.Extends second [] := by
  obtain ⟨clock, rfl⟩ := hemits
  obtain ⟨journal, hnotes⟩ := first.noteAll_eq earlier
  rw [hnotes]
  exact ⟨rfl, rfl, (List.append_nil _).symm⟩

end Emits

end World

namespace Serving

theorem note_eq (channel : String) (level : Level) (text : String) (world : World) :
    ∃ journal, note channel level text world = (.ok (), { world with journal }) := by
  obtain ⟨journal, hnote⟩ := world.note_eq { channel, level, text }
  refine ⟨journal, ?_⟩
  change (Except.ok (), world.note _) = _
  rw [hnote]

/-- Asking leaves the enquiry and what the store writes to the journal. -/
theorem ask_eq (store : Store) (path : String) (world : World) :
    ∃ journal, ask store path world =
      ((store.lookup world.host path).outcome,
        { world with journal, enquiries := world.enquiries ++ [⟨store.name, path⟩] }) := by
  obtain ⟨journal, hnotes⟩ := World.noteAll_eq
    { world with enquiries := world.enquiries ++ [⟨store.name, path⟩] }
    (store.lookup world.host path).records
  refine ⟨journal, ?_⟩
  change ((store.lookup world.host path).outcome, World.noteAll _ _) = _
  rw [hnotes]

theorem lastModified_of_read {location : Location} {world : World} {lastModified : Int}
    (hread : location.lastModified world.host.files = .ok lastModified) :
    Serving.lastModified location world = (.ok lastModified, world) := by
  rw [Serving.lastModified, hread]

end Serving

namespace Handling

variable {α β : Type}

theorem write_apply (operation : Writing α) (exchange : Exchange) :
    write operation exchange =
      let run := operation { response := exchange.response, streams := exchange.world.streams }
      (run.1, { response := run.2.response
                world := { exchange.world with streams := run.2.streams } }) := rfl

theorem serve_apply (action : Serving α) (exchange : Exchange) :
    serve action exchange =
      ((action exchange.world).1, { exchange with world := (action exchange.world).2 }) := rfl

theorem write_of_ok {operation : Writing α} {exchange : Exchange} {a : α} {response : Response}
    (hrun : operation { response := exchange.response, streams := exchange.world.streams } =
      (.ok a, { response, streams := exchange.world.streams })) :
    write operation exchange = (.ok a, { exchange with response }) := by
  rw [write_apply, hrun]

theorem serve_note_eq (channel : String) (level : Level) (text : String) (exchange : Exchange) :
    ∃ journal, serve (Serving.note channel level text) exchange =
      (.ok (), { exchange with world := { exchange.world with journal } }) := by
  obtain ⟨journal, hnote⟩ := Serving.note_eq channel level text exchange.world
  refine ⟨journal, ?_⟩
  rw [serve_apply, hnote]

/-- The exchange after a store was asked for a path, and what stands in its journal then. -/
def askedFor (store : Store) (path : String) (journal : List Record) (exchange : Exchange) :
    Exchange :=
  { exchange with
    world :=
      { exchange.world with
        journal
        enquiries := exchange.world.enquiries ++ [⟨store.name, path⟩] } }

theorem serve_ask_eq (store : Store) (path : String) (exchange : Exchange) :
    ∃ journal, serve (Serving.ask store path) exchange =
      ((store.lookup exchange.world.host path).outcome, askedFor store path journal exchange) := by
  obtain ⟨journal, hask⟩ := Serving.ask_eq store path exchange.world
  refine ⟨journal, ?_⟩
  rw [serve_apply, hask]
  rfl

/-- What follows an enquiry runs in the exchange that it left, unless the store failed. -/
theorem serve_ask_bind_eq (store : Store) (path : String) (next : Option Location → Handling α)
    (exchange : Exchange) :
    ∃ journal, (serve (Serving.ask store path) >>= next) exchange =
      match (store.lookup exchange.world.host path).outcome with
      | .error fault => (.error fault, askedFor store path journal exchange)
      | .ok found => next found (askedFor store path journal exchange) := by
  obtain ⟨journal, hask⟩ := serve_ask_eq store path exchange
  refine ⟨journal, ?_⟩
  rw [bind_apply, hask]
  cases (store.lookup exchange.world.host path).outcome <;> rfl

theorem serve_lastModified_eq (location : Location) (exchange : Exchange) :
    serve (Serving.lastModified location) exchange =
      (location.lastModified exchange.world.host.files, exchange) := rfl

theorem serve_openStream_of_ok {location : Location} {exchange : Exchange} {stream : Stream}
    (hopen : location.open? exchange.world.host.files = .ok stream) :
    serve (Serving.openStream location) exchange =
      (.ok exchange.world.streams.length,
        { exchange with
          world := { exchange.world with streams := exchange.world.streams ++ [stream] } }) := by
  rw [serve_apply, Serving.openStream, hopen]

theorem serve_openStream_of_error {location : Location} {exchange : Exchange} {fault : Fault}
    (hopen : location.open? exchange.world.host.files = .error fault) :
    serve (Serving.openStream location) exchange = (.error fault, exchange) := by
  rw [serve_apply, Serving.openStream, hopen]

/-! ## Actions that ask nothing -/

/-- The action leaves no enquiry, however it ends. -/
def AsksNothing (action : Handling α) : Prop :=
  ∀ exchange, (action exchange).2.world.enquiries = exchange.world.enquiries

theorem asksNothing_pure (a : α) : AsksNothing (pure a : Handling α) := fun _ => rfl

theorem asksNothing_throw (fault : Fault) : AsksNothing (throw fault : Handling α) := fun _ => rfl

theorem asksNothing_write (operation : Writing α) : AsksNothing (write operation) := fun _ => rfl

theorem asksNothing_ofExcept (outcome : Except Fault α) : AsksNothing (ofExcept outcome) :=
  fun _ => rfl

theorem asksNothing_response : AsksNothing response := fun _ => rfl

theorem asksNothing_lastModified (location : Location) :
    AsksNothing (serve (Serving.lastModified location)) := fun _ => rfl

theorem asksNothing_note (channel : String) (level : Level) (text : String) :
    AsksNothing (serve (Serving.note channel level text)) := by
  intro exchange
  obtain ⟨journal, hnote⟩ := serve_note_eq channel level text exchange
  rw [hnote]

theorem asksNothing_openStream (location : Location) :
    AsksNothing (serve (Serving.openStream location)) := by
  intro exchange
  rw [serve_apply]
  unfold Serving.openStream
  split <;> rfl

theorem AsksNothing.bind {first : Handling α} {next : α → Handling β} (hfirst : AsksNothing first)
    (hnext : ∀ a, AsksNothing (next a)) : AsksNothing (first >>= next) := by
  intro exchange
  have hkept := hfirst exchange
  rw [bind_apply]
  rcases hrun : first exchange with ⟨outcome, after⟩
  rw [hrun] at hkept
  cases outcome with
  | error fault => exact hkept
  | ok a => exact (hnext a after).trans hkept

theorem AsksNothing.tryCatch {action : Handling α} {recover : Fault → Handling α}
    (haction : AsksNothing action) (hrecover : ∀ fault, AsksNothing (recover fault)) :
    AsksNothing (tryCatch action recover) := by
  intro exchange
  have hkept := haction exchange
  rw [tryCatch_apply]
  rcases hrun : action exchange with ⟨outcome, after⟩
  rw [hrun] at hkept
  cases outcome with
  | error fault => exact (hrecover fault after).trans hkept
  | ok a => exact hkept

end Handling

end VersionedAssets
