import HostEngine.Proofs.Agreement
import HostEngine.Proofs.Natives
/-!
# The stand-in for library files

A stand-in that is told to fail with certain codes is as good as a library file whose functions return
these codes: a start, and the shutdown after it, have the same outcomes and make the same calls. The
two journals are written differently, the stand-in's with less; what both tell is the same
(`stand_in_faithful`).
-/
set_option autoImplicit false

namespace HostEngine

namespace Machine

/-! ### What the journals tell -/

/-- What a stand-in and library files both put down of an event: modes of operation by their numbers,
addresses as text, and two of the parameters. -/
inductive Gist where
  | loaded (name : String)
  | init
  | shutdown
  | startEmbedded (mode : Int32)
  | stopEmbedded (handle : UInt64)
  | connect (address : String) (unixSocket version : UInt32)
  | disconnect (handle : UInt64)
  | unloaded
  deriving DecidableEq, Repr

def Note.gist : Note → Gist
  | .load name => .loaded name
  | .init => .init
  | .shutdown => .shutdown
  | .startEmbedded operation => .startEmbedded operation.number
  | .stopEmbedded raw => .stopEmbedded raw
  | .connect address unixSocket version => .connect address unixSocket version
  | .disconnect raw => .disconnect raw
  | .unload => .unloaded

/-- The gist of a call that a library gets, if it is one of the lifecycle functions with arguments of
the right kinds. -/
def gistOf? : Native.ExportedCall → Option Gist
  | ⟨"dcgmInit", []⟩ => some .init
  | ⟨"dcgmShutdown", []⟩ => some .shutdown
  | ⟨"dcgmStartEmbedded", [.int mode, .out]⟩ => some (.startEmbedded mode)
  | ⟨"dcgmStopEmbedded", [.handle raw]⟩ => some (.stopEmbedded raw)
  | ⟨"dcgmConnect_v2", [.string address, .params params, .out]⟩ =>
    some (.connect address.shown params.unixSocket params.version)
  | ⟨"dcgmDisconnect", [.handle raw]⟩ => some (.disconnect raw)
  | _ => none

def Record.gist? : Record → Option Gist
  | .noted note => some note.gist
  | .mapped name => some (.loaded name)
  | .entered call => gistOf? call
  | .unmapped => some .unloaded

/-- The journal tells these gists and nothing else. -/
def Tells (journal : List Record) (gists : List Gist) : Prop :=
  journal.map Record.gist? = gists.map some

theorem Tells.append {journal : List Record} {gists : List Gist} {record : Record} {gist : Gist}
    (tells : Tells journal gists) (told : record.gist? = some gist) :
    Tells (journal ++ [record]) (gists ++ [gist]) := by
  unfold Tells
  rw [List.map_append, List.map_append, List.map_singleton, List.map_singleton, told, tells]

/-- What is noted of a call is what the library gets. -/
theorem gistOf?_exported (called : Native.Call) :
    gistOf? called.exported = some (Note.ofCall called).gist := by
  cases called with
  | init => rfl
  | shutdown => rfl
  | startEmbedded operation => rfl
  | stopEmbedded handle => rfl
  | connect address params => rfl
  | disconnect handle => rfl

end Machine

namespace Machine.Natives

variable {ε : Type}

/-- Answers requests of native libraries, with a library's files as given by the setting. Log events
are not looked at, and all other requests are answered by the rest of the surroundings. -/
def answerAmid (setting : Setting) (rest : (r : Request) → ε → r.Reply × ε) :
    (r : Request) → Natives × ε → r.Reply × (Natives × ε)
  | .log _, state => ((), state)
  | .load name, (natives, others) =>
    ((natives.load setting name).2, (natives.load setting name).1, others)
  | .call _ called, (natives, others) =>
    ((natives.call called).2, (natives.call called).1, others)
  | .unload library, (natives, others) =>
    ((natives.unload library).2, (natives.unload library).1, others)
  | .discard library, (natives, others) => ((), natives.discard library, others)
  | r, (natives, others) => ((rest r others).1, natives, (rest r others).2)

theorem answerAmid_of_foreign (setting : Setting) (rest : (r : Request) → ε → r.Reply × ε)
    {r : Request} (foreign : r.Foreign) (others : ε) :
    ∃ reply after, ∀ natives,
      answerAmid setting rest r (natives, others) = (reply, natives, after) := by
  cases r with
  | load name => exact foreign.elim
  | call library called => exact foreign.elim
  | unload library => exact foreign.elim
  | discard library => exact foreign.elim
  | _ => exact ⟨_, _, fun _ => rfl⟩

/-! ### Statuses -/

/-- The points of failure of a stand-in whose functions return certain codes. -/
def points (statuses : List (Native.Call.Function × Int32)) : List (Point × Int32) :=
  statuses.map fun status => (.call status.1, status.2)

variable {statuses : List (Native.Call.Function × Int32)} {descriptions : List (Int32 × Octets)}

theorem lookup_call_points (function : Native.Call.Function) :
    (points statuses).lookup (.call function) = statuses.lookup function := by
  induction statuses with
  | nil => rfl
  | cons status rest ih =>
    obtain ⟨other, code⟩ := status
    have keys : (Point.call function == Point.call other) = (function == other) := by
      rw [Bool.eq_iff_iff, beq_iff_eq, beq_iff_eq, Point.call.injEq]
    unfold points at ih ⊢
    rw [List.map_cons, List.lookup_cons, List.lookup_cons, keys, ih]

theorem lookup_unload_points : (points statuses).lookup .unload = none := by
  rw [List.lookup_eq_none_iff]
  intro point member
  obtain ⟨status, -, rfl⟩ := List.mem_map.mp member
  rfl

theorem reply_files_of_isOk {handle : Native.Handle} {called : Native.Call}
    (passes : (returned statuses called).isOk = true) :
    reply (.files handle statuses descriptions) called = .ok (called.value handle) := by
  cases replied : reply (.files handle statuses descriptions) called with
  | ok value =>
    unfold reply at replied
    dsimp only at replied
    split at replied
    · cases replied
    · rw [replied]
  | error failure =>
    have refused := (reply_files_eq_error_iff.mp replied).1
    rw [passes] at refused
    cases refused

/-- A stand-in replies like a library file whose functions return its codes, but for the texts. -/
theorem reply_points (nonzero : ∀ status ∈ statuses, status.2 ≠ 0) (called : Native.Call) :
    (∃ value, reply (.standIn false (points statuses)) called = .ok value ∧
      reply (.files standInHandle statuses descriptions) called = .ok value) ∨
    ∃ failure failure' : Native.Failure,
      reply (.standIn false (points statuses)) called = .error failure ∧
      reply (.files standInHandle statuses descriptions) called = .error failure' ∧
      failure.code = failure'.code := by
  cases assigned : statuses.lookup called.function with
  | none =>
    have passes : (returned statuses called).isOk = true := by
      rw [returned, assigned]
      rfl
    refine .inl ⟨called.value standInHandle, ?_, reply_files_of_isOk passes⟩
    simp only [reply, failure?, lookup_call_points, assigned, Option.map_none]
  | some code =>
    have given : returned statuses called = ⟨code⟩ := by
      rw [returned, assigned]
      rfl
    have failing : (returned statuses called).isOk = false := by
      obtain ⟨before, behind, split, -⟩ := List.lookup_eq_some_iff.mp assigned
      rw [given]
      exact decide_eq_false (nonzero (called.function, code) (by simp [split]))
    have replies : reply (.standIn false (points statuses)) called =
        .error ⟨code, "mock " ++ (Point.call called.function).name ++ " failure"⟩ := by
      simp only [reply, failure?, lookup_call_points, assigned, Option.map_some]
    refine .inr ⟨_, _, replies, reply_files_eq_error_iff.mpr ⟨failing, rfl⟩, ?_⟩
    rw [given]

/-! ### The two side by side -/

/-- A stand-in and library files in the same state: their journals tell the same, and they hold the
same library, if any. The library comes from a file that nothing else is opened from. -/
structure Paired (statuses : List (Native.Call.Function × Int32))
    (descriptions : List (Int32 × Octets)) (file : Path) (held : Option Native.Library)
    (standIn files : Natives) : Prop where
  standIn_source : standIn.source = .standIn false (points statuses)
  files_source : files.source = .files standInHandle statuses descriptions
  next_eq : standIn.next = files.next
  told : ∃ gists, Tells standIn.journal gists ∧ Tells files.journal gists
  held_eq : files.held = held.toList.map (⟨·, file⟩)
  openCount_eq : files.openCount file = held.toList.length

theorem paired_fresh (file : Path) :
    Paired statuses descriptions file none (fresh (.standIn false (points statuses)))
      (fresh (.files standInHandle statuses descriptions)) :=
  ⟨rfl, rfl, rfl, ⟨[], rfl, rfl⟩, rfl, rfl⟩

variable {file : Path} {setting : Setting} {name : String} {symbols : List String}
  {standIn files : Natives} {library : Native.Library}

theorem openMapped_of_shut {natives : Natives} (shut : natives.openCount file = 0) (name : String) :
    natives.openMapped name file = (natives.setOpenCount file 1).note (.mapped name) := by
  unfold openMapped isMapped
  simp [shut]

theorem closeMapped_of_last {natives : Natives} (last : natives.openCount file = 1) :
    natives.closeMapped file = (natives.setOpenCount file 0).note .unmapped := by
  have shut : (natives.setOpenCount file 0).openCount file = 0 := by
    rw [openCount_setOpenCount, if_pos rfl]
  unfold closeMapped isMapped
  simp [last, shut]

theorem load_files {handle : Native.Handle}
    (source : files.source = .files handle statuses descriptions)
    (openable : Openable setting name file symbols)
    (complete : ∀ symbol ∈ Native.symbols, symbol ∈ symbols) (shut : files.openCount file = 0) :
    files.load setting name =
      ((((files.setOpenCount file 1).note (.mapped name)).hold name file).1,
        .ok (files.nextLibrary name)) := by
  have loads : files.load setting name = files.loadFile setting name := by
    simp only [load, source]
  rw [loads, loadFile_of_openable openable, missingSymbol?_eq_none_iff.mpr complete,
    openMapped_of_shut shut]
  rfl

theorem Paired.load (openable : Openable setting name file symbols)
    (complete : ∀ symbol ∈ Native.symbols, symbol ∈ symbols)
    (paired : Paired statuses descriptions file none standIn files) :
    ∃ library, (standIn.load setting name).2 = .ok library ∧
      (files.load setting name).2 = .ok library ∧
      Paired statuses descriptions file (some library) (standIn.load setting name).1
        (files.load setting name).1 := by
  rw [load_standIn paired.standIn_source,
    load_files paired.files_source openable complete paired.openCount_eq]
  have same : standIn.nextLibrary name = files.nextLibrary name :=
    congrArg (Native.Library.mk · name) paired.next_eq
  refine ⟨files.nextLibrary name, congrArg Except.ok same, rfl, ?_⟩
  constructor
  · exact paired.standIn_source
  · exact paired.files_source
  · exact congrArg (· + 1) paired.next_eq
  · obtain ⟨gists, tells, tells'⟩ := paired.told
    exact ⟨gists ++ [.loaded name], tells.append rfl, tells'.append rfl⟩
  · exact congrArg (· ++ [⟨files.nextLibrary name, file⟩]) paired.held_eq
  · exact (openCount_setOpenCount files file file 1).trans (if_pos rfl)

theorem Paired.unload (paired : Paired statuses descriptions file (some library) standIn files) :
    (standIn.unload library).2 = .ok () ∧ (files.unload library).2 = .ok () ∧
      Paired statuses descriptions file none (standIn.unload library).1
        (files.unload library).1 := by
  have unloads :
      standIn.unload library = ((standIn.note (.noted .unload)).dropInstance library, .ok ()) := by
    simp only [Natives.unload, paired.standIn_source, failure?, lookup_unload_points,
      Option.map_none]
  have last : (files.letGo library).openCount file = 1 := paired.openCount_eq
  have drops :
      files.dropOpened library = ((files.letGo library).setOpenCount file 0).note .unmapped := by
    have held : files.held.find? (·.library = library) = some ⟨library, file⟩ := by
      simp [paired.held_eq]
    unfold dropOpened
    rw [held]
    exact closeMapped_of_last last
  have unloads' : files.unload library =
      (((files.letGo library).setOpenCount file 0).note .unmapped, .ok ()) := by
    simp only [Natives.unload, paired.files_source, drops]
  rw [unloads, unloads']
  refine ⟨rfl, rfl, ?_⟩
  constructor
  · exact paired.standIn_source
  · exact paired.files_source
  · exact paired.next_eq
  · obtain ⟨gists, tells, tells'⟩ := paired.told
    exact ⟨gists ++ [.unloaded], tells.append rfl, tells'.append rfl⟩
  · have gone : files.held.filter (·.library ≠ library) = [] := by
      simp [paired.held_eq]
    exact gone
  · exact (openCount_setOpenCount (files.letGo library) file file 0).trans (if_pos rfl)

theorem Paired.call {held : Option Native.Library}
    (paired : Paired statuses descriptions file held standIn files) (called : Native.Call) :
    Paired statuses descriptions file held (standIn.call called).1 (files.call called).1 := by
  obtain ⟨source, source', next_eq, ⟨gists, tells, tells'⟩, held_eq, openCount_eq⟩ := paired
  refine ⟨source, source', next_eq, ⟨gists ++ [(Note.ofCall called).gist], ?_, ?_⟩, held_eq,
    openCount_eq⟩
  · apply tells.append
    show (record standIn.source called).gist? = _
    rw [source]
    rfl
  · apply tells'.append
    show (record files.source called).gist? = _
    rw [source']
    exact gistOf?_exported called

/-- Two runs with related results, which leave the natives paired and the rest of the surroundings
the same. -/
def Alike {α : Type} (statuses : List (Native.Call.Function × Int32))
    (descriptions : List (Int32 × Octets)) (file : Path)
    (related : Option Native.Library → α → α → Prop) (first second : α × (Natives × ε)) : Prop :=
  ∃ held, related held first.1 second.1 ∧
    Paired statuses descriptions file held first.2.1 second.2.1 ∧ first.2.2 = second.2.2

/-- Side by side with the same rest of the surroundings, procedures that agree end alike. -/
theorem alike_run {α : Type} {rest : (r : Request) → ε → r.Reply × ε}
    {related : Option Native.Library → α → α → Prop} {held : Option Native.Library}
    {p q : Procedure α} (nonzero : ∀ status ∈ statuses, status.2 ≠ 0)
    (openable : Openable setting name file symbols)
    (complete : ∀ symbol ∈ Native.symbols, symbol ∈ symbols)
    (agree : Agree name related held p q)
    (paired : Paired statuses descriptions file held standIn files) (others : ε) :
    Alike statuses descriptions file related (p.run (answerAmid setting rest) (standIn, others))
      (q.run (answerAmid setting rest) (files, others)) := by
  -- The natives move on with each request of a library, so they are general in the induction; the
  -- pairing is what makes both get the reply that the agreement asks for.
  induction agree generalizing standIn files others with
  | done ends => exact ⟨_, ends, paired, rfl⟩
  | log _ ih => exact ih paired others
  | @load next next' _ ih =>
    obtain ⟨library, loads, loads', after⟩ := paired.load openable complete
    show Alike _ _ _ _
      ((next (standIn.load setting name).2).run _ ((standIn.load setting name).1, others))
      ((next' (files.load setting name).2).run _ ((files.load setting name).1, others))
    rw [loads, loads']
    exact ih library after others
  | @call library called next next' _ _ ihOk ihError =>
    have after := paired.call called
    show Alike _ _ _ _
      ((next (reply standIn.source called)).run _ ((standIn.call called).1, others))
      ((next' (reply files.source called)).run _ ((files.call called).1, others))
    rw [paired.standIn_source, paired.files_source]
    rcases reply_points nonzero called with ⟨value, replies, replies'⟩ | fails
    · rw [replies, replies']
      exact ihOk value after others
    · obtain ⟨failure, failure', replies, replies', code⟩ := fails
      rw [replies, replies']
      exact ihError failure failure' code after others
  | @unload library next next' _ ih =>
    obtain ⟨unloads, unloads', after⟩ := paired.unload
    show Alike _ _ _ _
      ((next (standIn.unload library).2).run _ ((standIn.unload library).1, others))
      ((next' (files.unload library).2).run _ ((files.unload library).1, others))
    rw [unloads, unloads']
    exact ih after others
  | @other _ r foreign next next' _ ih =>
    obtain ⟨reply, after, replies⟩ := answerAmid_of_foreign setting rest foreign others
    show Alike _ _ _ _ ((next (answerAmid setting rest r (standIn, others)).1).run _ _)
      ((next' (answerAmid setting rest r (files, others)).1).run _ _)
    rw [replies, replies]
    exact ih reply paired after

end Machine.Natives

namespace Session

open Machine Natives Procedure

/-- Starts a session, and shuts it down again if that succeeds; returns what came of both. -/
def startAndShutDown (options : Options) (mode : Mode) (args : List String) :
    Procedure (Except Failure Session × Option (Except Failure Unit)) := do
  match ← start options mode args with
  | .error failure => return (.error failure, none)
  | .ok session =>
    let ended ← session.shutdown
    return (.ok session, some ended)

/-- A start and the shutdown after it end alike, with no library loaded any more. -/
def SameOutcomes (held : Option Native.Library)
    (first second : Except Failure Session × Option (Except Failure Unit)) : Prop :=
  held = none ∧ SameOutcome first.1 second.1 ∧ Option.Rel SameOutcome first.2 second.2

theorem agree_startAndShutDown (options : Options) (mode : Mode) (args : List String) :
    Agree options.library SameOutcomes none (startAndShutDown options mode args)
      (startAndShutDown options mode args) := by
  refine (agree_start options mode args).bind ?_
  intro held first second begun
  cases begun with
  | session session =>
    refine (agree_shutdown session).bind ?_
    rintro _ ended ended' ⟨rfl, same⟩
    exact .done ⟨rfl, .refl _, .some same⟩
  | failure same => exact .done ⟨rfl, same, .none⟩

/-- Whatever is started, in whatever surroundings, and whichever functions fail with whichever
codes: a stand-in and a library file give a start, and the shutdown after it, the same outcomes, leave
journals that tell the same calls in the same order, and leave the rest of the surroundings in the
same state. -/
theorem stand_in_faithful {ε : Type} (options : Options) (mode : Mode) (args : List String)
    {setting : Setting} {file : Path} {symbols : List String}
    (openable : Openable setting options.library file symbols)
    (complete : ∀ symbol ∈ Native.symbols, symbol ∈ symbols)
    {statuses : List (Native.Call.Function × Int32)} (nonzero : ∀ status ∈ statuses, status.2 ≠ 0)
    (descriptions : List (Int32 × Octets)) (rest : (r : Request) → ε → r.Reply × ε) (others : ε) :
    let standIn := (startAndShutDown options mode args).run (answerAmid setting rest)
      (fresh (.standIn false (points statuses)), others)
    let files := (startAndShutDown options mode args).run (answerAmid setting rest)
      (fresh (.files standInHandle statuses descriptions), others)
    SameOutcome standIn.1.1 files.1.1 ∧ Option.Rel SameOutcome standIn.1.2 files.1.2 ∧
      (∃ gists, Tells standIn.2.1.journal gists ∧ Tells files.2.1.journal gists) ∧
      standIn.2.2 = files.2.2 := by
  intro standIn files
  have alike : Alike statuses descriptions file SameOutcomes standIn files :=
    alike_run nonzero openable complete (agree_startAndShutDown options mode args)
      (paired_fresh file) others
  obtain ⟨_, ⟨-, started, ended⟩, paired, same⟩ := alike
  exact ⟨started, ended, paired.told, same⟩

/-- A host engine that cannot be disconnected from, behind a library file in the root directory. The
stand-in notes less of the connection than the library gets. -/
theorem stand_in_faithful_of_standalone :
    let file : Path := [[0x65]]
    let setting : Setting := ⟨⟨[(file, .library Native.symbols)]⟩, ⟨[], false⟩, []⟩
    let options : Options := { Options.default with library := "/e" }
    let statuses : List (Native.Call.Function × Int32) := [(.disconnect, -21)]
    let ended (source : Source) := (startAndShutDown options .standalone ["h", "5"]).run
      (answerAmid setting fun r _ => (anyReply r, ())) (fresh source, ())
    Openable setting options.library file Native.symbols ∧
      (∀ symbol ∈ Native.symbols, symbol ∈ Native.symbols) ∧ (∀ status ∈ statuses, status.2 ≠ 0) ∧
      (ended (.standIn false (points statuses))).2.1.journal = [.noted (.load "/e"), .noted .init,
        .noted (.connect "h" 5 0x2000010), .noted (.disconnect 0xD0C6), .noted .unload] ∧
      Tells (ended (.files standInHandle statuses [])).2.1.journal [.loaded "/e", .init,
        .connect "h" 5 0x2000010, .disconnect 0xD0C6, .unloaded] := by
  intro file setting options statuses ended
  have named : Octets.ofString "/e" = [0x2F, 0x65] := by decide +kernel
  have found : setting.files.find setting.directory [0x2F, 0x65] =
      .ok (file, .library Native.symbols) := by
    have split : ([0x2F, 0x65] : Octets).splitOn 0x2F = [[], [0x65]] := by decide
    simp [Files.find, Files.locate, split, Files.walk, Files.entry?, setting, file, isAbsolute,
      slash, dot]
  have openable : Openable setting options.library file Native.symbols := by
    refine ⟨by decide +kernel, ?_⟩
    show openFile setting (fileName setting (.ofString "/e")) = _
    rw [named]
    have whole : fileName setting [0x2F, 0x65] = [0x2F, 0x65] := rfl
    rw [whole, openFile, found]
  have complete : ∀ symbol ∈ Native.symbols, symbol ∈ Native.symbols := fun _ member => member
  have nonzero : ∀ status ∈ statuses, status.2 ≠ 0 := by decide
  have noted : (ended (.standIn false (points statuses))).2.1.journal = [.noted (.load "/e"),
      .noted .init, .noted (.connect "h" 5 0x2000010), .noted (.disconnect 0xD0C6),
      .noted .unload] := by decide +kernel
  obtain ⟨-, -, ⟨gists, tells, tells'⟩, -⟩ := stand_in_faithful options .standalone ["h", "5"]
    openable complete nonzero [] (fun r _ => (anyReply r, ())) ()
  refine ⟨openable, complete, nonzero, noted, ?_⟩
  have told : [.loaded "/e", .init, .connect "h" 5 0x2000010, .disconnect 0xD0C6, .unloaded] =
      gists := by
    apply List.map_injective_iff.mpr (Option.some_injective Gist)
    rw [← tells]
    exact (congrArg (List.map Record.gist?) noted).symm
  exact told ▸ tells'

end Session

end HostEngine
