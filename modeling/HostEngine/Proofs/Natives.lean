import HostEngine.Proofs.Files
import HostEngine.Machine.Basic
import HostEngine.Procedure.Trace
import Mathlib.Data.Finset.Basic
/-!
# The native libraries of a machine

What loading, closing and letting go do to the libraries that are held, to the count of a stand-in's
instances and to the counts of open files. `Natives.Sound` says that the counts agree with what is
held; whatever a machine does to its libraries keeps it.
-/
set_option autoImplicit false

namespace HostEngine.Machine

def Source.isStandIn : Source → Bool
  | .standIn _ _ => true
  | .files _ _ _ => false

namespace Natives

variable {natives next : Natives} {setting : Setting} {name : String} {library : Native.Library}

/-! ### Calls of library files -/

def returned (codes : List (Native.Call.Function × Int32)) (call : Native.Call) : Native.Status :=
  ⟨(codes.lookup call.function).getD 0⟩

def described (descriptions : List (Int32 × Octets)) (status : Native.Status) : Option String :=
  (descriptions.lookup status.code).map Octets.shown

theorem reply_files_eq_error_iff {handle : Native.Handle}
    {codes : List (Native.Call.Function × Int32)} {descriptions : List (Int32 × Octets)}
    {call : Native.Call} {failure : Native.Failure} :
    reply (.files handle codes descriptions) call = .error failure ↔
      (returned codes call).isOk = false ∧ failure = ⟨(returned codes call).code,
        (returned codes call).wording (described descriptions (returned codes call))⟩ := by
  rw [← Native.Status.check_eq_error_iff (returned codes call) (described descriptions)]
  unfold reply
  dsimp only
  split
  · rename_i other refused
    have checked : (returned codes call).check (described descriptions) = .error other := refused
    rw [checked, Except.error.injEq, Except.error.injEq]
  · rename_i passed
    have checked : (returned codes call).check (described descriptions) = .ok () := passed
    rw [checked]
    exact iff_of_false (fun same => by cases same) (fun same => by cases same)

/-! ### Counts of open files -/

theorem openCount_setOpenCount (natives : Natives) (file other : Path) (count : Nat) :
    (natives.setOpenCount file count).openCount other =
      if file = other then count else natives.openCount other := by
  unfold openCount setOpenCount
  by_cases zero : count = 0
  · subst zero
    by_cases same : file = other
    · subst same
      simp only [if_true, lookup_filter_self, Option.getD_none]
    · simp only [if_true, if_neg same, lookup_filter_ne _ (Ne.symm same)]
  · simp only [if_neg zero, List.lookup_cons]
    by_cases same : file = other
    · simp [same]
    · have passed : (other == file) = false := beq_false_of_ne (Ne.symm same)
      simp only [passed, if_neg same, lookup_filter_ne _ (Ne.symm same)]

theorem openMapped_eq (natives : Natives) (name : String) (file : Path) :
    natives.openMapped name file = natives.setOpenCount file (natives.openCount file + 1) ∨
      natives.openMapped name file =
        (natives.setOpenCount file (natives.openCount file + 1)).note (.mapped name) :=
  ite_eq_or_eq _ _ _

theorem openCount_openMapped (natives : Natives) (name : String) (file other : Path) :
    (natives.openMapped name file).openCount other =
      natives.openCount other + if file = other then 1 else 0 := by
  have counted : (natives.openMapped name file).openCount other =
      (natives.setOpenCount file (natives.openCount file + 1)).openCount other := by
    rcases natives.openMapped_eq name file with opened | opened
    · rw [opened]
    · rw [opened]
      rfl
  rw [counted, openCount_setOpenCount]
  by_cases same : file = other
  · simp [same]
  · simp [same]

theorem closeMapped_eq (natives : Natives) (file : Path) :
    natives.closeMapped file = natives.setOpenCount file (natives.openCount file - 1) ∨
      natives.closeMapped file =
        (natives.setOpenCount file (natives.openCount file - 1)).note .unmapped :=
  ite_eq_or_eq _ _ _

theorem openCount_closeMapped (natives : Natives) (file other : Path) :
    (natives.closeMapped file).openCount other =
      natives.openCount other - if file = other then 1 else 0 := by
  have counted : (natives.closeMapped file).openCount other =
      (natives.setOpenCount file (natives.openCount file - 1)).openCount other := by
    rcases natives.closeMapped_eq file with closed | closed
    · rw [closed]
    · rw [closed]
      rfl
  rw [counted, openCount_setOpenCount]
  by_cases same : file = other
  · simp [same]
  · simp [same]

/-! ### What happens to what is held -/

/-- Nothing more or less is held, nor counted by a stand-in. -/
structure SameHeld (natives next : Natives) : Prop where
  isStandIn : next.source.isStandIn = natives.source.isStandIn
  held : next.held = natives.held
  next_eq : next.next = natives.next
  live : next.live = natives.live

/-- No count of open files changes either. -/
structure Keeps (natives next : Natives) : Prop extends SameHeld natives next where
  openCount : ∀ file, next.openCount file = natives.openCount file

/-- A library is held besides what was held, and counted. -/
structure Gains (natives : Natives) (holding : Holding) (next : Natives) : Prop where
  isStandIn : next.source.isStandIn = natives.source.isStandIn
  id_eq : holding.library.id = natives.next
  next_eq : next.next = natives.next + 1
  held : next.held = natives.held ++ [holding]
  live : natives.source.isStandIn = true → next.live = natives.live + 1
  openCount : natives.source.isStandIn = false → ∀ file,
    next.openCount file = natives.openCount file + if holding.file = file then 1 else 0

/-- A library is held no longer, and counted no longer. -/
structure Loses (natives : Natives) (holding : Holding) (next : Natives) : Prop where
  isStandIn : next.source.isStandIn = natives.source.isStandIn
  next_eq : next.next = natives.next
  held : next.held = natives.held.filter (·.library ≠ holding.library)
  live : natives.source.isStandIn = true → next.live = natives.live - 1
  openCount : natives.source.isStandIn = false → ∀ file,
    next.openCount file = natives.openCount file - if holding.file = file then 1 else 0

theorem sameHeld_openMapped (natives : Natives) (name : String) (file : Path) :
    SameHeld natives (natives.openMapped name file) := by
  rcases natives.openMapped_eq name file with opened | opened
  · rw [opened]
    exact ⟨rfl, rfl, rfl, rfl⟩
  · rw [opened]
    exact ⟨rfl, rfl, rfl, rfl⟩

theorem sameHeld_closeMapped (natives : Natives) (file : Path) :
    SameHeld natives (natives.closeMapped file) := by
  rcases natives.closeMapped_eq file with closed | closed
  · rw [closed]
    exact ⟨rfl, rfl, rfl, rfl⟩
  · rw [closed]
    exact ⟨rfl, rfl, rfl, rfl⟩

theorem SameHeld.trans {third : Natives} (first : SameHeld natives next)
    (second : SameHeld next third) : SameHeld natives third where
  isStandIn := second.isStandIn.trans first.isStandIn
  held := second.held.trans first.held
  next_eq := second.next_eq.trans first.next_eq
  live := second.live.trans first.live

theorem keeps_refl (natives : Natives) : Keeps natives natives := ⟨⟨rfl, rfl, rfl, rfl⟩, fun _ => rfl⟩

theorem keeps_of_altered {source : Source} (kind : source.isStandIn = natives.source.isStandIn) :
    Keeps natives { natives with source } := ⟨⟨kind, rfl, rfl, rfl⟩, fun _ => rfl⟩

theorem Keeps.isMapped (keeps : Keeps natives next) (file : Path) :
    next.isMapped file = natives.isMapped file := by
  unfold Natives.isMapped
  rw [keeps.openCount]

/-! ### Loading -/

/-- A name leads to a library file with certain symbols. -/
def Openable (setting : Setting) (name : String) (file : Path) (symbols : List String) : Prop :=
  (Octets.ofString name).hasNul = false ∧
    openFile setting (fileName setting (.ofString name)) = .ok (file, symbols)

theorem missingSymbol?_eq_none_iff {symbols : List String} :
    missingSymbol? symbols = none ↔ ∀ symbol ∈ Native.symbols, symbol ∈ symbols := by
  unfold missingSymbol?
  rw [List.find?_eq_none]
  simp

theorem loadFile_of_openable {file : Path} {symbols : List String}
    (openable : Openable setting name file symbols) :
    natives.loadFile setting name =
      match missingSymbol? symbols with
      | some symbol => ((natives.openMapped name file).closeMapped file,
          .error ("missing symbol: " ++ (fileName setting (.ofString name)).shown ++
            ": undefined symbol: " ++ symbol))
      | none => ((((natives.openMapped name file).hold name file).1,
          .ok ((natives.openMapped name file).hold name file).2)) := by
  unfold loadFile
  simp only [openable.1, openable.2]
  rfl

theorem loadFile_of_not_openable (natives : Natives)
    (unopenable : ∀ file symbols, ¬ Openable setting name file symbols) :
    ∃ reason, natives.loadFile setting name = (natives, .error reason) := by
  unfold loadFile
  cases nul : (Octets.ofString name).hasNul with
  | true => exact ⟨nulInName, by simp only [nul, if_true]⟩
  | false =>
    cases opened : openFile setting (fileName setting (.ofString name)) with
    | error reason => exact ⟨reason, by simp only [nul, opened, Bool.false_eq_true, if_false]⟩
    | ok found => exact absurd ⟨nul, opened⟩ (unopenable found.1 found.2)

/-- Opening a file for a library, and closing it again as that is of no use, changes no count. -/
theorem keeps_open_close (natives : Natives) (name : String) (file : Path) :
    Keeps natives ((natives.openMapped name file).closeMapped file) where
  toSameHeld := (sameHeld_openMapped natives name file).trans (sameHeld_closeMapped _ file)
  openCount other := by
    rw [openCount_closeMapped, openCount_openMapped]
    omega

theorem gains_open_hold (natives : Natives) (name : String) (file : Path)
    (opens : natives.source.isStandIn = false) :
    Gains natives ⟨((natives.openMapped name file).hold name file).2, file⟩
      ((natives.openMapped name file).hold name file).1 := by
  have same := sameHeld_openMapped natives name file
  constructor
  · exact same.isStandIn
  · exact same.next_eq
  · exact congrArg (· + 1) same.next_eq
  · exact congrArg (· ++ _) same.held
  · intro standIn
    cases opens.symm.trans standIn
  · intro _ other
    exact openCount_openMapped natives name file other

/-- What comes of loading a library file. -/
structure LoadsFile (natives : Natives) (setting : Setting) (name : String) : Prop where
  /-- It succeeds if and only if the file opens and all symbols resolve. -/
  isOk_iff : (natives.load setting name).2.isOk = true ↔
    ∃ file symbols, Openable setting name file symbols ∧
      ∀ symbol ∈ Native.symbols, symbol ∈ symbols
  /-- The library is held with the file that was opened. -/
  ok : ∀ library, (natives.load setting name).2 = .ok library →
    ∃ file symbols, Openable setting name file symbols ∧
      Gains natives ⟨library, file⟩ (natives.load setting name).1
  /-- If it fails, nothing is held besides, and the same files are mapped. -/
  error : ∀ reason, (natives.load setting name).2 = .error reason →
    Keeps natives (natives.load setting name).1

theorem LoadsFile.of_ok {library : Native.Library} {file : Path} {symbols : List String}
    (loads : natives.load setting name = (next, .ok library))
    (openable : Openable setting name file symbols)
    (all : ∀ symbol ∈ Native.symbols, symbol ∈ symbols) (gains : Gains natives ⟨library, file⟩ next) :
    LoadsFile natives setting name := by
  refine ⟨?_, ?_, ?_⟩
  · rw [loads]
    exact iff_of_true rfl ⟨file, symbols, openable, all⟩
  · intro other ok
    rw [loads] at ok ⊢
    cases ok
    exact ⟨file, symbols, openable, gains⟩
  · intro reason failed
    rw [loads] at failed
    cases failed

theorem LoadsFile.of_error {reason : String}
    (loads : natives.load setting name = (next, .error reason))
    (lacking : ∀ file symbols, Openable setting name file symbols →
      ¬ ∀ symbol ∈ Native.symbols, symbol ∈ symbols)
    (keeps : Keeps natives next) : LoadsFile natives setting name := by
  refine ⟨?_, ?_, ?_⟩
  · rw [loads]
    refine iff_of_false Bool.false_ne_true ?_
    rintro ⟨file, symbols, openable, all⟩
    exact lacking file symbols openable all
  · intro library ok
    rw [loads] at ok
    cases ok
  · intro other _
    rw [loads]
    exact keeps

theorem loadsFile (opens : natives.source.isStandIn = false) (setting : Setting) (name : String) :
    LoadsFile natives setting name := by
  have loads : natives.load setting name = natives.loadFile setting name := by
    unfold load
    cases source : natives.source with
    | standIn missing failures =>
      rw [source] at opens
      cases opens
    | files handle codes descriptions => rfl
  by_cases openable : ∃ file symbols, Openable setting name file symbols
  · obtain ⟨file, symbols, openable⟩ := openable
    rw [loadFile_of_openable openable] at loads
    cases missing : missingSymbol? symbols with
    | none =>
      rw [missing] at loads
      have all := missingSymbol?_eq_none_iff.mp missing
      exact .of_ok loads openable all (gains_open_hold natives name file opens)
    | some symbol =>
      rw [missing] at loads
      refine .of_error loads ?_ (keeps_open_close natives name file)
      intro file' symbols' openable' all
      cases openable.2.symm.trans openable'.2
      cases missing.symm.trans (missingSymbol?_eq_none_iff.mpr all)
  · have unopenable (file : Path) (symbols : List String) : ¬ Openable setting name file symbols :=
      fun is => openable ⟨file, symbols, is⟩
    obtain ⟨reason, failed⟩ := natives.loadFile_of_not_openable unopenable
    rw [failed] at loads
    exact .of_error loads (fun file symbols is => absurd is (unopenable file symbols))
      (keeps_refl natives)

def nextLibrary (natives : Natives) (name : String) : Native.Library := ⟨natives.next, name⟩

theorem load_standIn {natives : Natives} {failures : List (Point × Int32)}
    (source : natives.source = .standIn false failures) (setting : Setting) (name : String) :
    natives.load setting name =
      ({ ((natives.note (.noted (.load name))).hold name []).1 with live := natives.live + 1 },
        .ok (natives.nextLibrary name)) := by
  simp only [load, source, Bool.false_eq_true, if_false]
  rfl

theorem load_cases (natives : Natives) (setting : Setting) (name : String) :
    (∃ holding, (natives.load setting name).2 = .ok holding.library ∧
      Gains natives holding (natives.load setting name).1) ∨
    ∃ reason, (natives.load setting name).2 = .error reason ∧
      Keeps natives (natives.load setting name).1 := by
  cases source : natives.source with
  | standIn missing failures =>
    cases missing with
    | true =>
      have loads : natives.load setting name = (natives, .error missingMessage) := by
        simp only [load, source, if_true]
      rw [loads]
      exact .inr ⟨missingMessage, rfl, keeps_refl natives⟩
    | false =>
      rw [load_standIn source]
      refine .inl ⟨⟨natives.nextLibrary name, []⟩, rfl, rfl, rfl, rfl, rfl, fun _ => rfl, ?_⟩
      intro opens
      rw [source] at opens
      cases opens
  | files handle codes descriptions =>
    have opens : natives.source.isStandIn = false := by
      rw [source]
      rfl
    have loads := loadsFile opens setting name
    cases result : (natives.load setting name).2 with
    | ok library =>
      obtain ⟨file, symbols, -, gains⟩ := loads.ok library result
      exact .inl ⟨⟨library, file⟩, rfl, gains⟩
    | error reason => exact .inr ⟨reason, rfl, loads.error reason result⟩

/-! ### Counts that agree with what is held -/

def libraries (natives : Natives) : Finset Native.Library :=
  (natives.held.map (·.library)).toFinset

/-- What is held has numbers of its own, and is counted. -/
structure Sound (natives : Natives) : Prop where
  distinct : (natives.held.map (·.library)).Nodup
  below : ∀ holding ∈ natives.held, holding.library.id < natives.next
  live : natives.source.isStandIn = true → natives.live = natives.held.length
  openCount : natives.source.isStandIn = false → ∀ file,
    natives.openCount file = natives.held.countP (·.file = file)

theorem sound_fresh (source : Source) : (fresh source).Sound where
  distinct := List.nodup_nil
  below := fun _ member => absurd member List.not_mem_nil
  live := fun _ => rfl
  openCount := fun _ _ => rfl

theorem mem_libraries_iff {natives : Natives} {library : Native.Library} :
    library ∈ natives.libraries ↔ ∃ file, ⟨library, file⟩ ∈ natives.held := by
  unfold libraries
  rw [List.mem_toFinset, List.mem_map]
  constructor
  · rintro ⟨⟨_, file⟩, member, rfl⟩
    exact ⟨file, member⟩
  · rintro ⟨file, member⟩
    exact ⟨⟨library, file⟩, member, rfl⟩

theorem Sound.exists_split (sound : natives.Sound) {holding : Holding}
    (member : holding ∈ natives.held) :
    ∃ first second, natives.held = first ++ holding :: second ∧
      natives.held.filter (·.library ≠ holding.library) = first ++ second := by
  obtain ⟨first, second, split⟩ := List.append_of_mem member
  have distinct := sound.distinct
  rw [split, List.map_append, List.map_cons, List.nodup_middle, List.nodup_cons,
    ← List.map_append] at distinct
  have others : ∀ other ∈ first ++ second, decide (other.library ≠ holding.library) = true := by
    intro other among
    apply decide_eq_true
    intro same
    exact distinct.1 (List.mem_map.mpr ⟨other, among, same⟩)
  refine ⟨first, second, split, ?_⟩
  rw [split, List.filter_append, List.filter_cons_of_neg (by simp), ← List.filter_append,
    List.filter_eq_self.mpr others]

theorem Sound.keeps (sound : natives.Sound) (keeps : Keeps natives next) :
    next.Sound ∧ next.libraries = natives.libraries := by
  refine ⟨⟨?_, ?_, ?_, ?_⟩, ?_⟩
  · rw [keeps.held]
    exact sound.distinct
  · rw [keeps.held, keeps.next_eq]
    exact sound.below
  · rw [keeps.held, keeps.live, keeps.isStandIn]
    exact sound.live
  · intro opens file
    rw [keeps.held, keeps.openCount]
    exact sound.openCount (keeps.isStandIn ▸ opens) file
  · unfold libraries
    rw [keeps.held]

theorem Sound.gains (sound : natives.Sound) {holding : Holding}
    (gains : Gains natives holding next) :
    next.Sound ∧ holding.library ∉ natives.libraries ∧
      next.libraries = insert holding.library natives.libraries := by
  have fresh : holding.library ∉ natives.held.map (·.library) := by
    intro member
    obtain ⟨other, among, same⟩ := List.mem_map.mp member
    have below := sound.below other among
    rw [same, gains.id_eq] at below
    omega
  refine ⟨⟨?_, ?_, ?_, ?_⟩, ?_, ?_⟩
  · rw [gains.held, List.map_append, List.map_singleton, List.nodup_append_comm]
    exact List.nodup_cons.mpr ⟨fresh, sound.distinct⟩
  · intro other member
    rw [gains.held, List.mem_append, List.mem_singleton] at member
    rw [gains.next_eq]
    rcases member with old | rfl
    · exact Nat.lt_succ_of_lt (sound.below other old)
    · rw [gains.id_eq]
      exact Nat.lt_succ_self _
  · intro standIn
    rw [gains.isStandIn] at standIn
    rw [gains.held, gains.live standIn, sound.live standIn, List.length_append,
      List.length_singleton]
  · intro opens file
    rw [gains.isStandIn] at opens
    rw [gains.held, gains.openCount opens, sound.openCount opens, List.countP_append,
      List.countP_singleton]
    simp only [decide_eq_true_eq]
  · unfold libraries
    rwa [List.mem_toFinset]
  · ext library
    unfold libraries
    rw [gains.held, Finset.mem_insert, List.mem_toFinset, List.mem_toFinset, List.map_append,
      List.mem_append, List.map_singleton, List.mem_singleton, or_comm]

theorem Sound.loses (sound : natives.Sound) {holding : Holding} (member : holding ∈ natives.held)
    (loses : Loses natives holding next) :
    next.Sound ∧ next.libraries = natives.libraries.erase holding.library := by
  obtain ⟨first, second, split, others⟩ := sound.exists_split member
  have kept : next.held.Sublist natives.held := loses.held ▸ List.filter_sublist
  refine ⟨⟨?_, ?_, ?_, ?_⟩, ?_⟩
  · exact sound.distinct.sublist (kept.map _)
  · intro other among
    rw [loses.next_eq]
    exact sound.below other (kept.subset among)
  · intro standIn
    rw [loses.isStandIn] at standIn
    rw [loses.live standIn, sound.live standIn, loses.held, others, split]
    simp
  · intro opens file
    rw [loses.isStandIn] at opens
    rw [loses.openCount opens, sound.openCount opens, loses.held, others, split,
      List.countP_append, List.countP_append, List.countP_cons]
    simp only [decide_eq_true_eq]
    omega
  · ext library
    rw [Finset.mem_erase, mem_libraries_iff, mem_libraries_iff, loses.held]
    simp [and_comm]

/-! ### Closing -/

theorem Sound.find?_held (sound : natives.Sound) {holding : Holding}
    (member : holding ∈ natives.held) :
    natives.held.find? (·.library = holding.library) = some holding := by
  obtain ⟨first, second, split, others⟩ := sound.exists_split member
  rw [List.find?_eq_some_iff_append]
  refine ⟨decide_eq_true rfl, first, second, split, ?_⟩
  intro other among
  have kept : other ∈ natives.held.filter (·.library ≠ holding.library) :=
    others ▸ List.mem_append_left second among
  simpa using (List.mem_filter.mp kept).2

theorem Loses.of_note {record : Record} {holding : Holding}
    (loses : Loses (natives.note record) holding next) : Loses natives holding next :=
  ⟨loses.isStandIn, loses.next_eq, loses.held, loses.live, loses.openCount⟩

theorem loses_dropInstance (standIn : natives.source.isStandIn = true) (holding : Holding) :
    Loses natives holding (natives.dropInstance holding.library) := by
  refine ⟨rfl, rfl, rfl, fun _ => rfl, fun opens => ?_⟩
  cases opens.symm.trans standIn

theorem Sound.loses_dropOpened (sound : natives.Sound) {holding : Holding}
    (member : holding ∈ natives.held) (opens : natives.source.isStandIn = false) :
    Loses natives holding (natives.dropOpened holding.library) := by
  have drops : natives.dropOpened holding.library =
      (natives.letGo holding.library).closeMapped holding.file := by
    unfold dropOpened
    rw [sound.find?_held member]
  have same := sameHeld_closeMapped (natives.letGo holding.library) holding.file
  rw [drops]
  refine ⟨same.isStandIn, same.next_eq, same.held, ?_, ?_⟩
  · intro standIn
    cases opens.symm.trans standIn
  · intro _ file
    exact openCount_closeMapped (natives.letGo holding.library) holding.file file

theorem Sound.loses_discard (sound : natives.Sound) {holding : Holding}
    (member : holding ∈ natives.held) :
    Loses natives holding (natives.discard holding.library) := by
  unfold discard
  cases source : natives.source with
  | standIn missing failures => exact loses_dropInstance (by rw [source]; rfl) holding
  | files handle codes descriptions => exact sound.loses_dropOpened member (by rw [source]; rfl)

theorem Sound.loses_unload (sound : natives.Sound) {holding : Holding}
    (member : holding ∈ natives.held) :
    Loses natives holding (natives.unload holding.library).1 := by
  unfold unload
  cases source : natives.source with
  | standIn missing failures =>
    have standIn : (natives.note (.noted .unload)).source.isStandIn = true := by
      show natives.source.isStandIn = true
      rw [source]
      rfl
    have loses := (loses_dropInstance standIn holding).of_note
    cases failure : failure? failures .unload with
    | none => simpa only [failure] using loses
    | some failed => simpa only [failure] using loses
  | files handle codes descriptions => exact sound.loses_dropOpened member (by rw [source]; rfl)

/-! ### Exchanges -/

theorem keeps_call (natives : Natives) (call : Native.Call) : Keeps natives (natives.call call).1 :=
  ⟨⟨rfl, rfl, rfl, rfl⟩, fun _ => rfl⟩

/-- How a machine's libraries answer a request, wherever library files are looked for. -/
def Answers (natives : Natives) : Exchange → Natives → Prop
  | ⟨.load name, reply⟩, next => ∃ setting, natives.load setting name = (next, reply)
  | ⟨.call _ call, reply⟩, next => natives.call call = (next, reply)
  | ⟨.unload library, reply⟩, next => natives.unload library = (next, reply)
  | ⟨.discard library, _⟩, next => next = natives.discard library
  | _, next => next = natives

end Natives

/-! ### A machine's answers -/

theorem natives_log (machine : Machine) (event : Log.Event) :
    (machine.log event).natives = machine.natives := by
  unfold Machine.log
  split
  · rfl
  · rfl

theorem natives_load (machine : Machine) (name : String) :
    machine.natives.load machine.librarySetting name =
      ((machine.load name).2.natives, (machine.load name).1) := by
  unfold Machine.load
  split
  · rename_i natives result loads
    rw [loads]
    split
    · rw [natives_log]
    · rfl

theorem natives_reserve (machine : Machine) (directory : Octets) (stem : String) :
    (machine.reserve directory stem).2.natives = machine.natives := by
  unfold Machine.reserve
  dsimp only
  split
  · rfl
  · split
    · rfl
    · rfl

theorem natives_spawn (machine : Machine) (program : Octets) (arguments : List Octets) :
    (machine.spawn program arguments).2.natives = machine.natives := by
  unfold Machine.spawn
  dsimp only
  split
  · rfl
  · rfl

theorem natives_runToEnd (machine : Machine) (program : Octets) (arguments : List Octets) :
    (machine.runToEnd program arguments).2.natives = machine.natives := by
  unfold Machine.runToEnd
  dsimp only
  split
  · rfl
  · rfl

/-- Nothing but what is asked of the libraries changes them. -/
theorem answers_answer (machine : Machine) (r : Request) :
    machine.natives.Answers ⟨r, (answer r machine).1⟩ (answer r machine).2.natives := by
  cases r with
  | log event => exact natives_log machine event
  | load name => exact ⟨machine.librarySetting, natives_load machine name⟩
  | call library call => exact rfl
  | unload library => exact rfl
  | discard library => exact rfl
  | reserve directory stem => exact natives_reserve machine directory stem
  | spawn program arguments => exact natives_spawn machine program arguments
  | runToEnd program arguments => exact natives_runToEnd machine program arguments
  | signal pid sent =>
    show (machine.signal pid sent).2.natives = machine.natives
    unfold Machine.signal
    split
    · rfl
    · rfl
  | wait pid =>
    show (machine.wait pid).2.natives = machine.natives
    unfold Machine.wait
    split
    · rfl
    · rfl
  | remove path =>
    show (machine.remove path).2.natives = machine.natives
    unfold Machine.remove
    split
    · rfl
    · rfl
  | pause seconds =>
    show (if seconds = 0 then machine else machine.later).natives = machine.natives
    split
    · rfl
    · rfl
  | _ => exact rfl

end HostEngine.Machine
