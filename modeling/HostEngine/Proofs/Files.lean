import HostEngine.Machine.Lookup
/-!
# Names in a directory

A path that is joined from the name of a directory and the name of an entry means that entry of that
directory, whatever links lead to the directory. So creating or removing a file under such a path
changes this one entry and nothing else.
-/
set_option autoImplicit false

namespace HostEngine.Machine

/-! ### Entries at places -/

section

variable {κ β : Type} [BEq κ] [LawfulBEq κ] [DecidableEq κ] (entries : List (κ × β))

theorem lookup_filter_self (place : κ) :
    (entries.filter fun entry => entry.1 ≠ place).lookup place = none := by
  rw [List.lookup_eq_none_iff]
  intro entry member
  have differs : entry.1 ≠ place := of_decide_eq_true (List.mem_filter.mp member).2
  exact bne_iff_ne.mpr differs.symm

theorem lookup_filter_ne {place other : κ} (differs : other ≠ place) :
    (entries.filter fun entry => entry.1 ≠ place).lookup other = entries.lookup other := by
  induction entries with
  | nil => rfl
  | cons entry rest ih =>
    obtain ⟨key, value⟩ := entry
    by_cases same : key = place
    · subst same
      have passed : (other == key) = false := beq_false_of_ne differs
      rw [List.filter_cons_of_neg (by simp), ih, List.lookup_cons, passed]
    · rw [List.filter_cons_of_pos (by simpa using same), List.lookup_cons, List.lookup_cons, ih]

end

namespace Files

variable {files : Files} {place other : Path}

theorem entry?_erase_of_ne (differs : other ≠ place) :
    entry? (files.erase place) other = files.entry? other := by
  unfold entry?
  by_cases root : other = []
  · rw [if_pos root, if_pos root]
  · rw [if_neg root, if_neg root]
    exact lookup_filter_ne files.entries differs

theorem entry?_put_of_ne (entry : Entry) (differs : other ≠ place) :
    entry? (files.put place entry) other = files.entry? other := by
  have erased : entry? (files.erase place) other = files.entry? other := entry?_erase_of_ne differs
  rw [← erased]
  unfold entry?
  by_cases root : other = []
  · rw [if_pos root, if_pos root]
  · have passed : (other == place) = false := beq_false_of_ne differs
    rw [if_neg root, if_neg root, put, List.lookup_append, List.lookup_cons, passed]
    simp

end Files

/-! ### Paths in a directory -/

/-- The name of an entry of a directory: one part, which leads neither to the same directory nor to
the one above. -/
structure IsEntryName (name : Octets) : Prop where
  nonempty : name ≠ []
  notSame : name ≠ [dot]
  notAbove : name ≠ [dot, dot]
  single : slash ∉ name

theorem IsEntryName.relative {name : Octets} (entry : IsEntryName name) :
    isAbsolute name = false := by
  cases name with
  | nil => rfl
  | cons octet rest =>
    have differs : octet ≠ slash := by
      rintro rfl
      exact entry.single List.mem_cons_self
    simpa [isAbsolute] using differs

theorem isAbsolute_of_name? {directory : Directory} {working : Octets}
    (works : directory.name? = some working) : isAbsolute working = true := by
  unfold Directory.name? at works
  split at works
  · cases works
  · cases works
    cases directory.place with
    | nil => rfl
    | cons name rest => simp [Path.name, isAbsolute]

namespace Lookup

variable {base name : Octets}

theorem parts_of_isAbsolute (absolute : isAbsolute base = true) :
    parts base = [slash] :: (base.splitOn slash).filter fun part => part ≠ [] && part ≠ [dot] := by
  cases base with
  | nil => cases absolute
  | cons octet rest =>
    obtain rfl : octet = slash := by simpa [isAbsolute] using absolute
    have split : (slash :: rest).splitOn slash = [] :: rest.splitOn slash :=
      List.splitOn_append_cons_self [] rest
    unfold parts
    rw [split]
    simp [List.splitOn_ne_nil]

theorem isAbsolute_append (absolute : isAbsolute base = true) (more : Octets) :
    isAbsolute (base ++ more) = true := by
  cases base with
  | nil => cases absolute
  | cons octet rest => exact absolute

/-- A relative name is put behind a directory's name, which it does not replace. -/
theorem join_eq (absolute : isAbsolute base = true) (relative : isAbsolute name = false) :
    join base name =
      if base.getLast? = some slash then base ++ name else base ++ slash :: name := by
  have started : base ≠ [] := by
    rintro rfl
    cases absolute
  unfold join
  rw [relative, Bool.false_or, if_neg (by simpa using started)]

theorem isAbsolute_join (absolute : isAbsolute base = true) (relative : isAbsolute name = false) :
    isAbsolute (join base name) = true := by
  rw [join_eq absolute relative]
  split
  · exact isAbsolute_append absolute name
  · exact isAbsolute_append absolute _

theorem length_le_length_join (absolute : isAbsolute base = true)
    (relative : isAbsolute name = false) : base.length ≤ (join base name).length := by
  rw [join_eq absolute relative]
  split
  · simp
  · simp

/-- Joining adds the name behind the parts of the directory's name, but for an empty one at the
end. -/
theorem splitOn_join (absolute : isAbsolute base = true) (entry : IsEntryName name) :
    ∃ first last, (∀ part ∈ last, part = []) ∧ base.splitOn slash = first ++ last ∧
      (join base name).splitOn slash = first ++ [name] := by
  have whole : name.splitOn slash = [name] := List.splitOn_eq_singleton entry.single
  rw [join_eq absolute entry.relative]
  by_cases closed : base.getLast? = some slash
  · obtain ⟨before, rfl⟩ := List.getLast?_eq_some_iff.mp closed
    rw [if_pos closed, List.append_assoc, List.singleton_append, List.splitOn_append_cons_self,
      List.splitOn_append_cons_self, whole]
    exact ⟨before.splitOn slash, [[]], by simp, rfl, rfl⟩
  · rw [if_neg closed, List.splitOn_append_cons_self, whole]
    exact ⟨base.splitOn slash, [], by simp, by simp, rfl⟩

theorem parts_join (absolute : isAbsolute base = true) (entry : IsEntryName name) :
    parts (join base name) = parts base ++ [name] := by
  obtain ⟨first, last, blank, split, splitJoined⟩ := splitOn_join absolute entry
  have dropped : last.filter (fun part => part ≠ [] && part ≠ [dot]) = [] := by
    rw [List.filter_eq_nil_iff]
    intro part member
    simp [blank part member]
  have kept : [name].filter (fun part => part ≠ [] && part ≠ [dot]) = [name] := by
    simp [entry.nonempty, entry.notSame]
  rw [parts_of_isAbsolute (isAbsolute_join absolute entry.relative),
    parts_of_isAbsolute absolute, split, splitJoined, List.filter_append, List.filter_append,
    dropped, kept, List.append_nil, List.cons_append]

end Lookup

/-! ### Walks -/

namespace Files

variable {files : Files} {links : Nat} {start place : Path} {name part : Octets}
  {first rest last : List Octets} {found : Option Entry}

/-- A walk past one name goes on from where that leads, whatever comes after it. -/
theorem walk_step (further : ∃ other ∈ rest, other ≠ [])
    (walked : files.walk false links start (part :: rest) = .ok (place, found)) :
    ∃ links' start' more, (links' < links ∨ links' = links ∧ more = []) ∧
      ∀ follow names, follow = true ∨ names ≠ [] →
        files.walk follow links start (part :: names) =
          files.walk follow links' start' (more ++ names) := by
  rw [walk] at walked
  cases here : files.entry? start with
  | none => simp [here] at walked
  | some entry =>
    by_cases inside : entry = .directory
    case neg => simp [here] at walked
    subst inside
    by_cases same : part = [] ∨ part = [dot]
    · refine ⟨links, start, [], .inr ⟨rfl, rfl⟩, fun follow names _ => ?_⟩
      rw [walk, here]
      simp [same]
    by_cases above : part = [dot, dot]
    · refine ⟨links, start.dropLast, [], .inr ⟨rfl, rfl⟩, fun follow names _ => ?_⟩
      rw [walk, here]
      simp [above]
    by_cases long : 255 < part.length
    · simp [here, same, above, long] at walked
    cases there : files.entry? (start ++ [part]) with
    | none =>
      obtain ⟨other, member, nonempty⟩ := further
      have goesOn : ¬∀ x ∈ rest, x = [] := fun all => nonempty (all other member)
      simp [here, same, above, long, there, goesOn] at walked
    | some entry =>
      cases entry with
      | link target =>
        have more : rest ≠ [] := by
          rintro rfl
          simp at further
        cases links with
        | zero => simp [here, same, above, long, there, more] at walked
        | succ links =>
          refine ⟨links, if isAbsolute target then [] else start, target.splitOn slash,
            .inl (Nat.lt_succ_self links), fun follow names goesOn => ?_⟩
          have followed : (decide (names = []) && !follow) = false := by
            rcases goesOn with rfl | nonempty
            · simp
            · simp [nonempty]
          rw [walk, here]
          simp [same, above, long, there, followed]
      | _ =>
        refine ⟨links, start ++ [part], [], .inr ⟨rfl, rfl⟩, fun follow names _ => ?_⟩
        rw [walk, here]
        simp [same, above, long, there]

theorem walk_blank (inside : files.entry? start = some .directory) {follow : Bool}
    (blank : ∀ part ∈ last, part = []) :
    files.walk follow links start last = .ok (start, some .directory) := by
  induction last with
  | nil => rw [walk, inside]
  | cons part rest ih =>
    obtain ⟨rfl, blankRest⟩ := List.forall_mem_cons.mp blank
    rw [walk, inside]
    simpa using ih blankRest

theorem walk_name (entry : IsEntryName name)
    (walked : files.walk false links start [name] = .ok (place, found)) :
    files.entry? start = some .directory ∧ place = start ++ [name] := by
  rw [walk] at walked
  cases here : files.entry? start with
  | none => simp [here] at walked
  | some inside =>
    by_cases same : inside = .directory
    case neg => simp [here] at walked
    subst same
    by_cases long : 255 < name.length
    · simp [here, entry.nonempty, entry.notSame, entry.notAbove, long] at walked
    simp only [here, entry.nonempty, entry.notSame, entry.notAbove, long] at walked
    refine ⟨rfl, ?_⟩
    cases there : files.entry? (start ++ [name]) with
    | none =>
      simp [there] at walked
      exact walked.1.symm
    | some entry =>
      cases entry with
      | link target =>
        simp [there] at walked
        exact walked.1.symm
      | _ =>
        simp [there, walk] at walked
        exact walked.1.symm

/-- Walking to an entry without following it leads through the directory of the entry, which a walk
along the names before it ends at. -/
theorem walk_append (entry : IsEntryName name) (blank : ∀ part ∈ last, part = [])
    (walked : files.walk false links start (first ++ [name]) = .ok (place, found)) :
    ∃ home, files.walk true links start (first ++ last) = .ok (home, some .directory) ∧
      place = home ++ [name] := by
  -- A link that is followed puts names in front, so the number of links left decides first.
  induction links using Nat.strongRecOn generalizing start first with
  | _ links fewer =>
    induction first generalizing start with
    | nil =>
      obtain ⟨inside, rfl⟩ := walk_name entry walked
      exact ⟨start, walk_blank inside blank, rfl⟩
    | cons part rest ih =>
      have further : ∃ other ∈ rest ++ [name], other ≠ [] := ⟨name, by simp, entry.nonempty⟩
      obtain ⟨links', start', more, shorter, steps⟩ := walk_step further walked
      have went := steps false (rest ++ [name]) (.inr (by simp))
      have goes := steps true (rest ++ last) (.inl rfl)
      rw [List.cons_append, went] at walked
      rw [List.cons_append, goes]
      rcases shorter with less | ⟨rfl, rfl⟩
      · rw [← List.append_assoc] at walked ⊢
        exact fewer links' less walked
      · exact ih walked

/-! ### Files in a directory -/

section

variable {directory : Directory} {base : Octets} {after : Files}

theorem exists_find_of_locate (absolute : isAbsolute base = true) (entry : IsEntryName name)
    (located : files.locate false directory (Lookup.join base name) = .ok (place, found)) :
    ∃ home, files.find directory base = .ok (home, .directory) ∧ place = home ++ [name] := by
  obtain ⟨first, last, blank, split, splitJoined⟩ := Lookup.splitOn_join absolute entry
  have joined := Lookup.isAbsolute_join absolute entry.relative
  have started : base ≠ [] := by
    rintro rfl
    cases absolute
  have startedJoined : Lookup.join base name ≠ [] := by
    intro empty
    rw [empty] at joined
    cases joined
  have shorter := Lookup.length_le_length_join absolute entry.relative
  unfold locate at located
  by_cases long : 4096 ≤ (Lookup.join base name).length
  · rw [if_neg startedJoined, if_pos long] at located
    cases located
  · rw [if_neg startedJoined, if_neg long, if_pos joined, splitJoined] at located
    obtain ⟨home, walked, rfl⟩ := walk_append entry blank located
    refine ⟨home, ?_, rfl⟩
    have short : ¬4096 ≤ base.length := by omega
    rw [find, locate, if_neg started, if_neg short, if_pos absolute, split, walked]

/-- The files are the same but for the entry of a directory that has a name. -/
def SameBut (files after : Files) (directory : Directory) (base name : Octets) : Prop :=
  ∃ home, files.find directory base = .ok (home, .directory) ∧
    ∀ other, other ≠ home ++ [name] → after.entry? other = files.entry? other

/-- A path that means the entry with a name in a directory. -/
structure NamesEntry (base name path : Octets) : Prop where
  entry : IsEntryName name
  /-- The directory's name is the path's parent, and the entry's name is the rest of it. -/
  parts : Lookup.parts path = Lookup.parts base ++ [name]
  creates : ∀ (files : Files) directory after place,
    files.create directory path = .ok (after, place) → files.SameBut after directory base name
  removes : ∀ (files : Files) directory after,
    files.unlink directory path = .ok after → files.SameBut after directory base name

theorem namesEntry_join (absolute : isAbsolute base = true) (entry : IsEntryName name) :
    NamesEntry base name (Lookup.join base name) where
  entry := entry
  parts := Lookup.parts_join absolute entry
  creates files directory after place created := by
    unfold create at created
    split at created
    · cases created
    · cases created
    · rename_i located
      cases created
      obtain ⟨home, found, rfl⟩ := exists_find_of_locate absolute entry located
      exact ⟨home, found, fun other differs => entry?_put_of_ne _ differs⟩
  removes files directory after removed := by
    unfold unlink at removed
    split at removed
    · cases removed
    · cases removed
    · cases removed
    · rename_i located
      cases removed
      obtain ⟨home, found, rfl⟩ := exists_find_of_locate absolute entry located
      exact ⟨home, found, fun other differs => entry?_erase_of_ne differs⟩

end

end Files

end HostEngine.Machine
