import HostEngine.Proofs.Crowd
import Mathlib.Data.Finset.Basic
/-!
# A host

What the surroundings hold besides processes: the libraries that are loaded, and the names of files.
Loading gives a library of its own, and closing it takes it away whatever is reported. Reserving
makes a new name. Only the processes of a host drift.
-/
set_option autoImplicit false

namespace HostEngine

structure Host where
  live : Finset Native.Library
  entries : Finset Octets
  crowd : Crowd

namespace Host

def LibraryAnswers (live : Finset Native.Library) : Exchange → Finset Native.Library → Prop
  | ⟨.load _, .ok library⟩, next => library ∉ live ∧ next = insert library live
  | ⟨.unload library, _⟩, next => next = live.erase library
  | ⟨.discard library, _⟩, next => next = live.erase library
  | _, next => next = live

/-- How the names of files change. Those that are obliging do not keep a name that is to be
removed. -/
def EntryAnswers (obliging : Prop) (entries : Finset Octets) : Exchange → Finset Octets → Prop
  | ⟨.reserve _ _, .ok path⟩, next => path ∉ entries ∧ next = insert path entries
  | ⟨.remove path, .ok _⟩, next => path ∈ entries ∧ next = entries.erase path
  | ⟨.remove path, .error _⟩, next => (obliging → path ∉ entries) ∧ next = entries
  | _, next => next = entries

def libraries : Surroundings (Finset Native.Library) where
  answers _ := LibraryAnswers
  drifts _ _ := False

def files (obliging : Prop) : Surroundings (Finset Octets) where
  answers _ := EntryAnswers obliging
  drifts _ _ := False

/-- A host as surroundings. Whatever else a request asks for may be answered in any way. -/
def surroundings (obliging : Prop) : Surroundings Host where
  answers caller host exchange next :=
    LibraryAnswers host.live exchange next.live ∧
    EntryAnswers obliging host.entries exchange next.entries ∧
    Crowd.Answers obliging caller host.crowd exchange next.crowd
  drifts host next :=
    next.live = host.live ∧ next.entries = host.entries ∧ Crowd.Drift host.crowd next.crowd

variable {obliging : Prop} {caller : Nat} {before after : Host} {trace : List Exchange}

theorem along_libraries (along : (surroundings obliging).Along caller before trace after) :
    libraries.Along caller before.live trace after.live := by
  apply along.map (f := live)
  · rintro caller host exchange next ⟨answer, -, -⟩
    exact answer
  · rintro host next ⟨same, -, -⟩
    rw [same]

theorem along_files (along : (surroundings obliging).Along caller before trace after) :
    (files obliging).Along caller before.entries trace after.entries := by
  apply along.map (f := entries)
  · rintro caller host exchange next ⟨-, answer, -⟩
    exact answer
  · rintro host next ⟨-, same, -⟩
    rw [same]

theorem along_crowd (along : (surroundings obliging).Along caller before trace after) :
    (Crowd.surroundings obliging).Along caller before.crowd trace after.crowd := by
  apply along.map (f := crowd)
  · rintro caller host exchange next ⟨-, -, answer⟩
    exact answer
  · rintro host next ⟨-, -, drift⟩
    exact .single drift

theorem steady_libraries : libraries.Steady := fun _ _ => id

theorem steady_files : (files obliging).Steady := fun _ _ => id

theorem quiet_surroundings (obliging : Prop) : (surroundings obliging).Quiet := by
  rintro caller host ⟨request, reply⟩ next silent
  cases request with
  | log event =>
    constructor
    · rintro ⟨sameLive, sameEntries, sameCrowd⟩
      obtain ⟨live, entries, crowd⟩ := next
      cases sameLive
      cases sameEntries
      cases sameCrowd
      rfl
    · rintro rfl
      exact ⟨rfl, rfl, rfl⟩
  | _ => cases silent

end Host

end HostEngine
