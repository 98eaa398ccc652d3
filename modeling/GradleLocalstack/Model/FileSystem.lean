import Mathlib.Data.List.Infix
import GradleLocalstack.Model.Jvm

/-!
# Files

A path is the list of the names from the root of the file system down.  A file system
says what lies at each path, and whatever lies somewhere lies in a directory.

A `File`, as the program handles it, is absolute or relative to the working directory of
the process, and its names may be `.` or `..`.  Which path it denotes is `File.resolve`;
there are no symbolic links.
-/

set_option autoImplicit false

namespace GradleLocalstack.Model

open Foundation

/-- The names from the root of the file system down. -/
abbrev Path : Type := List String

/-- What lies at a path. -/
inductive FileNode where
  | directory
  | file (content : String)
  deriving DecidableEq

/-- What lies at each path; the root is a directory, and what lies somewhere lies in one. -/
structure FileSystem where
  node : Path → Option FileNode
  root : node [] = some .directory
  parent : ∀ p name, node (p ++ [name]) ≠ none → node p = some .directory

namespace FileSystem

/-- Nothing but the root. -/
def blank : FileSystem where
  node p := if p = [] then some .directory else none
  root := rfl
  parent := by
    intro p name h
    simp at h

variable (fs : FileSystem)

/-- Something lies at `p`. -/
def contains (p : Path) : Bool := (fs.node p).isSome

/-- A directory lies at `p`. -/
def isDirectory (p : Path) : Bool := fs.node p = some .directory

/-- `listFiles` with a filter for the directories called `name`; `none` if there is nothing
to list. -/
def listDirectories (p : Path) (name : String) : Option (List Path) :=
  if fs.isDirectory p then
    some (if fs.isDirectory (p ++ [name]) then [p ++ [name]] else [])
  else none

/-- A file can be written at `p`: it is no directory, and nothing above it is a file. -/
def Writable (p : Path) : Prop :=
  fs.node p ≠ some .directory ∧
    ∀ q ∈ p.inits, q ≠ p → fs.node q = none ∨ fs.node q = some .directory

/-- The paths above `p` are finitely many. -/
instance (p : Path) : Decidable (fs.Writable p) :=
  inferInstanceAs (Decidable (_ ∧ _))

/-- The file system with a file at `p`, and with the directories above it. -/
def write (p : Path) (content : String) (h : fs.Writable p) : FileSystem where
  node q := if q = p then some (.file content) else if q <+: p then some .directory else fs.node q
  root := by
    have hne : ([] : Path) ≠ p := fun heq => h.1 (heq ▸ fs.root)
    simp [hne]
  parent := by
    intro q name hq
    have hshort : q ++ [name] ≠ q := by simp
    have hbelow : q <+: q ++ [name] := List.prefix_append q [name]
    by_cases hp : q = p
    · -- nothing lies below the new file
      exfalso
      have hlong : ¬ (q ++ [name]) <+: p := by
        intro hprefix
        have := hprefix.length_le
        rw [hp, List.length_append, List.length_singleton] at this
        omega
      have hnode : fs.node (q ++ [name]) ≠ none := by
        simpa [hp, hp ▸ hshort, hp ▸ hlong] using hq
      exact h.1 (hp ▸ fs.parent q name hnode)
    · rw [if_neg hp]
      by_cases hprefix : q <+: p
      · rw [if_pos hprefix]
      · rw [if_neg hprefix]
        have hne : q ++ [name] ≠ p := fun heq => hprefix (heq ▸ hbelow)
        have hnot : ¬ (q ++ [name]) <+: p := fun hpre => hprefix (hbelow.trans hpre)
        rw [if_neg hne, if_neg hnot] at hq
        exact fs.parent q name hq

variable {fs}

/-- What lies at a path when a file has been written. -/
theorem node_write {p : Path} {content : String} {h : fs.Writable p} (q : Path) :
    (fs.write p content h).node q =
      if q = p then some (.file content) else if q <+: p then some .directory else fs.node q :=
  rfl

/-- Writing a file makes a directory of everything above it, and of nothing else. -/
theorem isDirectory_write {p : Path} {content : String} {h : fs.Writable p} (q : Path) :
    (fs.write p content h).isDirectory q = true ↔
      q ≠ p ∧ (q <+: p ∨ fs.isDirectory q = true) := by
  unfold isDirectory
  rw [node_write]
  by_cases heq : q = p
  · simp [heq]
  · by_cases hprefix : q <+: p <;> simp [heq, hprefix]

/-- The file system with directories at `p` and everywhere above it. -/
def makeDirectories (fs : FileSystem) (p : Path) : FileSystem where
  node q := if q <+: p then some .directory else fs.node q
  root := if_pos List.nil_prefix
  parent := by
    intro q name hq
    have hbelow : q <+: q ++ [name] := List.prefix_append q [name]
    by_cases hprefix : q <+: p
    · exact if_pos hprefix
    · rw [if_neg hprefix]
      rw [if_neg fun hpre => hprefix (hbelow.trans hpre)] at hq
      exact fs.parent q name hq

/-- What lies at a path when directories have been made. -/
theorem node_makeDirectories {p : Path} (q : Path) :
    (fs.makeDirectories p).node q = if q <+: p then some .directory else fs.node q := rfl

/-- Above a place that can be written to nothing is lost when directories are made. -/
theorem Writable.makeDirectories_kept {p q : Path} {n : FileNode} (h : fs.Writable p)
    (directories : ℕ) (hq : fs.node q = some n) :
    (fs.makeDirectories (p.dropLast.take directories)).node q = some n := by
  rw [node_makeDirectories]
  split
  · rename_i hprefix
    have habove : q <+: p.dropLast := hprefix.trans (List.take_prefix _ _)
    have hne : q ≠ p := by
      rintro rfl
      have hlength := habove.length_le
      rw [List.length_dropLast] at hlength
      have hroot : q = [] := List.eq_nil_of_length_eq_zero (by omega)
      exact h.1 (hroot ▸ fs.root)
    have hmem : q ∈ p.inits := (List.mem_inits _ _).mpr (habove.trans (List.dropLast_prefix p))
    rcases h.2 q hmem hne with hnone | hdirectory
    · rw [hnone] at hq
      cases hq
    · rw [← hq, hdirectory]
  · exact hq

/-- The file system without the directory and what lies below it, but with the entries
`held` that the operating system does not give up, and the directories they lie in. -/
def deleteDirectory (fs : FileSystem) (dir : Path) (held : List Path) : FileSystem where
  node q := if q ≠ [] ∧ dir <+: q ∧ ¬ ∃ r ∈ held, q <+: r ∧ fs.contains r = true then none
    else fs.node q
  root := by simp [fs.root]
  parent := by
    intro q child hq
    have hbelow : q <+: q ++ [child] := List.prefix_append q [child]
    split at hq
    · exact absurd rfl hq
    · rename_i hkept
      -- a directory stays for the sake of what stays in it
      rw [if_neg, fs.parent q child hq]
      rintro ⟨-, hdir, hfree⟩
      refine hkept ⟨by simp, hdir.trans hbelow, ?_⟩
      rintro ⟨r, hr, hprefix, hcontains⟩
      exact hfree ⟨r, hr, hbelow.trans hprefix, hcontains⟩

/-- Nothing changes outside the directory. -/
theorem node_deleteDirectory {dir q : Path} (held : List Path) (h : ¬ dir <+: q) :
    (fs.deleteDirectory dir held).node q = fs.node q :=
  if_neg fun hgone => h hgone.2.1

end FileSystem

/-- `java.io.File`. -/
structure File where
  isAbsolute : Bool
  names : List String
  deriving DecidableEq

namespace File

/-- `Paths.get(s).toFile()`. -/
def ofString (s : String) : File where
  isAbsolute := s.toList.head? = some '/'
  names := ((s.toList.splitOn '/').filter (· ≠ [])).map String.ofList

/-- `new File(f, name)`. -/
def child (f : File) (name : String) : File := { f with names := f.names ++ [name] }

/-- `getParentFile`, of a file with a name. -/
def getParentFile (f : File) : File := { f with names := f.names.dropLast }

/-- `getAbsolutePath`, in a process whose working directory is `cwd`. -/
def getAbsolutePath (cwd : Path) (f : File) : File :=
  if f.isAbsolute then f else ⟨true, cwd ++ f.names⟩

/-- `getPath`. -/
def getPath (f : File) : String :=
  (if f.isAbsolute then "/" else "") ++ "/".intercalate f.names

/-- One name further: `.` stays, `..` goes up. -/
def descend (p : Path) (name : String) : Path :=
  if name = "." then p else if name = ".." then p.dropLast else p ++ [name]

/-- The path that the file denotes. -/
def resolve (cwd : Path) (f : File) : Path :=
  (f.getAbsolutePath cwd).names.foldl descend []

/-- The absolute file denotes the same path. -/
@[simp] theorem resolve_getAbsolutePath (cwd : Path) (f : File) :
    (f.getAbsolutePath cwd).resolve cwd = f.resolve cwd := by
  obtain ⟨isAbsolute, names⟩ := f
  cases isAbsolute <;> rfl

/-- A file in a directory lies one level below it. -/
theorem resolve_child (cwd : Path) (f : File) {name : String} (hdot : name ≠ ".")
    (hdots : name ≠ "..") : (f.child name).resolve cwd = f.resolve cwd ++ [name] := by
  obtain ⟨isAbsolute, names⟩ := f
  have hdescend : ∀ p, descend p name = p ++ [name] := by
    intro p
    unfold descend
    rw [if_neg hdot, if_neg hdots]
  cases isAbsolute with
  | true =>
    show (names ++ [name]).foldl descend [] = names.foldl descend [] ++ [name]
    rw [List.foldl_append, List.foldl_cons, List.foldl_nil, hdescend]
  | false =>
    show (cwd ++ (names ++ [name])).foldl descend [] = (cwd ++ names).foldl descend [] ++ [name]
    rw [← List.append_assoc, List.foldl_append, List.foldl_cons, List.foldl_nil, hdescend]

end File

end GradleLocalstack.Model
