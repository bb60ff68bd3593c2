import TtMetricsExporter.PyText
/-!
# Posix — a file tree and the calls that walk it

Directories, regular files with a link count, symbolic links and special files, under one root.  A path walk descends
by `/`-separated components: `.` and the empty component stay, `..` climbs, an intermediate link is followed, at most
forty of them.  A directory that was opened is its path from the root, with no link on the way.  Every call that can be
refused carries its refusal in the node, so a tree may be unreadable at any place.

`Node.mask` is what can be seen of a tree when it is entered only through its directories: every link, every hard-linked
file and every special file becomes a marker of its kind, with what `open` refuses of the latter two.
-/
namespace Posix

open Py (Str splitOn)

inductive Errno where
  | ENOENT | ENOTDIR | EACCES | EPERM | ELOOP | ENXIO | EIO | EINVAL
  | other (code : Nat)
  deriving DecidableEq, Repr

inductive SpecialKind where
  | fifo | socket | characterDevice | blockDevice
  deriving DecidableEq, Repr

/-- A regular file: what `open` refuses with, `st_nlink` and `st_size`, and what reading it to its end gives. -/
structure Regular where
  openError : Option Errno
  links : Nat
  size : Nat
  content : Except Errno ByteArray

/-- What opening a directory, looking a name up in it and listing it are refused with. -/
structure Access where
  openError : Option Errno
  searchError : Option Errno
  listError : Option Errno
  deriving DecidableEq, Repr

def Access.free : Access := ⟨none, none, none⟩

inductive Node where
  | directory (access : Access) (entries : List (Str × Node))
  | regular (file : Regular)
  | symlink (target : Str)
  | special (kind : SpecialKind) (openError : Option Errno)

/-- The names from the root to a node. -/
abbrev Path := List Str

/-- A regular file with one link, and a directory, neither refusing anything. -/
def Node.file (text : String) : Node :=
  .regular ⟨none, 1, text.toByteArray.size, .ok text.toByteArray⟩
def Node.folder (entries : List (String × Node)) : Node :=
  .directory .free (entries.map (fun e => (e.1.toList, e.2)))

def Node.isDirectory : Node → Bool
  | .directory _ _ => true
  | _ => false

/-- The node a path leads to through directories alone. -/
def Node.at : Node → Path → Option Node
  | n, [] => some n
  | .directory _ entries, c :: rest => (entries.lookup c).bind (·.at rest)
  | _, _ :: _ => none

/-! ## Walking -/

section Walk
variable (root : Node) (followLast : Bool)

/-- One walk up to its first followed link; `follow` walks on from there. -/
def walkWith (follow : Path → List Str → Except Errno Path) : Path → List Str → Except Errno Path
  | here, [] => .ok here
  | here, c :: rest =>
    match root.at here with
    | some (.directory access entries) =>
      if c = [] ∨ c = ['.'] then walkWith follow here rest
      else if c = ['.', '.'] then walkWith follow here.dropLast rest
      else match access.searchError, entries.lookup c with
        | some e, _ => .error e
        | none, none => .error .ENOENT
        | none, some (.symlink target) =>
          if rest = [] ∧ followLast = false then .ok (here ++ [c])
          else follow (if target.head? = some '/' then [] else here) (splitOn '/' target ++ rest)
        | none, some _ => walkWith follow (here ++ [c]) rest
    | some _ => .error .ENOTDIR
    | none => .error .ENOENT

/-- A walk that follows at most `links` links less one. -/
def walk : Nat → Path → List Str → Except Errno Path
  | 0 => fun _ _ => .error .ELOOP
  | links + 1 => walkWith root followLast (walk links)

/-- The kernel's limit of forty links. -/
def maxLinks : Nat := 40

/-- A pathname resolved from a directory: an absolute one starts at the root. -/
def resolve (here : Path) (name : Str) : Except Errno Path :=
  if name = [] then .error .ENOENT
  else walk root followLast (maxLinks + 1) (if name.head? = some '/' then [] else here) (splitOn '/' name)

end Walk

/-! ## Calls -/

/-- `O_RDONLY | O_NOFOLLOW` on what a walk ended at, with `O_DIRECTORY` where asked. -/
def openNode (node : Node) (directoryOnly : Bool) : Except Errno Unit :=
  match node with
  | .directory access _ => match access.openError with
    | some e => .error e
    | none => .ok ()
  | .regular file =>
    if directoryOnly then .error .ENOTDIR
    else match file.openError with
      | some e => .error e
      | none => .ok ()
  | .symlink _ => .error (if directoryOnly then .ENOTDIR else .ELOOP)
  | .special _ openError =>
    if directoryOnly then .error .ENOTDIR
    else match openError with
      | some e => .error e
      | none => .ok ()

def openResolved (root : Node) (directoryOnly : Bool) (path : Path) : Except Errno Path :=
  match root.at path with
  | none => .error .ENOENT
  | some node => (openNode node directoryOnly).map (fun _ => path)

/-- `openat(here, name, O_RDONLY | O_NOFOLLOW)`, with `O_DIRECTORY` where asked. -/
def openat (root : Node) (here : Path) (name : Str) (directoryOnly : Bool) : Except Errno Path :=
  (resolve root false here name).bind (openResolved root directoryOnly)

/-- `open` of an absolute path given by its names, with the same flags. -/
def openPath (root : Node) (path : Path) (directoryOnly : Bool) : Except Errno Path :=
  (walk root false (maxLinks + 1) [] path).bind (openResolved root directoryOnly)

/-- `listdir` of an opened directory. -/
def listdir (root : Node) (path : Path) : Except Errno (List Str) :=
  match root.at path with
  | some (.directory access entries) => match access.listError with
    | some e => .error e
    | none => .ok (entries.map Prod.fst)
  | some _ => .error .ENOTDIR
  | none => .error .ENOENT

/-- `stat` of an absolute path: the node behind every link. -/
def stat (root : Node) (path : Path) : Except Errno Node :=
  (walk root true (maxLinks + 1) [] path).bind (fun path =>
    match root.at path with
    | some n => .ok n
    | none => .error .ENOENT)

/-- `readlink` of an absolute path. -/
def readlink (root : Node) (path : Path) : Except Errno Str :=
  (walk root false (maxLinks + 1) [] path).bind (fun path =>
    match root.at path with
    | some (.symlink target) => .ok target
    | some _ => .error .EINVAL
    | none => .error .ENOENT)

/-- `listdir` of an absolute path, behind every link. -/
def listPath (root : Node) (path : Path) : Except Errno (List Str) :=
  (walk root true (maxLinks + 1) [] path).bind (fun path =>
    (openResolved root true path).bind (listdir root))

/-- `scandir` of an absolute path: its entries, each with what the listing itself tells of it. -/
def scandir (root : Node) (path : Path) : Except Errno (List (Str × Node)) :=
  (walk root true (maxLinks + 1) [] path).bind (fun path =>
    (openResolved root true path).bind (fun path =>
      match root.at path with
      | some (.directory access entries) => match access.listError with
        | some e => .error e
        | none => .ok entries
      | _ => .error .ENOTDIR))

/-! ## Directory entries -/

def ValidName (name : Str) : Prop :=
  name ≠ [] ∧ name ≠ ['.'] ∧ name ≠ ['.', '.'] ∧ '/' ∉ name ∧ '\x00' ∉ name

instance (name : Str) : Decidable (ValidName name) := inferInstanceAs (Decidable (_ ∧ _))

mutual
/-- Every directory's entry names are names a directory can hold, each once. -/
def Node.WellFormed : Node → Prop
  | .directory _ entries => (entries.map Prod.fst).Nodup ∧ (∀ e ∈ entries.map Prod.fst, ValidName e) ∧ entriesWellFormed entries
  | .regular _ => True
  | .symlink _ => True
  | .special _ _ => True
def entriesWellFormed : List (Str × Node) → Prop
  | [] => True
  | (_, n) :: rest => n.WellFormed ∧ entriesWellFormed rest
end

theorem wellFormed_of_lookup {c : Str} {n : Node} : ∀ {entries : List (Str × Node)}, entriesWellFormed entries →
    entries.lookup c = some n → n.WellFormed
  | [], _, h => by cases h
  | (name, m) :: rest, hw, h => by
    rw [entriesWellFormed] at hw
    rw [List.lookup_cons] at h
    cases hc : c == name with
    | true =>
      rw [hc] at h
      cases h
      exact hw.1
    | false =>
      rw [hc] at h
      exact wellFormed_of_lookup hw.2 h

theorem wellFormed_at : ∀ {p : Path} {n m : Node}, n.WellFormed → n.at p = some m → m.WellFormed
  | [], n, m, hw, h => by
    simp only [Node.at, Option.some.injEq] at h
    exact h ▸ hw
  | c :: p, n, m, hw, h => by
    cases n with
    | directory access entries =>
      simp only [Node.at, Option.bind_eq_some_iff] at h
      obtain ⟨k, hk, h⟩ := h
      rw [Node.WellFormed] at hw
      exact wellFormed_at (wellFormed_of_lookup hw.2.2 hk) h
    | _ => cases h

/-- Names that one directory can hold. -/
def DirectoryNames (names : List Str) : Prop := names.Nodup ∧ ∀ n ∈ names, ValidName n

/-- What is listed is a directory. -/
theorem directory_of_listdir {root : Node} {p : Path} {names : List Str} (h : listdir root p = .ok names) :
    ∃ access entries, root.at p = some (.directory access entries) ∧ names = entries.map Prod.fst := by
  rw [listdir] at h
  cases hn : root.at p with
  | none => rw [hn] at h; cases h
  | some n =>
    rw [hn] at h
    cases n with
    | directory access entries =>
      simp only at h
      cases hl : access.listError with
      | some e => rw [hl] at h; cases h
      | none =>
        rw [hl] at h
        cases h
        exact ⟨access, entries, rfl, rfl⟩
    | _ => cases h

/-- **A well-formed directory lists names it can hold, each once.** -/
theorem names_listdir {root : Node} (hw : root.WellFormed) {p : Path} {names : List Str}
    (h : listdir root p = .ok names) : DirectoryNames names := by
  obtain ⟨access, entries, ha, rfl⟩ := directory_of_listdir h
  have hwn := wellFormed_at hw ha
  rw [Node.WellFormed] at hwn
  exact ⟨hwn.1, hwn.2.1⟩

theorem ok_of_bind {ε α β : Type} {x : Except ε α} {f : α → Except ε β} {b : β} (h : x.bind f = .ok b) :
    ∃ a, x = .ok a ∧ f a = .ok b := by
  cases x with
  | error e => cases h
  | ok a => exact ⟨a, rfl, h⟩

theorem names_listPath {root : Node} (hw : root.WellFormed) {p : Path} {names : List Str}
    (h : listPath root p = .ok names) : DirectoryNames names := by
  obtain ⟨q, -, h⟩ := ok_of_bind h
  obtain ⟨q', -, h⟩ := ok_of_bind h
  exact names_listdir hw h

theorem names_scandir {root : Node} (hw : root.WellFormed) {p : Path} {entries : List (Str × Node)}
    (h : scandir root p = .ok entries) : DirectoryNames (entries.map Prod.fst) := by
  obtain ⟨q, -, h⟩ := ok_of_bind h
  obtain ⟨q', -, h⟩ := ok_of_bind h
  cases hn : root.at q' with
  | none => rw [hn] at h; cases h
  | some n =>
    have hwn := wellFormed_at hw hn
    rw [hn] at h
    cases n with
    | directory access entries =>
      rw [Node.WellFormed] at hwn
      simp only at h
      cases hl : access.listError with
      | some e => rw [hl] at h; cases h
      | none =>
        rw [hl] at h
        cases h
        exact ⟨hwn.1, hwn.2.1⟩
    | _ => cases h

/-! ## What is seen through directories alone -/

inductive View where
  | directory (access : Access) (entries : List (Str × View))
  | regular (file : Regular)
  | symlink
  | hardLinked (openError : Option Errno)
  | special (kind : SpecialKind) (openError : Option Errno)

mutual
/-- A node with every link, hard-linked file and special file replaced by a marker of its kind; that of a hard-linked or
special file says how `open` refuses it, too. -/
def Node.mask : Node → View
  | .directory access entries => .directory access (maskEntries entries)
  | .regular file => if file.links = 1 then .regular file else .hardLinked file.openError
  | .symlink _ => .symlink
  | .special kind openError => .special kind openError
def maskEntries : List (Str × Node) → List (Str × View)
  | [] => []
  | (name, n) :: rest => (name, n.mask) :: maskEntries rest
end

@[simp] theorem maskEntries_names : ∀ (entries : List (Str × Node)),
    (maskEntries entries).map Prod.fst = entries.map Prod.fst
  | [] => rfl
  | (name, n) :: rest => by simp [maskEntries, maskEntries_names rest]

theorem lookup_maskEntries (c : Str) : ∀ (entries : List (Str × Node)),
    (maskEntries entries).lookup c = (entries.lookup c).map Node.mask
  | [] => rfl
  | (name, n) :: rest => by
    rw [maskEntries, List.lookup_cons, List.lookup_cons]
    cases c == name with
    | true => rfl
    | false => exact lookup_maskEntries c rest

/-- **Masked alike, looked up alike.** -/
theorem lookup_mask_congr {es₁ es₂ : List (Str × Node)} (h : maskEntries es₁ = maskEntries es₂) (c : Str) :
    (es₁.lookup c).map Node.mask = (es₂.lookup c).map Node.mask := by
  rw [← lookup_maskEntries, ← lookup_maskEntries, h]

/-! ## One component -/

/-- A component that neither stays nor climbs nor walks on. -/
def Plain (c : Str) : Prop := c ≠ [] ∧ c ≠ ['.'] ∧ c ≠ ['.', '.'] ∧ '/' ∉ c

theorem splitOn_of_not_mem {sep : Char} : ∀ {s : Str}, sep ∉ s → splitOn sep s = [s]
  | [], _ => rfl
  | c :: rest, h => by
    have hc : c ≠ sep := fun he => h (by simp [he])
    have hr : sep ∉ rest := fun hm => h (by simp [hm])
    rw [splitOn, if_neg hc, splitOn_of_not_mem hr]

/-- What opening an entry of a node is refused with. -/
def openEntry (node : Option Node) (c : Str) (directoryOnly : Bool) : Except Errno Unit :=
  match node with
  | none => .error .ENOENT
  | some (.directory access entries) => match access.searchError with
    | some e => .error e
    | none => match entries.lookup c with
      | none => .error .ENOENT
      | some entry => openNode entry directoryOnly
  | some _ => .error .ENOTDIR

theorem at_append (n : Node) : ∀ (p q : Path), n.at (p ++ q) = (n.at p).bind (·.at q)
  | [], q => by simp [Node.at]
  | c :: p, q => by
    cases n with
    | directory access entries =>
      simp only [List.cons_append, Node.at]
      cases entries.lookup c with
      | none => rfl
      | some m => exact at_append m p q
    | _ => rfl

theorem at_child {root : Node} {here : Path} {access : Access} {entries : List (Str × Node)}
    (hd : root.at here = some (.directory access entries)) (c : Str) :
    root.at (here ++ [c]) = entries.lookup c := by
  rw [at_append, hd]
  simp only [Option.bind_some, Node.at]
  cases entries.lookup c <;> rfl

/-- **A plain component names an entry of the directory it is looked up in, and nothing else.** -/
theorem openat_plain (root : Node) (here : Path) {c : Str} (hc : Plain c) (directoryOnly : Bool) :
    openat root here c directoryOnly =
      (openEntry (root.at here) c directoryOnly).map (fun _ => here ++ [c]) := by
  obtain ⟨h0, h1, h2, h3⟩ := hc
  have hh : c.head? ≠ some '/' := fun h => h3 (List.mem_of_mem_head? (by simp [h]))
  rw [openat, resolve, if_neg h0, if_neg hh, splitOn_of_not_mem h3]
  simp only [walk, walkWith, openEntry]
  cases hd : root.at here with
  | none => rfl
  | some n =>
    cases n with
    | regular file => rfl
    | symlink target => rfl
    | special kind openError => rfl
    | directory access entries =>
      simp only
      rw [if_neg (by simp [h0, h1]), if_neg h2]
      cases access.searchError with
      | some e => rfl
      | none =>
        have hat := at_child hd c
        cases hl : entries.lookup c with
        | none => rfl
        | some entry =>
          rw [hl] at hat
          cases entry <;> simp [Except.bind, openResolved, hat]

/-! ## Trees that look alike below a path -/

/-- Two trees that cannot be told apart below a path when it is entered only through directories. -/
def Agree (r₁ r₂ : Node) (p : Path) : Prop := (r₁.at p).map Node.mask = (r₂.at p).map Node.mask

theorem Agree.of_eq {r₁ r₂ : Node} {p : Path} (h : r₁.at p = r₂.at p) : Agree r₁ r₂ p := by rw [Agree, h]

/-- Two nodes with one mask, case by case. -/
inductive Alike : Node → Node → Prop where
  | directory (access : Access) {es₁ es₂ : List (Str × Node)} (h : maskEntries es₁ = maskEntries es₂) :
    Alike (.directory access es₁) (.directory access es₂)
  | regular (file : Regular) : Alike (.regular file) (.regular file)
  | hardLinked {f₁ f₂ : Regular} (h₁ : f₁.links ≠ 1) (h₂ : f₂.links ≠ 1) (h : f₁.openError = f₂.openError) :
    Alike (.regular f₁) (.regular f₂)
  | symlink (t₁ t₂ : Str) : Alike (.symlink t₁) (.symlink t₂)
  | special (kind : SpecialKind) (openError : Option Errno) : Alike (.special kind openError) (.special kind openError)

theorem alike_of_mask {n₁ n₂ : Node} (h : n₁.mask = n₂.mask) : Alike n₁ n₂ := by
  cases n₁ with
  | directory a₁ es₁ =>
    cases n₂ with
    | directory a₂ es₂ =>
      simp only [Node.mask, View.directory.injEq] at h
      obtain ⟨rfl, h⟩ := h
      exact .directory a₁ h
    | regular f₂ => simp only [Node.mask] at h; split at h <;> cases h
    | symlink t₂ => simp [Node.mask] at h
    | special k₂ e₂ => simp [Node.mask] at h
  | regular f₁ =>
    cases n₂ with
    | regular f₂ =>
      simp only [Node.mask] at h
      by_cases h₁ : f₁.links = 1
      · by_cases h₂ : f₂.links = 1
        · simp only [h₁, h₂, if_true, View.regular.injEq] at h
          subst h
          exact .regular f₁
        · simp [h₁, h₂] at h
      · by_cases h₂ : f₂.links = 1
        · simp [h₁, h₂] at h
        · simp only [h₁, h₂, if_false, View.hardLinked.injEq] at h
          exact .hardLinked h₁ h₂ h
    | directory a₂ es₂ => simp only [Node.mask] at h; split at h <;> cases h
    | symlink t₂ => simp only [Node.mask] at h; split at h <;> cases h
    | special k₂ e₂ => simp only [Node.mask] at h; split at h <;> cases h
  | symlink t₁ =>
    cases n₂ with
    | symlink t₂ => exact .symlink t₁ t₂
    | regular f₂ => simp only [Node.mask] at h; split at h <;> cases h
    | directory a₂ es₂ => simp [Node.mask] at h
    | special k₂ e₂ => simp [Node.mask] at h
  | special k₁ e₁ =>
    cases n₂ with
    | special k₂ e₂ =>
      simp only [Node.mask, View.special.injEq] at h
      obtain ⟨rfl, rfl⟩ := h
      exact .special k₁ e₁
    | regular f₂ => simp only [Node.mask] at h; split at h <;> cases h
    | directory a₂ es₂ => simp [Node.mask] at h
    | symlink t₂ => simp [Node.mask] at h

/-- Both paths lead nowhere, or to nodes that are alike. -/
theorem Agree.cases {r₁ r₂ : Node} {p : Path} (h : Agree r₁ r₂ p) :
    (r₁.at p = none ∧ r₂.at p = none) ∨ ∃ n₁ n₂, r₁.at p = some n₁ ∧ r₂.at p = some n₂ ∧ Alike n₁ n₂ := by
  rw [Agree] at h
  cases h₁ : r₁.at p with
  | none =>
    rw [h₁, Option.map_none] at h
    exact .inl ⟨rfl, Option.map_eq_none_iff.1 h.symm⟩
  | some n₁ =>
    rw [h₁, Option.map_some] at h
    obtain ⟨n₂, h₂, hm⟩ := Option.map_eq_some_iff.1 h.symm
    exact .inr ⟨n₁, n₂, rfl, h₂, alike_of_mask hm.symm⟩

theorem openNode_congr {n₁ n₂ : Node} (h : Alike n₁ n₂) (directoryOnly : Bool) :
    openNode n₁ directoryOnly = openNode n₂ directoryOnly := by
  cases h with
  | hardLinked h₁ h₂ h => rw [openNode, openNode, h]
  | _ => rfl

theorem openEntry_congr {r₁ r₂ : Node} {p : Path} (h : Agree r₁ r₂ p) (c : Str) (directoryOnly : Bool) :
    openEntry (r₁.at p) c directoryOnly = openEntry (r₂.at p) c directoryOnly := by
  rcases h.cases with ⟨h₁, h₂⟩ | ⟨n₁, n₂, h₁, h₂, ha⟩
  · rw [h₁, h₂]
  · rw [h₁, h₂]
    cases ha with
    | directory access h =>
      have hl := lookup_mask_congr h c
      simp only [openEntry]
      cases access.searchError with
      | some e => rfl
      | none =>
        rename_i es₁ es₂
        cases h₁ : es₁.lookup c with
        | none =>
          rw [h₁, Option.map_none] at hl
          rw [Option.map_eq_none_iff.1 hl.symm]
        | some m₁ =>
          rw [h₁, Option.map_some] at hl
          obtain ⟨m₂, h₂, hm⟩ := Option.map_eq_some_iff.1 hl.symm
          rw [h₂]
          exact openNode_congr (alike_of_mask hm.symm) directoryOnly
    | _ => rfl

theorem Agree.child {r₁ r₂ : Node} {p : Path} (h : Agree r₁ r₂ p) (c : Str) : Agree r₁ r₂ (p ++ [c]) := by
  rw [Agree, at_append, at_append]
  rcases h.cases with ⟨h₁, h₂⟩ | ⟨n₁, n₂, h₁, h₂, ha⟩
  · rw [h₁, h₂]
  · rw [h₁, h₂]
    cases ha with
    | directory access h =>
      have hl := lookup_mask_congr h c
      simpa [Node.at] using hl
    | _ => rfl

theorem listdir_congr {r₁ r₂ : Node} {p : Path} (h : Agree r₁ r₂ p) : listdir r₁ p = listdir r₂ p := by
  rcases h.cases with ⟨h₁, h₂⟩ | ⟨n₁, n₂, h₁, h₂, ha⟩
  · rw [listdir, listdir, h₁, h₂]
  · rw [listdir, listdir, h₁, h₂]
    cases ha with
    | directory access h =>
      have hn := congrArg (List.map Prod.fst) h
      rw [maskEntries_names, maskEntries_names] at hn
      simp only [hn]
    | _ => rfl

/-- Two trees that cannot be told apart at one entry of a path. -/
structure AgreeAt (r₁ r₂ : Node) (p : Path) (c : Str) : Prop where
  opened : ∀ directoryOnly, openEntry (r₁.at p) c directoryOnly = openEntry (r₂.at p) c directoryOnly
  below : Agree r₁ r₂ (p ++ [c])

theorem Agree.entry {r₁ r₂ : Node} {p : Path} (h : Agree r₁ r₂ p) (c : Str) : AgreeAt r₁ r₂ p c :=
  ⟨openEntry_congr h c, h.child c⟩

/-! ## Trees that differ at one path only -/

/-- The directories on the path have the same names in the same order, and the same entries but the one on the path. -/
inductive DiffersAt : Path → Node → Node → Prop where
  | same (p : Path) (n : Node) : DiffersAt p n n
  | here (n₁ n₂ : Node) : DiffersAt [] n₁ n₂
  | inside (access : Access) {c : Str} {p : Path} {es₁ es₂ : List (Str × Node)}
    (names : es₁.map Prod.fst = es₂.map Prod.fst) (others : ∀ d, d ≠ c → es₁.lookup d = es₂.lookup d)
    (differs : ∀ m₁ m₂, es₁.lookup c = some m₁ → es₂.lookup c = some m₂ → DiffersAt p m₁ m₂) :
    DiffersAt (c :: p) (.directory access es₁) (.directory access es₂)

/-- Below `q`, the trees differ at `p` only. -/
def DiffersOnlyAt (r₁ r₂ : Node) (q p : Path) : Prop :=
  ∃ n₁ n₂, r₁.at q = some n₁ ∧ r₂.at q = some n₂ ∧ DiffersAt p n₁ n₂

theorem lookup_eq_none_iff_names {es : List (Str × Node)} {c : Str} : es.lookup c = none ↔ c ∉ es.map Prod.fst := by
  rw [List.lookup_eq_none_iff]
  constructor
  · intro h hm
    obtain ⟨e, he, rfl⟩ := List.mem_map.1 hm
    simpa using h e he
  · intro h e he
    exact bne_iff_ne.2 (fun hc => h (List.mem_map.2 ⟨e, he, hc.symm⟩))

theorem DiffersOnlyAt.listdir_eq {r₁ r₂ : Node} {q : Path} {c : Str} {p : Path} (h : DiffersOnlyAt r₁ r₂ q (c :: p)) :
    listdir r₁ q = listdir r₂ q := by
  obtain ⟨n₁, n₂, h₁, h₂, hd⟩ := h
  rw [listdir, listdir, h₁, h₂]
  cases hd with
  | same => rfl
  | inside access names => simp only [names]

theorem DiffersOnlyAt.other {r₁ r₂ : Node} {q : Path} {c d : Str} {p : Path} (h : DiffersOnlyAt r₁ r₂ q (c :: p))
    (hd : d ≠ c) : AgreeAt r₁ r₂ q d := by
  obtain ⟨n₁, n₂, h₁, h₂, hn⟩ := h
  cases hn with
  | same => exact (Agree.of_eq (h₁.trans h₂.symm)).entry d
  | inside access names others differs =>
    refine ⟨fun directoryOnly => ?_, .of_eq ?_⟩
    · rw [h₁, h₂, openEntry, openEntry, others d hd]
    · rw [at_child h₁, at_child h₂, others d hd]

/-- The next directory on the path: opened alike, and below it the trees differ at the rest of the path only. -/
theorem DiffersOnlyAt.next {r₁ r₂ : Node} {q : Path} {c d : Str} {p : Path}
    (h : DiffersOnlyAt r₁ r₂ q (c :: d :: p)) :
    openEntry (r₁.at q) c true = openEntry (r₂.at q) c true ∧
      (openEntry (r₁.at q) c true = .ok () → DiffersOnlyAt r₁ r₂ (q ++ [c]) (d :: p)) := by
  obtain ⟨n₁, n₂, h₁, h₂, hn⟩ := h
  have hsome : ∀ {n : Node} {r : Node}, r.at q = some n → openEntry (r.at q) c true = .ok () →
      ∃ m, r.at (q ++ [c]) = some m := by
    intro n r hn ho
    rw [hn] at ho
    cases n with
    | directory access entries =>
      rw [at_child hn c]
      simp only [openEntry] at ho
      cases hs : access.searchError with
      | some e => rw [hs] at ho; cases ho
      | none =>
        rw [hs] at ho
        cases hl : entries.lookup c with
        | none => rw [hl] at ho; cases ho
        | some m => exact ⟨m, rfl⟩
    | _ => cases ho
  cases hn with
  | same =>
    refine ⟨by rw [h₁, h₂], fun ho => ?_⟩
    obtain ⟨m, hm⟩ := hsome h₁ ho
    refine ⟨m, m, hm, ?_, .same _ m⟩
    rwa [at_append, h₂, ← h₁, ← at_append]
  | inside access names others differs =>
    rename_i es₁ es₂
    refine ⟨?_, fun ho => ?_⟩
    · rw [h₁, h₂]
      simp only [openEntry]
      cases access.searchError with
      | some e => rfl
      | none =>
        cases hl₁ : es₁.lookup c with
        | none =>
          rw [lookup_eq_none_iff_names, names, ← lookup_eq_none_iff_names] at hl₁
          rw [hl₁]
        | some m₁ =>
          cases hl₂ : es₂.lookup c with
          | none =>
            rw [lookup_eq_none_iff_names, ← names, ← lookup_eq_none_iff_names, hl₁] at hl₂
            cases hl₂
          | some m₂ =>
            have hm := differs m₁ m₂ hl₁ hl₂
            cases hm <;> rfl
    · obtain ⟨m₁, hm₁⟩ := hsome h₁ ho
      have hl₁ := (at_child h₁ c).symm.trans hm₁
      cases hl₂ : es₂.lookup c with
      | none =>
        rw [lookup_eq_none_iff_names, ← names, ← lookup_eq_none_iff_names, hl₁] at hl₂
        cases hl₂
      | some m₂ => exact ⟨m₁, m₂, hm₁, (at_child h₂ c).trans hl₂, differs m₁ m₂ hl₁ hl₂⟩

theorem at_folder (c : String) (n : Node) (rest : List (String × Node)) (p : Path) :
    (Node.folder ((c, n) :: rest)).at (c.toList :: p) = n.at p := by
  simp [Node.folder, Node.at]

theorem DiffersAt.folder (c : String) {n₁ n₂ : Node} (rest : List (String × Node)) {p : Path}
    (h : DiffersAt p n₁ n₂) : DiffersAt (c.toList :: p) (.folder ((c, n₁) :: rest)) (.folder ((c, n₂) :: rest)) := by
  refine .inside _ rfl (fun d hd => ?_) (fun m₁ m₂ h₁ h₂ => ?_)
  · have hne : (d == c.toList) = false := beq_false_of_ne hd
    simp [List.lookup_cons, hne]
  · simp only [List.map_cons, List.lookup_cons, beq_self_eq_true, Option.some.injEq] at h₁ h₂
    rw [← h₁, ← h₂]
    exact h

end Posix
