import Mathlib.Logic.Function.Basic
/-!
# Inodes — names that lead to files, and a file that is replaced by renaming

A directory's names lead to files, which count their links and live on without any.  A new content is written under a
second name, which is then renamed onto the first.  So at any time the first name leads to a whole content, the last one
(`Holds`), and the files it has led to before have lost their link but not their content.
-/
namespace Inodes

/-- A file's content, and how many names lead to it. -/
structure File (κ : Type) where
  content : κ
  links : Nat

structure Directory (ν κ : Type) where
  names : ν → Option Nat
  files : Nat → File κ
  /-- The number of the next file to be made. -/
  next : Nat

namespace Directory
variable {ν κ : Type} [DecidableEq ν]

def withContent (d : Directory ν κ) (i : Nat) (content : κ) : Directory ν κ :=
  { d with files := Function.update d.files i { d.files i with content := content } }

/-- One link of a file less. -/
def dropLink (files : Nat → File κ) (i : Nat) : Nat → File κ :=
  Function.update files i { files i with links := (files i).links - 1 }

omit [DecidableEq ν] in
theorem dropLink_apply (files : Nat → File κ) (i j : Nat) : dropLink files i j =
    if j = i then { files i with links := (files i).links - 1 } else files j := Function.update_apply _ _ _ _

/-- `open` with `O_CREAT | O_TRUNC`. -/
def create (d : Directory ν κ) (name : ν) (empty : κ) : Directory ν κ :=
  match d.names name with
  | some i => d.withContent i empty
  | none => ⟨Function.update d.names name (some d.next), Function.update d.files d.next ⟨empty, 1⟩, d.next + 1⟩

/-- The whole content of a file that has been opened so. -/
def write (d : Directory ν κ) (name : ν) (content : κ) : Directory ν κ :=
  match d.names name with
  | some i => d.withContent i content
  | none => d

/-- `rename`: two names of one file stay. -/
def rename (d : Directory ν κ) (source target : ν) : Directory ν κ :=
  match d.names source, d.names target with
  | none, _ => d
  | some i, none => { d with names := Function.update (Function.update d.names source none) target (some i) }
  | some i, some j =>
    if i = j then d
    else { d with
      names := Function.update (Function.update d.names source none) target (some i)
      files := dropLink d.files j }

def unlink (d : Directory ν κ) (name : ν) : Directory ν κ :=
  match d.names name with
  | some i => { d with names := Function.update d.names name none, files := dropLink d.files i }
  | none => d

end Directory

/-! ## Replacing -/

section
variable {ν κ : Type} [DecidableEq ν]

/-- The number of the last of some files. -/
def lastOf : Nat → Option Nat
  | 0 => none
  | n + 1 => some n

/-- The contents that a name has led to, in order: it leads to the last, and the others have no link. -/
structure Holds (target : ν) (past : List κ) (d : Directory ν κ) : Prop where
  named : d.names target = lastOf past.length
  files : ∀ i c, past[i]? = some c → d.files i = ⟨c, if i + 1 = past.length then 1 else 0⟩

/-- There are no other files. -/
structure Settled (target : ν) (past : List κ) (d : Directory ν κ) : Prop extends Holds target past d where
  next : d.next = past.length
  others : ∀ name, name ≠ target → d.names name = none

/-- There is one more, under a name of its own. -/
structure Begun (target : ν) (past : List κ) (temporary : ν) (content : κ) (d : Directory ν κ) : Prop
    extends Holds target past d where
  next : d.next = past.length + 1
  begun : d.names temporary = some past.length
  file : d.files past.length = ⟨content, 1⟩
  others : ∀ name, name ≠ target → name ≠ temporary → d.names name = none

variable {target temporary : ν} {past : List κ} {d : Directory ν κ} {content : κ}

theorem lt_of_getElem?_eq {i : Nat} {c : κ} (h : past[i]? = some c) : i < past.length := by
  obtain ⟨hi, -⟩ := List.getElem?_eq_some_iff.1 h
  exact hi

theorem Settled.create (h : Settled target past d) (hne : temporary ≠ target) (empty : κ) :
    Begun target past temporary empty (d.create temporary empty) := by
  unfold Directory.create
  rw [h.others temporary hne]
  refine ⟨⟨?_, fun i c hc => ?_⟩, ?_, ?_, ?_, fun name ht hn => ?_⟩
  · exact (Function.update_of_ne (Ne.symm hne) _ _).trans h.named
  · have hi := lt_of_getElem?_eq hc
    exact (Function.update_of_ne (by rw [h.next]; omega) _ _).trans (h.files i c hc)
  · exact congrArg (· + 1) h.next
  · exact (Function.update_self _ _ _).trans (congrArg some h.next)
  · show Function.update d.files d.next ⟨empty, 1⟩ past.length = ⟨empty, 1⟩
    rw [h.next, Function.update_self]
  · exact (Function.update_of_ne hn _ _).trans (h.others name ht)

omit [DecidableEq ν] in
theorem Begun.write (h : Begun target past temporary content d) (content' : κ) :
    Begun target past temporary content' (d.write temporary content') := by
  unfold Directory.write
  rw [h.begun]
  refine ⟨⟨h.named, fun i c hc => ?_⟩, h.next, h.begun, ?_, h.others⟩
  · have hi := lt_of_getElem?_eq hc
    exact (Function.update_of_ne (by omega) _ _).trans (h.files i c hc)
  · exact (Function.update_self _ _ _).trans (by rw [h.file])

/-- **Renaming makes the new content the last.** -/
theorem Begun.rename (h : Begun target past temporary content d) :
    Settled target (past ++ [content]) (d.rename temporary target) := by
  have hfile : ∀ {d' : Directory ν κ}, d'.files past.length = ⟨content, 1⟩ →
      (∀ i c, past[i]? = some c → d'.files i = ⟨c, 0⟩) → ∀ i c, (past ++ [content])[i]? = some c →
      d'.files i = ⟨c, if i + 1 = (past ++ [content]).length then 1 else 0⟩ := by
    intro d' hlast hpast i c hc
    rw [List.length_append, List.length_singleton]
    by_cases hi : i < past.length
    · rw [List.getElem?_append_left hi] at hc
      rw [hpast i c hc, if_neg (by omega)]
    · rw [List.getElem?_append_right (Nat.not_lt.1 hi), List.getElem?_singleton] at hc
      split at hc
      · obtain rfl : i = past.length := by omega
        rw [hlast, if_pos rfl, Option.some.inj hc]
      · cases hc
  have hnames : ∀ name, name ≠ target →
      Function.update (Function.update d.names temporary none) target (some past.length) name = none := by
    intro name hn
    rw [Function.update_of_ne hn]
    by_cases ht : name = temporary
    · rw [ht, Function.update_self]
    · rw [Function.update_of_ne ht]
      exact h.others name hn ht
  have hlength : lastOf (past ++ [content]).length = some past.length := by
    rw [List.length_append]
    rfl
  have hnext : d.next = (past ++ [content]).length := by
    rw [h.next, List.length_append]
    rfl
  unfold Directory.rename
  rw [h.begun, h.named]
  cases hp : past with
  | nil =>
    subst hp
    exact ⟨⟨(Function.update_self _ _ _).trans hlength.symm, hfile h.file (fun i c hc => nomatch hc)⟩, hnext, hnames⟩
  | cons c rest =>
    rw [← hp]
    have hpos : past.length = rest.length + 1 := by rw [hp]; rfl
    have hlast : lastOf past.length = some rest.length := by rw [hpos]; rfl
    rw [hlast]
    dsimp only
    rw [if_neg (by omega)]
    refine ⟨⟨(Function.update_self _ _ _).trans hlength.symm, hfile ?_ (fun i c hc => ?_)⟩, hnext, hnames⟩
    · exact (Function.update_of_ne (by omega) _ _).trans h.file
    · have hfiles := h.files i c hc
      show Directory.dropLink d.files rest.length i = _
      rw [Directory.dropLink_apply]
      by_cases hi : i = rest.length
      · subst hi
        rw [if_pos rfl, hfiles, if_pos hpos.symm]
        rfl
      · rw [if_neg hi, hfiles, if_neg (by omega)]

theorem Settled.unlink (h : Settled target past d) {name : ν} (hne : name ≠ target) : d.unlink name = d := by
  unfold Directory.unlink
  rw [h.others name hne]

end

end Inodes
