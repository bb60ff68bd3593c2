import TtMetricsExporter.Posix
/-!
# Similar — file trees of one shape

Two trees of one shape have the same directories, links and special files under the same names.  Their listings are
related by `L`, which may be more than equality, and their regular files by `F`.  Every walk ends alike in both, so each
call that walks a path gives related results.
-/
namespace Posix

open Py (Str splitOn)

inductive Similar (L : List Str → List Str → Prop) (F : Regular → Regular → Prop) : Node → Node → Prop where
  | directory (access : Access) {es₁ es₂ : List (Str × Node)} (names : L (es₁.map Prod.fst) (es₂.map Prod.fst))
    (entries : ∀ c, Option.Rel (Similar L F) (es₁.lookup c) (es₂.lookup c)) :
    Similar L F (.directory access es₁) (.directory access es₂)
  | regular {f₁ f₂ : Regular} (opens : f₁.openError = f₂.openError) (h : F f₁ f₂) :
    Similar L F (.regular f₁) (.regular f₂)
  | symlink (target : Str) : Similar L F (.symlink target) (.symlink target)
  | special (kind : SpecialKind) (openError : Option Errno) :
    Similar L F (.special kind openError) (.special kind openError)

variable {L : List Str → List Str → Prop} {F : Regular → Regular → Prop}

theorem Similar.lookup_of_forall₂ {es₁ es₂ : List (Str × Node)}
    (h : List.Forall₂ (fun a b => a.1 = b.1 ∧ Similar L F a.2 b.2) es₁ es₂) (c : Str) :
    Option.Rel (Similar L F) (es₁.lookup c) (es₂.lookup c) := by
  induction h with
  | nil => exact .none
  | @cons a b _ _ hab _ ih =>
    rw [List.lookup_cons, List.lookup_cons, hab.1]
    cases c == b.1 with
    | true => exact .some hab.2
    | false => exact ih

mutual
theorem Similar.refl (hl : ∀ names, L names names) (hf : ∀ f, F f f) : ∀ (n : Node), Similar L F n n
  | .directory access entries => .directory access (hl _) (Similar.lookup_of_forall₂ (forall₂_refl hl hf entries))
  | .regular f => .regular rfl (hf f)
  | .symlink target => .symlink target
  | .special kind openError => .special kind openError
theorem forall₂_refl (hl : ∀ names, L names names) (hf : ∀ f, F f f) : ∀ (entries : List (Str × Node)),
    List.Forall₂ (fun a b => a.1 = b.1 ∧ Similar L F a.2 b.2) entries entries
  | [] => .nil
  | (_, n) :: rest => .cons ⟨rfl, Similar.refl hl hf n⟩ (forall₂_refl hl hf rest)
end

theorem Similar.folder {es₁ es₂ : List (String × Node)} (hl : ∀ names, L names names)
    (h : List.Forall₂ (fun a b => a.1 = b.1 ∧ Similar L F a.2 b.2) es₁ es₂) :
    Similar L F (.folder es₁) (.folder es₂) := by
  have hnames : es₁.map (fun e => e.1) = es₂.map (fun e => e.1) := by
    induction h with
    | nil => rfl
    | cons hab _ ih => rw [List.map_cons, List.map_cons, hab.1, ih]
  have hfirst : ∀ es : List (String × Node), (es.map (fun e => (e.1.toList, e.2))).map Prod.fst =
      (es.map (fun e => e.1)).map String.toList := fun es => by simp
  refine .directory _ ?_ (Similar.lookup_of_forall₂ ?_)
  · rw [hfirst, hfirst, hnames]
    exact hl _
  · rw [List.forall₂_map_left_iff, List.forall₂_map_right_iff]
    exact h.imp (fun a b hab => ⟨congrArg String.toList hab.1, hab.2⟩)

/-- Both calls fail alike, or both succeed with related results. -/
inductive Outcomes {α β : Type} (R : α → β → Prop) : Except Errno α → Except Errno β → Prop where
  | error (e : Errno) : Outcomes R (.error e) (.error e)
  | ok {a : α} {b : β} (h : R a b) : Outcomes R (.ok a) (.ok b)

theorem Similar.at {n₁ n₂ : Node} (h : Similar L F n₁ n₂) : ∀ (p : Path), Option.Rel (Similar L F) (n₁.at p) (n₂.at p)
  | [] => by
    rw [Node.at, Node.at]
    exact .some h
  | c :: p => by
    cases h with
    | directory access names entries =>
      rename_i es₁ es₂
      rw [Node.at, Node.at]
      have he := entries c
      generalize es₁.lookup c = m₁ at he ⊢
      generalize es₂.lookup c = m₂ at he ⊢
      cases he with
      | none => exact .none
      | some he => exact he.at p
    | _ => exact .none

section Calls
variable {r₁ r₂ : Node} (h : Similar L F r₁ r₂)
include h

/-! ## Walks -/

theorem walkWith_congr (followLast : Bool) (follow : Path → List Str → Except Errno Path) : ∀ (names : List Str)
    (here : Path), walkWith r₁ followLast follow here names = walkWith r₂ followLast follow here names
  | [], _ => rfl
  | c :: rest, here => by
    rw [walkWith, walkWith]
    have ha := h.at here
    generalize r₁.at here = n₁ at ha ⊢
    generalize r₂.at here = n₂ at ha ⊢
    cases ha with
    | none => rfl
    | some ha =>
      cases ha with
      | directory access names entries =>
        rename_i es₁ es₂
        have he := entries c
        simp only [walkWith_congr followLast follow rest]
        generalize es₁.lookup c = m₁ at he ⊢
        generalize es₂.lookup c = m₂ at he ⊢
        cases he with
        | none => rfl
        | some he => cases access.searchError <;> cases he <;> rfl
      | _ => rfl

theorem walk_congr (followLast : Bool) : ∀ (links : Nat), walk r₁ followLast links = walk r₂ followLast links
  | 0 => rfl
  | links + 1 => by
    funext here names
    rw [walk, walk, walk_congr followLast links]
    exact walkWith_congr h followLast _ names here

theorem resolve_congr (followLast : Bool) (here : Path) (name : Str) :
    resolve r₁ followLast here name = resolve r₂ followLast here name := by
  rw [resolve, resolve, walk_congr h]

/-! ## Calls -/

omit h in
theorem Similar.openNode_eq {n₁ n₂ : Node} (h : Similar L F n₁ n₂) (directoryOnly : Bool) :
    openNode n₁ directoryOnly = openNode n₂ directoryOnly := by
  cases h with
  | regular opens hf => rw [openNode, openNode, opens]
  | _ => rfl

theorem openResolved_congr (directoryOnly : Bool) (path : Path) :
    openResolved r₁ directoryOnly path = openResolved r₂ directoryOnly path := by
  rw [openResolved, openResolved]
  have ha := h.at path
  generalize r₁.at path = n₁ at ha ⊢
  generalize r₂.at path = n₂ at ha ⊢
  cases ha with
  | none => rfl
  | some ha =>
    dsimp only
    rw [ha.openNode_eq]

theorem Similar.openat_eq (here : Path) (name : Str) (directoryOnly : Bool) :
    openat r₁ here name directoryOnly = openat r₂ here name directoryOnly := by
  rw [openat, openat, resolve_congr h]
  exact congrArg _ (funext (openResolved_congr h directoryOnly))

theorem Similar.openPath_eq (path : Path) (directoryOnly : Bool) :
    openPath r₁ path directoryOnly = openPath r₂ path directoryOnly := by
  rw [openPath, openPath, walk_congr h]
  exact congrArg _ (funext (openResolved_congr h directoryOnly))

/-- **Listings are related.** -/
theorem Similar.listdir_related (path : Path) : Outcomes L (listdir r₁ path) (listdir r₂ path) := by
  rw [listdir, listdir]
  have ha := h.at path
  generalize r₁.at path = n₁ at ha ⊢
  generalize r₂.at path = n₂ at ha ⊢
  cases ha with
  | none => exact .error _
  | some ha =>
    cases ha with
    | directory access names entries =>
      dsimp only
      cases access.listError with
      | some e => exact .error e
      | none => exact .ok names
    | _ => exact .error _

omit h in
theorem Outcomes.bind {α β γ : Type} {R : β → γ → Prop} {x : Except Errno α} {f : α → Except Errno β}
    {g : α → Except Errno γ} (hf : ∀ a, x = .ok a → Outcomes R (f a) (g a)) : Outcomes R (x.bind f) (x.bind g) := by
  cases x with
  | error e => exact .error e
  | ok a => exact hf a rfl

theorem Similar.stat_related (path : Path) : Outcomes (Similar L F) (stat r₁ path) (stat r₂ path) := by
  rw [stat, stat, walk_congr h]
  refine .bind (fun q _ => ?_)
  have ha := h.at q
  generalize r₁.at q = n₁ at ha ⊢
  generalize r₂.at q = n₂ at ha ⊢
  cases ha with
  | none => exact .error _
  | some ha => exact .ok ha

theorem Similar.readlink_eq (path : Path) : readlink r₁ path = readlink r₂ path := by
  rw [readlink, readlink, walk_congr h]
  refine congrArg _ (funext (fun q => ?_))
  have ha := h.at q
  generalize r₁.at q = n₁ at ha ⊢
  generalize r₂.at q = n₂ at ha ⊢
  cases ha with
  | none => rfl
  | some ha => cases ha <;> rfl

theorem Similar.listPath_related (path : Path) : Outcomes L (listPath r₁ path) (listPath r₂ path) := by
  rw [listPath, listPath, walk_congr h]
  refine .bind (fun q _ => ?_)
  rw [openResolved_congr h]
  exact .bind (fun q' _ => h.listdir_related q')

/-- The entries of a listing, by name. -/
theorem Similar.scandir_related (path : Path) : Outcomes (fun es₁ es₂ => L (es₁.map Prod.fst) (es₂.map Prod.fst) ∧
    ∀ c, Option.Rel (Similar L F) (es₁.lookup c) (es₂.lookup c)) (scandir r₁ path) (scandir r₂ path) := by
  rw [scandir, scandir, walk_congr h]
  refine .bind (fun q _ => ?_)
  rw [openResolved_congr h]
  refine .bind (fun q' _ => ?_)
  have ha := h.at q'
  generalize r₁.at q' = n₁ at ha ⊢
  generalize r₂.at q' = n₂ at ha ⊢
  cases ha with
  | none => exact .error _
  | some ha =>
    cases ha with
    | directory access names entries =>
      dsimp only
      cases access.listError with
      | some e => exact .error e
      | none => exact .ok ⟨names, entries⟩
    | _ => exact .error _

end Calls

/-! ## Orders of enumeration -/

/-- The same tree, its directories enumerated in other orders. -/
def Reordered : Node → Node → Prop := Similar List.Perm Eq

theorem Reordered.refl (n : Node) : Reordered n n := Similar.refl (fun _ => List.Perm.refl _) (fun _ => rfl) n

/-- The entries with one name first. -/
def toFront {α : Type} (name : α → Str) (c : Str) (l : List α) : List α :=
  l.filter (fun a => name a = c) ++ l.filter (fun a => name a ≠ c)

theorem toFront_perm {α : Type} (name : α → Str) (c : Str) (l : List α) : (toFront name c l).Perm l := by
  have h := List.filter_append_perm (fun a => decide (name a = c)) l
  simpa only [toFront, ← decide_not] using h

theorem toFront_map {α β : Type} (name : β → Str) (f : α → β) (c : Str) (l : List α) :
    toFront name c (l.map f) = (toFront (fun a => name (f a)) c l).map f := by
  rw [toFront, toFront, List.map_append, List.filter_map, List.filter_map]
  rfl

theorem toFront_filter {α : Type} (name : α → Str) (c : Str) (p : α → Bool) (l : List α) :
    (toFront name c l).filter p = toFront name c (l.filter p) := by
  rw [toFront, toFront, List.filter_append, List.filter_comm, List.filter_comm (fun a => decide (name a ≠ c))]

mutual
/-- Every directory enumerates the entry `c` first. -/
def Node.promote (c : Str) : Node → Node
  | .directory access entries => .directory access (toFront Prod.fst c (promoteEntries c entries))
  | .regular file => .regular file
  | .symlink target => .symlink target
  | .special kind openError => .special kind openError
def promoteEntries (c : Str) : List (Str × Node) → List (Str × Node)
  | [] => []
  | (name, n) :: rest => (name, n.promote c) :: promoteEntries c rest
end

theorem promoteEntries_names (c : Str) : ∀ entries, (promoteEntries c entries).map Prod.fst = entries.map Prod.fst
  | [] => rfl
  | (name, n) :: rest => by rw [promoteEntries, List.map_cons, List.map_cons, promoteEntries_names c rest]

theorem lookup_filter (p : Str → Bool) (d : Str) : ∀ (entries : List (Str × Node)),
    (entries.filter (fun e => p e.1)).lookup d = if p d then entries.lookup d else none
  | [] => by simp
  | (name, n) :: rest => by
    have ih := lookup_filter p d rest
    rw [List.filter_cons]
    by_cases hd : d = name
    · subst hd
      cases hp : p d with
      | true => rw [if_pos rfl, if_pos rfl, List.lookup_cons_self, List.lookup_cons_self]
      | false => rw [if_neg Bool.false_ne_true, ih, hp]; rfl
    · rw [List.lookup_cons, beq_false_of_ne hd]
      cases hp : p name with
      | true =>
        rw [if_pos rfl, List.lookup_cons, beq_false_of_ne hd]
        exact ih
      | false =>
        rw [if_neg Bool.false_ne_true]
        exact ih

theorem lookup_toFront (c d : Str) (entries : List (Str × Node)) :
    (toFront Prod.fst c entries).lookup d = entries.lookup d := by
  rw [toFront, List.lookup_append, lookup_filter (fun name => name = c), lookup_filter (fun name => name ≠ c)]
  by_cases hd : d = c
  · simp [hd]
  · simp [hd]

mutual
theorem promote_similar {L : List Str → List Str → Prop} {c : Str} (hl : ∀ names, L names (toFront id c names)) :
    ∀ n : Node, Similar L Eq n (n.promote c)
  | .directory access entries => by
    rw [Node.promote]
    refine .directory access ?_ ?_
    · have hmap := toFront_map (id : Str → Str) Prod.fst c (promoteEntries c entries)
      rw [promoteEntries_names] at hmap
      exact hmap ▸ hl _
    · intro d
      rw [lookup_toFront]
      exact Similar.lookup_of_forall₂ (promoteEntries_similar hl entries) d
  | .regular file => .regular rfl rfl
  | .symlink target => .symlink target
  | .special kind openError => .special kind openError
theorem promoteEntries_similar {L : List Str → List Str → Prop} {c : Str}
    (hl : ∀ names, L names (toFront id c names)) : ∀ entries : List (Str × Node),
    List.Forall₂ (fun a b => a.1 = b.1 ∧ Similar L Eq a.2 b.2) entries (promoteEntries c entries)
  | [] => .nil
  | (_, n) :: rest => .cons ⟨rfl, promote_similar hl n⟩ (promoteEntries_similar hl rest)
end

/-- What a listing becomes. -/
def Promotes (c : Str) (names names' : List Str) : Prop := names' = toFront id c names

/-- **Enumerating one name first everywhere is another order of the same tree.** -/
theorem promote_reordered (c : Str) (n : Node) : Reordered n (n.promote c) :=
  promote_similar (fun names => (toFront_perm id c names).symm) n

theorem Promotes.filter {c : Str} {names names' : List Str} (h : Promotes c names names') (p : Str → Bool) :
    Promotes c (names.filter p) (names'.filter p) := by
  rw [Promotes, ← toFront_filter, h]

theorem Promotes.length_eq {c : Str} {names names' : List Str} (h : Promotes c names names') :
    names.length = names'.length := by
  rw [h, (toFront_perm id c names).length_eq]

theorem promote_promotes (c : Str) (n : Node) : Similar (Promotes c) Eq n (n.promote c) :=
  promote_similar (L := Promotes c) (fun _ => rfl) n

end Posix
