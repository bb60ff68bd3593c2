import TtMetricsExporter.Exposition
/-!
# Documents — reading a whole text of families

The reference parser of the exposition format: lines end at newlines only, a family starts with its `HELP` and its
`TYPE`, its samples follow, and no name comes twice.  Lines that list some families (`Listing`), with or without an
empty line after each, are read back as these families (`parse_text`).
-/
namespace Exposition

open Py (Str join splitOn)

/-! ## Writing -/

/-- A family's own lines. -/
def Family.block (f : Family) : List Str :=
  ("# HELP ".toList ++ f.name ++ ' ' :: f.help) :: ("# TYPE ".toList ++ f.name ++ ' ' :: f.type) ::
    f.samples.map Sample.line

/-- Lines, the last one ended too. -/
def text (lines : List Str) : Str := join ['\n'] lines ++ ['\n']

theorem Family.lines_eq (f : Family) : f.lines = f.block ++ [[]] := rfl

/-- Lines that list families, empty ones among them. -/
inductive Listing : List Family → List Str → Prop
  | nil : Listing [] []
  | empty {fs ls} : Listing fs ls → Listing fs ([] :: ls)
  | family {fs ls} (f) : Listing fs ls → Listing (f :: fs) (f.block ++ ls)

theorem Listing.append {fs gs : List Family} {ls ms : List Str} (h : Listing fs ls) (h' : Listing gs ms) :
    Listing (fs ++ gs) (ls ++ ms) := by
  induction h with
  | nil => exact h'
  | empty _ ih => exact ih.empty
  | family f _ ih =>
    rw [List.append_assoc]
    exact ih.family f

theorem listing_lines : ∀ (families : List Family), Listing families (families.flatMap Family.lines)
  | [] => .nil
  | f :: fs => by
    have hrest := (Listing.nil.empty.append (listing_lines fs)).family f
    rwa [← List.append_assoc] at hrest

theorem listing_blocks : ∀ (families : List Family), Listing families (families.flatMap Family.block)
  | [] => .nil
  | f :: fs => (listing_blocks fs).family f

/-! ## Reading -/

def familyTypes : List Str :=
  ["counter".toList, "gauge".toList, "histogram".toList, "summary".toList, "untyped".toList]

/-- What follows a comment's keyword: a metric name and a text. -/
def readComment (keyword line : Str) : Option (Str × Str) :=
  if keyword.isPrefixOf line then
    match (line.drop keyword.length).dropWhile isNameChar with
    | ' ' :: rest => some ((line.drop keyword.length).takeWhile isNameChar, rest)
    | _ => none
  else none

/-- Some families read, of which the last still takes samples, or the `HELP` of the next one as well. -/
inductive Progress
  | families (read : List Family)
  | helped (read : List Family) (name help : Str)

/-- A sample belongs to the last family. -/
def addSample (read : List Family) (s : Sample) : Option (List Family) :=
  match read.getLast? with
  | some f => if s.name = f.name then some (read.dropLast ++ [{ f with samples := f.samples ++ [s] }]) else none
  | none => none

def readLine : Progress → Str → Option Progress
  | .families read, line =>
    if line = [] then some (.families read)
    else if line.head? = some '#' then
      match readComment "# HELP ".toList line with
      | some (name, help) => if name ∈ read.map Family.name then none else some (.helped read name help)
      | none => none
    else match parseSample line with
      | some s => (addSample read s).map .families
      | none => none
  | .helped read name help, line =>
    match readComment "# TYPE ".toList line with
    | some (name', type) =>
      if name' = name ∧ type ∈ familyTypes then some (.families (read ++ [⟨name, help, type, []⟩])) else none
    | none => none

def parse (body : Str) : Option (List Family) :=
  match (splitOn '\n' body).foldlM readLine (.families []) with
  | some (.families read) => some read
  | _ => none

/-! ## Reading back -/

/-- What a family must be to be read back: its samples are its own, and its type one of the five. -/
structure Family.Readable (f : Family) : Prop extends f.Valid where
  name_ne : f.name ≠ []
  name_chars : f.name.all isNameChar = true
  type_known : f.type ∈ familyTypes
  samples_own : ∀ s ∈ f.samples, s.name = f.name

theorem readComment_line {keyword name rest : Str} (h : name.all isNameChar = true) :
    readComment keyword (keyword ++ name ++ ' ' :: rest) = some (name, rest) := by
  have hprefix : keyword.isPrefixOf (keyword ++ name ++ ' ' :: rest) = true := by
    rw [List.isPrefixOf_iff_prefix, List.append_assoc]
    exact List.prefix_append _ _
  obtain ⟨ht, hd⟩ := span_name rest h (show isNameChar ' ' = false from rfl)
  rw [readComment, if_pos hprefix, List.append_assoc, List.drop_left, hd, ht]
  rfl

theorem readLine_empty (read : List Family) : readLine (.families read) [] = some (.families read) := rfl

theorem readLine_help {read : List Family} {name help : Str} (h : name.all isNameChar = true)
    (hn : name ∉ read.map Family.name) :
    readLine (.families read) ("# HELP ".toList ++ name ++ ' ' :: help) = some (.helped read name help) := by
  have hhead : ("# HELP ".toList ++ name ++ ' ' :: help).head? = some '#' := rfl
  have hne : "# HELP ".toList ++ name ++ ' ' :: help ≠ [] := by simp
  rw [readLine, if_neg hne, if_pos hhead, readComment_line h]
  exact if_neg hn

theorem readLine_type {read : List Family} {name help type : Str} (h : name.all isNameChar = true)
    (ht : type ∈ familyTypes) :
    readLine (.helped read name help) ("# TYPE ".toList ++ name ++ ' ' :: type) =
      some (.families (read ++ [⟨name, help, type, []⟩])) := by
  rw [readLine, readComment_line h]
  exact if_pos ⟨rfl, ht⟩

theorem readLine_sample (read : List Family) (f : Family) {s : Sample} (h : s.Valid) (hs : s.name = f.name) :
    readLine (.families (read ++ [f])) s.line =
      some (.families (read ++ [{ f with samples := f.samples ++ [s] }])) := by
  obtain ⟨hne, hhead⟩ := line_shown h
  rw [readLine, if_neg hne, if_neg hhead, parseSample_line h]
  dsimp only
  unfold addSample
  rw [List.getLast?_concat, List.dropLast_concat]
  dsimp only
  rw [if_pos hs, Option.map_some]

theorem readLines_samples (read : List Family) (name help type : Str) : ∀ (before : List Sample) {samples : List Sample},
    (∀ s ∈ samples, s.Valid ∧ s.name = name) →
    (samples.map Sample.line).foldlM readLine (.families (read ++ [⟨name, help, type, before⟩])) =
      some (.families (read ++ [⟨name, help, type, before ++ samples⟩]))
  | before, [], _ => by rw [List.append_nil]; rfl
  | before, s :: samples, h => by
    obtain ⟨hv, hn⟩ := h s List.mem_cons_self
    have hline := readLine_sample read ⟨name, help, type, before⟩ hv hn
    have hrest := readLines_samples read name help type (before ++ [s])
      (fun s hs => h s (List.mem_cons_of_mem _ hs))
    rw [List.map_cons, List.foldlM_cons, hline]
    rw [List.append_assoc, List.singleton_append] at hrest
    exact hrest

/-- **A family's lines are read as the family.** -/
theorem readLines_block {read : List Family} {f : Family} (h : f.Readable) (hn : f.name ∉ read.map Family.name) :
    f.block.foldlM readLine (.families read) = some (.families (read ++ [f])) := by
  have hsamples := readLines_samples read f.name f.help f.type []
    (fun s hs => ⟨h.samples_valid s hs, h.samples_own s hs⟩)
  rw [Family.block, List.foldlM_cons, readLine_help h.name_chars hn, Option.bind_eq_bind, Option.bind_some,
    List.foldlM_cons, readLine_type h.name_chars h.type_known, Option.bind_eq_bind, Option.bind_some, hsamples]
  rfl

theorem readLines_listing {fs : List Family} {ls : List Str} (h : Listing fs ls) : ∀ (read : List Family),
    (∀ f ∈ fs, f.Readable) → ((read ++ fs).map Family.name).Nodup →
    ls.foldlM readLine (.families read) = some (.families (read ++ fs)) := by
  induction h with
  | nil =>
    intro read _ _
    rw [List.append_nil]
    rfl
  | empty _ ih =>
    intro read hv hd
    rw [List.foldlM_cons, readLine_empty, Option.bind_eq_bind, Option.bind_some]
    exact ih read hv hd
  | family f _ ih =>
    intro read hv hd
    have hname : f.name ∉ read.map Family.name := by
      intro hm
      rw [List.map_append, List.map_cons, List.nodup_append] at hd
      exact hd.2.2 _ hm _ List.mem_cons_self rfl
    rw [List.foldlM_append, readLines_block (hv f List.mem_cons_self) hname, Option.bind_eq_bind, Option.bind_some]
    have hrest := ih (read ++ [f]) (fun g hg => hv g (List.mem_cons_of_mem _ hg))
      (by rwa [List.append_assoc, List.singleton_append])
    rwa [List.append_assoc, List.singleton_append] at hrest

theorem not_mem_listing {fs : List Family} {ls : List Str} (h : Listing fs ls) (hv : ∀ f ∈ fs, f.Valid) :
    ∀ line ∈ ls, '\n' ∉ line := by
  induction h with
  | nil =>
    intro line hl
    cases hl
  | empty _ ih =>
    intro line hl
    rcases List.mem_cons.1 hl with rfl | hl
    · exact List.not_mem_nil
    · exact ih hv line hl
  | family f _ ih =>
    intro line hl
    rcases List.mem_append.1 hl with hl | hl
    · refine not_mem_family_lines (hv f List.mem_cons_self) line ?_
      rw [Family.lines_eq]
      exact List.mem_append_left _ hl
    · exact ih (fun g hg => hv g (List.mem_cons_of_mem _ hg)) line hl

theorem text_append : ∀ {ls ms : List Str}, ls ≠ [] → ms ≠ [] → text (ls ++ ms) = text ls ++ text ms
  | [], _, h, _ => absurd rfl h
  | [l], ms, _, hm => by
    obtain ⟨m, ms, rfl⟩ := List.exists_cons_of_ne_nil hm
    rw [List.singleton_append, text, text, text, join, join, List.append_assoc, List.append_assoc]
    simp
  | l :: l' :: ls, ms, _, hm => by
    have hrest := text_append (List.cons_ne_nil l' ls) hm
    have hcons : ∀ rest, text (l :: l' :: rest) = l ++ ['\n'] ++ text (l' :: rest) := by
      intro rest
      rw [text, join]
      · rw [List.append_assoc, text]
      · simp
    rw [List.cons_append, List.cons_append, hcons, hcons, ← List.cons_append, hrest, List.append_assoc,
      List.append_assoc, List.append_assoc]

/-- **A text that lists families is read back as these families.** -/
theorem parse_text {fs : List Family} {ls : List Str} (h : Listing fs ls) (hne : ls ≠ []) (hv : ∀ f ∈ fs, f.Readable)
    (hd : (fs.map Family.name).Nodup) : parse (text ls) = some fs := by
  have hls := not_mem_listing h (fun f hf => (hv f hf).toValid)
  have hsplit : splitOn '\n' (text ls) = ls ++ [[]] := Py.splitOn_join_ended '\n' ls hne hls
  have hread := readLines_listing (h.append Listing.nil.empty) [] (by rwa [List.append_nil])
    (by rwa [List.nil_append, List.append_nil])
  rw [parse, hsplit, hread, List.append_nil]
  rfl

/-- Two such texts, one after the other, are read back as the families of both. -/
theorem parse_append {fs gs : List Family} {ls ms : List Str} (h : Listing fs ls) (h' : Listing gs ms)
    (hne : ls ≠ []) (hne' : ms ≠ []) (hv : ∀ f ∈ fs ++ gs, f.Readable) (hd : ((fs ++ gs).map Family.name).Nodup) :
    parse (text ls ++ text ms) = some (fs ++ gs) := by
  rw [← text_append hne hne']
  exact parse_text (h.append h') (fun hnil => hne (List.append_eq_nil_iff.1 hnil).1) hv hd

end Exposition
