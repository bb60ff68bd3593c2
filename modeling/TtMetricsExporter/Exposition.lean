import TtMetricsExporter.PyText
/-!
# Exposition — the Prometheus text format

Families of samples, how they are written, and a reference parser of sample lines.  Label values are escaped by three
replacements; a quoted value is read back by undoing them, so a sample line parses to the sample it was written from
(`parseSample_line`) and a document to its samples (`samples_document`), whatever its label values are.
-/
namespace Exposition

open Py (Str replaceChar join splitOn)

structure Sample where
  name : Str
  labels : List (Str × Str)
  value : Str
  deriving DecidableEq

structure Family where
  name : Str
  help : Str
  type : Str
  samples : List Sample
  deriving DecidableEq

/-! ## Writing -/

/-- Backslashes first, then newlines, then quotes. -/
def escape (s : Str) : Str :=
  replaceChar '"' ['\\', '"'] (replaceChar '\n' ['\\', 'n'] (replaceChar '\\' ['\\', '\\'] s))

def labelText (label : Str × Str) : Str := label.1 ++ '=' :: '"' :: (escape label.2 ++ ['"'])

def labelsText (labels : List (Str × Str)) : Str := join [','] (labels.map labelText)

/-- A sample without labels has no braces. -/
def Sample.line (s : Sample) : Str :=
  if s.labels = [] then s.name ++ ' ' :: s.value
  else s.name ++ '{' :: (labelsText s.labels ++ '}' :: ' ' :: s.value)

def Family.lines (f : Family) : List Str :=
  ("# HELP ".toList ++ f.name ++ ' ' :: f.help) :: ("# TYPE ".toList ++ f.name ++ ' ' :: f.type) ::
    (f.samples.map Sample.line ++ [[]])

def document (families : List Family) : Str := join ['\n'] (families.flatMap Family.lines) ++ ['\n']

/-! ## Reading -/

def isNameChar (c : Char) : Bool :=
  ('a' ≤ c && c ≤ 'z') || ('A' ≤ c && c ≤ 'Z') || ('0' ≤ c && c ≤ '9') || c == '_' || c == ':'

/-- A quoted value up to its closing quote, and what follows it. -/
def readQuoted : Str → Option (Str × Str)
  | [] => none
  | '"' :: rest => some ([], rest)
  | '\\' :: 'n' :: rest => (readQuoted rest).map (fun p => ('\n' :: p.1, p.2))
  | '\\' :: '\\' :: rest => (readQuoted rest).map (fun p => ('\\' :: p.1, p.2))
  | '\\' :: '"' :: rest => (readQuoted rest).map (fun p => ('"' :: p.1, p.2))
  | '\\' :: _ => none
  | c :: rest => (readQuoted rest).map (fun p => (c :: p.1, p.2))

/-- The labels up to the closing brace, and what follows it. -/
def readLabels : Nat → Str → Option (List (Str × Str) × Str)
  | 0, _ => none
  | fuel + 1, s =>
    match s.dropWhile isNameChar with
    | '=' :: '"' :: rest => match readQuoted rest with
      | some (value, ',' :: rest) =>
        (readLabels fuel rest).map (fun p => ((s.takeWhile isNameChar, value) :: p.1, p.2))
      | some (value, '}' :: rest) => some ([(s.takeWhile isNameChar, value)], rest)
      | _ => none
    | _ => none

def parseSample (line : Str) : Option Sample :=
  match line.dropWhile isNameChar with
  | ' ' :: value => some ⟨line.takeWhile isNameChar, [], value⟩
  | '{' :: rest => match readLabels line.length rest with
    | some (labels, ' ' :: value) => some ⟨line.takeWhile isNameChar, labels, value⟩
    | _ => none
  | _ => none

/-- The lines of a text that are neither empty nor comments. -/
def sampleLines (text : Str) : List Str :=
  (splitOn '\n' text).filter (fun line => line ≠ [] && line.head? ≠ some '#')

def samples (text : Str) : List Sample := (sampleLines text).filterMap parseSample

/-! ## Lists of named things -/

/-- Among things with distinct keys, one has the key of a given one. -/
theorem filter_key_eq {α β : Type} [DecidableEq β] (key : α → β) {x : α} : ∀ {items : List α}, (items.map key).Nodup →
    x ∈ items → items.filter (fun y => key y = key x) = [x]
  | [], _, h => absurd h List.not_mem_nil
  | y :: items, hd, h => by
    rw [List.map_cons, List.nodup_cons] at hd
    rcases List.mem_cons.1 h with rfl | h
    · have hrest : items.filter (fun y => key y = key x) = [] := by
        rw [List.filter_eq_nil_iff]
        intro z hz he
        simp only [decide_eq_true_eq] at he
        exact hd.1 (he ▸ List.mem_map_of_mem hz)
      rw [List.filter_cons_of_pos (by simp), hrest]
    · have hne : key y ≠ key x := fun he => hd.1 (he ▸ List.mem_map_of_mem h)
      rw [List.filter_cons_of_neg (by simp [hne]), filter_key_eq key hd.2 h]

/-- One metric name and one label set. -/
def SameSeries (a b : Sample) : Prop := a.name = b.name ∧ ∀ l, l ∈ a.labels ↔ l ∈ b.labels

/-- No two sample lines of a text have one metric name and one label set. -/
def NoDuplicateSeries (text : Str) : Prop := (samples text).Pairwise (fun a b => ¬ SameSeries a b)

theorem SameSeries.refl (a : Sample) : SameSeries a a := ⟨rfl, fun _ => Iff.rfl⟩

theorem eq_of_names_eq : ∀ {xs ys : List (Str × Str)}, xs.map Prod.fst = ys.map Prod.fst → (xs.map Prod.fst).Nodup →
    (∀ l ∈ xs, l ∈ ys) → xs = ys
  | [], ys, hn, _, _ => by
    cases ys with
    | nil => rfl
    | cons y ys => cases hn
  | x :: xs, ys, hn, hd, hm => by
    cases ys with
    | nil => cases hn
    | cons y ys =>
      simp only [List.map_cons, List.cons.injEq] at hn
      simp only [List.map_cons, List.nodup_cons] at hd
      have hy : y.1 ∉ ys.map Prod.fst := by rw [← hn.1, ← hn.2]; exact hd.1
      have hxy : x = y := by
        rcases List.mem_cons.1 (hm x List.mem_cons_self) with h | h
        · exact h
        · exact absurd (List.mem_map.2 ⟨x, h, hn.1⟩) hy
      subst hxy
      refine congrArg (x :: ·) (eq_of_names_eq hn.2 hd.2 (fun l hl => ?_))
      rcases List.mem_cons.1 (hm l (List.mem_cons_of_mem _ hl)) with h | h
      · subst h; exact absurd (List.mem_map.2 ⟨l, hl, rfl⟩) hd.1
      · exact h

/-- **Within one scheme of distinct label names, one label set is one list of labels.** -/
theorem sameSeries_iff {a b : Sample} (hn : a.labels.map Prod.fst = b.labels.map Prod.fst)
    (hd : (a.labels.map Prod.fst).Nodup) : SameSeries a b ↔ a.name = b.name ∧ a.labels = b.labels := by
  constructor
  · rintro ⟨h, hl⟩
    exact ⟨h, eq_of_names_eq hn hd (fun l => (hl l).1)⟩
  · rintro ⟨h, hl⟩
    exact ⟨h, fun l => by rw [hl]⟩

/-! ## Reading back -/

def escapeChar (c : Char) : Str :=
  if c = '\\' then ['\\', '\\'] else if c = '\n' then ['\\', 'n'] else if c = '"' then ['\\', '"'] else [c]

theorem escape_cons (c : Char) (s : Str) : escape (c :: s) = escapeChar c ++ escape s := by
  unfold escape escapeChar
  rw [show c :: s = [c] ++ s from rfl, Py.replaceChar_append, Py.replaceChar_append, Py.replaceChar_append]
  congr 1
  by_cases h1 : c = '\\'
  · subst h1; decide
  · by_cases h2 : c = '\n'
    · subst h2; decide
    · by_cases h3 : c = '"'
      · subst h3; decide
      · simp [replaceChar, h1, h2, h3]

theorem readQuoted_escape : ∀ (s rest : Str), readQuoted (escape s ++ '"' :: rest) = some (s, rest)
  | [], rest => by simp [escape, readQuoted]
  | c :: s, rest => by
    have ih := readQuoted_escape s rest
    rw [escape_cons, List.append_assoc]
    unfold escapeChar
    by_cases h1 : c = '\\'
    · subst h1; simp [readQuoted, ih]
    · by_cases h2 : c = '\n'
      · subst h2; simp [readQuoted, ih]
      · by_cases h3 : c = '"'
        · subst h3; simp [readQuoted, ih]
        · simp only [h1, h2, h3, if_false, List.singleton_append]
          rw [readQuoted.eq_def]
          split
          · rename_i h; cases h
          · rename_i h; simp only [List.cons.injEq] at h; exact absurd h.1 h3
          · rename_i h; simp only [List.cons.injEq] at h; exact absurd h.1 h1
          · rename_i h; simp only [List.cons.injEq] at h; exact absurd h.1 h1
          · rename_i h; simp only [List.cons.injEq] at h; exact absurd h.1 h1
          · rename_i h; simp only [List.cons.injEq] at h; exact absurd h.1 h1
          · rename_i h
            simp only [List.cons.injEq] at h
            rw [← h.1, ← h.2, ih]
            rfl

theorem not_mem_escape (s : Str) : '\n' ∉ escape s := by
  induction s with
  | nil => simp [escape]
  | cons c s ih =>
    rw [escape_cons, List.mem_append, not_or]
    refine ⟨?_, ih⟩
    unfold escapeChar
    split
    · decide
    · split
      · decide
      · split
        · decide
        · rename_i h _
          simpa using Ne.symm h

/-- What a sample must be for its line to be read back. -/
structure Sample.Valid (s : Sample) : Prop where
  name_ne : s.name ≠ []
  name_chars : s.name.all isNameChar = true
  label_chars : ∀ l ∈ s.labels, l.1.all isNameChar = true
  value_line : '\n' ∉ s.value

theorem span_name {name : Str} (rest : Str) {c : Char} (h : name.all isNameChar = true) (hc : isNameChar c = false) :
    (name ++ c :: rest).takeWhile isNameChar = name ∧ (name ++ c :: rest).dropWhile isNameChar = c :: rest := by
  have ha : ∀ x ∈ name, isNameChar x = true := List.all_eq_true.1 h
  constructor
  · rw [List.takeWhile_append_of_pos ha, List.takeWhile_cons, hc]; simp
  · rw [List.dropWhile_append_of_pos ha, List.dropWhile_cons, hc]; simp

theorem readLabels_labelsText (rest : Str) : ∀ (labels : List (Str × Str)) (fuel : Nat), labels ≠ [] →
    labels.length ≤ fuel → (∀ l ∈ labels, l.1.all isNameChar = true) →
    readLabels fuel (labelsText labels ++ '}' :: rest) = some (labels, rest)
  | [], _, h, _, _ => absurd rfl h
  | [l], 0, _, hf, _ => by simp at hf
  | [l], fuel + 1, _, _, hc => by
    have hl := hc l (by simp)
    obtain ⟨ht, hd⟩ := span_name ('"' :: (escape l.2 ++ '"' :: '}' :: rest)) hl (show isNameChar '=' = false from rfl)
    rw [show labelsText [l] ++ '}' :: rest = l.1 ++ '=' :: '"' :: (escape l.2 ++ '"' :: '}' :: rest) from by
      simp [labelsText, join, labelText], readLabels, hd, ht]
    simp only [readQuoted_escape]
  | l :: l' :: ls, 0, _, hf, _ => by simp at hf
  | l :: l' :: ls, fuel + 1, _, hf, hc => by
    have hl := hc l (by simp)
    have ih := readLabels_labelsText rest (l' :: ls) fuel (by simp) (by simpa using hf)
      (fun x hx => hc x (List.mem_cons_of_mem _ hx))
    obtain ⟨ht, hd⟩ := span_name ('"' :: (escape l.2 ++ '"' :: ',' :: (labelsText (l' :: ls) ++ '}' :: rest))) hl
      (show isNameChar '=' = false from rfl)
    rw [show labelsText (l :: l' :: ls) ++ '}' :: rest =
        l.1 ++ '=' :: '"' :: (escape l.2 ++ '"' :: ',' :: (labelsText (l' :: ls) ++ '}' :: rest)) from by
      simp [labelsText, join, labelText], readLabels, hd, ht]
    simp only [readQuoted_escape, ih, Option.map_some]

theorem length_le_labelsText : ∀ (labels : List (Str × Str)), labels.length ≤ (labelsText labels).length
  | [] => by simp
  | [l] => by
    simp only [labelsText, join, labelText, List.map_cons, List.map_nil, List.length_cons, List.length_nil,
      List.length_append]
    omega
  | l :: l' :: ls => by
    have ih := length_le_labelsText (l' :: ls)
    have e : labelsText (l :: l' :: ls) = labelText l ++ ',' :: labelsText (l' :: ls) := by simp [labelsText, join]
    rw [e]
    simp only [List.length_cons, List.length_append] at ih ⊢
    omega

/-- **A sample's line is read back as the sample.** -/
theorem parseSample_line {s : Sample} (h : s.Valid) : parseSample s.line = some s := by
  unfold Sample.line
  by_cases hl : s.labels = []
  · obtain ⟨ht, hd⟩ := span_name s.value h.name_chars (show isNameChar ' ' = false from rfl)
    rw [if_pos hl, parseSample, hd, ht]
    simp only [← hl]
  · obtain ⟨ht, hd⟩ := span_name (labelsText s.labels ++ '}' :: ' ' :: s.value) h.name_chars
      (show isNameChar '{' = false from rfl)
    have hfuel : s.labels.length ≤ (s.name ++ '{' :: (labelsText s.labels ++ '}' :: ' ' :: s.value)).length := by
      have := length_le_labelsText s.labels
      simp only [List.length_append, List.length_cons]
      omega
    rw [if_neg hl, parseSample, hd, ht]
    simp only [readLabels_labelsText _ _ _ hl hfuel h.label_chars]

theorem not_mem_of_isNameChar {name : Str} (h : name.all isNameChar = true) : '\n' ∉ name := fun hm => by
  have := List.all_eq_true.1 h '\n' hm
  exact absurd this (by decide)

theorem not_mem_join {c : Char} {sep : Str} (hs : c ∉ sep) : ∀ {parts : List Str}, (∀ p ∈ parts, c ∉ p) →
    c ∉ join sep parts
  | [], _ => by simp [join]
  | [p], h => by simpa [join] using h p (by simp)
  | p :: q :: rest, h => by
    rw [join]
    · simp only [List.mem_append, not_or]
      exact ⟨⟨h p (by simp), hs⟩, not_mem_join hs (fun x hx => h x (List.mem_cons_of_mem _ hx))⟩
    · simp

theorem not_mem_labelText {l : Str × Str} (h : l.1.all isNameChar = true) : '\n' ∉ labelText l := by
  have h1 := not_mem_of_isNameChar h
  have h2 := not_mem_escape l.2
  simp [labelText, h1, h2]

theorem not_mem_line {s : Sample} (h : s.Valid) : '\n' ∉ s.line := by
  have h1 := not_mem_of_isNameChar h.name_chars
  have h2 := h.value_line
  have h3 : '\n' ∉ labelsText s.labels := by
    refine not_mem_join (by decide) (fun p hp => ?_)
    obtain ⟨l, hl, rfl⟩ := List.mem_map.1 hp
    exact not_mem_labelText (h.label_chars l hl)
  unfold Sample.line
  split
  · simp [h1, h2]
  · simp [h1, h2, h3]

theorem line_shown {s : Sample} (h : s.Valid) : s.line ≠ [] ∧ s.line.head? ≠ some '#' := by
  obtain ⟨c, name, hn⟩ := List.exists_cons_of_ne_nil h.name_ne
  have hc : isNameChar c = true := List.all_eq_true.1 h.name_chars c (by simp [hn])
  have hne : c ≠ '#' := fun he => by rw [he] at hc; exact absurd hc (by decide)
  unfold Sample.line
  rw [hn]
  split <;> simp [hne]

/-- What a family must be for its lines to stand one by one. -/
structure Family.Valid (f : Family) : Prop where
  name_line : '\n' ∉ f.name
  help_line : '\n' ∉ f.help
  type_line : '\n' ∉ f.type
  samples_valid : ∀ s ∈ f.samples, s.Valid

theorem shownLines_family {f : Family} (h : f.Valid) :
    f.lines.filter (fun line => line ≠ [] && line.head? ≠ some '#') = f.samples.map Sample.line := by
  have hs : (f.samples.map Sample.line).filter (fun line => line ≠ [] && line.head? ≠ some '#') =
      f.samples.map Sample.line := by
    rw [List.filter_eq_self]
    intro line hl
    obtain ⟨s, hs, rfl⟩ := List.mem_map.1 hl
    have := line_shown (h.samples_valid s hs)
    simp [this.1, this.2]
  rw [Family.lines, List.filter_cons_of_neg (by simp), List.filter_cons_of_neg (by simp), List.filter_append, hs]
  simp

theorem not_mem_family_lines {f : Family} (h : f.Valid) : ∀ line ∈ f.lines, '\n' ∉ line := by
  intro line hl
  simp only [Family.lines, List.mem_cons, List.mem_append, List.mem_map, List.not_mem_nil, or_false] at hl
  rcases hl with rfl | rfl | ⟨s, hs, rfl⟩ | rfl
  · simp [h.name_line, h.help_line]
  · simp [h.name_line, h.type_line]
  · exact not_mem_line (h.samples_valid s hs)
  · simp

/-- **The sample lines of a document are its samples', in order.** -/
theorem sampleLines_document {families : List Family} (hne : families ≠ []) (h : ∀ f ∈ families, f.Valid) :
    sampleLines (document families) = (families.flatMap Family.samples).map Sample.line := by
  have hlines : ∀ l ∈ families.flatMap Family.lines, '\n' ∉ l := by
    intro l hl
    obtain ⟨f, hf, hl⟩ := List.mem_flatMap.1 hl
    exact not_mem_family_lines (h f hf) l hl
  have hne' : families.flatMap Family.lines ≠ [] := by
    obtain ⟨f, fs, rfl⟩ := List.exists_cons_of_ne_nil hne
    simp [Family.lines]
  rw [sampleLines, document, Py.splitOn_join_ended '\n' _ hne' hlines, List.filter_append, List.filter_flatMap,
    List.map_flatMap]
  simp only [List.filter_cons, List.filter_nil]
  rw [List.flatMap_congr (fun f hf => shownLines_family (h f hf))]
  simp

/-- **A document is read back as its samples.** -/
theorem samples_document {families : List Family} (hne : families ≠ []) (h : ∀ f ∈ families, f.Valid) :
    samples (document families) = families.flatMap Family.samples := by
  rw [samples, sampleLines_document hne h, List.filterMap_map]
  have : ∀ s ∈ families.flatMap Family.samples, (parseSample ∘ Sample.line) s = some s := by
    intro s hs
    obtain ⟨f, hf, hs⟩ := List.mem_flatMap.1 hs
    exact parseSample_line ((h f hf).samples_valid s hs)
  rw [List.filterMap_congr this]
  exact List.filterMap_some

end Exposition
