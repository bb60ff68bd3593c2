import Mathlib
import TtMetricsExporter.Posix
/-!
# Descriptor — system calls over a table of open descriptors

A kernel answers every call as it likes, from a state of its own; only the number of a new descriptor is never one that
is open.  A process is what its calls leave: the table of open descriptors, the descriptor fields of the objects it
made, a log, and whether a call was ever made on a descriptor that was not open.  A computation may raise; what is
proved of one is what it leaves whether it returns or raises.
-/
namespace Descriptor

open Py (Str)
open Posix (Errno Path)

structure Status where
  directory : Bool
  regular : Bool
  links : Nat
  size : Nat

/-- What `open` is asked for: a path, or a name in an open directory. -/
inductive Opening where
  | path (path : Path) (directoryOnly : Bool)
  | entry (directory : Int) (name : Str) (directoryOnly : Bool)

def Opening.directory : Opening → Option Int
  | .path _ _ => none
  | .entry directory _ _ => some directory

/-- A call on an open descriptor.  A read answers how often it was interrupted before it ended, and how. -/
inductive Call : Type → Type where
  | fstat : Call (Except Errno Status)
  | read (length : Nat) : Call (Nat × Except Errno ByteArray)
  | listdir : Call (Except Errno (List Str))

/-- A call that leaves no descriptor behind. -/
inductive Query : Type → Type where
  | stat : Query (Except Errno Status)
  | listdir : Query (Except Errno (List Str))
  | readlink : Query (Except Errno Str)

structure Kernel (σ : Type) where
  number : Finset Int → σ → Int
  number_nonneg : ∀ table s, 0 ≤ number table s
  number_not_mem : ∀ table s, number table s ∉ table
  opens : Opening → Int → σ → Option Errno × σ
  call : {ρ : Type} → Int → Call ρ → σ → ρ × σ
  query : {ρ : Type} → Path → Query ρ → σ → ρ × σ
  closed : Int → σ → σ

structure Process (σ ω : Type) where
  system : σ
  table : Finset Int
  handles : List Int
  misused : Bool
  log : List ω

/-- An object that owns a descriptor, by its place among the objects made. -/
structure Handle where
  index : Nat
  deriving DecidableEq

/-- The descriptor field of an object; it is negative once the object is closed. -/
def Process.descriptor {σ ω : Type} (p : Process σ ω) (handle : Handle) : Int := p.handles.getD handle.index (-1)

/-- A number of a descriptor that is open. -/
def Process.Holds {σ ω : Type} (p : Process σ ω) (fd : Int) : Prop := 0 ≤ fd ∧ fd ∈ p.table

instance {σ ω : Type} (p : Process σ ω) (fd : Int) : Decidable (p.Holds fd) := inferInstanceAs (Decidable (_ ∧ _))

abbrev Io (σ ω ε α : Type) := EStateM ε (Process σ ω) α

section Calls
variable {σ ω ε : Type} (K : Kernel σ)

def openFile (opening : Opening) : Io σ ω ε (Except Errno Int) := fun p =>
  let fd := K.number p.table p.system
  let misused := p.misused || opening.directory.any (fun directory => decide (¬ p.Holds directory))
  match K.opens opening fd p.system with
  | (some e, system) => .ok (.error e) { p with system := system, misused := misused }
  | (none, system) => .ok (.ok fd) { p with system := system, misused := misused, table := insert fd p.table }

def call {ρ : Type} (fd : Int) (c : Call ρ) : Io σ ω ε ρ := fun p =>
  .ok (K.call fd c p.system).1
    { p with system := (K.call fd c p.system).2, misused := p.misused || decide (¬ p.Holds fd) }

def query {ρ : Type} (path : Path) (q : Query ρ) : Io σ ω ε ρ := fun p =>
  .ok (K.query path q p.system).1 { p with system := (K.query path q p.system).2 }

def closeFile (fd : Int) : Io σ ω ε Unit := fun p =>
  .ok () { p with
    system := K.closed fd p.system
    table := p.table.erase fd
    misused := p.misused || decide (¬ p.Holds fd) }

/-- A new object that owns a descriptor. -/
def newHandle (fd : Int) : Io σ ω ε Handle := fun p =>
  .ok ⟨p.handles.length⟩ { p with handles := p.handles ++ [fd] }

def descriptorOf (handle : Handle) : Io σ ω ε Int := fun p => .ok (p.descriptor handle) p

def setDescriptor (handle : Handle) (fd : Int) : Io σ ω ε Unit := fun p =>
  .ok () { p with handles := p.handles.set handle.index fd }

def record (entries : List ω) : Io σ ω ε Unit := fun p => .ok () { p with log := p.log ++ entries }

/-- `close`: the descriptor of an object that is closed already is not closed again. -/
def closeHandle (handle : Handle) : Io σ ω ε Unit := do
  let fd ← descriptorOf handle
  if 0 ≤ fd then
    closeFile K fd
    setDescriptor handle (-1)

/-- `with handle: body`. -/
def withHandle {α : Type} (handle : Handle) (body : Io σ ω ε α) : Io σ ω ε α :=
  tryFinally body (closeHandle K handle)

def closeHandles : List Handle → Io σ ω ε Unit
  | [] => pure ()
  | handle :: rest => do
    closeHandle K handle
    closeHandles rest

/-! ## Loops -/

/-- The first result of `f` that is one, with the calls up to it. -/
def firstSome {α β : Type} (f : α → Io σ ω ε (Option β)) : List α → Io σ ω ε (Option β)
  | [] => pure none
  | a :: rest => do
    match ← f a with
    | some b => return some b
    | none => firstSome f rest

/-- Every result of `f` that is one. -/
def each {α β : Type} (f : α → Io σ ω ε (Option β)) : List α → Io σ ω ε (List β)
  | [] => pure []
  | a :: rest => do
    let b ← f a
    let bs ← each f rest
    return b.toList ++ bs

end Calls

/-! ## What a computation leaves -/

section Rules
variable {σ ω ε α β : Type} {K : Kernel σ}

/-- The process after a computation, however it ends. -/
def after (x : Io σ ω ε α) (p : Process σ ω) : Process σ ω :=
  match x p with
  | .ok _ q => q
  | .error _ q => q

/-- What was there is as it was: the same table, no misuse, and the same descriptors in the same objects. -/
structure Frame (p q : Process σ ω) : Prop where
  table : q.table = p.table
  misused : q.misused = p.misused
  handles : p.handles <+: q.handles

theorem Frame.refl (p : Process σ ω) : Frame p p := ⟨rfl, rfl, List.prefix_refl _⟩

theorem Frame.trans {p q r : Process σ ω} (h : Frame p q) (h' : Frame q r) : Frame p r :=
  ⟨h'.table.trans h.table, h'.misused.trans h.misused, h.handles.trans h'.handles⟩

/-- The object owns an open descriptor. -/
def IsOpen (p : Process σ ω) (handle : Handle) : Prop := p.Holds (p.descriptor handle)

theorem descriptor_of_initial {p q : Process σ ω} (h : p.handles <+: q.handles) {handle : Handle}
    (h0 : 0 ≤ p.descriptor handle) : q.descriptor handle = p.descriptor handle := by
  unfold Process.descriptor at h0 ⊢
  have hlt : handle.index < p.handles.length := by
    by_contra hge
    rw [List.getD_eq_default _ _ (by omega)] at h0
    omega
  obtain ⟨rest, hq⟩ := h
  rw [← hq, List.getD_append _ _ _ _ hlt]

theorem IsOpen.frame {p q : Process σ ω} {handle : Handle} (h : IsOpen p handle) (hf : Frame p q) : IsOpen q handle := by
  unfold IsOpen Process.Holds
  rw [descriptor_of_initial hf.handles h.1, hf.table]
  exact h

/-- Run where the handles are open, the computation leaves everything as it was. -/
def Balanced (handles : List Handle) (x : Io σ ω ε α) : Prop :=
  ∀ p, (∀ h ∈ handles, IsOpen p h) → Frame p (after x p)

/-- The same of one that needs a descriptor. -/
def Using (fd : Int) (x : Io σ ω ε α) : Prop := ∀ p, p.Holds fd → Frame p (after x p)

/-- What holds of a result and of the process it leaves, and of the process that an exception leaves. -/
def Leaves (x : Io σ ω ε α) (p : Process σ ω) (returned : α → Process σ ω → Prop) (raised : Process σ ω → Prop) : Prop :=
  match x p with
  | .ok a q => returned a q
  | .error _ q => raised q

theorem bind_ok {x : Io σ ω ε α} {f : α → Io σ ω ε β} {p q : Process σ ω} {a : α} (h : x p = .ok a q) :
    (x >>= f) p = f a q := by
  show EStateM.bind x f p = _
  rw [EStateM.bind, h]

theorem leaves_bind (x : Io σ ω ε α) (f : α → Io σ ω ε β) (p : Process σ ω) (returned : β → Process σ ω → Prop)
    (raised : Process σ ω → Prop) : Leaves (x >>= f) p returned raised ↔
      Leaves x p (fun a q => Leaves (f a) q returned raised) raised := by
  show (match EStateM.bind x f p with | .ok b q => returned b q | .error _ q => raised q) ↔ _
  unfold EStateM.bind Leaves
  cases x p <;> rfl

theorem Leaves.mono {x : Io σ ω ε α} {p : Process σ ω} {returned returned' : α → Process σ ω → Prop}
    {raised raised' : Process σ ω → Prop} (h : Leaves x p returned raised) (hr : ∀ a q, returned a q → returned' a q)
    (he : ∀ q, raised q → raised' q) : Leaves x p returned' raised' := by
  unfold Leaves at h ⊢
  cases hx : x p with
  | ok a q => rw [hx] at h; exact hr a q h
  | error e q => rw [hx] at h; exact he q h

theorem leaves_frame {x : Io σ ω ε α} {p q : Process σ ω} : Leaves x q (fun _ => Frame p) (Frame p) ↔ Frame p (after x q) := by
  unfold Leaves after
  cases x q <;> rfl

/-- What leaves everything as it was may be followed by what does. -/
theorem frame_bind {p q : Process σ ω} {x : Io σ ω ε α} {f : α → Io σ ω ε β} (hx : Frame p (after x q))
    (hf : ∀ a r, Frame p r → Frame r (after (f a) r)) : Frame p (after (x >>= f) q) := by
  rw [← leaves_frame, leaves_bind]
  exact (leaves_frame.2 hx).mono (fun a r h => leaves_frame.2 (h.trans (hf a r h))) (fun r h => h)

theorem after_tryFinally (x : Io σ ω ε α) (cleanup : Io σ ω ε Unit) (p : Process σ ω) :
    after (tryFinally x cleanup) p = after cleanup (after x p) := by
  unfold after
  simp only [tryFinally, tryFinally', Functor.map, EStateM.map]
  cases hx : x p with
  | ok a q => cases hc : cleanup q <;> simp [hc]
  | error e q => cases hc : cleanup q <;> simp [hc]

theorem Balanced.bind {handles : List Handle} {x : Io σ ω ε α} {f : α → Io σ ω ε β} (hx : Balanced handles x)
    (hf : ∀ a, Balanced handles (f a)) : Balanced handles (x >>= f) :=
  fun p hp => frame_bind (hx p hp) (fun a q h => hf a q (fun handle hh => (hp handle hh).frame h))

theorem Balanced.pure {handles : List Handle} (a : α) : Balanced handles (Pure.pure a : Io σ ω ε α) :=
  fun p _ => Frame.refl p

theorem Balanced.throw {handles : List Handle} (e : ε) : Balanced handles (throw e : Io σ ω ε α) :=
  fun p _ => Frame.refl p

theorem Balanced.record {handles : List Handle} (entries : List ω) :
    Balanced handles (record entries : Io σ ω ε Unit) := fun _ _ => ⟨rfl, rfl, List.prefix_refl _⟩

theorem Balanced.query {handles : List Handle} {ρ : Type} (path : Path) (q : Query ρ) :
    Balanced handles (query K path q : Io σ ω ε ρ) := fun _ _ => ⟨rfl, rfl, List.prefix_refl _⟩

theorem Balanced.each {handles : List Handle} {f : α → Io σ ω ε (Option β)} (h : ∀ a, Balanced handles (f a)) :
    ∀ l, Balanced handles (each f l)
  | [] => .pure _
  | a :: rest => .bind (h a) (fun _ => .bind (Balanced.each h rest) (fun _ => .pure _))

/-! ### One descriptor -/

theorem misused_of_holds {fd : Int} {p : Process σ ω} (h : p.Holds fd) :
    (p.misused || decide (¬ p.Holds fd)) = p.misused := by
  rw [decide_eq_false (not_not.2 h), Bool.or_false]

theorem frame_call {ρ : Type} {fd : Int} (c : Call ρ) {p : Process σ ω} (h : p.Holds fd) :
    Frame p (after (call K fd c : Io σ ω ε ρ) p) :=
  ⟨rfl, misused_of_holds h, List.prefix_refl _⟩

theorem Balanced.call {handles : List Handle} {handle : Handle} (h : handle ∈ handles) {ρ : Type} (c : Call ρ) :
    Balanced handles (do let fd ← descriptorOf handle; call K fd c : Io σ ω ε ρ) := by
  intro p hp
  exact frame_call (ε := ε) c (hp handle h)

theorem Using.call (fd : Int) {ρ : Type} (c : Call ρ) : Using fd (call K fd c : Io σ ω ε ρ) :=
  fun _ hp => frame_call c hp

theorem Using.bind {fd : Int} {x : Io σ ω ε α} {f : α → Io σ ω ε β} (hx : Using fd x) (hf : ∀ a, Using fd (f a)) :
    Using fd (x >>= f) :=
  fun p hp => frame_bind (hx p hp) (fun a q h => hf a q ⟨hp.1, h.table ▸ hp.2⟩)

theorem Balanced.using {fd : Int} {x : Io σ ω ε α} (h : Balanced [] x) : Using fd x :=
  fun p _ => h p (fun _ hh => absurd hh List.not_mem_nil)

/-- A new descriptor, and nothing else, has come to the table. -/
structure Acquired (fd : Int) (p q : Process σ ω) : Prop where
  nonneg : 0 ≤ fd
  new : fd ∉ p.table
  table : q.table = insert fd p.table
  misused : q.misused = p.misused
  handles : q.handles = p.handles

/-- What an `open` leaves: a new descriptor, or everything as it was. -/
def Opening.Spec (handles : List Handle) (x : Io σ ω ε (Except Errno Int)) : Prop :=
  ∀ p, (∀ h ∈ handles, IsOpen p h) → ∃ answer q, x p = .ok answer q ∧
    match answer with
    | .error _ => Frame p q
    | .ok fd => Acquired fd p q

theorem openFile_spec {p : Process σ ω} (opening : Opening) (h : ∀ directory ∈ opening.directory, p.Holds directory) :
    ∃ answer q, (openFile K opening : Io σ ω ε _) p = .ok answer q ∧
      match answer with
      | .error _ => Frame p q
      | .ok fd => Acquired fd p q := by
  have hmisused : (p.misused || opening.directory.any (fun directory => decide (¬ p.Holds directory))) = p.misused := by
    cases hd : opening.directory with
    | none => simp
    | some directory => simp [h directory hd]
  unfold openFile
  simp only [hmisused]
  cases ho : K.opens opening (K.number p.table p.system) p.system with
  | mk refusal system =>
    cases refusal with
    | some e => exact ⟨_, _, rfl, rfl, rfl, List.prefix_refl _⟩
    | none => exact ⟨_, _, rfl, K.number_nonneg _ _, K.number_not_mem _ _, rfl, rfl, rfl⟩

theorem opening_path (handles : List Handle) (path : Path) (directoryOnly : Bool) :
    Opening.Spec handles (openFile K (.path path directoryOnly) : Io σ ω ε _) :=
  fun _ _ => openFile_spec _ (fun directory hd => absurd hd (Option.not_mem_none directory))

theorem opening_entry {handles : List Handle} {handle : Handle} (h : handle ∈ handles) (name : Str) (directoryOnly : Bool) :
    Opening.Spec handles (do
      let fd ← descriptorOf handle
      openFile K (.entry fd name directoryOnly) : Io σ ω ε _) := by
  intro p hp
  refine openFile_spec (.entry (p.descriptor handle) name directoryOnly) (fun directory hd => ?_)
  obtain rfl : p.descriptor handle = directory := Option.some.inj hd
  exact hp handle h

/-- Run with a descriptor that was just opened, the computation closes it and leaves everything else as it was. -/
def Closing (handles : List Handle) (fd : Int) (x : Io σ ω ε α) : Prop :=
  ∀ p q, (∀ h ∈ handles, IsOpen p h) → Acquired fd p q → Frame p (after x q)

theorem Balanced.opening {handles : List Handle} {x : Io σ ω ε (Except Errno Int)} {f : Except Errno Int → Io σ ω ε α}
    (hx : Opening.Spec handles x) (herror : ∀ e, Balanced handles (f (.error e)))
    (hok : ∀ fd, Closing handles fd (f (.ok fd))) : Balanced handles (x >>= f) := by
  intro p hp
  obtain ⟨answer, q, hq, hspec⟩ := hx p hp
  unfold after
  rw [bind_ok hq]
  cases answer with
  | error e => exact Frame.trans hspec (herror e q (fun h hh => (hp h hh).frame hspec))
  | ok fd => exact hok fd p q hp hspec

/-- `try: ... finally: os.close(fd)`, and what comes after it. -/
theorem Closing.closed {handles : List Handle} {fd : Int} {x : Io σ ω ε α} {f : α → Io σ ω ε β} (hx : Using fd x)
    (hf : ∀ a, Balanced handles (f a)) : Closing handles fd (tryFinally x (closeFile K fd) >>= f) := by
  intro p q hp h
  refine frame_bind ?_ (fun a r hr => hf a r (fun handle hh => (hp handle hh).frame hr))
  rw [after_tryFinally]
  have hbody := hx q ⟨h.nonneg, h.table ▸ Finset.mem_insert_self fd _⟩
  have hheld : (after x q).Holds fd := by
    refine ⟨h.nonneg, ?_⟩
    rw [hbody.table, h.table]
    exact Finset.mem_insert_self fd _
  refine ⟨?_, ?_, ?_⟩
  · show (after x q).table.erase fd = p.table
    rw [hbody.table, h.table, Finset.erase_insert h.new]
  · exact (misused_of_holds hheld).trans (hbody.misused.trans h.misused)
  · show p.handles <+: (after x q).handles
    rw [← h.handles]
    exact hbody.handles

theorem Closing.closed_last {handles : List Handle} {fd : Int} {x : Io σ ω ε α} (hx : Using fd x) :
    Closing handles fd (tryFinally x (closeFile K fd)) := by
  have h : Closing handles fd (tryFinally x (closeFile K fd) >>= Pure.pure) := .closed hx .pure
  rwa [bind_pure] at h

/-! ### Objects that own a descriptor -/

/-- Some objects have been made, each owning a new descriptor; everything else is as it was. -/
structure Owns (owned : List Handle) (p q : Process σ ω) : Prop where
  distinct : (owned.map q.descriptor).Nodup
  nonneg : ∀ h ∈ owned, 0 ≤ q.descriptor h
  made : ∀ h ∈ owned, p.handles.length ≤ h.index
  new : ∀ h ∈ owned, q.descriptor h ∉ p.table
  table : q.table = p.table ∪ (owned.map q.descriptor).toFinset
  misused : q.misused = p.misused
  handles : p.handles <+: q.handles

theorem owns_nil_iff {p q : Process σ ω} : Owns [] p q ↔ Frame p q := by
  constructor
  · intro h
    exact ⟨by simpa using h.table, h.misused, h.handles⟩
  · intro h
    exact ⟨List.nodup_nil, fun _ hh => absurd hh List.not_mem_nil, fun _ hh => absurd hh List.not_mem_nil,
      fun _ hh => absurd hh List.not_mem_nil, by simpa using h.table, h.misused, h.handles⟩

theorem Owns.isOpen {owned : List Handle} {p q : Process σ ω} (h : Owns owned p q) {handle : Handle}
    (hh : handle ∈ owned) : IsOpen q handle := by
  refine ⟨h.nonneg handle hh, ?_⟩
  rw [h.table, Finset.mem_union, List.mem_toFinset]
  exact Or.inr (List.mem_map_of_mem hh)

theorem Owns.others {owned : List Handle} {p q : Process σ ω} (h : Owns owned p q) {handle : Handle}
    (hh : IsOpen p handle) : IsOpen q handle := by
  unfold IsOpen Process.Holds
  rw [descriptor_of_initial h.handles hh.1, h.table]
  exact ⟨hh.1, Finset.mem_union_left _ hh.2⟩

/-- What is owned stays owned through what leaves everything as it was. -/
theorem Owns.frame {owned : List Handle} {p q r : Process σ ω} (h : Owns owned p q) (hf : Frame q r) :
    Owns owned p r := by
  have hsame : ∀ handle ∈ owned, r.descriptor handle = q.descriptor handle :=
    fun handle hh => descriptor_of_initial hf.handles (h.nonneg handle hh)
  have hmap : owned.map r.descriptor = owned.map q.descriptor := List.map_congr_left hsame
  refine ⟨hmap ▸ h.distinct, fun a ha => hsame a ha ▸ h.nonneg a ha, h.made, fun a ha => hsame a ha ▸ h.new a ha, ?_,
    hf.misused.trans h.misused, h.handles.trans hf.handles⟩
  rw [hmap, hf.table, h.table]

theorem Owns.since {owned : List Handle} {p q r : Process σ ω} (h : Owns owned q r) (hf : Frame p q) : Owns owned p r :=
  ⟨h.distinct, h.nonneg, fun a ha => hf.handles.length_le.trans (h.made a ha), fun a ha => hf.table ▸ h.new a ha,
    hf.table ▸ h.table, h.misused.trans hf.misused, hf.handles.trans h.handles⟩

/-- What is owned in two steps. -/
theorem Owns.append {owned more : List Handle} {p q r : Process σ ω} (h : Owns owned p q) (h' : Owns more q r) :
    Owns (owned ++ more) p r := by
  have hsame : ∀ handle ∈ owned, r.descriptor handle = q.descriptor handle :=
    fun handle hh => descriptor_of_initial h'.handles (h.nonneg handle hh)
  have hmap : owned.map r.descriptor = owned.map q.descriptor := List.map_congr_left hsame
  have hold : ∀ handle ∈ owned, r.descriptor handle ∈ q.table := fun handle hh => hsame handle hh ▸ (h.isOpen hh).2
  refine ⟨?_, ?_, ?_, ?_, ?_, h'.misused.trans h.misused, h.handles.trans h'.handles⟩
  · rw [List.map_append, List.nodup_append]
    refine ⟨hmap ▸ h.distinct, h'.distinct, ?_⟩
    rintro _ ha _ hb rfl
    obtain ⟨a, hamem, rfl⟩ := List.mem_map.1 ha
    obtain ⟨b, hbmem, hab⟩ := List.mem_map.1 hb
    exact h'.new b hbmem (hab ▸ hold a hamem)
  · rintro a ha
    rcases List.mem_append.1 ha with ha | ha
    · exact hsame a ha ▸ h.nonneg a ha
    · exact h'.nonneg a ha
  · rintro a ha
    rcases List.mem_append.1 ha with ha | ha
    · exact h.made a ha
    · exact h.handles.length_le.trans (h'.made a ha)
  · rintro a ha
    rcases List.mem_append.1 ha with ha | ha
    · exact hsame a ha ▸ h.new a ha
    · intro hmem
      refine h'.new a ha ?_
      rw [h.table]
      exact Finset.mem_union_left _ hmem
  · rw [h'.table, h.table, List.map_append, hmap, List.toFinset_append, Finset.union_assoc]

theorem closeHandle_open {handle : Handle} {q : Process σ ω} (h : 0 ≤ q.descriptor handle) :
    (closeHandle K handle : Io σ ω ε Unit) q = .ok () { q with
      system := K.closed (q.descriptor handle) q.system
      table := q.table.erase (q.descriptor handle)
      misused := q.misused || decide (¬ q.Holds (q.descriptor handle))
      handles := q.handles.set handle.index (-1) } := by
  show (if 0 ≤ q.descriptor handle then (do
    closeFile K (q.descriptor handle)
    setDescriptor handle (-1) : Io σ ω ε Unit) else Pure.pure ()) q = _
  rw [if_pos h]
  rfl

theorem descriptor_set {q q' : Process σ ω} (handle other : Handle)
    (hq : q'.handles = q.handles.set handle.index (-1)) (hne : handle.index ≠ other.index) :
    q'.descriptor other = q.descriptor other := by
  unfold Process.descriptor
  rw [hq, List.getD_eq_getElem?_getD, List.getD_eq_getElem?_getD, List.getElem?_set_ne hne]

/-- Of the objects that are owned, the first is closed. -/
theorem Owns.close {handle : Handle} {owned : List Handle} {p q : Process σ ω} (h : Owns (handle :: owned) p q) :
    ∃ r, (closeHandle K handle : Io σ ω ε Unit) q = .ok () r ∧ Owns owned p r := by
  refine ⟨_, closeHandle_open (h.nonneg handle List.mem_cons_self), ?_⟩
  have hdistinct := h.distinct
  rw [List.map_cons, List.nodup_cons] at hdistinct
  obtain ⟨hnot, hnodup⟩ := hdistinct
  -- an object with another descriptor is another object
  have hkept : ∀ a ∈ owned, Process.descriptor { q with
      system := K.closed (q.descriptor handle) q.system
      table := q.table.erase (q.descriptor handle)
      misused := q.misused || decide (¬ q.Holds (q.descriptor handle))
      handles := q.handles.set handle.index (-1) } a = q.descriptor a := by
    intro a ha
    refine descriptor_set handle a rfl (fun he => hnot ?_)
    have hsame : q.descriptor handle = q.descriptor a := by
      unfold Process.descriptor
      rw [he]
    exact hsame ▸ List.mem_map_of_mem ha
  have hmap := List.map_congr_left hkept
  have hopen : IsOpen q handle := h.isOpen List.mem_cons_self
  refine ⟨hmap ▸ hnodup, fun a ha => hkept a ha ▸ h.nonneg a (List.mem_cons_of_mem _ ha),
    fun a ha => h.made a (List.mem_cons_of_mem _ ha), fun a ha => hkept a ha ▸ h.new a (List.mem_cons_of_mem _ ha),
    ?_, ?_, ?_⟩
  · rw [hmap]
    show q.table.erase (q.descriptor handle) = _
    have hnew : q.descriptor handle ∉ p.table ∪ (owned.map q.descriptor).toFinset := by
      rw [Finset.mem_union, List.mem_toFinset, not_or]
      exact ⟨h.new handle List.mem_cons_self, hnot⟩
    rw [h.table, List.map_cons, List.toFinset_cons, Finset.union_insert, Finset.erase_insert hnew]
  · exact (misused_of_holds hopen).trans h.misused
  · show p.handles <+: q.handles.set handle.index (-1)
    have hmade := h.made handle List.mem_cons_self
    obtain ⟨rest, hrest⟩ := h.handles
    rw [← hrest, List.set_append_right _ _ hmade]
    exact List.prefix_append _ _

theorem Owns.closeAll : ∀ {owned : List Handle} {p q : Process σ ω}, Owns owned p q →
    Frame p (after (closeHandles K owned : Io σ ω ε Unit) q)
  | [], p, q, h => owns_nil_iff.1 h
  | handle :: owned, p, q, h => by
    obtain ⟨r, hr, hrest⟩ := h.close (K := K) (ε := ε)
    unfold closeHandles after
    rw [bind_ok hr]
    exact hrest.closeAll

/-- What a computation that opens an object leaves: the object, if it returns one, and everything as it was otherwise. -/
def Opens (handles : List Handle) (x : Io σ ω ε (Option Handle)) : Prop :=
  ∀ p, (∀ h ∈ handles, IsOpen p h) → Leaves x p (fun opened q => Owns opened.toList p q) (Frame p)

/-- Run with an object that was just opened, the computation closes it and leaves everything else as it was. -/
def Closes (handles : List Handle) (handle : Handle) (x : Io σ ω ε α) : Prop :=
  ∀ p q, (∀ h ∈ handles, IsOpen p h) → Owns [handle] p q → Frame p (after x q)

theorem Balanced.opens {handles : List Handle} {x : Io σ ω ε (Option Handle)} {f : Option Handle → Io σ ω ε α}
    (hx : Opens handles x) (hnone : Balanced handles (f none)) (hsome : ∀ handle, Closes handles handle (f (some handle))) :
    Balanced handles (x >>= f) := by
  intro p hp
  rw [← leaves_frame, leaves_bind]
  refine (hx p hp).mono (fun opened q h => ?_) (fun q h => h)
  rw [leaves_frame]
  cases opened with
  | none =>
    have hf := owns_nil_iff.1 h
    exact hf.trans (hnone q (fun handle hh => (hp handle hh).frame hf))
  | some handle => exact hsome handle p q hp h

theorem Closes.withHandle {handles : List Handle} {handle : Handle} {x : Io σ ω ε α} {f : α → Io σ ω ε β}
    (hx : Balanced (handle :: handles) x) (hf : ∀ a, Balanced handles (f a)) :
    Closes handles handle (withHandle K handle x >>= f) := by
  intro p q hp h
  refine frame_bind ?_ (fun a r hr => hf a r (fun handle hh => (hp handle hh).frame hr))
  unfold Descriptor.withHandle
  rw [after_tryFinally]
  have hopen : ∀ a ∈ handle :: handles, IsOpen q a := by
    intro a ha
    rcases List.mem_cons.1 ha with rfl | ha
    · exact h.isOpen List.mem_cons_self
    · exact h.others (hp a ha)
  obtain ⟨r, hr, hclosed⟩ := (h.frame (hx q hopen)).close (K := K) (ε := ε)
  have hlast : after (closeHandle K handle : Io σ ω ε Unit) (after x q) = r := by
    unfold after at hr ⊢
    rw [hr]
  rw [hlast]
  exact owns_nil_iff.1 hclosed

/-- A directory that is closed after its use, with nothing after it. -/
theorem Closes.withHandle_last {handles : List Handle} {handle : Handle} {x : Io σ ω ε α}
    (hx : Balanced (handle :: handles) x) : Closes handles handle (Descriptor.withHandle K handle x) := by
  have h : Closes handles handle (Descriptor.withHandle K handle x >>= Pure.pure) := .withHandle hx .pure
  rwa [bind_pure] at h

theorem Opens.none {handles : List Handle} : Opens handles (Pure.pure none : Io σ ω ε (Option Handle)) :=
  fun p _ => owns_nil_iff.2 (Frame.refl p)

theorem Opens.bind {handles : List Handle} {x : Io σ ω ε α} {f : α → Io σ ω ε (Option Handle)} (hx : Balanced handles x)
    (hf : ∀ a, Opens handles (f a)) : Opens handles (x >>= f) := by
  intro p hp
  rw [leaves_bind]
  refine (leaves_frame.2 (hx p hp)).mono (fun a q h => ?_) (fun q h => h)
  exact (hf a q (fun handle hh => (hp handle hh).frame h)).mono (fun _ r ho => ho.since h) (fun r hr => h.trans hr)

theorem Balanced.opensNone {handles : List Handle} {x : Io σ ω ε α} (h : Balanced handles x) :
    Opens handles (do let _ ← x; return none) := .bind h (fun _ => .none)

/-- An object is made for a descriptor that was just opened. -/
theorem Acquired.newHandle {fd : Int} {p q r : Process σ ω} (h : Acquired fd p q) (hhandles : r.handles = q.handles ++ [fd])
    (htable : r.table = q.table) (hmisused : r.misused = q.misused) : Owns [⟨q.handles.length⟩] p r := by
  have hfield : r.descriptor ⟨q.handles.length⟩ = fd := by simp [Process.descriptor, hhandles]
  refine ⟨List.nodup_singleton _, ?_, ?_, ?_, ?_, hmisused.trans h.misused, ?_⟩
  · rw [List.forall_mem_singleton, hfield]
    exact h.nonneg
  · rw [List.forall_mem_singleton, h.handles]
  · rw [List.forall_mem_singleton, hfield]
    exact h.new
  · rw [List.map_singleton, hfield, htable, h.table, List.toFinset_cons, List.toFinset_nil, Finset.union_insert,
      Finset.union_empty]
  · rw [hhandles, h.handles]
    exact List.prefix_append _ _

/-- A computation that opens a descriptor and makes an object for it. -/
theorem Opens.opening {handles : List Handle} {x : Io σ ω ε (Except Errno Int)}
    {f : Except Errno Int → Io σ ω ε (Option Handle)} (hx : Opening.Spec handles x)
    (herror : ∀ e, Opens handles (f (.error e))) (hok : ∀ fd, f (.ok fd) = some <$> newHandle fd) :
    Opens handles (x >>= f) := by
  intro p hp
  obtain ⟨answer, q, hq, hspec⟩ := hx p hp
  unfold Leaves
  rw [bind_ok hq]
  cases answer with
  | error e =>
    exact (herror e q (fun h hh => (hp h hh).frame hspec)).mono (fun _ r ho => ho.since hspec)
      (fun r hr => Frame.trans hspec hr)
  | ok fd =>
    have h : Acquired fd p q := hspec
    show Leaves (f (.ok fd)) q _ _
    rw [hok]
    exact h.newHandle rfl rfl rfl

theorem Opens.firstSome {handles : List Handle} {f : α → Io σ ω ε (Option Handle)} (h : ∀ a, Opens handles (f a)) :
    ∀ l, Opens handles (firstSome f l)
  | [] => .none
  | a :: rest => by
    intro p hp
    unfold Descriptor.firstSome
    rw [leaves_bind]
    refine (h a p hp).mono (fun opened q ho => ?_) (fun q hq => hq)
    cases opened with
    | some handle => exact ho
    | none =>
      have hf := owns_nil_iff.1 ho
      exact (Opens.firstSome h rest q (fun handle hh => (hp handle hh).frame hf)).mono
        (fun _ r hr => hr.since hf) (fun r hr => hf.trans hr)

end Rules

end Descriptor
