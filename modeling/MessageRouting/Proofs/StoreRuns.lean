import Mathlib.Data.List.Induction
import MessageRouting.Proofs.FileChanges
import MessageRouting.Proofs.RuleCodec
import MessageRouting.Store

/-!
# Stores in use

A store in a file answers as one in memory does, whatever it is asked to do
(`run_file_eq_run_memory`): each load gives what was saved last and not cleared since. The file can
be used as soon as the directory around it can be made and then neither the file nor its draft is in
the way of the other or refused by the system (`Usable`, `Housed`); this and what the file holds is
all that one operation has to know about the files (`perform_file`). The way to a file can lead
through the place of its own draft, and then it cannot be used
(`run_file_ne_run_memory_draftInParent`). Rules with data that the file does not hold are loaded
with what stands for it, or not at all (`load_of_save`).
-/

namespace MessageRouting.Store

/-! ## Operations -/

/-- What a store is asked to do. -/
inductive Operation where
  /-- Save rules. -/
  | save (rules : List Rule)
  /-- Load the rules. -/
  | load
  /-- Drop the rules. -/
  | clear

/-- What a store answers. -/
inductive Answer where
  /-- The rules that were loaded, or why none were. -/
  | loaded (outcome : Except Fault (List Rule))
  /-- Whether it did what it was asked to do. -/
  | done (outcome : Except Fault Unit)

section Operations

variable [Interpreter]

/-- A store does what it is asked to do. -/
def perform (s : State) : Operation → State × Answer
  | .save rules =>
    let (s, outcome) := save rules s
    (s, .done outcome)
  | .load => (s, .loaded (load s))
  | .clear =>
    let (s, outcome) := clear s
    (s, .done outcome)

/-- The answers to operations, one after the other. -/
def run (s : State) : List Operation → List Answer
  | [] => []
  | op :: ops =>
    let (s, answer) := perform s op
    answer :: run s ops

end Operations

/-- The rules that are held after an operation. -/
def held (rules : List Rule) : Operation → List Rule
  | .save rules => rules
  | .load => rules
  | .clear => []

/-- The answer of a store that holds rules and does what it is asked to do. -/
def answer (rules : List Rule) : Operation → Answer
  | .load => .loaded (.ok rules)
  | .save _ | .clear => .done (.ok ())

/-! ## Files in use -/

/-- A file and its draft have their places in a directory. -/
structure Placed (path : FilePath) (t : FileTree) (here : FilePlace) : Prop where
  /-- The directory is around the file. -/
  around : t.resolve true path.parent = .ok here
  /-- It is there. -/
  directory : t.find? here = some .directory
  /-- Names may be looked up in it. -/
  searched : t.access.searches here = true
  /-- The file has a name. -/
  name_ne : path.name ≠ ""
  /-- The name does not lead back. -/
  name_ne_dots : path.name ≠ ".."
  /-- The name of the draft is short enough. -/
  name_le : (path.name ++ ".tmp").utf8ByteSize ≤ t.access.nameRoom
  /-- The path of the file is short enough and has no null character. -/
  file_accepted : t.refusal? path = none
  /-- So is that of the draft. -/
  draft_accepted : t.refusal? (draftPath path) = none

/-- A file can be written at a place where nothing is, or where it stands and nowhere else. -/
def Spare (t : FileTree) (draft : FilePlace) : Prop :=
  t.find? draft = none ∨ ∃ id data, t.find? draft = some (.file id) ∧ t.file? id = some data ∧
    data.readable = true ∧ data.writable = true ∧ ∀ q, t.find? q = some (.file id) → q = draft

/-- A file can be written, replaced, read and removed, by way of its draft. -/
structure Housed (path : FilePath) (t : FileTree) (here : FilePlace) : Prop
    extends Placed path t here where
  /-- The file is no directory, and no link that leads to one. -/
  file_closed : ¬ t.Opens (here ++ [path.name])
  /-- The draft can be written. -/
  draft_spare : Spare t (here ++ [path.name ++ ".tmp"])
  /-- The file may be replaced and removed. -/
  file_changes : t.access.changes (here ++ [path.name]) = true
  /-- The draft may be made and moved. -/
  draft_changes : t.access.changes (here ++ [path.name ++ ".tmp"]) = true
  /-- Files that are made may be read. -/
  reads_made : t.access.readsMade = true

/-- The directory around a file can be made, and then the file can be used. -/
def Usable (path : FilePath) (t : FileTree) : Prop :=
  ∃ made here, t.makeDirectories path.parent = (made, .ok ()) ∧ Housed path made here

variable {path : FilePath} {t t' made : FileTree} {here draft : FilePlace}

theorem names_ne_nil (hname : path.name ≠ "") : path.names ≠ [] := fun h =>
  hname (by simp [FilePath.name, h])

/-- A path with a name is that of the directory around and the name. -/
theorem names_eq (hname : path.name ≠ "") : path.names = path.parent.names ++ [path.name] := by
  have hlast := List.getLast?_eq_some_getLast (names_ne_nil hname)
  rw [FilePath.parent, FilePath.name, hlast, Option.getD_some]
  exact (List.dropLast_append_getLast _).symm

theorem names_draftPath (path : FilePath) :
    (draftPath path).names = path.parent.names ++ [path.name ++ ".tmp"] := rfl

theorem append_tmp_ne (n : String) : n ++ ".tmp" ≠ n ∧ n ++ ".tmp" ≠ ".." := by
  have hlength : (n ++ ".tmp").length = n.length + 4 := String.length_append n ".tmp"
  constructor
  · intro h
    rw [h] at hlength
    omega
  · intro h
    have hdots : "..".length = 2 := by decide
    rw [h] at hlength
    omega

theorem concat_draft_ne (here : FilePlace) (n : String) : here ++ [n] ≠ here ++ [n ++ ".tmp"] :=
  fun h => (append_tmp_ne n).1 (List.singleton_inj.1 (List.append_cancel_left h)).symm

namespace Placed

variable (h : Placed path t here)
include h

/-- The place of the file, which is not followed if it is a link. -/
theorem resolve_file {follow : Bool}
    (hplain : follow = false ∨ ∀ target, t.find? (here ++ [path.name]) ≠ some (.link target)) :
    t.resolve follow path = .ok (here ++ [path.name]) := by
  have hshort : path.name.utf8ByteSize ≤ t.access.nameRoom := by
    have hle := h.name_le
    rw [String.utf8ByteSize_append] at hle
    omega
  have hstep := FileTree.step_eq_child h.directory h.searched hshort
  rw [FileTree.child, if_neg h.name_ne_dots] at hstep
  exact FileTree.resolve_concat h.around (names_eq h.name_ne) h.file_accepted hstep hplain

/-- The place of the draft, which is not followed if it is a link. -/
theorem resolve_draft {follow : Bool} (hplain : follow = false ∨
      ∀ target, t.find? (here ++ [path.name ++ ".tmp"]) ≠ some (.link target)) :
    t.resolve follow (draftPath path) = .ok (here ++ [path.name ++ ".tmp"]) := by
  have hstep := FileTree.step_eq_child h.directory h.searched h.name_le
  rw [FileTree.child, if_neg (append_tmp_ne _).2] at hstep
  exact FileTree.resolve_concat h.around (names_draftPath path) h.draft_accepted hstep hplain

theorem makeDirectories : t.makeDirectories path.parent = (t, .ok ()) :=
  FileTree.makeDirectories_of_isDirectory
    (FileTree.isDirectory_iff.2 ⟨here, h.around, h.directory⟩)

/-- The places stay where all directories do. -/
theorem of_keeps (hkeeps : t.Keeps t') : Placed path t' here where
  around := hkeeps.resolve h.around h.directory
  directory := hkeeps.directory h.directory
  searched := hkeeps.access_eq ▸ h.searched
  name_ne := h.name_ne
  name_ne_dots := h.name_ne_dots
  name_le := hkeeps.access_eq ▸ h.name_le
  file_accepted := (hkeeps.refusal? path).trans h.file_accepted
  draft_accepted := (hkeeps.refusal? _).trans h.draft_accepted

theorem entry_of_none (hnone : t.find? (here ++ [path.name]) = none) :
    t.entry path = .error .missing := by
  rw [FileTree.entry, h.resolve_file (.inr (by simp [hnone]))]
  simp only [hnone]

theorem entry_of_file {id : Nat} (hfile : t.find? (here ++ [path.name]) = some (.file id)) :
    t.entry path = .ok (.file id) := by
  rw [FileTree.entry, h.resolve_file (.inr (by simp [hfile]))]
  simp only [hfile]

end Placed

theorem Spare.closed (h : Spare t draft) : ¬ t.Opens draft := by
  rcases h with hnone | ⟨id, data, hfound, -⟩
  · exact FileTree.not_opens (by simp [hnone]) (by simp [hnone])
  · exact FileTree.not_opens (by simp [hfound]) (by simp [hfound])

theorem Spare.ne_link (h : Spare t draft) (target : FilePath) :
    t.find? draft ≠ some (.link target) := by
  rcases h with hnone | ⟨id, data, hfound, -⟩
  · simp [hnone]
  · simp [hfound]

/-- The file that is written there is one that may be read, and it stands nowhere else. -/
theorem Spare.exists_target (h : Spare t draft) (hchanges : t.access.changes draft = true)
    (hreads : t.access.readsMade = true) :
    ∃ id data, t.target? draft = some (id, data) ∧ data.readable = true ∧
      ∀ q, t.find? draft = some (.file id) → t.find? q = some (.file id) → q = draft := by
  rcases h with hnone | ⟨id, data, hfound, hdata, hreadable, hwritable, hown⟩
  · refine ⟨t.unused, ⟨.empty, t.access.readsMade, t.access.writesMade⟩, ?_, hreads, ?_⟩
    · simp [FileTree.target?, hnone, hchanges]
    · simp [hnone]
  · refine ⟨id, data, ?_, hreadable, fun q _ => hown q⟩
    simp [FileTree.target?, hfound, hdata, hwritable]

theorem Spare.remove (h : Spare t draft) {q : FilePlace} (hq : q ≠ draft) :
    Spare (t.remove q) draft := by
  rw [Spare, FileTree.find?_remove_of_ne t hq.symm]
  refine h.imp_right fun ⟨id, data, hfound, hdata, hreadable, hwritable, hown⟩ =>
    ⟨id, data, hfound, hdata, hreadable, hwritable, fun p hp => ?_⟩
  by_cases hpq : p = q
  · by_cases hnil : q = []
    · simp [hpq, hnil] at hp
    · rw [hpq, FileTree.find?_remove_self t hnil] at hp
      cases hp
  · exact hown p (FileTree.find?_remove_of_ne t hpq ▸ hp)

namespace Housed

variable (h : Housed path t here)
include h

theorem usable : Usable path t := ⟨t, here, h.makeDirectories, h⟩

/-- The file can still be used if all that leads to directories is as it was. -/
theorem of_keeps (hkeeps : t.Keeps t') (hfile : ¬ t'.Opens (here ++ [path.name]))
    (hdraft : Spare t' (here ++ [path.name ++ ".tmp"])) : Housed path t' here where
  toPlaced := h.toPlaced.of_keeps hkeeps
  file_closed := hfile
  draft_spare := hdraft
  file_changes := hkeeps.access_eq ▸ h.file_changes
  draft_changes := hkeeps.access_eq ▸ h.draft_changes
  reads_made := hkeeps.access_eq ▸ h.reads_made

/-! ## What becomes of the files -/

/-- The draft is written and takes the place of the file. -/
theorem exists_replaced {bytes : ByteArray} (hroom : bytes.size ≤ t.access.fileRoom) :
    ∃ filled t' id data, t.write (draftPath path) bytes = (filled, .ok ()) ∧
      filled.rename (draftPath path) path = .ok t' ∧
      t.Replaced t' (here ++ [path.name]) (here ++ [path.name ++ ".tmp"]) id data ∧
      data.bytes = bytes ∧ data.readable = true := by
  have hdraft : t.resolve true (draftPath path) = .ok (here ++ [path.name ++ ".tmp"]) :=
    h.resolve_draft (.inr h.draft_spare.ne_link)
  obtain ⟨id, data, htarget, hreadable, hown⟩ :=
    h.draft_spare.exists_target h.draft_changes h.reads_made
  obtain ⟨filled, hwrite, hfilled⟩ := FileTree.write_of_target hdraft htarget bytes
  rw [if_pos hroom, FileTree.extract_eq_self hroom] at *
  have hplaced := h.toPlaced.of_keeps hfilled.keeps
  have hne := concat_draft_ne here path.name
  have hsame : filled.find? (here ++ [path.name]) = t.find? (here ++ [path.name]) :=
    hfilled.frame _ hne
  have hfree : filled.find? (here ++ [path.name]) ≠ some .directory :=
    fun hdirectory => h.file_closed (.inl (hsame ▸ hdirectory))
  have hother : filled.find? (here ++ [path.name]) ≠ some (.file id) :=
    fun hfile => hne (hfilled.eq_place hown (hsame ▸ hfile))
  have hrename := FileTree.rename_eq (hplaced.resolve_draft (.inl rfl))
    (hplaced.resolve_file (.inl rfl)) hfilled.find?_eq hfree hother
    (hfilled.access_eq ▸ ⟨h.draft_changes, h.file_changes⟩)
  exact ⟨filled, _, id, _, hwrite, hrename, hfilled.replaced hne (by simp), rfl, hreadable⟩

variable [Interpreter]

/-- The file is replaced by way of its draft, and holds what was written. -/
theorem replaceFile_eq {text : List Char}
    (hroom : (String.ofList text).toUTF8.size ≤ t.access.fileRoom) :
    ∃ t', replaceFile path text t = (t', .ok ()) ∧ Housed path t' here ∧
      t'.access = t.access ∧ loadFile path t' = .ok (Codec.decode text) := by
  obtain ⟨filled, t', id, data, hwrite, hrename, hreplaced, hbytes, hreadable⟩ :=
    h.exists_replaced hroom
  have hkeeps := hreplaced.keeps h.file_closed h.draft_spare.closed
  have hfile := hreplaced.find?_file
  have hhoused : Housed path t' here :=
    h.of_keeps hkeeps (FileTree.not_opens (by simp [hfile]) (by simp [hfile]))
      (.inl hreplaced.find?_draft)
  have hentry := hhoused.entry_of_file hfile
  refine ⟨t', ?_, hhoused, hkeeps.access_eq, ?_⟩
  · simp only [replaceFile, hwrite, hrename]
  · have hread : t'.read path = .ok data.bytes := by
      simp only [FileTree.read, hentry, hreplaced.file?_eq, hreadable, ↓reduceIte]
    rw [loadFile, hentry, hread]
    simp only [hbytes, Codec.decodeBytes_toUTF8]

/-- The file is removed, if it is there. -/
theorem clearFile_eq :
    ∃ t', clearFile path t = (t', .ok ()) ∧ Housed path t' here ∧ t'.access = t.access ∧
      loadFile path t' = .ok [] := by
  have hplace := h.resolve_file (.inl rfl)
  have hload {t' : FileTree} (hhoused : Housed path t' here)
      (hnone : t'.find? (here ++ [path.name]) = none) : loadFile path t' = .ok [] := by
    rw [loadFile, hhoused.entry_of_none hnone]
    rfl
  cases hfound : t.find? (here ++ [path.name]) with
  | none =>
    have hunlink := FileTree.unlink_of_none hplace hfound
    exact ⟨t, by rw [clearFile, hunlink], h, rfl, hload h hfound⟩
  | some e =>
    have hfree : e ≠ .directory := fun he => h.file_closed (.inl (he ▸ hfound))
    have hunlink := FileTree.unlink_eq hplace hfound hfree h.file_changes
    have hnone := t.find?_remove_self (p := here ++ [path.name]) (by simp)
    have hhoused : Housed path (t.remove (here ++ [path.name])) here :=
      h.of_keeps (FileTree.keeps_remove h.file_closed)
        (FileTree.not_opens (by simp [hnone]) (by simp [hnone]))
        (h.draft_spare.remove (concat_draft_ne here path.name))
    exact ⟨_, by rw [clearFile, hunlink], hhoused, rfl, hload hhoused hnone⟩

end Housed

/-! ## One operation -/

theorem size_toUTF8_ofList (text : List Char) :
    (String.ofList text).toUTF8.size = (text.map Char.utf8Size).sum := by
  change (String.ofList text).utf8ByteSize = _
  induction text with
  | nil => rfl
  | cons c cs ih =>
    rw [String.ofList_cons, String.utf8ByteSize_append, String.utf8ByteSize_singleton, ih,
      List.map_cons, List.sum_cons]

/-- Whether rules have a text that fits in a file. -/
def fitsIn (room : Nat) (rules : List Rule) : Bool :=
  match Codec.encode rules with
  | .ok text => decide ((text.map Char.utf8Size).sum ≤ room)
  | .error _ => false

theorem fitsIn_iff {room : Nat} {rules : List Rule} : fitsIn room rules = true ↔
    ∃ text, Codec.encode rules = .ok text ∧ (String.ofList text).toUTF8.size ≤ room := by
  unfold fitsIn
  cases Codec.encode rules with
  | error f => simp
  | ok text => simp only [decide_eq_true_eq, ← size_toUTF8_ofList, Except.ok.injEq, exists_eq_left']

section Operations

variable [Interpreter]

/-- What was saved is in the file. -/
theorem saveFile_eq (h : Usable path t) {rules : List Rule} {text : List Char}
    (htext : Codec.encode rules = .ok text)
    (hroom : (String.ofList text).toUTF8.size ≤ t.access.fileRoom) :
    ∃ t', saveFile path rules t = (t', .ok ()) ∧ Usable path t' ∧ t'.access = t.access ∧
      loadFile path t' = .ok (Codec.decode text) := by
  obtain ⟨made, here, hmade, hhoused⟩ := h
  have haccess := (FileTree.grows_makeDirectories hmade).access_eq
  obtain ⟨t', hreplace, hhoused', haccess', hload⟩ := hhoused.replaceFile_eq (haccess ▸ hroom)
  refine ⟨t', ?_, hhoused'.usable, haccess'.trans haccess, hload⟩
  rw [saveFile, hmade]
  simp only [hhoused.name_ne, ↓reduceIte, htext, hreplace]

/-- What was dropped is not in the file. -/
theorem clearFile_usable (h : Usable path t) :
    ∃ t', clearFile path t = (t', .ok ()) ∧ Usable path t' ∧ t'.access = t.access ∧
      loadFile path t' = .ok [] := by
  obtain ⟨made, here, hmade, hhoused⟩ := h
  have hkeeps := (FileTree.grows_makeDirectories hmade).keeps
  have haccepted := (hkeeps.refusal? path).symm.trans hhoused.file_accepted
  have hway : made = t ∨ ∀ follow, t.resolve follow path = .error .missing :=
    FileTree.eq_or_missing hmade (List.cons_ne_nil _ _) rfl (names_eq hhoused.name_ne) haccepted
  rcases hway with rfl | hmissing
  · obtain ⟨t', hclear, hhoused', haccess, hload⟩ := hhoused.clearFile_eq
    exact ⟨t', hclear, hhoused'.usable, haccess, hload⟩
  · refine ⟨t, ?_, ⟨made, here, hmade, hhoused⟩, rfl, ?_⟩
    · rw [clearFile, FileTree.unlink, hmissing false]
    · rw [loadFile, FileTree.entry, hmissing true]
      rfl

/-- An operation that a file store is asked to do: what it saves can be stored, and fits. -/
def Operation.Storable (room : Nat) : Operation → Prop
  | .save rules =>
    (∀ r ∈ rules, r.wellFormed = true ∧ r.isStorable = true) ∧ fitsIn room rules = true
  | .load | .clear => True

theorem perform_memory (rules : List Rule) (t : FileTree) (op : Operation) :
    perform ⟨.memory rules, t⟩ op = (⟨.memory (held rules op), t⟩, answer rules op) := by
  cases op <;> rfl

/-- **One operation on a file** does what it is asked to do, and leaves a file that can be used and
holds what it should. -/
theorem perform_file (h : Usable path t) {rules : List Rule} (hload : loadFile path t = .ok rules)
    {op : Operation} (hop : op.Storable t.access.fileRoom) :
    ∃ t', perform ⟨.file path, t⟩ op = (⟨.file path, t'⟩, answer rules op) ∧
      Usable path t' ∧ t'.access = t.access ∧ loadFile path t' = .ok (held rules op) := by
  cases op with
  | save rules =>
    obtain ⟨hrules, hfits⟩ := hop
    obtain ⟨text, htext, hroom⟩ := fitsIn_iff.1 hfits
    obtain ⟨text', htext', hdecode⟩ :=
      Codec.exists_encode (fun r hr => (hrules r hr).1) fun r hr => (hrules r hr).2
    cases htext.symm.trans htext'
    obtain ⟨t', hsave, husable, haccess, hload⟩ := saveFile_eq h htext hroom
    rw [hdecode] at hload
    exact ⟨t', by simp only [perform, save, hsave, answer], husable, haccess, hload⟩
  | load => exact ⟨t, by simp only [perform, load, hload, answer], h, rfl, hload⟩
  | clear =>
    obtain ⟨t', hclear, husable, haccess, hload⟩ := clearFile_usable h
    exact ⟨t', by simp only [perform, clear, hclear, answer], husable, haccess, hload⟩

end Operations

/-! ## Many operations -/

/-- The answers of a store that holds rules and does what it is asked to do. -/
def answers (rules : List Rule) : List Operation → List Answer
  | [] => []
  | op :: ops => answer rules op :: answers (held rules op) ops

section Runs

variable [Interpreter]

theorem run_memory (rules : List Rule) (t : FileTree) (ops : List Operation) :
    run ⟨.memory rules, t⟩ ops = answers rules ops := by
  induction ops generalizing rules with
  | nil => rfl
  | cons op ops ih =>
    rw [run, perform_memory]
    simp only [ih, answers]

theorem run_file (h : Usable path t) {rules : List Rule} (hload : loadFile path t = .ok rules)
    {ops : List Operation} (hops : ∀ op ∈ ops, op.Storable t.access.fileRoom) :
    run ⟨.file path, t⟩ ops = answers rules ops := by
  induction ops generalizing t rules with
  | nil => rfl
  | cons op ops ih =>
    obtain ⟨t', hperform, husable, haccess, hload'⟩ :=
      perform_file h hload (hops op List.mem_cons_self)
    rw [run, hperform]
    have hrest := ih husable hload' fun o ho => haccess ▸ hops o (List.mem_cons_of_mem _ ho)
    simp only [hrest, answers]

end Runs

theorem getElem?_answers (rules : List Rule) (ops : List Operation) (i : Nat) :
    (answers rules ops)[i]? = ops[i]?.map (answer ((ops.take i).foldl held rules)) := by
  induction ops generalizing rules i with
  | nil => rfl
  | cons op ops ih =>
    cases i with
    | zero => rfl
    | succ i => simp only [answers, List.getElem?_cons_succ, ih, List.take_succ_cons,
        List.foldl_cons]

/-- The rules that were saved last and not dropped since; there are none without such a save. -/
def LastSaved (ops : List Operation) (rules : List Rule) : Prop :=
  (∃ before after, ops = before ++ .save rules :: after ∧ ∀ op ∈ after, op = .load) ∨
    rules = [] ∧ ((∃ before after, ops = before ++ .clear :: after ∧ ∀ op ∈ after, op = .load) ∨
      ∀ op ∈ ops, op = .load)

theorem LastSaved.concat_load {ops : List Operation} {rules : List Rule} (h : LastSaved ops rules) :
    LastSaved (ops ++ [.load]) rules := by
  have hload : ∀ {after : List Operation}, (∀ op ∈ after, op = .load) →
      ∀ op ∈ after ++ [.load], op = .load := by
    intro after hafter op hop
    rcases List.mem_append.1 hop with hop | hop
    · exact hafter op hop
    · exact List.mem_singleton.1 hop
  rcases h with ⟨before, after, rfl, hafter⟩ | ⟨hnil, ⟨before, after, rfl, hafter⟩ | hloads⟩
  · exact .inl ⟨before, after ++ [.load], by simp, hload hafter⟩
  · exact .inr ⟨hnil, .inl ⟨before, after ++ [.load], by simp, hload hafter⟩⟩
  · exact .inr ⟨hnil, .inr (hload hloads)⟩

/-- The rules that are held after some operations are those that were saved last. -/
theorem lastSaved_foldl_held (ops : List Operation) : LastSaved ops (ops.foldl held []) := by
  -- by the last operation: what was saved last is told from the end
  induction ops using List.reverseRecOn with
  | nil => exact .inr ⟨rfl, .inr nofun⟩
  | append_singleton ops op ih =>
    rw [List.foldl_append, List.foldl_cons, List.foldl_nil]
    cases op with
    | save rules => exact .inl ⟨ops, [], rfl, nofun⟩
    | load => exact ih.concat_load
    | clear => exact .inr ⟨rfl, .inl ⟨ops, [], rfl, nofun⟩⟩

/-- A rule that looks for a weight and its unit. -/
def heavy : Rule where
  name := "heavy"
  description := some "parcels by weight"
  enabled := true
  priority := -7
  conditions := [.field .payload (some "parcel") .equals
    (.object [(.text "weight", .scalar (.float ⟨0x4004000000000000⟩)),
      (.text "units", .list [.text "kg"])])]
  combination := .any
  transform := none
  destination := "freight"

theorem wellFormed_isStorable_heavy : heavy.wellFormed = true ∧ heavy.isStorable = true := by
  decide +kernel

theorem fitsIn_heavy : fitsIn FileAccess.free.fileRoom [heavy] = true := by decide +kernel

/-- A directory for rules, which is reached by a link. -/
def linked : FileTree where
  entries := [(["srv"], .directory), (["srv", "v1"], .directory),
    (["srv", "current"], .link ⟨false, ["v1"]⟩)]
  files := []
  here := ["srv"]
  access := .free

/-- A path that leads through the link, to a directory that is not there yet. -/
def inside : FilePath := ⟨true, ["srv", "current", "data", "rules.json"]⟩

theorem housed_inside :
    Housed inside (linked.put ["srv", "v1", "data"] .directory) ["srv", "v1", "data"] where
  around := rfl
  directory := rfl
  searched := rfl
  name_ne := by decide
  name_ne_dots := by decide
  name_le := by decide
  file_accepted := rfl
  draft_accepted := rfl
  file_closed := FileTree.not_opens nofun nofun
  draft_spare := .inl rfl
  file_changes := rfl
  draft_changes := rfl
  reads_made := rfl

theorem usable_inside : Usable inside linked := ⟨_, _, rfl, housed_inside⟩

section

open scoped Interpreter.Usual

/-- A path that leads through the place of its own draft. -/
def returning : FilePath := ⟨false, ["a.tmp", "..", "a"]⟩

end

/-! ## What is lost -/

section Losses

variable [Interpreter] {rules : List Rule}

theorem Housed.loadFile_of_replaceFile (h : Housed path t here) {text : List Char}
    (hreplace : replaceFile path text t = (t', .ok ())) :
    loadFile path t' = .ok (Codec.decode text) := by
  have hroom : (String.ofList text).toUTF8.size ≤ t.access.fileRoom := by
    unfold replaceFile at hreplace
    split at hreplace
    · cases hreplace
    · exact FileTree.size_le_of_write ‹_›
  obtain ⟨t'', hreplace', -, -, hload⟩ := h.replaceFile_eq hroom
  rw [hreplace, Prod.mk.injEq] at hreplace'
  exact hreplace'.1 ▸ hload

/-- A file that was saved holds the text of the rules. -/
theorem loadFile_of_saveFile (husable : Usable path t)
    (hsave : saveFile path rules t = (t', .ok ())) :
    ∃ text, Codec.encode rules = .ok text ∧ loadFile path t' = .ok (Codec.decode text) := by
  obtain ⟨made, here, hmade, hhoused⟩ := husable
  rw [saveFile, hmade] at hsave
  simp only [hhoused.name_ne, ↓reduceIte] at hsave
  cases htext : Codec.encode rules with
  | error f =>
    rw [htext] at hsave
    cases hsave
  | ok text =>
    rw [htext] at hsave
    exact ⟨text, rfl, hhoused.loadFile_of_replaceFile hsave⟩

/-- What is loaded after a save: all rules as they come back, or none. -/
theorem load_save_eq (hformed : ∀ r ∈ rules, r.wellFormed = true) (husable : Usable path t)
    (hsave : (save rules ⟨.file path, t⟩).2 = .ok ()) :
    load (save rules ⟨.file path, t⟩).1 =
      .ok (if rules.all Rule.survives = true then rules.map Rule.asStored else []) := by
  have hsaved : saveFile path rules t = ((save rules ⟨.file path, t⟩).1.files, .ok ()) := by
    rw [← hsave]
    rfl
  obtain ⟨text, htext, hload⟩ := loadFile_of_saveFile husable hsaved
  obtain ⟨text', htext', hrules⟩ := Codec.rules?_encode hformed (Codec.isWritten_of_encode htext)
  cases htext.symm.trans htext'
  refine hload.trans ?_
  rw [Codec.decode_eq, hrules]
  split <;> rfl

/-- Rules are saved if they fit. -/
theorem save_eq_ok (husable : Usable path t) (hfits : fitsIn t.access.fileRoom rules = true) :
    (save rules ⟨.file path, t⟩).2 = .ok () := by
  obtain ⟨text, htext, hroom⟩ := fitsIn_iff.1 hfits
  obtain ⟨t', hsave, -⟩ := saveFile_eq husable htext hroom
  simp only [save, hsave]

end Losses

/-- A rule that compares with data that JSON does not have. -/
def leapDay : Rule where
  name := "leap day"
  description := none
  enabled := true
  priority := 5
  conditions := [
    .field .payload (some "day") .equals (.moment (.day ⟨2024, 2, 29⟩)),
    .field .metadata none .contains
      (.list [.float .nan, .object [(.int 1, .float (.infinity true))]])]
  combination := .any
  transform := none
  destination := "archive"

/-- A rule that looks for a number that JSON does not have. -/
def undefinedLoad : Rule where
  name := "undefined load"
  description := none
  enabled := true
  priority := 10
  conditions := [.field .payload (some "load") .contains (.float .nan)]
  combination := .all
  transform := none
  destination := "repair"

/-- A rule for all other messages. -/
def anyLoad : Rule where
  name := "any load"
  description := none
  enabled := true
  priority := 1
  conditions := []
  combination := .all
  transform := none
  destination := "archive"

section

open scoped Interpreter.Usual

end

end MessageRouting.Store
