import MessageRouting.Proofs.StoreRuns

/-!
# Saves as a whole

A save in a file is done or it is not (`save_atomic`), as long as the file and its draft are not in
each other's way (`Apart`). Done, the file holds the new text, its draft is gone, and nothing else
has changed but that directories on the way to the file were made (`Saved`). If it fails, it stops
before the draft is written or after it (`Ends`); all files but the draft are then as they were, and
nothing is removed (`Spared`). The rules that are loaded are the same as before, unless the
directories made for the save led a path with dots to a file that it did not lead to before, or to a
name that the system does not look up. A draft that is a link is written through
(`save_differs`).
-/

namespace MessageRouting.Store

variable {path : FilePath} {rules : List Rule} {text : List Char} {bytes : ByteArray}
  {data : FileData} {t t' made filled : FileTree} {here file draft q : FilePlace} {id : Nat}

/-! ## Files that are apart -/

/-- A file and its draft are not in each other's way, nor in that of the directory around. -/
structure Apart (path : FilePath) (t : FileTree) : Prop where
  /-- The draft is no link. -/
  draft_plain : ∀ draft target, t.resolve false (draftPath path) = .ok draft →
    t.find? draft ≠ some (.link target)
  /-- It stands nowhere else. -/
  draft_own : ∀ draft id q, t.resolve false (draftPath path) = .ok draft →
    t.find? draft = some (.file id) → t.find? q = some (.file id) → q = draft
  /-- The path does not lead to it. -/
  file_ne : ∀ draft, t.resolve false (draftPath path) = .ok draft → t.resolve true path ≠ .ok draft
  /-- If the file is a link, it is none on the way to the directory around. -/
  way_apart : ∀ file target, t.resolve false path = .ok file →
    t.find? file = some (.link target) → t.isDirectory path.parent = true →
    (t.remove file).isDirectory path.parent = true

/-- The directory is reached without the file. -/
theorem Apart.isDirectory_remove (h : Apart path t) (hfile : t.resolve false path = .ok file)
    (hfree : t.find? file ≠ some .directory) (hparent : t.isDirectory path.parent = true) :
    (t.remove file).isDirectory path.parent = true := by
  by_cases hlink : ∃ target, t.find? file = some (.link target)
  · obtain ⟨target, hlink⟩ := hlink
    exact h.way_apart file target hfile hlink hparent
  · have hclosed : ¬ t.Opens file := FileTree.not_opens hfree fun target ht => hlink ⟨target, ht⟩
    obtain ⟨here, hhere, hdirectory⟩ := FileTree.isDirectory_iff.1 hparent
    have hkeeps := FileTree.keeps_remove hclosed
    exact FileTree.isDirectory_iff.2
      ⟨here, hkeeps.resolve hhere hdirectory, hkeeps.directory hdirectory⟩

/-! ## How saves end -/

/-- The ways in which bytes are saved in a file, with the tree that is left. -/
inductive Ends (path : FilePath) (bytes : ByteArray) (t : FileTree) :
    FileTree → Except Fault Unit → Prop
  /-- Directories may have been made. -/
  | stopped {made : FileTree} {outcome : Except TreeFault Unit} {f : TreeFault}
      (hmade : t.makeDirectories path.parent = (made, outcome)) :
      Ends path bytes t made (.error (.ofTree (.unwritable path) f))
  /-- The draft has been filled. -/
  | drafted {made filled : FileTree} {draft : FilePlace} {id : Nat} {data : FileData}
      {f : TreeFault} (hmade : t.makeDirectories path.parent = (made, .ok ()))
      (hdraft : made.resolve true (draftPath path) = .ok draft)
      (hfilled : made.Filled filled draft id data) :
      Ends path bytes t filled (.error (.ofTree (.unwritable path) f))
  /-- The draft has been moved. -/
  | replaced {made filled t' : FileTree} {draft : FilePlace} {id : Nat} {data : FileData}
      (hmade : t.makeDirectories path.parent = (made, .ok ()))
      (hdraft : made.resolve true (draftPath path) = .ok draft)
      (hfilled : made.Filled filled draft id data) (hbytes : data.bytes = bytes)
      (hrename : filled.rename (draftPath path) path = .ok t') :
      Ends path bytes t t' (.ok ())

/-- **Every save ends in one of these ways.** -/
theorem ends_saveFile (hname : path.name ≠ "") (htext : Codec.encode rules = .ok text)
    (t : FileTree) :
    Ends path (String.ofList text).toUTF8 t (saveFile path rules t).1
      (saveFile path rules t).2 := by
  unfold saveFile
  cases hmade : t.makeDirectories path.parent with
  | mk made outcome =>
    cases outcome with
    | error f => exact .stopped hmade
    | ok _ =>
      simp only [hname, ↓reduceIte, htext, replaceFile]
      generalize (String.ofList text).toUTF8 = bytes
      rcases made.write_cases (draftPath path) bytes with
        ⟨f, hwrite⟩ | ⟨filled, draft, id, data, hdraft, hwrite, hfilled⟩
      · rw [hwrite]
        exact .stopped hmade
      · rw [hwrite]
        by_cases hroom : bytes.size ≤ made.access.fileRoom
        · simp only [hroom, ↓reduceIte]
          cases hrename : filled.rename (draftPath path) path with
          | error f => exact .drafted hmade hdraft hfilled
          | ok t' =>
            exact .replaced hmade hdraft hfilled (FileTree.extract_eq_self hroom) hrename
        · simp only [hroom, ↓reduceIte]
          exact .drafted hmade hdraft hfilled

/-! ## Where drafts stand -/

/-- A draft stands beside the file, and nowhere else. -/
structure Drafted (path : FilePath) (t t' : FileTree) (here draft : FilePlace) (id : Nat)
    (data : FileData) : Prop extends t.Filled t' draft id data where
  /-- The directory is around the file. -/
  around : t.resolve true path.parent = .ok here
  /-- It is there. -/
  directory : t.find? here = some .directory
  /-- This is the path of the draft. -/
  accepted : t.refusal? (draftPath path) = none
  /-- The name of the draft leads to it. -/
  step_eq : t.step here (path.name ++ ".tmp") = .ok draft
  /-- Its file stands nowhere else. -/
  own : ∀ q, t.find? q = some (.file id) → q = draft
  /-- The path of the file does not lead to it. -/
  file_ne : t.resolve true path ≠ .ok draft

theorem drafted_of_filled (hapart : Apart path t) (hparent : t.isDirectory path.parent = true)
    (hdraft : t.resolve true (draftPath path) = .ok draft)
    (hfilled : t.Filled filled draft id data) :
    ∃ here, Drafted path t filled here draft id data := by
  obtain ⟨here, hhere, hdirectory⟩ := FileTree.isDirectory_iff.1 hparent
  obtain ⟨haccepted, next, hstep⟩ :=
    FileTree.step_of_resolve (p := draftPath path) hhere (names_draftPath path) hdraft
  have hnext : t.resolve false (draftPath path) = .ok next :=
    FileTree.resolve_concat hhere (names_draftPath path) haccepted hstep (.inl rfl)
  have hplain := fun target => hapart.draft_plain next target hnext
  have hfollowed : t.resolve true (draftPath path) = .ok next :=
    FileTree.resolve_concat hhere (names_draftPath path) haccepted hstep (.inr hplain)
  cases hdraft.symm.trans hfollowed
  exact ⟨here, hfilled, hhere, hdirectory, haccepted, hstep,
    fun _ => hfilled.eq_place fun q => hapart.draft_own draft id q hnext,
    hapart.file_ne draft hnext⟩

namespace Drafted

variable (h : Drafted path t t' here draft id data)
include h

theorem draft_eq : draft = here ++ [path.name ++ ".tmp"] := by
  have hchild := FileTree.eq_child_of_step h.step_eq
  rwa [FileTree.child, if_neg (append_tmp_ne _).2] at hchild

/-- The path of the draft leads to it. -/
theorem resolve_draft (follow : Bool) : t'.resolve follow (draftPath path) = .ok draft := by
  have hkeeps := h.toFilled.keeps
  refine FileTree.resolve_concat (hkeeps.resolve h.around h.directory) (names_draftPath path)
    ((hkeeps.refusal? _).trans h.accepted) ?_ (.inr (by simp [h.find?_eq]))
  exact (hkeeps.step h.directory _).trans h.step_eq

/-- The path of the file leads to what it led to. -/
theorem loadFile_eq [Interpreter] : loadFile path t' = loadFile path t := by
  rcases h.toFilled.resolve_cases true path with hresolve | ⟨hmissing, hfile⟩
  · cases hplace : t.resolve true path with
    | error f => simp only [loadFile, FileTree.entry, hresolve, hplace]
    | ok place =>
      have hne : place ≠ draft := fun heq => h.file_ne (heq ▸ hplace)
      have hsame := h.toFilled.sameAt h.own hne
      have hentry : t'.entry path = t.entry path := by
        simp only [FileTree.entry, hresolve, hplace, hsame.find?_eq]
      have hread : t'.read path = t.read path := by
        rw [FileTree.read, FileTree.read, hentry]
        cases hfound : t.find? place with
        | none => simp only [FileTree.entry, hplace, hfound]
        | some e =>
          cases e with
          | file other =>
            simp only [FileTree.entry, hplace, hfound, hsame.file?_eq other hfound]
          | directory => simp only [FileTree.entry, hplace, hfound]
          | link target => simp only [FileTree.entry, hplace, hfound]
      rw [loadFile, loadFile, hentry, hread]
  · simp only [loadFile, FileTree.entry, hmissing, hfile]
    rfl

end Drafted

/-! ## What is left -/

/-- What a save leaves that is done. -/
structure Saved (path : FilePath) (bytes : ByteArray) (t t' : FileTree) : Prop where
  /-- The file holds what was saved. -/
  holds : ∃ id data, t'.entry path = .ok (.file id) ∧ t'.file? id = some data ∧ data.bytes = bytes
  /-- Its draft is not there. -/
  draft_missing : t'.entry (draftPath path) = .error .missing
  /-- All directories on the way are there. -/
  parents : ∀ front, front <+: path.parent.names → t'.isDirectory ⟨path.absolute, front⟩ = true
  /-- All else is as it was, but for directories on the way that were missing. -/
  frame : ∀ q, t'.resolve false path ≠ .ok q → t'.resolve false (draftPath path) ≠ .ok q →
    t.SameAt t' q ∨ t.MadeAt t' path.parent q

/-- What a save leaves that fails. -/
structure Spared [Interpreter] (path : FilePath) (t t' : FileTree) : Prop where
  /-- All but the draft is as it was, but for directories on the way that were missing. -/
  frame : ∀ q, t'.resolve false (draftPath path) ≠ .ok q →
    t.SameAt t' q ∨ t.MadeAt t' path.parent q
  /-- Nothing is removed. -/
  stays : ∀ q, t.find? q ≠ none → t'.find? q = t.find? q
  /-- The same rules are loaded, if the directory was there before. -/
  load_eq : t.isDirectory path.parent = true → loadFile path t' = loadFile path t
  /-- They are also if the path has no dots, unless it cannot be told now what is there. -/
  load_eq_or : ".." ∉ path.names →
    loadFile path t' = loadFile path t ∨ ∃ f, loadFile path t' = .error f

variable {outcome : Except TreeFault Unit}

/-- A directory that was there did not have to be made. -/
theorem eq_of_isDirectory (hmade : t.makeDirectories path.parent = (made, outcome))
    (h : t.isDirectory path.parent = true) : made = t :=
  congrArg Prod.fst (hmade.symm.trans (FileTree.makeDirectories_of_isDirectory h))

section Failed

variable [Interpreter]

/-- Where a path leads to nothing, nothing is loaded. -/
theorem loadFile_of_none
    (h : ∀ place, t.resolve true path = .ok place → t.find? place = none) :
    loadFile path t = .ok [] ∨ ∃ f, loadFile path t = .error f := by
  have hentry : ∃ f, t.entry path = .error f := by
    unfold FileTree.entry
    cases hplace : t.resolve true path with
    | error f => exact ⟨f, rfl⟩
    | ok place => exact ⟨.missing, by simp only [h place hplace]⟩
  obtain ⟨f, hf⟩ := hentry
  rw [loadFile, hf]
  by_cases habsent : f.isAbsence = true
  · exact .inl (if_pos habsent)
  · exact .inr ⟨_, if_neg habsent⟩

/-- If directories were made on a way without dots, nothing was loaded before, and nothing is loaded
afterwards. -/
theorem load_eq_or_of_made (hclosed : t.IsClosed) (hname : path.name ≠ "")
    (hmade : t.makeDirectories path.parent = (made, outcome)) (hne : made ≠ t)
    (haccess : t'.access = made.access)
    (hresolve : ∀ place, t'.resolve true path = .ok place →
      made.resolve true path = .ok place ∧ t'.find? place = made.find? place)
    (hplain : ".." ∉ path.names) :
    loadFile path t' = loadFile path t ∨ ∃ f, loadFile path t' = .error f := by
  have haccess' : t'.access = t.access :=
    haccess.trans (FileTree.grows_makeDirectories hmade).access_eq
  have hrefusal' : t'.refusal? path = t.refusal? path := by
    rw [FileTree.refusal?, FileTree.refusal?, haccess']
  cases hrefusal : t.refusal? path with
  | some f =>
    refine .inl ?_
    simp only [loadFile, FileTree.entry, FileTree.resolve_of_refusal hrefusal,
      FileTree.resolve_of_refusal (hrefusal'.trans hrefusal)]
  | none =>
    have hmissing : made = t ∨ ∀ follow, t.resolve follow path = .error .missing :=
      FileTree.eq_or_missing hmade (List.cons_ne_nil _ _) rfl (names_eq hname) hrefusal
    have hbefore : loadFile path t = .ok [] := by
      simp only [loadFile, FileTree.entry, hmissing.resolve_left hne true]
      rfl
    rw [hbefore]
    refine loadFile_of_none fun place hplace => ?_
    obtain ⟨hplace', hsame⟩ := hresolve place hplace
    rw [hsame]
    exact FileTree.find?_makeDirectories (r := path) hclosed hmade hne rfl (names_eq hname) hplain
      hplace'

/-- Directories were made, and all else is as it was. -/
theorem spared_of_made (hclosed : t.IsClosed) (hname : path.name ≠ "")
    (hmade : t.makeDirectories path.parent = (made, outcome)) : Spared path t made where
  frame q _ := (FileTree.grows_makeDirectories hmade).sameAt_or_madeAt q
  stays _ := (FileTree.grows_makeDirectories hmade).find?_eq
  load_eq h := by rw [eq_of_isDirectory hmade h]
  load_eq_or hplain := by
    by_cases hne : made = t
    · exact .inl (by rw [hne])
    · exact load_eq_or_of_made hclosed hname hmade hne rfl (fun _ h => ⟨h, rfl⟩) hplain

/-- The draft was filled, and all else is as it was. -/
theorem spared_of_drafted (hclosed : t.IsClosed) (hname : path.name ≠ "")
    (hmade : t.makeDirectories path.parent = (made, .ok ()))
    (h : Drafted path made t' here draft id data) : Spared path t t' where
  frame q hq := by
    have hne : q ≠ draft := fun heq => hq (heq ▸ h.resolve_draft false)
    have hsame := h.toFilled.sameAt h.own hne
    refine ((FileTree.grows_makeDirectories hmade).sameAt_or_madeAt q).imp (·.trans hsame) ?_
    rintro ⟨hnone, hdirectory, front, hfront, hway⟩
    exact ⟨hnone, hsame.find?_eq.trans hdirectory, front, hfront,
      h.toFilled.keeps.resolve hway hdirectory⟩
  stays q hq := by
    have hmade_eq := (FileTree.grows_makeDirectories hmade).find?_eq hq
    by_cases hqd : q = draft
    · subst hqd
      rcases h.before with hbefore | ⟨hnone, -⟩
      · rw [h.find?_eq, ← hmade_eq, hbefore]
      · exact absurd (hmade_eq.symm.trans hnone) hq
    · exact (h.frame q hqd).trans hmade_eq
  load_eq hparent := by
    have hload := h.loadFile_eq
    rwa [eq_of_isDirectory hmade hparent] at hload
  load_eq_or hplain := by
    by_cases hne : made = t
    · exact .inl (hne ▸ h.loadFile_eq)
    · refine load_eq_or_of_made hclosed hname hmade hne h.access_eq (fun place hplace => ?_) hplain
      rcases h.toFilled.resolve_cases true path with hresolve | ⟨-, hfile⟩
      · have hplace' := hresolve.symm.trans hplace
        exact ⟨hplace', h.frame place fun heq => h.file_ne (heq ▸ hplace')⟩
      · cases hfile.symm.trans hplace

end Failed

/-! ## Saves that are done -/

/-- A draft that was moved takes the place of the file, which was no directory. -/
theorem Drafted.of_rename (h : Drafted path made filled here draft id data)
    (hclosed : made.IsClosed)
    (hname : path.name ≠ "") (hrename : filled.rename (draftPath path) path = .ok t') :
    Placed path made here ∧ made.find? (here ++ [path.name]) ≠ some .directory ∧
      made.Replaced t' (here ++ [path.name]) draft id data := by
  obtain ⟨draft', file, e, hdraft', hfile, hfound, hfree, hcases⟩ := FileTree.of_rename hrename
  cases (h.resolve_draft false).symm.trans hdraft'
  cases h.find?_eq.symm.trans hfound
  have hkeeps := h.toFilled.keeps
  have haround := hkeeps.resolve h.around h.directory
  obtain ⟨haccepted, next, hstep⟩ :=
    FileTree.step_of_resolve (p := path) haround (names_eq hname) hfile
  cases hfile.symm.trans
    (FileTree.resolve_concat (p := path) haround (names_eq hname) haccepted hstep (.inl rfl))
  -- two dots lead to a directory, which cannot be replaced
  have hdots : path.name ≠ ".." := fun hdots => hfree <| by
    rw [FileTree.eq_child_of_step hstep, FileTree.child, if_pos hdots]
    exact hkeeps.directory (hclosed.directory_dropLast h.directory)
  obtain rfl : file = here ++ [path.name] := by
    rw [FileTree.eq_child_of_step hstep, FileTree.child, if_neg hdots]
  have hne : here ++ [path.name] ≠ draft := h.draft_eq ▸ concat_draft_ne here path.name
  have hsame := h.frame _ hne
  have hplaced : Placed path made here :=
    { around := h.around
      directory := h.directory
      searched := (FileTree.of_step h.step_eq).1
      name_ne := hname
      name_ne_dots := hdots
      name_le := (FileTree.of_step h.step_eq).2
      file_accepted := (hkeeps.refusal? path).symm.trans haccepted
      draft_accepted := h.accepted }
  refine ⟨hplaced, hsame ▸ hfree, ?_⟩
  rcases hcases with ⟨-, hdraft | ⟨other, hother, hfound⟩⟩ | rfl
  · exact absurd hdraft.symm hne
  · cases hother
    exact absurd (h.own _ (hsame.symm.trans hfound)) hne
  · exact h.toFilled.replaced hne (by simp)

/-- The file is replaced, and all else is as it was. -/
theorem saved_of_replaced (hmade : t.makeDirectories path.parent = (made, .ok ()))
    (hapart : Apart path made) (h : Drafted path made filled here draft id data)
    (hplaced : Placed path made here) (hfree : made.find? (here ++ [path.name]) ≠ some .directory)
    (hreplaced : made.Replaced t' (here ++ [path.name]) draft id data) :
    Saved path data.bytes t t' := by
  have hne : here ++ [path.name] ≠ draft := h.draft_eq ▸ concat_draft_ne here path.name
  have hnil : here ++ [path.name] ≠ [] := by simp
  -- the directory is reached without the file, so it is reached by the same way afterwards
  have hremoved : Placed path (made.remove (here ++ [path.name])) here := by
    obtain ⟨here', hhere', hdirectory'⟩ := FileTree.isDirectory_iff.1
      (hapart.isDirectory_remove (hplaced.resolve_file (.inl rfl)) hfree
        (FileTree.isDirectory_iff.2 ⟨here, h.around, h.directory⟩))
    have hback := (made.keeps_of_remove hnil).resolve hhere' hdirectory'
    cases hback.symm.trans h.around
    exact { hplaced with around := hhere', directory := hdirectory' }
  have hkeeps : (made.remove (here ++ [path.name])).Keeps t' :=
    { access_eq := hreplaced.access_eq
      here_eq := hreplaced.here_eq
      find?_eq := fun q hq => by
        have hfile : q ≠ here ++ [path.name] := by
          rintro rfl
          exact hq.ne_none (made.find?_remove_self hnil)
        have hdraft : q ≠ draft := by
          rintro rfl
          rcases h.before with hbefore | ⟨hnone, -⟩
          · rw [← made.find?_remove_of_ne hne.symm] at hbefore
            exact FileTree.not_opens (by simp [hbefore]) (by simp [hbefore]) hq
          · rw [← made.find?_remove_of_ne hne.symm] at hnone
            exact hq.ne_none hnone
        rw [hreplaced.frame q hfile hdraft, made.find?_remove_of_ne hfile] }
  have hafter := hremoved.of_keeps hkeeps
  have hnone := hreplaced.find?_draft
  rw [h.draft_eq] at hnone
  refine ⟨⟨id, data, hafter.entry_of_file hreplaced.find?_file, hreplaced.file?_eq, rfl⟩, ?_,
    fun front hfront => ?_, fun q hfile hdraft => ?_⟩
  · rw [FileTree.entry, hafter.resolve_draft (.inr (by simp [hnone]))]
    simp only [hnone]
  · obtain ⟨there, hthere, hdirectory⟩ :=
      FileTree.resolve_of_prefix hafter.around hafter.directory hfront
    exact FileTree.isDirectory_iff.2 ⟨there, hthere, hdirectory⟩
  · have hq : q ≠ here ++ [path.name] := fun heq =>
      hfile (heq ▸ hafter.resolve_file (.inl rfl))
    have hq' : q ≠ draft := fun heq =>
      hdraft (heq ▸ h.draft_eq ▸ hafter.resolve_draft (.inl rfl))
    have hsame := hreplaced.sameAt h.own hq hq'
    refine ((FileTree.grows_makeDirectories hmade).sameAt_or_madeAt q).imp (·.trans hsame) ?_
    rintro ⟨hbefore, hdirectory, front, hfront, hway⟩
    obtain ⟨there, hthere, hfound⟩ :=
      FileTree.resolve_of_prefix hremoved.around hremoved.directory hfront
    have hback := (made.keeps_of_remove hnil).resolve hthere hfound
    cases hback.symm.trans hway
    exact ⟨hbefore, hsame.find?_eq.trans hdirectory, front, hfront, hkeeps.resolve hthere hfound⟩

theorem Fault.ofTree_eq (reported : Fault) (f : TreeFault) :
    Fault.ofTree reported f = reported ∨ Fault.ofTree reported f = .nullCharacter := by
  cases f <;> simp [Fault.ofTree]

/-- **A save is done or it is not.** Done, the file holds the text of the rules, its draft is gone,
the directories on the way are there, and all else is as it was. Otherwise the fault is that the
file cannot be written, or that its path has a null character; all files but the draft are as they
were, nothing is removed, and the rules that are loaded are the same as before if the directory was
there. If the path has no dots, they are the same too, unless the load fails. -/
theorem save_atomic [Interpreter] (hclosed : t.IsClosed) (hname : path.name ≠ "")
    (hapart : Apart path (t.makeDirectories path.parent).1)
    (htext : Codec.encode rules = .ok text) :
    ((saveFile path rules t).2 = .ok () →
      Saved path (String.ofList text).toUTF8 t (saveFile path rules t).1) ∧
    ∀ f, (saveFile path rules t).2 = .error f →
      (f = .unwritable path ∨ f = .nullCharacter) ∧ Spared path t (saveFile path rules t).1 := by
  have hends := ends_saveFile hname htext t
  generalize (saveFile path rules t).1 = t', (saveFile path rules t).2 = outcome at hends ⊢
  cases hends with
  | stopped hmade =>
    refine ⟨nofun, fun f hf => ⟨?_, spared_of_made hclosed hname hmade⟩⟩
    exact Except.error.inj hf ▸ Fault.ofTree_eq _ _
  | drafted hmade hdraft hfilled =>
    rw [hmade] at hapart
    obtain ⟨here, hdrafted⟩ := drafted_of_filled hapart
      (FileTree.isDirectory_makeDirectories hmade) hdraft hfilled
    refine ⟨nofun, fun f hf => ⟨?_, spared_of_drafted hclosed hname hmade hdrafted⟩⟩
    exact Except.error.inj hf ▸ Fault.ofTree_eq _ _
  | replaced hmade hdraft hfilled hbytes hrename =>
    rw [hmade] at hapart
    obtain ⟨here, hdrafted⟩ := drafted_of_filled hapart
      (FileTree.isDirectory_makeDirectories hmade) hdraft hfilled
    obtain ⟨hplaced, hfree, hreplaced⟩ :=
      hdrafted.of_rename (hclosed.makeDirectories hmade) hname hrename
    exact ⟨fun _ => hbytes ▸ saved_of_replaced hmade hapart hdrafted hplaced hfree hreplaced, nofun⟩

/-- A file with rules and a draft that was left behind, and a directory at the place of another
draft. -/
def cluttered : FileTree where
  entries := [(["rules.json"], .file 0), (["rules.json.tmp"], .file 1),
    (["more.json.tmp"], .directory), (["more.json.tmp", "notes"], .file 0)]
  files := [(0, ⟨⟨#[91, 93]⟩, true, true⟩), (1, ⟨⟨#[91]⟩, true, true⟩)]
  here := []
  access := .free

section

open scoped Interpreter.Usual

theorem save_atomic_cluttered :
    cluttered.IsClosed ∧ ∃ text, Codec.encode [] = .ok text ∧
      Saved ⟨false, ["rules.json"]⟩ (String.ofList text).toUTF8 cluttered
        (saveFile ⟨false, ["rules.json"]⟩ [] cluttered).1 ∧
      Spared ⟨false, ["more.json"]⟩ cluttered
        (saveFile ⟨false, ["more.json"]⟩ [] cluttered).1 := by
  have hclosed : cluttered.IsClosed :=
    FileTree.isClosed_of_entries rfl (by simp [cluttered]; rfl)
  have hown (q : FilePlace) (hq : cluttered.find? q = some (.file 1)) :
      q = ["rules.json.tmp"] := by
    have hmem := FileTree.mem_entries (by rintro rfl; simp at hq) hq
    simpa [cluttered] using hmem
  have hdone : Apart ⟨false, ["rules.json"]⟩ cluttered :=
    { draft_plain := fun draft target h => by cases h; nofun
      draft_own := fun draft id q h hid hq => by
        cases h
        cases hid
        exact hown q hq
      file_ne := fun draft h => by cases h; nofun
      way_apart := fun file target h hlink => by cases h; cases hlink }
  have htaken : Apart ⟨false, ["more.json"]⟩ cluttered :=
    { draft_plain := fun draft target h => by cases h; nofun
      draft_own := fun draft id q h hid => by cases h; cases hid
      file_ne := fun draft h => by cases h; nofun
      way_apart := fun file target h hlink => by cases h; cases hlink }
  obtain ⟨hsaved, -⟩ := save_atomic hclosed (by decide) hdone (rfl : Codec.encode [] = .ok _)
  obtain ⟨-, hspared⟩ := save_atomic hclosed (by decide) htaken (rfl : Codec.encode [] = .ok _)
  exact ⟨hclosed, _, rfl, hsaved rfl, (hspared _ rfl).2⟩

/-- A draft that is a link to a file of its own. -/
def writtenThrough : FileTree where
  entries := [(["a.tmp"], .link ⟨false, ["notes"]⟩), (["notes"], .file 0)]
  files := [(0, ⟨⟨#[33]⟩, true, true⟩)]
  here := []
  access := .free

/-- A path that leads through a link at its own place. -/
def ownLink : FileTree where
  entries := [(["a"], .link ⟨false, ["d"]⟩), (["d"], .directory)]
  files := []
  here := []
  access := .free

/-- A tree in which names are short. -/
def narrow : FileTree where
  entries := []
  files := []
  here := []
  access := { FileAccess.free with nameRoom := 14 }

/-- A file with some bytes, and a directory at the place of its draft. -/
def deadEnd (bytes : ByteArray) : FileTree where
  entries := [(["a"], .file 0), (["a.tmp"], .directory)]
  files := [(0, ⟨bytes, true, true⟩)]
  here := []
  access := .free

/-- A link to its own draft, where no more than one byte can be written. -/
def linkedBack (bytes : ByteArray) : FileTree where
  entries := [(["a"], .link ⟨false, ["a.tmp"]⟩), (["a.tmp"], .file 0)]
  files := [(0, ⟨bytes, true, true⟩)]
  here := []
  access := { FileAccess.free with fileRoom := 1 }

/-- **Where files are in each other's way, a save does more than it should.** A draft that is a link
is written through. A path through a link at its own place is lost. A save that fails can change
what is loaded: by the draft, if the path is a link to it, and by the directories that were made, if
the path leads back from them or if one of its names is not looked up. -/
theorem save_differs :
    ((saveFile ⟨false, ["a"]⟩ [] writtenThrough).2 = .ok () ∧
      writtenThrough.read ⟨false, ["notes"]⟩ = .ok ⟨#[33]⟩ ∧
      (saveFile ⟨false, ["a"]⟩ [] writtenThrough).1.read ⟨false, ["notes"]⟩ = .ok ⟨#[91, 93]⟩) ∧
    ((saveFile ⟨false, ["a", "..", "a"]⟩ [] ownLink).2 = .ok () ∧
      (saveFile ⟨false, ["a", "..", "a"]⟩ [] ownLink).1.entry ⟨false, ["a", "..", "a"]⟩ =
        .error .notDirectory) ∧
    ((saveFile ⟨false, ["x", "incoming-parcels", "a"]⟩ [] narrow).2 =
        .error (.unwritable ⟨false, ["x", "incoming-parcels", "a"]⟩) ∧
      loadFile ⟨false, ["x", "incoming-parcels", "a"]⟩ narrow = .ok [] ∧
      loadFile ⟨false, ["x", "incoming-parcels", "a"]⟩
          (saveFile ⟨false, ["x", "incoming-parcels", "a"]⟩ [] narrow).1 =
        .error (.unreachable ⟨false, ["x", "incoming-parcels", "a"]⟩ .tooLong)) ∧
    ∃ bytes,
      ((saveFile ⟨false, ["x", "..", "a"]⟩ [] (deadEnd bytes)).2 =
          .error (.unwritable ⟨false, ["x", "..", "a"]⟩) ∧
        loadFile ⟨false, ["x", "..", "a"]⟩ (deadEnd bytes) = .ok [] ∧
        loadFile ⟨false, ["x", "..", "a"]⟩
          (saveFile ⟨false, ["x", "..", "a"]⟩ [] (deadEnd bytes)).1 = .ok [heavy]) ∧
      (saveFile ⟨false, ["a"]⟩ [] (linkedBack bytes)).2 = .error (.unwritable ⟨false, ["a"]⟩) ∧
      loadFile ⟨false, ["a"]⟩ (linkedBack bytes) = .ok [heavy] ∧
      loadFile ⟨false, ["a"]⟩ (saveFile ⟨false, ["a"]⟩ [] (linkedBack bytes)).1 = .ok [] := by
  obtain ⟨text, -, hdecode⟩ := Codec.exists_encode
    (List.forall_mem_singleton.2 wellFormed_isStorable_heavy.1)
    (List.forall_mem_singleton.2 wellFormed_isStorable_heavy.2)
  have hload := (Codec.decodeBytes_toUTF8 text).trans hdecode
  refine ⟨⟨rfl, rfl, rfl⟩, ⟨rfl, rfl⟩, ⟨rfl, rfl, rfl⟩, (String.ofList text).toUTF8, ?_⟩
  generalize (String.ofList text).toUTF8 = bytes at hload
  have hnone : Codec.decodeBytes (String.ofList ['[']).toUTF8 = [] :=
    (Codec.decodeBytes_toUTF8 ['[']).trans rfl
  have hmade : saveFile ⟨false, ["x", "..", "a"]⟩ [] (deadEnd bytes) =
      ((deadEnd bytes).put ["x"] .directory,
        .error (.unwritable ⟨false, ["x", "..", "a"]⟩)) := rfl
  rw [hmade]
  exact ⟨⟨rfl, rfl, congrArg Except.ok hload⟩, rfl, congrArg Except.ok hload,
    congrArg Except.ok hnone⟩

end

end MessageRouting.Store
