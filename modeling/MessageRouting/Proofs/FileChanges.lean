import MessageRouting.Proofs.MadeDirectories

/-!
# Files that are written, moved and removed

A write fills one file, which is made if it is not there (`Filled`, `write_cases`). A file that is
then moved takes the place of another one, and the place it had is free (`Replaced`,
`Filled.replaced`). All other places and all other files are as they were.
-/

namespace MessageRouting.FileTree

variable {t t' : FileTree} {p source target : FilePath} {place file draft q : FilePlace}
  {id other : Nat} {data : FileData} {bytes : ByteArray}

/-! ## What stays as it is -/

/-- What stands at a place is the same, and if it is a file, it holds the same. -/
structure SameAt (t t' : FileTree) (q : FilePlace) : Prop where
  /-- The same stands there. -/
  find?_eq : t'.find? q = t.find? q
  /-- If it is a file, it is the same. -/
  file?_eq : ∀ id, t.find? q = some (.file id) → t'.file? id = t.file? id

theorem SameAt.trans {t'' : FileTree} (h : t.SameAt t' q) (h' : t'.SameAt t'' q) :
    t.SameAt t'' q where
  find?_eq := h'.find?_eq.trans h.find?_eq
  file?_eq id hid := (h'.file?_eq id (h.find?_eq.trans hid)).trans (h.file?_eq id hid)

/-- Making directories leaves all as it is that was there. -/
theorem Grows.sameAt_or_madeAt (h : t.Grows t' p) (q : FilePlace) :
    t.SameAt t' q ∨ MadeAt t t' p q :=
  (h.find?_cases q).imp_left fun hq => ⟨hq, fun id _ => by rw [file?, file?, h.files_eq]⟩

/-! ## Writing -/

/-- The file that is written at a place, if one may be: the one there, or a new one. -/
def target? (t : FileTree) (place : FilePlace) : Option (Nat × FileData) :=
  match t.find? place with
  | some (.file id) =>
    (t.file? id).bind fun data => if data.writable then some (id, data) else none
  | some _ => none
  | none =>
    if t.access.changes place then
      some (t.unused, ⟨.empty, t.access.readsMade, t.access.writesMade⟩)
    else none

/-- The file at a place was filled, and all else is as it was. -/
structure Filled (t t' : FileTree) (place : FilePlace) (id : Nat) (data : FileData) : Prop where
  /-- The same is allowed. -/
  access_eq : t'.access = t.access
  /-- Paths start at the same place. -/
  here_eq : t'.here = t.here
  /-- The file stood at the place, or nothing did and no place had its number. -/
  before : t.find? place = some (.file id) ∨ t.find? place = none ∧ id = t.unused
  /-- The file stands at the place. -/
  find?_eq : t'.find? place = some (.file id)
  /-- All other places are as they were. -/
  frame : ∀ q, q ≠ place → t'.find? q = t.find? q
  /-- This is the file. -/
  file?_eq : t'.file? id = some data
  /-- All other files are as they were. -/
  files : ∀ other, other ≠ id → t'.file? other = t.file? other

/-- Bytes that fit are written as a whole. -/
theorem extract_eq_self {room : Nat} (h : bytes.size ≤ room) : bytes.extract 0 room = bytes := by
  ext1
  rw [ByteArray.data_extract]
  exact Array.extract_eq_self_of_le h

theorem write_of_target (hplace : t.resolve true p = .ok place)
    (htarget : t.target? place = some (id, data)) (bytes : ByteArray) :
    ∃ t', t.write p bytes =
        (t', if bytes.size ≤ t.access.fileRoom then .ok () else .error .noRoom) ∧
      t.Filled t' place id { data with bytes := bytes.extract 0 t.access.fileRoom } := by
  unfold target? at htarget
  unfold write openFile
  rw [hplace]
  split at htarget
  · rename_i found hfound
    cases hdata : t.file? found with
    | none => simp [hdata] at htarget
    | some data' =>
      simp only [hdata, Option.bind_some, Option.ite_none_right_eq_some, Option.some.injEq,
        Prod.mk.injEq] at htarget
      obtain ⟨hwritable, rfl, rfl⟩ := htarget
      simp only [hfound, hdata, hwritable, ↓reduceIte, Option.getD_some]
      exact ⟨_, rfl, rfl, rfl, .inl hfound, hfound, fun _ _ => rfl, file?_fill_self .., fun _ h =>
        file?_fill_of_ne t _ h⟩
  · cases htarget
  · rename_i hnone
    simp only [Option.ite_none_right_eq_some, Option.some.injEq, Prod.mk.injEq] at htarget
    obtain ⟨hchanges, rfl, rfl⟩ := htarget
    simp only [hnone, hchanges, ↓reduceIte, file?_fill_self, Option.getD_some, access_fill,
      access_put]
    refine ⟨_, rfl, rfl, rfl, .inr ⟨hnone, rfl⟩, ?_, fun q hq => ?_, file?_fill_self ..,
      fun _ h => ?_⟩
    · exact t.find?_put_self _ (ne_nil_of_find? hnone)
    · exact find?_put_of_ne t _ hq
    · rw [file?_fill_of_ne _ _ h, file?_fill_of_ne _ _ h, file?_put]

/-- Where no file may be written, nothing changes. -/
theorem write_of_no_target (hplace : t.resolve true p = .ok place)
    (htarget : t.target? place = none) (bytes : ByteArray) :
    ∃ f, t.write p bytes = (t, .error f) := by
  unfold target? at htarget
  unfold write openFile
  rw [hplace]
  split at htarget
  · rename_i found hfound
    cases hdata : t.file? found with
    | none => exact ⟨.missing, by simp only [hfound, hdata]⟩
    | some data' =>
      simp only [hdata, Option.bind_some, ite_eq_right_iff, reduceCtorEq, imp_false,
        Bool.not_eq_true] at htarget
      exact ⟨.denied, by simp [hfound, hdata, htarget]⟩
  · rename_i e hother hfound
    cases e with
    | directory => exact ⟨.isDirectory, by simp only [hfound]⟩
    | link => exact ⟨.isDirectory, by simp only [hfound]⟩
    | file id => exact (hother id rfl).elim
  · rename_i hnone
    simp only [ite_eq_right_iff, reduceCtorEq, imp_false, Bool.not_eq_true] at htarget
    exact ⟨.denied, by simp [hnone, htarget]⟩

/-- **What becomes of a write**: nothing changes, or a file is filled. -/
theorem write_cases (t : FileTree) (p : FilePath) (bytes : ByteArray) :
    (∃ f, t.write p bytes = (t, .error f)) ∨
    ∃ (t' : FileTree) (place : FilePlace) (id : Nat) (data : FileData),
      t.resolve true p = .ok place ∧
      t.write p bytes =
        (t', if bytes.size ≤ t.access.fileRoom then .ok () else .error .noRoom) ∧
      t.Filled t' place id { data with bytes := bytes.extract 0 t.access.fileRoom } := by
  cases hplace : t.resolve true p with
  | error f => exact .inl ⟨f, by simp only [write, openFile, hplace]⟩
  | ok place =>
    cases htarget : t.target? place with
    | none => exact .inl (write_of_no_target hplace htarget bytes)
    | some file =>
      obtain ⟨t', hwrite, hfilled⟩ := write_of_target hplace htarget bytes
      exact .inr ⟨t', place, file.1, file.2, rfl, hwrite, hfilled⟩

/-- What was written fits. -/
theorem size_le_of_write (h : t.write p bytes = (t', .ok ())) : bytes.size ≤ t.access.fileRoom := by
  rcases t.write_cases p bytes with ⟨f, hf⟩ | ⟨_, _, _, _, _, hwrite, _⟩
  · cases hf.symm.trans h
  · have houtcome := congrArg Prod.snd (hwrite.symm.trans h)
    dsimp only at houtcome
    split at houtcome
    · assumption
    · cases houtcome

namespace Filled

variable (h : t.Filled t' place id data)
include h

theorem ne_nil : place ≠ [] := by
  rintro rfl
  simpa using h.find?_eq

theorem not_opens : ¬ t.Opens place := by
  rcases h.before with hbefore | ⟨hnone, -⟩
  · exact FileTree.not_opens (by simp [hbefore]) (by simp [hbefore])
  · exact FileTree.not_opens (by simp [hnone]) (by simp [hnone])

theorem keeps : t.Keeps t' where
  access_eq := h.access_eq
  here_eq := h.here_eq
  find?_eq q hq := h.frame q fun heq => h.not_opens (heq ▸ hq)

/-- If the file stood nowhere else, it stands nowhere else. -/
theorem eq_place
    (hown : ∀ q, t.find? place = some (.file id) → t.find? q = some (.file id) → q = place)
    (hq : t.find? q = some (.file id)) : q = place := by
  rcases h.before with hbefore | ⟨-, rfl⟩
  · exact hown q hbefore hq
  · exact absurd (lt_unused hq) (Nat.lt_irrefl _)

/-- A name is looked up as before, but for why a file is no directory. -/
theorem step_cases (here : FilePlace) (n : String) :
    t'.step here n = t.step here n ∨
      t.step here n = .error .missing ∧ t'.step here n = .error .notDirectory := by
  have hstep' : t'.step place n = .error .notDirectory := by rw [step, h.find?_eq]
  by_cases hhere : here = place
  · subst hhere
    rcases h.before with hbefore | ⟨hnone, -⟩
    · exact .inl (hstep'.trans (by rw [step, hbefore]))
    · exact .inr ⟨step_of_none hnone n, hstep'⟩
  · exact .inl (by rw [step, step, h.frame here hhere, h.access_eq])

theorem find?_link_iff (q : FilePlace) (target : FilePath) :
    t'.find? q = some (.link target) ↔ t.find? q = some (.link target) := by
  by_cases hq : q = place
  · subst hq
    rw [h.find?_eq]
    rcases h.before with hbefore | ⟨hnone, -⟩
    · rw [hbefore]
    · simp [hnone]
  · rw [h.frame q hq]

/-- Names lead where they led, but for why a file is no directory. -/
theorem walk_cases (follow : Bool) (links : Nat) (here : FilePlace) (ns : List String) :
    t'.walk follow links here ns = t.walk follow links here ns ∨
      t.walk follow links here ns = .error .missing ∧
        t'.walk follow links here ns = .error .notDirectory := by
  induction links, here, ns using way_induction with
  | nil links here => exact .inl (by rw [walk_nil, walk_nil])
  | cons links here n ns ih ihLink =>
    rcases h.step_cases here n with hstep | ⟨hmissing, hfile⟩
    · rcases t.step_cases here n with ⟨f, hf⟩ | ⟨next, hnext, hplain⟩ | ⟨next, target, hnext, hlink⟩
      · exact .inl (by rw [walk_cons_of_error hf, walk_cons_of_error (hstep.trans hf)])
      · have hplain' (target : FilePath) : t'.find? next ≠ some (.link target) :=
          mt (h.find?_link_iff next target).1 (hplain target)
        rw [walk_cons_of_plain hnext hplain, walk_cons_of_plain (hstep.trans hnext) hplain']
        exact ih next
      · have hlink' := (h.find?_link_iff next target).2 hlink
        by_cases hmore : ns ≠ [] ∨ follow = true
        · cases links with
          | zero =>
            exact .inl (by rw [walk_zero_of_link hnext hlink hmore,
              walk_zero_of_link (hstep.trans hnext) hlink' hmore])
          | succ fewer =>
            rw [walk_succ_of_link hnext hlink hmore,
              walk_succ_of_link (hstep.trans hnext) hlink' hmore]
            exact ihLink fewer rfl _ _
        · obtain ⟨rfl, rfl⟩ : ns = [] ∧ follow = false := by simpa using hmore
          exact .inl (by rw [walk_last_of_link hnext hlink,
            walk_last_of_link (hstep.trans hnext) hlink'])
    · exact .inr ⟨walk_cons_of_error hmissing, walk_cons_of_error hfile⟩

/-- A path leads where it led, but for why a file is no directory. -/
theorem resolve_cases (follow : Bool) (p : FilePath) :
    t'.resolve follow p = t.resolve follow p ∨
      t.resolve follow p = .error .missing ∧ t'.resolve follow p = .error .notDirectory := by
  rw [resolve_eq, resolve_eq, h.keeps.refusal?, h.keeps.start]
  cases t.refusal? p with
  | some f => exact .inl rfl
  | none => exact h.walk_cases follow maxLinks _ _

end Filled

theorem Filled.sameAt (h : t.Filled t' place id data)
    (hown : ∀ q, t.find? q = some (.file id) → q = place) (hq : q ≠ place) : t.SameAt t' q where
  find?_eq := h.frame q hq
  file?_eq other hother := h.files other fun heq => hq (hown q (heq ▸ hother))

/-! ## Moving -/

/-- A file was moved over another one, and all else is as it was. -/
structure Replaced (t t' : FileTree) (file draft : FilePlace) (id : Nat) (data : FileData) :
    Prop where
  /-- The same is allowed. -/
  access_eq : t'.access = t.access
  /-- Paths start at the same place. -/
  here_eq : t'.here = t.here
  /-- The file stands at its new place. -/
  find?_file : t'.find? file = some (.file id)
  /-- Nothing stands at its old place. -/
  find?_draft : t'.find? draft = none
  /-- All other places are as they were. -/
  frame : ∀ q, q ≠ file → q ≠ draft → t'.find? q = t.find? q
  /-- This is the file. -/
  file?_eq : t'.file? id = some data
  /-- All other files are as they were. -/
  files : ∀ other, other ≠ id → t'.file? other = t.file? other

/-- A file that was filled is moved. -/
theorem Filled.replaced (h : t.Filled t' draft id data) (hne : file ≠ draft) (hfile : file ≠ []) :
    t.Replaced ((t'.remove draft).put file (.file id)) file draft id data where
  access_eq := h.access_eq
  here_eq := h.here_eq
  find?_file := find?_put_self _ _ hfile
  find?_draft := by rw [find?_put_of_ne _ _ hne.symm, find?_remove_self t' h.ne_nil]
  frame q hq hq' := by rw [find?_put_of_ne _ _ hq, find?_remove_of_ne t' hq', h.frame q hq']
  file?_eq := h.file?_eq
  files := h.files

theorem Replaced.sameAt (h : t.Replaced t' file draft id data)
    (hown : ∀ q, t.find? q = some (.file id) → q = draft) (hfile : q ≠ file) (hdraft : q ≠ draft) :
    t.SameAt t' q where
  find?_eq := h.frame q hfile hdraft
  file?_eq other hother := h.files other fun heq => hdraft (hown q (heq ▸ hother))

/-- Nothing that leads to a directory changes, if it stands neither here nor there. -/
theorem Replaced.keeps (h : t.Replaced t' file draft id data) (hfile : ¬ t.Opens file)
    (hdraft : ¬ t.Opens draft) : t.Keeps t' where
  access_eq := h.access_eq
  here_eq := h.here_eq
  find?_eq q hq := h.frame q (fun heq => hfile (heq ▸ hq)) fun heq => hdraft (heq ▸ hq)

theorem any_isSameFile_iff {e : FileEntry} {at? : Option FileEntry} :
    at?.any (isSameFile e) = true ↔ ∃ id, e = .file id ∧ at? = some (.file id) := by
  cases at? with
  | none => simp
  | some found => cases e <;> cases found <;> simp [isSameFile, eq_comm]

/-- A file is moved to where no directory is. -/
theorem rename_eq (hdraft : t.resolve false source = .ok draft)
    (hfile : t.resolve false target = .ok file) (hfound : t.find? draft = some (.file id))
    (hfree : t.find? file ≠ some .directory) (hother : t.find? file ≠ some (.file id))
    (hchanges : t.access.changes draft = true ∧ t.access.changes file = true) :
    t.rename source target = .ok ((t.remove draft).put file (.file id)) := by
  have hne : draft ≠ file := fun heq => hother (heq ▸ hfound)
  unfold rename
  rw [hdraft, hfile]
  simp only [hfound, hne, hchanges]
  cases hat : t.find? file with
  | none => simp
  | some e =>
    cases e with
    | directory => exact absurd hat hfree
    | link target => simp [isSameFile]
    | file found =>
      have hids : id ≠ found := fun heq => hother (heq ▸ hat)
      simp [isSameFile, hids]

/-- What is moved is no directory and no directory is in its way, and it takes the other place
unless it has it. -/
theorem of_rename (h : t.rename source target = .ok t') :
    ∃ draft file e, t.resolve false source = .ok draft ∧ t.resolve false target = .ok file ∧
      t.find? draft = some e ∧ t.find? file ≠ some .directory ∧
      (t' = t ∧ (draft = file ∨ ∃ id, e = .file id ∧ t.find? file = some (.file id)) ∨
        t' = (t.remove draft).put file e) := by
  unfold rename at h
  split at h
  · cases h
  · cases h
  · rename_i draft file hdraft hfile
    split at h
    · cases h
    · cases h
    · cases h
    · rename_i hfound hfree
      refine ⟨draft, file, _, hdraft, hfile, hfound, hfree, ?_⟩
      split at h
      · rename_i hsame
        refine .inl ⟨(Except.ok.inj h).symm, ?_⟩
        rwa [Bool.or_eq_true, decide_eq_true_eq, any_isSameFile_iff] at hsame
      · split at h
        · exact .inr (Except.ok.inj h).symm
        · cases h

/-! ## Removing -/

theorem unlink_eq (hplace : t.resolve false p = .ok place) {e : FileEntry}
    (hfound : t.find? place = some e) (hfree : e ≠ .directory)
    (hchanges : t.access.changes place = true) : t.unlink p = .ok (t.remove place) := by
  unfold unlink
  rw [hplace]
  cases e with
  | directory => exact absurd rfl hfree
  | file id => simp [hfound, hchanges]
  | link target => simp [hfound, hchanges]

theorem unlink_of_none (hplace : t.resolve false p = .ok place) (hnone : t.find? place = none) :
    t.unlink p = .error .missing := by
  simp only [unlink, hplace, hnone]

end MessageRouting.FileTree
