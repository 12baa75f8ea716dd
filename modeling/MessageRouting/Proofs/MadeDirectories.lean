import MessageRouting.Proofs.FileTrees

/-!
# Directories that are made

What becomes of a tree by `makeDirectories` is that some directories on the way are there which were
missing (`Grows`, `grows_makeDirectories`, `isDirectory_makeDirectories`). If any were, there was no
way behind the path before (`eq_or_missing`), and without dots there is nothing behind it afterwards
(`find?_makeDirectories`), as long as all entries lie in directories (`IsClosed`).
-/

namespace MessageRouting.FileTree

variable {t t' made : FileTree} {here place q : FilePlace} {n : String} {p : FilePath}
  {f : TreeFault} {outcome : Except TreeFault Unit}

/-- A directory on the way of a path was made where nothing was. -/
def MadeAt (t t' : FileTree) (p : FilePath) (q : FilePlace) : Prop :=
  t.find? q = none ∧ t'.find? q = some .directory ∧
    ∃ front, front <+: p.names ∧ t'.resolve true ⟨p.absolute, front⟩ = .ok q

/-- Nothing has changed but that directories were made on the way of a path where nothing was. -/
structure Grows (t t' : FileTree) (p : FilePath) : Prop where
  /-- The same is allowed. -/
  access_eq : t'.access = t.access
  /-- Paths start at the same place. -/
  here_eq : t'.here = t.here
  /-- Files are what they were. -/
  files_eq : t'.files = t.files
  /-- What stood somewhere stands there, and what was made is a directory on the way. -/
  find?_cases : ∀ q, t'.find? q = t.find? q ∨ MadeAt t t' p q

theorem Grows.refl (t : FileTree) (p : FilePath) : t.Grows t p := ⟨rfl, rfl, rfl, fun _ => .inl rfl⟩

theorem Grows.find?_eq (h : t.Grows t' p) (hq : t.find? q ≠ none) : t'.find? q = t.find? q :=
  (h.find?_cases q).resolve_right fun hmade => hq hmade.1

theorem Grows.keeps (h : t.Grows t' p) : t.Keeps t' where
  access_eq := h.access_eq
  here_eq := h.here_eq
  find?_eq _ hq := h.find?_eq hq.ne_none

theorem Grows.trans {t'' : FileTree} (h : t.Grows t' p) (h' : t'.Grows t'' p) : t.Grows t'' p where
  access_eq := h'.access_eq.trans h.access_eq
  here_eq := h'.here_eq.trans h.here_eq
  files_eq := h'.files_eq.trans h.files_eq
  find?_cases q := by
    rcases h.find?_cases q with heq | ⟨hnone, hmade, front, hfront, hway⟩
    · exact (h'.find?_cases q).imp (·.trans heq) fun ⟨hnone, hmade⟩ => ⟨heq ▸ hnone, hmade⟩
    · have hstays := h'.find?_eq (by simp [hmade] : t'.find? q ≠ none)
      exact .inr ⟨hnone, hstays.trans hmade, front, hfront, h'.keeps.resolve hway hmade⟩

theorem Grows.extend (h : t.Grows t' p) {q : FilePath} (habsolute : q.absolute = p.absolute)
    (hnames : p.names <+: q.names) : t.Grows t' q where
  access_eq := h.access_eq
  here_eq := h.here_eq
  files_eq := h.files_eq
  find?_cases place := (h.find?_cases place).imp_right
    fun ⟨hnone, hmade, front, hfront, hway⟩ =>
      ⟨hnone, hmade, front, hfront.trans hnames, habsolute ▸ hway⟩

/-- A directory is made at the place of a path, where nothing was. -/
theorem of_makeDirectory (h : t.makeDirectory p = .ok t') : ∃ place,
    t.resolve false p = .ok place ∧ t.find? place = none ∧ t' = t.put place .directory := by
  unfold makeDirectory at h
  split at h
  · cases h
  · rename_i place hplace
    split at h
    · cases h
    · split at h
      · exact ⟨place, hplace, ‹_›, (Except.ok.inj h).symm⟩
      · cases h

theorem ne_nil_of_find? (h : t.find? q = none) : q ≠ [] := by
  rintro rfl
  simp at h

/-- The path of a directory that was made leads to it. -/
theorem resolve_makeDirectory (hplace : t.resolve false p = .ok place)
    (hnone : t.find? place = none) : (t.put place .directory).resolve true p = .ok place := by
  have hkeeps : t.Keeps (t.put place .directory) :=
    keeps_put (not_opens (by simp [hnone]) (by simp [hnone])) _
  have hmade := t.find?_put_self .directory (ne_nil_of_find? hnone)
  rw [resolve_eq_ok_iff] at hplace ⊢
  obtain ⟨hrefusal, hwalk⟩ := hplace
  rw [hkeeps.refusal?, hkeeps.start]
  refine ⟨hrefusal, ?_⟩
  rcases List.eq_nil_or_concat p.names with hnames | ⟨front, n, hnames⟩
  · rw [hnames, walk_nil] at hwalk ⊢
    exact hwalk
  · rw [List.concat_eq_append] at hnames
    rw [hnames] at hwalk ⊢
    obtain ⟨left, around, hleads, hstep⟩ := leads_of_walk_concat hwalk
    have haround := find?_of_step hstep
    have hstep' : (t.put place .directory).step around n = .ok place := by
      rwa [hkeeps.step haround]
    rw [(hleads.keeps haround hkeeps).walk_append (.inr rfl),
      walk_cons_of_plain hstep' (by simp [hmade]), walk_nil]

theorem grows_makeDirectory (h : t.makeDirectory p = .ok t') : t.Grows t' p := by
  obtain ⟨place, hplace, hnone, rfl⟩ := of_makeDirectory h
  refine ⟨rfl, rfl, rfl, fun q => ?_⟩
  by_cases hq : q = place
  · subst hq
    exact .inr ⟨hnone, t.find?_put_self _ (ne_nil_of_find? hnone), p.names, List.prefix_rfl,
      resolve_makeDirectory hplace hnone⟩
  · exact .inl (find?_put_of_ne t _ hq)

theorem isDirectory_makeDirectory (h : t.makeDirectory p = .ok t') : t'.isDirectory p = true := by
  obtain ⟨place, hplace, hnone, rfl⟩ := of_makeDirectory h
  exact isDirectory_iff.2 ⟨place, resolve_makeDirectory hplace hnone,
    t.find?_put_self _ (ne_nil_of_find? hnone)⟩

theorem unlessThere_eq_ok_iff : t.unlessThere p f = .ok () ↔ t.isDirectory p = true := by
  unfold unlessThere
  split <;> simp_all

theorem grows_ensureDirectory (h : t.ensureDirectory p = (t', outcome)) : t.Grows t' p := by
  unfold ensureDirectory at h
  split at h
  · rename_i hmade
    obtain ⟨rfl, -⟩ := Prod.mk.inj h
    exact grows_makeDirectory hmade
  · obtain ⟨rfl, -⟩ := Prod.mk.inj h
    exact .refl t p

theorem isDirectory_ensureDirectory (h : t.ensureDirectory p = (t', .ok ())) :
    t'.isDirectory p = true := by
  unfold ensureDirectory at h
  split at h
  · rename_i hmade
    obtain ⟨rfl, -⟩ := Prod.mk.inj h
    exact isDirectory_makeDirectory hmade
  · obtain ⟨rfl, hthere⟩ := Prod.mk.inj h
    exact unlessThere_eq_ok_iff.1 hthere

variable {absolute : Bool} {back : List String}

theorem grows_makeWay (h : t.makeWay absolute back = (t', outcome)) :
    t.Grows t' ⟨absolute, back.reverse⟩ := by
  induction back generalizing t t' outcome with
  | nil => exact grows_ensureDirectory h
  | cons n back ih =>
    unfold makeWay at h
    dsimp only at h
    split at h
    · rename_i hmade
      obtain ⟨rfl, -⟩ := Prod.mk.inj h
      exact grows_makeDirectory hmade
    · have hfront {made : FileTree} {o : Except TreeFault Unit}
          (hway : t.makeWay absolute back = (made, o)) :
          t.Grows made ⟨absolute, (n :: back).reverse⟩ := by
        refine (ih hway).extend rfl ?_
        rw [List.reverse_cons]
        exact List.prefix_append _ _
      split at h
      · rename_i hway
        obtain ⟨rfl, -⟩ := Prod.mk.inj h
        exact hfront hway
      · rename_i hway
        exact (hfront hway).trans (grows_ensureDirectory h)
    · obtain ⟨rfl, -⟩ := Prod.mk.inj h
      exact .refl t _

theorem isDirectory_makeWay (h : t.makeWay absolute back = (t', .ok ())) :
    t'.isDirectory ⟨absolute, back.reverse⟩ = true := by
  cases back with
  | nil => exact isDirectory_ensureDirectory h
  | cons n back =>
    unfold makeWay at h
    dsimp only at h
    split at h
    · rename_i hmade
      obtain ⟨rfl, -⟩ := Prod.mk.inj h
      exact isDirectory_makeDirectory hmade
    · split at h
      · cases h
      · exact isDirectory_ensureDirectory h
    · obtain ⟨rfl, hthere⟩ := Prod.mk.inj h
      exact unlessThere_eq_ok_iff.1 hthere

/-- **Making directories** changes nothing but that some are there which were missing. -/
theorem grows_makeDirectories (h : t.makeDirectories p = (t', outcome)) : t.Grows t' p := by
  have hgrows := grows_makeWay h
  rwa [List.reverse_reverse] at hgrows

/-- Directories that were made are there. -/
theorem isDirectory_makeDirectories (h : t.makeDirectories p = (t', .ok ())) :
    t'.isDirectory p = true := by
  have hmade := isDirectory_makeWay h
  rwa [List.reverse_reverse] at hmade

/-- A directory that is there is not made again. -/
theorem makeDirectory_of_isDirectory (h : t.isDirectory p = true) :
    t.makeDirectory p = .error .taken := by
  obtain ⟨place, hplace, hdirectory⟩ := isDirectory_iff.1 h
  obtain ⟨hrefusal, hwalk⟩ := resolve_eq_ok_iff.1 hplace
  obtain ⟨left, hleads⟩ := leads_of_walk hwalk
  obtain ⟨there, hthere, hcases⟩ := hleads.walk_false
  have hsome : ∃ e, t.find? there = some e := by
    rcases hcases with rfl | ⟨target, hlink⟩
    · exact ⟨_, hdirectory⟩
    · exact ⟨_, hlink⟩
  obtain ⟨e, he⟩ := hsome
  rw [makeDirectory, resolve_eq_ok_iff.2 ⟨hrefusal, hthere⟩]
  simp only [he]

theorem makeWay_of_isDirectory (h : t.isDirectory ⟨absolute, back.reverse⟩ = true) :
    t.makeWay absolute back = (t, .ok ()) := by
  have htaken := makeDirectory_of_isDirectory h
  cases back with
  | nil =>
    rw [List.reverse_nil] at h htaken
    rw [makeWay, ensureDirectory, htaken]
    simp only [unlessThere_eq_ok_iff.2 h]
  | cons n front =>
    rw [makeWay]
    simp only [htaken, unlessThere_eq_ok_iff.2 h]

/-- Where the directory is there, nothing is made. -/
theorem makeDirectories_of_isDirectory (h : t.isDirectory p = true) :
    t.makeDirectories p = (t, .ok ()) :=
  makeWay_of_isDirectory (by rwa [List.reverse_reverse])

/-- What is made first on a way: the directory itself, or one around it to which there is no way, or
nothing. -/
theorem makeWay_cases (h : t.makeWay absolute back = (made, outcome)) :
    t.makeDirectory ⟨absolute, back.reverse⟩ = .ok made ∨
      t.resolve false ⟨absolute, back.reverse⟩ = .error .missing ∨ made = t := by
  have hmissing {p : FilePath} (hmake : t.makeDirectory p = .error .missing) :
      t.resolve false p = .error .missing := by
    unfold makeDirectory at hmake
    split at hmake
    · rename_i f hf
      rw [hf, Except.error.inj hmake]
    · split at hmake
      · cases hmake
      · split at hmake <;> cases hmake
  cases back with
  | nil =>
    rw [makeWay, ensureDirectory] at h
    split at h
    · exact .inl (‹t.makeDirectory _ = _›.trans (congrArg Except.ok (Prod.mk.inj h).1))
    · exact .inr (.inr (Prod.mk.inj h).1.symm)
  | cons n front =>
    rw [makeWay] at h
    split at h
    · exact .inl (‹t.makeDirectory _ = _›.trans (congrArg Except.ok (Prod.mk.inj h).1))
    · exact .inr (.inl (hmissing ‹_›))
    · exact .inr (.inr (Prod.mk.inj h).1.symm)

/-- If directories were made, there was no way behind the path before. -/
theorem eq_or_missing {more : List String} (h : t.makeDirectories p = (made, outcome))
    (hmore : more ≠ []) {q : FilePath} (habsolute : q.absolute = p.absolute)
    (hnames : q.names = p.names ++ more) (hrefusal : t.refusal? q = none) :
    made = t ∨ ∀ follow, t.resolve follow q = .error .missing := by
  have hcases := makeWay_cases h
  rw [List.reverse_reverse] at hcases
  rcases hcases with hmake | hmissing | hmade
  · obtain ⟨place, hplace, hnone, -⟩ := of_makeDirectory hmake
    exact .inr (resolve_append_of_none hplace hnone hmore habsolute hnames hrefusal)
  · refine .inr fun follow => ?_
    have hstart : start q t.here = start p t.here := by rw [start, start, habsolute]
    rw [resolve_eq_walk hrefusal, hstart, hnames]
    refine walk_append_of_error ?_ follow more
    rw [resolve_eq] at hmissing
    split at hmissing
    · rename_i f hf
      exact absurd (Except.error.inj hmissing ▸ hf) refusal?_ne_missing
    · exact hmissing
  · exact .inl hmade

/-! ## Trees without loose entries -/

/-- All entries lie in directories, and paths start at one. -/
structure IsClosed (t : FileTree) : Prop where
  /-- Around an entry is a directory. -/
  around : ∀ (front : FilePlace) (n : String), t.find? (front ++ [n]) ≠ none →
    t.find? front = some .directory
  /-- A directory is where paths start. -/
  here_directory : t.find? t.here = some .directory

theorem mem_entries {e : FileEntry} (hq : q ≠ []) (h : t.find? q = some e) :
    (q, e) ∈ t.entries := by
  unfold find? at h
  rw [if_neg hq] at h
  obtain ⟨⟨place, found⟩, hfound, rfl⟩ := Option.map_eq_some_iff.1 h
  obtain rfl : place = q := by simpa using List.find?_some hfound
  exact List.mem_of_find?_eq_some hfound

theorem isClosed_of_entries (hhere : t.find? t.here = some .directory)
    (h : ∀ e ∈ t.entries, t.find? e.1.dropLast = some .directory) : t.IsClosed where
  around front n hsome := by
    obtain ⟨e, he⟩ := Option.ne_none_iff_exists'.1 hsome
    have haround := h _ (mem_entries (by simp) he)
    rwa [List.dropLast_concat] at haround
  here_directory := hhere

namespace IsClosed

theorem none_concat (h : t.IsClosed) (hnone : t.find? place = none) (n : String) :
    t.find? (place ++ [n]) = none := by
  by_contra hsome
  rw [h.around place n hsome] at hnone
  cases hnone

/-- Two dots lead to a directory. -/
theorem directory_dropLast (h : t.IsClosed) (hdirectory : t.find? place = some .directory) :
    t.find? place.dropLast = some .directory := by
  rcases List.eq_nil_or_concat place with rfl | ⟨front, n, rfl⟩
  · exact hdirectory
  · rw [List.concat_eq_append] at hdirectory ⊢
    rw [List.dropLast_concat]
    exact h.around front n (by simp [hdirectory])

/-- A directory is made in a directory. -/
theorem exists_around (h : t.IsClosed) (hplace : t.resolve false p = .ok place)
    (hnone : t.find? place = none) :
    ∃ (front : FilePlace) (n : String), place = front ++ [n] ∧ t.find? front = some .directory := by
  have hwalk := (resolve_eq_ok_iff.1 hplace).2
  rcases List.eq_nil_or_concat p.names with hp | ⟨front, n, hp⟩
  · rw [hp, walk_nil, Except.ok.injEq] at hwalk
    have hstart : t.find? (start p t.here) = some .directory := by
      rw [start]
      split
      · exact t.find?_nil
      · exact h.here_directory
    rw [hwalk, hnone] at hstart
    cases hstart
  · rw [hp, List.concat_eq_append] at hwalk
    obtain ⟨left, around, -, hstep⟩ := leads_of_walk_concat hwalk
    have haround := find?_of_step hstep
    have hchild := eq_child_of_step hstep
    unfold child at hchild
    split at hchild
    · rw [hchild, h.directory_dropLast haround] at hnone
      cases hnone
    · exact ⟨around, n, hchild, haround⟩

theorem makeDirectory (h : t.IsClosed) (hmade : t.makeDirectory p = .ok t') : t'.IsClosed := by
  obtain ⟨place, hplace, hnone, rfl⟩ := of_makeDirectory hmade
  obtain ⟨around, m, rfl, haround⟩ := h.exists_around hplace hnone
  have hkeeps : t.Keeps (t.put (around ++ [m]) .directory) :=
    keeps_put (not_opens (by simp [hnone]) (by simp [hnone])) _
  refine ⟨fun front n hsome => ?_, hkeeps.directory h.here_directory⟩
  by_cases hq : front ++ [n] = around ++ [m]
  · obtain ⟨rfl, -⟩ := List.append_inj' hq rfl
    exact hkeeps.directory haround
  · rw [find?_put_of_ne t _ hq] at hsome
    exact hkeeps.directory (h.around front n hsome)

theorem ensureDirectory (h : t.IsClosed) (hmade : t.ensureDirectory p = (t', outcome)) :
    t'.IsClosed := by
  unfold FileTree.ensureDirectory at hmade
  split at hmade
  · rename_i hmake
    exact (Prod.mk.inj hmade).1 ▸ h.makeDirectory hmake
  · exact (Prod.mk.inj hmade).1 ▸ h

theorem makeWay (h : t.IsClosed) (hmade : t.makeWay absolute back = (t', outcome)) :
    t'.IsClosed := by
  induction back generalizing t t' outcome with
  | nil => exact h.ensureDirectory hmade
  | cons n back ih =>
    rw [FileTree.makeWay] at hmade
    split at hmade
    · rename_i hmake
      exact (Prod.mk.inj hmade).1 ▸ h.makeDirectory hmake
    · split at hmade
      · rename_i hway
        exact (Prod.mk.inj hmade).1 ▸ ih h hway
      · rename_i hway
        exact (ih h hway).ensureDirectory hmade
    · exact (Prod.mk.inj hmade).1 ▸ h

theorem makeDirectories (h : t.IsClosed) (hmade : t.makeDirectories p = (t', outcome)) :
    t'.IsClosed :=
  h.makeWay hmade

end IsClosed

/-! ## What is behind directories that were made -/

variable {follow : Bool} {r : FilePath}

/-- Nothing is in a directory that was made. -/
theorem find?_of_makeDirectory (hclosed : t.IsClosed) (hmade : t.makeDirectory p = .ok made)
    (habsolute : r.absolute = p.absolute) (hnames : r.names = p.names ++ [n]) (hplain : n ≠ "..")
    (hplace : made.resolve follow r = .ok place) : made.find? place = none := by
  obtain ⟨here, hhere, hnone, rfl⟩ := of_makeDirectory hmade
  have hfront : (t.put here .directory).resolve true ⟨r.absolute, p.names⟩ = .ok here := by
    rw [habsolute]
    exact resolve_makeDirectory hhere hnone
  have hinside : (t.put here .directory).find? (here ++ [n]) = none := by
    rw [find?_put_of_ne t _ (by simp)]
    exact hclosed.none_concat hnone n
  have hchild : child here n = here ++ [n] := if_neg hplain
  have heq := eq_child_of_resolve hfront hnames hplace (.inr (by simp [hchild, hinside]))
  rw [heq, hchild, hinside]

/-- Behind a path at which nothing is, there is nothing. -/
theorem resolve_append_ne_ok {more : List String}
    (hnone : ∀ place, t.resolve false p = .ok place → t.find? place = none) (hmore : more ≠ [])
    (habsolute : r.absolute = p.absolute) (hnames : r.names = p.names ++ more) :
    t.resolve follow r ≠ .ok place := by
  intro h
  have hrefusal := (resolve_eq_ok_iff.1 h).1
  have hrefusal' : t.refusal? p = none := by
    have hprefix : p.names <+: r.names := hnames ▸ List.prefix_append _ _
    have hfront := refusal?_front hprefix hrefusal
    rwa [habsolute] at hfront
  cases hplace : t.resolve false p with
  | ok there =>
    rw [resolve_append_of_none hplace (hnone there hplace) hmore habsolute hnames hrefusal] at h
    cases h
  | error f =>
    have hstart : start r t.here = start p t.here := by rw [start, start, habsolute]
    rw [resolve_eq_walk hrefusal'] at hplace
    rw [resolve_eq_walk hrefusal, hstart, hnames, walk_append_of_error hplace] at h
    cases h

theorem find?_makeWay (hclosed : t.IsClosed) (hmade : t.makeWay absolute back = (made, outcome))
    (hne : made ≠ t) (hback : ".." ∉ back) (habsolute : r.absolute = absolute)
    (hnames : r.names = back.reverse ++ [n]) (hplain : n ≠ "..")
    (hplace : made.resolve follow r = .ok place) : made.find? place = none := by
  induction back generalizing t made outcome follow r n place with
  | nil =>
    rw [makeWay, ensureDirectory] at hmade
    split at hmade
    · rename_i hmake
      exact find?_of_makeDirectory hclosed ((Prod.mk.inj hmade).1 ▸ hmake) habsolute hnames hplain
        hplace
    · exact absurd (Prod.mk.inj hmade).1.symm hne
  | cons m back ih =>
    obtain ⟨hm, hback⟩ := List.ne_and_not_mem_of_not_mem_cons hback
    rw [makeWay] at hmade
    split at hmade
    · rename_i hmake
      exact find?_of_makeDirectory hclosed ((Prod.mk.inj hmade).1 ▸ hmake) habsolute hnames hplain
        hplace
    · -- where the directory itself is not made, there is nothing at its path
      have hfront {outcome : Except TreeFault Unit}
          (hway : t.makeWay absolute back = (made, outcome)) : made.find? place = none := by
        have hnone (place : FilePlace)
            (h : made.resolve false ⟨absolute, (m :: back).reverse⟩ = .ok place) :
            made.find? place = none :=
          ih hclosed hway hne hback rfl List.reverse_cons hm.symm h
        exact absurd hplace (resolve_append_ne_ok hnone (List.cons_ne_nil _ _) habsolute hnames)
      split at hmade
      · rename_i hway
        exact hfront ((Prod.mk.inj hmade).1 ▸ hway)
      · rename_i hway
        rw [ensureDirectory] at hmade
        split at hmade
        · rename_i hmake
          exact find?_of_makeDirectory (hclosed.makeWay hway) ((Prod.mk.inj hmade).1 ▸ hmake)
            habsolute hnames hplain hplace
        · exact hfront ((Prod.mk.inj hmade).1 ▸ hway)
    · exact absurd (Prod.mk.inj hmade).1.symm hne

/-- **Without dots, nothing is behind directories that were made.** -/
theorem find?_makeDirectories (hclosed : t.IsClosed)
    (hmade : t.makeDirectories p = (made, outcome)) (hne : made ≠ t)
    (habsolute : r.absolute = p.absolute) (hnames : r.names = p.names ++ [n])
    (hplain : ".." ∉ r.names) (hplace : made.resolve follow r = .ok place) :
    made.find? place = none := by
  rw [hnames, List.mem_append, List.mem_singleton, not_or] at hplain
  refine find?_makeWay hclosed hmade hne ?_ habsolute ?_ (Ne.symm hplain.2) hplace
  · rw [List.mem_reverse]
    exact hplain.1
  · rw [List.reverse_reverse]
    exact hnames

end MessageRouting.FileTree
