import Mathlib.Data.List.Basic
import MessageRouting.FileTree

/-!
# Ways in file trees

The names of a path lead from directory to directory, and a link on the way takes some names more
(`Leads`). The way to a directory stays as it is while nothing changes that leads to a directory
(`Leads.keeps`): not the directories, and not the links to them (`Opens`). So a path keeps its place
while files beside it are written, moved and removed (`Keeps.resolve`).
-/

namespace MessageRouting.FileTree

variable {t t' : FileTree} {links left : Nat} {here next place q : FilePlace} {n : String}
  {ns more : List String} {follow : Bool} {f : TreeFault} {target : FilePath}

/-! ## Steps -/

theorem find?_of_step (h : t.step here n = .ok next) : t.find? here = some .directory := by
  unfold step at h
  split at h
  · cases h
  · assumption
  · cases h

theorem eq_child_of_step (h : t.step here n = .ok next) : next = child here n := by
  unfold step at h
  split at h
  · cases h
  · split at h
    · cases h
    · split at h
      · cases h
      · exact (Except.ok.inj h).symm
  · cases h

theorem step_of_none (h : t.find? here = none) (n : String) : t.step here n = .error .missing := by
  rw [step, h]

/-- A name that is looked up is short enough, and its directory can be searched. -/
theorem of_step (h : t.step here n = .ok next) :
    t.access.searches here = true ∧ n.utf8ByteSize ≤ t.access.nameRoom := by
  unfold step at h
  split at h
  · cases h
  · split at h
    · cases h
    · split at h
      · cases h
      · rename_i hsearched hshort
        exact ⟨Bool.not_eq_false _ ▸ hsearched, Nat.not_lt.1 hshort⟩
  · cases h

/-- A name that is short enough is looked up in a directory that can be searched. -/
theorem step_eq_child (h : t.find? here = some .directory)
    (hsearched : t.access.searches here = true)
    (hshort : n.utf8ByteSize ≤ t.access.nameRoom) : t.step here n = .ok (child here n) := by
  rw [step, h]
  simp [hsearched, Nat.not_lt.2 hshort]

/-! ## One name of a way -/

@[simp] theorem walk_nil (t : FileTree) (follow : Bool) (links : Nat) (here : FilePlace) :
    t.walk follow links here [] = .ok here := by
  cases links <;> rfl

theorem walk_cons_of_error (h : t.step here n = .error f) :
    t.walk follow links here (n :: ns) = .error f := by
  cases links <;> simp [walk, along, h]

theorem walk_cons_of_plain (h : t.step here n = .ok next)
    (hplain : ∀ target, t.find? next ≠ some (.link target)) :
    t.walk follow links here (n :: ns) = t.walk follow links next ns := by
  cases links <;>
  · rw [walk, along, h]
    dsimp only
    split
    · exact absurd ‹_› (hplain _)
    · rfl

/-- A link at the end is not followed if links are not. -/
theorem walk_last_of_link (h : t.step here n = .ok next)
    (hlink : t.find? next = some (.link target)) :
    t.walk false links here [n] = .ok next := by
  cases links <;> simp [walk, along, h, hlink]

theorem walk_zero_of_link (h : t.step here n = .ok next)
    (hlink : t.find? next = some (.link target))
    (hmore : ns ≠ [] ∨ follow = true) : t.walk follow 0 here (n :: ns) = .error .loop := by
  rcases hmore with hmore | hmore <;> simp [walk, along, h, hlink, hmore]

theorem walk_succ_of_link (h : t.step here n = .ok next)
    (hlink : t.find? next = some (.link target))
    (hmore : ns ≠ [] ∨ follow = true) :
    t.walk follow (links + 1) here (n :: ns) =
      t.walk follow links (start target here) (target.names ++ ns) := by
  rcases hmore with hmore | hmore <;> simp [walk, along, h, hlink, hmore]

/-- What becomes of a way at its first name: it ends in a fault, goes on, or goes on by the target
of a link. -/
theorem step_cases (t : FileTree) (here : FilePlace) (n : String) :
    (∃ f, t.step here n = .error f) ∨
    (∃ next, t.step here n = .ok next ∧ ∀ target, t.find? next ≠ some (.link target)) ∨
    ∃ next target, t.step here n = .ok next ∧ t.find? next = some (.link target) := by
  cases hstep : t.step here n with
  | error f => exact .inl ⟨f, rfl⟩
  | ok next =>
    by_cases hlink : ∃ target, t.find? next = some (.link target)
    · obtain ⟨target, hlink⟩ := hlink
      exact .inr (.inr ⟨next, target, rfl, hlink⟩)
    · exact .inr (.inl ⟨next, rfl, fun target h => hlink ⟨target, h⟩⟩)

/-- What holds of ways without names holds of all ways, if it holds of a way as soon as it holds of
those with one name less, and of those that may follow one link less. -/
theorem way_induction {P : Nat → FilePlace → List String → Prop}
    (nil : ∀ links here, P links here [])
    (cons : ∀ links here n ns, (∀ next, P links next ns) →
      (∀ fewer, links = fewer + 1 → ∀ here ns, P fewer here ns) → P links here (n :: ns))
    (links : Nat) (here : FilePlace) (ns : List String) : P links here ns := by
  induction links generalizing here ns with
  | zero =>
    induction ns generalizing here with
    | nil => exact nil _ _
    | cons n ns ih => exact cons _ _ _ _ ih nofun
  | succ links outer =>
    induction ns generalizing here with
    | nil => exact nil _ _
    | cons n ns ih =>
      refine cons _ _ _ _ ih fun fewer h => ?_
      obtain rfl := Nat.succ.inj h
      exact outer

/-! ## Ways -/

/-- Names lead from one place to another, with some links left that may be followed. -/
inductive Leads (t : FileTree) : Nat → FilePlace → List String → Nat → FilePlace → Prop where
  /-- No name leads no further. -/
  | nil {links : Nat} {here : FilePlace} : Leads t links here [] links here
  /-- A name of anything but a link. -/
  | plain {links left : Nat} {here next place : FilePlace} {n : String} {ns : List String}
    (hstep : t.step here n = .ok next) (hplain : ∀ target, t.find? next ≠ some (.link target))
    (hrest : Leads t links next ns left place) : Leads t links here (n :: ns) left place
  /-- The name of a link. -/
  | link {links left : Nat} {here next place : FilePlace} {n : String} {ns : List String}
    {target : FilePath} (hstep : t.step here n = .ok next)
    (hlink : t.find? next = some (.link target))
    (hrest : Leads t links (start target here) (target.names ++ ns) left place) :
    Leads t (links + 1) here (n :: ns) left place

/-- A way goes on from the place to which its beginning leads. -/
theorem Leads.walk_append (h : t.Leads links here ns left place)
    (hmore : more ≠ [] ∨ follow = true) :
    t.walk follow links here (ns ++ more) = t.walk follow left place more := by
  induction h with
  | nil => rfl
  | plain hstep hplain _ ih =>
    rw [List.cons_append, walk_cons_of_plain hstep hplain]
    exact ih
  | @link links left here next place n ns target hstep hlink _ ih =>
    have hrest : ns ++ more ≠ [] ∨ follow = true :=
      hmore.imp_left (List.append_ne_nil_of_right_ne_nil ns)
    rw [List.cons_append, walk_succ_of_link hstep hlink hrest, ← List.append_assoc]
    exact ih

theorem Leads.walk (h : t.Leads links here ns left place) :
    t.walk true links here ns = .ok place := by
  have hwalk : t.walk true links here (ns ++ []) = t.walk true left place [] :=
    h.walk_append (.inr rfl)
  rwa [List.append_nil, walk_nil] at hwalk

/-- A way that follows all links leads to where it ends. -/
theorem leads_of_walk (h : t.walk true links here ns = .ok place) :
    ∃ left, t.Leads links here ns left place := by
  induction links, here, ns using way_induction with
  | nil links here =>
    rw [walk_nil] at h
    obtain rfl := Except.ok.inj h
    exact ⟨_, .nil⟩
  | cons links here n ns ih ihLink =>
    rcases t.step_cases here n with ⟨f, hf⟩ | ⟨next, hstep, hplain⟩ | ⟨next, target, hstep, hlink⟩
    · rw [walk_cons_of_error hf] at h
      cases h
    · rw [walk_cons_of_plain hstep hplain] at h
      exact (ih next h).imp fun _ => .plain hstep hplain
    · cases links with
      | zero =>
        rw [walk_zero_of_link hstep hlink (.inr rfl)] at h
        cases h
      | succ fewer =>
        rw [walk_succ_of_link hstep hlink (.inr rfl)] at h
        exact (ihLink fewer rfl _ _ h).imp fun _ => .link hstep hlink

/-- A way on which a link at the end is not followed ends with its last name. -/
theorem leads_of_walk_concat (h : t.walk false links here (ns ++ [n]) = .ok place) :
    ∃ left around, t.Leads links here ns left around ∧ t.step around n = .ok place := by
  induction links, here, ns using way_induction with
  | nil links here =>
    rw [List.nil_append] at h
    rcases t.step_cases here n with ⟨f, hf⟩ | ⟨next, hstep, hplain⟩ | ⟨next, target, hstep, hlink⟩
    · rw [walk_cons_of_error hf] at h
      cases h
    · rw [walk_cons_of_plain hstep hplain, walk_nil] at h
      exact ⟨_, _, .nil, hstep.trans h⟩
    · rw [walk_last_of_link hstep hlink] at h
      exact ⟨_, _, .nil, hstep.trans h⟩
  | cons links here m ns ih ihLink =>
    have hmore : ns ++ [n] ≠ [] := List.append_ne_nil_of_right_ne_nil _ (List.cons_ne_nil _ _)
    rw [List.cons_append] at h
    rcases t.step_cases here m with ⟨f, hf⟩ | ⟨next, hstep, hplain⟩ | ⟨next, target, hstep, hlink⟩
    · rw [walk_cons_of_error hf] at h
      cases h
    · rw [walk_cons_of_plain hstep hplain] at h
      obtain ⟨left, around, hleads, hlast⟩ := ih next h
      exact ⟨left, around, .plain hstep hplain hleads, hlast⟩
    · cases links with
      | zero =>
        rw [walk_zero_of_link hstep hlink (.inl hmore)] at h
        cases h
      | succ fewer =>
        rw [walk_succ_of_link hstep hlink (.inl hmore), ← List.append_assoc] at h
        obtain ⟨left, around, hleads, hlast⟩ := ihLink fewer rfl _ _ h
        exact ⟨left, around, .link hstep hlink hleads, hlast⟩

/-- A way of which the beginning ends in a fault ends in it. -/
theorem walk_append_of_error (h : t.walk false links here ns = .error f) (follow : Bool)
    (more : List String) : t.walk follow links here (ns ++ more) = .error f := by
  induction links, here, ns using way_induction with
  | nil links here =>
    rw [walk_nil] at h
    cases h
  | cons links here n ns ih ihLink =>
    rw [List.cons_append]
    rcases t.step_cases here n with ⟨f, hf⟩ | ⟨next, hstep, hplain⟩ | ⟨next, target, hstep, hlink⟩
    · rw [walk_cons_of_error hf] at h ⊢
      exact h
    · rw [walk_cons_of_plain hstep hplain] at h ⊢
      exact ih next h
    · by_cases hns : ns = []
      · rw [hns, walk_last_of_link hstep hlink] at h
        cases h
      · have hrest : ns ++ more ≠ [] ∨ follow = true :=
          .inl (List.append_ne_nil_of_left_ne_nil hns _)
        cases links with
        | zero =>
          rw [walk_zero_of_link hstep hlink (.inl hns)] at h
          rw [walk_zero_of_link hstep hlink hrest]
          exact h
        | succ fewer =>
          rw [walk_succ_of_link hstep hlink (.inl hns)] at h
          rw [walk_succ_of_link hstep hlink hrest, ← List.append_assoc]
          exact ihLink fewer rfl _ _ h

/-- A way that does not follow a link at its end ends where the way ends, or at a link. -/
theorem Leads.walk_false (h : t.Leads links here ns left place) :
    ∃ there, t.walk false links here ns = .ok there ∧
      (there = place ∨ ∃ target, t.find? there = some (.link target)) := by
  induction h with
  | nil => exact ⟨_, walk_nil .., .inl rfl⟩
  | plain hstep hplain _ ih =>
    rw [walk_cons_of_plain hstep hplain]
    exact ih
  | @link links left here next place n ns target hstep hlink _ ih =>
    by_cases hns : ns = []
    · exact ⟨next, hns ▸ walk_last_of_link hstep hlink, .inr ⟨target, hlink⟩⟩
    · rw [walk_succ_of_link hstep hlink (.inl hns)]
      exact ih

/-- A way to a directory starts at one. -/
theorem Leads.directory (h : t.Leads links here ns left place)
    (hplace : t.find? place = some .directory) : t.find? here = some .directory := by
  cases h with
  | nil => exact hplace
  | plain hstep => exact find?_of_step hstep
  | link hstep => exact find?_of_step hstep

/-- A way can be cut in two. -/
theorem Leads.of_append (h : t.Leads links here (ns ++ more) left place) :
    ∃ between there,
      t.Leads links here ns between there ∧ t.Leads between there more left place := by
  generalize hall : ns ++ more = all at h
  induction h generalizing ns with
  | nil =>
    obtain ⟨rfl, rfl⟩ := List.append_eq_nil_iff.1 hall
    exact ⟨_, _, .nil, .nil⟩
  | plain hstep hplain hrest ih =>
    cases ns with
    | nil =>
      rw [List.nil_append] at hall
      exact ⟨_, _, .nil, hall ▸ .plain hstep hplain hrest⟩
    | cons n ns =>
      obtain ⟨rfl, rfl⟩ := List.cons.inj hall
      obtain ⟨between, there, hfront, hback⟩ := ih rfl
      exact ⟨between, there, .plain hstep hplain hfront, hback⟩
  | link hstep hlink hrest ih =>
    cases ns with
    | nil =>
      rw [List.nil_append] at hall
      exact ⟨_, _, .nil, hall ▸ .link hstep hlink hrest⟩
    | cons n ns =>
      obtain ⟨rfl, rfl⟩ := List.cons.inj hall
      obtain ⟨between, there, hfront, hback⟩ := ih (List.append_assoc _ _ _)
      exact ⟨between, there, .link hstep hlink hfront, hback⟩

/-! ## What leads to directories -/

/-- What stands at a place leads to a directory: it is one, or a link to one. -/
def Opens (t : FileTree) (q : FilePlace) : Prop :=
  t.find? q = some .directory ∨ ∃ here n links place, t.step here n = .ok q ∧
    t.walk true links here [n] = .ok place ∧ t.find? place = some .directory

/-- A file leads to no directory, and neither does nothing. -/
theorem not_opens (hdirectory : t.find? q ≠ some .directory)
    (hplain : ∀ target, t.find? q ≠ some (.link target)) : ¬ t.Opens q := by
  rintro (h | ⟨here, n, links, place, hstep, hwalk, hplace⟩)
  · exact hdirectory h
  · rw [walk_cons_of_plain hstep hplain, walk_nil, Except.ok.injEq] at hwalk
    exact hdirectory (hwalk ▸ hplace)

theorem Opens.ne_none (h : t.Opens q) : t.find? q ≠ none := fun hnone =>
  not_opens (by simp [hnone]) (by simp [hnone]) h

/-- All that leads to directories in a tree is the same in another. -/
structure Keeps (t t' : FileTree) : Prop where
  /-- The same is allowed. -/
  access_eq : t'.access = t.access
  /-- Paths start at the same place. -/
  here_eq : t'.here = t.here
  /-- What leads to a directory is the same. -/
  find?_eq : ∀ q, t.Opens q → t'.find? q = t.find? q

theorem Keeps.refl (t : FileTree) : t.Keeps t := ⟨rfl, rfl, fun _ _ => rfl⟩

theorem Keeps.directory (h : t.Keeps t') (hq : t.find? q = some .directory) :
    t'.find? q = some .directory :=
  (h.find?_eq q (.inl hq)).trans hq

theorem Keeps.step (h : t.Keeps t') (hhere : t.find? here = some .directory) (n : String) :
    t'.step here n = t.step here n := by
  rw [FileTree.step, FileTree.step, h.directory hhere, hhere, h.access_eq]

/-- **The way to a directory stays** while nothing changes that leads to a directory. -/
theorem Leads.keeps (h : t.Leads links here ns left place)
    (hplace : t.find? place = some .directory) (hkeeps : t.Keeps t') :
    t'.Leads links here ns left place := by
  induction h with
  | nil => exact .nil
  | plain hstep hplain hrest ih =>
    have hnext := hkeeps.directory (hrest.directory hplace)
    refine .plain ?_ (by simp [hnext]) (ih hplace)
    rwa [hkeeps.step (find?_of_step hstep)]
  | @link links left here next place n ns target hstep hlink hrest ih =>
    obtain ⟨between, there, hfront, hback⟩ := hrest.of_append
    have hwalk : t.walk true (links + 1) here [n] = .ok there := by
      rw [walk_succ_of_link hstep hlink (.inr rfl), List.append_nil, hfront.walk]
    have hopens : t.Opens next :=
      .inr ⟨here, n, _, there, hstep, hwalk, hback.directory hplace⟩
    refine .link ?_ ((hkeeps.find?_eq next hopens).trans hlink) (ih hplace)
    rwa [hkeeps.step (find?_of_step hstep)]

theorem Opens.keeps (h : t.Opens q) (hkeeps : t.Keeps t') : t'.Opens q := by
  rcases h with h | ⟨here, n, links, place, hstep, hwalk, hplace⟩
  · exact .inl (hkeeps.directory h)
  · obtain ⟨left, hleads⟩ := leads_of_walk hwalk
    refine .inr ⟨here, n, links, place, ?_, (hleads.keeps hplace hkeeps).walk,
      hkeeps.directory hplace⟩
    rwa [hkeeps.step (find?_of_step hstep)]

theorem Keeps.trans {t'' : FileTree} (h : t.Keeps t') (h' : t'.Keeps t'') : t.Keeps t'' where
  access_eq := h'.access_eq.trans h.access_eq
  here_eq := h'.here_eq.trans h.here_eq
  find?_eq q hq := (h'.find?_eq q (hq.keeps h)).trans (h.find?_eq q hq)

theorem keeps_put (h : ¬ t.Opens q) (e : FileEntry) : t.Keeps (t.put q e) where
  access_eq := rfl
  here_eq := rfl
  find?_eq _ hp := find?_put_of_ne t e fun heq => h (heq ▸ hp)

theorem keeps_remove (h : ¬ t.Opens q) : t.Keeps (t.remove q) where
  access_eq := rfl
  here_eq := rfl
  find?_eq _ hp := find?_remove_of_ne t fun heq => h (heq ▸ hp)

/-- With a place more, all that leads to directories is the same. -/
theorem keeps_of_remove (t : FileTree) (hq : q ≠ []) : (t.remove q).Keeps t where
  access_eq := rfl
  here_eq := rfl
  find?_eq p hp := by
    have hne : p ≠ q := by
      rintro rfl
      exact hp.ne_none (t.find?_remove_self hq)
    exact (find?_remove_of_ne t hne).symm

/-! ## Paths -/

variable {p : FilePath}

/-- Why a path is refused without a look at the tree. -/
def refusal? (t : FileTree) (p : FilePath) : Option TreeFault :=
  if p.names.any (·.toList.contains '\x00') then some .nullCharacter
  else if t.access.pathRoom < p.text.utf8ByteSize then some .tooLong
  else none

theorem resolve_eq (t : FileTree) (follow : Bool) (p : FilePath) :
    t.resolve follow p = match t.refusal? p with
      | some f => .error f
      | none => t.walk follow maxLinks (start p t.here) p.names := by
  unfold resolve refusal?
  split
  · rfl
  · split <;> rfl

theorem refusal?_ne_missing : t.refusal? p ≠ some .missing := by
  unfold refusal?
  split
  · simp
  · split <;> simp

theorem resolve_of_refusal (h : t.refusal? p = some f) (follow : Bool) :
    t.resolve follow p = .error f := by
  rw [resolve_eq, h]

theorem resolve_eq_walk (h : t.refusal? p = none) (follow : Bool) :
    t.resolve follow p = t.walk follow maxLinks (start p t.here) p.names := by
  rw [resolve_eq, h]

theorem resolve_eq_ok_iff : t.resolve follow p = .ok place ↔
    t.refusal? p = none ∧ t.walk follow maxLinks (start p t.here) p.names = .ok place := by
  rw [resolve_eq]
  cases t.refusal? p <;> simp

theorem Keeps.refusal? (h : t.Keeps t') (p : FilePath) : t'.refusal? p = t.refusal? p := by
  rw [FileTree.refusal?, FileTree.refusal?, h.access_eq]

theorem Keeps.start (h : t.Keeps t') (p : FilePath) :
    FileTree.start p t'.here = FileTree.start p t.here := by
  rw [h.here_eq]

/-- A path keeps leading to a directory. -/
theorem Keeps.resolve (h : t.Keeps t') (hplace : t.resolve true p = .ok place)
    (hdirectory : t.find? place = some .directory) : t'.resolve true p = .ok place := by
  rw [resolve_eq_ok_iff] at hplace ⊢
  obtain ⟨hrefusal, hwalk⟩ := hplace
  obtain ⟨left, hleads⟩ := leads_of_walk hwalk
  rw [h.refusal?, h.start]
  exact ⟨hrefusal, (hleads.keeps hdirectory h).walk⟩

theorem isDirectory_iff : t.isDirectory p = true ↔
    ∃ place, t.resolve true p = .ok place ∧ t.find? place = some .directory := by
  unfold isDirectory entry
  cases hplace : t.resolve true p with
  | error f => simp
  | ok place =>
    cases hentry : t.find? place with
    | none => simp [hentry]
    | some e => cases e <;> simp [hentry]

theorem size_intercalate_le (separator : String) {front names : List String}
    (h : front <+: names) :
    (separator.intercalate front).utf8ByteSize ≤ (separator.intercalate names).utf8ByteSize := by
  induction front generalizing names with
  | nil => simp
  | cons n front ih =>
    obtain ⟨more, rfl⟩ := h
    cases front with
    | nil =>
      cases more with
      | nil => simp
      | cons m more =>
        simp only [String.intercalate_singleton, List.singleton_append,
          String.intercalate_cons_cons, String.utf8ByteSize_append]
        omega
    | cons m front =>
      have hle := ih (List.prefix_append (m :: front) more)
      simp only [List.cons_append, String.intercalate_cons_cons, String.utf8ByteSize_append]
        at hle ⊢
      omega

/-- The text of the front of a path is no longer than that of the path. -/
theorem size_text_le {front : List String} (h : front <+: p.names) :
    (FilePath.text ⟨p.absolute, front⟩).utf8ByteSize ≤ p.text.utf8ByteSize := by
  have hle := size_intercalate_le "/" h
  have hdot : ".".utf8ByteSize = 1 := by decide
  unfold FilePath.text
  dsimp only
  split
  · simp only [String.utf8ByteSize_append]
    omega
  · by_cases hnames : "/".intercalate p.names = ""
    · rw [hnames, String.utf8ByteSize_empty, Nat.le_zero, String.utf8ByteSize_eq_zero_iff] at hle
      exact Nat.le_of_eq (by rw [hle, hnames])
    · have hpos : ("/".intercalate p.names).utf8ByteSize ≠ 0 :=
        mt String.utf8ByteSize_eq_zero_iff.1 hnames
      rw [if_neg hnames]
      split <;> omega

/-- A path is refused if one of its fronts is. -/
theorem refusal?_front {front : List String} (h : front <+: p.names)
    (hrefusal : t.refusal? p = none) : t.refusal? ⟨p.absolute, front⟩ = none := by
  have hsize := size_text_le h
  unfold refusal? at hrefusal ⊢
  split at hrefusal
  · cases hrefusal
  · rename_i hclean
    split at hrefusal
    · cases hrefusal
    · rename_i hshort
      have hclean' : ¬ (front.any (·.toList.contains '\x00')) = true := by
        rw [List.any_eq_true] at hclean ⊢
        exact fun ⟨n, hn, hnul⟩ => hclean ⟨n, h.subset hn, hnul⟩
      rw [if_neg hclean', if_neg (by omega)]

/-- All fronts of the path of a directory are paths of directories. -/
theorem resolve_of_prefix {front : List String} (hplace : t.resolve true p = .ok place)
    (hdirectory : t.find? place = some .directory) (h : front <+: p.names) :
    ∃ there, t.resolve true ⟨p.absolute, front⟩ = .ok there ∧
      t.find? there = some .directory := by
  obtain ⟨hrefusal, hwalk⟩ := resolve_eq_ok_iff.1 hplace
  obtain ⟨left, hleads⟩ := leads_of_walk hwalk
  obtain ⟨more, hmore⟩ := h
  rw [← hmore] at hleads
  obtain ⟨between, there, hfront, hback⟩ := hleads.of_append
  exact ⟨there, resolve_eq_ok_iff.2 ⟨refusal?_front ⟨more, hmore⟩ hrefusal, hfront.walk⟩,
    hback.directory hdirectory⟩

/-- The place of a name in the directory at the front of a path. -/
theorem resolve_concat {front : List String}
    (hfront : t.resolve true ⟨p.absolute, front⟩ = .ok here)
    (hnames : p.names = front ++ [n]) (hrefusal : t.refusal? p = none)
    (hstep : t.step here n = .ok place)
    (hplain : follow = false ∨ ∀ target, t.find? place ≠ some (.link target)) :
    t.resolve follow p = .ok place := by
  obtain ⟨left, hleads⟩ := leads_of_walk (resolve_eq_ok_iff.1 hfront).2
  rw [resolve_eq_walk hrefusal, hnames]
  refine (hleads.walk_append (.inl (List.cons_ne_nil _ _))).trans ?_
  by_cases hlink : ∃ target, t.find? place = some (.link target)
  · obtain ⟨target, hlink⟩ := hlink
    obtain rfl := hplain.resolve_right fun h => h target hlink
    exact walk_last_of_link hstep hlink
  · rw [walk_cons_of_plain hstep fun target h => hlink ⟨target, h⟩, walk_nil]

/-- A path that leads somewhere ends with a name in the directory at its front. -/
theorem step_of_resolve {front : List String}
    (hfront : t.resolve true ⟨p.absolute, front⟩ = .ok here) (hnames : p.names = front ++ [n])
    (h : t.resolve follow p = .ok place) :
    t.refusal? p = none ∧ ∃ next, t.step here n = .ok next := by
  obtain ⟨left, hleads⟩ := leads_of_walk (resolve_eq_ok_iff.1 hfront).2
  obtain ⟨hrefusal, hwalk⟩ := resolve_eq_ok_iff.1 h
  rw [hnames] at hwalk
  have hlast : t.walk follow left here [n] = .ok place :=
    (hleads.walk_append (.inl (List.cons_ne_nil _ _))).symm.trans hwalk
  refine ⟨hrefusal, ?_⟩
  rcases t.step_cases here n with ⟨f, hf⟩ | ⟨next, hstep, -⟩ | ⟨next, -, hstep, -⟩
  · rw [walk_cons_of_error hf] at hlast
    cases hlast
  · exact ⟨next, hstep⟩
  · exact ⟨next, hstep⟩

theorem eq_child_of_resolve {front : List String}
    (hfront : t.resolve true ⟨p.absolute, front⟩ = .ok here) (hnames : p.names = front ++ [n])
    (h : t.resolve follow p = .ok place)
    (hplain : follow = false ∨ ∀ target, t.find? (child here n) ≠ some (.link target)) :
    place = child here n := by
  obtain ⟨hrefusal, next, hstep⟩ := step_of_resolve hfront hnames h
  rw [eq_child_of_step hstep] at hstep
  have hplace := resolve_concat hfront hnames hrefusal hstep hplain
  exact Except.ok.inj (h.symm.trans hplace)

/-- Behind a place where nothing is, a path leads nowhere. -/
theorem resolve_append_of_none {more : List String} (hplace : t.resolve false p = .ok place)
    (hnone : t.find? place = none) (hmore : more ≠ []) {q : FilePath}
    (habsolute : q.absolute = p.absolute) (hnames : q.names = p.names ++ more)
    (hrefusal : t.refusal? q = none) (follow : Bool) : t.resolve follow q = .error .missing := by
  obtain ⟨m, ms, rfl⟩ := List.exists_cons_of_ne_nil hmore
  have hstart : start q t.here = start p t.here := by rw [start, start, habsolute]
  have hwalk := (resolve_eq_ok_iff.1 hplace).2
  rw [resolve_eq_walk hrefusal, hstart, hnames]
  rcases List.eq_nil_or_concat p.names with hp | ⟨front, n, hp⟩
  · rw [hp, walk_nil] at hwalk
    rw [hp, List.nil_append, Except.ok.inj hwalk]
    exact walk_cons_of_error (step_of_none hnone m)
  · rw [List.concat_eq_append] at hp
    rw [hp] at hwalk ⊢
    obtain ⟨left, around, hleads, hstep⟩ := leads_of_walk_concat hwalk
    rw [List.append_assoc, List.singleton_append,
      hleads.walk_append (.inl (List.cons_ne_nil _ _)), walk_cons_of_plain hstep (by simp [hnone])]
    exact walk_cons_of_error (step_of_none hnone m)

end MessageRouting.FileTree
