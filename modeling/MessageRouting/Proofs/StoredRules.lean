import MessageRouting.Proofs.Descriptions
import MessageRouting.Proofs.StoreRuns

/-!
# What is loaded from a file

A load changes nothing, whatever stands at the path of a file store and whatever bytes are in it. It
gives the rules of all items of the list that is stored there, or none (`load_all_or_nothing`): one
item that is no rule is enough for none, and nothing is left out, put in another place or mended. It
fails if the system does not tell whether anything is there, and only then; so it does for a name
that is too long (`load_fails_longName`).
-/

namespace MessageRouting.Store

variable {path : FilePath} {t : FileTree} {rules : List Rule} {vs ws : List Value}

/-! ## What is stored -/

/-- A file stores a list of values: its bytes are a JSON text of the list. -/
def Stored (path : FilePath) (t : FileTree) (vs : List Value) : Prop :=
  ∃ s : String, t.read path = .ok s.toUTF8 ∧ Json.Dialect.strict.read s.toList = .ok (.list vs)

theorem fromUTF8?_eq_some_iff {data : ByteArray} {s : String} :
    String.fromUTF8? data = some s ↔ data = s.toUTF8 := by
  constructor
  · intro h
    unfold String.fromUTF8? at h
    split at h
    · cases h
      rfl
    · cases h
  · rintro rfl
    exact dif_pos s.isValidUTF8

/-- A file stores one list at most. -/
theorem Stored.unique (hvs : Stored path t vs) (hws : Stored path t ws) : vs = ws := by
  obtain ⟨s, hs, hvs⟩ := hvs
  obtain ⟨s', hs', hws⟩ := hws
  rw [hs, Except.ok.injEq, ← fromUTF8?_eq_some_iff, fromUTF8?_eq_some_iff.2 rfl] at hs'
  cases hs'
  rw [hvs] at hws
  simpa using hws

/-- JSON has no sets and no pairs: what is read has the items of a list, if it has any. -/
theorem eq_list_of_value {f : Json.Dialect} {fuel depth : Nat} {cs rest : List Char} {v : Value}
    (h : Json.Reader.value f fuel depth cs = .ok (v, rest)) (hitems : Schema.itemsOf? v = some vs) :
    v = .list vs := by
  cases fuel with
  | zero => cases h
  | succ fuel =>
    unfold Json.Reader.value at h
    split at h
    · obtain ⟨_, -, h⟩ := map_eq_ok.1 h
      cases h
      cases hitems
    · split at h
      · cases h
      · split at h
        · obtain ⟨rfl, -⟩ := Prod.mk.inj (Except.ok.inj h)
          exact congrArg Value.list (Option.some.inj hitems)
        · obtain ⟨_, -, h⟩ := map_eq_ok.1 h
          obtain ⟨rfl, -⟩ := Prod.mk.inj h
          exact congrArg Value.list (Option.some.inj hitems)
    · split at h
      · cases h
      · split at h
        · cases h
          cases hitems
        · obtain ⟨_, -, h⟩ := map_eq_ok.1 h
          cases h
          cases hitems
    · obtain ⟨_, -, h⟩ := map_eq_ok.1 h
      cases h
      cases hitems

/-- What is read from JSON has the items of a list, if it has any. -/
theorem eq_list_of_read {f : Json.Dialect} {cs : List Char} {v : Value} (h : f.read cs = .ok v)
    (hitems : Schema.itemsOf? v = some vs) : v = .list vs := by
  unfold Json.Dialect.read at h
  split at h
  · cases h
  · split at h
    · cases h
    · rename_i hvalue
      split at h
      · obtain rfl := Except.ok.inj h
        exact eq_list_of_value hvalue hitems
      · cases h

/-! ## What is loaded -/

section Loads

variable [Interpreter]

theorem Codec.rules?_eq_some_iff {cs : List Char} :
    rules? cs = some rules ↔
      ∃ vs, Json.Dialect.strict.read cs = .ok (.list vs) ∧
        List.Forall₂ Rule.Describes vs rules := by
  unfold rules?
  cases hread : Json.Dialect.strict.read cs with
  | error e => simp
  | ok v =>
    have hoption : (Schema.listOf Rule.check v).toOption = some rules ↔
        Schema.listOf Rule.check v = .accepted rules := by
      cases Schema.listOf Rule.check v <;> simp [Schema.Checked.toOption]
    simp only [hoption, Rule.listOf_check_eq_accepted, Except.ok.injEq]
    constructor
    · rintro ⟨vs, hitems, hrules⟩
      exact ⟨vs, eq_list_of_read hread hitems, hrules⟩
    · rintro ⟨vs, rfl, hrules⟩
      exact ⟨vs, rfl, hrules⟩

/-- The rules that a file holds, unless it holds anything else. -/
def fileRules? (path : FilePath) (t : FileTree) : Option (List Rule) :=
  match t.read path with
  | .ok data => (String.fromUTF8? data).bind fun s => Codec.rules? s.toList
  | .error _ => none

/-- A file holds the rules of all items of the list that it stores. -/
theorem fileRules?_eq_some_iff :
    fileRules? path t = some rules ↔
      ∃ vs, Stored path t vs ∧ List.Forall₂ Rule.Describes vs rules := by
  unfold fileRules? Stored
  cases t.read path with
  | error e => simp
  | ok data =>
    simp only [Option.bind_eq_some_iff, fromUTF8?_eq_some_iff, Codec.rules?_eq_some_iff,
      Except.ok.injEq]
    constructor
    · rintro ⟨s, hs, vs, hvs, hrules⟩
      exact ⟨vs, ⟨s, hs, hvs⟩, hrules⟩
    · rintro ⟨vs, ⟨s, hs, hvs⟩, hrules⟩
      exact ⟨s, hs, vs, hvs, hrules⟩

/-- A file holds rules exactly if each item that it stores describes one. -/
theorem isSome_fileRules?_iff :
    (fileRules? path t).isSome = true ↔
      ∃ vs, Stored path t vs ∧ ∀ v ∈ vs, ∃ r, Rule.Describes v r := by
  simp only [Option.isSome_iff_exists, fileRules?_eq_some_iff]
  constructor
  · rintro ⟨rules, vs, hvs, hrules⟩
    exact ⟨vs, hvs, Rule.exists_forall₂_describes_iff.1 ⟨rules, hrules⟩⟩
  · rintro ⟨vs, hvs, hall⟩
    obtain ⟨rules, hrules⟩ := Rule.exists_forall₂_describes_iff.2 hall
    exact ⟨rules, vs, hvs, hrules⟩

/-- If there is no telling what stands at the path, a load fails; else it gives what the file holds.
-/
theorem loadFile_eq (path : FilePath) (t : FileTree) :
    (∃ f, t.entry path = .error f ∧ f.isAbsence = false ∧
      loadFile path t = .error (.unreachable path f)) ∨
    (∀ f, t.entry path = .error f → f.isAbsence = true) ∧
      loadFile path t = .ok ((fileRules? path t).getD []) := by
  unfold loadFile fileRules?
  cases hentry : t.entry path with
  | error f =>
    cases habsent : f.isAbsence with
    | false => exact .inl ⟨f, rfl, habsent, by simp [habsent]⟩
    | true =>
      have hread : t.read path = .error f := by simp only [FileTree.read, hentry]
      refine .inr ⟨fun g hg => Except.error.inj hg ▸ habsent, ?_⟩
      simp [habsent, hread]
  | ok e =>
    refine .inr ⟨fun f hf => ?_, ?_⟩
    · cases hf
    cases t.read path with
    | error f => rfl
    | ok data =>
      simp only [Codec.decodeBytes]
      cases String.fromUTF8? data with
      | none => rfl
      | some s => exact congrArg Except.ok (Codec.decode_eq s.toList)

/-- **A load gives all rules or none.** Whatever stands at the path and whatever bytes are in it, a
load leaves a file store and all files as they were. It fails exactly if the system does not tell
whether anything is there; else it gives rules. These are well formed. There are none, or they are
those of the list that the file stores, one for each item in its order; and there are some exactly
if the list has items and each of them, on its own, describes a rule. -/
theorem load_all_or_nothing (path : FilePath) (t : FileTree) :
    ∃ outcome, perform ⟨.file path, t⟩ .load = (⟨.file path, t⟩, .loaded outcome) ∧
      (∀ f, outcome = .error f ↔
        ∃ e, t.entry path = .error e ∧ e.isAbsence = false ∧ f = .unreachable path e) ∧
      ∀ rules, outcome = .ok rules →
        (∀ r ∈ rules, r.wellFormed = true) ∧
        (rules = [] ∨ ∃ vs, Stored path t vs ∧ List.Forall₂ Rule.Describes vs rules) ∧
        (rules ≠ [] ↔ ∃ vs, Stored path t vs ∧ vs ≠ [] ∧ ∀ v ∈ vs, ∃ r, Rule.Describes v r) := by
  refine ⟨loadFile path t, rfl, ?_⟩
  rcases loadFile_eq path t with ⟨e, hentry, habsent, hload⟩ | ⟨habsent, hload⟩
  · rw [hload]
    refine ⟨fun f => ⟨fun h => ?_, ?_⟩, nofun⟩
    · exact ⟨e, hentry, habsent, (Except.error.inj h).symm⟩
    · rintro ⟨e', hentry', -, rfl⟩
      cases hentry.symm.trans hentry'
      rfl
  · rw [hload]
    refine ⟨fun f => ⟨nofun, ?_⟩, ?_⟩
    · rintro ⟨e, hentry, hthere, -⟩
      rw [habsent e hentry] at hthere
      cases hthere
    rintro rules hrules
    obtain rfl := Except.ok.inj hrules
    cases hfile : fileRules? path t with
    | none =>
      refine ⟨by simp, .inl rfl, iff_of_false (fun h => h rfl) ?_⟩
      rintro ⟨vs, hvs, -, hall⟩
      have hsome := isSome_fileRules?_iff.2 ⟨vs, hvs, hall⟩
      rw [hfile] at hsome
      cases hsome
    | some rules =>
      obtain ⟨vs, hvs, hdescribed⟩ := fileRules?_eq_some_iff.1 hfile
      have hnil : rules ≠ [] ↔ vs ≠ [] := by
        rw [← List.length_pos_iff, ← List.length_pos_iff, hdescribed.length_eq]
      refine ⟨Rule.wellFormed_of_describes hdescribed, .inr ⟨vs, hvs, hdescribed⟩, fun h => ?_, ?_⟩
      · exact ⟨vs, hvs, hnil.1 h, Rule.exists_forall₂_describes_iff.1 ⟨rules, hdescribed⟩⟩
      · rintro ⟨ws, hws, hne, -⟩
        exact hnil.2 (hvs.unique hws ▸ hne)

/-- Whether a name that is too long is there cannot be told. -/
theorem loadFile_of_longName (hhere : t.find? t.here = some .directory)
    (hsearched : t.access.searches t.here = true) {n : String}
    (hlong : t.access.nameRoom < n.utf8ByteSize) (haccepted : t.refusal? ⟨false, [n]⟩ = none) :
    loadFile ⟨false, [n]⟩ t = .error (.unreachable ⟨false, [n]⟩ .tooLong) := by
  have hstep : t.step t.here n = .error .tooLong := by
    rw [FileTree.step, hhere]
    simp [hsearched, hlong]
  have hresolve : t.resolve true ⟨false, [n]⟩ = .error .tooLong := by
    rw [FileTree.resolve_eq_walk haccepted]
    exact FileTree.walk_cons_of_error hstep
  simp only [loadFile, FileTree.entry, hresolve]
  rfl

end Loads

/-- A name of three hundred letters. -/
def longName : String := String.ofList (List.replicate 300 'a')

theorem utf8ByteSize_longName : longName.utf8ByteSize = 300 := by
  have hsize := size_toUTF8_ofList (List.replicate 300 'a')
  rw [List.map_replicate, List.sum_replicate] at hsize
  exact hsize

section

open scoped Interpreter.Usual

/-- A load fails where nothing stands, if the name is too long. -/
theorem load_fails_longName :
    perform ⟨.file ⟨false, [longName]⟩, .empty⟩ .load =
      (⟨.file ⟨false, [longName]⟩, .empty⟩,
        .loaded (.error (.unreachable ⟨false, [longName]⟩ .tooLong))) := by
  have hne : longName ≠ "" := fun h => by
    have hsize := congrArg String.utf8ByteSize h
    rw [utf8ByteSize_longName] at hsize
    cases hsize
  have haccepted : FileTree.empty.refusal? ⟨false, [longName]⟩ = none := by
    have hletters : longName.toList = List.replicate 300 'a' := String.toList_ofList
    have hclean : '\x00' ∉ longName.toList := fun h =>
      absurd (List.eq_of_mem_replicate (hletters ▸ h)) (by decide)
    have hshort : ¬ FileTree.empty.access.pathRoom < longName.utf8ByteSize := by
      rw [utf8ByteSize_longName]
      decide
    simp [FileTree.refusal?, hclean, FilePath.text, hne, hshort]
  have hload := loadFile_of_longName (t := .empty) rfl rfl
    (utf8ByteSize_longName ▸ (by decide : FileTree.empty.access.nameRoom < 300)) haccepted
  simp only [perform, load, hload]

end

end MessageRouting.Store
