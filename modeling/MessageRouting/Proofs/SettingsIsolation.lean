import Mathlib.Data.List.Basic
import Mathlib.Data.List.Induction
import MessageRouting.Settings

/-!
# What settings depend on

Settings depend on the variables whose names begin with `namePrefix`, and on those that an
environment file refers to. They also depend on variables that have the bare name of a field, since
each section looks its fields up when it is built: `load_eq_of_concerns` says that no others count,
and `load_foreignType` that these do.
-/

namespace MessageRouting

namespace EnvFile

/-! ## What files refer to -/

/-- The names that a value refers to. -/
def references : Nat → List Char → List (List Char)
  | 0, _ => []
  | _, [] => []
  | fuel + 1, '$' :: '\x7b' :: rest =>
    match reference? rest with
    | some (n, _, after) => n :: references fuel after
    | none => references fuel ('\x7b' :: rest)
  | fuel + 1, _ :: rest => references fuel rest

/-- What a value is replaced by depends on the names that it refers to. -/
theorem expand_congr {known known' : List Char → Option (List Char)} {fuel : Nat} {cs : List Char}
    (h : ∀ n ∈ references fuel cs, known n = known' n) :
    expand known fuel cs = expand known' fuel cs := by
  induction fuel, cs using expand.induct with
  | case1 cs => rfl
  | case2 fuel hfuel => rw [expand, expand] <;> exact hfuel
  | case3 fuel rest n default after href ih =>
    simp only [references, href] at h
    simp only [expand, href]
    rw [h n List.mem_cons_self, ih fun m hm => h m (List.mem_cons_of_mem _ hm)]
  | case4 fuel rest href ih =>
    simp only [references, href] at h
    simp only [expand, href]
    rw [ih h]
  | case5 fuel c rest hno ih =>
    rw [references] at h
    · rw [expand, expand, ih h] <;> exact hno
    · exact hno

/-- The names that a variable of a file refers to. -/
def bindingReferences (b : List Char × Option (List Char)) : List String :=
  (b.2.elim [] fun s => references (s.length + 1) s).map String.ofList

/-- The names that a file refers to. -/
def fileReferences (cs : List Char) : List String :=
  (bindings (cs.length + 1) cs).flatMap bindingReferences

/-- The variables of a file depend on the names that it refers to. -/
theorem read_congr {env env' : Environment} {cs : List Char}
    (h : ∀ n ∈ fileReferences cs, env.lookup n = env'.lookup n) : read env cs = read env' cs := by
  refine List.foldl_ext _ _ _ fun set b hb => ?_
  have hb' : ∀ n ∈ bindingReferences b, env.lookup n = env'.lookup n :=
    fun n hn => h n (List.mem_flatMap.2 ⟨b, hb, hn⟩)
  obtain ⟨name, _ | s⟩ := b
  · rfl
  · have hexpand : expand (meaning env set) (s.length + 1) s =
        expand (meaning env' set) (s.length + 1) s := by
      refine expand_congr fun n hn => ?_
      rw [meaning, meaning, hb' _ (List.mem_map_of_mem hn)]
    simp only [Option.map_some, hexpand]

/-! ## Some of the variables -/

/-- Setting a variable keeps the choice of some variables by their names. -/
theorem filter_put (p : String → Bool) (bs : Bindings) (name : String) (value : Option String) :
    (put bs name value).filter (fun b => p b.1) =
      if p name = true then put (bs.filter fun b => p b.1) name value
      else bs.filter fun b => p b.1 := by
  have hnames : (fun b : String × Option String =>
      p (if b.1 = name then (name, value) else b).1) = fun b => p b.1 := by
    funext b
    split <;> simp_all
  unfold put
  cases hname : p name with
  | true =>
    have hany : (bs.filter fun b => p b.1).any (fun b => b.1 = name) =
        bs.any fun b => b.1 = name := by
      rw [List.any_filter]
      congr 1
      funext b
      by_cases hb : b.1 = name <;> simp [hb, hname]
    rw [if_pos rfl, hany]
    split
    · rw [List.filter_map]
      exact congrArg _ (congrArg (fun q => bs.filter q) hnames)
    · simp [hname]
  | false =>
    rw [if_neg Bool.false_ne_true]
    split
    · have hfilter := congrArg (fun q => bs.filter q) hnames
      rw [List.filter_map, Function.comp_def, hfilter]
      refine (List.map_congr_left fun b hb => if_neg fun heq => ?_).trans (List.map_id _)
      have hb' := (List.mem_filter.1 hb).2
      rw [heq, hname] at hb'
      cases hb'
    · simp [hname]

end EnvFile

namespace Settings

open Schema

namespace Variables

theorem ofBindings_eq (bs : List (String × Option String)) :
    ofBindings bs = bs.foldl (fun vs b => EnvFile.put vs (lowered b.1) b.2) [] := rfl

/-- Variables are chosen by their names in lower case. -/
theorem ofBindings_filter (p : String → Bool) (bs : List (String × Option String)) :
    ofBindings (bs.filter fun b => p (lowered b.1)) = (ofBindings bs).filter fun b => p b.1 := by
  rw [ofBindings_eq, ofBindings_eq]
  -- by the last variable, since each is set among those in front of it
  induction bs using List.reverseRecOn with
  | nil => rfl
  | append_singleton bs b ih =>
    rw [List.filter_append, List.foldl_append, ih, List.foldl_append, List.foldl_cons,
      List.foldl_nil, EnvFile.filter_put]
    cases hb : p (lowered b.1) with
    | true => simp [hb]
    | false => simp [hb]

theorem valueOf?_filter {p : String → Bool} {name : String} (hname : p name = true)
    (vs : Variables) : valueOf? (vs.filter fun b => p b.1) name = vs.valueOf? name := by
  unfold valueOf?
  congr 1
  induction vs with
  | nil => rfl
  | cons b vs ih =>
    obtain ⟨n, v⟩ := b
    by_cases hn : name = n
    · subst hn
      simp [hname]
    · have hn' : (name == n) = false := beq_false_of_ne hn
      rw [List.lookup_cons, hn', ← ih, List.filter_cons]
      split
      · rw [List.lookup_cons, hn']
      · rfl

/-! ## Variables that sections are read from -/

/-- Whether a text begins as another. -/
def begins (beginning s : String) : Bool := (after? beginning s).isSome

theorem begins_self_append (s more : String) : begins s (s ++ more) = true := by
  have hafter (ws cs : List Char) : Json.Reader.after? ws (ws ++ cs) = some cs := by
    induction ws with
    | nil => rfl
    | cons w ws ih => simp [Json.Reader.after?, ih]
  simp [begins, after?, hafter]

theorem begins_of_append {s more n : String} (h : begins (s ++ more) n = true) :
    begins s n = true := by
  have hafter (ws vs cs : List Char) (hws : (Json.Reader.after? (ws ++ vs) cs).isSome = true) :
      (Json.Reader.after? ws cs).isSome = true := by
    induction ws generalizing cs with
    | nil => rfl
    | cons w ws ih =>
      cases cs with
      | nil => simp [Json.Reader.after?] at hws
      | cons c cs =>
        rw [List.cons_append, Json.Reader.after?] at hws
        rw [Json.Reader.after?]
        split at hws
        · rename_i hc
          rw [if_pos hc]
          exact ih cs hws
        · cases hws
  simp only [begins, after?, Option.isSome_map, String.toList_append] at h ⊢
  exact hafter _ _ _ h

section Chosen

variable {p : String → Bool} (hfront : ∀ n, begins namePrefix n = true → p n = true)
include hfront

theorem nested_filter (vs : Variables) (name : String) :
    nested (vs.filter fun b => p b.1) name = vs.nested name := by
  unfold nested
  rw [List.foldl_filter]
  congr 1
  funext ms b
  split
  · rfl
  · rename_i hb
    -- a variable that is left out does not begin as those of the program do
    have hafter : after? (namePrefix ++ name ++ nameSeparator) b.1 = none := by
      rw [← Option.not_isSome_iff_eq_none]
      intro hbegins
      rw [String.append_assoc] at hbegins
      exact hb (hfront _ (begins_of_append hbegins))
    simp only [hafter]

variable [Interpreter]

theorem sectionValue_filter (vs : Variables) (source : Source) (name : String) :
    sectionValue (vs.filter fun b => p b.1) source name = vs.sectionValue source name := by
  rw [sectionValue, sectionValue, nested_filter hfront,
    valueOf?_filter (hfront _ (begins_self_append namePrefix name))]

theorem members_filter (vs : Variables) (source : Source) (o : Outline) :
    members (vs.filter fun b => p b.1) source o = vs.members source o := by
  induction o with
  | nil => rfl
  | cons s o ih => rw [members, members, sectionValue_filter hfront, ih]

end Chosen

end Variables

/-! ## Variables that sections are built from -/

namespace Section

variable {α : Type} {p : String → Bool} {s : Section α}

theorem fromVariables_filter (hfields : ∀ f ∈ s.fields, p f = true) (vs : Variables) :
    s.fromVariables (vs.filter fun b => p b.1) = s.fromVariables vs := by
  unfold fromVariables
  generalize s.fields = fields at hfields ⊢
  induction fields with
  | nil => rfl
  | cons f fields ih =>
    rw [List.forall_mem_cons] at hfields
    rw [List.filterMap_cons, List.filterMap_cons, Variables.valueOf?_filter hfields.1,
      ih hfields.2]

theorem fill_filter (hfields : ∀ f ∈ s.fields, p f = true) (vs : Variables) (all : Members) :
    s.fill (vs.filter fun b => p b.1) all = s.fill vs all := by
  have hbuild : s.build (vs.filter fun b => p b.1) = s.build vs := by
    funext given
    rw [build, build, fromVariables_filter hfields]
  rw [fill, fill, hbuild]

end Section

/-! ## All settings -/

/-- Whether the name of a variable begins as those of the program do. -/
def isOwn (name : String) : Bool := Variables.begins namePrefix (lowered name)

/-- Whether a variable is looked at: its name begins as those of the program do, or is the name of
a field of a section. -/
def isRead (name : String) : Bool :=
  Variables.begins namePrefix name || outline.any fun s => s.2.contains name

/-- Whether settings depend on a variable, whatever the case of its name. -/
def concerns (name : String) : Bool := isRead (lowered name)

theorem isRead_of_begins {n : String} (h : Variables.begins namePrefix n = true) :
    isRead n = true := by
  rw [isRead, h, Bool.true_or]

theorem isRead_of_field {α : Type} {s : Section α} (hs : s.outline ∈ outline) :
    ∀ f ∈ s.fields, isRead f = true := by
  intro f hf
  have hany : outline.any (fun s => s.2.contains f) = true :=
    List.any_eq_true.2 ⟨s.outline, hs, List.contains_iff_mem.2 hf⟩
  rw [isRead, hany, Bool.or_true]

theorem ofMembers_filter (vs : Variables) (ms : Members) :
    ofMembers (vs.filter fun b => isRead b.1) ms = ofMembers vs ms := by
  unfold ofMembers
  rw [evaluationSection.fill_filter, storeSection.fill_filter, limitsSection.fill_filter,
    simulationSection.fill_filter, monitoringSection.fill_filter]
  all_goals exact isRead_of_field (by simp [outline])

/-- The variables of an environment. -/
def variablesOf (env : EnvFile.Environment) : Variables :=
  .ofBindings (env.map fun b => (b.1, some b.2))

theorem variablesOf_filter (env : EnvFile.Environment) :
    variablesOf (env.filter fun b => concerns b.1) =
      (variablesOf env).filter fun b => isRead b.1 := by
  rw [variablesOf, variablesOf, ← Variables.ofBindings_filter, List.filter_map]
  rfl

section

variable [Interpreter]

/-- What the environment file says. -/
def fromFile (env : EnvFile.Environment) : Option (List Char) → Except Fault Members
  | none => .ok []
  | some cs => do
    let bindings := Variables.ofBindings (EnvFile.read env cs)
    let found ← (bindings.members .file outline).mapError .unparsed
    return bindings.withOthers outline found

theorem load_eq (env : EnvFile.Environment) (file : Option (List Char)) (given : Members) :
    load env file given = (do
      let fromEnvironment ← ((variablesOf env).members .environment outline).mapError .unparsed
      let found ← fromFile env file
      let all := mergeMembers found (mergeMembers fromEnvironment given)
      (ofMembers (variablesOf env) all).mapError .invalid) := by
  cases file with
  | none => rfl
  | some cs =>
    simp only [fromFile, bind_assoc, pure_bind]
    rfl

/-- The environment file says the same if all that it refers to is the same. -/
theorem fromFile_congr {env env' : EnvFile.Environment} {file : Option (List Char)}
    (hfile : ∀ cs, file = some cs → ∀ n ∈ EnvFile.fileReferences cs, env.lookup n = env'.lookup n) :
    fromFile env file = fromFile env' file := by
  cases file with
  | none => rfl
  | some cs => rw [fromFile, EnvFile.read_congr (hfile cs rfl), fromFile]

/-- **Settings depend on no other variables.** Two environments give the same settings, or the same
fault, if they have the same variables whose names begin as those of the program do or are names of
fields, and if the environment file refers to nothing that they tell apart. -/
theorem load_eq_of_concerns {env env' : EnvFile.Environment} {file : Option (List Char)}
    (hconcerns : env.filter (fun b => concerns b.1) = env'.filter fun b => concerns b.1)
    (hfile : ∀ cs, file = some cs → ∀ n ∈ EnvFile.fileReferences cs, env.lookup n = env'.lookup n)
    (given : Members) : load env file given = load env' file given := by
  have hvars : (variablesOf env).filter (fun b => isRead b.1) =
      (variablesOf env').filter fun b => isRead b.1 := by
    rw [← variablesOf_filter, ← variablesOf_filter, hconcerns]
  have hmembers : (variablesOf env).members .environment outline =
      (variablesOf env').members .environment outline := by
    rw [← Variables.members_filter fun n => isRead_of_begins, hvars,
      Variables.members_filter fun n => isRead_of_begins]
  have hall : ofMembers (variablesOf env) = ofMembers (variablesOf env') := by
    funext ms
    rw [← ofMembers_filter, hvars, ofMembers_filter]
  rw [load_eq, load_eq, hmembers, hall, fromFile_congr hfile]

end

/-- What settings are if nothing else is said. -/
def usual : Settings := ⟨.usual, .usual, .usual, .usual, .usual⟩

open scoped Interpreter.Usual

theorem load_eq_of_concerns_home :
    load [("PATH", "/bin"), ("HOME", "/srv"), ("Log_Level", "DEBUG")]
        (some "OPENHQM_RM_STORAGE__FILE_PATH=$\x7bHOME\x7d/rules.json".toList) [] =
      load [("HOME", "/srv"), ("Log_Level", "DEBUG"), ("LANG", "C")]
        (some "OPENHQM_RM_STORAGE__FILE_PATH=$\x7bHOME\x7d/rules.json".toList) [] := by
  refine load_eq_of_concerns (by decide +kernel) (fun cs hcs => ?_) []
  obtain rfl := Option.some.inj hcs
  decide +kernel

/-- With a variable that another program has set there can be no settings at all. -/
theorem load_foreignType :
    [("TYPE", "x86")].filter (fun b => isOwn b.1) = [].filter (fun b => isOwn b.1) ∧
      load [] none [] = .ok usual ∧
      ∃ cs, load [("TYPE", "x86")] none [] = .error (.invalid cs) := by
  refine ⟨by decide +kernel, ?_, ?_⟩
  · rfl
  · exact ⟨_, rfl⟩

end Settings

end MessageRouting
