import MessageRouting.Proofs.Outcomes
import MessageRouting.Proofs.YamlNodes
import MessageRouting.Proofs.YamlReading
import MessageRouting.Yaml.Document

/-!
# Faults of YAML documents

A document without a value is malformed, or it has an escape beyond the last code point or a version
of too many digits, or too many lists and mappings are inside each other, or a node of the kind of a
scalar cannot be converted (`read_error`). Which faults a conversion can have depends on the kind
(`toScalar_error`); the document has the fault of such a node although it may stand deep in the
tree, behind a `<<` or as a key (`toValue_error`).
-/

namespace MessageRouting.Yaml

/-! ## Scalars that cannot be converted -/

section Scalars

variable {cs : List Char} {f : Fault}

namespace Scalar

/-- What can be wrong with a text that should be an integer. -/
def IntegerFault (f : Fault) : Prop :=
  f = .emptyNumber ∨ (∃ base text, f = .notInteger base text) ∨
    ∃ n, MessageRouting.Fault.maxDigits < n ∧ f = .digits n

/-- What can be wrong with a text that should be a number. -/
def NumberFault (f : Fault) : Prop :=
  f = .emptyNumber ∨ (∃ text, f = .notNumber text) ∨ f = .overflow

theorem integerIn_error {base : Nat} (h : integerIn base cs = .error f) : IntegerFault f := by
  unfold integerIn at h
  dsimp only at h
  split at h
  · exact .inr (.inl ⟨base, cs, (Except.error.inj h).symm⟩)
  · exact .inr (.inl ⟨base, cs, (Except.error.inj h).symm⟩)
  · split at h
    · rename_i hlong
      simp only [Bool.and_eq_true, decide_eq_true_eq] at hlong
      exact .inr (.inr ⟨_, hlong.2, (Except.error.inj h).symm⟩)
    · cases h

theorem integer_error (h : integer cs = .error f) : IntegerFault f := by
  have hempty (hf : (throw .emptyNumber : Except Fault Int) = .error f) : IntegerFault f :=
    .inl (throw_eq_error.1 hf).symm
  have hsigned {base : Nat} {ds : List Char} {sign : Int}
      (hf : (do return sign * (← integerIn base ds)) = .error f) : IntegerFault f := by
    simp only [bind_eq_error, pure_ne_error, and_false, exists_false, or_false] at hf
    exact integerIn_error hf
  unfold integer at h
  dsimp only at h
  split at h
  · exact hempty h
  · split at h
    · exact absurd h pure_ne_error
    · exact hsigned h
    · exact hsigned h
    · exact hsigned h
    · exact hempty h
    · split at h
      · exact hsigned h
      · split at h
        · -- places of base sixty
          simp only [bind_eq_error, pure_ne_error, and_false, exists_false, or_false] at h
          obtain ⟨place, -, hplace⟩ := exists_of_mapM_eq_error h
          exact integerIn_error hplace
        · exact hsigned h

theorem decimal_error (h : decimal cs = .error f) : NumberFault f := by
  unfold decimal at h
  split at h
  · cases h
  · exact .inr (.inl ⟨cs, (Except.error.inj h).symm⟩)

theorem sixtieths_error {places : List Binary64} {worth : Nat} {sum : Float}
    (h : sixtieths places worth sum = .error f) : f = .overflow := by
  induction places generalizing worth sum with
  | nil => cases h
  | cons p places ih =>
    rw [sixtieths] at h
    split at h
    · exact ih h
    · exact (Except.error.inj h).symm

theorem number_error (h : number cs = .error f) : NumberFault f := by
  unfold number at h
  dsimp only at h
  split at h
  · exact .inl (throw_eq_error.1 h).symm
  · split at h
    · exact absurd h pure_ne_error
    · exact absurd h pure_ne_error
    · split at h
      · simp only [bind_eq_error, pure_ne_error, and_false, exists_false, or_false] at h
        rcases h with h | ⟨places, -, h⟩
        · obtain ⟨place, -, hplace⟩ := exists_of_mapM_eq_error h
          exact decimal_error hplace
        · exact .inr (.inr (sixtieths_error h))
      · simp only [bind_eq_error, pure_ne_error, and_false, exists_false, or_false] at h
        exact decimal_error h

theorem boolean_error (h : boolean cs = .error f) : ∃ word, f = .notBoolean word := by
  unfold boolean at h
  dsimp only at h
  split at h
  · cases h
  · split at h
    · cases h
    · exact ⟨_, (Except.error.inj h).symm⟩

theorem moment_error (h : moment cs = .error f) : f = .notTimestamp ∨ ∃ c, f = .calendar c := by
  unfold moment at h
  dsimp only at h
  split at h
  · exact .inl (Except.error.inj h).symm
  · split at h
    · obtain ⟨c, -, hc⟩ := mapError_eq_error.1 (map_eq_error.1 h)
      exact .inr ⟨c, hc.symm⟩
    · obtain ⟨c, -, hc⟩ := mapError_eq_error.1 h
      exact .inr ⟨c, hc.symm⟩

theorem binary_error (h : binary cs = .error f) : f = .malformed := by
  unfold binary at h
  split at h
  · split at h
    · cases h
    · exact (Except.error.inj h).symm
  · exact (Except.error.inj h).symm

end Scalar

/-- The faults that the conversion of a node of the kind of a scalar can have, other than that it
means nothing. -/
def Tag.CanHave (f : Fault) : Tag → Prop
  | .bool => ∃ word, f = .notBoolean word
  | .int => Scalar.IntegerFault f
  | .float => Scalar.NumberFault f
  | .timestamp => f = .notTimestamp ∨ f = .notText ∨ ∃ c, f = .calendar c
  | .null | .text | .binary | .merge | .default | .sequence | .mapping | .set | .pairs | .other =>
    False

/-- A text that cannot be converted to a kind means nothing, or has a fault of the kind. -/
theorem Tag.convert_error {t : Tag} (h : t.convert cs = .error f) :
    f = .malformed ∨ t.CanHave f := by
  cases t with
  | null | text => cases h
  | bool => exact .inr (Scalar.boolean_error (map_eq_error.1 h))
  | int => exact .inr (Scalar.integer_error (map_eq_error.1 h))
  | float => exact .inr (Scalar.number_error (map_eq_error.1 h))
  | timestamp => exact .inr ((Scalar.moment_error (map_eq_error.1 h)).imp_right .inr)
  | binary => exact .inl (Scalar.binary_error (map_eq_error.1 h))
  | merge | default | sequence | mapping | set | pairs | other =>
    exact .inl (Except.error.inj h).symm

theorem Tag.convertBroken_error {t : Tag} {codes : List Nat}
    (h : t.convertBroken codes = .error f) : f = .malformed ∨ t.CanHave f := by
  unfold Tag.convertBroken at h
  split at h
  · cases h
  · exact Tag.convert_error h

theorem Tag.convertGiven_error {t : Tag} {codes : List Nat}
    (h : t.convertGiven codes = .error f) : f = .malformed ∨ t.CanHave f := by
  unfold Tag.convertGiven at h
  split at h
  · rename_i ht
    subst ht
    exact .inr (.inr (.inl (Except.error.inj h).symm))
  · split at h
    · exact Tag.convert_error h
    · exact Tag.convertBroken_error h

end Scalars

namespace Node

variable {m n : Node} {f : Fault} {e : DeepFault}

/-- **A node of the kind of a scalar that cannot be converted** means nothing, or has a fault of its
kind. -/
theorem toScalar_error {t : Tag} (h : toScalar t n = .error f) :
    f = .malformed ∨ t.CanHave f := by
  cases n with
  | scalar tag cs => exact Tag.convert_error h
  | broken tag codes => exact Tag.convertBroken_error h
  | sequence tag items => exact .inl (Except.error.inj h).symm
  | mapping tag pairs =>
    rw [toScalar] at h
    split at h
    · exact Tag.convertGiven_error h
    · exact .inl (Except.error.inj h).symm

theorem toScalar_ne_depth (t : Tag) (n : Node) : toScalar t n ≠ .error .depth := by
  intro h
  rcases toScalar_error h with hmalformed | hhas
  · cases hmalformed
  · cases t <;> simp [Tag.CanHave, Scalar.IntegerFault, Scalar.NumberFault] at hhas

/-! ## Nodes of a document -/

/-- A node that occurs in another one. -/
inductive Occurs (m : Node) : Node → Prop
  /-- The node itself. -/
  | self : Occurs m m
  /-- In an item. -/
  | item {tag : Tag} {items : List Node} {n : Node} (hn : n ∈ items) (h : Occurs m n) :
      Occurs m (.sequence tag items)
  /-- In a key. -/
  | key {tag : Tag} {pairs : List (Node × Node)} {p : Node × Node} (hp : p ∈ pairs)
      (h : Occurs m p.1) : Occurs m (.mapping tag pairs)
  /-- In a value. -/
  | value {tag : Tag} {pairs : List (Node × Node)} {p : Node × Node} (hp : p ∈ pairs)
      (h : Occurs m p.2) : Occurs m (.mapping tag pairs)

/-- A node that occurs in keys and values. -/
def OccursAmong (m : Node) (pairs : List (Node × Node)) : Prop :=
  ∃ p ∈ pairs, Occurs m p.1 ∨ Occurs m p.2

theorem occurs_mapping {tag : Tag} {pairs : List (Node × Node)} (h : OccursAmong m pairs) :
    Occurs m (.mapping tag pairs) := by
  obtain ⟨p, hp, h | h⟩ := h
  · exact .key hp h
  · exact .value hp h

theorem OccursAmong.mono {ps qs : List (Node × Node)} (h : OccursAmong m ps) (hsub : ps ⊆ qs) :
    OccursAmong m qs := by
  obtain ⟨p, hp, h⟩ := h
  exact ⟨p, hsub hp, h⟩

theorem occursAmong_append {ps qs : List (Node × Node)} (h : OccursAmong m (ps ++ qs)) :
    OccursAmong m ps ∨ OccursAmong m qs := by
  obtain ⟨p, hp, h⟩ := h
  exact (List.mem_append.1 hp).imp (⟨p, ·, h⟩) (⟨p, ·, h⟩)

theorem occursAmong_cons {key value : Node} {ps : List (Node × Node)}
    (h : OccursAmong m ((key, value) :: ps)) :
    (Occurs m key ∨ Occurs m value) ∨ OccursAmong m ps := by
  obtain ⟨p, hp, h⟩ := h
  rcases List.mem_cons.1 hp with rfl | hp
  · exact .inl h
  · exact .inr ⟨p, hp, h⟩

/-! ### What a `<<` key takes over -/

theorem exists_of_mergedPairs {offers : List (Option (List (Node × Node)))}
    {ps : List (Node × Node)} (h : mergedPairs offers = some ps) (hoccurs : OccursAmong m ps) :
    ∃ qs, some qs ∈ offers ∧ OccursAmong m qs := by
  induction offers generalizing ps with
  | nil =>
    obtain rfl : [] = ps := by simpa [mergedPairs] using h
    obtain ⟨p, hp, -⟩ := hoccurs
    cases hp
  | cons offer offers ih =>
    cases offer with
    | none => cases h
    | some qs =>
      rw [mergedPairs, Option.map_eq_some_iff] at h
      obtain ⟨rs, hrs, rfl⟩ := h
      rcases occursAmong_append hoccurs with hoccurs | hoccurs
      · obtain ⟨qs', hqs', hoccurs⟩ := ih hrs hoccurs
        exact ⟨qs', List.mem_cons_of_mem _ hqs', hoccurs⟩
      · exact ⟨qs, List.mem_cons_self, hoccurs⟩

/-- **What is taken over occurs in the node**: what a mapping has afterwards occurs in it, and so
does what a node or the items of a list offer. -/
theorem occurs_of_taken :
    (∀ pairs taken own, flattened pairs = some (taken, own) → OccursAmong m (taken ++ own) →
      OccursAmong m pairs) ∧
    (∀ n ps, takenFrom n = some ps → OccursAmong m ps → Occurs m n) ∧
    ∀ items ps, some ps ∈ itemPairs items → OccursAmong m ps → ∃ n ∈ items, Occurs m n := by
  refine flattened.mutual_induct _ _ _ ?mapping ?sequence ?scalar ?broken ?noItem ?item ?noPair
    ?noRest
    ?merge ?noMerge ?pair
  case mapping =>
    intro tag pairs ih ps h hoccurs
    rw [takenFrom, Option.map_eq_some_iff] at h
    obtain ⟨x, hx, rfl⟩ := h
    exact occurs_mapping (ih _ _ hx hoccurs)
  case sequence =>
    intro tag items ih ps h hoccurs
    obtain ⟨qs, hqs, hoccurs⟩ := exists_of_mergedPairs h hoccurs
    obtain ⟨k, hk, hoccurs⟩ := ih _ hqs hoccurs
    exact .item hk hoccurs
  case scalar => intro tag text ps h; cases h
  case broken => intro tag codes ps h; cases h
  case noItem => intro ps h; cases h
  case item =>
    intro n ns ihn ih ps h hoccurs
    have htail (hx : some ps ∈ itemPairs ns) : ∃ k ∈ n :: ns, Occurs m k := by
      obtain ⟨k, hk, hoccurs⟩ := ih _ hx hoccurs
      exact ⟨k, List.mem_cons_of_mem _ hk, hoccurs⟩
    cases n with
    | mapping tag pairs =>
      rcases List.mem_cons.1 h with h | h
      · obtain ⟨x, hx, rfl⟩ := Option.map_eq_some_iff.1 h.symm
        exact ⟨_, List.mem_cons_self, occurs_mapping (ihn _ _ hx hoccurs)⟩
      · exact htail h
    | sequence tag items => exact htail ((List.mem_cons.1 h).resolve_left nofun)
    | scalar tag text => exact htail ((List.mem_cons.1 h).resolve_left nofun)
    | broken tag codes => exact htail ((List.mem_cons.1 h).resolve_left nofun)
  case noPair =>
    intro taken own h hoccurs
    obtain ⟨rfl, rfl⟩ : [] = taken ∧ [] = own := by simpa [flattened] using h
    exact hoccurs
  case noRest =>
    intro key value rest hrest ih taken own h
    simp [flattened, hrest] at h
  case merge =>
    intro key value rest taken' own' hrest hkey ps hvalue ih ihvalue taken own h hoccurs
    obtain ⟨rfl, rfl⟩ : ps ++ taken' = taken ∧ own' = own := by
      simpa [flattened, hrest, hkey, hvalue] using h
    rw [List.append_assoc] at hoccurs
    rcases occursAmong_append hoccurs with hoccurs | hoccurs
    · exact ⟨_, List.mem_cons_self, .inr (ihvalue _ hvalue hoccurs)⟩
    · exact (ih _ _ hrest hoccurs).mono (List.subset_cons_self _ _)
  case noMerge =>
    intro key value rest taken' own' hrest hkey hvalue ih ihvalue taken own h
    simp [flattened, hrest, hkey, hvalue] at h
  case pair =>
    intro key value rest taken' own' hrest hkey ih taken own h hoccurs
    obtain ⟨rfl, rfl⟩ : taken' = taken ∧ (key, value) :: own' = own := by
      simpa [flattened, hrest, hkey] using h
    have htail (hx : OccursAmong m (taken' ++ own')) : OccursAmong m ((key, value) :: rest) :=
      (ih _ _ hrest hx).mono (List.subset_cons_self _ _)
    rcases occursAmong_append hoccurs with hoccurs | hoccurs
    · exact htail (hoccurs.mono (List.subset_append_left _ _))
    · rcases occursAmong_cons hoccurs with hoccurs | hoccurs
      · exact ⟨_, List.mem_cons_self, hoccurs⟩
      · exact htail (hoccurs.mono (List.subset_append_right _ _))

/-! ## Conversion -/

theorem both_eq_error {α β : Type} {a : Converted α} {b : Converted β} (h : both a b = .error e) :
    a = .error e ∨ b = .error e := by
  cases a with
  | ok x =>
    cases b with
    | ok y => cases h
    | error f =>
      obtain rfl : f = e := Except.error.inj h
      exact .inr rfl
  | error d =>
    cases b with
    | ok y =>
      obtain rfl : d = e := Except.error.inj h
      exact .inl rfl
    | error f =>
      have hleast : (if f.depth < d.depth then f else d) = e := Except.error.inj h
      split at hleast
      · exact .inr (congrArg _ hleast)
      · exact .inl (congrArg _ hleast)

theorem exists_of_allOf_eq_error {α : Type} {as : List (Converted α)} (h : allOf as = .error e) :
    ∃ a ∈ as, a = .error e := by
  induction as with
  | nil => cases h
  | cons a as ih =>
    rw [allOf] at h
    cases hboth : both a (allOf as) with
    | ok x => simp [hboth, Except.map] at h
    | error d =>
      obtain rfl : d = e := by simpa [hboth, Except.map] using h
      rcases both_eq_error hboth with ha | has
      · exact ⟨a, List.mem_cons_self, ha⟩
      · obtain ⟨b, hb, hbe⟩ := ih has
        exact ⟨b, List.mem_cons_of_mem _ hb, hbe⟩

/-- A fault that a document has because it is malformed, or because a node of the kind of a scalar
in it cannot be converted. -/
def Explained (n : Node) (f : Fault) : Prop :=
  f = .malformed ∨ ∃ m, Occurs m n ∧ toScalar m.tag m = .error f

theorem Explained.mono (h : Explained m f) (hsub : ∀ k, Occurs k m → Occurs k n) :
    Explained n f :=
  h.imp_right fun ⟨k, hk, hconvert⟩ => ⟨k, hsub k hk, hconvert⟩

theorem explained_of_keyOf {depth : Nat} (h : keyOf depth n = .error e) : Explained n e.fault := by
  obtain ⟨f, hf, rfl⟩ := mapError_eq_error.1 h
  split at hf
  · exact .inl ((toScalar_error hf).resolve_right id)
  · exact .inr ⟨n, .self, hf⟩

theorem explained_of_scalarAt {depth : Nat} (h : scalarAt depth n = .error e) :
    Explained n e.fault := by
  unfold scalarAt at h
  split at h
  · exact .inl (congrArg DeepFault.fault (Except.error.inj h)).symm
  · obtain ⟨f, hf, rfl⟩ := mapError_eq_error.1 (map_eq_error.1 h)
    exact .inr ⟨n, .self, hf⟩

theorem explained_of_malformed {α : Type} {depth : Nat}
    (h : (.error ⟨depth, .malformed⟩ : Converted α) = .error e) : Explained n e.fault :=
  .inl (congrArg DeepFault.fault (Except.error.inj h)).symm

/-- **A node that has no value** is malformed, or a node of the kind of a scalar in it cannot be
converted. -/
theorem toValue_error {fuel depth : Nat} (h : n.toValue fuel depth = .error e) :
    Explained n e.fault := by
  induction fuel generalizing n depth e with
  | zero =>
    cases n with
    | scalar => exact explained_of_scalarAt h
    | broken => exact explained_of_scalarAt h
    | sequence => exact explained_of_malformed h
    | mapping => exact explained_of_malformed h
  | succ fuel ih =>
    cases n with
    | scalar => exact explained_of_scalarAt h
    | broken => exact explained_of_scalarAt h
    | sequence tag items =>
      rw [toValue.eq_def] at h
      dsimp only at h
      split at h
      · obtain ⟨a, ha, hae⟩ := exists_of_allOf_eq_error (map_eq_error.1 h)
        obtain ⟨k, hk, rfl⟩ := List.mem_map.1 ha
        exact (ih hae).mono fun _ => .item hk
      · obtain ⟨a, ha, hae⟩ := exists_of_allOf_eq_error (map_eq_error.1 h)
        obtain ⟨k, hk, rfl⟩ := List.mem_map.1 ha
        split at hae
        · rcases both_eq_error (map_eq_error.1 hae) with hkey | hvalue
          · exact (ih hkey).mono fun _ hx => .item hk (.key List.mem_cons_self hx)
          · exact (ih hvalue).mono fun _ hx => .item hk (.value List.mem_cons_self hx)
        · exact explained_of_malformed hae
      · exact explained_of_scalarAt h
    | mapping tag pairs =>
      rw [toValue.eq_def] at h
      dsimp -zeta only at h
      extract_lets members at h
      have hmembers {e : DeepFault} (he : members = .error e) :
          Explained (.mapping tag pairs) e.fault := by
        unfold members at he
        split at he
        · exact explained_of_malformed he
        · rename_i taken own hflattened
          obtain ⟨a, ha, hae⟩ := exists_of_allOf_eq_error (map_eq_error.1 he)
          obtain ⟨p, hp, rfl⟩ := List.mem_map.1 ha
          have hpairs (k : Node) (hx : Occurs k p.1 ∨ Occurs k p.2) :
              Occurs k (.mapping tag pairs) :=
            occurs_mapping (occurs_of_taken.1 _ _ _ hflattened ⟨p, hp, hx⟩)
          rcases both_eq_error hae with hkey | hvalue
          · exact (explained_of_keyOf hkey).mono fun k hx => hpairs k (.inl hx)
          · exact (ih hvalue).mono fun k hx => hpairs k (.inr hx)
      split at h
      · exact hmembers (map_eq_error.1 h)
      · exact hmembers (map_eq_error.1 h)
      · exact explained_of_scalarAt h

end Node

/-! ## Texts -/

/-- **A text that has no value** is malformed, or has an escape beyond the last code point or a
version of too many digits, or more lists and mappings begin in it than can be inside each other, or
its document has a node of the kind of a scalar that cannot be converted. -/
theorem read_error [Interpreter] {cs : List Char} {f : Fault} (h : read cs = .error f) :
    Lexer.Lexical f ∨ f = .depth ∧ Interpreter.composeDepth < Node.openings (tokens cs).1 ∨
      ∃ root, Node.ofTokens? (tokens cs).1 (tokens cs).2 = .ok (some root) ∧
        ∃ m, Node.Occurs m root ∧ Node.toScalar m.tag m = .error f := by
  rcases bind_eq_error.1 h with hroot | ⟨root, hroot, h⟩
  · rcases Node.ofTokens?_error hroot with hmalformed | hending | hdeep
    · exact .inl (.inl hmalformed)
    · exact .inl (tokens_error hending)
    · exact .inr (.inl hdeep)
  · cases root with
    | none => exact absurd h pure_ne_error
    | some n =>
      obtain ⟨e, he, rfl⟩ := mapError_eq_error.1 h
      rcases Node.toValue_error he with hmalformed | hnode
      · exact .inl (.inl hmalformed)
      · exact .inr (.inr ⟨n, hroot, hnode⟩)

end MessageRouting.Yaml
