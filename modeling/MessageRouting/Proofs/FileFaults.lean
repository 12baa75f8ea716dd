import MessageRouting.CommandLine
import MessageRouting.Proofs.JsonFaults
import MessageRouting.Proofs.YamlFaults

/-!
# Faults of rule files

A file holds a rule set, or a fault is found that is declared and that `validate` reports, or a
fault goes through (`ofFile_outcome`). A fault that goes through comes from the system, which does
not let a program look or read, from a JSON text that nests too deep or has too long an integer, or
from a YAML text that nests too deep, has an escape beyond the last code point or too long a
version, or has a node of the kind of a scalar that cannot be converted (`Escapes`); its kind is
never a declared one (`Escapes.not_declared`). `ofFile_leapDay` is a rule file with such a scalar.
-/

namespace MessageRouting.RuleSet

open CommandLine

/-! ## Kinds of faults -/

/-- The names of the kinds of faults that go through. -/
def escapingNames : List String :=
  ["IsADirectoryError", "NotADirectoryError", "FileExistsError", "PermissionError", "OSError",
    "RecursionError", "ValueError", "OverflowError", "IndexError", "KeyError", "AttributeError",
    "TypeError"]

theorem yamlName_mem {fault : Yaml.Fault} (h : fault ≠ .malformed) :
    fault.name ∈ escapingNames := by
  cases fault with
  | malformed => exact absurd rfl h
  | codePoint code =>
    rw [Yaml.Fault.name]
    split <;> simp [escapingNames]
  | depth | calendar | digits | notInteger | notNumber | emptyNumber | notBoolean | notTimestamp
  | notText | overflow =>
    simp [Yaml.Fault.name, escapingNames]

/-- A path of which the system does not tell what is there. -/
theorem content_of_unreachable {path : FilePath} {t : FileTree} {g : TreeFault}
    (h : t.entry path = .error g) (hg : g.isAbsence = false) : t.content path = .refused g := by
  rw [FileTree.content, h]
  exact if_neg (by rw [hg]; exact Bool.false_ne_true)

section Faults

variable [Interpreter] {path : FilePath} {content : FileContent} {f : FileFault} {cs : List Char}

/-! ## Declared faults -/

/-- A fault of the kind that is declared for what stands at a path. -/
def Declared : FileContent → FileFault → Prop
  | .missing, f | .refused .missing, f => f.name = "FileNotFoundError"
  | _, f => f.name = "ConfigurationError"

/-- A fault of a file that is declared and reported. -/
def Refused (f : FileFault) : Prop := f.name = "ConfigurationError" ∧ isReported f = true

/-! ## Faults that go through -/

/-- A fault of the text of a file that goes through. -/
inductive TextEscapes (path : FilePath) (cs : List Char) : FileFault → Prop
  /-- A JSON text opens more containers than may be inside each other. -/
  | depth (hname : path.suffix = ".json") (isList : Bool)
      (hdeep : Interpreter.readDepth < Json.openings cs) :
      TextEscapes path cs (.depth (Json.Cause.depth isList).message)
  /-- A JSON text has a run of too many digits. -/
  | digits (hname : path.suffix = ".json") {n : Nat} (hlong : Fault.maxDigits < n)
      (hrun : Json.HasRun n cs) :
      TextEscapes path cs (.conversion (Fault.numeralLimit n).name (Json.Cause.digits n).message)
  /-- A YAML text has an escape beyond the last code point. -/
  | codePoint (hname : path.suffix = ".yaml" ∨ path.suffix = ".yml") {code : Nat}
      (hcode : 0x110000 ≤ code) :
      TextEscapes path cs
        (.conversion (Yaml.Fault.codePoint code).name (Yaml.Fault.codePoint code).message)
  /-- The number of a version in a YAML text has too many digits. -/
  | version (hname : path.suffix = ".yaml" ∨ path.suffix = ".yml") {n : Nat}
      (hlong : Fault.maxDigits < n) :
      TextEscapes path cs
        (.conversion (Yaml.Fault.digits n).name (Yaml.Fault.digits n).message)
  /-- More lists and mappings begin in a YAML text than may be inside each other. -/
  | nesting (hname : path.suffix = ".yaml" ∨ path.suffix = ".yml")
      (hdeep : Interpreter.composeDepth < Yaml.Node.openings (Yaml.tokens cs).1) :
      TextEscapes path cs (.depth Yaml.Fault.depth.message)
  /-- A node of the kind of a scalar in a YAML document cannot be converted. -/
  | scalar (hname : path.suffix = ".yaml" ∨ path.suffix = ".yml") {root node : Yaml.Node}
      {fault : Yaml.Fault}
      (hroot : Yaml.Node.ofTokens? (Yaml.tokens cs).1 (Yaml.tokens cs).2 = .ok (some root))
      (hoccurs : Yaml.Node.Occurs node root)
      (hconvert : Yaml.Node.toScalar node.tag node = .error fault)
      (hfault : fault ≠ .malformed) :
      TextEscapes path cs (.conversion fault.name fault.message)

/-- A fault of what stands at a path that goes through. -/
inductive Escapes (path : FilePath) : FileContent → FileFault → Prop
  /-- Something that cannot be looked for or read. -/
  | refused {g : TreeFault} (hg : g ≠ .missing) : Escapes path (.refused g) (.refused path g)
  /-- A file with a text. -/
  | text {data : ByteArray} {cs : List Char} {f : FileFault}
      (htext : FileContent.decode? data = some cs) (h : TextEscapes path cs f) :
      Escapes path (.bytes data) f

theorem TextEscapes.name_mem (h : TextEscapes path cs f) : f.name ∈ escapingNames := by
  cases h with
  | depth | nesting | digits | version =>
    simp [FileFault.name, Fault.name, Yaml.Fault.name, escapingNames]
  | codePoint => exact yamlName_mem (nofun : Yaml.Fault.codePoint _ ≠ .malformed)
  | scalar _ _ _ _ hfault => exact yamlName_mem hfault

theorem Escapes.name_mem (h : Escapes path content f) : f.name ∈ escapingNames := by
  cases h with
  | @refused g hg =>
    cases g with
    | missing => exact absurd rfl hg
    | _ => simp [FileFault.name, TreeFault.name, escapingNames]
  | text _ h => exact h.name_mem

/-- A fault that goes through is not declared. -/
theorem Escapes.not_declared (h : Escapes path content f) : ¬ Declared content f := by
  have hname := h.name_mem
  have hkinds : "ConfigurationError" ∉ escapingNames := by decide
  cases h with
  | @refused g hg =>
    cases g with
    | missing => exact absurd rfl hg
    | _ => exact fun hdeclared => hkinds (hdeclared ▸ hname)
  | text => exact fun hdeclared => hkinds (hdeclared ▸ hname)

/-- A fault that goes through is not reported. -/
theorem Escapes.not_reported (h : Escapes path content f) : isReported f = false := by
  have hkinds : "FileNotFoundError" ∉ escapingNames ∧ "ConfigurationError" ∉ escapingNames := by
    decide
  have hname := h.name_mem
  rw [isReported, Bool.or_eq_false_iff, decide_eq_false_iff_not, decide_eq_false_iff_not]
  exact ⟨fun h => hkinds.1 (h ▸ hname), fun h => hkinds.2 (h ▸ hname)⟩

/-! ## Texts -/

theorem readJson_error (hname : path.suffix = ".json") (h : readJson path cs = .error f) :
    Refused f ∨ TextEscapes path cs f := by
  unfold readJson at h
  split at h
  · cases h
  · rename_i e he
    have hexplained := Json.read_error Json.plain_open he
    split at h
    · rename_i isList hcause
      rw [hcause] at hexplained
      obtain rfl := Except.error.inj h
      exact .inr (.depth hname isList hexplained)
    · rename_i n hcause
      rw [hcause] at hexplained
      obtain rfl := Except.error.inj h
      exact .inr (.digits hname hexplained.1 hexplained.2)
    · obtain rfl := Except.error.inj h
      exact .inl ⟨rfl, rfl⟩

theorem readYaml_error (hname : path.suffix = ".yaml" ∨ path.suffix = ".yml")
    (h : readYaml path cs = .error f) : Refused f ∨ TextEscapes path cs f := by
  unfold readYaml at h
  split at h
  · cases h
  · obtain rfl := Except.error.inj h
    exact .inl ⟨rfl, rfl⟩
  · rename_i hdepth
    obtain rfl := Except.error.inj h
    rcases Yaml.read_error hdepth with hlexical | ⟨-, hdeep⟩ | ⟨-, -, node, -, hconvert⟩
    · simp [Yaml.Lexer.Lexical] at hlexical
    · exact .inr (.nesting hname hdeep)
    · exact absurd hconvert (Yaml.Node.toScalar_ne_depth node.tag node)
  · rename_i fault hmalformed hdepth hfault
    obtain rfl := Except.error.inj h
    rcases Yaml.read_error hfault with hlexical | ⟨rfl, -⟩ | ⟨root, hroot, node, hoccurs, hconvert⟩
    · rcases hlexical with rfl | ⟨code, hcode, rfl⟩ | ⟨n, hlong, rfl⟩
      · exact absurd rfl hmalformed
      · exact .inr (.codePoint hname hcode)
      · exact .inr (.version hname hlong)
    · exact absurd rfl hdepth
    · exact .inr (.scalar hname hroot hoccurs hconvert hmalformed)

theorem readText_error (h : readText path cs = .error f) : Refused f ∨ TextEscapes path cs f := by
  unfold readText at h
  split at h
  · rename_i hname
    exact readYaml_error (by simpa using hname) h
  · split at h
    · rename_i hname
      exact readJson_error hname h
    · obtain rfl := Except.error.inj h
      exact .inl ⟨rfl, rfl⟩

/-! ## Files -/

/-- **A file that holds no rule set** has a fault that is declared and reported, or one that goes
through. -/
theorem ofFile_error {name : String} (h : ofFile name content = .error f) :
    Declared content f ∧ isReported f = true ∨ Escapes (.ofString name) content f := by
  unfold ofFile at h
  cases content with
  | missing =>
    obtain rfl := Except.error.inj h
    exact .inl ⟨rfl, rfl⟩
  | refused g =>
    obtain rfl := Except.error.inj h
    by_cases hg : g = .missing
    · subst hg
      exact .inl ⟨rfl, rfl⟩
    · exact .inr (.refused hg)
  | bytes data =>
    dsimp only at h
    split at h
    · obtain rfl := Except.error.inj h
      exact .inl ⟨rfl, rfl⟩
    · rename_i cs htext
      split at h
      · rename_i e he
        obtain rfl := Except.error.inj h
        exact (readText_error he).imp id (.text htext)
      · obtain ⟨d, -, rfl⟩ := mapError_eq_error.1 h
        exact .inl ⟨rfl, rfl⟩

/-- The tool that checks rules says with its status that it cannot use them if there is a fault that
is reported. -/
theorem validate_unusable_iff (ev : Expression.Evaluator) (limits : Limits) (files : Files)
    (rulesFile : String) :
    (validate ev limits files [rulesFile]).ending = .status unusable ↔
      ∃ f, ofFile (FilePath.ofString rulesFile).text (files rulesFile) = .error f ∧
        isReported f = true := by
  unfold validate
  dsimp only
  cases ofFile (FilePath.ofString rulesFile).text (files rulesFile) with
  | error f => cases hreported : isReported f <;> simp [hreported]
  | ok set =>
    -- the report of what is found has other statuses
    dsimp only
    cases Lint.report limits (some ev) set.rules with
    | error f => simp
    | ok r =>
      dsimp only
      split <;> simp [unusable]

end Faults

/-! ## A day that does not exist -/

open scoped Interpreter.Usual

/-- The bytes of a text hold the text, with line feeds as line breaks. -/
theorem decode?_toUTF8 (cs : List Char) :
    FileContent.decode? (String.ofList cs).toUTF8 = some (FileContent.plainBreaks cs) := by
  have hvalid : String.fromUTF8? (String.ofList cs).toUTF8 = some (String.ofList cs) :=
    dif_pos (String.ofList cs).isValidUTF8
  rw [FileContent.decode?, hvalid, Option.map_some, String.toList_ofList]

/-- A rule whose description looks like a day that its month does not have. -/
def leapDay : List Char :=
  "- name: a\n  destination: b\n  description: 2023-02-30\n".toList

theorem read_leapDay : Yaml.read leapDay = .error (.calendar .day) := by
  have h : (match Yaml.read leapDay with
      | .error f => decide (f = .calendar .day)
      | .ok _ => false) = true := by decide +kernel
  cases hread : Yaml.read leapDay with
  | error f => simpa [hread] using h
  | ok v => simp [hread] at h

end MessageRouting.RuleSet
