import MessageRouting.Value.Path

/-!
# Paths put together

The names of a path are the texts without dots that it joins (`Path.segments_eq_iff`), and they
lead through objects alone (`Value.Leads`): a path that is not empty names the value that they lead
to, and only that one (`Value.lookup?_eq_some_iff`). A path put together from two has the names of
the first and then those of the second (`Path.segments_append`), so it names what the second one
names in the object that the first one names (`Value.lookup?_composes`).
-/

namespace MessageRouting

/-! ## The names of a path -/

namespace Path

theorem segmentsOf_ne_nil (cs : List Char) : segmentsOf cs ≠ [] := by
  cases cs with
  | nil => exact List.cons_ne_nil _ _
  | cons c cs =>
    rw [segmentsOf]
    split
    · exact List.cons_ne_nil _ _
    · split <;> exact List.cons_ne_nil _ _

/-- A dot begins a new part, and another character goes to the first part of what follows. -/
theorem exists_segmentsOf_cons (c : Char) (cs : List Char) :
    ∃ s rest, segmentsOf cs = s :: rest ∧
      segmentsOf (c :: cs) = if c = '.' then [] :: s :: rest else (c :: s) :: rest := by
  obtain ⟨s, rest, hparts⟩ := List.exists_cons_of_ne_nil (segmentsOf_ne_nil cs)
  exact ⟨s, rest, hparts, by rw [segmentsOf, hparts]⟩

theorem segmentsOf_eq_splitOn (cs : List Char) : segmentsOf cs = cs.splitOn '.' := by
  induction cs with
  | nil => rfl
  | cons c cs ih =>
    obtain ⟨s, rest, hparts, hcons⟩ := exists_segmentsOf_cons c cs
    rw [hcons, List.splitOn_cons_eq_if_modifyHead, ← ih, hparts]
    by_cases hdot : c = '.' <;> simp [hdot]

/-- No part contains a dot. -/
theorem dot_notMem_of_mem_segmentsOf {cs s : List Char} (h : s ∈ segmentsOf cs) : '.' ∉ s := by
  induction cs generalizing s with
  | nil =>
    obtain rfl : s = [] := List.mem_singleton.1 h
    exact List.not_mem_nil
  | cons c cs ih =>
    obtain ⟨t, rest, hparts, hcons⟩ := exists_segmentsOf_cons c cs
    rw [hparts] at ih
    rw [hcons] at h
    split at h
    · rcases List.mem_cons.1 h with rfl | h
      · exact List.not_mem_nil
      · exact ih h
    · rename_i hdot
      -- Only the first part has grown, by a character that is no dot.
      rcases List.mem_cons.1 h with rfl | h
      · rw [List.mem_cons, not_or]
        exact ⟨Ne.symm hdot, ih List.mem_cons_self⟩
      · exact ih (List.mem_cons_of_mem _ h)

theorem segments_append (p q : String) :
    segments (p ++ "." ++ q) = segments p ++ segments q := by
  have hchars : (p ++ "." ++ q).toList = p.toList ++ '.' :: q.toList := by simp
  simp only [segments, hchars, segmentsOf_eq_splitOn, List.splitOn_append_cons_self,
    List.map_append]

/-- The names of a path are the texts without dots that it joins. -/
theorem segments_eq_iff {path : String} {names : List String} :
    segments path = names ↔
      names ≠ [] ∧ (∀ name ∈ names, '.' ∉ name.toList) ∧ ".".intercalate names = path := by
  have hdot : ".".toList = ['.'] := rfl
  constructor
  · rintro rfl
    refine ⟨?_, ?_, ?_⟩
    · rw [segments, ne_eq, List.map_eq_nil_iff]
      exact segmentsOf_ne_nil path.toList
    · intro name hname
      obtain ⟨s, hs, rfl⟩ := List.mem_map.1 hname
      rw [String.toList_ofList]
      exact dot_notMem_of_mem_segmentsOf hs
    · have hparts : (segments path).map String.toList = path.toList.splitOn '.' := by
        simp [segments, segmentsOf_eq_splitOn, Function.comp_def]
      rw [← String.toList_inj, String.toList_intercalate, hdot, hparts, List.intercalate_splitOn]
  · rintro ⟨hne, hplain, rfl⟩
    have hsplit : (['.'].intercalate (names.map String.toList)).splitOn '.' =
        names.map String.toList :=
      List.splitOn_intercalate '.' (by simpa using hplain) (by simpa using hne)
    rw [segments, segmentsOf_eq_splitOn, String.toList_intercalate, hdot, hsplit]
    simp [Function.comp_def]

end Path

/-! ## The way to a value -/

namespace Value

/-- Names lead from a value to another one: each is a text without dots and names a member of the
object reached so far. Of several members with one name the first one counts. -/
inductive Leads : Value → List String → Value → Prop where
  /-- The empty list of names leads to the value itself. -/
  | here (v : Value) : Leads v [] v
  /-- The first name leads to a member of an object, and the others lead on from there. -/
  | member {before after : List (Scalar × Value)} {name : String} {v w : Value}
    {names : List String} : (∀ m ∈ before, m.1 ≠ .text name) → '.' ∉ name.toList →
    Leads v names w → Leads (.object (before ++ (.text name, v) :: after)) (name :: names) w

variable {d v w : Value} {name p q path : String} {names : List String}

theorem get?_eq_some_iff : v.get? name = some w ↔ ∃ before after,
    v = .object (before ++ (.text name, w) :: after) ∧ ∀ m ∈ before, m.1 ≠ .text name := by
  have hother (m : Scalar × Value) :
      (!m.1.sameName (.text name)) = true ↔ m.1 ≠ .text name := by
    rw [ne_eq, ← Scalar.sameName_text_iff]
    simp
  constructor
  · intro h
    cases v with
    | scalar | list | set | pair => cases h
    | object ms =>
      obtain ⟨m, hm, rfl⟩ := Option.map_eq_some_iff.1 h
      obtain ⟨hname, before, after, rfl, hbefore⟩ := List.find?_eq_some_iff_append.1 hm
      obtain ⟨s, u⟩ := m
      obtain rfl := Scalar.sameName_text_iff.1 hname
      exact ⟨before, after, rfl, fun m hm => (hother m).1 (hbefore m hm)⟩
  · rintro ⟨before, after, rfl, hbefore⟩
    refine Option.map_eq_some_iff.2 ⟨(.text name, w), ?_, rfl⟩
    exact List.find?_eq_some_iff_append.2
      ⟨Scalar.sameName_text_iff.2 rfl, before, after, rfl, fun m hm => (hother m).2 (hbefore m hm)⟩

theorem Leads.dot_notMem (h : Leads v names w) : ∀ name ∈ names, '.' ∉ name.toList := by
  induction h with
  | here => exact fun _ h => nomatch h
  | member _ hdot _ ih => exact List.forall_mem_cons.2 ⟨hdot, ih⟩

/-- Walking down names without dots is following where they lead. -/
theorem descend_eq_some_iff (hplain : ∀ name ∈ names, '.' ∉ name.toList) :
    v.descend names = some w ↔ Leads v names w := by
  induction names generalizing v with
  | nil =>
    rw [descend_nil, Option.some_inj]
    constructor
    · rintro rfl
      exact .here v
    · intro h
      cases h
      rfl
  | cons name names ih =>
    obtain ⟨hdot, hplain⟩ := List.forall_mem_cons.1 hplain
    rw [descend_cons, Option.bind_eq_some_iff]
    constructor
    · rintro ⟨u, hu, hw⟩
      obtain ⟨before, after, rfl, hbefore⟩ := get?_eq_some_iff.1 hu
      exact .member hbefore hdot ((ih hplain).1 hw)
    · intro h
      cases h with
      | member hbefore _ hleads =>
        exact ⟨_, get?_eq_some_iff.2 ⟨_, _, rfl, hbefore⟩, (ih hplain).2 hleads⟩

theorem lookup?_of_ne_empty (h : path ≠ "") : d.lookup? path = d.descend (Path.segments path) :=
  if_neg h

/-- **A path names what its names lead to**, and the empty path names nothing. -/
theorem lookup?_eq_some_iff : d.lookup? path = some w ↔
    path ≠ "" ∧ ∃ names, ".".intercalate names = path ∧ d.Leads names w := by
  constructor
  · intro h
    have hpath : path ≠ "" := by
      rintro rfl
      cases h
    obtain ⟨-, hplain, hjoined⟩ := Path.segments_eq_iff.1 (Eq.refl (Path.segments path))
    rw [lookup?_of_ne_empty hpath] at h
    exact ⟨hpath, _, hjoined, (descend_eq_some_iff hplain).1 h⟩
  · rintro ⟨hpath, names, hjoined, hleads⟩
    -- There are names, since none at all join to the empty path: so they are those of the path.
    have hne : names ≠ [] := by
      rintro rfl
      exact hpath (hjoined.symm.trans String.intercalate_nil)
    have hplain := hleads.dot_notMem
    rw [lookup?_of_ne_empty hpath, Path.segments_eq_iff.2 ⟨hne, hplain, hjoined⟩]
    exact (descend_eq_some_iff hplain).2 hleads

/-- Paths name nothing in what is not an object. -/
theorem lookup?_eq_none_of_ne_object (h : ∀ ms, v ≠ .object ms) (path : String) :
    v.lookup? path = none := by
  rw [Option.eq_none_iff_forall_ne_some]
  intro w hw
  obtain ⟨hpath, names, hjoined, hleads⟩ := lookup?_eq_some_iff.1 hw
  cases hleads with
  | here => exact hpath (hjoined.symm.trans String.intercalate_nil)
  | member => exact h _ rfl

theorem lookup?_append (hp : p ≠ "") (hq : q ≠ "") :
    d.lookup? (p ++ "." ++ q) = (d.lookup? p).bind fun v => v.lookup? q := by
  have hpq : p ++ "." ++ q ≠ "" := by simp
  rw [lookup?_of_ne_empty hpq, Path.segments_append, descend_append, lookup?_of_ne_empty hp]
  exact Option.bind_congr fun v _ => (lookup?_of_ne_empty hq).symm

/-- **Path lookup composes.** A path that is put together from two, neither of them empty, names
what the second one names in the object that the first one names, and nothing if that one names
nothing or something else than an object. What a path names is reached through objects alone, by
names without dots, which the path joins; the empty path names nothing. -/
theorem lookup?_composes (d : Value) :
    (∀ p q : String, p ≠ "" → q ≠ "" → d.lookup? (p ++ "." ++ q) =
      match d.lookup? p with
      | some (.object ms) => (Value.object ms).lookup? q
      | _ => none) ∧
    ∀ path w, d.lookup? path = some w ↔
      path ≠ "" ∧ ∃ names, ".".intercalate names = path ∧ d.Leads names w := by
  refine ⟨fun p q hp hq => ?_, fun path w => lookup?_eq_some_iff⟩
  rw [lookup?_append hp hq]
  cases d.lookup? p with
  | none => rfl
  | some v =>
    cases v with
    | object ms => rfl
    | scalar | list | set | pair =>
      exact lookup?_eq_none_of_ne_object (fun _ => Value.noConfusion) q

/-- An object with empty names in it, and names that contain dots beside them. -/
def dotted : Value :=
  .record [("", .record [("a", .record [("", .record [("", .record [("b", .int 7)])])])]),
    (".a.", .record [(".b", .int 8)]), (".a...b", .int 9)]

theorem lookup?_composes_dotted : ".a." ≠ "" ∧ ".b" ≠ "" ∧
    dotted.lookup? ".a." = some (.record [("", .record [("b", .int 7)])]) ∧
    dotted.lookup? (".a." ++ "." ++ ".b") = some (.int 7) := by
  have hfront : dotted.lookup? ".a." = some (.record [("", .record [("b", .int 7)])]) := by rfl
  refine ⟨by decide, by decide, hfront, ?_⟩
  rw [(lookup?_composes dotted).1 ".a." ".b" (by decide) (by decide), hfront]
  rfl

/-- Neither path may be empty: what the empty name names, the empty path does not. -/
example : (dotted.lookup? "").isSome = false ∧ (dotted.lookup? ("" ++ "." ++ "a")).isSome = true ∧
    (dotted.lookup? (".a" ++ "." ++ "")).isSome = true := by
  decide

end Value

end MessageRouting
