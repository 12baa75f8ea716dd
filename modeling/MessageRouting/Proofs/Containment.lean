import MessageRouting.Proofs.Findings
import MessageRouting.Proofs.Literals

/-!
# Looking into containers

The text of a list or an object contains the text of everything that stands in it, at any depth
(`Value.Inside.infix_write`): on one line a value is written the same at every depth at which it is
written. A `contains` condition therefore finds each of them (`Condition.finds_inside`), save null,
which is no operand, and texts of which some characters are escaped, since the text of an operand is
not. A container that nests too deep has no text, and nothing is found in it
(`Condition.finds_inside_tooDeep`).
-/

namespace MessageRouting

open Expression

/-! ## Texts in quotes -/

namespace Text.Quoted

/-- Whether JSON writes a character as it is: no quote, no backslash, no control character. -/
def isPlain (c : Char) : Bool := c ≠ '"' && c ≠ '\\' && 32 ≤ c.toNat

theorem jsonChar_of_isPlain {c : Char} (h : isPlain c = true) : jsonChar c = [c] := by
  unfold jsonChar
  split
  all_goals try cases h
  split
  · rename_i hcontrol
    simp only [isPlain, Bool.and_eq_true, decide_eq_true_eq] at h
    omega
  · rfl

/-- A text of plain characters stands in quotes as it is. -/
theorem json_of_isPlain {cs : List Char} (h : cs.all isPlain = true) :
    json cs = '"' :: (cs ++ ['"']) := by
  have hflat : cs.flatMap jsonChar = cs := by
    induction cs with
    | nil => rfl
    | cons c cs ih =>
      rw [List.all_cons, Bool.and_eq_true] at h
      rw [List.flatMap_cons, jsonChar_of_isPlain h.1, ih h.2, List.singleton_append]
  rw [json, hflat]

end Text.Quoted

namespace Json.Style

variable {f : Style}

/-! ## On one line -/

theorem joined_depth (h : f.indent = none) (depth depth' : Nat) (items : List (List Char)) :
    f.joined depth items = f.joined depth' items := by
  induction items with
  | nil => rfl
  | cons s rest ih =>
    cases rest with
    | nil => rfl
    | cons t rest => simp only [joined, h, ih]

theorem enclosed_depth (h : f.indent = none) (opening closing : Char) (depth depth' : Nat)
    (items : List (List Char)) :
    f.enclosed opening closing depth items = f.enclosed opening closing depth' items := by
  simp only [enclosed, lineBreak, h, joined_depth h (depth + 1) (depth' + 1)]

theorem enter_of_le {depth depth' : Nat} (hle : depth' ≤ depth) (h : f.enter depth = .ok ()) :
    f.enter depth' = .ok () := by
  unfold enter at h
  split at h
  · exact enter_of_lt (by omega)
  · cases h

theorem writeSet_of_le (h : f.indent = none) {depth depth' : Nat} (hle : depth' ≤ depth)
    {es : List Scalar} {cs : List Char} (hcs : f.writeSet depth es = .ok cs) :
    f.writeSet depth' es = .ok cs := by
  obtain ⟨_, henter, hcs⟩ := bind_eq_ok.1 hcs
  refine bind_eq_ok.2 ⟨(), enter_of_le hle henter, ?_⟩
  split at hcs
  · exact hcs
  · simp only [enclosed_depth h '[' ']' depth' depth]
    exact hcs

mutual

/-- On one line a value is written the same at a lesser depth. -/
theorem writeAt_of_le (h : f.indent = none) {depth depth' : Nat} (hle : depth' ≤ depth) :
    ∀ (v : Value) (cs : List Char), f.writeAt depth v = .ok cs → f.writeAt depth' v = .ok cs
  | .scalar _, cs, hcs => by
    rw [writeAt] at hcs ⊢
    exact hcs
  | .list xs, cs, hcs => by
    rw [writeAt] at hcs ⊢
    obtain ⟨_, henter, hcs⟩ := bind_eq_ok.1 hcs
    obtain ⟨items, hitems, hcs⟩ := bind_eq_ok.1 hcs
    have hitems' := writeItems_of_le h (Nat.succ_le_succ hle) xs items hitems
    refine bind_eq_ok.2 ⟨(), enter_of_le hle henter, bind_eq_ok.2 ⟨items, hitems', ?_⟩⟩
    rw [enclosed_depth h '[' ']' depth' depth]
    exact hcs
  | .object ms, cs, hcs => by
    rw [writeAt] at hcs ⊢
    obtain ⟨_, henter, hcs⟩ := bind_eq_ok.1 hcs
    obtain ⟨items, hitems, hcs⟩ := bind_eq_ok.1 hcs
    have hitems' := writeMembers_of_le h (Nat.succ_le_succ hle) ms items hitems
    refine bind_eq_ok.2 ⟨(), enter_of_le hle henter, bind_eq_ok.2 ⟨items, hitems', ?_⟩⟩
    rw [enclosed_depth h '\x7b' '\x7d' depth' depth]
    exact hcs
  | .set es, cs, hcs => by
    rw [writeAt] at hcs ⊢
    exact writeSet_of_le h hle hcs
  | .pair v w, cs, hcs => by
    rw [writeAt] at hcs ⊢
    obtain ⟨_, henter, hcs⟩ := bind_eq_ok.1 hcs
    obtain ⟨first, hfirst, hcs⟩ := bind_eq_ok.1 hcs
    obtain ⟨second, hsecond, hcs⟩ := bind_eq_ok.1 hcs
    have hfirst' := writeAt_of_le h (Nat.succ_le_succ hle) v first hfirst
    have hsecond' := writeAt_of_le h (Nat.succ_le_succ hle) w second hsecond
    refine bind_eq_ok.2 ⟨(), enter_of_le hle henter, bind_eq_ok.2 ⟨first, hfirst',
      bind_eq_ok.2 ⟨second, hsecond', ?_⟩⟩⟩
    rw [enclosed_depth h '[' ']' depth' depth]
    exact hcs

theorem writeItems_of_le (h : f.indent = none) {depth depth' : Nat} (hle : depth' ≤ depth) :
    ∀ (xs : List Value) (items : List (List Char)),
      f.writeItems depth xs = .ok items → f.writeItems depth' xs = .ok items
  | [], items, hitems => by
    rw [writeItems] at hitems ⊢
    exact hitems
  | v :: vs, items, hitems => by
    rw [writeItems] at hitems ⊢
    obtain ⟨head, hhead, hitems⟩ := bind_eq_ok.1 hitems
    obtain ⟨rest, hrest, hitems⟩ := bind_eq_ok.1 hitems
    exact bind_eq_ok.2 ⟨head, writeAt_of_le h hle v head hhead,
      bind_eq_ok.2 ⟨rest, writeItems_of_le h hle vs rest hrest, hitems⟩⟩

theorem writeMembers_of_le (h : f.indent = none) {depth depth' : Nat} (hle : depth' ≤ depth) :
    ∀ (ms : List (Scalar × Value)) (items : List (List Char)),
      f.writeMembers depth ms = .ok items → f.writeMembers depth' ms = .ok items
  | [], items, hitems => by
    rw [writeMembers] at hitems ⊢
    exact hitems
  | (_, v) :: ms, items, hitems => by
    rw [writeMembers] at hitems ⊢
    obtain ⟨label, hlabel, hitems⟩ := bind_eq_ok.1 hitems
    obtain ⟨body, hbody, hitems⟩ := bind_eq_ok.1 hitems
    obtain ⟨rest, hrest, hitems⟩ := bind_eq_ok.1 hitems
    exact bind_eq_ok.2 ⟨label, hlabel, bind_eq_ok.2 ⟨body, writeAt_of_le h hle v body hbody,
      bind_eq_ok.2 ⟨rest, writeMembers_of_le h hle ms rest hrest, hitems⟩⟩⟩

end

/-! ## What stands in brackets -/

theorem infix_joined {s : List Char} {items : List (List Char)} (hs : s ∈ items) (depth : Nat) :
    s <:+: f.joined depth items := by
  induction items with
  | nil => cases hs
  | cons t rest ih =>
    cases rest with
    | nil =>
      obtain rfl : s = t := List.mem_singleton.1 hs
      exact List.infix_refl _
    | cons u rest =>
      rw [joined]
      · rcases List.mem_cons.1 hs with rfl | hs
        · rw [List.append_assoc]
          exact (List.prefix_append _ _).isInfix
        · exact (ih hs).trans (List.suffix_append _ _).isInfix
      · exact List.cons_ne_nil _ _

theorem infix_enclosed {s : List Char} {items : List (List Char)} (hs : s ∈ items)
    (opening closing : Char) (depth : Nat) : s <:+: f.enclosed opening closing depth items := by
  have hne : items.isEmpty = false := List.isEmpty_eq_false_iff.2 (List.ne_nil_of_mem hs)
  rw [enclosed, hne, if_neg (by decide)]
  exact (infix_joined (f := f) hs (depth + 1)).trans
    ⟨opening :: f.lineBreak (depth + 1), f.lineBreak depth ++ [closing], by simp⟩

/-- Each item is written. -/
theorem exists_of_writeItems {depth : Nat} {xs : List Value} {items : List (List Char)}
    (h : f.writeItems depth xs = .ok items) {v : Value} (hv : v ∈ xs) :
    ∃ t ∈ items, f.writeAt depth v = .ok t := by
  induction xs generalizing items with
  | nil => cases hv
  | cons x xs ih =>
    simp only [writeItems, bind_eq_ok, pure_eq_ok] at h
    obtain ⟨head, hhead, rest, hrest, rfl⟩ := h
    rcases List.mem_cons.1 hv with rfl | hv
    · exact ⟨head, List.mem_cons_self, hhead⟩
    · obtain ⟨t, ht, hvt⟩ := ih hrest hv
      exact ⟨t, List.mem_cons_of_mem _ ht, hvt⟩

/-- Each member is written, its name and its value. -/
theorem exists_of_writeMembers {depth : Nat} {ms : List (Scalar × Value)}
    {items : List (List Char)} (h : f.writeMembers depth ms = .ok items) {name : Scalar}
    {v : Value} (hv : (name, v) ∈ ms) :
    ∃ label body, f.label name = .ok label ∧ f.writeAt depth v = .ok body ∧
      f.quote label ++ f.colon.toList ++ body ∈ items := by
  induction ms generalizing items with
  | nil => cases hv
  | cons m ms ih =>
    obtain ⟨n, x⟩ := m
    simp only [writeMembers, bind_eq_ok, pure_eq_ok] at h
    obtain ⟨label, hlabel, body, hbody, rest, hrest, rfl⟩ := h
    rcases List.mem_cons.1 hv with heq | hv
    · cases heq
      exact ⟨label, body, hlabel, hbody, List.mem_cons_self⟩
    · obtain ⟨label', body', hlabel', hbody', hmem⟩ := ih hrest hv
      exact ⟨label', body', hlabel', hbody', List.mem_cons_of_mem _ hmem⟩

/-- The text of a list contains that of each item. -/
theorem infix_of_item (hf : f.indent = none) {xs : List Value} {cs : List Char}
    (h : f.write (.list xs) = .ok cs) {v : Value} (hv : v ∈ xs) :
    ∃ t, f.write v = .ok t ∧ t <:+: cs := by
  simp only [write, writeAt, bind_eq_ok, pure_eq_ok] at h
  obtain ⟨_, -, items, hitems, rfl⟩ := h
  obtain ⟨t, ht, hvt⟩ := exists_of_writeItems hitems hv
  exact ⟨t, writeAt_of_le hf (Nat.zero_le _) v t hvt, infix_enclosed ht _ _ _⟩

/-- The text of an object contains the name of each member, in quotes, and the text of its value. -/
theorem infix_of_member (hf : f.indent = none) {ms : List (Scalar × Value)} {cs : List Char}
    (h : f.write (.object ms) = .ok cs) {name : Scalar} {v : Value} (hv : (name, v) ∈ ms) :
    ∃ label t, f.label name = .ok label ∧ f.quote label <:+: cs ∧ f.write v = .ok t ∧
      t <:+: cs := by
  simp only [write, writeAt, bind_eq_ok, pure_eq_ok] at h
  obtain ⟨_, -, items, hitems, rfl⟩ := h
  obtain ⟨label, body, hlabel, hbody, hmem⟩ := exists_of_writeMembers hitems hv
  have hpart := infix_enclosed (f := f) hmem '\x7b' '\x7d' 0
  refine ⟨label, body, hlabel, .trans ?_ hpart, writeAt_of_le hf (Nat.zero_le _) v body hbody,
    (List.suffix_append _ _).isInfix.trans hpart⟩
  rw [List.append_assoc]
  exact (List.prefix_append _ _).isInfix

end Json.Style

/-! ## Values inside each other -/

namespace Value

/-- A value stands in another one: as an item, a member or the name of a member, at some depth. -/
inductive Inside : Value → Value → Prop where
  /-- An item of a list. -/
  | item {v : Value} {xs : List Value} : v ∈ xs → Inside v (.list xs)
  /-- A member of an object. -/
  | member {name : Scalar} {v : Value} {ms : List (Scalar × Value)} :
    (name, v) ∈ ms → Inside v (.object ms)
  /-- The name of a member. -/
  | name {s : Scalar} {v : Value} {ms : List (Scalar × Value)} :
    s.isTextual = true → (s, v) ∈ ms → Inside (.scalar s) (.object ms)
  /-- Inside an item of a list. -/
  | inItem {w v : Value} {xs : List Value} : Inside w v → v ∈ xs → Inside w (.list xs)
  /-- Inside a member of an object. -/
  | inMember {w : Value} {name : Scalar} {v : Value} {ms : List (Scalar × Value)} :
    Inside w v → (name, v) ∈ ms → Inside w (.object ms)

/-- A value stands in the lists around it. -/
theorem inside_wrapped (v : Value) (n : Nat) : Inside v (v.wrapped (n + 1)) := by
  induction n with
  | zero => exact .item List.mem_cons_self
  | succ n ih => exact .inItem ih List.mem_cons_self

/-- Whether a value, if it is a text, is written in JSON without escapes. -/
def isVerbatim : Value → Bool
  | .text s => s.toList.all Text.Quoted.isPlain
  | .scalar (.broken codes) => (Scalar.shownCodes codes).all Text.Quoted.isPlain
  | _ => true

variable [Interpreter] {v w : Value}

theorem Inside.asText_eq (h : Inside w v) : v.asText = Json.compact.write v := by
  cases h <;> rfl

/-- **The text of a container contains that of everything inside.** -/
theorem Inside.infix_write (h : Inside w v) {cs : List Char}
    (hcs : Json.compact.write v = .ok cs) : ∃ t, Json.compact.write w = .ok t ∧ t <:+: cs := by
  have hline : Json.compact.indent = none := rfl
  induction h generalizing cs with
  | item hv => exact Json.Style.infix_of_item hline hcs hv
  | member hv =>
    obtain ⟨-, t, -, -, ht, hpart⟩ := Json.Style.infix_of_member hline hcs hv
    exact ⟨t, ht, hpart⟩
  | @name s v ms hs hv =>
    obtain ⟨label, -, hlabel, hpart, -⟩ := Json.Style.infix_of_member hline hcs hv
    refine ⟨_, ?_, hpart⟩
    rw [Json.Style.write, Json.Style.writeAt]
    cases s with
    | text s =>
      cases hlabel
      rfl
    | broken codes =>
      cases hlabel
      rfl
    | _ => cases hs
  | inItem _ hv ih =>
    obtain ⟨t, ht, hpart⟩ := Json.Style.infix_of_item hline hcs hv
    obtain ⟨u, hu, hinner⟩ := ih ht
    exact ⟨u, hu, hinner.trans hpart⟩
  | inMember _ hv ih =>
    obtain ⟨-, t, -, -, ht, hpart⟩ := Json.Style.infix_of_member hline hcs hv
    obtain ⟨u, hu, hinner⟩ := ih ht
    exact ⟨u, hu, hinner.trans hpart⟩

/-- The text of a value stands in its JSON. -/
theorem asText_infix_write (hw : w.isVerbatim = true) {t : List Char}
    (ht : Json.compact.write w = .ok t) : ∃ s, w.asText = .ok s ∧ s <:+: t := by
  unfold asText
  split
  · rename_i s
    rw [Json.Style.write, Json.Style.writeAt] at ht
    obtain rfl : Text.Quoted.json s.toList = t := Except.ok.inj ht
    rw [Text.Quoted.json_of_isPlain hw]
    exact ⟨_, rfl, ['"'], ['"'], rfl⟩
  · rename_i codes
    rw [Json.Style.write, Json.Style.writeAt] at ht
    obtain rfl : Text.Quoted.json (Scalar.shownCodes codes) = t := Except.ok.inj ht
    rw [Text.Quoted.json_of_isPlain hw]
    exact ⟨_, rfl, ['"'], ['"'], rfl⟩
  · exact ⟨t, ht, List.infix_refl t⟩

end Value

/-! ## Conditions -/

namespace Condition

/-- No container is found under the empty path. -/
theorem path_ne_empty {m : Message} {path : String} {space : Space} {v w : Value}
    (h : locate m path space = some v) (hw : Value.Inside w v) : path ≠ "" := by
  rintro rfl
  cases space with
  | payload => cases h
  | metadata => cases h
  | header =>
    obtain ⟨s, -, rfl⟩ := Option.map_eq_some_iff.1 h
    cases hw

/-- **A container contains everything inside.** If a field holds a container, whose integers are
short enough to be written, whose names are no dates or bytes and which does not nest too deep, a
`contains` condition finds in it all items, members and names at any depth, except null and texts
with characters that are escaped. -/
theorem finds_inside [Interpreter] (ev : Evaluator) {m : Message} {path : String} {space : Space}
    {v w : Value}
    (hv : locate m path space = some v) (hrenderable : v.isRenderable = true)
    (hw : Value.Inside w v) (hnull : w.isNull = false) (hverbatim : w.isVerbatim = true) :
    (field space (some path) .contains w).evaluate ev m = ⟨.plain true, []⟩ := by
  obtain ⟨text, htext⟩ := v.writtenIf_asText.exists_ok hrenderable
  obtain ⟨t, ht, hinner⟩ := hw.infix_write (hw.asText_eq ▸ htext)
  obtain ⟨sought, hsought, hpart⟩ := Value.asText_infix_write hverbatim ht
  have hoccurs : Text.occurs sought text = true :=
    (Text.occurs_iff _ _).2 (hpart.trans hinner)
  rw [evaluate_field ev m space (path_ne_empty hv hw), hv, compare, hnull, Bool.and_false,
    if_neg (by decide), containsText_eq_ok hsought htext, hoccurs]
  rfl

/-- Nothing is found in a container that nests too deep. -/
theorem matched_of_tooDeep [Interpreter] (ev : Evaluator) {m : Message} {path : String}
    {space : Space} {v : Value} (hv : locate m path space = some v)
    (hdeep : Interpreter.writing.depth < v.height) (w : Value) :
    ((field space (some path) .contains w).evaluate ev m).finding.matched = false := by
  have hunrenderable : ¬ v.isRenderable = true := fun h =>
    absurd (Value.isRenderable_iff.1 h).2 (Nat.not_le.2 hdeep)
  obtain ⟨f, hf, -⟩ := v.writtenIf_asText.exists_error hunrenderable
  by_cases hpath : path = ""
  · rw [hpath, evaluate]
    rfl
  rw [evaluate_field ev m space hpath, hv, compare]
  split
  · rfl
  · simp only [containsText, containsWritten, hf]
    cases w.asText <;> rfl

/-- Visits by customer: a day with what was spent, and a remark. -/
def visits : Value :=
  .record [("Ann", .list [.record [("day", .moment (.day ⟨2024, 2, 29⟩)), ("spent", .int (-7))],
    .text "said \"hi\""])]

/-- A message with visits. -/
def visited : Message := { Message.empty with payload := .record [("visits", visits)] }

/-- An evaluator that finds nothing true. -/
def denying : Evaluator where
  evaluate _ _ := ⟨.answered (.ofOutput (.bool false)), []⟩
  validate _ := ⟨.answered ⟨true, none, []⟩, []⟩

section

open scoped Interpreter.Usual

theorem finds_inside_day :
    let day := Value.moment (.day ⟨2024, 2, 29⟩)
    locate visited "visits" .payload = some visits ∧ visits.isRenderable = true ∧
      Value.Inside day visits ∧ day.isNull = false ∧ day.isVerbatim = true ∧
      (field .payload (some "visits") .contains day).evaluate denying visited =
        ⟨.plain true, []⟩ := by
  have hvisits : locate visited "visits" .payload = some visits := by rfl
  have hrenderable : visits.isRenderable = true := by decide
  have hday : Value.Inside (.moment (.day ⟨2024, 2, 29⟩)) visits :=
    .inMember (.inItem (.member List.mem_cons_self) List.mem_cons_self) List.mem_cons_self
  exact ⟨hvisits, hrenderable, hday, rfl, rfl,
    finds_inside denying hvisits hrenderable hday rfl rfl⟩

/-- A message with an integer inside two thousand lists. -/
def buried : Message :=
  { Message.empty with metadata := [(.text "note", (Value.int 1).wrapped 2000)] }

/-- An integer that stands too deep in a container is not found. -/
theorem finds_inside_tooDeep :
    let note := (Value.int 1).wrapped 2000
    locate buried "note" .metadata = some note ∧ note.isJson = true ∧
      Value.Inside (.int 1) note ∧
      ((field .metadata (some "note") .contains (.int 1)).evaluate denying buried).finding.matched =
        false := by
  have hnote : locate buried "note" .metadata = some ((Value.int 1).wrapped 2000) := by rfl
  have hjson : ((Value.int 1).wrapped 2000).isJson = true := by
    rw [Value.isJson, Value.consists_wrapped]
    decide
  refine ⟨hnote, hjson, Value.inside_wrapped _ 1999, matched_of_tooDeep denying hnote ?_ _⟩
  rw [Value.height_wrapped]
  decide

/-- A text with quotes in it is not found: in the container they are escaped. -/
example : (field .payload (some "visits") .contains (.text "said \"hi\"")).evaluate denying
    visited = ⟨.plain false, []⟩ := by rfl

end

end Condition

end MessageRouting
