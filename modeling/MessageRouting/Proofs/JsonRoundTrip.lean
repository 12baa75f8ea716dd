import Mathlib.Data.List.Forall2
import Mathlib.Data.List.Nodup
import MessageRouting.Proofs.JsonTokens
import MessageRouting.Proofs.JsonValues

/-!
# Reading back what was written

What a reader of JSON finds in the text of a value is the value as it is restored: names have become
texts, scalars what their texts stand for, and of two names that have become one the last value is
kept (`Style.Restores.read_write`). A value that has only texts as names, none of them twice, and
only scalars that stand for themselves is restored as it was (`Value.restored_eq_self`). A writer
goes only so deep and a reader opens only so many containers inside each other, which are the two
conditions on the shape of a value.
-/

namespace MessageRouting

open Json

namespace Value

/-- An object to which members are given one after the other. -/
def collected (ms : List (Scalar × Value)) (found : List (Scalar × Value)) :
    List (Scalar × Value) :=
  ms.foldl (fun found m => setMember found m.1 m.2) found

mutual

/-- A value with other names and scalars; sets and pairs stay. -/
def restored (name : Scalar → String) (scalar : Scalar → Scalar) : Value → Value
  | .scalar s => .scalar (scalar s)
  | .list xs => .list (itemsRestored name scalar xs)
  | .object ms => .object (collected (membersRestored name scalar ms) [])
  | v => v

/-- Items with other names and scalars. -/
def itemsRestored (name : Scalar → String) (scalar : Scalar → Scalar) :
    List Value → List Value
  | [] => []
  | v :: vs => restored name scalar v :: itemsRestored name scalar vs

/-- Members with other names and scalars. -/
def membersRestored (name : Scalar → String) (scalar : Scalar → Scalar) :
    List (Scalar × Value) → List (Scalar × Value)
  | [] => []
  | (n, v) :: ms => (.text (name n), restored name scalar v) :: membersRestored name scalar ms

end

end Value

namespace Json

open Reader

/-! ## Gaps -/

namespace Reader

theorem skip_append {gap : List Char} (h : ∀ c ∈ gap, isGap c = true) (rest : List Char) :
    skip (gap ++ rest) = skip rest :=
  List.dropWhile_append_of_pos h

theorem skip_of_head {c : Char} (h : isGap c = false) (rest : List Char) :
    skip (c :: rest) = c :: rest := by
  simp [skip, h]

theorem ends_of_gap {gap : List Char} (h : ∀ c ∈ gap, isGap c = true) {rest : List Char}
    (hrest : Ends rest) : Ends (gap ++ rest) := by
  cases gap with
  | nil => exact hrest
  | cons c gap =>
    refine ends_cons _ ?_
    have hc := h c List.mem_cons_self
    simp only [isGap, Bool.or_eq_true, decide_eq_true_eq] at hc
    rcases hc with ((rfl | rfl) | rfl) | rfl <;> decide

end Reader

theorem isGap_lineBreak (f : Style) (depth : Nat) : ∀ c ∈ f.lineBreak depth, isGap c = true := by
  intro c hc
  unfold Style.lineBreak at hc
  split at hc
  · rcases List.mem_cons.1 hc with rfl | hc
    · rfl
    · rw [List.eq_of_mem_replicate hc]
      rfl
  · cases hc

theorem joined_cons_cons {f : Style} (h : f.separator = ",") (depth : Nat) (s t : List Char)
    (rest : List (List Char)) :
    f.joined depth (s :: t :: rest) =
      s ++ (',' :: (f.lineBreak depth ++ f.joined depth (t :: rest))) := by
  rw [Style.joined]
  · unfold Style.lineBreak
    cases f.indent <;> simp [h]
  · exact List.cons_ne_nil _ _

/-- Joined texts begin with the first of them. -/
theorem exists_joined (f : Style) (depth : Nat) (s : List Char) (rest : List (List Char)) :
    ∃ more, f.joined depth (s :: rest) = s ++ more := by
  cases rest with
  | nil => exact ⟨[], by rw [Style.joined, List.append_nil]⟩
  | cons t rest =>
    rw [Style.joined, List.append_assoc]
    · exact ⟨_, rfl⟩
    · exact List.cons_ne_nil _ _

/-! ## Texts of values -/

/-- A text that is read as a value wherever it stands, if nothing behind it goes on with it. -/
structure Reads (d : Dialect) (height : Nat) (cs : List Char) (v : Value) : Prop where
  /-- It does not begin with a gap, the end of a list or a byte order mark. -/
  head : ∃ c tail, cs = c :: tail ∧ isGap c = false ∧ c ≠ ']' ∧ c ≠ '\uFEFF'
  /-- It is read as the value. -/
  value_append : ∀ fuel depth rest, cs.length ≤ fuel → height ≤ depth → Ends rest →
    value d fuel depth (cs ++ rest) = .ok (v, rest)

/-- A text that is read as a member. -/
def ReadsMember (f : Style) (d : Dialect) (height : Nat) (cs : List Char) (m : Scalar × Value) :
    Prop :=
  ∃ name body, m.1 = .text name ∧ cs = Text.Quoted.json name.toList ++ f.colon.toList ++ body ∧
    Reads d height body m.2

variable {f : Style} {d : Dialect} {height : Nat}

theorem Reads.mono {cs : List Char} {v : Value} (h : Reads d height cs v) {height' : Nat}
    (hle : height ≤ height') : Reads d height' cs v :=
  ⟨h.head, fun fuel depth rest hfuel hdepth hrest =>
    h.value_append fuel depth rest hfuel (Nat.le_trans hle hdepth) hrest⟩

/-- The texts of items, joined, are read as the items. -/
theorem items_joined (hseparator : f.separator = ",") {texts : List (List Char)} {vs : List Value}
    (h : List.Forall₂ (Reads d height) texts vs) (hne : texts ≠ []) (level : Nat)
    {gap : List Char} (hgap : ∀ c ∈ gap, isGap c = true) (rest : List Char) {fuel depth : Nat}
    (hfuel : (f.joined level texts).length < fuel) (hdepth : height ≤ depth) :
    items d fuel depth (f.joined level texts ++ (gap ++ ']' :: rest)) = .ok (vs, rest) := by
  induction h generalizing fuel with
  | nil => exact absurd rfl hne
  | @cons s v texts vs hs htexts ih =>
    obtain ⟨fuel, rfl⟩ : ∃ n, fuel = n + 1 := ⟨fuel - 1, by omega⟩
    have hclose : Ends (gap ++ ']' :: rest) := ends_of_gap hgap (ends_cons _ (by decide))
    cases htexts with
    | nil =>
      rw [Style.joined] at hfuel ⊢
      rw [items, hs.value_append fuel depth _ (Nat.le_of_lt_succ hfuel) hdepth hclose]
      simp only [skip_append hgap, skip_of_head (show isGap ']' = false from rfl)]
    | @cons t w texts ws ht htexts =>
      rw [joined_cons_cons hseparator] at hfuel ⊢
      simp only [List.length_append, List.length_cons] at hfuel
      have hcomma : Ends (',' :: (f.lineBreak level ++ f.joined level (t :: texts)) ++
          (gap ++ ']' :: rest)) := ends_cons _ (by decide)
      have hv := hs.value_append fuel depth _ (by omega) hdepth hcomma
      obtain ⟨c, tail, rfl, hc, -⟩ := ht.head
      obtain ⟨more, hmore⟩ := exists_joined f level (c :: tail) texts
      have hrest := @ih (by simp) fuel (by omega)
      rw [hmore] at hv hrest ⊢
      rw [List.append_assoc, items, hv]
      simp only [List.cons_append, skip_of_head (show isGap ',' = false from rfl),
        List.append_assoc, skip_append (isGap_lineBreak f level), skip_of_head hc]
      simp only [List.cons_append, List.append_assoc] at hrest
      rw [hrest]
      rfl

theorem length_le_flatMap_jsonChar (cs : List Char) :
    cs.length ≤ (cs.flatMap Text.Quoted.jsonChar).length := by
  have hchar : ∀ c, 1 ≤ (Text.Quoted.jsonChar c).length := fun c => by
    unfold Text.Quoted.jsonChar
    split
    all_goals try decide
    split <;> simp [Text.Quoted.unicodeEscape]
  induction cs with
  | nil => exact Nat.le_refl 0
  | cons c cs ih =>
    have hc := hchar c
    simp only [List.flatMap_cons, List.length_append, List.length_cons]
    omega

/-- What is read behind the members that have been found: the end of the object, or another one. -/
def behindMembers (d : Dialect) (fuel depth : Nat) (found : List (Scalar × Value))
    (rest : List Char) : Result (List (Scalar × Value)) :=
  match skip rest with
  | '\x7d' :: rest => .ok (found, rest)
  | ',' :: rest => members d fuel depth found (skip rest)
  | rest => fail .comma rest

/-- The name of a member is read, and then its value. -/
theorem members_name {gap : List Char} (hcolon : f.colon.toList = ':' :: gap)
    (hgap : ∀ c ∈ gap, isGap c = true) {body : List Char}
    (hbody : ∃ c tail, body = c :: tail ∧ isGap c = false) (name : String)
    (found : List (Scalar × Value)) (fuel depth : Nat) (rest : List Char) :
    members d (fuel + 1) depth found
        (Text.Quoted.json name.toList ++ f.colon.toList ++ body ++ rest) =
      match value d fuel depth (body ++ rest) with
      | .error e => .error e
      | .ok (v, rest) =>
        behindMembers d fuel depth (Value.setMember found (.text name) v) rest := by
  obtain ⟨c, tail, rfl, hc⟩ := hbody
  have hname := length_le_flatMap_jsonChar name.toList
  simp only [hcolon, Text.Quoted.json, List.cons_append, List.append_assoc, List.nil_append,
    members]
  rw [text_json _ _ _ _ (by simp only [List.length_cons, List.length_append]; omega)]
  simp only [expect, skip_of_head (show isGap ':' = false from rfl), ↓reduceIte,
    skip_append hgap, skip_of_head hc, Scalar.ofCodes_toNat, String.ofList_toList]
  rfl

/-- The text of a member is read, and then what stands behind it decides. -/
theorem members_append {s : List Char} {m : Scalar × Value} (hs : ReadsMember f d height s m)
    {gap : List Char} (hcolon : f.colon.toList = ':' :: gap) (hgap : ∀ c ∈ gap, isGap c = true)
    (found : List (Scalar × Value)) {fuel depth : Nat} (hfuel : s.length ≤ fuel)
    (hdepth : height ≤ depth) {rest : List Char} (hrest : Ends rest) :
    members d (fuel + 1) depth found (s ++ rest) =
      behindMembers d fuel depth (Value.setMember found m.1 m.2) rest := by
  obtain ⟨_, v⟩ := m
  obtain ⟨name, body, rfl, rfl, hbody⟩ := hs
  obtain ⟨c, tail, hhead, hc, -⟩ := hbody.head
  simp only [List.length_append] at hfuel
  rw [members_name hcolon hgap ⟨c, tail, hhead, hc⟩,
    hbody.value_append fuel depth rest (by omega) hdepth hrest]

/-- The texts of members, joined, are read as the members. -/
theorem members_joined (hseparator : f.separator = ",") {between : List Char}
    (hcolon : f.colon.toList = ':' :: between) (hbetween : ∀ c ∈ between, isGap c = true)
    {texts : List (List Char)} {ms : List (Scalar × Value)}
    (h : List.Forall₂ (ReadsMember f d height) texts ms) (hne : texts ≠ []) (level : Nat)
    {gap : List Char} (hgap : ∀ c ∈ gap, isGap c = true) (rest : List Char)
    (found : List (Scalar × Value)) {fuel depth : Nat}
    (hfuel : (f.joined level texts).length < fuel) (hdepth : height ≤ depth) :
    members d fuel depth found (f.joined level texts ++ (gap ++ '\x7d' :: rest)) =
      .ok (Value.collected ms found, rest) := by
  induction h generalizing fuel found with
  | nil => exact absurd rfl hne
  | @cons s m texts ms hs htexts ih =>
    obtain ⟨fuel, rfl⟩ : ∃ n, fuel = n + 1 := ⟨fuel - 1, by omega⟩
    have hclose : Ends (gap ++ '\x7d' :: rest) := ends_of_gap hgap (ends_cons _ (by decide))
    cases htexts with
    | nil =>
      rw [Style.joined] at hfuel ⊢
      rw [members_append hs hcolon hbetween found (Nat.le_of_lt_succ hfuel) hdepth hclose,
        behindMembers, skip_append hgap, skip_of_head (show isGap '\x7d' = false from rfl)]
      rfl
    | @cons t n texts ms ht htexts =>
      rw [joined_cons_cons hseparator] at hfuel ⊢
      simp only [List.length_append, List.length_cons] at hfuel
      have hcomma : Ends (',' :: (f.lineBreak level ++ f.joined level (t :: texts)) ++
          (gap ++ '\x7d' :: rest)) := ends_cons _ (by decide)
      have hrest := @ih (by simp) (Value.setMember found m.1 m.2) fuel (by omega)
      obtain ⟨name, body, -, rfl, -⟩ := ht
      obtain ⟨more, hmore⟩ := exists_joined f level
        (Text.Quoted.json name.toList ++ f.colon.toList ++ body) texts
      rw [List.append_assoc, members_append hs hcolon hbetween found (by omega) hdepth hcomma,
        behindMembers]
      rw [hmore, Text.Quoted.json] at hrest ⊢
      simp only [List.cons_append, skip_of_head (show isGap ',' = false from rfl),
        List.append_assoc, skip_append (isGap_lineBreak f level),
        skip_of_head (show isGap '"' = false from rfl)] at hrest ⊢
      rw [hrest]
      rfl

/-! ## Containers -/

theorem value_list {rest text : List Char} (h : skip rest = text) (hhead : text.head? ≠ some ']')
    (fuel depth : Nat) :
    value d (fuel + 1) (depth + 1) ('[' :: rest) =
      (items d fuel depth text).map fun x => (.list x.1, x.2) := by
  have hopens : ¬ depth + 1 < levelsTaken d ']' rest := by
    rw [levelsTaken, h, if_neg hhead]
    omega
  rw [value]
  simp only [if_neg hopens, h]
  split
  · exact absurd rfl hhead
  · rfl

theorem value_object {rest text : List Char} (h : skip rest = text)
    (hhead : text.head? ≠ some '\x7d') (fuel depth : Nat) :
    value d (fuel + 1) (depth + 1) ('\x7b' :: rest) =
      (members d fuel depth [] text).map fun x => (.object x.1, x.2) := by
  have hopens : ¬ depth + 1 < levelsTaken d '\x7d' rest := by
    rw [levelsTaken, h, if_neg hhead]
    omega
  rw [value]
  simp only [if_neg hopens, h]
  split
  · exact absurd rfl hhead
  · rfl

theorem value_list_nil {depth : Nat} (h : d.bareLevels ≤ depth) (fuel : Nat) (rest : List Char) :
    value d (fuel + 1) depth ('[' :: ']' :: rest) = .ok (.list [], rest) := by
  rw [value]
  exact if_neg (Nat.not_lt.2 h)

theorem value_object_nil {depth : Nat} (h : d.bareLevels ≤ depth) (fuel : Nat)
    (rest : List Char) :
    value d (fuel + 1) depth ('\x7b' :: '\x7d' :: rest) = .ok (.object [], rest) := by
  rw [value]
  exact if_neg (Nat.not_lt.2 h)

/-- Joined texts in brackets, when the opening one has been read. -/
theorem skip_joined (level : Nat) {s : List Char} {c : Char} (hs : s.head? = some c)
    (hc : isGap c = false) (texts : List (List Char)) (rest : List Char) :
    skip (f.lineBreak (level + 1) ++ (f.joined (level + 1) (s :: texts) ++ rest)) =
        f.joined (level + 1) (s :: texts) ++ rest ∧
      (f.joined (level + 1) (s :: texts) ++ rest).head? = some c := by
  obtain ⟨more, hmore⟩ := exists_joined f (level + 1) s texts
  obtain ⟨tail, rfl⟩ := List.head?_eq_some_iff.1 hs
  rw [hmore, skip_append (isGap_lineBreak f _)]
  exact ⟨skip_of_head hc _, rfl⟩

theorem enclosed_append (opening closing : Char) (level : Nat) (s : List Char)
    (texts : List (List Char)) (rest : List Char) :
    f.enclosed opening closing level (s :: texts) ++ rest =
      opening :: (f.lineBreak (level + 1) ++ (f.joined (level + 1) (s :: texts) ++
        (f.lineBreak level ++ closing :: rest))) := by
  simp [Style.enclosed]

theorem length_joined_lt (opening closing : Char) (level : Nat) (s : List Char)
    (texts : List (List Char)) :
    (f.joined (level + 1) (s :: texts)).length + 1 <
      (f.enclosed opening closing level (s :: texts)).length := by
  simp only [Style.enclosed, List.isEmpty_cons, Bool.false_eq_true, ↓reduceIte, List.length_cons,
    List.length_append, List.length_nil]
  omega

/-- How many containers a reader opens for a container with some parts. -/
def containerLevels {α : Type} (d : Dialect) (height : Nat) (parts : List α) : Nat :=
  if parts.isEmpty then d.bareLevels else height + 1

/-- Items in brackets are read as a list. -/
theorem reads_list (hseparator : f.separator = ",") {texts : List (List Char)} {vs : List Value}
    (h : List.Forall₂ (Reads d height) texts vs) (level : Nat) :
    Reads d (containerLevels d height texts) (f.enclosed '[' ']' level texts) (.list vs) where
  head := by
    unfold Style.enclosed
    split
    · exact ⟨'[', [']'], rfl, by decide⟩
    · exact ⟨'[', _, rfl, by decide⟩
  value_append fuel depth rest hfuel hdepth hrest := by
    cases h with
    | nil =>
      have hfuel : 2 ≤ fuel := hfuel
      obtain ⟨fuel, rfl⟩ : ∃ n, fuel = n + 1 := ⟨fuel - 1, by omega⟩
      exact value_list_nil hdepth fuel rest
    | @cons s v texts vs hs htexts =>
      have hdepth : height + 1 ≤ depth := hdepth
      obtain ⟨depth, rfl⟩ : ∃ n, depth = n + 1 := ⟨depth - 1, by omega⟩
      have hlength := length_joined_lt (f := f) '[' ']' level s texts
      obtain ⟨fuel, rfl⟩ : ∃ n, fuel = n + 1 := ⟨fuel - 1, by omega⟩
      obtain ⟨c, tail, hhead, hc, hbracket, -⟩ := hs.head
      obtain ⟨hskip, hfirst⟩ := skip_joined (f := f) level (hhead ▸ rfl : s.head? = some c) hc texts
        (f.lineBreak level ++ ']' :: rest)
      rw [enclosed_append, value_list hskip (by simpa [hfirst] using hbracket),
        items_joined hseparator (.cons hs htexts) (by simp) (level + 1) (isGap_lineBreak f level)
          rest (by omega) (by omega)]
      rfl

/-- Members in braces are read as an object. -/
theorem reads_object (hseparator : f.separator = ",") {between : List Char}
    (hcolon : f.colon.toList = ':' :: between) (hbetween : ∀ c ∈ between, isGap c = true)
    {texts : List (List Char)} {ms : List (Scalar × Value)}
    (h : List.Forall₂ (ReadsMember f d height) texts ms) (level : Nat) :
    Reads d (containerLevels d height texts) (f.enclosed '\x7b' '\x7d' level texts)
      (.object (Value.collected ms [])) where
  head := by
    unfold Style.enclosed
    split
    · exact ⟨'\x7b', ['\x7d'], rfl, by decide⟩
    · exact ⟨'\x7b', _, rfl, by decide⟩
  value_append fuel depth rest hfuel hdepth hrest := by
    cases h with
    | nil =>
      have hfuel : 2 ≤ fuel := hfuel
      obtain ⟨fuel, rfl⟩ : ∃ n, fuel = n + 1 := ⟨fuel - 1, by omega⟩
      exact value_object_nil hdepth fuel rest
    | @cons s m texts ms hs htexts =>
      have hdepth : height + 1 ≤ depth := hdepth
      obtain ⟨depth, rfl⟩ : ∃ n, depth = n + 1 := ⟨depth - 1, by omega⟩
      have hlength := length_joined_lt (f := f) '\x7b' '\x7d' level s texts
      obtain ⟨fuel, rfl⟩ : ∃ n, fuel = n + 1 := ⟨fuel - 1, by omega⟩
      have hquote : s.head? = some '"' := by
        obtain ⟨name, body, -, rfl, -⟩ := hs
        rfl
      obtain ⟨hskip, hfirst⟩ := skip_joined (f := f) level hquote rfl texts
        (f.lineBreak level ++ '\x7d' :: rest)
      rw [enclosed_append, value_object hskip (by simp [hfirst]),
        members_joined hseparator hcolon hbetween (.cons hs htexts) (by simp) (level + 1)
          (isGap_lineBreak f level) rest [] (by omega) (by omega)]
      rfl

/-! ## Values -/

theorem reads_text (d : Dialect) (s : String) :
    Reads d 0 (Text.Quoted.json s.toList) (.text s) where
  head := ⟨'"', _, rfl, by decide⟩
  value_append fuel depth rest hfuel hdepth hrest := by
    have hlength := length_le_flatMap_jsonChar s.toList
    obtain ⟨fuel, rfl⟩ : ∃ n, fuel = n + 1 := ⟨fuel - 1, by
      simp only [Text.Quoted.json, List.length_cons] at hfuel
      omega⟩
    simp only [Text.Quoted.json, List.cons_append, List.append_assoc, List.nil_append, value]
    rw [text_json _ _ _ _ (by simp only [List.length_cons, List.length_append]; omega)]
    simp only [Except.map, Scalar.ofCodes_toNat, String.ofList_toList]

/-- What begins no text, list or object is a word or a number. -/
theorem value_eq_plain {c : Char} (h : c ≠ '"' ∧ c ≠ '[' ∧ c ≠ '\x7b') (fuel depth : Nat)
    (tail : List Char) : value d (fuel + 1) depth (c :: tail) =
      (plain d (c :: tail)).map fun x => (.scalar x.1, x.2) := by
  rw [value]
  all_goals simp_all

theorem reads_of_spells {cs : List Char} {s : Scalar} (h : Spells d cs s) :
    Reads d 0 cs (.scalar s) where
  head := by
    obtain ⟨c, tail, hcs, hgap, hbracket, hmark, -⟩ := h.head
    exact ⟨c, tail, hcs, hgap, hbracket, hmark⟩
  value_append fuel depth rest hfuel hdepth hrest := by
    obtain ⟨c, tail, rfl, -, -, -, hopens⟩ := h.head
    obtain ⟨fuel, rfl⟩ : ∃ n, fuel = n + 1 := ⟨fuel - 1, by
      simp only [List.length_cons] at hfuel
      omega⟩
    have hplain := h.plain_append rest hrest
    rw [List.cons_append] at hplain ⊢
    rw [value_eq_plain hopens, hplain]
    rfl

/-- A style whose texts are JSON for a reader: scalars of some kind stand for others, or are texts
in quotes, and names of some kind stand for texts. -/
structure Style.Restores (f : Style) (d : Dialect) (name scalar : Scalar → Bool)
    (nameBack : Scalar → String) (scalarBack : Scalar → Scalar) : Prop where
  /-- There are commas between items. -/
  separator : f.separator = ","
  /-- There is a colon behind a name. -/
  colon : ∃ gap, f.colon.toList = ':' :: gap ∧ ∀ c ∈ gap, isGap c = true
  /-- Names stand in quotes. -/
  quote : f.quote = Text.Quoted.json
  /-- Names stand for texts. -/
  label : ∀ s, name s = true → f.label s = .ok (nameBack s).toList
  /-- Scalars stand for scalars. -/
  scalar : ∀ s, scalar s = true → ∃ cs, f.scalar s = .ok cs ∧
    Reads d 0 cs (.scalar (scalarBack s))

namespace Style.Restores

variable {name scalar : Scalar → Bool} {nameBack : Scalar → String} {scalarBack : Scalar → Scalar}

mutual

/-- A value is written, and what is read is the value as it is restored. -/
theorem value (hf : f.Restores d name scalar nameBack scalarBack) (level : Nat) :
    ∀ v : Value, v.consists name scalar = true → level + v.height ≤ f.deepest →
      ∃ cs, f.writeAt level v = .ok cs ∧
        Reads d (v.levels d.bareLevels) cs (v.restored nameBack scalarBack)
  | .scalar s, h, _ => by
    rw [Value.consists] at h
    obtain ⟨cs, hcs, hreads⟩ := hf.scalar s h
    exact ⟨cs, by rw [writeAt, hcs], hreads⟩
  | .list xs, h, hdeep => by
    rw [Value.consists] at h
    rw [Value.height_list] at hdeep
    obtain ⟨texts, htexts, hreads⟩ := hf.items (level + 1) xs h (by omega)
    refine ⟨_, by rw [writeAt, enter_of_lt (by omega), htexts]; rfl, ?_⟩
    have hlist := reads_list hf.separator hreads level
    rw [Value.restored, Value.levels]
    cases xs with
    | nil =>
      cases hreads
      exact hlist
    | cons v vs =>
      cases hreads
      exact hlist
  | .object ms, h, hdeep => by
    rw [Value.consists] at h
    rw [Value.height_object] at hdeep
    obtain ⟨texts, htexts, hreads⟩ := hf.members (level + 1) ms h (by omega)
    obtain ⟨gap, hcolon, hgap⟩ := hf.colon
    refine ⟨_, by rw [writeAt, enter_of_lt (by omega), htexts]; rfl, ?_⟩
    have hobject := reads_object hf.separator hcolon hgap hreads level
    rw [Value.restored, Value.levels]
    cases ms with
    | nil =>
      cases hreads
      exact hobject
    | cons m ms =>
      cases hreads
      exact hobject
  | .set _, h, _ => by
    rw [Value.consists] at h
    cases h
  | .pair _ _, h, _ => by
    rw [Value.consists] at h
    cases h

theorem items (hf : f.Restores d name scalar nameBack scalarBack) (level : Nat) :
    ∀ xs : List Value, Value.itemsConsist name scalar xs = true →
      level + Value.itemsLevels 1 xs ≤ f.deepest →
      ∃ texts, f.writeItems level xs = .ok texts ∧
        List.Forall₂ (Reads d (Value.itemsLevels d.bareLevels xs)) texts
          (Value.itemsRestored nameBack scalarBack xs)
  | [], _, _ => ⟨[], by rw [writeItems], .nil⟩
  | v :: vs, h, hdeep => by
    rw [Value.itemsConsist, Bool.and_eq_true] at h
    rw [Value.itemsLevels_cons] at hdeep
    obtain ⟨cs, hcs, hv⟩ := hf.value level v h.1 (by omega)
    obtain ⟨texts, htexts, hvs⟩ := hf.items level vs h.2 (by omega)
    refine ⟨cs :: texts, by rw [writeItems, hcs, htexts]; rfl, ?_⟩
    rw [Value.itemsLevels, Value.itemsRestored]
    exact .cons (hv.mono (Nat.le_max_left _ _))
      (hvs.imp fun _ _ hw => hw.mono (Nat.le_max_right _ _))

theorem members (hf : f.Restores d name scalar nameBack scalarBack) (level : Nat) :
    ∀ ms : List (Scalar × Value), Value.membersConsist name scalar ms = true →
      level + Value.membersLevels 1 ms ≤ f.deepest →
      ∃ texts, f.writeMembers level ms = .ok texts ∧
        List.Forall₂ (ReadsMember f d (Value.membersLevels d.bareLevels ms)) texts
          (Value.membersRestored nameBack scalarBack ms)
  | [], _, _ => ⟨[], by rw [writeMembers], .nil⟩
  | (n, v) :: ms, h, hdeep => by
    rw [Value.membersConsist, Bool.and_eq_true, Bool.and_eq_true] at h
    rw [Value.membersLevels_cons] at hdeep
    obtain ⟨body, hbody, hv⟩ := hf.value level v h.1.2 (by omega)
    obtain ⟨texts, htexts, hms⟩ := hf.members level ms h.2 (by omega)
    refine ⟨(f.quote (nameBack n).toList ++ f.colon.toList ++ body) :: texts, ?_, ?_⟩
    · rw [writeMembers, hf.label n h.1.1]
      simp only [bind, Except.bind, hbody, htexts]
      rfl
    · rw [Value.membersLevels, Value.membersRestored, hf.quote]
      refine .cons ⟨nameBack n, body, rfl, rfl, hv.mono (Nat.le_max_left _ _)⟩ (hms.imp ?_)
      rintro _ _ ⟨name', body', hname, htext, hw⟩
      exact ⟨name', body', hname, htext, hw.mono (Nat.le_max_right _ _)⟩

end

/-- **What was written is read back**, if there are not too many containers inside each other. -/
theorem read_write (hf : f.Restores d name scalar nameBack scalarBack) {v : Value}
    (h : v.consists name scalar = true) (hdeep : v.height ≤ f.deepest)
    (hlevels : v.levels d.bareLevels ≤ d.maxDepth) :
    ∃ cs, f.write v = .ok cs ∧ d.read cs = .ok (v.restored nameBack scalarBack) := by
  obtain ⟨cs, hcs, hreads⟩ := hf.value 0 v h (by omega)
  refine ⟨cs, hcs, ?_⟩
  obtain ⟨c, tail, rfl, hc, -, hmark⟩ := hreads.head
  have hvalue := hreads.value_append ((c :: tail).length + 1) d.maxDepth [] (by omega) hlevels
    ends_nil
  rw [List.append_nil] at hvalue
  unfold Dialect.read
  split
  · rename_i heq
    exact absurd (List.cons.inj heq).1 hmark
  · rw [skip_of_head hc, hvalue]
    rfl

end Style.Restores

end Json

/-! ## Values that are restored as they are -/

namespace Value

mutual

/-- Whether no object in a value has a name twice. -/
def unambiguous : Value → Bool
  | .scalar _ => true
  | .list xs => itemsUnambiguous xs
  | .object ms => decide ((ms.map (·.1)).Nodup) && membersUnambiguous ms
  | .set _ => true
  | .pair v w => unambiguous v && unambiguous w

/-- Whether no object in some items has a name twice. -/
def itemsUnambiguous : List Value → Bool
  | [] => true
  | v :: vs => unambiguous v && itemsUnambiguous vs

/-- Whether no object in some members has a name twice. -/
def membersUnambiguous : List (Scalar × Value) → Bool
  | [] => true
  | (_, v) :: ms => unambiguous v && membersUnambiguous ms

end

theorem unambiguous_wrapped (v : Value) (n : Nat) :
    (v.wrapped n).unambiguous = v.unambiguous := by
  induction n with
  | zero => rfl
  | succ n ih => rw [wrapped, unambiguous, itemsUnambiguous, itemsUnambiguous, ih, Bool.and_true]

theorem sameName_iff_of_isText {m n : Scalar} (hn : n.isText = true) :
    m.sameName n = true ↔ m = n := by
  cases n <;> cases hn
  exact Scalar.sameName_text_iff

/-- Members with different texts as names are collected as they are. -/
theorem collected_eq_append {ms found : List (Scalar × Value)}
    (htext : ∀ m ∈ found ++ ms, m.1.isText = true) (hnodup : ((found ++ ms).map (·.1)).Nodup) :
    collected ms found = found ++ ms := by
  induction ms generalizing found with
  | nil => rw [collected, List.foldl_nil, List.append_nil]
  | cons m ms ih =>
    have hset : setMember found m.1 m.2 = found ++ [m] := by
      rw [setMember, if_neg]
      rintro hany
      obtain ⟨x, hx, hsame⟩ := List.any_eq_true.1 hany
      rw [List.map_append, List.nodup_append] at hnodup
      refine hnodup.2.2 x.1 (List.mem_map_of_mem hx) m.1 (by simp) ?_
      exact (sameName_iff_of_isText (htext m (by simp))).1 hsame
    rw [collected, List.foldl_cons, hset, ← collected, ih, List.append_assoc, List.singleton_append]
    all_goals rwa [List.append_assoc, List.singleton_append]

section Restored

variable {name scalar : Scalar → Bool} {nameBack : Scalar → String} {scalarBack : Scalar → Scalar}

mutual

/-- **A value is restored as it was** if its names and scalars stand for themselves. -/
theorem restored_eq_self (hname : ∀ s, name s = true → .text (nameBack s) = s)
    (hscalar : ∀ s, scalar s = true → scalarBack s = s) :
    ∀ v : Value, v.consists name scalar = true → v.unambiguous = true →
      v.restored nameBack scalarBack = v
  | .scalar s, h, _ => by
    rw [consists] at h
    rw [restored, hscalar s h]
  | .list xs, h, hu => by
    rw [consists] at h
    rw [unambiguous] at hu
    rw [restored, itemsRestored_eq_self hname hscalar xs h hu]
  | .object ms, h, hu => by
    rw [consists] at h
    rw [unambiguous, Bool.and_eq_true, decide_eq_true_eq] at hu
    have htext : ∀ m ∈ ms, m.1.isText = true := fun m hm => by
      rw [← hname m.1 (membersConsist_iff.1 h m hm).1]
      rfl
    rw [restored, membersRestored_eq_self hname hscalar ms h hu.2,
      collected_eq_append (by simpa using htext) (by simpa using hu.1), List.nil_append]
  | .set _, h, _ => by
    rw [consists] at h
    cases h
  | .pair _ _, h, _ => by
    rw [consists] at h
    cases h

theorem itemsRestored_eq_self (hname : ∀ s, name s = true → .text (nameBack s) = s)
    (hscalar : ∀ s, scalar s = true → scalarBack s = s) :
    ∀ xs : List Value, itemsConsist name scalar xs = true → itemsUnambiguous xs = true →
      itemsRestored nameBack scalarBack xs = xs
  | [], _, _ => by rw [itemsRestored]
  | v :: vs, h, hu => by
    rw [itemsConsist, Bool.and_eq_true] at h
    rw [itemsUnambiguous, Bool.and_eq_true] at hu
    rw [itemsRestored, restored_eq_self hname hscalar v h.1 hu.1,
      itemsRestored_eq_self hname hscalar vs h.2 hu.2]

theorem membersRestored_eq_self (hname : ∀ s, name s = true → .text (nameBack s) = s)
    (hscalar : ∀ s, scalar s = true → scalarBack s = s) :
    ∀ ms : List (Scalar × Value), membersConsist name scalar ms = true →
      membersUnambiguous ms = true → membersRestored nameBack scalarBack ms = ms
  | [], _, _ => by rw [membersRestored]
  | (n, v) :: ms, h, hu => by
    rw [membersConsist, Bool.and_eq_true, Bool.and_eq_true] at h
    rw [membersUnambiguous, Bool.and_eq_true] at hu
    rw [membersRestored, hname n h.1.1, restored_eq_self hname hscalar v h.1.2 hu.1,
      membersRestored_eq_self hname hscalar ms h.2 hu.2]

end

end Restored

/-! ## Parts of values -/

variable {name scalar : Scalar → Bool}

theorem itemsConsist_iff {vs : List Value} :
    itemsConsist name scalar vs = true ↔ ∀ v ∈ vs, v.consists name scalar = true := by
  induction vs with
  | nil => simp [itemsConsist]
  | cons v vs ih => simp [itemsConsist, ih]

theorem itemsLevels_le_iff {bare : Nat} {vs : List Value} {n : Nat} :
    itemsLevels bare vs ≤ n ↔ ∀ v ∈ vs, v.levels bare ≤ n := by
  induction vs with
  | nil => simp [itemsLevels]
  | cons v vs ih => rw [itemsLevels, Nat.max_le, ih, List.forall_mem_cons]

theorem membersLevels_le_iff {bare : Nat} {ms : List (Scalar × Value)} {n : Nat} :
    membersLevels bare ms ≤ n ↔ ∀ m ∈ ms, m.2.levels bare ≤ n := by
  induction ms with
  | nil => simp [membersLevels]
  | cons m ms ih => rw [membersLevels, Nat.max_le, ih, List.forall_mem_cons]

end Value

end MessageRouting
