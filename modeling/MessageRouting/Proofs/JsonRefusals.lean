import MessageRouting.Proofs.JsonRoundTrip

/-!
# What readers of JSON refuse

A reader opens only so many containers inside each other, and the text of a scalar can be one that
it does not read. What it can read of a style (`Value.Readable`) it gives back as it is restored;
the text of any other value that can be written it refuses as a whole, wherever in it the bad part
stands (`Style.Restores.read_write_iff`).
-/

namespace MessageRouting

open Json

namespace Value

/-- A value with names and scalars of some kind, and only so many containers inside each other,
where an empty one counts `bare`. -/
def Readable (name scalar : Scalar → Bool) (bare depth : Nat) (v : Value) : Prop :=
  v.consists name scalar = true ∧ v.levels bare ≤ depth

variable {name scalar : Scalar → Bool} {bare depth : Nat}

instance (v : Value) : Decidable (v.Readable name scalar bare depth) :=
  inferInstanceAs (Decidable (_ ∧ _))

theorem readable_scalar {s : Scalar} :
    (Value.scalar s).Readable name scalar bare depth ↔ scalar s = true := by
  simp [Readable, consists, levels]

theorem readable_list (hbare : bare ≤ 1) {xs : List Value} :
    (Value.list xs).Readable name scalar bare (depth + 1) ↔
      ∀ v ∈ xs, v.Readable name scalar bare depth := by
  have hlevels : (Value.list xs).levels bare ≤ depth + 1 ↔ itemsLevels bare xs ≤ depth := by
    cases xs with
    | nil => simp [levels, itemsLevels, Nat.le_trans hbare]
    | cons v vs => simp [levels]
  rw [Readable, consists, hlevels, itemsConsist_iff, itemsLevels_le_iff]
  exact ⟨fun h v hv => ⟨h.1 v hv, h.2 v hv⟩,
    fun h => ⟨fun v hv => (h v hv).1, fun v hv => (h v hv).2⟩⟩

theorem readable_object (hbare : bare ≤ 1) {ms : List (Scalar × Value)} :
    (Value.object ms).Readable name scalar bare (depth + 1) ↔
      ∀ m ∈ ms, name m.1 = true ∧ m.2.Readable name scalar bare depth := by
  have hlevels : (Value.object ms).levels bare ≤ depth + 1 ↔ membersLevels bare ms ≤ depth := by
    cases ms with
    | nil => simp [levels, membersLevels, Nat.le_trans hbare]
    | cons m ms => simp [levels]
  rw [Readable, consists, hlevels, membersConsist_iff, membersLevels_le_iff]
  exact ⟨fun h m hm => ⟨(h.1 m hm).1, (h.1 m hm).2, h.2 m hm⟩,
    fun h => ⟨fun m hm => ⟨(h m hm).1, (h m hm).2.1⟩, fun m hm => (h m hm).2.2⟩⟩

end Value

namespace Json

open Reader

/-- A text that is refused wherever it stands, by a reader that opens only so many containers. -/
structure Refuses (d : Dialect) (depth : Nat) (cs : List Char) : Prop where
  /-- It does not begin with a gap, the end of a list or a byte order mark. -/
  head : ∃ c tail, cs = c :: tail ∧ isGap c = false ∧ c ≠ ']' ∧ c ≠ '\uFEFF'
  /-- It is refused. -/
  value_append : ∀ fuel rest, cs.length ≤ fuel → Ends rest →
    ∃ e, value d fuel depth (cs ++ rest) = .error e

/-- A text that is read as some value, or refused. -/
def Tells (d : Dialect) (depth : Nat) (cs : List Char) : Prop :=
  (∃ v, Reads d depth cs v) ∨ Refuses d depth cs

/-- A name, and a text that is read as some value or refused. -/
def TellsMember (f : Style) (d : Dialect) (depth : Nat) (cs : List Char) : Prop :=
  ∃ (name : String) (body : List Char),
    cs = Text.Quoted.json name.toList ++ f.colon.toList ++ body ∧ Tells d depth body

/-- A name, and a text that is refused. -/
def RefusesMember (f : Style) (d : Dialect) (depth : Nat) (cs : List Char) : Prop :=
  ∃ (name : String) (body : List Char),
    cs = Text.Quoted.json name.toList ++ f.colon.toList ++ body ∧ Refuses d depth body

variable {f : Style} {d : Dialect} {depth : Nat}

theorem Tells.head {cs : List Char} (h : Tells d depth cs) :
    ∃ c tail, cs = c :: tail ∧ isGap c = false ∧ c ≠ ']' ∧ c ≠ '\uFEFF' := by
  rcases h with ⟨v, hv⟩ | h
  · exact hv.head
  · exact h.head

/-- An integer that the reader does not take is refused. -/
theorem refuses_integer (depth : Nat) {n : Int} (h : ¬ Takes d n) :
    Refuses d depth (Decimal.integer n) := by
  obtain ⟨_, _, hd, hinteger⟩ := exists_integer n
  obtain ⟨c, tail, hcs, hgap, hbracket, hmark, hopens⟩ := head_of_isDigit hd hinteger
  refine ⟨⟨c, tail, hcs, hgap, hbracket, hmark⟩, fun fuel rest _ hrest => ?_⟩
  cases fuel with
  | zero => exact ⟨_, by rw [value]; rfl⟩
  | succ fuel =>
    have hbegins := hinteger.imp (congrArg (· ++ rest)) (congrArg (· ++ rest))
    obtain ⟨e, he⟩ := exists_number_error h hrest
    rw [← plain_eq_number hd hbegins, hcs, List.cons_append] at he
    exact ⟨e, by rw [hcs, List.cons_append, value_eq_plain hopens, he]; rfl⟩

/-! ## Containers -/

/-- What stands behind the first of joined texts does not go on with it. -/
theorem exists_behind_joined (hseparator : f.separator = ",") (level : Nat) (s : List Char)
    (texts : List (List Char)) {rest : List Char} (hrest : Ends rest) :
    ∃ more, f.joined level (s :: texts) ++ rest = s ++ more ∧ Ends more := by
  cases texts with
  | nil => exact ⟨rest, by rw [Style.joined], hrest⟩
  | cons t texts =>
    rw [joined_cons_cons hseparator, List.append_assoc]
    exact ⟨_, rfl, ends_cons _ (by decide)⟩

/-- Joined texts of items are refused if one of them is. -/
theorem items_refused (hseparator : f.separator = ",") {texts : List (List Char)}
    (h : ∀ s ∈ texts, Tells d depth s) (hbad : ∃ s ∈ texts, Refuses d depth s) (level : Nat)
    {gap : List Char} (hgap : ∀ c ∈ gap, isGap c = true) (rest : List Char) {fuel : Nat}
    (hfuel : (f.joined level texts).length < fuel) :
    ∃ e, items d fuel depth (f.joined level texts ++ (gap ++ ']' :: rest)) = .error e := by
  induction texts generalizing fuel with
  | nil => simp at hbad
  | cons s texts ih =>
    obtain ⟨fuel, rfl⟩ : ∃ n, fuel = n + 1 := ⟨fuel - 1, by omega⟩
    have hclose : Ends (gap ++ ']' :: rest) := ends_of_gap hgap (ends_cons _ (by decide))
    have hlength : s.length ≤ fuel := by
      obtain ⟨more, hmore⟩ := exists_joined f level s texts
      rw [hmore, List.length_append] at hfuel
      omega
    have hrefused : Refuses d depth s →
        ∃ e, items d (fuel + 1) depth (f.joined level (s :: texts) ++ (gap ++ ']' :: rest)) =
          .error e := fun hs => by
      obtain ⟨more, hmore, hends⟩ := exists_behind_joined hseparator level s texts hclose
      obtain ⟨e, he⟩ := hs.value_append fuel more hlength hends
      exact ⟨e, by rw [hmore, items, he]⟩
    rcases h s List.mem_cons_self with ⟨v, hv⟩ | hs
    · -- the first text is read, so a later one is refused
      rcases (List.exists_mem_cons_iff ..).1 hbad with hs | hbad
      · exact hrefused hs
      cases texts with
      | nil => simp at hbad
      | cons t texts =>
        rw [joined_cons_cons hseparator] at hfuel ⊢
        simp only [List.length_append, List.length_cons] at hfuel
        obtain ⟨e, he⟩ := @ih (fun u hu => h u (List.mem_cons_of_mem _ hu)) hbad fuel (by omega)
        have hcomma : Ends (',' :: (f.lineBreak level ++ f.joined level (t :: texts)) ++
            (gap ++ ']' :: rest)) := ends_cons _ (by decide)
        have hvalue := hv.value_append fuel depth _ hlength (Nat.le_refl depth) hcomma
        obtain ⟨c, tail, rfl, hc, -⟩ := (h t (by simp)).head
        obtain ⟨more, hmore⟩ := exists_joined f level (c :: tail) texts
        refine ⟨e, ?_⟩
        rw [hmore] at hvalue he ⊢
        rw [List.append_assoc, items, hvalue]
        simp only [List.cons_append, skip_of_head (show isGap ',' = false from rfl),
          List.append_assoc, skip_append (isGap_lineBreak f level), skip_of_head hc] at he ⊢
        rw [he]
        rfl
    · exact hrefused hs

/-- Joined texts of members are refused if one of them is. -/
theorem members_refused (hseparator : f.separator = ",") {between : List Char}
    (hcolon : f.colon.toList = ':' :: between) (hbetween : ∀ c ∈ between, isGap c = true)
    {texts : List (List Char)} (h : ∀ s ∈ texts, TellsMember f d depth s)
    (hbad : ∃ s ∈ texts, RefusesMember f d depth s) (level : Nat) {gap : List Char}
    (hgap : ∀ c ∈ gap, isGap c = true) (rest : List Char) (found : List (Scalar × Value))
    {fuel : Nat} (hfuel : (f.joined level texts).length < fuel) :
    ∃ e, members d fuel depth found (f.joined level texts ++ (gap ++ '\x7d' :: rest)) =
      .error e := by
  induction texts generalizing fuel found with
  | nil => simp at hbad
  | cons s texts ih =>
    obtain ⟨fuel, rfl⟩ : ∃ n, fuel = n + 1 := ⟨fuel - 1, by omega⟩
    have hclose : Ends (gap ++ '\x7d' :: rest) := ends_of_gap hgap (ends_cons _ (by decide))
    have hlength : s.length ≤ fuel := by
      obtain ⟨more, hmore⟩ := exists_joined f level s texts
      rw [hmore, List.length_append] at hfuel
      omega
    have hrefused : RefusesMember f d depth s →
        ∃ e, members d (fuel + 1) depth found
          (f.joined level (s :: texts) ++ (gap ++ '\x7d' :: rest)) = .error e := by
      rintro ⟨name, body, hs, hbody⟩
      obtain ⟨more, hmore, hends⟩ := exists_behind_joined hseparator level s texts hclose
      obtain ⟨c, tail, hhead, hc, -⟩ := hbody.head
      rw [hs] at hlength
      simp only [List.length_append] at hlength
      obtain ⟨e, he⟩ := hbody.value_append fuel more (by omega) hends
      exact ⟨e, by rw [hmore, hs, members_name hcolon hbetween ⟨c, tail, hhead, hc⟩, he]⟩
    obtain ⟨name, body, hs, hbody⟩ := h s List.mem_cons_self
    rcases hbody with ⟨v, hv⟩ | hbody
    · rcases (List.exists_mem_cons_iff ..).1 hbad with hs | hbad
      · exact hrefused hs
      cases texts with
      | nil => simp at hbad
      | cons t texts =>
        rw [joined_cons_cons hseparator] at hfuel ⊢
        simp only [List.length_append, List.length_cons] at hfuel
        have hcomma : Ends (',' :: (f.lineBreak level ++ f.joined level (t :: texts)) ++
            (gap ++ '\x7d' :: rest)) := ends_cons _ (by decide)
        obtain ⟨e, he⟩ := @ih (fun u hu => h u (List.mem_cons_of_mem _ hu)) hbad
          (Value.setMember found (.text name) v) fuel (by omega)
        obtain ⟨name', body', rfl, -⟩ := h t (by simp)
        obtain ⟨more, hmore⟩ := exists_joined f level
          (Text.Quoted.json name'.toList ++ f.colon.toList ++ body') texts
        have hmember : ReadsMember f d depth s (.text name, v) := ⟨name, body, rfl, hs, hv⟩
        refine ⟨e, ?_⟩
        rw [List.append_assoc, members_append hmember hcolon hbetween found hlength
          (Nat.le_refl depth) hcomma, behindMembers]
        rw [hmore, Text.Quoted.json] at he ⊢
        simp only [List.cons_append, skip_of_head (show isGap ',' = false from rfl),
          List.append_assoc, skip_append (isGap_lineBreak f level),
          skip_of_head (show isGap '"' = false from rfl)] at he ⊢
        rw [he]
    · exact hrefused ⟨name, body, hs, hbody⟩

theorem head_enclosed {opening closing : Char} (h : isGap opening = false ∧ opening ≠ ']' ∧
    opening ≠ '\uFEFF') (level : Nat) (texts : List (List Char)) :
    ∃ c tail, f.enclosed opening closing level texts = c :: tail ∧ isGap c = false ∧ c ≠ ']' ∧
      c ≠ '\uFEFF' := by
  unfold Style.enclosed
  split
  · exact ⟨opening, [closing], rfl, h⟩
  · exact ⟨opening, _, rfl, h⟩

/-- Where no container can be opened, each is refused for which one would have to be. -/
theorem refuses_enclosed_zero {opening closing : Char}
    (h : opening = '[' ∧ closing = ']' ∨ opening = '\x7b' ∧ closing = '\x7d') (level : Nat)
    {texts : List (List Char)}
    (htexts : ∀ s ∈ texts, ∃ c tail, s = c :: tail ∧ isGap c = false ∧ c ≠ closing)
    (hlevels : texts = [] → 0 < d.bareLevels) :
    Refuses d 0 (f.enclosed opening closing level texts) where
  head := head_enclosed (by rcases h with ⟨rfl, -⟩ | ⟨rfl, -⟩ <;> decide) level texts
  value_append fuel rest _ _ := by
    obtain ⟨tail, htail, hopens⟩ : ∃ tail,
        f.enclosed opening closing level texts ++ rest = opening :: tail ∧
          0 < levelsTaken d closing tail := by
      cases texts with
      | nil =>
        refine ⟨closing :: rest, rfl, ?_⟩
        have hgap : isGap closing = false := by rcases h with ⟨-, rfl⟩ | ⟨-, rfl⟩ <;> rfl
        rw [levelsTaken, skip_of_head hgap, List.head?_cons, if_pos rfl]
        exact hlevels rfl
      | cons s texts =>
        obtain ⟨c, tail, hhead, hc, hclosing⟩ := htexts s List.mem_cons_self
        refine ⟨_, enclosed_append opening closing level s texts rest, ?_⟩
        obtain ⟨hskip, hfirst⟩ := skip_joined (f := f) level (hhead ▸ rfl : s.head? = some c) hc
          texts (f.lineBreak level ++ closing :: rest)
        rw [levelsTaken, hskip, hfirst, if_neg (by simpa using hclosing)]
        exact Nat.one_pos
    rw [htail]
    cases fuel with
    | zero => exact ⟨_, by rw [value]; rfl⟩
    | succ fuel =>
      rcases h with ⟨rfl, rfl⟩ | ⟨rfl, rfl⟩
      · exact ⟨_, by rw [value, if_pos hopens]; rfl⟩
      · exact ⟨_, by rw [value, if_pos hopens]; rfl⟩

/-- A list is refused if one of its items is. -/
theorem refuses_list (hseparator : f.separator = ",") {texts : List (List Char)}
    (h : ∀ s ∈ texts, Tells d depth s) (hbad : ∃ s ∈ texts, Refuses d depth s) (level : Nat) :
    Refuses d (depth + 1) (f.enclosed '[' ']' level texts) where
  head := head_enclosed (by decide) level texts
  value_append fuel rest hfuel hrest := by
    cases texts with
    | nil => simp at hbad
    | cons s texts =>
      have hlength := length_joined_lt (f := f) '[' ']' level s texts
      obtain ⟨fuel, rfl⟩ : ∃ n, fuel = n + 1 := ⟨fuel - 1, by omega⟩
      obtain ⟨c, tail, hhead, hc, hbracket, -⟩ := (h s List.mem_cons_self).head
      obtain ⟨hskip, hfirst⟩ := skip_joined (f := f) level (hhead ▸ rfl : s.head? = some c) hc texts
        (f.lineBreak level ++ ']' :: rest)
      obtain ⟨e, he⟩ := items_refused hseparator h hbad (level + 1) (isGap_lineBreak f level) rest
        (show _ < fuel by omega)
      refine ⟨e, ?_⟩
      rw [enclosed_append, value_list hskip (by simpa [hfirst] using hbracket), he]
      rfl

/-- An object is refused if one of its members is. -/
theorem refuses_object (hseparator : f.separator = ",") {between : List Char}
    (hcolon : f.colon.toList = ':' :: between) (hbetween : ∀ c ∈ between, isGap c = true)
    {texts : List (List Char)} (h : ∀ s ∈ texts, TellsMember f d depth s)
    (hbad : ∃ s ∈ texts, RefusesMember f d depth s) (level : Nat) :
    Refuses d (depth + 1) (f.enclosed '\x7b' '\x7d' level texts) where
  head := head_enclosed (by decide) level texts
  value_append fuel rest hfuel hrest := by
    cases texts with
    | nil => simp at hbad
    | cons s texts =>
      have hlength := length_joined_lt (f := f) '\x7b' '\x7d' level s texts
      obtain ⟨fuel, rfl⟩ : ∃ n, fuel = n + 1 := ⟨fuel - 1, by omega⟩
      have hquote : s.head? = some '"' := by
        obtain ⟨name, body, rfl, -⟩ := h s List.mem_cons_self
        rfl
      obtain ⟨hskip, hfirst⟩ := skip_joined (f := f) level hquote rfl texts
        (f.lineBreak level ++ '\x7d' :: rest)
      obtain ⟨e, he⟩ := members_refused hseparator hcolon hbetween h hbad (level + 1)
        (isGap_lineBreak f level) rest [] (show _ < fuel by omega)
      refine ⟨e, ?_⟩
      rw [enclosed_append, value_object hskip (by simp [hfirst]), he]
      rfl

/-! ## Values -/

namespace Style

/-- A style that writes all other scalars of some kind so that a reader refuses them. -/
def RefusesOther (f : Style) (d : Dialect) (written scalar : Scalar → Bool) : Prop :=
  ∀ s, written s = true → scalar s = false → ∃ cs, f.scalar s = .ok cs ∧ ∀ depth, Refuses d depth cs

namespace Restores

variable {name written scalar : Scalar → Bool} {nameBack : Scalar → String}
  {scalarBack : Scalar → Scalar}

mutual

/-- A value is written, and its text is read if it can be, or else refused. -/
theorem told (hf : f.Restores d name scalar nameBack scalarBack)
    (hother : f.RefusesOther d written scalar) (hbare : d.bareLevels ≤ 1) (level depth : Nat) :
    ∀ v : Value, v.consists name written = true → level + v.height ≤ f.deepest →
      ∃ cs, f.writeAt level v = .ok cs ∧
        (v.Readable name scalar d.bareLevels depth ∧
            Reads d depth cs (v.restored nameBack scalarBack) ∨
          ¬ v.Readable name scalar d.bareLevels depth ∧ Refuses d depth cs)
  | .scalar s, h, _ => by
    rw [Value.consists] at h
    cases hs : scalar s with
    | true =>
      obtain ⟨cs, hcs, hreads⟩ := hf.scalar s hs
      refine ⟨cs, by rw [writeAt, hcs], .inl ⟨Value.readable_scalar.2 hs, ?_⟩⟩
      rw [Value.restored]
      exact hreads.mono (Nat.zero_le depth)
    | false =>
      obtain ⟨cs, hcs, hrefuses⟩ := hother s h hs
      exact ⟨cs, by rw [writeAt, hcs], .inr ⟨by simp [Value.readable_scalar, hs], hrefuses depth⟩⟩
  | .list xs, h, hdeep => by
    by_cases hv : (Value.list xs).Readable name scalar d.bareLevels depth
    · obtain ⟨cs, hcs, hreads⟩ := hf.value level _ hv.1 hdeep
      exact ⟨cs, hcs, .inl ⟨hv, hreads.mono hv.2⟩⟩
    · rw [Value.consists] at h
      rw [Value.height_list] at hdeep
      obtain ⟨texts, htexts, hlength, hall, hsome⟩ :=
        hf.itemsTold hother hbare (level + 1) (depth - 1) xs h (by omega)
      refine ⟨_, by rw [writeAt, enter_of_lt (by omega), htexts]; rfl, .inr ⟨hv, ?_⟩⟩
      cases depth with
      | zero =>
        refine refuses_enclosed_zero (.inl ⟨rfl, rfl⟩) level (fun s hs => ?_) fun hnil => ?_
        · obtain ⟨c, tail, hcs, hgap, hbracket, -⟩ := (hall s hs).head
          exact ⟨c, tail, hcs, hgap, hbracket⟩
        · obtain rfl : xs = [] := List.eq_nil_of_length_eq_zero (by rw [← hlength, hnil]; rfl)
          refine Nat.pos_of_ne_zero fun hzero => hv ⟨rfl, ?_⟩
          rw [hzero]
          exact Nat.le_refl 0
      | succ depth =>
        rw [Value.readable_list hbare] at hv
        exact refuses_list hf.separator hall (hsome hv) level
  | .object ms, h, hdeep => by
    by_cases hv : (Value.object ms).Readable name scalar d.bareLevels depth
    · obtain ⟨cs, hcs, hreads⟩ := hf.value level _ hv.1 hdeep
      exact ⟨cs, hcs, .inl ⟨hv, hreads.mono hv.2⟩⟩
    · rw [Value.consists] at h
      rw [Value.height_object] at hdeep
      obtain ⟨texts, htexts, hlength, hall, hsome⟩ :=
        hf.membersTold hother hbare (level + 1) (depth - 1) ms h (by omega)
      obtain ⟨gap, hcolon, hgap⟩ := hf.colon
      refine ⟨_, by rw [writeAt, enter_of_lt (by omega), htexts]; rfl, .inr ⟨hv, ?_⟩⟩
      cases depth with
      | zero =>
        refine refuses_enclosed_zero (.inr ⟨rfl, rfl⟩) level (fun s hs => ?_) fun hnil => ?_
        · obtain ⟨name, body, rfl, -⟩ := hall s hs
          exact ⟨'"', _, rfl, by decide⟩
        · obtain rfl : ms = [] := List.eq_nil_of_length_eq_zero (by rw [← hlength, hnil]; rfl)
          refine Nat.pos_of_ne_zero fun hzero => hv ⟨rfl, ?_⟩
          rw [hzero]
          exact Nat.le_refl 0
      | succ depth =>
        rw [Value.readable_object hbare] at hv
        refine refuses_object hf.separator hcolon hgap hall
          (hsome fun hms => hv fun m hm => ?_) level
        exact ⟨(Value.membersConsist_iff.1 h m hm).1, hms m hm⟩

theorem itemsTold (hf : f.Restores d name scalar nameBack scalarBack)
    (hother : f.RefusesOther d written scalar) (hbare : d.bareLevels ≤ 1) (level depth : Nat) :
    ∀ xs : List Value, Value.itemsConsist name written xs = true →
      level + Value.itemsLevels 1 xs ≤ f.deepest →
      ∃ texts, f.writeItems level xs = .ok texts ∧ texts.length = xs.length ∧
        (∀ s ∈ texts, Tells d depth s) ∧
        ((¬ ∀ v ∈ xs, v.Readable name scalar d.bareLevels depth) →
          ∃ s ∈ texts, Refuses d depth s)
  | [], _, _ => ⟨[], by rw [writeItems], rfl, by simp, by simp⟩
  | v :: vs, h, hdeep => by
    rw [Value.itemsConsist, Bool.and_eq_true] at h
    rw [Value.itemsLevels_cons] at hdeep
    obtain ⟨cs, hcs, hv⟩ := hf.told hother hbare level depth v h.1 (by omega)
    obtain ⟨texts, htexts, hlength, hall, hsome⟩ :=
      hf.itemsTold hother hbare level depth vs h.2 (by omega)
    refine ⟨cs :: texts, by rw [writeItems, hcs, htexts]; rfl, by simp [hlength], ?_,
      fun hbad => ?_⟩
    · exact List.forall_mem_cons.2 ⟨hv.imp (fun h => ⟨_, h.2⟩) (·.2), hall⟩
    · rcases hv with hv | hv
      · have hrest := hsome fun hvs => hbad (List.forall_mem_cons.2 ⟨hv.1, hvs⟩)
        exact (List.exists_mem_cons_iff ..).2 (.inr hrest)
      · exact ⟨cs, List.mem_cons_self, hv.2⟩

theorem membersTold (hf : f.Restores d name scalar nameBack scalarBack)
    (hother : f.RefusesOther d written scalar) (hbare : d.bareLevels ≤ 1) (level depth : Nat) :
    ∀ ms : List (Scalar × Value), Value.membersConsist name written ms = true →
      level + Value.membersLevels 1 ms ≤ f.deepest →
      ∃ texts, f.writeMembers level ms = .ok texts ∧ texts.length = ms.length ∧
        (∀ s ∈ texts, TellsMember f d depth s) ∧
        ((¬ ∀ m ∈ ms, m.2.Readable name scalar d.bareLevels depth) →
          ∃ s ∈ texts, RefusesMember f d depth s)
  | [], _, _ => ⟨[], by rw [writeMembers], rfl, by simp, by simp⟩
  | (n, v) :: ms, h, hdeep => by
    rw [Value.membersConsist, Bool.and_eq_true, Bool.and_eq_true] at h
    rw [Value.membersLevels_cons] at hdeep
    obtain ⟨body, hbody, hv⟩ := hf.told hother hbare level depth v h.1.2 (by omega)
    obtain ⟨texts, htexts, hlength, hall, hsome⟩ :=
      hf.membersTold hother hbare level depth ms h.2 (by omega)
    refine ⟨(f.quote (nameBack n).toList ++ f.colon.toList ++ body) :: texts, ?_,
      by simp [hlength], ?_, fun hbad => ?_⟩
    · rw [writeMembers, hf.label n h.1.1]
      simp only [bind, Except.bind, hbody, htexts]
      rfl
    · rw [hf.quote]
      exact List.forall_mem_cons.2 ⟨⟨_, body, rfl, hv.imp (fun h => ⟨_, h.2⟩) (·.2)⟩, hall⟩
    · rcases hv with hv | hv
      · have hrest := hsome fun hms => hbad (List.forall_mem_cons.2 ⟨hv.1, hms⟩)
        exact (List.exists_mem_cons_iff ..).2 (.inr hrest)
      · rw [hf.quote]
        exact ⟨_, List.mem_cons_self, _, body, rfl, hv.2⟩

end

/-- **What was written is read back or refused**: it is read if the reader can read all scalars and
open all containers. -/
theorem read_write_iff (hf : f.Restores d name scalar nameBack scalarBack)
    (hother : f.RefusesOther d written scalar) (hbare : d.bareLevels ≤ 1) {v : Value}
    (h : v.consists name written = true) (hdeep : v.height ≤ f.deepest) :
    ∃ cs, f.write v = .ok cs ∧
      (v.Readable name scalar d.bareLevels d.maxDepth ∧
          d.read cs = .ok (v.restored nameBack scalarBack) ∨
        ¬ v.Readable name scalar d.bareLevels d.maxDepth ∧ ∃ e, d.read cs = .error e) := by
  obtain ⟨cs, hcs, hv⟩ := hf.told hother hbare 0 d.maxDepth v h (by omega)
  rcases hv with hv | hv
  · obtain ⟨cs, hcs, hread⟩ := hf.read_write hv.1.1 hdeep hv.1.2
    exact ⟨cs, hcs, .inl ⟨hv.1, hread⟩⟩
  · refine ⟨cs, hcs, .inr ⟨hv.1, ?_⟩⟩
    obtain ⟨c, tail, rfl, hc, -, hmark⟩ := hv.2.head
    obtain ⟨e, he⟩ := hv.2.value_append ((c :: tail).length + 1) [] (by omega) ends_nil
    rw [List.append_nil] at he
    refine ⟨e, ?_⟩
    unfold Dialect.read
    split
    · rename_i heq
      exact absurd (List.cons.inj heq).1 hmark
    · rw [skip_of_head hc, he]

end Restores

end Style

end Json

end MessageRouting
