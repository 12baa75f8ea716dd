import Mathlib.Data.List.Infix
import MessageRouting.Proofs.Outcomes
import MessageRouting.Yaml.Node

/-!
# How reading the nodes of YAML fails

Tokens that hold no document are malformed, or the fault behind them is met, or more lists and
mappings begin than can be inside each other (`ofTokens?_error`). That each of these begins with a
token of its own is what a part of the reader accounts for (`Accounts`): it takes tokens from the
front, and fails for lack of room only if there are more such tokens in front of it than it has room
for.
-/

namespace MessageRouting.Yaml

/-- Whether a list or mapping can begin with a token. -/
def Token.opens : Token → Bool
  | .flowSequence | .flowMapping | .blockSequence | .blockMapping | .entry | .key => true
  | _ => false

namespace Node

variable {α β : Type} {s s' : Progress} {bound : Nat}

/-- How many tokens can begin a list or mapping. -/
def openings (ts : List Token) : Nat := ts.countP Token.opens

theorem openings_le_of_suffix {ts ts' : List Token} (h : ts <:+ ts') : openings ts ≤ openings ts' :=
  h.sublist.countP_le

theorem openings_cons {t : Token} (h : t.opens = true) (ts : List Token) :
    openings (t :: ts) = openings ts + 1 := by
  rw [openings, List.countP_cons_of_pos h, openings]

/-- Some tokens have been taken, and nothing else has changed that is left to read. -/
structure Progress.After (s' s : Progress) : Prop where
  /-- The tokens that are left. -/
  tokens : s'.tokens <:+ s.tokens
  /-- The fault behind them. -/
  ending : s'.ending = s.ending
  /-- The room. -/
  room : s'.room = s.room

theorem Progress.After.refl (s : Progress) : s.After s := ⟨List.suffix_rfl, rfl, rfl⟩

theorem Progress.After.trans {s'' : Progress} (h' : s''.After s') (h : s'.After s) : s''.After s :=
  ⟨h'.tokens.trans h.tokens, h'.ending.trans h.ending, h'.room.trans h.room⟩

/-- Why reading stops somewhere: the text is no document, or the fault behind the tokens is met, or
the room is less than a number. -/
def Stops (bound : Nat) (s : Progress) (f : Fault) : Prop :=
  f = .malformed ∨ s.ending = some f ∨ f = .depth ∧ s.room < bound

theorem Stops.mono {bound' : Nat} {f : Fault} (h : Stops bound s f)
    (hbound : bound ≤ bound') : Stops bound' s f :=
  h.imp_right fun h => h.imp_right fun h => ⟨h.1, Nat.lt_of_lt_of_le h.2 hbound⟩

theorem Stops.before {f : Fault} (h : Stops bound s' f) (hafter : s'.After s) :
    Stops bound s f :=
  h.imp_right fun h => h.imp (hafter.ending ▸ ·) fun h => ⟨h.1, hafter.room ▸ h.2⟩

/-- A part is read from the tokens in front, or it is not, and for lack of room only if there is
less of it than a number. -/
structure Accounts (bound : Nat) (s : Progress) (m : Reads α) : Prop where
  /-- What is left after it. -/
  after : ∀ {a s'}, m s = .ok (a, s') → s'.After s
  /-- Why it is not read. -/
  fails : ∀ {f}, m s = .error f → Stops bound s f

namespace Accounts

theorem mono {bound' : Nat} {m : Reads α} (h : Accounts bound s m) (hbound : bound ≤ bound') :
    Accounts bound' s m :=
  ⟨h.after, fun hf => (h.fails hf).mono hbound⟩

theorem bind {m : Reads α} {k : α → Reads β} (hm : Accounts bound s m)
    (hk : ∀ a s', s'.After s → Accounts bound s' (k a)) : Accounts bound s (m >>= k) where
  after h := by
    obtain ⟨x, hx, h⟩ := bind_eq_ok.1 h
    have hafter := hm.after hx
    exact ((hk _ _ hafter).after h).trans hafter
  fails h := by
    rcases bind_eq_error.1 h with h | ⟨x, hx, h⟩
    · exact hm.fails h
    · have hafter := hm.after hx
      exact ((hk _ _ hafter).fails h).before hafter

/-- A part that has gone on to another one. -/
theorem of_step {m m' : Reads α} (h : Accounts bound s' m') (hrun : m s = m' s')
    (hafter : s'.After s) : Accounts bound s m where
  after hm := (h.after (hrun.symm.trans hm)).trans hafter
  fails hm := (h.fails (hrun.symm.trans hm)).before hafter

theorem of_error {m : Reads α} {f : Fault} (hrun : m s = .error f) (h : Stops bound s f) :
    Accounts bound s m where
  after hm := nomatch hrun.symm.trans hm
  fails hm := Except.error.inj (hrun.symm.trans hm) ▸ h

theorem pure (a : α) : Accounts bound s (Pure.pure a : Reads α) where
  after := by rintro _ _ ⟨⟩; exact .refl s
  fails := nofun

theorem malformed : Accounts bound s (malformed : Reads α) := .of_error rfl (.inl rfl)

/-- What is done unless the text is no document. -/
theorem check {c : Prop} [Decidable c] {k : PUnit → Reads α} (hk : Accounts bound s (k ⟨⟩)) :
    Accounts bound s (if c then Node.malformed >>= k else k ⟨⟩) := by
  split
  · exact .of_error rfl (.inl rfl)
  · exact hk

end Accounts

/-- Wherever it stands, a part accounts for the lists and mappings that can begin there. -/
def Steady (m : Reads α) : Prop := ∀ s, Accounts (openings s.tokens) s m

namespace Steady

theorem within {m : Reads α} (h : Steady m) (hbound : openings s.tokens ≤ bound) :
    Accounts bound s m :=
  (h s).mono hbound

theorem pure (a : α) : Steady (Pure.pure a : Reads α) := fun _ => .pure a

theorem malformed : Steady (malformed : Reads α) := fun _ => .malformed

theorem bind {m : Reads α} {k : α → Reads β} (hm : Steady m) (hk : ∀ a, Steady (k a)) :
    Steady (m >>= k) := fun s =>
  (hm s).bind fun a _ hafter => (hk a).within (openings_le_of_suffix hafter.tokens)

theorem map {m : Reads α} {g : α → β} (hm : Steady m) : Steady (g <$> m) :=
  hm.bind fun _ => .pure _

theorem ite {c : Prop} [Decidable c] {m m' : Reads α} (hm : Steady m) (hm' : Steady m') :
    Steady (if c then m else m') := by
  split
  · exact hm
  · exact hm'

theorem check {c : Prop} [Decidable c] {k : PUnit → Reads α} (hk : Steady (k ⟨⟩)) :
    Steady (if c then Node.malformed >>= k else k ⟨⟩) :=
  fun s => .check (hk s)

/-- What is done with the result of one of two readers. -/
theorem select {c : Prop} [Decidable c] {m m' : Reads α} {k : α → Reads β} (hm : Steady m)
    (hm' : Steady m') (hk : ∀ a, Steady (k a)) : Steady (if c then m >>= k else m' >>= k) :=
  .ite (hm.bind hk) (hm'.bind hk)

theorem get : Steady (MonadState.get : Reads Progress) := fun s =>
  ⟨by rintro _ _ ⟨⟩; exact .refl s, nofun⟩

theorem modify {g : Progress → Progress} (hg : ∀ s, (g s).After s) :
    Steady (modify g : Reads PUnit) := fun s =>
  ⟨by rintro _ _ ⟨⟩; exact hg s, nofun⟩

end Steady

/-! ## Single tokens -/

theorem peek_eq (s : Progress) :
    peek s = .ok (s.tokens.head?, s) ∨ ∃ f, s.ending = some f ∧ peek s = .error f := by
  obtain ⟨ts, ending, room, anchors, opened, handles⟩ := s
  cases ts with
  | nil =>
    cases ending with
    | none => exact .inl rfl
    | some f => exact .inr ⟨f, rfl, rfl⟩
  | cons t ts => exact .inl rfl

/-- What is done after a look at the next token knows the token. -/
theorem Accounts.peek_bind {k : Option Token → Reads α} (h : Accounts bound s (k s.tokens.head?)) :
    Accounts bound s (peek >>= k) := by
  have hrun : (peek >>= k) s = (peek s >>= fun x => k x.1 x.2) := rfl
  rcases peek_eq s with hpeek | ⟨f, hending, hpeek⟩
  · exact h.of_step (hrun.trans (by rw [hpeek]; rfl)) (.refl s)
  · exact .of_error (hrun.trans (by rw [hpeek]; rfl)) (.inr (.inl hending))

theorem Steady.peek_bind {k : Option Token → Reads α}
    (h : ∀ s, Accounts (openings s.tokens) s (k s.tokens.head?)) : Steady (peek >>= k) :=
  fun s => (h s).peek_bind

theorem steady_peek : Steady peek := by
  have h : Steady (peek >>= Pure.pure) := .peek_bind fun _ => .pure _
  rwa [bind_pure] at h

theorem steady_advance : Steady advance := .modify fun _ => ⟨List.tail_suffix _, rfl, rfl⟩

theorem steady_accept (t : Token) : Steady (accept t) :=
  steady_peek.bind fun _ => .ite (steady_advance.bind fun _ => .pure _) (.pure _)

theorem steady_isNext (ts : List Token) : Steady (isNext ts) := steady_peek.bind fun _ => .pure _

theorem steady_fullTag (handle : Option (List Char)) (suffix : List Char) :
    Steady (fullTag handle suffix) := by
  cases handle with
  | none => exact .pure _
  | some h =>
    refine Steady.get.bind fun s => ?_
    split
    · exact .pure _
    · exact .malformed

theorem steady_properties : Steady properties := by
  unfold properties
  extract_lets anchor? tag?
  have hanchor : Steady anchor? := by
    refine steady_peek.bind fun next => ?_
    split
    · exact steady_advance.bind fun _ => .pure _
    · exact .pure _
  have htag : Steady tag? := by
    refine steady_peek.bind fun next => ?_
    split
    · exact steady_advance.bind fun _ => .pure _
    · exact .pure _
  refine hanchor.bind fun first => htag.bind fun tag => .select hanchor (.pure _) fun _ => ?_
  split
  · exact (steady_fullTag _ _).bind fun _ => .pure _
  · exact .pure _

theorem steady_named (anchor : Option (List Char)) (n : Node) : Steady (named anchor n) := by
  cases anchor with
  | none => exact .pure _
  | some a =>
    refine Steady.bind (.modify ?_) fun _ => .pure _
    exact fun _ => ⟨List.suffix_rfl, rfl, rfl⟩

/-- A name takes no token. -/
theorem Accounts.beginNamed_bind {anchor : Option (List Char)} {n : Node} {k : Unit → Reads α}
    (h : ∀ s', s'.tokens = s.tokens → Accounts bound s' (k ())) :
    Accounts bound s (beginNamed anchor n >>= k) := by
  cases anchor with
  | none => exact h s rfl
  | some a =>
    have hopened : Accounts bound { s with opened := (a, n) :: s.opened } (k ()) := h _ rfl
    by_cases hnew : (s.meaning? a).isSome
    · refine .of_error ?_ (.inl rfl)
      change (beginNamed (some a) n >>= k).run s = _
      simp only [beginNamed, StateT.run_bind, bind_assoc, StateT.run_get, pure_bind, hnew,
        if_true]
      rfl
    · refine hopened.of_step ?_ ⟨List.suffix_rfl, rfl, rfl⟩
      change (beginNamed (some a) n >>= k).run s = _
      simp only [beginNamed, StateT.run_bind, bind_assoc, StateT.run_get, pure_bind, hnew]
      rfl

/-! ## Lists and mappings -/

/-- Room for one more list or mapping is needed. -/
theorem Accounts.inside {parts : Reads α}
    (h : ∀ s', s'.tokens = s.tokens → Accounts bound s' parts) :
    Accounts (bound + 1) s (inside parts) := by
  cases hroom : s.room with
  | zero =>
    refine .of_error (f := .depth) ?_ (.inr (.inr ⟨rfl, by omega⟩))
    change (Node.inside parts).run s = _
    simp only [Node.inside, StateT.run_bind, StateT.run_get, pure_bind, hroom]
    rfl
  | succ room =>
    have hparts : Accounts bound { s with room } parts := h _ rfl
    have hrun : Node.inside parts s = (parts { s with room } >>= fun x =>
        .ok (x.1, { x.2 with room := room + 1 })) := by
      change (Node.inside parts).run s = _
      simp only [Node.inside, StateT.run_bind, StateT.run_get, pure_bind, hroom]
      rfl
    constructor
    · intro a s' hinside
      obtain ⟨x, hx, hresult⟩ := bind_eq_ok.1 (hrun.symm.trans hinside)
      obtain ⟨rfl, rfl⟩ := Prod.mk.inj (Except.ok.inj hresult)
      have hafter := hparts.after hx
      exact ⟨hafter.tokens, hafter.ending, hroom.symm⟩
    · intro f hinside
      rcases bind_eq_error.1 (hrun.symm.trans hinside) with hf | ⟨x, -, hresult⟩
      · exact (hparts.fails hf).imp_right fun h => h.imp_right fun h =>
          ⟨h.1, hroom ▸ Nat.succ_lt_succ h.2⟩
      · cases hresult

theorem Accounts.advance_bind {k : Unit → Reads α}
    (h : Accounts bound { s with tokens := s.tokens.tail } (k ())) :
    Accounts bound s (advance >>= k) :=
  h.of_step rfl ⟨List.tail_suffix _, rfl, rfl⟩

/-- What is done after a token has been taken, or has not. -/
theorem Accounts.accept_bind {t : Token} {k : Bool → Reads α}
    (htrue : s.tokens.head? = some t → Accounts bound { s with tokens := s.tokens.tail } (k true))
    (hfalse : Accounts bound s (k false)) : Accounts bound s (accept t >>= k) := by
  have haccept : (accept t >>= k) =
      peek >>= fun x => if x = some t then advance >>= fun _ => k true else k false := by
    rw [accept, bind_assoc]
    refine bind_congr fun x => ?_
    split <;> rfl
  rw [haccept]
  refine .peek_bind ?_
  split
  · rename_i hhead
    exact (htrue hhead).advance_bind
  · exact hfalse

/-- A list or mapping behind the token that it begins with. -/
theorem Accounts.enclosed {t : Token} {parts : Reads α} {g : α → β} (hparts : Steady parts)
    (hhead : s.tokens.head? = some t) (hopens : t.opens = true) :
    Accounts (openings s.tokens) s (do
      advance
      return g (← Node.inside parts)) := by
  obtain ⟨ts, hts⟩ := List.head?_eq_some_iff.1 hhead
  rw [hts, openings_cons hopens]
  refine .advance_bind (.bind (.inside fun s' hs' => ?_) fun _ _ _ => .pure _)
  have htail : s'.tokens = ts := by rw [hs', hts, List.tail_cons]
  exact htail ▸ hparts s'

/-- With some fuel, nodes and their parts account for what they take. -/
structure Accounted (fuel : Nat) : Prop where
  /-- A node. -/
  node : ∀ place, Steady (node fuel place)
  /-- A node, or nothing. -/
  nodeUnless : ∀ place stops, Steady (nodeUnless fuel place stops)
  /-- The items of a block. -/
  blockItems : Steady (blockItems fuel)
  /-- Items that are not further indented than their key; the first of them begins the list. -/
  looseItems : ∀ s, Accounts (openings s.tokens.tail) s (looseItems fuel)
  /-- The keys and values of a block. -/
  blockPairs : Steady (blockPairs fuel)
  /-- The items in brackets. -/
  flowItems : ∀ first, Steady (flowItems fuel first)
  /-- The only key of a mapping without braces, and its value. -/
  flowPair : Steady (flowPair fuel)
  /-- The keys and values in braces. -/
  flowPairs : ∀ first, Steady (flowPairs fuel first)

namespace Accounted

variable {fuel : Nat}

theorem node_succ (h : Accounted fuel) (place : Place) : Steady (Node.node (fuel + 1) place) := by
  refine steady_peek.bind fun first => ?_
  split
  · -- a reference
    refine steady_advance.bind fun _ => Steady.get.bind fun _ => ?_
    split
    · exact .pure _
    · exact .malformed
  · refine steady_properties.bind fun p => .peek_bind fun s => ?_
    refine .beginNamed_bind fun s' hs' => ?_
    rw [← hs']
    refine .bind ?_ fun n _ hafter =>
      (steady_named _ n).within (openings_le_of_suffix hafter.tokens)
    split
    · exact (steady_advance.bind fun _ => .pure _) s'
    · exact (steady_advance.bind fun _ => .pure _) s'
    · rename_i hhead
      exact .enclosed (h.flowItems true) hhead rfl
    · rename_i hhead
      exact .enclosed (h.flowPairs true) hhead rfl
    · rename_i hhead
      exact .check (.enclosed h.blockItems hhead rfl)
    · rename_i hhead
      exact .check (.enclosed h.blockPairs hhead rfl)
    · rename_i hhead
      split
      · obtain ⟨ts, hts⟩ := List.head?_eq_some_iff.1 hhead
        rw [hts, openings_cons rfl]
        refine .bind (.inside fun s'' hs'' => ?_) fun _ _ _ => .pure _
        have htail : s''.tokens.tail = ts := by rw [hs'', hts, List.tail_cons]
        exact htail ▸ h.looseItems s''
      · exact .check (.pure _)
    · exact .check (.pure _)

theorem nodeUnless_succ (h : Accounted fuel) (place : Place) (stops : List Token) :
    Steady (Node.nodeUnless (fuel + 1) place stops) :=
  (steady_isNext stops).bind fun _ => .ite (.pure _) (h.node place)

theorem blockItems_succ (h : Accounted fuel) : Steady (Node.blockItems (fuel + 1)) := by
  refine (steady_accept _).bind fun _ => .ite ?_ ((steady_accept _).bind fun _ => ?_)
  · exact (h.nodeUnless _ _).bind fun _ => h.blockItems.bind fun _ => .pure _
  · exact .ite (.pure _) .malformed

theorem looseItems_succ (h : Accounted fuel) (s : Progress) :
    Accounts (openings s.tokens.tail) s (Node.looseItems (fuel + 1)) := by
  have hmore : Steady (Node.looseItems fuel) := fun s' =>
    (h.looseItems s').mono (openings_le_of_suffix (List.tail_suffix _))
  refine .accept_bind (fun _ => ?_) (.pure _)
  rw [if_pos rfl]
  refine Steady.within ?_ (Nat.le_refl _)
  exact (h.nodeUnless _ _).bind fun _ => hmore.bind fun _ => .pure _

theorem blockPairs_succ (h : Accounted fuel) : Steady (Node.blockPairs (fuel + 1)) := by
  refine (steady_accept _).bind fun _ => .ite (.pure _) ((steady_accept _).bind fun _ => ?_)
  refine .select (h.nodeUnless _ _) (.pure _) fun key => (steady_accept _).bind fun _ => ?_
  exact .check (.select (h.nodeUnless _ _) (.pure _) fun _ => h.blockPairs.bind fun _ => .pure _)

theorem flowPair_succ (h : Accounted fuel) : Steady (Node.flowPair (fuel + 1)) :=
  (h.nodeUnless _ _).bind fun _ => (steady_accept _).bind fun _ =>
    .select (h.nodeUnless _ _) (.pure _) fun _ => .pure _

theorem flowItems_succ (h : Accounted fuel) (first : Bool) :
    Steady (Node.flowItems (fuel + 1) first) := by
  refine (steady_accept _).bind fun _ => .ite (.pure _) ?_
  extract_lets item
  -- what follows the comma
  have hitem : Steady (item ()) := by
    refine fun s => .accept_bind (fun hhead => ?_) ?_
    · obtain ⟨ts, hts⟩ := List.head?_eq_some_iff.1 hhead
      rw [hts, List.tail_cons, openings_cons rfl]
      rw [if_pos rfl]
      refine .bind (.inside fun s' hs' => ?_) fun _ s' hafter => ?_
      · have htokens : s'.tokens = ts := hs'
        exact htokens ▸ h.flowPair s'
      refine Steady.within ?_ (Nat.le_succ_of_le (openings_le_of_suffix hafter.tokens))
      exact (h.flowItems false).bind fun _ => .pure _
    · refine ((steady_accept _).bind fun _ => .ite (.pure _) ?_) s
      exact (h.node _).bind fun _ => (h.flowItems false).bind fun _ => .pure _
  exact .ite ((steady_accept _).bind fun _ => .check hitem) hitem

theorem flowPairs_succ (h : Accounted fuel) (first : Bool) :
    Steady (Node.flowPairs (fuel + 1) first) := by
  refine (steady_accept _).bind fun _ => .ite (.pure _) ?_
  extract_lets pair
  have hpair : Steady (pair ()) := by
    refine (steady_accept _).bind fun _ => .ite ?_ ((steady_accept _).bind fun _ => ?_)
    · refine (h.nodeUnless _ _).bind fun key => (steady_accept _).bind fun _ => ?_
      exact .select (h.nodeUnless _ _) (.pure _) fun _ => (h.flowPairs false).bind fun _ => .pure _
    · exact .ite (.pure _) ((h.node _).bind fun _ => (h.flowPairs false).bind fun _ => .pure _)
  exact .ite ((steady_accept _).bind fun _ => .check hpair) hpair

end Accounted

theorem accounted (fuel : Nat) : Accounted fuel := by
  induction fuel with
  | zero => constructor <;> intros <;> exact .malformed
  | succ fuel ih =>
    exact {
      node := ih.node_succ
      nodeUnless := ih.nodeUnless_succ
      blockItems := ih.blockItems_succ
      looseItems := ih.looseItems_succ
      blockPairs := ih.blockPairs_succ
      flowItems := ih.flowItems_succ
      flowPair := ih.flowPair_succ
      flowPairs := ih.flowPairs_succ }

/-! ## Documents -/

theorem steady_directives (fuel : Nat) (versioned : Bool) (found : List (List Char × List Char)) :
    Steady (directives fuel versioned found) := by
  induction fuel generalizing versioned found with
  | zero => exact .pure _
  | succ fuel ih =>
    refine steady_peek.bind fun next => ?_
    split
    · refine steady_advance.bind fun _ => ?_
      split
      · exact .check (ih _ _)
      · exact .check (ih _ _)
      · exact ih _ _
    · exact .pure _

theorem steady_explicitDocument (n : Nat) : Steady (explicitDocument n) := by
  refine (steady_directives _ _ _).bind fun found => Steady.bind (.modify ?_) fun _ => ?_
  · exact fun _ => ⟨List.suffix_rfl, rfl, rfl⟩
  · refine (steady_accept _).bind fun _ => .check ?_
    exact steady_peek.bind fun _ => .ite (.pure _) ((accounted n).node _)

theorem steady_skipEnds (fuel : Nat) : Steady (skipEnds fuel) := by
  induction fuel with
  | zero => exact .pure _
  | succ fuel ih => exact (steady_accept _).bind fun _ => .ite ih (.pure _)

theorem steady_document : Steady document := by
  refine Steady.get.bind fun s => steady_peek.bind fun next => ?_
  extract_lets finish
  have hfinish (root : Option Node) : Steady (finish root) :=
    (steady_skipEnds _).bind fun _ => steady_peek.bind fun _ =>
      (steady_directives _ _ _).bind fun _ => .check (.pure _)
  split
  · exact (Steady.pure _).bind hfinish
  · exact (steady_explicitDocument _).map.bind hfinish
  · exact (steady_explicitDocument _).map.bind hfinish
  · exact ((accounted _).node _).map.bind hfinish

/-- **Tokens that hold no document** are malformed, or the fault behind them is met, or more lists
and mappings begin than can be inside each other. -/
theorem ofTokens?_error [Interpreter] {ts : List Token} {ending : Option Fault} {f : Fault}
    (h : ofTokens? ts ending = .error f) :
    f = .malformed ∨ ending = some f ∨ f = .depth ∧ Interpreter.composeDepth < openings ts :=
  (steady_document _).fails (map_eq_error.1 h)

end Node

end MessageRouting.Yaml
