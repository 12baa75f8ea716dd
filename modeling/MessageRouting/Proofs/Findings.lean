import MessageRouting.Condition.Evaluation
import MessageRouting.Proofs.Outcomes

/-!
# The findings of conditions

Whatever goes wrong while a condition is evaluated, its finding is regular (`regular_evaluate`): an
answer without a warning, or a warning with the answer that the condition does not hold.
-/

namespace MessageRouting

open Expression

namespace Finding

/-- An answer without a warning, or a warning with the answer that the condition does not hold. -/
def Regular (f : Finding) : Prop :=
  (∃ b, f = .plain b) ∨ ∃ message suggestion, f = .warn message suggestion

theorem regular_plain (b : Bool) : (plain b).Regular := .inl ⟨b, rfl⟩

theorem regular_warn (message : String) (suggestion : Option String) :
    (warn message suggestion).Regular := .inr ⟨message, suggestion, rfl⟩

theorem regular_ofFault (f : Fault) : (ofFault f).Regular := regular_warn _ _

/-- The issue of a regular finding is a warning about conditions. -/
theorem Regular.issue {f : Finding} (hf : f.Regular) {i : Issue} (h : f.issue = some i) :
    i.severity = .warning ∧ i.context = some place := by
  rcases hf with ⟨b, rfl⟩ | ⟨message, suggestion, rfl⟩
  · simp [plain] at h
  · obtain rfl : _ = i := Option.some.inj h
    exact ⟨rfl, rfl⟩

end Finding

namespace Condition

open Finding

theorem regular_ofOutcome (e : String) (o : Outcome) : (ofOutcome e o).Regular := by
  unfold ofOutcome
  split
  · exact regular_plain _
  · exact regular_warn _ _

theorem regular_ofReply {e : String} {r : Reply Outcome} {f : Finding}
    (h : ofReply e r = .ok f) : f.Regular := by
  cases r with
  | answered o => exact Except.ok.inj h ▸ regular_ofOutcome e o
  | raised fault => simp [ofReply] at h

/-- A fault is turned into a warning. -/
theorem regular_settle {tag : Value} {log : List Log.Event} {r : Except Fault Finding}
    (h : ∀ f, r = .ok f → f.Regular) : (settle tag log r).finding.Regular := by
  cases r with
  | ok f => exact h f rfl
  | error f => exact regular_ofFault f

variable [Interpreter]

theorem evaluate_expression (ev : Evaluator) (m : Message) {e : String} (he : e ≠ "") :
    (expression e).evaluate ev m =
      settle (.text expressionTag) (ev.evaluate (.text e) m.payload).log
        (ofReply e (ev.evaluate (.text e) m.payload).reply) := by
  unfold evaluate
  split
  · rename_i h
    exact absurd (expression.inj h) he
  · rename_i h
    cases h
    rfl
  · rename_i h
    cases h

theorem evaluate_field (ev : Evaluator) (m : Message) (space : Space) {p : String} (hp : p ≠ "")
    (operator : Operator) (operand : Value) :
    (field space (some p) operator operand).evaluate ev m =
      settle (.text space.name) [] (compare operator (locate m p space) operand) := by
  simp only [evaluate]

/-- A text is looked for in the text of what the field holds. -/
theorem containsText_eq_ok {v operand : Value} {sought text : List Char}
    (hsought : operand.asText = .ok sought) (htext : v.asText = .ok text) :
    containsText (some v) operand = .ok (.plain (Text.occurs sought text)) := by
  simp only [containsText, containsWritten, hsought, htext]
  rfl

/-- A pattern that can be read is looked for in the text of what the field holds. -/
theorem matchesPattern_eq_ok {v operand : Value} {pattern text : List Char} {node : Pattern.Node}
    (hpattern : operand.asText = .ok pattern) (hnode : Pattern.read pattern = .ok node)
    (htext : v.asText = .ok text) :
    matchesPattern (some v) operand = .ok (.plain (Pattern.occursIn node text)) := by
  simp only [matchesPattern, matchesWritten, hpattern, bind, Except.bind, hnode, htext]
  rfl

theorem matchesPattern_none {operand : Value} {pattern : List Char} {node : Pattern.Node}
    (hpattern : operand.asText = .ok pattern) (hnode : Pattern.read pattern = .ok node) :
    matchesPattern none operand = .ok (.plain false) := by
  simp only [matchesPattern, matchesWritten, hpattern, bind, Except.bind, hnode]
  rfl

theorem regular_containsWritten {actual : Option Value} {written : Except Fault (List Char)}
    {f : Finding} (h : containsWritten actual written = .ok f) : f.Regular := by
  unfold containsWritten at h
  rcases actual with _ | v
  · exact pure_eq_ok.1 h ▸ regular_plain _
  · simp only [bind_eq_ok, pure_eq_ok] at h
    obtain ⟨w, -, cs, -, rfl⟩ := h
    exact regular_plain _

theorem regular_equalsOperand {actual : Option Value} {operand : Value} {f : Finding}
    (h : equalsOperand actual operand = .ok f) : f.Regular := by
  rcases actual with _ | v
  · exact Except.ok.inj h ▸ regular_plain _
  · obtain ⟨b, -, rfl⟩ := map_eq_ok.1 h
    exact regular_plain b

theorem regular_matchesWritten {actual : Option Value} {written : Except Fault (List Char)}
    {f : Finding} (h : matchesWritten actual written = .ok f) : f.Regular := by
  simp only [matchesWritten, bind_eq_ok] at h
  obtain ⟨pattern, -, h⟩ := h
  split at h
  · exact absurd h throw_ne_ok
  · exact absurd h throw_ne_ok
  · exact absurd h throw_ne_ok
  · exact pure_eq_ok.1 h ▸ regular_warn _ _
  · split at h
    · exact pure_eq_ok.1 h ▸ regular_plain _
    · simp only [bind_eq_ok, pure_eq_ok] at h
      obtain ⟨cs, -, rfl⟩ := h
      exact regular_plain _

theorem regular_compare {operator : Operator} {actual : Option Value} {operand : Value}
    {f : Finding} (h : compare operator actual operand = .ok f) : f.Regular := by
  unfold compare at h
  split at h
  · exact Except.ok.inj h ▸ regular_warn _ _
  · cases operator with
    | present => exact Except.ok.inj h ▸ regular_plain _
    | equals => exact regular_equalsOperand h
    | contains => exact regular_containsWritten h
    | regex => exact regular_matchesWritten h

/-- **The finding of a condition is regular**, whatever the evaluator does. -/
theorem regular_evaluate (ev : Evaluator) (m : Message) (c : Condition) :
    (c.evaluate ev m).finding.Regular := by
  unfold evaluate
  split
  · exact regular_warn _ _
  · exact regular_settle fun f => regular_ofReply
  · split
    · exact regular_plain _
    · exact regular_plain _
    · exact regular_settle fun f => regular_compare

end Condition

end MessageRouting
