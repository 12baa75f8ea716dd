/-!
# Parts of a text

`Text.occurs w cs` says whether `w` stands somewhere in `cs`; it decides `w <:+: cs`.
-/

namespace MessageRouting.Text

/-- Whether a text occurs in another one. -/
def occurs (w : List Char) : List Char → Bool
  | [] => w.isEmpty
  | c :: cs => w.isPrefixOf (c :: cs) || occurs w cs

theorem occurs_iff (w cs : List Char) : occurs w cs = true ↔ w <:+: cs := by
  induction cs with
  | nil => simp [occurs]
  | cons c cs ih =>
    rw [occurs, Bool.or_eq_true, ih, List.isPrefixOf_iff_prefix, List.infix_cons_iff]

end MessageRouting.Text
