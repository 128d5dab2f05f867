import DocQuery.Lowering.Condition
import DocQuery.Proofs.Evaluation.Single
import DocQuery.Proofs.Regex.Escape

/-!
# Tests of text

The methods that look for text at the beginning of a field, at its end or anywhere in it become
matches with a pattern.  The text is escaped, so that the pattern matches it and nothing else, and
an anchor asks for the beginning or the end of the text of the field, not of one of its lines.

## Main definitions

* `DecidesText` — the filter of a method decides on the text of a field as a predicate does.

## Main results

* `lowerCondition_looksForText` — what these methods become.
* `lowerCondition_decidesText` — **they test for literal text.**
-/

namespace DocQuery

open Regex (Pattern compile? flagsOf readPattern)

variable {context : Context} {scope : Scope} {p arg : Expr} {target : Target} {s method : String}

theorem textPattern_startswith (s : String) :
    textPattern "startswith" s = "^" ++ Regex.escape s := rfl

theorem textPattern_endswith (s : String) : textPattern "endswith" s = Regex.escape s ++ "$" := rfl

theorem textPattern_contains (s : String) : textPattern "contains" s = Regex.escape s := rfl

theorem textTest_of_fold {whole : Expr} (hs : fold context arg = .ok (some (.string s))) :
    textTest context whole method arg = .ok (.regex (textPattern method s) "") := by
  rw [textTest, constantArgument, hs]
  rfl

/-- A method that looks for constant text in a field is a match with the pattern of the text. -/
theorem lowerCondition_looksForText (hmethod : looksForText method = true)
    (hp : resolveField scope p = some target) (hs : fold context arg = .ok (some (.string s))) :
    lowerCondition context scope (.call p method [arg])
      = .ok (.field target (.regex (textPattern method s) "")) := by
  have hname : method = "startswith" ∨ method = "endswith" ∨ method = "contains" := by
    simpa [looksForText, or_assoc] using hmethod
  have hcall : lowerCondition context scope (.call p method [arg])
      = (do
        let target ← requireField scope p (.call p method [arg])
        .field target <$> textTest context (.call p method [arg]) method arg) := by
    rcases hname with rfl | rfl | rfl <;> rfl
  rw [hcall, requireField, hp, textTest_of_fold hs]
  rfl

/-- Of one text the match with a pattern says whether the pattern is in it. -/
theorem Operation.holds_regex_string {text options : String} {pattern : Pattern}
    (h : compile? text options = some pattern) (v : String) :
    (Operation.regex text options).holds [.string v] = .ok (pattern.isIn v) := by
  have hv : ∀ items, Value.string v ≠ .array items := by
    intro items hitems
    cases hitems
  rw [holds, h]
  exact congrArg Except.ok (anyElement_singleton hv (·.isMatched pattern))

/-- The call of the method on the field becomes a filter, and if its pattern can be searched for,
then of a document with exactly one value at the field, a text, the filter holds as the predicate
does. -/
def DecidesText (context : Context) (scope : Scope) (p arg : Expr) (target : Target)
    (method s : String) (found : List Char → Prop) [DecidablePred found] : Prop :=
  ∃ f, lowerCondition context scope (.call p method [arg]) = .ok f ∧
    ((compile? (textPattern method s) "").isSome = true → ∀ (d : Value) (v : String),
      target.values d = [.string v] → f.holds d = .ok (decide (found v.toList)))

theorem decidesText_of_readPattern (hmethod : looksForText method = true)
    (hp : resolveField scope p = some target) (hs : fold context arg = .ok (some (.string s)))
    {pattern : Pattern} (hread : readPattern (flagsOf "") (textPattern method s) = some pattern)
    {found : List Char → Prop} [DecidablePred found]
    (hfound : ∀ v : String, pattern.isIn v = true ↔ found v.toList) :
    DecidesText context scope p arg target method s found := by
  refine ⟨_, lowerCondition_looksForText hmethod hp hs, fun hfits d v hv => ?_⟩
  have hcompile := Regex.compile?_of_readPattern hread hfits
  rw [Filter.holds_field, hv, Operation.holds_regex_string hcompile]
  exact congrArg Except.ok ((Bool.eq_iff_iff).mpr ((hfound v).trans decide_eq_true_iff.symm))

/-- The methods that look for text test for literal text.  Whatever characters the text has, a field
begins with it, ends with it or contains it exactly if the text of the field does. -/
theorem lowerCondition_decidesText (context : Context) (scope : Scope) {p arg : Expr}
    {target : Target} {s : String} (hp : resolveField scope p = some target)
    (hs : fold context arg = .ok (some (.string s))) :
    DecidesText context scope p arg target "startswith" s (s.toList <+: ·) ∧
      DecidesText context scope p arg target "endswith" s (s.toList <:+ ·) ∧
      DecidesText context scope p arg target "contains" s (s.toList <:+: ·) := by
  have hspaced : (flagsOf "").spaced = false := by rfl
  have hcase : (flagsOf "").ignoreCase = false := by rfl
  have hstart := Regex.readPattern_start_escape hspaced s
  have hend := Regex.readPattern_escape_end hspaced s
  have hanywhere := Regex.readPattern_escape hspaced s
  rw [← textPattern_startswith] at hstart
  rw [← textPattern_endswith] at hend
  rw [← textPattern_contains] at hanywhere
  exact ⟨decidesText_of_readPattern rfl hp hs hstart
      fun _ => Pattern.isIn_start_literals_iff hcase .empty,
    decidesText_of_readPattern rfl hp hs hend fun _ => Pattern.isIn_literals_end_iff hcase .empty,
    decidesText_of_readPattern rfl hp hs hanywhere fun _ => Pattern.isIn_literals_iff hcase⟩

/-- A dot and a line feed stand for themselves, also before the end of the text. -/
theorem lowerCondition_decidesText_special :
    let p : Expr := .access .root (.key "name")
    let arg : Expr := .string "a.\n"
    let d : Value := .object [("name", .string "xa.\n")]
    resolveField .document p = some (.path "name") ∧ fold .empty arg = .ok (some (.string "a.\n"))
      ∧ Target.values (.path "name") d = [.string "xa.\n"]
      ∧ (∃ f, lowerCondition .empty .document (.call p "startswith" [arg]) = .ok f
          ∧ f.holds d = .ok false)
      ∧ (∃ f, lowerCondition .empty .document (.call p "endswith" [arg]) = .ok f
          ∧ f.holds d = .ok true)
      ∧ ∃ f, lowerCondition .empty .document (.call p "contains" [arg]) = .ok f
          ∧ f.holds d = .ok true := by
  intro p arg d
  have hp : resolveField .document p = some (.path "name") := by rfl
  have hs : fold .empty arg = .ok (some (.string "a.\n")) := by rfl
  have hd : Target.values (.path "name") d = [.string "xa.\n"] := by rfl
  obtain ⟨⟨f, hf, hstarts⟩, ⟨g, hg, hends⟩, ⟨h, hh, hcontains⟩⟩ :=
    lowerCondition_decidesText .empty .document hp hs
  refine ⟨hp, hs, hd, ⟨f, hf, ?_⟩, ⟨g, hg, ?_⟩, ⟨h, hh, ?_⟩⟩
  · exact (hstarts (by decide +kernel) d _ hd).trans (by rfl)
  · exact (hends (by decide +kernel) d _ hd).trans (by rfl)
  · exact (hcontains (by decide +kernel) d _ hd).trans (by rfl)

end DocQuery
