import DocQuery.Proofs.Query.Scan
import DocQuery.Proofs.Query.Simulation

/-!
# Where syntax errors point

An error that names a token also has the position of a token.  Parsers take both from the input
when they fail, so it is enough that the tokens of an input stand in the text where they say.  The
lexer leaves them so, and going on from token to token keeps it.

## Main definitions

* `Passes` — the lexer reads some tokens from the start of a text and gets to a position.
* `Token.StandsAt` — the tokens in front of a position can be read, and this one is read there.
* `ParseError.blamed?` — the token at which an error points, with its position.

## Main results

* `standsAt_of_mem_scan` — every token that is found in a text stands where it says.
* `simulation_standing` — parsers keep this, and their errors take it over.
* `standsAt_of_parse_eq_error` — **a syntax error points at the token that stands there.**
-/

namespace DocQuery

open Text

variable {text : String}

/-! ### Positions in a text -/

namespace Cursor

/-- The place at a position of a text. -/
def ofText (text : String) (position : Nat) : Cursor :=
  ⟨position, text.toList.drop position⟩

theorem advance_ofText (position n : Nat) :
    (ofText text position).advance n = ofText text (position + n) := by
  simp [ofText, advance, List.drop_drop]

theorem length_rest_ofText {position : Nat} (h : position ≤ text.length) :
    position + (ofText text position).rest.length = text.length := by
  simp only [ofText, List.length_drop, String.length_toList]
  omega

/-- Behind the blanks at a position there is a position of the text again. -/
theorem exists_skipBlanks_ofText {position : Nat} (h : position ≤ text.length) :
    ∃ next, next ≤ text.length ∧ (ofText text position).skipBlanks = ofText text next := by
  have hlength := length_rest_ofText h
  have hblanks := (List.takeWhile_sublist isBlank (l := (ofText text position).rest)).length_le
  exact ⟨_, by omega, advance_ofText position _⟩

/-- Behind the token at a position there is a position of the text again. -/
theorem exists_token_ofText {position : Nat} (h : position ≤ text.length) {token : Token}
    {after : Cursor} (htoken : (ofText text position).token = .ok (token, after)) :
    ∃ next, next ≤ text.length ∧ after = ofText text next := by
  rcases token_eq_ok_iff.mp htoken with ⟨-, -, rfl⟩ | ⟨w, hrest, hposition, -⟩
  · exact ⟨position, h, rfl⟩
  · have hlength := length_rest_ofText h
    rw [hrest, List.length_append] at hlength
    refine ⟨position + w.length, by omega, ?_⟩
    rw [Spells.eq_advance hrest hposition, advance_ofText]

end Cursor

/-- Reading from the start of the text, the lexer finds these tokens and gets to the position. -/
inductive Passes (text : String) : List Token → Nat → Prop
  | start : Passes text [] 0
  | step {ts : List Token} {position next : Nat} {token : Token} (passed : Passes text ts position)
      (read : (Cursor.ofText text position).skipBlanks.token
        = .ok (token, Cursor.ofText text next))
      (ne_eof : token ≠ .eof) : Passes text (ts ++ [token]) next

/-- The position is one of the text, all tokens in front of it can be read, and it is the start of
this token. -/
structure Token.StandsAt (found : Token) (text : String) (position : Nat) : Prop where
  le_length : position ≤ text.length
  /-- Between the last token that is passed and the position there are blanks only. -/
  passed : ∃ before last, Passes text before last ∧
    (Cursor.ofText text last).skipBlanks = Cursor.ofText text position
  read : ∃ after, (Cursor.ofText text position).token = .ok (found, after)

/-! ### The tokens of a text -/

/-- Every token that is found from a position on stands where it says. -/
theorem standsAt_of_mem_scanFrom {fuel position : Nat} {before : List Token}
    (hposition : position ≤ text.length) (hpassed : Passes text before position) :
    ∀ lexeme ∈ (scanFrom fuel (Cursor.ofText text position)).lexemes,
      lexeme.token.StandsAt text lexeme.start := by
  induction fuel generalizing position before with
  | zero => exact fun _ h => nomatch h
  | succ fuel ih =>
    obtain ⟨start, hstart, hskip⟩ := Cursor.exists_skipBlanks_ofText hposition
    intro lexeme hmem
    rw [scanFrom] at hmem
    split at hmem
    · cases hmem
    · next token after htoken =>
      have hread := hskip ▸ htoken
      have hstands : token.StandsAt text start :=
        ⟨hstart, ⟨before, position, hpassed, hskip⟩, after, hread⟩
      split at hmem
      · rw [List.mem_singleton.mp hmem, hskip]
        exact hstands
      · next hne =>
        rcases List.mem_cons.mp hmem with rfl | hmem
        · rw [hskip]
          exact hstands
        · -- the rest is found from behind this token, which is now one of those passed
          obtain ⟨next, hnext, rfl⟩ := Cursor.exists_token_ofText hstart hread
          exact ih hnext (hpassed.step htoken hne) lexeme hmem

theorem standsAt_of_mem_scan {lexeme : Lexeme} (h : lexeme ∈ (scan text).lexemes) :
    lexeme.token.StandsAt text lexeme.start :=
  standsAt_of_mem_scanFrom (Nat.zero_le _) .start lexeme h

/-- A text has a token, if only its end, or it cannot be read. -/
theorem scan_ne_nil (hfailure : (scan text).failure = none) : (scan text).lexemes ≠ [] := by
  obtain ⟨ts, hts⟩ := exists_lexed_of_failure_eq_none hfailure
  have htokens := (finds_of_lexed hts).tokens
  intro hnil
  simp [hnil] at htokens

/-- The input for a text holds its tokens. -/
theorem Input.eq_lexemes_of_ofScan {input : Input} (h : Input.ofScan (scan text) = .ok input) :
    input.current :: input.following = (scan text).lexemes := by
  have hne : (scan text).failure = none → (scan text).lexemes ≠ [] := scan_ne_nil
  unfold Input.ofScan at h
  split at h
  · next hlexemes =>
    cases h
    exact hlexemes.symm
  · cases h
  · next hlexemes hfailure => exact absurd hlexemes (hne hfailure)

/-! ### Parsers -/

/-- The token at which an error points, and where it is said to stand. -/
def ParseError.blamed? : ParseError → Option (Token × Nat)
  | .expected _ found position => some (found, position)
  | .unexpected found position => some (found, position)
  | _ => none

/-- If the error points at a token, the token stands there. -/
def ParseError.PointsInto (e : ParseError) (text : String) : Prop :=
  ∀ found position, e.blamed? = some (found, position) → found.StandsAt text position

/-- All tokens of the input stand where they say. -/
def Input.StandsIn (input : Input) (text : String) : Prop :=
  ∀ lexeme ∈ input.current :: input.following, lexeme.token.StandsAt text lexeme.start

theorem Input.StandsIn.pointsInto {input : Input} (h : input.StandsIn text) {e : ParseError}
    (he : e.blamed? = some (input.current.token, input.current.start)) : e.PointsInto text := by
  intro found position hblamed
  obtain ⟨rfl, rfl⟩ := Prod.mk.inj (Option.some.inj (he.symm.trans hblamed))
  exact h _ List.mem_cons_self

theorem ParseError.pointsInto_of_blamed?_eq_none {e : ParseError} (h : e.blamed? = none) :
    e.PointsInto text := by
  intro found position hblamed
  rw [h] at hblamed
  cases hblamed

/-- Parsers keep the tokens where they are, and fail at the current one. -/
theorem simulation_standing (text : String) :
    Simulation (fun i j => i = j ∧ i.StandsIn text) fun x y => x = y ∧ x.PointsInto text where
  token h := by rw [h.1]
  length h := by rw [h.1]
  advance := by
    rintro ⟨current, following, failure⟩ _ ⟨rfl, hstands⟩
    cases following with
    | nil =>
      cases failure with
      | none => exact ⟨rfl, rfl, hstands⟩
      | some e => exact ⟨rfl, ParseError.pointsInto_of_blamed?_eq_none rfl⟩
    | cons next following =>
      exact ⟨rfl, rfl, fun lexeme hmem => hstands lexeme (List.mem_cons_of_mem _ hmem)⟩
  unexpected h := ⟨by rw [h.1], h.2.pointsInto rfl⟩
  expected h _ := ⟨by rw [h.1], h.2.pointsInto rfl⟩
  bareIdentifier _ := ⟨rfl, ParseError.pointsInto_of_blamed?_eq_none rfl⟩
  unknownStage _ := ⟨rfl, ParseError.pointsInto_of_blamed?_eq_none rfl⟩

/-- All tokens of the input for a text stand in it. -/
theorem Input.standsIn_of_ofScan {input : Input} (h : Input.ofScan (scan text) = .ok input) :
    input.StandsIn text := by
  intro lexeme hmem
  rw [Input.eq_lexemes_of_ofScan h] at hmem
  exact standsAt_of_mem_scan hmem

/-- An error for a whole text points into it. -/
theorem Parser.pointsInto_of_parseText {α : Type} {p : Parser α} (hp : p.Uniform) {e : ParseError}
    (h : parseText p text = .error e) : e.PointsInto text := by
  have hwhole : (do
      let result ← p
      expect .eof
      return result : Parser α).Uniform :=
    .bind hp fun _ => .bind (.expect _) fun _ => .pure _
  rw [parseText] at h
  cases hinput : Input.ofScan (scan text) with
  | error e' =>
    -- the first token cannot be read
    rw [hinput] at h
    cases h
    unfold Input.ofScan at hinput
    split at hinput <;> cases hinput
    exact ParseError.pointsInto_of_blamed?_eq_none rfl
  | ok input =>
    have hstands : input.StandsIn text := Input.standsIn_of_ofScan hinput
    -- the input is compared with itself, so that the relation is an invariant
    have halike := hwhole _ _ (simulation_standing text) input input ⟨rfl, hstands⟩
    rw [hinput, ok_bind] at h
    generalize StateT.run _ input = outcome at h halike
    cases outcome with
    | error e' =>
      cases h
      exact halike.2
    | ok result => cases h

/-- **A syntax error points at the token that stands there**: its position is one of the text, all
tokens in front of it can be read, and the token that is read at the position is the one that the
error names. -/
theorem standsAt_of_parse_eq_error {e : ParseError} {found : Token} {position : Nat}
    (h : Expr.parse text = .error e ∨ Query.parse text = .error e)
    (hblamed : e.blamed? = some (found, position)) : found.StandsAt text position := by
  rcases h with h | h
  · exact Parser.pointsInto_of_parseText Parser.uniform_expression h found position hblamed
  · exact Parser.pointsInto_of_parseText Parser.uniform_query h found position hblamed

/-- A name where a string must stand. -/
theorem standsAt_countName :
    Query.parse "$ |> count(name)"
        = .error (.expected "output field name string" (.identifier "name") 11) ∧
      (Token.identifier "name").StandsAt "$ |> count(name)" 11 := by
  have hparse : Query.parse "$ |> count(name)"
      = .error (.expected "output field name string" (.identifier "name") 11) := rfl
  exact ⟨hparse, standsAt_of_parse_eq_error (.inr hparse) rfl⟩

end DocQuery
