import DocQuery.Proofs.Outcome
import DocQuery.Query.Parser

/-!
# What parsers do to the tokens

A parser is judged by the tokens that are left, wherever they stand in the text.  Two kinds of
statements are made, each with one rule for every way in which parsers are built: what follows if a
parser succeeds, and that it does succeed.

## Main definitions

* `Input.Holds` — the tokens that are left in an input, for a text without lexical errors.
* `Parser.Yields` — whatever a parser makes of some tokens satisfies a condition.
* `Parser.Reads` — a parser makes a result of some tokens and leaves others.

## Main results

* `Yields.bind`, `Yields.peek`, `Yields.expect`, … — the rules for the first kind.
* `Reads.bind`, `Reads.peek`, `Reads.expect`, … — the rules for the second kind.
-/

namespace DocQuery

/-- The input holds the tokens and then the end of the text. -/
structure Input.Holds (input : Input) (ts : List Token) : Prop where
  failure : input.failure = none
  tokens : input.current.token :: input.following.map (·.token) = ts ++ [.eof]
  notMem : Token.eof ∉ ts

/-- The token at which a parser looks that has these tokens left. -/
def nextToken (ts : List Token) : Token :=
  ts.headD .eof

@[simp] theorem nextToken_cons (token : Token) (ts : List Token) :
    nextToken (token :: ts) = token := rfl

@[simp] theorem nextToken_nil : nextToken [] = .eof := rfl

theorem eq_cons_of_nextToken {ts : List Token} {token : Token} (h : nextToken ts = token)
    (hne : token ≠ .eof) : ∃ rest, ts = token :: rest := by
  cases ts with
  | nil => exact absurd h.symm hne
  | cons t rest => exact ⟨rest, congrArg (· :: rest) h⟩

namespace Input.Holds

variable {input : Input} {ts : List Token}

theorem current_eq (h : input.Holds ts) : input.current.token = nextToken ts := by
  have htokens := h.tokens
  cases ts with
  | nil => exact (List.cons.inj htokens).1
  | cons t rest => exact (List.cons.inj htokens).1

theorem length_following (h : input.Holds ts) : input.following.length = ts.length := by
  have hlength := congrArg List.length h.tokens
  simpa using hlength

end Input.Holds

namespace Parser

variable {α β : Type}

/-! ### Runs -/

theorem run_peek (input : Input) : peek.run input = .ok (input.current.token, input) := rfl

theorem run_remaining (input : Input) :
    remaining.run input = .ok (input.following.length + 2, input) := rfl

/-- Going on takes the first token away. -/
theorem exists_run_advance {input : Input} {token : Token} {ts : List Token}
    (h : input.Holds (token :: ts)) :
    ∃ after, advance.run input = .ok ((), after) ∧ after.Holds ts := by
  obtain ⟨current, following, failure⟩ := input
  have hfollowing : following.map (·.token) = ts ++ [.eof] := (List.cons.inj h.tokens).2
  cases following with
  | nil => simp at hfollowing
  | cons next following =>
    exact ⟨⟨next, following, failure⟩, rfl, h.failure, hfollowing,
      fun hmem => h.notMem (List.mem_cons_of_mem token hmem)⟩

/-! ### What follows if a parser succeeds -/

/-- Whatever the parser makes of the tokens, the result and the tokens that it leaves satisfy the
condition. -/
def Yields (p : Parser α) (ts : List Token) (post : α → List Token → Prop) : Prop :=
  ∀ input, input.Holds ts → ∀ a after, p.run input = .ok (a, after) →
    ∃ rest, after.Holds rest ∧ post a rest

namespace Yields

variable {p : Parser α} {f : α → Parser β} {ts : List Token} {post : α → List Token → Prop}

theorem mono {post' : α → List Token → Prop} (h : p.Yields ts post)
    (hpost : ∀ a rest, post a rest → post' a rest) : p.Yields ts post' := by
  intro input hinput a after hrun
  obtain ⟨rest, hafter, ha⟩ := h input hinput a after hrun
  exact ⟨rest, hafter, hpost a rest ha⟩

theorem pure {a : α} (h : post a ts) : (pure a : Parser α).Yields ts post := by
  intro input hinput a' after hrun
  cases hrun
  exact ⟨ts, hinput, h⟩

theorem bind {post : β → List Token → Prop}
    (h : p.Yields ts fun a rest => (f a).Yields rest post) : (p >>= f).Yields ts post := by
  intro input hinput b last hrun
  rw [StateT.run_bind] at hrun
  obtain ⟨⟨a, after⟩, hp, hf⟩ := bind_eq_ok_iff.mp hrun
  obtain ⟨rest, hafter, hrest⟩ := h input hinput a after hp
  exact hrest after hafter b last hf

theorem throw {e : ParseError} : (throw e : Parser α).Yields ts post :=
  fun _ _ _ _ hrun => nomatch hrun

theorem unexpected : (unexpected : Parser α).Yields ts post :=
  fun _ _ _ _ hrun => nomatch hrun

theorem missing {what : String} : (missing what : Parser α).Yields ts post :=
  fun _ _ _ _ hrun => nomatch hrun

theorem peek {post : Token → List Token → Prop} (h : post (nextToken ts) ts) :
    Parser.peek.Yields ts post := by
  intro input hinput token after hrun
  cases hrun
  exact ⟨ts, hinput, hinput.current_eq ▸ h⟩

theorem remaining {post : Nat → List Token → Prop} (h : post (ts.length + 2) ts) :
    Parser.remaining.Yields ts post := by
  intro input hinput n after hrun
  cases hrun
  exact ⟨ts, hinput, hinput.length_following ▸ h⟩

theorem advance {token : Token} {post : Unit → List Token → Prop} (h : post () ts) :
    Parser.advance.Yields (token :: ts) post := by
  intro input hinput a after hrun
  obtain ⟨after', hrun', hafter⟩ := exists_run_advance hinput
  rw [hrun'] at hrun
  cases hrun
  exact ⟨ts, hafter, h⟩

/-- A token that must stand somewhere does, if the parser goes on. -/
theorem expect {token : Token} {post : Unit → List Token → Prop} (htoken : token ≠ .eof)
    (h : ∀ rest, ts = token :: rest → post () rest) : (Parser.expect token).Yields ts post := by
  refine bind (peek ?_)
  split
  · next heq =>
    obtain ⟨rest, rfl⟩ := eq_cons_of_nextToken heq htoken
    exact advance (h rest rfl)
  · exact missing

theorem identifier {what : String} {post : String → List Token → Prop}
    (h : ∀ name rest, ts = .identifier name :: rest → post name rest) :
    (Parser.identifier what).Yields ts post := by
  refine bind (peek ?_)
  split
  · next name heq =>
    obtain ⟨rest, rfl⟩ := eq_cons_of_nextToken heq nofun
    exact bind (advance (pure (h name rest rfl)))
  · exact missing

end Yields

/-! ### That a parser succeeds -/

/-- The parser makes the result of the tokens and leaves the rest. -/
def Reads (p : Parser α) (ts : List Token) (a : α) (rest : List Token) : Prop :=
  ∀ input, input.Holds ts → ∃ after, p.run input = .ok (a, after) ∧ after.Holds rest

namespace Reads

variable {p : Parser α} {f : α → Parser β} {ts rest : List Token} {a : α} {b : β}

theorem pure (a : α) (ts : List Token) : (pure a : Parser α).Reads ts a ts :=
  fun input hinput => ⟨input, rfl, hinput⟩

theorem bind {mid : List Token} (h : p.Reads ts a mid) (hf : (f a).Reads mid b rest) :
    (p >>= f).Reads ts b rest := by
  intro input hinput
  obtain ⟨after, hp, hafter⟩ := h input hinput
  obtain ⟨last, hlast, hholds⟩ := hf after hafter
  refine ⟨last, ?_, hholds⟩
  rw [StateT.run_bind, hp]
  exact hlast

theorem peek (ts : List Token) : Parser.peek.Reads ts (nextToken ts) ts := by
  intro input hinput
  exact ⟨input, hinput.current_eq ▸ run_peek input, hinput⟩

theorem remaining (ts : List Token) : Parser.remaining.Reads ts (ts.length + 2) ts := by
  intro input hinput
  exact ⟨input, hinput.length_following ▸ run_remaining input, hinput⟩

theorem advance (token : Token) (ts : List Token) : Parser.advance.Reads (token :: ts) () ts :=
  fun _ hinput => exists_run_advance hinput

theorem expect (token : Token) (ts : List Token) :
    (Parser.expect token).Reads (token :: ts) () ts := by
  refine bind (peek _) ?_
  rw [nextToken_cons, if_pos rfl]
  exact advance token ts

theorem identifier (what name : String) (ts : List Token) :
    (Parser.identifier what).Reads (.identifier name :: ts) name ts :=
  bind (peek _) (bind (advance _ _) (pure name ts))

end Reads

end Parser

end DocQuery
