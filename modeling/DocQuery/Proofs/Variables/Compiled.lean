import DocQuery.Proofs.Compile.Compiler
import DocQuery.Proofs.Variables.Evaluation
import DocQuery.Proofs.Variables.Revision
import Mathlib

/-!
# Compiled pipelines are scoped

Lowering makes scoped pipelines and both passes keep them so.  So whatever a compiler hands out, the
element at hand is a variable only inside the condition or the body that binds it, and the pipeline
runs on any documents without missing a variable.

## Main results

* `scoped_compile` — what a text is compiled to is scoped, with and without each pass.
* `Compiler.scoped_of_mem_answers` — **so is all that a compiler hands out, and it finds its
  variables.**
-/

namespace DocQuery

/-- The pipeline of a text before any pass. -/
theorem scoped_lowerText (context : Context) (source : String) :
    Gives (lowerText context source) fun lowered =>
      lowered.2.Scoped ∧ lowered.2.wellFormed = true := by
  have hquery (query : Query) :
      Gives (lowerQuery context query) fun p => p.Scoped ∧ p.wellFormed = true :=
    fun p hp => ⟨scoped_lowerQuery context query p hp, wellFormed_lowerQuery context query p hp⟩
  have hcondition (e : Expr) :
      Gives (lowerCondition context .document e) fun f => f.Scoped ∧ f.wellFormed = true :=
    fun f hf => ⟨scoped_lowerCondition context .document e f hf,
      wellFormed_lowerCondition context .document e f hf⟩
  unfold lowerText
  split
  · exact Gives.bind_any fun query => (hquery query).mapError.bind fun p hp => .ok hp
  · refine Gives.bind_any fun e => (hcondition e).mapError.bind fun f hf => .ok ⟨?_, ?_⟩
    · exact (Pipeline.scoped_iff _).mpr (List.forall_mem_singleton.mpr hf.1)
    · exact (Pipeline.wellFormed_iff _).mpr (List.forall_mem_singleton.mpr hf.2)

/-- A pass that keeps a property of pipelines does so whether it is asked for or not. -/
theorem gives_runPass {asked : Bool} {pass : Pipeline → Except ArgumentError (Revised Pipeline)}
    {holds : Pipeline → Prop} {p : Pipeline} (h : holds p)
    (hpass : Gives (pass p) fun r => holds (r.resolve p)) : Gives (runPass asked pass p) holds := by
  unfold runPass
  split
  · exact hpass.mapError.bind fun r hr => .ok hr
  · exact .ok h

/-- What a text is compiled to is scoped, whichever passes are asked for. -/
theorem scoped_compile (context : Context) (options : CompileOptions) (source : String) :
    Gives (compile context options source) fun compiled => compiled.pipeline.Scoped := by
  refine (scoped_lowerText context source).bind fun lowered hlowered => ?_
  have hsimplified : Gives (runPass options.simplify simplify lowered.2)
      fun p => p.Scoped ∧ p.wellFormed = true :=
    gives_runPass hlowered (hlowered.1.simplify hlowered.2)
  refine hsimplified.bind fun simple hsimple => ?_
  exact (gives_runPass hsimple.1 (hsimple.1.coalesce hsimple.2)).bind
    fun merged hmerged => .ok hmerged

namespace Compiler

/-- Whichever texts a compiler has been asked for, with whichever constants, parameters and passes:
in the pipelines that it hands out, each variable other than those for the document is bound by a
`filter` or `map` around it, and running them on any documents does not fail for want of a
variable. -/
theorem scoped_of_mem_answers (context : Context) (options : CompileOptions)
    (requests : List Request) (handle : Handle)
    (h : .ok handle ∈ (new context options).answers requests) :
    handle.compiled.pipeline.Scoped ∧
      ∀ documents name, handle.compiled.pipeline.run documents ≠ .error (.unboundVariable name) := by
  obtain ⟨text, htext⟩ := exists_compile_eq_of_mem_answers h
  have hscoped := scoped_compile context options (Text.trim text) handle.compiled htext
  exact ⟨hscoped, fun documents => hscoped.run documents⟩

/-- The element of one array is known inside the condition on the elements of another one, and hides
it there. -/
theorem scoped_of_mem_answers_nested :
    let text := "$ |> ~($.a := @.b.any(@.c == $.d), $.e := ?(@.f))"
    let item : Expression := .unary .anyElementTrue (.map (.field (some "this") "b") "this"
      (.binary .eq (.field (some "this") "c") (.field none "d")))
    let stage : Stage := .addFields [("a", .map (.field none "a") "this" item),
      ("e", .filter (.field none "e") "this" (.field (some "this") "f"))]
    let handle : Handle := ⟨7, text, .query, ⟨[stage]⟩⟩
    .ok handle ∈ (new .empty { coalesce := true }).answers [.compile (fun _ => 0) 7 text] ∧
      handle.compiled.pipeline.Scoped ∧
      ∀ documents name, handle.compiled.pipeline.run documents ≠ .error (.unboundVariable name) := by
  intro text item stage handle
  have hanswers : (new .empty { coalesce := true }).answers [.compile (fun _ => 0) 7 text]
      = [.ok handle] := by cbv
  have hmem : .ok handle ∈ (new .empty { coalesce := true }).answers
      [.compile (fun _ => 0) 7 text] := by
    rw [hanswers]
    exact List.mem_singleton_self _
  exact ⟨hmem, scoped_of_mem_answers _ _ _ _ hmem⟩

end Compiler

end DocQuery
