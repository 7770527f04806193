import Mathlib.Data.List.Chain
import LowestTerms.Failure

/-!
The layers of a read error. Rendering and unwinding are two recursions over the same layers: what is
rendered lists the descriptions from the outside in, and following the sources takes off one of them
at a time, until the first complaint is left, which has no source.
-/

namespace LowestTerms

namespace ReadError

def source : ReadError → Option ReadError
  | wrapped _ inner => some inner
  | bare _ => none
  | reading _ _ => none

inductive Unwinds : Option ReadError → List ReadError → Prop
  | done : Unwinds none []
  | next {error : ReadError} {rest : List ReadError} :
      Unwinds error.source rest → Unwinds (some error) (error :: rest)

def Uncovers (outer inner : ReadError) : Prop :=
  ∃ rest, outer.display = "ParseError: " ++ outer.description ++ ": " ++ rest ∧
    inner.display = "ParseError: " ++ rest

def ending : Option String → String
  | none => ""
  | some text => ": while reading \"" ++ text ++ "\""

theorem uncovers_wrapped (description : String) (inner : ReadError) :
    (wrapped description inner).Uncovers inner := by
  refine ⟨inner.layers, ?_, rfl⟩
  rw [display, layers, String.append_assoc, String.append_assoc]
  rfl

theorem head?_chain (error : ReadError) : error.chain.head? = some error := by
  cases error <;> rfl

theorem chain_unwinds (error : ReadError) : Unwinds (some error) error.chain := by
  induction error with
  | bare description => exact .next .done
  | reading description text => exact .next .done
  | wrapped description inner ih => exact .next ih

theorem chain_uncovers (error : ReadError) : error.chain.IsChain Uncovers := by
  induction error with
  | bare description => exact .singleton _
  | reading description text => exact .singleton _
  | wrapped description inner ih =>
      apply List.IsChain.cons ih
      intro next isNext
      rw [head?_chain, Option.mem_some_iff] at isNext
      rw [← isNext]
      exact uncovers_wrapped description inner

theorem wrapAll_append (error : ReadError) (inner : List String) (outermost : String) :
    error.wrapAll (inner ++ [outermost]) = wrapped outermost (error.wrapAll inner) :=
  List.foldl_append

theorem exists_wrapAll (error : ReadError) : ∃ description text outer,
    error = (innermost description text).wrapAll outer := by
  induction error with
  | bare description => exact ⟨description, none, [], rfl⟩
  | reading description text => exact ⟨description, some text, [], rfl⟩
  | wrapped outermost inner ih =>
      obtain ⟨description, text, outer, rfl⟩ := ih
      refine ⟨description, text, outer ++ [outermost], ?_⟩
      exact (wrapAll_append _ outer outermost).symm

section

variable (description : String) (text : Option String) (outer : List String)

theorem layers_wrapAll : ((innermost description text).wrapAll outer.reverse).layers =
    ": ".intercalate (outer ++ [description]) ++ ending text := by
  induction outer with
  | nil =>
      rw [List.nil_append, String.intercalate_singleton]
      cases text with
      | none => exact String.append_empty.symm
      | some text =>
          change description ++ ": while reading \"" ++ text ++ "\"" = description ++ _
          rw [String.append_assoc, String.append_assoc]
          rfl
  | cons outermost rest ih =>
      rw [List.reverse_cons, wrapAll_append, layers, ih, List.cons_append,
        String.intercalate_cons_of_ne_nil (by simp)]
      simp only [String.append_assoc]

theorem descriptions_chain : ((innermost description text).wrapAll outer.reverse).chain.map
    ReadError.description = outer ++ [description] := by
  induction outer with
  | nil => cases text <;> rfl
  | cons outermost rest ih =>
      rw [List.reverse_cons, wrapAll_append, chain, List.map_cons, ih]
      rfl

theorem getLast?_chain : ((innermost description text).wrapAll outer.reverse).chain.getLast? =
    some (innermost description text) := by
  induction outer with
  | nil => cases text <;> rfl
  | cons outermost rest ih =>
      rw [List.reverse_cons, wrapAll_append, chain, List.getLast?_cons, ih]
      rfl

theorem source_innermost : (innermost description text).source = none := by
  cases text <;> rfl

end

end ReadError

def Failure.source : Failure → Option ReadError
  | unreadable error => some error
  | _ => none

namespace ReadError

/-- Every read error is a first complaint with layers around it. It reads as the descriptions of its
layers, the outermost first, and the text that is complained about. Its sources are as many errors
as there are descriptions, each without the outermost one of the error before. -/
theorem layers_render_and_unwind :
    (∀ error, ∃ description text inner, error = (innermost description text).wrapAll inner) ∧
    ∀ (description : String) (text : Option String) (inner : List String),
      let error := (innermost description text).wrapAll inner
      let descriptions := inner.reverse ++ [description]
      let failure := Failure.unreadable error
      error.display = "ParseError: " ++ ": ".intercalate descriptions ++ ending text ∧
      failure.display = error.display ∧
      ∃ chain, Unwinds failure.source chain ∧
        failure.sources = chain.map display ∧
        chain.length = inner.length + 1 ∧
        failure.sources.head? = some failure.display ∧
        chain.map ReadError.description = descriptions ∧
        chain.IsChain Uncovers ∧
        chain.getLast? = some (innermost description text) ∧
        (innermost description text).source = none := by
  refine ⟨exists_wrapAll, ?_⟩
  intro description text inner error descriptions failure
  have outsideIn : error = (innermost description text).wrapAll inner.reverse.reverse := by
    rw [List.reverse_reverse]
  have rendered : error.layers = ": ".intercalate descriptions ++ ending text := by
    rw [outsideIn, layers_wrapAll]
  have described : error.chain.map ReadError.description = descriptions := by
    rw [outsideIn, descriptions_chain]
  have last : error.chain.getLast? = some (innermost description text) := by
    rw [outsideIn, getLast?_chain]
  refine ⟨?display, rfl, error.chain, error.chain_unwinds, rfl, ?length, ?first, described,
    error.chain_uncovers, last, source_innermost description text⟩
  case display => rw [display, rendered, String.append_assoc]
  case length => simpa [descriptions] using congrArg List.length described
  case first =>
    change (error.chain.map display).head? = some error.display
    rw [List.head?_map, head?_chain, Option.map_some]

example : (wrapped "could not read numerator" (reading "expected digits" "")).chain.map display =
    ["ParseError: could not read numerator: expected digits: while reading \"\"",
      "ParseError: expected digits: while reading \"\""] := by decide

end ReadError

end LowestTerms
